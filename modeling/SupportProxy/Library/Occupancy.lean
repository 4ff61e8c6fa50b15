import Mathlib.Data.Finset.Card
import Mathlib.Data.Finset.Range
import Mathlib.Data.Finset.Basic
import Mathlib.Logic.Function.Basic

/-! # Occupied places of a numbered table

A table of `size` places is a function that says which ones are occupied.
`occupied` is the finite set of them; taking a free place adds one to its size,
freeing an occupied one takes one off. -/

namespace Occupancy

variable {size : Nat} {used : Nat → Bool} {place : Nat}

/-- The occupied places among the first `size`. -/
def occupied (size : Nat) (used : Nat → Bool) : Finset Nat :=
  (Finset.range size).filter fun place => used place = true

/-- The occupied places are the used ones below the bound. -/
theorem mem_occupied : place ∈ occupied size used ↔ place < size ∧ used place = true := by
  simp only [occupied, Finset.mem_filter, Finset.mem_range]

/-- No more places are occupied than there are. -/
theorem card_occupied_le (size : Nat) (used : Nat → Bool) : (occupied size used).card ≤ size := by
  have bound := Finset.card_filter_le (Finset.range size) fun place => used place = true
  rwa [Finset.card_range] at bound

/-- Taking a free place occupies one more. -/
theorem card_take (inside : place < size) (free : used place = false) :
    (occupied size (Function.update used place true)).card = (occupied size used).card + 1 := by
  have absent : place ∉ occupied size used := by
    intro member
    rw [(mem_occupied.mp member).2] at free
    exact Bool.noConfusion free
  have same : occupied size (Function.update used place true) =
      insert place (occupied size used) := by
    ext other
    rw [Finset.mem_insert, mem_occupied, mem_occupied]
    by_cases equal : other = place
    · subst equal
      simp only [Function.update_self, inside, and_self, true_or]
    · simp only [Function.update_of_ne equal, equal, false_or]
  rw [same, Finset.card_insert_of_notMem absent]

/-- Releasing a taken place occupies one fewer. -/
theorem card_release (inside : place < size) (taken : used place = true) :
    (occupied size (Function.update used place false)).card + 1 = (occupied size used).card := by
  have present : place ∈ occupied size used := mem_occupied.mpr ⟨inside, taken⟩
  have same : occupied size (Function.update used place false) =
      (occupied size used).erase place := by
    ext other
    rw [Finset.mem_erase, mem_occupied, mem_occupied]
    by_cases equal : other = place
    · subst equal
      simp only [Function.update_self, Bool.false_eq_true, and_false, ne_eq, not_true_eq_false,
        false_and]
    · simp only [Function.update_of_ne equal, ne_eq, equal, not_false_eq_true, true_and]
  rw [same]
  exact Finset.card_erase_add_one present

/-- The places before the first free one are all occupied. -/
theorem first_free_le (inside : place < size) (before : ∀ earlier < place, used earlier = true) :
    place ≤ (occupied size used).card := by
  have subset : Finset.range place ⊆ occupied size used := by
    intro earlier member
    have below := Finset.mem_range.mp member
    exact mem_occupied.mpr ⟨below.trans inside, before earlier below⟩
  have bound := Finset.card_le_card subset
  rwa [Finset.card_range] at bound

/-- A free place keeps the count below the bound. -/
theorem card_lt_of_free (inside : place < size) (free : used place = false) :
    (occupied size used).card < size := by
  have bound := card_occupied_le size (Function.update used place true)
  rw [card_take inside free] at bound
  exact bound

/-- As many occupied places as there are places. -/
theorem all_used_of_card (full : size ≤ (occupied size used).card) :
    ∀ place < size, used place = true := by
  intro place inside
  by_contra unused
  rw [Bool.not_eq_true] at unused
  have room := card_lt_of_free inside unused
  omega

end Occupancy
