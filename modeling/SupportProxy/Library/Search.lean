import Mathlib.Data.List.Infix

/-! # The first occurrence of a string in another

A search in a front part finds what it finds in the whole, as long as the occurrence lies
inside of the part. -/

namespace Search

variable {α : Type*} [DecidableEq α]

/-- Where a string first occurs in another. -/
def search (needle : List α) : List α → Option Nat
  | [] => if needle = [] then some 0 else none
  | x :: rest => if needle <+: x :: rest then some 0 else (search needle rest).map (· + 1)

variable {needle hay : List α} {position count : Nat}

/-- An occurrence lies inside. -/
theorem search_le (found : search needle hay = some position) :
    position + needle.length ≤ hay.length := by
  induction hay generalizing position with
  | nil =>
      rw [search] at found
      split_ifs at found with empty
      rw [← Option.some.inj found, empty]
      exact Nat.le_refl _
  | cons x rest ih =>
      rw [search] at found
      split_ifs at found with here
      · rw [← Option.some.inj found, Nat.zero_add]
        exact here.length_le
      · obtain ⟨behind, inside, rfl⟩ := Option.map_eq_some_iff.mp found
        have bound := ih inside
        rw [List.length_cons]
        omega

/-- A front part is searched like the whole. -/
theorem search_take (nonempty : needle ≠ []) :
    search needle (hay.take count) = some position ↔
      search needle hay = some position ∧ position + needle.length ≤ count := by
  induction hay generalizing position count with
  | nil =>
      rw [List.take_nil, search, if_neg nonempty]
      exact ⟨by simp, fun both => both.1⟩
  | cons x rest ih =>
      cases count with
      | zero =>
          rw [List.take_zero, search, if_neg nonempty]
          have long := List.length_pos_iff.mpr nonempty
          exact ⟨by simp, fun both => absurd both.2 (by omega)⟩
      | succ count =>
          have front : needle <+: x :: rest.take count ↔
              needle <+: x :: rest ∧ needle.length ≤ count + 1 := by
            have part : x :: rest.take count = (x :: rest).take (count + 1) :=
              List.take_succ_cons.symm
            rw [part, List.prefix_take_iff]
          rw [List.take_succ_cons, search, search]
          by_cases here : needle <+: x :: rest
          · rw [if_pos here]
            by_cases short : needle.length ≤ count + 1
            · rw [if_pos (front.mpr ⟨here, short⟩)]
              refine ⟨fun same => ⟨same, ?_⟩, fun both => both.1⟩
              rw [← Option.some.inj same]
              omega
            · rw [if_neg fun inside => short (front.mp inside).2]
              constructor
              · intro found
                obtain ⟨behind, inside, rfl⟩ := Option.map_eq_some_iff.mp found
                have bound := search_le inside
                rw [List.length_take] at bound
                omega
              · rintro ⟨same, bound⟩
                rw [← Option.some.inj same] at bound
                omega
          · rw [if_neg here, if_neg fun inside => here (front.mp inside).1]
            constructor
            · intro found
              obtain ⟨behind, inside, rfl⟩ := Option.map_eq_some_iff.mp found
              obtain ⟨same, bound⟩ := ih.mp inside
              exact ⟨by rw [same, Option.map_some], by omega⟩
            · rintro ⟨found, bound⟩
              obtain ⟨behind, inside, rfl⟩ := Option.map_eq_some_iff.mp found
              rw [ih.mpr ⟨inside, by omega⟩, Option.map_some]

end Search
