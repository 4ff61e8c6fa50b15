import Mathlib.Data.List.DropRight

/-! # Lists up to trailing padding

A format that drops trailing padding when it writes and adds it when it reads
keeps a list up to that padding only. -/

namespace Padding

variable {α : Type*} [DecidableEq α] (pad : α)

/-- The list without its trailing padding. -/
def strip (list : List α) : List α := list.rdropWhile fun element => decide (element = pad)

/-- Equal up to trailing padding. -/
def Same (first second : List α) : Prop := strip pad first = strip pad second

instance (first second : List α) : Decidable (Same pad first second) :=
  inferInstanceAs (Decidable (_ = _))

/-- Trailing padding removed, but for a first element. -/
def trim (list : List α) : List α :=
  if strip pad list = [] then list.take 1 else strip pad list

/-- Padding added up to a length. -/
def fill (length : Nat) (list : List α) : List α :=
  list ++ List.replicate (length - list.length) pad

variable {pad}

/-- Stripping leaves a front part. -/
theorem strip_front (list : List α) : strip pad list <+: list := List.rdropWhile_prefix _ _

/-- Stripping leaves nothing of pads alone. -/
theorem strip_eq_nil {list : List α} : strip pad list = [] ↔ ∀ element ∈ list, element = pad := by
  simp only [strip, List.rdropWhile_eq_nil_iff, decide_eq_true_eq]

/-- The last element goes where it is a pad. -/
theorem strip_concat (front : List α) (last : α) :
    strip pad (front ++ [last]) = if last = pad then strip pad front else front ++ [last] := by
  simp only [strip, List.rdropWhile_concat, decide_eq_true_eq]

/-- Pads behind a list make no difference. -/
theorem strip_append {front back : List α} (pads : ∀ element ∈ back, element = pad) :
    strip pad (front ++ back) = strip pad front := by
  induction back using List.reverseRecOn with
  | nil => rw [List.append_nil]
  | append_singleton back last ih =>
      have isPad : last = pad := pads last (by simp)
      have inner := ih fun element member => pads element (List.mem_append_left _ member)
      rw [← List.append_assoc, strip_concat, if_pos isPad, inner]

/-- A list is its stripped part and padding. -/
theorem exists_pads (pad : α) (list : List α) :
    ∃ back, list = strip pad list ++ back ∧ ∀ element ∈ back, element = pad := by
  induction list using List.reverseRecOn with
  | nil => exact ⟨[], rfl, by simp⟩
  | append_singleton front last ih =>
      by_cases isPad : last = pad
      · obtain ⟨back, split, pads⟩ := ih
        have stripped : strip pad (front ++ [last]) = strip pad front :=
          strip_append fun element member => (List.mem_singleton.mp member).trans isPad
        refine ⟨back ++ [last], ?_, ?_⟩
        · rw [stripped, ← List.append_assoc, ← split]
        · intro element member
          rcases List.mem_append.mp member with inBack | isLast
          · exact pads element inBack
          · exact (List.mem_singleton.mp isLast).trans isPad
      · have kept : strip pad (front ++ [last]) = front ++ [last] :=
          (strip_concat front last).trans (if_neg isPad)
        exact ⟨[], by rw [kept, List.append_nil], by simp⟩

/-- A list is its stripped part, filled up again. -/
theorem fill_strip (list : List α) : fill pad list.length (strip pad list) = list := by
  obtain ⟨back, split, pads⟩ := exists_pads pad list
  have lengths := congrArg List.length split
  rw [List.length_append] at lengths
  rw [fill, lengths, Nat.add_sub_cancel_left, ← List.eq_replicate_iff.mpr ⟨rfl, pads⟩]
  exact split.symm

/-- Cutting a list keeps it up to padding exactly when only padding is cut off. -/
theorem same_take_iff (count : Nat) (list : List α) :
    Same pad (list.take count) list ↔ ∀ element ∈ list.drop count, element = pad := by
  constructor
  · intro same element member
    obtain ⟨back, split, pads⟩ := exists_pads pad list
    have short : (strip pad list).length ≤ count := by
      rw [← show strip pad (list.take count) = strip pad list from same]
      exact (strip_front _).length_le.trans (List.length_take_le _ _)
    rw [split, List.drop_append, List.drop_eq_nil_of_le short, List.nil_append] at member
    exact pads element (List.drop_subset _ _ member)
  · intro pads
    have whole : strip pad (list.take count ++ list.drop count) = strip pad (list.take count) :=
      strip_append pads
    rw [List.take_append_drop] at whole
    exact whole.symm

/-- Trimming leaves the same list up to pads. -/
theorem same_trim (list : List α) : Same pad (trim pad list) list := by
  unfold trim
  by_cases empty : strip pad list = []
  · rw [if_pos empty]
    have pads := strip_eq_nil.mp empty
    have first : strip pad (list.take 1) = [] :=
      strip_eq_nil.mpr fun element member => pads element (List.take_subset _ _ member)
    exact first.trans empty.symm
  · rw [if_neg empty]
    exact List.rdropWhile_idempotent _ _

/-- Filling leaves the same list up to pads. -/
theorem same_fill (length : Nat) (list : List α) : Same pad (fill pad length list) list :=
  strip_append fun _ member => List.eq_of_mem_replicate member

/-- Trimming makes no list longer. -/
theorem trim_length_le (list : List α) : (trim pad list).length ≤ list.length := by
  unfold trim
  by_cases empty : strip pad list = []
  · rw [if_pos empty]
    exact (List.length_take_le' _ _)
  · rw [if_neg empty]
    exact (strip_front _).length_le

omit [DecidableEq α] in
/-- What is cut off a filled list is what is cut off the list, and padding. -/
theorem drop_fill_iff (count length : Nat) (list : List α) :
    (∀ element ∈ (fill pad length list).drop count, element = pad) ↔
      ∀ element ∈ list.drop count, element = pad := by
  constructor
  · intro pads element member
    refine pads element ?_
    rw [fill, List.drop_append]
    exact List.mem_append_left _ member
  · intro pads element member
    rw [fill, List.drop_append] at member
    rcases List.mem_append.mp member with inList | padding
    · exact pads element inList
    · exact List.eq_of_mem_replicate (List.drop_subset _ _ padding)

end Padding
