import Mathlib.Data.List.Nodup

/-! # The first match of a list

Walking a list up to the first element with some property, and writing that element. -/

namespace FirstMatch

variable {α β : Type*}

/-- The list with its first match replaced. -/
def replace (found : α → Bool) (entry : α) : List α → List α
  | [] => []
  | x :: rest => if found x then entry :: rest else x :: replace found entry rest

variable {found : α → Bool} {entry old x : α} {xs : List α} {key : α → β}

/-- Replacing an entry brings in no other. -/
theorem mem_of_mem_replace (member : x ∈ replace found entry xs) : x = entry ∨ x ∈ xs := by
  induction xs with
  | nil => exact .inr member
  | cons y rest ih =>
      rw [replace] at member
      split_ifs at member
      · rcases List.mem_cons.mp member with same | behind
        · exact .inl same
        · exact .inr (List.mem_cons_of_mem y behind)
      · rcases List.mem_cons.mp member with same | behind
        · exact .inr (same ▸ List.mem_cons_self)
        · exact (ih behind).imp_right (List.mem_cons_of_mem y)

/-- Where something is found, the new entry gets in. -/
theorem mem_replace (first : xs.find? found = some old) : entry ∈ replace found entry xs := by
  induction xs with
  | nil => exact (Option.some_ne_none old first.symm).elim
  | cons y rest ih =>
      rw [replace]
      split_ifs with here
      · exact List.mem_cons_self
      · rw [List.find?_cons_of_neg here] at first
        exact List.mem_cons_of_mem y (ih first)

/-- The first match is replaced in its place. -/
theorem replace_eq_append (first : xs.find? found = some old) :
    ∃ before after, xs = before ++ old :: after ∧
      ∀ entry, replace found entry xs = before ++ entry :: after := by
  induction xs with
  | nil => exact (Option.some_ne_none old first.symm).elim
  | cons y rest ih =>
      by_cases here : found y = true
      · rw [List.find?_cons_of_pos here] at first
        refine ⟨[], rest, by rw [Option.some.inj first, List.nil_append], fun entry => ?_⟩
        rw [replace, if_pos here, List.nil_append]
      · rw [List.find?_cons_of_neg here] at first
        obtain ⟨before, after, split, replaced⟩ := ih first
        refine ⟨y :: before, after, by rw [split, List.cons_append], fun entry => ?_⟩
        rw [replace, if_neg here, replaced, List.cons_append]

/-- A key that the new element shares with the old one is the same all along the list. -/
theorem map_replace (first : xs.find? found = some old) (same : key entry = key old) :
    (replace found entry xs).map key = xs.map key := by
  induction xs with
  | nil => rfl
  | cons y rest ih =>
      rw [replace]
      split_ifs with here
      · rw [List.find?_cons_of_pos here] at first
        rw [List.map_cons, List.map_cons, same, Option.some.inj first]
      · rw [List.find?_cons_of_neg here] at first
        rw [List.map_cons, List.map_cons, ih first]

/-- Elements with another key stay. -/
theorem mem_replace_of_ne (first : xs.find? found = some old) (member : x ∈ xs)
    (different : key x ≠ key old) : x ∈ replace found entry xs := by
  induction xs with
  | nil => exact member
  | cons y rest ih =>
      rw [replace]
      split_ifs with here
      · rw [List.find?_cons_of_pos here] at first
        rcases List.mem_cons.mp member with same | behind
        · rw [same, Option.some.inj first] at different
          exact (different rfl).elim
        · exact List.mem_cons_of_mem entry behind
      · rw [List.find?_cons_of_neg here] at first
        rcases List.mem_cons.mp member with same | behind
        · rw [same]
          exact List.mem_cons_self
        · exact List.mem_cons_of_mem y (ih first behind)

/-- Where keys are unique, the old element is gone. -/
theorem ne_of_mem_replace (unique : (xs.map key).Nodup) (first : xs.find? found = some old)
    (same : key entry = key old) (member : x ∈ replace found entry xs) :
    x = entry ∨ x ∈ xs ∧ key x ≠ key old := by
  by_cases new : x = entry
  · exact .inl new
  have inside := (mem_of_mem_replace member).resolve_left new
  refine .inr ⟨inside, fun equal => new ?_⟩
  have keys : ((replace found entry xs).map key).Nodup := by
    rw [map_replace first same]
    exact unique
  exact List.inj_on_of_nodup_map keys member (mem_replace first) (equal.trans same.symm)

/-- A member with the key makes the search find one with it. -/
theorem find?_key [DecidableEq β] {value : β} (member : x ∈ xs) (same : key x = value) :
    ∃ old, xs.find? (fun y => decide (key y = value)) = some old ∧ old ∈ xs ∧ key old = value := by
  have present : (xs.find? fun y => decide (key y = value)).isSome = true := by
    rw [List.find?_isSome]
    exact ⟨x, member, decide_eq_true same⟩
  obtain ⟨old, first⟩ := Option.isSome_iff_exists.mp present
  have holds := List.find?_some first
  exact ⟨old, first, List.mem_of_find?_eq_some first, of_decide_eq_true holds⟩

end FirstMatch
