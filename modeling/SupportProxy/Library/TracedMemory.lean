import Mathlib.Data.List.Range
import Mathlib.Logic.Function.Basic

/-! # Memory with its accesses

A memory that remembers which of its places have been read and written, so that what a program
touches can be stated. Copies are made place after place; `InBounds` says that nothing from a
bound on has been touched. -/

variable {α : Type*}

inductive Access
  | read (index : Nat)
  | write (index : Nat)

def Access.index : Access → Nat
  | .read index | .write index => index

/-- The accesses are listed with the newest one first. -/
structure TracedMemory (α : Type*) where
  memory : Nat → α
  accesses : List Access

namespace TracedMemory

variable (index start count bound : Nat) (traced : TracedMemory α)

/-- Nothing from the bound on has been touched. -/
def InBounds : Prop := ∀ access ∈ traced.accesses, access.index < bound

def load : α × TracedMemory α :=
  (traced.memory index, { traced with accesses := .read index :: traced.accesses })

def store (cell : α) : TracedMemory α :=
  ⟨Function.update traced.memory index cell, .write index :: traced.accesses⟩

/-- `memcpy` from the memory. -/
def loadAll : Nat → Nat → TracedMemory α → List α × TracedMemory α
  | _, 0, traced => ([], traced)
  | start, count + 1, traced =>
      let (cell, traced) := traced.load start
      let (rest, traced) := loadAll (start + 1) count traced
      (cell :: rest, traced)

/-- `memcpy` to the memory. -/
def storeAll : Nat → List α → TracedMemory α → TracedMemory α
  | _, [], traced => traced
  | start, cell :: rest, traced => storeAll (start + 1) rest (traced.store start cell)

/-- `memmove` inside of the memory. -/
def move (target source count : Nat) (traced : TracedMemory α) : TracedMemory α :=
  let (cells, traced) := loadAll source count traced
  storeAll target cells traced

/-- The first places of the memory. -/
def contents (memory : Nat → α) (count : Nat) : List α := (List.range count).map memory

variable {index start count bound traced}

@[simp] theorem contents_length (memory : Nat → α) (count : Nat) :
    (contents memory count).length = count := by
  rw [contents, List.length_map, List.length_range]

/-- What is held at an index. -/
theorem contents_getElem? {memory : Nat → α} (inside : index < count) :
    (contents memory count)[index]? = some (memory index) := by
  rw [contents, List.getElem?_map, List.getElem?_range inside, Option.map_some]

/-- The contents depend on the cells below the count only. -/
theorem contents_congr {first second : Nat → α}
    (same : ∀ place < count, first place = second place) :
    contents first count = contents second count :=
  List.map_congr_left fun place listed => same place (List.mem_range.mp listed)

@[simp] theorem inBounds_load :
    (traced.load index).2.InBounds bound ↔ index < bound ∧ traced.InBounds bound :=
  List.forall_mem_cons

@[simp] theorem inBounds_store {cell : α} :
    (traced.store index cell).InBounds bound ↔ index < bound ∧ traced.InBounds bound :=
  List.forall_mem_cons

@[simp] theorem load_memory : (traced.load index).2.memory = traced.memory := rfl

/-- A store changes one cell. -/
theorem store_memory (cell : α) (place : Nat) :
    (traced.store index cell).memory place =
      if place = index then cell else traced.memory place :=
  Function.update_apply ..

@[simp] theorem loadAll_memory : (loadAll start count traced).2.memory = traced.memory := by
  induction count generalizing start traced with
  | zero => rfl
  | succ count ih => exact ih

/-- The cells that are loaded. -/
theorem loadAll_cells :
    (loadAll start count traced).1 =
    contents (fun place => traced.memory (start + place)) count := by
  induction count generalizing start traced with
  | zero => rfl
  | succ count ih =>
      have rest := @ih (start + 1) (traced.load start).2
      rw [contents, List.range_succ_eq_map, List.map_cons, List.map_map]
      refine congrArg (traced.memory start :: ·) (rest.trans ?_)
      rw [contents]
      refine List.map_congr_left fun place _ => ?_
      exact congrArg traced.memory (Nat.add_right_comm start 1 place)

@[simp] theorem loadAll_length : (loadAll start count traced).1.length = count := by
  rw [loadAll_cells, contents_length]

/-- Where a `memcpy` out of the memory stays. -/
theorem inBounds_loadAll : (loadAll start count traced).2.InBounds bound ↔
    traced.InBounds bound ∧ (count = 0 ∨ start + count ≤ bound) := by
  induction count generalizing start traced with
  | zero => exact (and_iff_left (.inl rfl)).symm
  | succ count ih =>
      rw [loadAll]
      dsimp only
      rw [ih, inBounds_load, and_comm (a := start < bound), and_assoc]
      refine and_congr_right fun _ => ?_
      omega

/-- The memory after a `memcpy` into it. -/
theorem storeAll_memory (cells : List α) (place : Nat) :
    (storeAll start cells traced).memory place =
      if start ≤ place then (cells[place - start]?).getD (traced.memory place)
      else traced.memory place := by
  induction cells generalizing start traced with
  | nil =>
      rw [storeAll, List.getElem?_nil, Option.getD_none, ite_self]
  | cons cell rest ih =>
      rw [storeAll, ih, store_memory]
      rcases Nat.lt_trichotomy place start with below | rfl | above
      · rw [if_neg (by omega), if_neg (by omega), if_neg (by omega)]
      · rw [if_neg (by omega), if_pos rfl, if_pos (Nat.le_refl _), Nat.sub_self]
        rfl
      · have next : place - start = (place - (start + 1)) + 1 := by omega
        rw [if_pos (by omega), if_neg (by omega), if_pos (by omega), next,
          List.getElem?_cons_succ]

/-- Where a `memcpy` into the memory stays. -/
theorem inBounds_storeAll {cells : List α} : (storeAll start cells traced).InBounds bound ↔
    traced.InBounds bound ∧ (cells.length = 0 ∨ start + cells.length ≤ bound) := by
  induction cells generalizing start traced with
  | nil => exact (and_iff_left (.inl rfl)).symm
  | cons cell rest ih =>
      rw [storeAll, ih, inBounds_store, and_comm (a := start < bound), and_assoc, List.length_cons]
      refine and_congr_right fun _ => ?_
      omega

/-- Where a `memmove` stays. -/
theorem inBounds_move {target source : Nat} : (move target source count traced).InBounds bound ↔
    traced.InBounds bound ∧ (count = 0 ∨ source + count ≤ bound ∧ target + count ≤ bound) := by
  rw [move]
  dsimp only
  rw [inBounds_storeAll, inBounds_loadAll, loadAll_length, and_assoc]
  refine and_congr_right fun _ => ?_
  omega

/-- The memory after a `memmove`, whose two parts may overlap. -/
theorem move_memory {target source : Nat} (place : Nat) :
    (move target source count traced).memory place =
      if target ≤ place ∧ place < target + count then traced.memory (source + (place - target))
      else traced.memory place := by
  rw [move]
  dsimp only
  rw [storeAll_memory, loadAll_memory, loadAll_cells]
  by_cases from_ : target ≤ place
  · rw [if_pos from_]
    by_cases inside : place < target + count
    · rw [if_pos ⟨from_, inside⟩, contents_getElem? (by omega), Option.getD_some]
    · rw [if_neg (fun both => inside both.2), List.getElem?_eq_none, Option.getD_none]
      rw [contents_length]
      omega
  · rw [if_neg from_, if_neg (fun both => from_ both.1)]

end TracedMemory
