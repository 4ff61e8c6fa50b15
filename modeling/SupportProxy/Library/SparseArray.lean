import Mathlib.Algebra.Notation.Defs
import Mathlib.Data.List.Basic
import Mathlib.Data.BitVec
import Mathlib.Tactic.Ext

/-! # Zero-extended arrays

An array that reads as zero from its size on. Positioned writes may leave a
hole, which reads as zero, so the same structure serves as a sparse file and as
a bitmap grown on demand. -/

/-- A growable array whose cells from `size` on are zero. -/
structure SparseArray (α : Type*) [Zero α] where
  size : Nat
  cell : Nat → α
  beyond : ∀ index, size ≤ index → cell index = 0

namespace SparseArray

variable {α : Type*} [Zero α]

def empty : SparseArray α where
  size := 0
  cell := fun _ => 0
  beyond := fun _ _ => rfl

/-- Grow to at least `size` cells. -/
def grow (array : SparseArray α) (size : Nat) : SparseArray α where
  size := max array.size size
  cell := array.cell
  beyond := fun index outside => array.beyond index (le_trans (Nat.le_max_left _ _) outside)

/-- Write `items` from `offset` on. -/
def write (array : SparseArray α) (offset : Nat) (items : List α) : SparseArray α where
  size := if items = [] then array.size else max array.size (offset + items.length)
  cell := fun index =>
    if offset ≤ index ∧ index < offset + items.length then items.getD (index - offset) 0
    else array.cell index
  beyond := by
    intro index outside
    by_cases written : items = []
    · subst written
      rw [if_neg (by simp only [List.length_nil, Nat.add_zero]; omega)]
      exact array.beyond index (by simpa only [↓reduceIte] using outside)
    · simp only [written, ↓reduceIte] at outside
      rw [if_neg (by omega)]
      exact array.beyond index (by omega)

/-- The `count` cells from `offset` on. -/
def read (array : SparseArray α) (offset count : Nat) : List α :=
  (List.range count).map fun index => array.cell (offset + index)

@[simp] theorem grow_cell (array : SparseArray α) (size : Nat) :
    (array.grow size).cell = array.cell := rfl

@[simp] theorem grow_size (array : SparseArray α) (size : Nat) :
    (array.grow size).size = max array.size size := rfl

@[simp] theorem read_length (array : SparseArray α) (offset count : Nat) :
    (array.read offset count).length = count := by
  rw [read, List.length_map, List.length_range]

/-- What is read at an index. -/
theorem read_getElem? (array : SparseArray α) (offset : Nat) {count index : Nat}
    (inside : index < count) :
    (array.read offset count)[index]? = some (array.cell (offset + index)) := by
  rw [read, List.getElem?_map, List.getElem?_range inside, Option.map_some]

/-- Arrays with the same cells in a range read the same there. -/
theorem read_congr {array other : SparseArray α} {offset count : Nat}
    (same : ∀ index < count, array.cell (offset + index) = other.cell (offset + index)) :
    array.read offset count = other.read offset count := by
  apply List.map_congr_left
  intro index member
  exact same index (List.mem_range.mp member)

/-- What was written is there. -/
theorem write_cell_inside (array : SparseArray α) (offset : Nat) (items : List α) {index : Nat}
    (inside : index < items.length) :
    (array.write offset items).cell (offset + index) = items[index] := by
  have covered : offset ≤ offset + index ∧ offset + index < offset + items.length := by omega
  rw [write]
  dsimp only
  rw [if_pos covered, Nat.add_sub_cancel_left, List.getD_eq_getElem?_getD,
    List.getElem?_eq_getElem inside, Option.getD_some]

/-- All other cells stay as they were. -/
theorem write_cell_outside (array : SparseArray α) {offset index : Nat} {items : List α}
    (outside : index < offset ∨ offset + items.length ≤ index) :
    (array.write offset items).cell index = array.cell index :=
  if_neg (by omega)

/-- An array never shrinks by a write. -/
theorem size_le_write (array : SparseArray α) (offset : Nat) (items : List α) :
    array.size ≤ (array.write offset items).size := by
  rw [write]
  split_ifs
  · exact le_rfl
  · exact Nat.le_max_left _ _

/-- An array reaches as far as something was written. -/
theorem end_le_write (array : SparseArray α) (offset : Nat) {items : List α}
    (written : items ≠ []) : offset + items.length ≤ (array.write offset items).size := by
  rw [write]
  dsimp only
  rw [if_neg written]
  exact Nat.le_max_right _ _

/-- What was written is read back. -/
theorem read_write_self (array : SparseArray α) (offset : Nat) (items : List α) :
    (array.write offset items).read offset items.length = items := by
  apply List.ext_getElem?
  intro index
  by_cases inside : index < items.length
  · rw [read_getElem? _ _ inside, List.getElem?_eq_getElem inside,
      write_cell_inside array offset items inside]
  · rw [List.getElem?_eq_none (by rw [read_length]; omega), List.getElem?_eq_none (by omega)]

/-- A write leaves every range beside it alone. -/
theorem read_write_disjoint (array : SparseArray α) {offset position count : Nat} {items : List α}
    (beside : position + count ≤ offset ∨ offset + items.length ≤ position) :
    (array.write offset items).read position count = array.read position count := by
  apply read_congr
  intro index inside
  exact array.write_cell_outside (by omega)

/-- Writing again a beginning of what a range holds changes no cell. -/
theorem write_cell_of_prefix (array : SparseArray α) {offset count : Nat} {items : List α}
    (stored : items <+: array.read offset count) :
    (array.write offset items).cell = array.cell := by
  have short : items.length ≤ count := by
    have shorter := stored.length_le
    rwa [read_length] at shorter
  obtain ⟨rest, split⟩ := stored
  funext index
  by_cases covered : offset ≤ index ∧ index < offset + items.length
  · have inside : index - offset < items.length := by omega
    have position : offset + (index - offset) = index := by omega
    have held := array.read_getElem? offset (show index - offset < count by omega)
    rw [← split, List.getElem?_append_left inside, List.getElem?_eq_getElem inside, position,
      Option.some.injEq] at held
    have written := array.write_cell_inside offset items inside
    rw [position] at written
    rw [written, held]
  · exact array.write_cell_outside (by omega)

section Bitmap

/-- `(map[bit >> 3] & (1 << (bit & 7))) != 0`, and false outside the map. -/
def testBit (map : SparseArray (BitVec 8)) (bit : Nat) : Bool :=
  if map.size ≤ bit / 8 then false
  else map.cell (bit / 8) &&& BitVec.twoPow 8 (bit % 8) != 0

/-- `map[bit >> 3] |= 1 << (bit & 7)`. -/
def setBit (map : SparseArray (BitVec 8)) (bit : Nat) (inside : bit / 8 < map.size) :
    SparseArray (BitVec 8) where
  size := map.size
  cell := Function.update map.cell (bit / 8) (map.cell (bit / 8) ||| BitVec.twoPow 8 (bit % 8))
  beyond := by
    intro index outside
    rw [Function.update_of_ne (by omega)]
    exact map.beyond index outside

@[simp] theorem setBit_cell (map : SparseArray (BitVec 8)) (bit : Nat)
    (inside : bit / 8 < map.size) :
    (map.setBit bit inside).cell =
      Function.update map.cell (bit / 8) (map.cell (bit / 8) ||| BitVec.twoPow 8 (bit % 8)) := rfl

/-- Testing a bit reads its cell. -/
theorem testBit_eq (map : SparseArray (BitVec 8)) (bit : Nat) :
    map.testBit bit = (map.cell (bit / 8)).getLsbD (bit % 8) := by
  have small : bit % 8 < 8 := Nat.mod_lt _ (by decide)
  unfold testBit
  split
  · rename_i outside
    rw [map.beyond _ outside]
    simp only [BitVec.ofNat_eq_ofNat, BitVec.getLsbD_zero]
  · rw [BitVec.and_twoPow]
    cases (map.cell (bit / 8)).getLsbD (bit % 8) with
    | false => simp only [Bool.false_eq_true, ↓reduceIte, BitVec.ofNat_eq_ofNat, bne_self_eq_false]
    | true =>
        rw [if_pos rfl]
        have set : (BitVec.twoPow 8 (bit % 8)).getLsbD (bit % 8) = true := by
          simp only [BitVec.getLsbD_twoPow, small, decide_true, Bool.and_self]
        apply bne_iff_ne.mpr
        intro zero
        rw [zero] at set
        simp only [BitVec.ofNat_eq_ofNat, BitVec.getLsbD_zero, Bool.false_eq_true] at set

@[simp] theorem testBit_empty (bit : Nat) :
    (empty : SparseArray (BitVec 8)).testBit bit = false := by
  rw [testBit_eq]
  simp only [empty, BitVec.ofNat_eq_ofNat, BitVec.getLsbD_zero]

@[simp] theorem testBit_grow (map : SparseArray (BitVec 8)) (size bit : Nat) :
    (map.grow size).testBit bit = map.testBit bit := by
  rw [testBit_eq, testBit_eq, grow_cell]

/-- Setting a bit sets that bit and no other. -/
theorem testBit_setBit (map : SparseArray (BitVec 8)) {bit : Nat} (inside : bit / 8 < map.size)
    (other : Nat) :
    (map.setBit bit inside).testBit other = (decide (other = bit) || map.testBit other) := by
  have small : other % 8 < 8 := Nat.mod_lt _ (by decide)
  rw [testBit_eq, testBit_eq, setBit_cell]
  by_cases byte : other / 8 = bit / 8
  · rw [byte, Function.update_self, BitVec.getLsbD_or, BitVec.getLsbD_twoPow, Bool.or_comm]
    by_cases same : other = bit
    · subst same
      simp only [small, decide_true, Bool.and_self, Bool.true_or]
    · have different : bit % 8 ≠ other % 8 := by omega
      simp only [different, decide_false, Bool.and_false, Bool.false_or, same]
  · have different : other ≠ bit := fun equal => byte (by rw [equal])
    rw [Function.update_of_ne byte]
    simp only [different, decide_false, Bool.false_or]

end Bitmap

end SparseArray
