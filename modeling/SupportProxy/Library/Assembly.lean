import SupportProxy.Library.SparseArray
import Mathlib.Logic.Function.Basic
import Mathlib.Order.Lattice

/-! # Blocks assembled out of order

Blocks of one width are written to an array, each at its own place, in any order, any
number of times and some of them in part. The array is then a matter of how much of each
block it holds: neither the order of the writes nor a repetition shows in it. -/

namespace SparseArray

variable {α : Type*} [Zero α] {width : Nat} {source : Nat → List α} {held : Nat → Nat}
  {array other : SparseArray α}

/-- Ranges that follow each other. -/
theorem read_append (array : SparseArray α) (offset first second : Nat) :
    array.read offset (first + second) =
      array.read offset first ++ array.read (offset + first) second := by
  rw [read, List.range_add, List.map_append, List.map_map, read, read]
  congr 2
  funext index
  exact congrArg array.cell (Nat.add_assoc _ _ _).symm

/-- Arrays of one size with the same cells are the same. -/
theorem eq_of_cells (size : array.size = other.size)
    (cells : ∀ index, array.cell index = other.cell index) : array = other := by
  cases array with
  | mk first cell beyond =>
      cases other with
      | mk second cell' beyond' =>
          obtain rfl : first = second := size
          obtain rfl : cell = cell' := funext cells
          rfl

/-- The array holds the first `held` items of each block, and nothing else. -/
structure Assembles (width : Nat) (source : Nat → List α) (held : Nat → Nat)
    (array : SparseArray α) : Prop where
  partial_le : ∀ block, held block ≤ width
  cell : ∀ block offset, offset < width → array.cell (block * width + offset) =
    if offset < held block then (source block).getD offset 0 else 0
  within : ∀ block, 0 < held block → block * width + held block ≤ array.size
  reached : array.size = 0 ∨ ∃ block, 0 < held block ∧ array.size = block * width + held block

/-- Nothing is assembled in the empty array. -/
theorem assembles_empty : (empty : SparseArray α).Assembles width source fun _ => 0 where
  partial_le := fun _ => Nat.zero_le _
  cell := fun _ offset _ => (if_neg (Nat.not_lt_zero offset)).symm
  within := fun _ positive => (Nat.lt_irrefl 0 positive).elim
  reached := .inl rfl

/-- The places of two blocks do not meet. -/
theorem beside_block {block other offset : Nat} (different : other ≠ block)
    (inside : offset < width) :
    other * width + offset < block * width ∨ block * width + width ≤ other * width + offset := by
  rcases Nat.lt_or_gt_of_ne different with less | greater
  · have := Nat.mul_le_mul_right width (Nat.succ_le_of_lt less)
    rw [Nat.succ_mul] at this
    exact .inl (by omega)
  · have := Nat.mul_le_mul_right width (Nat.succ_le_of_lt greater)
    rw [Nat.succ_mul] at this
    exact .inr (by omega)

/-- A write of a beginning of a block leaves the longer of what the array held of it and
what is written. -/
theorem Assembles.write (assembles : array.Assembles width source held)
    {block : Nat} (length : (source block).length = width) (wrote : Nat) :
    (array.write (block * width) ((source block).take wrote)).Assembles width source
      (Function.update held block (max (held block) (min wrote width))) := by
  have most := assembles.partial_le block
  have short : ((source block).take wrote).length = min wrote width := by
    rw [List.length_take, length]
  have size : (array.write (block * width) ((source block).take wrote)).size =
      if min wrote width = 0 then array.size
      else max array.size (block * width + min wrote width) := by
    rw [SparseArray.write]
    simp only [← List.length_eq_zero_iff, short]
  refine ⟨?_, ?_, ?_, ?_⟩
  · intro other
    by_cases same : other = block
    · rw [same, Function.update_self]
      omega
    · rw [Function.update_of_ne same]
      exact assembles.partial_le other
  · intro other offset inside
    by_cases same : other = block
    · subst same
      rw [Function.update_self]
      by_cases covered : offset < min wrote width
      · rw [array.write_cell_inside _ _ (short ▸ covered), if_pos (by omega), List.getElem_take,
          List.getD_eq_getElem?_getD, List.getElem?_eq_getElem (by omega), Option.getD_some]
      · rw [array.write_cell_outside (.inr (by rw [short]; omega)),
          assembles.cell other offset inside]
        by_cases old : offset < held other
        · rw [if_pos old, if_pos (by omega)]
        · rw [if_neg old, if_neg (by omega)]
    · rw [Function.update_of_ne same, ← assembles.cell other offset inside]
      refine array.write_cell_outside ?_
      rw [short]
      have := beside_block same inside
      omega
  · intro other positive
    rw [size]
    by_cases same : other = block
    · subst same
      rw [Function.update_self] at positive ⊢
      have old := assembles.within other
      split_ifs <;> omega
    · rw [Function.update_of_ne same] at positive ⊢
      have old := assembles.within other positive
      split_ifs <;> omega
  · rw [size]
    have old := assembles.within block
    by_cases nothing : min wrote width = 0
    · rw [if_pos nothing, nothing, Nat.max_eq_left (Nat.zero_le _), Function.update_eq_self]
      exact assembles.reached
    · rw [if_neg nothing]
      refine .inr ?_
      by_cases grows : array.size ≤ block * width + min wrote width
      · refine ⟨block, ?_, ?_⟩ <;> rw [Function.update_self] <;> omega
      · rcases assembles.reached with blank | ⟨last, positive, reached⟩
        · omega
        · refine ⟨last, ?_⟩
          by_cases same : last = block
          · subst same
            rw [Function.update_self]
            omega
          · rw [Function.update_of_ne same]
            omega

/-- What is held of each block decides the array. -/
theorem Assembles.unique (positive : 0 < width) (first : array.Assembles width source held)
    (second : other.Assembles width source held) : array = other := by
  apply eq_of_cells
  · rcases first.reached with blank | ⟨last, isHeld, reached⟩
    · rcases second.reached with blank' | ⟨last, isHeld, reached⟩
      · exact blank.trans blank'.symm
      · have := first.within last isHeld
        omega
    · have least := second.within last isHeld
      rcases second.reached with blank | ⟨end', isHeld', reached'⟩
      · omega
      · have := first.within end' isHeld'
        omega
  · intro index
    have place := Nat.div_add_mod' index width
    have inside := Nat.mod_lt index positive
    rw [← place, first.cell _ _ inside, second.cell _ _ inside]

/-- A block that the array holds in full. -/
theorem Assembles.read_block (assembles : array.Assembles width source held) {block : Nat}
    (length : (source block).length = width) (whole : held block = width) :
    array.read (block * width) width = source block := by
  apply List.ext_getElem?
  intro index
  by_cases inside : index < width
  · rw [read_getElem? _ _ inside, assembles.cell block index inside, whole, if_pos inside,
      List.getD_eq_getElem?_getD, List.getElem?_eq_getElem (by omega), Option.getD_some]
  · rw [List.getElem?_eq_none (by rw [read_length]; omega), List.getElem?_eq_none (by omega)]

/-- A block of which the array holds nothing is a hole. -/
theorem Assembles.read_hole (assembles : array.Assembles width source held) {block : Nat}
    (nothing : held block = 0) : array.read (block * width) width = List.replicate width 0 := by
  rw [List.eq_replicate_iff]
  refine ⟨read_length _ _ _, fun item member => ?_⟩
  obtain ⟨index, inside, rfl⟩ := List.mem_map.mp member
  rw [assembles.cell block index (List.mem_range.mp inside), nothing,
    if_neg (Nat.not_lt_zero index)]

/-- Blocks held without a gap are the beginning of the source. -/
theorem Assembles.read_blocks (assembles : array.Assembles width source held)
    (lengths : ∀ block, (source block).length = width) {count : Nat}
    (whole : ∀ block < count, held block = width) :
    array.read 0 (count * width) = (List.range count).flatMap source := by
  induction count with
  | zero =>
    rw [Nat.zero_mul, List.range_zero, List.flatMap_nil, read, List.range_zero, List.map_nil]
  | succ count ih =>
      rw [Nat.succ_mul, read_append, ih fun block below => whole block (Nat.lt_succ_of_lt below),
        Nat.zero_add, assembles.read_block (lengths count) (whole count (Nat.lt_succ_self count)),
        List.range_succ, List.flatMap_append, List.flatMap_singleton]

end SparseArray
