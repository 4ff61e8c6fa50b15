import Mathlib.Data.List.Basic
import Mathlib.Tactic.Ring

/-! # Fixed-size records of bytes

Little-endian numbers, and the fields of a record as slices of its bytes. A field is read
with `slice` and written with `splice`, which leaves every other field as it was. -/

namespace ByteLayout

/-- The number with these little-endian bytes. -/
def value : List UInt8 → Nat
  | [] => 0
  | byte :: rest => byte.toNat + 256 * value rest

/-- The lowest bytes of a number, least significant first. -/
def bytes : Nat → Nat → List UInt8
  | 0, _ => []
  | width + 1, number => UInt8.ofNat number :: bytes width (number / 256)

@[simp] theorem bytes_length (width number : Nat) : (bytes width number).length = width := by
  induction width generalizing number with
  | zero => rfl
  | succ width ih => rw [bytes, List.length_cons, ih]

/-- The bytes of the number in some bytes are these bytes. -/
theorem bytes_value (data : List UInt8) : bytes data.length (value data) = data := by
  induction data with
  | nil => rfl
  | cons byte rest ih =>
      have small : byte.toNat < 256 := byte.toNat_lt
      have low : UInt8.ofNat (byte.toNat + 256 * value rest) = byte := by
        apply UInt8.toNat_inj.mp
        rw [UInt8.toNat_ofNat']
        omega
      have high : (byte.toNat + 256 * value rest) / 256 = value rest := by omega
      rw [List.length_cons, value, bytes, low, high, ih]

/-- The number in the bytes of a number, up to their width. -/
theorem value_bytes (width number : Nat) : value (bytes width number) = number % 256 ^ width := by
  induction width generalizing number with
  | zero => rw [bytes, value, pow_zero, Nat.mod_one]
  | succ width ih =>
      have low : (UInt8.ofNat number).toNat = number % 256 := UInt8.toNat_ofNat' ..
      rw [bytes, value, ih, low, pow_succ', Nat.mod_mul]

/-- The number in some bytes is below what they can hold. -/
theorem value_lt (data : List UInt8) : value data < 256 ^ data.length := by
  induction data with
  | nil => exact Nat.one_pos
  | cons byte rest ih =>
      have small : byte.toNat < 256 := byte.toNat_lt
      rw [value, List.length_cons, pow_succ]
      omega

/-- Byte strings of one length have different values. -/
theorem value_injective {first second : List UInt8} (length : first.length = second.length)
    (same : value first = value second) : first = second := by
  rw [← bytes_value first, ← bytes_value second, length, same]

/-- The bytes of the field at an offset. -/
def slice (offset width : Nat) (data : List UInt8) : List UInt8 := (data.drop offset).take width

/-- The record with the bytes at an offset replaced. -/
def splice (offset : Nat) (part data : List UInt8) : List UInt8 :=
  data.take offset ++ part ++ data.drop (offset + part.length)

/-- The record brought to a size with zeros, or cut to it. -/
def extend (size : Nat) (data : List UInt8) : List UInt8 :=
  data.take size ++ List.replicate (size - data.length) 0

@[simp] theorem extend_length (size : Nat) (data : List UInt8) :
    (extend size data).length = size := by
  rw [extend, List.length_append, List.length_take, List.length_replicate]
  omega

/-- Data of the right length is not extended. -/
theorem extend_of_length {size : Nat} {data : List UInt8} (length : data.length = size) :
    extend size data = data := by
  rw [extend, length, Nat.sub_self, List.replicate_zero, List.append_nil, ← length,
    List.take_length]

/-- A slice inside of the data has its width. -/
theorem slice_length {offset width : Nat} {data : List UInt8}
    (inside : offset + width ≤ data.length) : (slice offset width data).length = width := by
  rw [slice, List.length_take, List.length_drop]
  omega

/-- Splicing a part into the data leaves its length. -/
theorem splice_length {offset : Nat} {part data : List UInt8}
    (inside : offset + part.length ≤ data.length) :
    (splice offset part data).length = data.length := by
  rw [splice, List.length_append, List.length_append, List.length_take, List.length_drop]
  omega

/-- The bytes outside of a written field. -/
theorem splice_getElem? {offset : Nat} {part data : List UInt8} {index : Nat}
    (inside : offset + part.length ≤ data.length)
    (outside : index < offset ∨ offset + part.length ≤ index) :
    (splice offset part data)[index]? = data[index]? := by
  have front : (data.take offset).length = offset := by
    rw [List.length_take]
    omega
  rw [splice]
  rcases outside with before | behind
  · rw [List.append_assoc, List.getElem?_append_left (by omega), List.getElem?_take_of_lt before]
  · have whole : (data.take offset ++ part).length = offset + part.length := by
      rw [List.length_append, front]
    rw [List.getElem?_append_right (by omega), whole, List.getElem?_drop]
    congr 1
    omega

/-- A field is read back as it was written. -/
theorem slice_splice {offset : Nat} {part data : List UInt8}
    (inside : offset + part.length ≤ data.length) :
    slice offset part.length (splice offset part data) = part := by
  have front : (data.take offset).length = offset := by
    rw [List.length_take]
    omega
  rw [slice, splice, List.append_assoc, List.drop_append, front, Nat.sub_self, List.drop_zero,
    List.drop_eq_nil_of_le (by omega), List.nil_append, List.take_left']
  rfl

/-- The front of a record holds the fields inside of it. -/
theorem slice_take {offset width count : Nat} (data : List UInt8)
    (inside : offset + width ≤ count) :
    slice offset width (data.take count) = slice offset width data := by
  have width_le : min width (count - offset) = width := by omega
  rw [slice, slice, List.drop_take, List.take_take, width_le]

/-- A field behind other bytes. -/
theorem slice_append (front part rest : List UInt8) :
    slice front.length part.length (front ++ (part ++ rest)) = part := by
  rw [slice, List.drop_left, List.take_left]

/-- The number with these big-endian bytes. -/
def bigValue (data : List UInt8) : Nat := value data.reverse

/-- The lowest bytes of a number, most significant first. -/
def bigBytes (width number : Nat) : List UInt8 := (bytes width number).reverse

@[simp] theorem bigBytes_length (width number : Nat) : (bigBytes width number).length = width := by
  rw [bigBytes, List.length_reverse, bytes_length]

/-- The number in the big-endian bytes of a number, up to their width. -/
theorem bigValue_bigBytes (width number : Nat) :
    bigValue (bigBytes width number) = number % 256 ^ width := by
  rw [bigValue, bigBytes, List.reverse_reverse, value_bytes]

/-- A field is a matter of its own bytes. -/
theorem slice_congr {offset width : Nat} {first second : List UInt8}
    (same : ∀ index, offset ≤ index → index < offset + width → first[index]? = second[index]?) :
    slice offset width first = slice offset width second := by
  apply List.ext_getElem?
  intro index
  rw [slice, slice]
  by_cases near : index < width
  · rw [List.getElem?_take_of_lt near, List.getElem?_take_of_lt near, List.getElem?_drop,
      List.getElem?_drop]
    exact same (offset + index) (Nat.le_add_right _ _) (by omega)
  · have beyond : ∀ data : List UInt8, ((data.drop offset).take width)[index]? = none := by
      intro data
      apply List.getElem?_eq_none
      rw [List.length_take]
      omega
    rw [beyond, beyond]

/-- A field apart from the one that is written. -/
theorem slice_splice_other {offset other width : Nat} {part data : List UInt8}
    (inside : offset + part.length ≤ data.length)
    (apart : other + width ≤ offset ∨ offset + part.length ≤ other) :
    slice other width (splice offset part data) = slice other width data := by
  apply slice_congr
  intro index from_ below
  exact splice_getElem? inside (by omega)

/-- The bytes of a field one by one. -/
theorem slice_getElem? {offset width index : Nat} (data : List UInt8) (from_ : offset ≤ index)
    (below : index < offset + width) :
    (slice offset width data)[index - offset]? = data[index]? := by
  rw [slice, List.getElem?_take_of_lt (by omega), List.getElem?_drop]
  congr 1
  omega

/-- The bytes in pieces of these widths, one behind the other. -/
def cut : List Nat → List UInt8 → List (List UInt8)
  | [], _ => []
  | width :: widths, data => data.take width :: cut widths (data.drop width)

@[simp] theorem cut_length (widths : List Nat) (data : List UInt8) :
    (cut widths data).length = widths.length := by
  induction widths generalizing data with
  | nil => rfl
  | cons width widths ih => rw [cut, List.length_cons, List.length_cons, ih]

/-- The pieces that were put together. -/
theorem cut_flatten (pieces : List (List UInt8)) (rest : List UInt8) :
    cut (pieces.map List.length) (pieces.flatten ++ rest) = pieces := by
  induction pieces with
  | nil => rfl
  | cons piece pieces ih =>
      rw [List.map_cons, List.flatten_cons, cut, List.append_assoc, List.take_left,
        List.drop_left, ih]

/-- The pieces are a matter of the bytes they take up. -/
theorem cut_take {widths : List Nat} {count : Nat} (data : List UInt8)
    (enough : widths.sum ≤ count) : cut widths (data.take count) = cut widths data := by
  induction widths generalizing count data with
  | nil => rfl
  | cons width widths ih =>
      rw [List.sum_cons] at enough
      rw [cut, cut, List.take_take, Nat.min_eq_left (by omega), List.drop_take,
        ih _ (by omega)]

/-- The lowest bit of a number set. -/
theorem or_one (number : Nat) : number ||| 1 = number / 2 * 2 + 1 := by
  have half : (number ||| 1) / 2 = number / 2 := by
    rw [Nat.or_div_two, Nat.div_eq_of_lt Nat.one_lt_two, Nat.or_zero]
  have odd : (number ||| 1) % 2 = 1 := by
    rw [Nat.or_mod_two_eq_one]
    exact .inr rfl
  omega

/-- The pieces put together again. -/
theorem flatten_cut (widths : List Nat) (data : List UInt8) :
    (cut widths data).flatten = data.take widths.sum := by
  induction widths generalizing data with
  | nil => rw [cut, List.flatten_nil, List.sum_nil, List.take_zero]
  | cons width widths ih =>
      rw [cut, List.flatten_cons, ih, List.sum_cons, List.take_add]

end ByteLayout
