import SupportProxy.Library.Padding
import Mathlib.Data.List.Basic

/-! # UTF-8 that may be broken

Bytes are decoded with those that belong to no character left out, and encoding the text again
gives the bytes back just when none was left out. -/

namespace Utf8

/-- The character whose bytes these begin with. -/
def first (data : List UInt8) : Option Char := data.toByteArray.utf8DecodeChar? 0

/-- The bytes of a text. -/
def encode (text : List Char) : List UInt8 := text.flatMap String.utf8EncodeChar

/-- The text behind so many bytes. A byte that starts no character is left out alone: the bytes
a broken character has behind it start none either. -/
def decodeFrom : Nat → List UInt8 → List Char
  | _, [] => []
  | skip + 1, _ :: rest => decodeFrom skip rest
  | 0, byte :: rest =>
      match first (byte :: rest) with
      | some char => char :: decodeFrom (char.utf8Size - 1) rest
      | none => decodeFrom 0 rest

/-- The text of the bytes, with the broken ones left out. -/
def decode (data : List UInt8) : List Char := decodeFrom 0 data

/-- The bytes of some text. -/
def Valid (data : List UInt8) : Prop := ∃ text, encode text = data

@[simp] theorem encode_nil : encode [] = [] := rfl

@[simp] theorem encode_cons (char : Char) (text : List Char) :
    encode (char :: text) = String.utf8EncodeChar char ++ encode text := List.flatMap_cons

@[simp] theorem encode_append (front back : List Char) :
    encode (front ++ back) = encode front ++ encode back := List.flatMap_append

/-- The first character of a text is read back. -/
theorem first_encode (char : Char) (rest : List UInt8) :
    first (String.utf8EncodeChar char ++ rest) = some char := by
  rw [first, List.toByteArray_append]
  exact ByteArray.utf8DecodeChar?_utf8EncodeChar_append

/-- Where a character is read, its bytes come first. -/
theorem of_first {data : List UInt8} {char : Char} (starts : first data = some char) :
    ∃ rest, data = String.utf8EncodeChar char ++ rest := by
  obtain ⟨rest, split⟩ := ByteArray.exists_of_utf8DecodeChar?_eq_some starts
  refine ⟨rest.data.toList, ?_⟩
  have lists := congrArg (fun bytes : ByteArray => bytes.data.toList) split
  simpa using lists

/-- Decoding with some bytes still to skip. -/
theorem decodeFrom_eq (skip : Nat) (data : List UInt8) :
    decodeFrom skip data = decode (data.drop skip) := by
  induction data generalizing skip with
  | nil => cases skip <;> rfl
  | cons byte rest ih =>
      cases skip with
      | zero => rfl
      | succ skip =>
          rw [decodeFrom, List.drop_succ_cons]
          exact ih skip

/-- Decoding goes on behind a character. -/
theorem decode_encode_append (char : Char) (rest : List UInt8) :
    decode (String.utf8EncodeChar char ++ rest) = char :: decode rest := by
  have starts := first_encode char rest
  have length := String.length_utf8EncodeChar char
  have positive := char.utf8Size_pos
  cases spelled : String.utf8EncodeChar char with
  | nil =>
      rw [spelled, List.length_nil] at length
      omega
  | cons byte more =>
      rw [spelled] at starts length
      rw [List.length_cons] at length
      rw [decode, List.cons_append, decodeFrom, ← List.cons_append, starts]
      dsimp only
      rw [decodeFrom_eq, List.drop_left' (by omega)]

/-- Decoding takes a character, or leaves a byte out. -/
theorem decode_cases (byte : UInt8) (rest : List UInt8) :
    (∃ char back, byte :: rest = String.utf8EncodeChar char ++ back ∧
        decode (byte :: rest) = char :: decode back) ∨
      (byte ≠ 0 ∧ decode (byte :: rest) = decode rest) := by
  cases starts : first (byte :: rest) with
  | some char =>
      obtain ⟨back, split⟩ := of_first starts
      refine .inl ⟨char, back, split, ?_⟩
      rw [split, decode_encode_append]
  | none =>
      refine .inr ⟨?_, ?_⟩
      · rintro rfl
        have zero : first (0 :: rest) = some '\x00' := first_encode '\x00' rest
        rw [zero] at starts
        cases starts
      · rw [decode, decodeFrom, starts]
        rfl

/-- Bytes are characters and broken bytes. -/
theorem induction {motive : List UInt8 → Prop} (nil : motive [])
    (char : ∀ char back, motive back → decode (String.utf8EncodeChar char ++ back) =
      char :: decode back → motive (String.utf8EncodeChar char ++ back))
    (broken : ∀ byte rest, motive rest → byte ≠ 0 → decode (byte :: rest) = decode rest →
      motive (byte :: rest)) (data : List UInt8) : motive data := by
  induction length : data.length using Nat.strong_induction_on generalizing data with
  | _ size ih =>
      cases data with
      | nil => exact nil
      | cons byte rest =>
          rw [List.length_cons] at length
          rcases decode_cases byte rest with ⟨first, back, split, decoded⟩ | ⟨nonzero, decoded⟩
          · have sizes := congrArg List.length split
            rw [List.length_cons, List.length_append, String.length_utf8EncodeChar] at sizes
            have positive := first.utf8Size_pos
            rw [split] at decoded ⊢
            exact char first back (ih back.length (by omega) back rfl) decoded
          · exact broken byte rest (ih rest.length (by omega) rest rfl) nonzero decoded

/-- Decoding leaves bytes out and adds none. -/
theorem encode_decode_sublist (data : List UInt8) : (encode (decode data)).Sublist data := by
  induction data using induction with
  | nil => exact .refl _
  | char char back ih decoded =>
      rw [decoded, encode_cons]
      exact ih.append_left _
  | broken byte rest ih nonzero decoded =>
      rw [decoded]
      exact ih.cons byte

/-- No zero is left out. -/
theorem count_encode_decode (data : List UInt8) :
    (encode (decode data)).count 0 = data.count 0 := by
  induction data using induction with
  | nil => rfl
  | char char back ih decoded =>
      rw [decoded, encode_cons, List.count_append, List.count_append, ih]
  | broken byte rest ih nonzero decoded => rw [decoded, ih, List.count_cons_of_ne nonzero]

/-- Every text comes back. -/
theorem decode_encode (text : List Char) : decode (encode text) = text := by
  induction text with
  | nil => rfl
  | cons char rest ih => rw [encode_cons, decode_encode_append, ih]

/-- Just the bytes of some text come back. -/
theorem encode_decode_iff {data : List UInt8} : encode (decode data) = data ↔ Valid data := by
  constructor
  · intro same
    exact ⟨decode data, same⟩
  · rintro ⟨text, rfl⟩
    rw [decode_encode]

instance (data : List UInt8) : Decidable (Valid data) := decidable_of_iff _ encode_decode_iff

/-- Only the first character has a zero among its bytes. -/
theorem utf8EncodeChar_nonzero {char : Char} (nonzero : char ≠ '\x00') :
    ∀ byte ∈ String.utf8EncodeChar char, byte ≠ 0 := by
  have positive : char.val.toNat ≠ 0 := by
    intro zero
    exact nonzero (Char.ext (UInt32.toNat_inj.mp zero))
  have nonzero_of : ∀ number : Nat, number % 256 ≠ 0 → UInt8.ofNat number ≠ 0 := by
    intro number low zero
    have numbers := congrArg UInt8.toNat zero
    rw [UInt8.toNat_ofNat'] at numbers
    exact low numbers
  rw [String.utf8EncodeChar]
  split_ifs <;> intro byte member <;>
    simp only [List.mem_cons, List.not_mem_nil, or_false] at member <;>
    rcases member with rfl | rfl | rfl | rfl <;> exact nonzero_of _ (by omega)

/-- Trailing zeros of a text are those of its bytes. -/
theorem encode_strip (text : List Char) :
    encode (Padding.strip '\x00' text) = Padding.strip 0 (encode text) := by
  induction text using List.reverseRecOn with
  | nil => rfl
  | append_singleton front last ih =>
      rw [Padding.strip_concat, encode_append]
      have alone : encode [last] = String.utf8EncodeChar last := by
        rw [encode_cons, encode_nil, List.append_nil]
      by_cases zero : last = '\x00'
      · have spelled : String.utf8EncodeChar '\x00' = [0] := rfl
        rw [if_pos zero, ih, alone, zero, spelled]
        exact (Padding.strip_append fun byte member => List.mem_singleton.mp member).symm
      · rw [if_neg zero, encode_append, alone]
        have nonzero := utf8EncodeChar_nonzero zero
        have spelled : String.utf8EncodeChar last ≠ [] := by
          intro empty
          have length := String.length_utf8EncodeChar last
          have positive := last.utf8Size_pos
          rw [empty, List.length_nil] at length
          omega
        obtain ⟨bytes, byte, split⟩ := (List.eq_nil_or_concat' _).resolve_left spelled
        rw [split, ← List.append_assoc, Padding.strip_concat, if_neg]
        exact nonzero byte (by simp [split])

/-- A text field of a record as it is written again: decoded, without its trailing zeros, and
padded to its width. -/
def respell (width : Nat) (data : List UInt8) : List UInt8 :=
  (Padding.fill 0 width (encode (Padding.strip '\x00' (decode data)))).take width

/-- What decoding and encoding make of a field. -/
theorem respell_eq {width : Nat} {data : List UInt8} (length : data.length = width) :
    respell width data = Padding.fill 0 width (Padding.strip 0 (encode (decode data))) := by
  have short : (Padding.strip 0 (encode (decode data))).length ≤ width := by
    rw [← length]
    exact (Padding.strip_front _).length_le.trans (encode_decode_sublist data).length_le
  rw [respell, encode_strip, List.take_of_length_le]
  rw [Padding.fill, List.length_append, List.length_replicate]
  omega

/-- A field keeps its bytes just when they are a text. -/
theorem respell_eq_iff {width : Nat} {data : List UInt8} (length : data.length = width) :
    respell width data = data ↔ Valid data := by
  rw [respell_eq length, ← encode_decode_iff]
  constructor
  · intro same
    -- padding replaces the bytes that were left out, so there were none
    obtain ⟨back, split, pads⟩ := Padding.exists_pads 0 (encode (decode data))
    have zeros := count_encode_decode data
    have sizes := congrArg List.length split
    rw [split, List.count_append, List.eq_replicate_iff.mpr ⟨rfl, pads⟩,
      List.count_replicate_self] at zeros
    rw [List.length_append] at sizes
    have filled := congrArg (List.count 0) same
    rw [Padding.fill, List.count_append, List.count_replicate_self] at filled
    have shorter := (encode_decode_sublist data).length_le
    refine (encode_decode_sublist data).eq_of_length ?_
    omega
  · intro whole
    rw [whole, ← length]
    exact Padding.fill_strip data

/-- The text that is read from a field of bytes it was written to. -/
def reread (width : Nat) (text : List Char) : List Char :=
  Padding.strip '\x00' (decode ((Padding.fill 0 width (encode text)).take width))

/-- A text without trailing zeros is read again just when it fits into the field. -/
theorem reread_eq_iff {width : Nat} {text : List Char}
    (stripped : Padding.strip '\x00' text = text) :
    reread width text = text ↔ (encode text).length ≤ width := by
  have zeros : ∀ count, encode (List.replicate count '\x00') = List.replicate count 0 := by
    intro count
    induction count with
    | zero => rfl
    | succ count ih =>
        rw [List.replicate_succ, encode_cons, ih]
        rfl
  rw [reread]
  constructor
  · intro same
    have spelled := congrArg List.length (congrArg encode same)
    rw [encode_strip] at spelled
    rw [← spelled]
    calc (Padding.strip 0 (encode (decode _))).length
        ≤ (encode (decode _)).length := (Padding.strip_front _).length_le
      _ ≤ ((Padding.fill 0 width (encode text)).take width).length :=
          (encode_decode_sublist _).length_le
      _ ≤ width := List.length_take_le _ _
  · intro fits
    have whole : (Padding.fill 0 width (encode text)).take width =
        encode (text ++ List.replicate (width - (encode text).length) '\x00') := by
      rw [encode_append, zeros, ← Padding.fill, List.take_of_length_le]
      rw [Padding.fill, List.length_append, List.length_replicate]
      omega
    rw [whole, decode_encode, Padding.strip_append fun _ => List.eq_of_mem_replicate, stripped]

end Utf8
