import SupportProxy.Library.ByteLayout
import Mathlib.Data.List.Infix
import Mathlib.Data.UInt

/-! # Frames of a WebSocket

`WebSocket::decode` of `websocket.cpp` on the bytes that are pending, and the frames a client
can send. `decode_take` says what is decoded from any front part of a stream of frames. -/

namespace SupportProxy.WebSocket

open ByteLayout

/-- What `decode` makes of the pending bytes. -/
inductive Decoded
  /-- the return value -1 -/
  | incomplete
  | frame (payload : List UInt8) (used : Nat)
  /-- the length check wraps around, and the copy leaves the buffer -/
  | overrun
deriving DecidableEq

/-- XOR with the four bytes of a mask. -/
def unmask (mask payload : List UInt8) : List UInt8 :=
  payload.mapIdx fun index byte => byte ^^^ mask.getD (index % 4) 0

/-- `decode` behind the length: the sum is a `size_t`. -/
def decodePayload (masked : Bool) (payloadLen pos : Nat) (buf : List UInt8) : Decoded :=
  let start := if masked then pos + 4 else pos
  if buf.length < (start + payloadLen) % 2 ^ 64 then .incomplete
  else if buf.length < start + payloadLen then .overrun
  else if masked then
    .frame (unmask (slice pos 4 buf) (slice start payloadLen buf)) (start + payloadLen)
  else .frame (slice start payloadLen buf) (start + payloadLen)

/-- `WebSocket::decode` -/
def decode (buf : List UInt8) : Decoded :=
  if buf.length < 2 then .incomplete
  else
    let masked := decide (128 ≤ (buf.getD 1 0).toNat)
    let payloadLen := (buf.getD 1 0).toNat % 128
    if payloadLen = 126 then
      if buf.length < 4 then .incomplete
      else decodePayload masked (bigValue (slice 2 2 buf)) 4 buf
    else if payloadLen = 127 then
      if buf.length < 10 then .incomplete
      else decodePayload masked (bigValue (slice 2 8 buf)) 10 buf
    else decodePayload masked payloadLen 2 buf

/-- How a length is written. -/
inductive LengthForm
  | short
  | medium
  | long
deriving DecidableEq

namespace LengthForm

def limit : LengthForm → Nat
  | short => 126
  | medium => 2 ^ 16
  | long => 2 ^ 63

/-- The seven bits of the second byte. -/
def code (length : Nat) : LengthForm → Nat
  | short => length
  | medium => 126
  | long => 127

/-- The bytes behind it. -/
def width : LengthForm → Nat
  | short => 0
  | medium => 2
  | long => 8

end LengthForm

/-- A frame of a client without extensions. -/
structure Frame where
  /-- FIN, the reserved bits and the opcode -/
  head : UInt8
  form : LengthForm
  mask : Option (List UInt8)
  payload : List UInt8
  reserved : head &&& 0x70 = 0
  fits : payload.length < form.limit
  four : ∀ key ∈ mask, key.length = 4

namespace Frame

/-- A final frame of binary data. -/
theorem binary_reserved : (0x82 : UInt8) &&& 0x70 = 0 := by decide

/-- A frame without a mask has no key of a wrong length. -/
theorem unmasked_four : ∀ key ∈ (none : Option (List UInt8)), key.length = 4 :=
  fun _ mask => by cases mask

/-- The second byte. -/
def second (frame : Frame) : Nat :=
  (if frame.mask.isSome then 128 else 0) + frame.form.code frame.payload.length

/-- What stands behind the length. -/
def body (frame : Frame) : List UInt8 :=
  match frame.mask with
  | none => frame.payload
  | some key => key ++ unmask key frame.payload

/-- The bytes of a frame. -/
def encode (frame : Frame) : List UInt8 :=
  frame.head :: UInt8.ofNat frame.second ::
    (bigBytes frame.form.width frame.payload.length ++ frame.body)

end Frame

@[simp] theorem unmask_length (mask payload : List UInt8) :
    (unmask mask payload).length = payload.length := by
  rw [unmask, List.length_mapIdx]

/-- Masking twice gives the payload back. -/
@[simp] theorem unmask_unmask (mask payload : List UInt8) :
    unmask mask (unmask mask payload) = payload := by
  apply List.ext_getElem
  · rw [unmask_length, unmask_length]
  · intro index _ inside
    simp only [unmask, List.getElem_mapIdx]
    rw [UInt8.xor_assoc, UInt8.xor_self, UInt8.xor_zero]

namespace Frame

variable (frame : Frame)

private theorem code_lt : frame.form.code frame.payload.length < 128 := by
  have fits := frame.fits
  cases form : frame.form with
  | short =>
      rw [form] at fits
      exact Nat.lt_trans fits (by decide)
  | medium => exact (by decide : 126 < 128)
  | long => exact (by decide : 127 < 128)

private theorem second_toNat : (UInt8.ofNat frame.second).toNat = frame.second := by
  have small := frame.code_lt
  rw [UInt8.toNat_ofNat', second]
  split_ifs <;> omega

private theorem second_mod : frame.second % 128 = frame.form.code frame.payload.length := by
  have small := frame.code_lt
  rw [second]
  split_ifs <;> omega

private theorem second_masked : decide (128 ≤ frame.second) = frame.mask.isSome := by
  have small := frame.code_lt
  rw [second]
  cases frame.mask with
  | none =>
      rw [Option.isSome_none, if_neg Bool.false_ne_true]
      exact decide_eq_false (by omega)
  | some key =>
      rw [Option.isSome_some, if_pos rfl]
      exact decide_eq_true (by omega)

private theorem payload_lt : frame.payload.length < 2 ^ 63 := by
  have fits := frame.fits
  cases form : frame.form with
  | short =>
      rw [form] at fits
      exact Nat.lt_trans fits (by decide)
  | medium =>
      rw [form] at fits
      exact Nat.lt_trans fits (by decide)
  | long =>
      rw [form] at fits
      exact fits

private theorem body_length : frame.body.length =
    (if frame.mask.isSome then 4 else 0) + frame.payload.length := by
  have four := frame.four
  rw [body]
  cases mask : frame.mask with
  | none => exact (Nat.zero_add _).symm
  | some key =>
      have size : key.length = 4 := four key (by rw [mask, Option.mem_some_iff])
      rw [List.length_append, unmask_length, size]
      rfl

/-- The length of a frame in bytes. -/
theorem encode_length : frame.encode.length =
    2 + frame.form.width + (if frame.mask.isSome then 4 else 0) + frame.payload.length := by
  rw [encode, List.length_cons, List.length_cons, List.length_append, bigBytes_length, body_length]
  omega

end Frame

/-- `decode` behind the length, at a front part of the bytes. -/
theorem decodePayload_take (frame : Frame) (rest : List UInt8) (count : Nat) :
    decodePayload frame.mask.isSome frame.payload.length (2 + frame.form.width)
        ((frame.encode ++ rest).take count) =
      if frame.encode.length ≤ count then .frame frame.payload frame.encode.length
      else .incomplete := by
  have small := frame.payload_lt
  have narrow : frame.form.width ≤ 8 := by cases frame.form <;> decide
  have start : (if frame.mask.isSome then 2 + frame.form.width + 4 else 2 + frame.form.width) +
      frame.payload.length = frame.encode.length := by
    rw [frame.encode_length]
    split_ifs <;> omega
  have wraps : frame.encode.length % 2 ^ 64 = frame.encode.length := by
    rw [← start]
    split_ifs <;> omega
  have front : ((frame.encode ++ rest).take count).length < frame.encode.length ↔
      ¬frame.encode.length ≤ count := by
    rw [List.length_take, List.length_append]
    omega
  rw [decodePayload, start, wraps]
  by_cases whole : frame.encode.length ≤ count
  · have long : ¬((frame.encode ++ rest).take count).length < frame.encode.length :=
      fun short => front.mp short whole
    have header : (frame.head :: UInt8.ofNat frame.second ::
        bigBytes frame.form.width frame.payload.length).length = 2 + frame.form.width := by
      rw [List.length_cons, List.length_cons, bigBytes_length]
      omega
    have split : frame.encode ++ rest = (frame.head :: UInt8.ofNat frame.second ::
        bigBytes frame.form.width frame.payload.length) ++ (frame.body ++ rest) := by
      rw [Frame.encode, List.cons_append, List.cons_append, List.cons_append, List.cons_append,
        List.append_assoc]
    rw [if_neg long, if_neg long, if_pos whole]
    rw [frame.encode_length] at whole
    cases mask : frame.mask with
    | none =>
        have body : frame.body = frame.payload := by rw [Frame.body, mask]
        rw [mask, Option.isSome_none, if_neg Bool.false_ne_true] at whole
        rw [Option.isSome_none, if_neg Bool.false_ne_true, if_neg Bool.false_ne_true,
          slice_take _ (by omega), split, body, ← header, slice_append]
    | some key =>
        have body : frame.body = key ++ unmask key frame.payload := by rw [Frame.body, mask]
        have four : key.length = 4 := frame.four key (by rw [mask, Option.mem_some_iff])
        rw [mask, Option.isSome_some, if_pos rfl] at whole
        have keyAt : slice (2 + frame.form.width) 4 ((frame.encode ++ rest).take count) = key := by
          rw [slice_take _ (by omega), split, body, ← header, List.append_assoc, ← four,
            slice_append]
        have payloadAt : slice (2 + frame.form.width + 4) frame.payload.length
            ((frame.encode ++ rest).take count) = unmask key frame.payload := by
          have wider : ((frame.head :: UInt8.ofNat frame.second ::
              bigBytes frame.form.width frame.payload.length) ++ key).length =
                2 + frame.form.width + 4 := by
            rw [List.length_append, header, four]
          rw [slice_take _ (by omega), split, body, List.append_assoc, ← List.append_assoc, ← wider,
            ← unmask_length key frame.payload, slice_append]
        rw [Option.isSome_some, if_pos rfl, if_pos rfl, keyAt, payloadAt, unmask_unmask]
  · rw [if_pos (front.mpr whole), if_neg whole]

/-- What is decoded from the front part of a frame and what follows it. -/
theorem decode_take (frame : Frame) (rest : List UInt8) (count : Nat) :
    decode ((frame.encode ++ rest).take count) =
      if frame.encode.length ≤ count then .frame frame.payload frame.encode.length
      else .incomplete := by
  have length := frame.encode_length
  have whole : frame.encode.length ≤ (frame.encode ++ rest).length := by
    rw [List.length_append]
    omega
  have front : ∀ least ≤ frame.encode.length,
      (((frame.encode ++ rest).take count).length < least ↔ count < least) := by
    intro least inside
    rw [List.length_take]
    omega
  rw [decode]
  by_cases early : count < 2
  · rw [if_pos ((front 2 (by omega)).mpr early), if_neg (by omega)]
  rw [if_neg (mt (front 2 (by omega)).mp early)]
  have second : ((frame.encode ++ rest).take count).getD 1 0 = UInt8.ofNat frame.second := by
    rw [List.getD_eq_getElem?_getD, List.getElem?_take_of_lt (by omega)]
    rfl
  have payload := decodePayload_take frame rest count
  dsimp only
  rw [second, frame.second_toNat, frame.second_mod, frame.second_masked]
  have fits := frame.fits
  -- the number behind the second byte
  have number : ∀ width, frame.form.width = width → 2 + width ≤ count →
      frame.payload.length < 256 ^ width →
        bigValue (slice 2 width ((frame.encode ++ rest).take count)) = frame.payload.length := by
    intro width form inside small
    have split : frame.encode ++ rest = [frame.head, UInt8.ofNat frame.second] ++
        (bigBytes frame.form.width frame.payload.length ++ (frame.body ++ rest)) := by
      rw [Frame.encode, List.cons_append, List.cons_append, List.append_assoc]
      rfl
    have field : slice 2 width (frame.encode ++ rest) =
        bigBytes frame.form.width frame.payload.length := by
      rw [split, ← form]
      have part := slice_append [frame.head, UInt8.ofNat frame.second]
        (bigBytes frame.form.width frame.payload.length) (frame.body ++ rest)
      rw [bigBytes_length] at part
      exact part
    rw [slice_take _ inside, field, bigValue_bigBytes, form, Nat.mod_eq_of_lt small]
  cases form : frame.form with
  | short =>
      rw [form] at fits payload
      have small : frame.payload.length < 126 := fits
      have not126 : ¬frame.payload.length = 126 := by omega
      have not127 : ¬frame.payload.length = 127 := by omega
      rw [LengthForm.code, if_neg not126, if_neg not127]
      exact payload
  | medium =>
      rw [form] at fits payload length
      have least : 4 ≤ frame.encode.length := by
        rw [length, LengthForm.width]
        omega
      rw [LengthForm.code, if_pos rfl]
      by_cases early : count < 4
      · rw [if_pos ((front 4 least).mpr early), if_neg (by omega)]
      · rw [if_neg (mt (front 4 least).mp early), number 2 (by rw [form]; rfl) (by omega) fits]
        exact payload
  | long =>
      rw [form] at fits payload length
      have least : 10 ≤ frame.encode.length := by
        rw [length, LengthForm.width]
        omega
      rw [LengthForm.code, if_neg (by decide), if_pos rfl]
      by_cases early : count < 10
      · rw [if_pos ((front 10 least).mpr early), if_neg (by omega)]
      · rw [if_neg (mt (front 10 least).mp early),
          number 8 (by rw [form]; rfl) (by omega) (Nat.lt_trans fits (by decide))]
        exact payload

end SupportProxy.WebSocket
