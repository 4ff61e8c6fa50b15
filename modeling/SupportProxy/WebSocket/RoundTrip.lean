import SupportProxy.WebSocket.Bounds
import SupportProxy.WebSocket.Output

/-! # The frame codec there and back

A frame in the buffer with other bytes behind it: `decode` puts its payload in front, `recv`
leaves the other bytes pending, and a part of a frame is left alone (`codec_roundTrip`). -/

namespace SupportProxy.WebSocket

open ByteLayout TracedMemory

/-- A buffer that begins with some bytes. -/
def holding (bytes : List UInt8) (beyond : Nat → UInt8) (place : Nat) : UInt8 :=
  bytes.getD place (beyond place)

/-- `decode` of the first `n` bytes returns the payload in front of the buffer. -/
def Decodes (n : Nat) (memory : Nat → UInt8) (payload : List UInt8) (used : Nat) : Prop :=
  (decodeIn n ⟨memory, []⟩).1 = ⟨payload.length, some used⟩ ∧
    contents (decodeIn n ⟨memory, []⟩).2.memory payload.length = payload

instance (n : Nat) (memory : Nat → UInt8) (payload : List UInt8) (used : Nat) :
    Decidable (Decodes n memory payload used) := inferInstanceAs (Decidable (_ ∧ _))

variable {n used count : Nat} {memory : Nat → UInt8} {payload bytes : List UInt8}

private theorem contents_holding (beyond : Nat → UInt8) :
    contents (holding bytes beyond) bytes.length = bytes := by
  apply List.ext_getElem?
  intro index
  by_cases inside : index < bytes.length
  · rw [contents_getElem? inside, holding, List.getD_eq_getElem?_getD,
      List.getElem?_eq_getElem inside, Option.getD_some]
  · rw [List.getElem?_eq_none, List.getElem?_eq_none (Nat.not_lt.mp inside)]
    rw [contents_length]
    exact Nat.not_lt.mp inside

private theorem contents_drop (memory : Nat → UInt8) (n used : Nat) :
    (contents memory n).drop used = contents (fun place => memory (used + place)) (n - used) := by
  apply List.ext_getElem?
  intro index
  rw [List.getElem?_drop]
  by_cases inside : index < n - used
  · rw [contents_getElem? (by omega), contents_getElem? inside]
  · rw [List.getElem?_eq_none, List.getElem?_eq_none]
    · rw [contents_length]
      omega
    · rw [contents_length]
      omega

private theorem decodes_of_frame (small : n < 2 ^ 63)
    (decoded : decode (contents memory n) = .frame payload used) :
    Decodes n memory payload used := by
  have refines := @decodeIn_refines n memory small
  rw [decoded] at refines
  rw [Decodes]
  generalize decodeIn n ⟨memory, []⟩ = result at refines ⊢
  obtain ⟨outcome, pending⟩ := result
  exact ⟨refines.1, refines.2.2.2.1⟩

/-- What the `memmove` of `recv` brings to the front. -/
theorem recvCopies_rest (capacity : Nat) (small : n < 2 ^ 63) {length : Nat} (inside : used ≤ n)
    (buf : TracedMemory UInt8) :
    contents (recvCopies capacity n ⟨length, some used⟩ buf).memory (n - used) =
      (contents buf.memory n).drop used := by
  have copies : ∃ count, recvCopies capacity n ⟨length, some used⟩ buf =
      (buf.loadAll 0 count).2.move 0 used (n - used) := by
    have plain : ¬ (length : Int) = -1 := by omega
    have left : (n + 2 ^ 64 - used) % 2 ^ 64 = n - used := by omega
    refine ⟨if (length : Int) < capacity then ((length : Int) % 2 ^ 64).toNat else capacity, ?_⟩
    rw [recvCopies, if_neg plain, ← left]
    rfl
  obtain ⟨count, copied⟩ := copies
  rw [copied, contents_drop]
  refine contents_congr fun place near => ?_
  rw [move_memory, if_pos (by omega), loadAll_memory, Nat.sub_zero]

/-- What `recv` leaves pending behind a frame. -/
theorem recvIn_rest (capacity : Nat) (small : n < 2 ^ 63)
    (decoded : decode (contents memory n) = .frame payload used) :
    contents (recvIn capacity n memory).2.memory (n - used) = (contents memory n).drop used := by
  have refines := @decodeIn_refines n memory small
  rw [decoded] at refines
  rw [recvIn]
  generalize decodeIn n ⟨memory, []⟩ = result at refines ⊢
  obtain ⟨outcome, pending⟩ := result
  obtain ⟨rfl, fits, inside, -, behind, -⟩ := refines
  refine (recvCopies_rest capacity small inside pending).trans ?_
  rw [contents_drop, contents_drop]
  -- `decode` has not touched what is behind the payload
  exact contents_congr fun place near => behind _ (by omega)

/-- A part of a frame is left as it is. -/
theorem decodeIn_incomplete (small : n < 2 ^ 63)
    (decoded : decode (contents memory n) = .incomplete) :
    (decodeIn n ⟨memory, []⟩).1 = failed ∧ (decodeIn n ⟨memory, []⟩).2.memory = memory := by
  have refines := @decodeIn_refines n memory small
  rw [decoded] at refines
  generalize decodeIn n ⟨memory, []⟩ = result at refines ⊢
  obtain ⟨outcome, pending⟩ := result
  exact ⟨refines.1, refines.2.1⟩

private theorem decode_append (frame : Frame) (suffix : List UInt8) :
    decode (frame.encode ++ suffix) = .frame frame.payload frame.encode.length := by
  have whole := decode_take frame suffix (frame.encode ++ suffix).length
  rw [List.take_length, if_pos] at whole
  · exact whole
  · rw [List.length_append]
    exact Nat.le_add_right _ _

private theorem decode_part (frame : Frame) (early : count < frame.encode.length) :
    decode (frame.encode.take count) = .incomplete := by
  have part := decode_take frame [] count
  rw [List.append_nil, if_neg (Nat.not_le.mpr early)] at part
  exact part

/-- Every frame with other bytes behind it, as far as the buffer takes them, is decoded to its
payload and taken off the buffer, whether it is masked or not and however its length is written;
a part of a frame stays where it is. The packets of `send` are such frames, and they are decoded
in larger buffers too. -/
theorem codec_roundTrip (beyond : Nat → UInt8) :
    (∀ (frame : Frame) (suffix : List UInt8), (frame.encode ++ suffix).length ≤ 1023 →
      Decodes (frame.encode ++ suffix).length (holding (frame.encode ++ suffix) beyond)
          frame.payload frame.encode.length ∧
        (∀ capacity, contents (recvIn capacity (frame.encode ++ suffix).length
            (holding (frame.encode ++ suffix) beyond)).2.memory suffix.length = suffix) ∧
        ∀ digest read answers capacity ws,
          (fillPending read ws).pending = frame.encode ++ suffix →
            (fillPending read ws).fd ≠ none → ws.doneHeaders = true →
              recv digest read answers capacity ws =
                (.frame (frame.payload.take capacity) frame.encode.length,
                  { fillPending read ws with pending := suffix })) ∧
      (∀ (frame : Frame) (count : Nat), frame.encode.length ≤ 1023 →
        count < frame.encode.length →
          (decodeIn count ⟨holding (frame.encode.take count) beyond, []⟩).1 = failed ∧
            (decodeIn count ⟨holding (frame.encode.take count) beyond, []⟩).2.memory =
              holding (frame.encode.take count) beyond) ∧
      (∀ buf : List UInt8, buf.length < 2 ^ 63 →
        ∃ frame : Frame, frame.payload = buf ∧ frame.mask = none ∧ packet buf = frame.encode) ∧
      ∀ buf suffix : List UInt8, buf.length < 2 ^ 32 → (packet buf ++ suffix).length < 2 ^ 63 →
        Decodes (packet buf ++ suffix).length (holding (packet buf ++ suffix) beyond) buf
          (packet buf).length := by
  refine ⟨fun frame suffix small => ?_, fun frame count small early => ?_, fun buf small => ?_,
    fun buf suffix small large => ?_⟩
  · have decoded := decode_append frame suffix
    have held : decode (contents (holding (frame.encode ++ suffix) beyond)
        (frame.encode ++ suffix).length) = .frame frame.payload frame.encode.length := by
      rw [contents_holding]
      exact decoded
    refine ⟨decodes_of_frame (by omega) held, fun capacity => ?_, ?_⟩
    · have rest := recvIn_rest capacity (by omega) held
      have length : (frame.encode ++ suffix).length - frame.encode.length = suffix.length := by
        rw [List.length_append]
        omega
      rw [contents_holding, List.drop_left, length] at rest
      exact rest
    · intro digest read answers capacity ws filled isOpen done
      have stays : (fillPending read ws).doneHeaders = true := by
        rw [← done, fillPending]
        split
        · split <;> rfl
        · rfl
      rw [recv]
      dsimp only
      rw [if_neg isOpen, if_pos stays, filled, decoded]
      dsimp only
      rw [List.drop_left]
  · have short : (frame.encode.take count).length = count := by
      rw [List.length_take]
      omega
    have held := @contents_holding (frame.encode.take count) beyond
    rw [short] at held
    refine decodeIn_incomplete (by omega) ?_
    rw [held]
    exact decode_part frame early
  · exact ⟨binaryFrame buf small, rfl, rfl, packet_eq_encode buf small⟩
  · refine decodes_of_frame large ?_
    rw [contents_holding]
    exact decode_packet buf suffix (by omega)

private theorem maskedFrame_four : ∀ key ∈ some ([1, 2, 3, 4] : List UInt8), key.length = 4 := by
  intro key same
  cases same
  rfl

/-- A masked frame of two bytes. -/
def maskedFrame : Frame :=
  ⟨0x82, .short, some [1, 2, 3, 4], [0x62, 0x63], Frame.binary_reserved, by decide,
    maskedFrame_four⟩

/-- A masked frame with a byte behind it, its front part, and a packet of the proxy. -/
theorem codec_roundTrip_masked :
    Decodes 9 (holding (maskedFrame.encode ++ [0x2a]) fun _ => 0) [0x62, 0x63] 8 ∧
      contents (recvIn 10239 9 (holding (maskedFrame.encode ++ [0x2a]) fun _ => 0)).2.memory 1 =
        [0x2a] ∧
      (decodeIn 7 ⟨holding (maskedFrame.encode.take 7) fun _ => 0, []⟩).1 = failed ∧
      Decodes 4 (holding (packet [0x62, 0x63] ++ []) fun _ => 0) [0x62, 0x63] 4 := by
  obtain ⟨whole, part, -, sent⟩ := codec_roundTrip fun _ => 0
  obtain ⟨decodes, rest, -⟩ := whole maskedFrame [0x2a] (by decide)
  exact ⟨decodes, rest 10239, (part maskedFrame 7 (by decide) (by decide)).1,
    sent [0x62, 0x63] [] (by decide) (by decide)⟩

end SupportProxy.WebSocket
