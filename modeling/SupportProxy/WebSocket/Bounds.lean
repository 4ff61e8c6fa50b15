import SupportProxy.WebSocket.Frames
import SupportProxy.Library.TracedMemory

/-! # Bounds of the receive buffer

`WebSocket::decode` on the memory it works in, with every access, and the copies that `recv`
makes of what it decodes. `decodeIn_refines` connects it with `decode` on lists, and
`recv_safe_iff` says when everything stays inside of the bytes that have been received. -/

namespace SupportProxy.WebSocket

open ByteLayout TracedMemory

/-- What `decode` returns, and what it sets `used` to. -/
structure Outcome where
  value : Int
  used : Option Nat
deriving DecidableEq

/-- -1, before `used` is set. -/
def failed : Outcome := ⟨-1, none⟩

/-- A `uint64_t` as a `ssize_t`. -/
def ssize (number : Nat) : Int := (BitVec.ofNat 64 number).toInt

/-- The loop of `decode` from an index on. -/
def unmaskLoop (mask : List UInt8) (pos : Nat) :
    Nat → Nat → TracedMemory UInt8 → TracedMemory UInt8
  | _, 0, buf => buf
  | i, left + 1, buf =>
      let (byte, buf) := buf.load ((pos + i) % 2 ^ 64)
      unmaskLoop mask pos (i + 1) left (buf.store i (byte ^^^ mask.getD (i % 4) 0))

/-- `decode` behind the length. -/
def decodePayloadIn (n : Nat) (masked : Bool) (payloadLen pos : Nat) (buf : TracedMemory UInt8) :
    Outcome × TracedMemory UInt8 :=
  if masked then
    if n < (pos + 4 + payloadLen) % 2 ^ 64 then (failed, buf)
    else
      let (mask, buf) := buf.loadAll pos 4
      let pos := pos + 4
      (⟨ssize payloadLen, some ((pos + payloadLen) % 2 ^ 64)⟩, unmaskLoop mask pos 0 payloadLen buf)
  else
    if n < (pos + payloadLen) % 2 ^ 64 then (failed, buf)
    else
      (⟨ssize payloadLen, some ((pos + payloadLen) % 2 ^ 64)⟩, buf.move 0 pos payloadLen)

/-- `WebSocket::decode` on the first `n` bytes of a memory. -/
def decodeIn (n : Nat) (buf : TracedMemory UInt8) : Outcome × TracedMemory UInt8 :=
  if n < 2 then (failed, buf)
  else
    let (_, buf) := buf.load 0
    let (second, buf) := buf.load 1
    let masked := decide (128 ≤ second.toNat)
    let payloadLen := second.toNat % 128
    if payloadLen = 126 then
      if n < 4 then (failed, buf)
      else
        let (field, buf) := buf.loadAll 2 2
        decodePayloadIn n masked (bigValue field) 4 buf
    else if payloadLen = 127 then
      if n < 10 then (failed, buf)
      else
        let (field, buf) := buf.loadAll 2 8
        decodePayloadIn n masked (bigValue field) 10 buf
    else decodePayloadIn n masked payloadLen 2 buf

/-- The `memcpy` and the `memmove` of `recv` into `n` bytes. -/
def recvCopies (n npending : Nat) (outcome : Outcome) (pending : TracedMemory UInt8) :
    TracedMemory UInt8 :=
  if outcome.value = -1 then pending
  else
    let n := if outcome.value < n then (outcome.value % 2 ^ 64).toNat else n
    let used := outcome.used.getD 0
    ((pending.loadAll 0 n).2).move 0 used ((npending + 2 ^ 64 - used) % 2 ^ 64)

/-- `recv` once the first `npending` bytes are there: what `decode` returns, and the memory
after all accesses. -/
def recvIn (n npending : Nat) (memory : Nat → UInt8) : Outcome × TracedMemory UInt8 :=
  let (outcome, pending) := decodeIn npending ⟨memory, []⟩
  (outcome, recvCopies n npending outcome pending)

/-- No access leaves the bytes that are there, and what is decoded fits into them. -/
def Safe (npending : Nat) (result : Outcome × TracedMemory UInt8) : Prop :=
  result.2.InBounds npending ∧
    (result.1.value ≠ -1 → ∃ length used : Nat, result.1.value = length ∧
      result.1.used = some used ∧ length ≤ used ∧ used ≤ npending)

/-- The length check wraps around: the length has eight bytes, and with the header it comes to
2^64 or more but, modulo 2^64, to no more than there is. -/
def Wraps (npending : Nat) (memory : Nat → UInt8) : Prop :=
  (memory 1).toNat % 128 = 127 ∧ 10 ≤ npending ∧
    let total := (if 128 ≤ (memory 1).toNat then 14 else 10) +
      bigValue (contents (fun place => memory (2 + place)) 8)
    2 ^ 64 ≤ total ∧ total ≤ 2 ^ 64 + npending

/-- What `decode` does in the memory is what it makes of the bytes. -/
def Refines (n : Nat) (memory : Nat → UInt8) : Decoded → Outcome × TracedMemory UInt8 → Prop
  | .incomplete, (outcome, buf) => outcome = failed ∧ buf.memory = memory ∧ buf.InBounds n
  | .frame payload used, (outcome, buf) =>
      outcome = ⟨payload.length, some used⟩ ∧ payload.length ≤ used ∧ used ≤ n ∧
        contents buf.memory payload.length = payload ∧
        (∀ place, payload.length ≤ place → buf.memory place = memory place) ∧ buf.InBounds n
  | .overrun, (_, buf) => ¬ buf.InBounds n

variable {mask : List UInt8} {n pos i left payloadLen : Nat} {masked : Bool}
  {buf : TracedMemory UInt8} {memory : Nat → UInt8}

/-! ## The loop -/

private theorem inBounds_unmaskLoop : (unmaskLoop mask pos i left buf).InBounds n ↔
    buf.InBounds n ∧ ∀ step < left, (pos + i + step) % 2 ^ 64 < n ∧ i + step < n := by
  induction left generalizing i buf with
  | zero => exact (and_iff_left fun step absurd => (Nat.not_lt_zero _ absurd).elim).symm
  | succ left ih =>
      rw [unmaskLoop]
      dsimp only
      rw [ih, inBounds_store, inBounds_load]
      have read : ∀ step, pos + (i + 1) + step = pos + i + (step + 1) := fun step => by omega
      have write : ∀ step, i + 1 + step = i + (step + 1) := fun step => by omega
      simp only [read, write]
      constructor
      · rintro ⟨⟨write, read, before⟩, rest⟩
        refine ⟨before, fun step inside => ?_⟩
        cases step with
        | zero => exact ⟨read, write⟩
        | succ step => exact rest step (Nat.lt_of_succ_lt_succ inside)
      · rintro ⟨before, every⟩
        refine ⟨⟨(every 0 (Nat.succ_pos _)).2, (every 0 (Nat.succ_pos _)).1, before⟩,
          fun step inside => ?_⟩
        exact every (step + 1) (Nat.succ_lt_succ inside)

/-- The loop reads ahead of what it writes. -/
theorem unmaskLoop_memory (ahead : 0 < pos) (small : pos + i + left ≤ 2 ^ 64) (place : Nat) :
    (unmaskLoop mask pos i left buf).memory place =
      if i ≤ place ∧ place < i + left then buf.memory (pos + place) ^^^ mask.getD (place % 4) 0
      else buf.memory place := by
  induction left generalizing i buf with
  | zero => rw [unmaskLoop, if_neg (by omega)]
  | succ left ih =>
      rw [unmaskLoop]
      dsimp only
      rw [ih (by omega), store_memory, store_memory, load_memory]
      have plain : (pos + i) % 2 ^ 64 = pos + i := Nat.mod_eq_of_lt (by omega)
      rcases Nat.lt_trichotomy place i with below | rfl | above
      · rw [if_neg (by omega), if_neg (by omega), if_neg (by omega)]
      · rw [if_neg (by omega), if_pos rfl, if_pos (by omega), load, plain]
      · by_cases inside : place < i + (left + 1)
        · rw [if_pos (by omega), if_neg (by omega), if_pos (by omega)]
        · rw [if_neg (by omega), if_neg (by omega), if_neg (by omega)]

private theorem ssize_of_lt (small : payloadLen < 2 ^ 63) : ssize payloadLen = payloadLen := by
  rw [ssize, BitVec.toInt_eq_toNat_of_lt]
  · rw [BitVec.toNat_ofNat, Nat.mod_eq_of_lt (by omega)]
  · rw [BitVec.toNat_ofNat, Nat.mod_eq_of_lt (by omega)]
    omega

/-- The fields of the bytes that are there. -/
theorem slice_contents {offset width : Nat} (inside : offset + width ≤ n) :
    slice offset width (contents memory n) =
      contents (fun place => memory (offset + place)) width := by
  apply List.ext_getElem?
  intro index
  rw [slice, List.getElem?_take, List.getElem?_drop]
  split_ifs with front
  · rw [contents_getElem? (by omega), contents_getElem? front]
  · rw [List.getElem?_eq_none]
    rw [contents_length]
    omega

/-! ## Behind the length -/

private theorem decodePayloadIn_refines (small : n < 2 ^ 63) (header : pos ≤ n)
    (narrow : 2 ≤ pos ∧ pos ≤ 10)
    (size : payloadLen < 2 ^ 64) (clean : buf.InBounds n) (same : buf.memory = memory) :
    Refines n memory (decodePayload masked payloadLen pos (contents memory n))
      (decodePayloadIn n masked payloadLen pos buf) := by
  subst same
  rw [decodePayload, decodePayloadIn, contents_length]
  dsimp only
  cases masked with
  | true =>
      rw [if_pos rfl, if_pos rfl]
      by_cases short : n < (pos + 4 + payloadLen) % 2 ^ 64
      · rw [if_pos short, if_pos short]
        exact ⟨rfl, rfl, clean⟩
      rw [if_neg short, if_neg short]
      by_cases wraps : n < pos + 4 + payloadLen
      · -- the sum is short modulo 2^64 only
        rw [if_pos wraps]
        intro bounds
        have last := (inBounds_unmaskLoop.mp bounds).2 n (by omega)
        omega
      · have whole : (pos + 4 + payloadLen) % 2 ^ 64 = pos + 4 + payloadLen :=
          Nat.mod_eq_of_lt (by omega)
        rw [if_neg wraps, if_pos rfl, whole, ssize_of_lt (by omega), slice_contents (by omega),
          slice_contents (by omega), loadAll_cells]
        refine ⟨?_, ?_, by omega, ?_, ?_, ?_⟩
        · rw [unmask_length, contents_length]
        · rw [unmask_length, contents_length]
          omega
        · rw [unmask_length, contents_length]
          apply List.ext_getElem?
          intro index
          rw [unmask, List.getElem?_mapIdx]
          by_cases inside : index < payloadLen
          · rw [contents_getElem? inside, contents_getElem? inside,
              unmaskLoop_memory (by omega) (by omega), if_pos (by omega), loadAll_memory]
            rfl
          · rw [List.getElem?_eq_none, List.getElem?_eq_none, Option.map_none]
            · rw [contents_length]
              omega
            · rw [contents_length]
              omega
        · intro place above
          rw [unmask_length, contents_length] at above
          rw [unmaskLoop_memory (by omega) (by omega), if_neg (by omega), loadAll_memory]
        · rw [inBounds_unmaskLoop, inBounds_loadAll]
          refine ⟨⟨clean, .inr (by omega)⟩, fun step inside => ⟨?_, by omega⟩⟩
          rw [Nat.mod_eq_of_lt (by omega)]
          omega
  | false =>
      rw [if_neg Bool.false_ne_true, if_neg Bool.false_ne_true]
      by_cases short : n < (pos + payloadLen) % 2 ^ 64
      · rw [if_pos short, if_pos short]
        exact ⟨rfl, rfl, clean⟩
      rw [if_neg short, if_neg short]
      by_cases wraps : n < pos + payloadLen
      · rw [if_pos wraps]
        intro bounds
        have last := (inBounds_move.mp bounds).2
        omega
      · have whole : (pos + payloadLen) % 2 ^ 64 = pos + payloadLen := Nat.mod_eq_of_lt (by omega)
        rw [if_neg wraps, if_neg Bool.false_ne_true, whole, ssize_of_lt (by omega),
          slice_contents (by omega)]
        refine ⟨?_, ?_, by omega, ?_, ?_, ?_⟩
        · rw [contents_length]
        · rw [contents_length]
          omega
        · rw [contents_length]
          refine List.map_congr_left fun place inside => ?_
          rw [List.mem_range] at inside
          rw [move_memory, if_pos (by omega), Nat.sub_zero]
        · intro place above
          rw [contents_length] at above
          rw [move_memory, if_neg (by omega)]
        · rw [inBounds_move]
          exact ⟨clean, .inr (by omega)⟩

/-! ## The whole frame -/

private theorem bigValue_lt (data : List UInt8) : bigValue data < 256 ^ data.length := by
  rw [bigValue, ← List.length_reverse]
  exact value_lt data.reverse

/-- `decode` in the memory does what it does on lists. -/
theorem decodeIn_refines (small : n < 2 ^ 63) :
    Refines n memory (decode (contents memory n)) (decodeIn n ⟨memory, []⟩) := by
  have untouched : InBounds n (⟨memory, []⟩ : TracedMemory UInt8) := List.forall_mem_nil _
  rw [decode, decodeIn, contents_length]
  by_cases tiny : n < 2
  · rw [if_pos tiny, if_pos tiny]
    exact ⟨rfl, rfl, untouched⟩
  rw [if_neg tiny, if_neg tiny]
  have second : (contents memory n).getD 1 0 = memory 1 := by
    rw [List.getD_eq_getElem?_getD, contents_getElem? (by omega), Option.getD_some]
  have header : (((⟨memory, []⟩ : TracedMemory UInt8).load 0).2.load 1).2.InBounds n := by
    rw [inBounds_load, inBounds_load]
    exact ⟨by omega, by omega, untouched⟩
  have same : (((⟨memory, []⟩ : TracedMemory UInt8).load 0).2.load 1).2.memory = memory := rfl
  have byte : (((⟨memory, []⟩ : TracedMemory UInt8).load 0).2.load 1).1 = memory 1 := rfl
  dsimp only
  rw [second, byte]
  generalize (((⟨memory, []⟩ : TracedMemory UInt8).load 0).2.load 1).2 = read at header same
  -- the number behind the second byte
  have number : ∀ width, 2 + width ≤ n → 256 ^ width ≤ 2 ^ 64 →
      Refines n memory (decodePayload (decide (128 ≤ (memory 1).toNat))
          (bigValue (slice 2 width (contents memory n))) (2 + width) (contents memory n))
        (decodePayloadIn n (decide (128 ≤ (memory 1).toNat)) (bigValue (loadAll 2 width read).1)
          (2 + width) (loadAll 2 width read).2) := by
    intro width inside narrow
    have bound := bigValue_lt (contents (fun place => memory (2 + place)) width)
    rw [contents_length] at bound
    have cells : (loadAll 2 width read).1 = contents (fun place => memory (2 + place)) width := by
      rw [loadAll_cells, same]
    have eight : width ≤ 8 := by
      by_contra wide
      have grows : 256 ^ 9 ≤ 256 ^ width := Nat.pow_le_pow_right (by norm_num) (by omega)
      omega
    rw [slice_contents inside, cells]
    refine decodePayloadIn_refines small inside (by omega) (bound.trans_le narrow) ?_ ?_
    · exact inBounds_loadAll.mpr ⟨header, .inr inside⟩
    · rw [loadAll_memory, same]
  by_cases medium : (memory 1).toNat % 128 = 126
  · rw [if_pos medium, if_pos medium]
    by_cases short : n < 4
    · rw [if_pos short, if_pos short]
      exact ⟨rfl, same, header⟩
    · rw [if_neg short, if_neg short]
      exact number 2 (by omega) (by omega)
  rw [if_neg medium, if_neg medium]
  by_cases long : (memory 1).toNat % 128 = 127
  · rw [if_pos long, if_pos long]
    by_cases short : n < 10
    · rw [if_pos short, if_pos short]
      exact ⟨rfl, same, header⟩
    · rw [if_neg short, if_neg short]
      exact number 8 (by omega) (by omega)
  rw [if_neg long, if_neg long]
  exact decodePayloadIn_refines small (by omega) (by omega) (by omega) header same

private theorem decodePayload_overrun {payload : Nat} {bytes : List UInt8} :
    decodePayload masked payload pos bytes = .overrun ↔
      (if masked then pos + 4 else pos) + payload > bytes.length ∧
        ((if masked then pos + 4 else pos) + payload) % 2 ^ 64 ≤ bytes.length := by
  rw [decodePayload]
  generalize (if masked then pos + 4 else pos) + payload = total
  by_cases short : bytes.length < total % 2 ^ 64
  · rw [if_pos short]
    exact ⟨by simp, fun both => absurd short (Nat.not_lt.mpr both.2)⟩
  rw [if_neg short]
  by_cases wraps : bytes.length < total
  · rw [if_pos wraps]
    exact iff_of_true rfl ⟨wraps, Nat.not_lt.mp short⟩
  · rw [if_neg wraps]
    refine iff_of_false ?_ fun both => wraps both.1
    cases masked <;> simp

/-- The bytes that make `decode` leave the buffer. -/
theorem decode_overrun_iff (small : n ≤ 1023) :
    decode (contents memory n) = .overrun ↔ Wraps n memory := by
  rw [decode, Wraps, contents_length]
  by_cases tiny : n < 2
  · rw [if_pos tiny]
    exact ⟨by simp, fun wraps => absurd wraps.2.1 (by omega)⟩
  have second : (contents memory n).getD 1 0 = memory 1 := by
    rw [List.getD_eq_getElem?_getD, contents_getElem? (by omega), Option.getD_some]
  have low : (memory 1).toNat % 128 < 128 := Nat.mod_lt _ (by omega)
  rw [if_neg tiny, second]
  by_cases medium : (memory 1).toNat % 128 = 126
  · rw [if_pos medium]
    refine iff_of_false ?_ fun wraps => absurd (medium.symm.trans wraps.1) (by omega)
    by_cases short : n < 4
    · rw [if_pos short]
      simp
    · rw [if_neg short, slice_contents (by omega), decodePayload_overrun, contents_length]
      have bound := bigValue_lt (contents (fun place => memory (2 + place)) 2)
      rw [contents_length] at bound
      rintro ⟨above, below⟩
      rw [Nat.mod_eq_of_lt] at below
      · exact absurd above (Nat.not_lt.mpr below)
      · split_ifs <;> omega
  rw [if_neg medium]
  by_cases long : (memory 1).toNat % 128 = 127
  · rw [if_pos long, and_iff_right long]
    by_cases short : n < 10
    · rw [if_pos short]
      exact ⟨by simp, fun wraps => absurd wraps.1 (by omega)⟩
    · have least : 10 ≤ n := Nat.not_lt.mp short
      rw [if_neg short, and_iff_right least, slice_contents (by omega), decodePayload_overrun,
        contents_length]
      have bound := bigValue_lt (contents (fun place => memory (2 + place)) 8)
      rw [contents_length] at bound
      generalize bigValue (contents (fun place => memory (2 + place)) 8) = length at bound
      by_cases masked : 128 ≤ (memory 1).toNat
      · rw [decide_eq_true masked, if_pos rfl, if_pos masked]
        omega
      · rw [decide_eq_false masked, if_neg Bool.false_ne_true, if_neg masked]
        omega
  · rw [if_neg long, decodePayload_overrun, contents_length]
    refine iff_of_false ?_ fun wraps => long wraps.1
    rintro ⟨above, below⟩
    rw [Nat.mod_eq_of_lt] at below
    · exact absurd above (Nat.not_lt.mpr below)
    · split_ifs <;> omega

/-! ## The copies of recv -/

private theorem inBounds_of_recvCopies {capacity : Nat} {outcome : Outcome}
    (bounds : (recvCopies capacity n outcome buf).InBounds n) : buf.InBounds n := by
  rw [recvCopies] at bounds
  split_ifs at bounds
  · exact bounds
  · exact (inBounds_loadAll.mp (inBounds_move.mp bounds).1).1
  · exact (inBounds_loadAll.mp (inBounds_move.mp bounds).1).1

/-- The copies of a frame that fits. -/
theorem inBounds_recvCopies (small : n < 2 ^ 63) {capacity length used : Nat} (fits : length ≤ used)
    (inside : used ≤ n) (clean : buf.InBounds n) :
    (recvCopies capacity n ⟨length, some used⟩ buf).InBounds n := by
  have count : (if (length : Int) < capacity then ((length : Int) % 2 ^ 64).toNat else capacity) ≤
      n := by
    split_ifs <;> omega
  have left : (n + 2 ^ 64 - used) % 2 ^ 64 = n - used := by omega
  have plain : ¬ (length : Int) = -1 := by omega
  rw [recvCopies, if_neg plain]
  dsimp only
  rw [Option.getD_some, left, inBounds_move, inBounds_loadAll]
  exact ⟨⟨clean, .inr (by omega)⟩, .inr (by omega)⟩

private theorem recv_safe_iff_decode (capacity : Nat) {npending : Nat} (small : npending ≤ 1023)
    (memory : Nat → UInt8) :
    Safe npending (recvIn capacity npending memory) ↔
      decode (contents memory npending) ≠ .overrun := by
  have refines := @decodeIn_refines npending memory (by omega)
  rw [recvIn]
  generalize decodeIn npending ⟨memory, []⟩ = result at refines ⊢
  obtain ⟨outcome, pending⟩ := result
  cases decoded : decode (contents memory npending) with
  | incomplete =>
      rw [decoded] at refines
      obtain ⟨rfl, -, clean⟩ := refines
      exact iff_of_true ⟨clean, fun absurd => (absurd rfl).elim⟩ (by simp)
  | frame payload used =>
      rw [decoded] at refines
      obtain ⟨rfl, fits, inside, -, -, clean⟩ := refines
      refine iff_of_true ⟨inBounds_recvCopies (by omega) fits inside clean, fun _ => ?_⟩ (by simp)
      exact ⟨payload.length, used, rfl, rfl, fits, inside⟩
  | overrun =>
      rw [decoded] at refines
      exact iff_of_false (fun safe => refines (inBounds_of_recvCopies safe.1)) fun absurd =>
        absurd rfl

/-- Nothing but the received bytes is touched, and what is decoded fits into them, just when the
length check does not wrap around. -/
theorem recv_safe_iff (capacity : Nat) {npending : Nat} (small : npending ≤ 1023)
    (memory : Nat → UInt8) :
    Safe npending (recvIn capacity npending memory) ↔ ¬ Wraps npending memory :=
  (recv_safe_iff_decode capacity small memory).trans (not_congr (decode_overrun_iff small))

/-- The masked frame of an `a`. -/
def letterFrame (place : Nat) : UInt8 := [0x82, 0x81, 1, 2, 3, 4, 0x60].getD place 0

/-- One masked letter is received inside of the buffers. -/
theorem recv_safe_iff_letter : Safe 7 (recvIn 10239 7 letterFrame) :=
  (recv_safe_iff 10239 (by simp) letterFrame).mpr
    fun ⟨long, _⟩ => absurd long (by simp [letterFrame])

/-- A header that announces 2^64 - 1 bytes. -/
def endlessFrame (place : Nat) : UInt8 :=
  [0x82, 0x7f, 0xff, 0xff, 0xff, 0xff, 0xff, 0xff, 0xff, 0xff].getD place 0

/-- A frame with an endless length is read outside of the buffers. -/
theorem recv_unsafe_endless : ¬ Safe 10 (recvIn 10239 10 endlessFrame) := by
  have overruns : decode (contents endlessFrame 10) = .overrun := by decide +kernel
  rw [recv_safe_iff_decode 10239 (by simp), overruns]
  exact fun absurd => absurd rfl

end SupportProxy.WebSocket
