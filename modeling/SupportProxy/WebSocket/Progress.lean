import SupportProxy.WebSocket.Stream
import SupportProxy.Library.History

/-! # Progress of the receiver

`WebSocket::recv` after the handshake, on a stream of frames that the transport delivers in any
pieces. `run_progress` says for which frames it never gets stuck. -/

namespace SupportProxy

open ByteLayout WebSocket Engineer

/-- What the transport does when `fill_pending` asks it. -/
inductive Supply
  /-- the next bytes of the stream, as many as fit; without any, try again -/
  | bytes (count : Nat)
  | eof
  | error

/-- A `WebSocket`, and how much of the stream it has read. -/
structure Receiver where
  ws : WebSocket
  taken : Nat

namespace Supply

variable (stream : List UInt8)

def answer (taken : Nat) : Supply → Nat → ReadAnswer
  | .bytes count, space =>
      let part := (stream.drop taken).take (min count space)
      if part = [] then .again else .data part
  | .eof, _ => .eof
  | .error, _ => .error

/-- There is something to read: bytes, the end of the stream or an error. -/
def Readable (receiver : Receiver) : Supply → Prop
  | .bytes count => 0 < count ∧ receiver.taken < stream.length
  | .eof | .error => True

end Supply

namespace Receiver

variable (digest : List UInt8 → List UInt8) (n : Nat) (stream : List UInt8)

/-- One `recv` into `n` bytes. -/
def recv (supply : Supply) (receiver : Receiver) : Received × Receiver :=
  let read := supply.answer stream receiver.taken
  let filled := receiver.ws.fillPending read
  let (received, ws) := receiver.ws.recv digest read [.all] n
  (received, ⟨ws, receiver.taken + (filled.pending.length - receiver.ws.pending.length)⟩)

/-- The receiver after calls of `recv`. -/
abbrev after (receiver : Receiver) (history : List Supply) : Receiver :=
  History.replay (fun supply receiver => (receiver.recv digest n stream supply).2) receiver
    history

/-- The call returns an error or a frame, or adds to the pending bytes. -/
def Progresses (supply : Supply) (receiver : Receiver) : Prop :=
  match receiver.recv digest n stream supply with
  | (.error, _) => True
  | (.frame _ _, _) => True
  | (.nothing, next) => receiver.ws.pending.length < next.ws.pending.length
  | (.overrun, _) => False

/-- The pending bytes are full and no frame, and every later call returns 0 and leaves them. -/
def Wedged (receiver : Receiver) : Prop :=
  receiver.ws.pending.length = 1023 ∧ decode receiver.ws.pending = .incomplete ∧
    ∀ later supply, ((receiver.after digest n stream later).recv digest n stream supply).1 =
        .nothing ∧
      ((receiver.after digest n stream later).recv digest n stream supply).2.ws.pending =
        receiver.ws.pending

/-- In no state that it can get into is the receiver stuck. -/
structure NeverWedges (start : Receiver) : Prop where
  progresses : ∀ history supply,
    supply.Readable stream (start.after digest n stream history) →
      (start.after digest n stream history).Progresses digest n stream supply
  unwedged : ∀ history, ¬ (start.after digest n stream history).Wedged digest n stream

/-- The handshake is done, and nothing is pending. -/
structure Opened (receiver : Receiver) : Prop where
  isOpen : receiver.ws.fd.isSome = true
  headers : receiver.ws.doneHeaders = true
  pending : receiver.ws.pending = []
  taken : receiver.taken = 0

/-- How much of the stream is read after a call. -/
def reads (frames : List Frame) (done count : Nat) (receiver : Receiver) : Nat :=
  receiver.taken + min (min count (1023 - (receiver.taken - offset [] frames done)))
    ((encodeAll frames).length - receiver.taken)

/-- Some frames have been returned, and what was read behind them is pending. -/
structure Held (frames : List Frame) (done : Nat) (receiver : Receiver) : Prop where
  isOpen : receiver.ws.fd.isSome = true
  headers : receiver.ws.doneHeaders = true
  begun : offset [] frames done ≤ receiver.taken
  inside : receiver.taken ≤ (encodeAll frames).length
  room : receiver.taken ≤ offset [] frames done + 1023
  pending : receiver.ws.pending =
    ((encodeAll frames).take receiver.taken).drop (offset [] frames done)

variable {digest n} {frames : List Frame} {done : Nat} {receiver : Receiver}

private theorem Opened.held (opened : Opened receiver) : Held frames 0 receiver := by
  refine ⟨opened.isOpen, opened.headers, Nat.zero_le _, ?_, ?_, ?_⟩
  · rw [opened.taken]
    exact Nat.zero_le _
  · rw [opened.taken]
    exact Nat.zero_le _
  · rw [opened.pending, opened.taken, List.take_zero, List.drop_nil]

namespace Held

variable (held : Held frames done receiver)

include held

private theorem pending_length :
    receiver.ws.pending.length = receiver.taken - offset [] frames done := by
  rw [held.pending, List.length_drop, List.length_take, Nat.min_eq_left held.inside]

private theorem reads_bounds (count : Nat) : receiver.taken ≤ receiver.reads frames done count ∧
    receiver.reads frames done count ≤ (encodeAll frames).length ∧
    receiver.reads frames done count ≤ offset [] frames done + 1023 := by
  have inside := held.inside
  have begun := held.begun
  have room := held.room
  rw [reads]
  omega

/-- What `fill_pending` reads of the stream. -/
theorem fillPending (count : Nat) :
    receiver.ws.fillPending ((Supply.bytes count).answer (encodeAll frames) receiver.taken) =
      { receiver.ws with pending := ((encodeAll frames).take
          (receiver.reads frames done count)).drop (offset [] frames done) } := by
  have size := held.pending_length
  have same : receiver.reads frames done count = receiver.taken → receiver.ws =
      { receiver.ws with pending := ((encodeAll frames).take
          (receiver.reads frames done count)).drop (offset [] frames done) } := by
    intro nothing
    rw [nothing, ← held.pending]
  rw [WebSocket.fillPending, size]
  by_cases space : 0 < 1023 - (receiver.taken - offset [] frames done)
  · rw [if_pos ⟨held.isOpen, space⟩, Supply.answer]
    dsimp only
    have length : (((encodeAll frames).drop receiver.taken).take
        (min count (1023 - (receiver.taken - offset [] frames done)))).length =
          receiver.reads frames done count - receiver.taken := by
      rw [List.length_take, List.length_drop, reads, Nat.add_sub_cancel_left]
    by_cases empty : ((encodeAll frames).drop receiver.taken).take
        (min count (1023 - (receiver.taken - offset [] frames done))) = []
    · rw [if_pos empty]
      rw [empty, List.length_nil] at length
      have bounds := (held.reads_bounds count).1
      exact same (by omega)
    · have more := pending_append (encodeAll frames) (encodeAll frames).length
        (min count (1023 - (receiver.taken - offset [] frames done))) held.begun held.inside
      rw [List.take_length] at more
      rw [if_neg empty]
      dsimp only
      rw [held.pending, more, reads]
  · rw [if_neg fun both => space both.2]
    refine same ?_
    rw [reads]
    omega

variable (digest n) in
/-- A call when the transport has bytes: the next frame if it is there, and else nothing. -/
theorem recv_bytes (count : Nat) :
    (∃ frame, frames[done]? = some frame ∧
      offset [] frames done + frame.encode.length ≤ receiver.reads frames done count ∧
      (receiver.recv digest n (encodeAll frames) (.bytes count)).1 =
        .frame (frame.payload.take n) frame.encode.length ∧
      Held frames (done + 1) (receiver.recv digest n (encodeAll frames) (.bytes count)).2 ∧
      (receiver.recv digest n (encodeAll frames) (.bytes count)).2.taken =
        receiver.reads frames done count) ∨
    (∀ frame, frames[done]? = some frame →
      receiver.reads frames done count < offset [] frames done + frame.encode.length) ∧
      (receiver.recv digest n (encodeAll frames) (.bytes count)).1 = .nothing ∧
      Held frames done (receiver.recv digest n (encodeAll frames) (.bytes count)).2 ∧
      (receiver.recv digest n (encodeAll frames) (.bytes count)).2.taken =
        receiver.reads frames done count := by
  obtain ⟨grows, inside, room⟩ := held.reads_bounds count
  have size := held.pending_length
  have isOpen : ¬ receiver.ws.fd = none := Option.isSome_iff_ne_none.mp held.isOpen
  have begun := held.begun
  have taken : receiver.taken + ((((encodeAll frames).take
      (receiver.reads frames done count)).drop (offset [] frames done)).length -
        receiver.ws.pending.length) = receiver.reads frames done count := by
    rw [List.length_drop, List.length_take, Nat.min_eq_left inside, size]
    omega
  have pending := decode_pending [] frames done (receiver.reads frames done count)
  rw [List.nil_append] at pending
  rw [recv, WebSocket.recv, held.fillPending]
  dsimp only
  rw [if_neg isOpen, if_pos held.headers]
  dsimp only
  rw [pending, taken]
  generalize receiver.reads frames done count = stop at *
  cases next : frames[done]? with
  | none =>
      exact .inr ⟨by simp, rfl,
        ⟨held.isOpen, held.headers, begun.trans grows, inside, room, rfl⟩, rfl⟩
  | some frame =>
      dsimp only
      by_cases whole : offset [] frames done + frame.encode.length ≤ stop
      · have behind := @offset_succ [] frames done frame next
        rw [if_pos whole]
        refine .inl ⟨frame, rfl, whole, rfl, ⟨held.isOpen, held.headers, ?_, inside, ?_, ?_⟩, rfl⟩
        · rw [behind]
          exact whole
        · refine room.trans ?_
          rw [behind]
          omega
        · rw [behind, ← List.drop_drop]
      · rw [if_neg whole]
        refine .inr ⟨fun other same => ?_, rfl,
          ⟨held.isOpen, held.headers, begun.trans grows, inside, room, rfl⟩, rfl⟩
        rw [← Option.some.inj same]
        exact Nat.lt_of_not_le whole

variable (digest n) in
/-- A call at the end of the stream, or after an error: it is reported, unless there is no space
to read into. -/
theorem recv_end {supply : Supply} (ends : supply = .eof ∨ supply = .error) :
    ((receiver.recv digest n (encodeAll frames) supply).1 = .error ∧
        (receiver.recv digest n (encodeAll frames) supply).2.ws.fd = none) ∨
      receiver.taken = offset [] frames done + 1023 ∧
        receiver.recv digest n (encodeAll frames) supply =
          receiver.recv digest n (encodeAll frames) (.bytes 0) := by
  have size := held.pending_length
  by_cases space : 0 < 1023 - (receiver.taken - offset [] frames done)
  · have fills : receiver.ws.fillPending (supply.answer (encodeAll frames) receiver.taken) =
        { receiver.ws with fd := none } := by
      rw [WebSocket.fillPending, size, if_pos ⟨held.isOpen, space⟩]
      rcases ends with rfl | rfl <;> rfl
    left
    rw [recv, WebSocket.recv, fills]
    exact ⟨rfl, rfl⟩
  · have full : ∀ read, receiver.ws.fillPending read = receiver.ws := by
      intro read
      rw [WebSocket.fillPending, size, if_neg fun both => space both.2]
    have room := held.room
    have begun := held.begun
    refine .inr ⟨by omega, ?_⟩
    rw [recv, recv, WebSocket.recv, WebSocket.recv, full, full]

end Held

/-- A closed receiver reports an error. -/
theorem recv_closed (closed : receiver.ws.fd = none) (supply : Supply) :
    (receiver.recv digest n stream supply).1 = .error ∧
      (receiver.recv digest n stream supply).2.ws.fd = none := by
  have shut : ¬ (receiver.ws.fd.isSome = true ∧ 0 < 1023 - receiver.ws.pending.length) := by
    rw [closed]
    exact fun both => Bool.false_ne_true both.1
  rw [recv, WebSocket.recv, WebSocket.fillPending, if_neg shut]
  dsimp only
  rw [if_pos closed]
  exact ⟨rfl, closed⟩

/-- The receiver is closed, or has returned some of the frames. -/
def Sound (frames : List Frame) (receiver : Receiver) : Prop :=
  receiver.ws.fd = none ∨ ∃ done, Held frames done receiver

private theorem Sound.recv (sound : Sound frames receiver) (supply : Supply) :
    Sound frames (receiver.recv digest n (encodeAll frames) supply).2 := by
  rcases sound with closed | ⟨done, held⟩
  · exact .inl (recv_closed (encodeAll frames) closed supply).2
  have bytes : ∀ count,
      Sound frames (receiver.recv digest n (encodeAll frames) (.bytes count)).2 := by
    intro count
    rcases held.recv_bytes digest n count with
      ⟨frame, -, -, -, next, -⟩ | ⟨-, -, next, -⟩
    · exact .inr ⟨done + 1, next⟩
    · exact .inr ⟨done, next⟩
  have ends : supply = .eof ∨ supply = .error →
      Sound frames (receiver.recv digest n (encodeAll frames) supply).2 := by
    intro ends
    rcases held.recv_end digest n ends with ⟨-, closed⟩ | ⟨-, same⟩
    · exact .inl closed
    · rw [same]
      exact bytes 0
  cases supply with
  | bytes count => exact bytes count
  | eof => exact ends (.inl rfl)
  | error => exact ends (.inr rfl)

private theorem Sound.after (sound : Sound frames receiver) (history : List Supply) :
    Sound frames (receiver.after digest n (encodeAll frames) history) := by
  induction history with
  | nil => exact sound
  | cons supply before ih => exact ih.recv supply

/-! ## Short frames -/

private theorem offset_le (frames : List Frame) (done : Nat) :
    offset [] frames done ≤ (encodeAll frames).length := by
  have split : encodeAll frames = encodeAll (frames.take done) ++ encodeAll (frames.drop done) := by
    rw [encodeAll, encodeAll, encodeAll, ← List.flatMap_append, List.take_append_drop]
  rw [offset, List.length_nil, Nat.zero_add, split, List.length_append]
  exact Nat.le_add_right _ _

/-- When there is no space left, a frame is whole. -/
theorem Held.whole (held : Held frames done receiver)
    (short : ∀ frame ∈ frames, frame.encode.length ≤ 1023)
    (full : receiver.taken = offset [] frames done + 1023) :
    ∃ frame, frames[done]? = some frame ∧
      offset [] frames done + frame.encode.length ≤ receiver.taken := by
  cases next : frames[done]? with
  | none =>
      have beyond : frames.length ≤ done := List.getElem?_eq_none_iff.mp next
      have inside := held.inside
      rw [full, offset, List.take_of_length_le beyond, List.length_nil] at inside
      omega
  | some frame =>
      have least := short frame (List.mem_of_getElem? next)
      exact ⟨frame, rfl, by omega⟩

private theorem Held.progresses (held : Held frames done receiver)
    (short : ∀ frame ∈ frames, frame.encode.length ≤ 1023) {supply : Supply}
    (readable : supply.Readable (encodeAll frames) receiver) :
    receiver.Progresses digest n (encodeAll frames) supply := by
  -- with a whole frame the call returns it
  have bytes : ∀ count, (receiver.taken = offset [] frames done + 1023 ∨
      0 < count ∧ receiver.taken < (encodeAll frames).length) →
        receiver.Progresses digest n (encodeAll frames) (.bytes count) := by
    intro count ready
    rw [Progresses]
    have size := held.pending_length
    have begun := held.begun
    have room := held.room
    have calls := held.recv_bytes digest n count
    generalize receiver.recv digest n (encodeAll frames) (.bytes count) = result at calls ⊢
    obtain ⟨received, next⟩ := result
    rcases calls with ⟨frame, -, -, returned, -⟩ | ⟨partial_, returned, later, taken⟩
    · cases returned
      trivial
    · cases returned
      have grown := later.pending_length
      have bounds := (held.reads_bounds count).1
      dsimp only at taken grown ⊢
      by_cases full : receiver.taken = offset [] frames done + 1023
      · obtain ⟨frame, there, whole⟩ := held.whole short full
        exact absurd (partial_ frame there) (by omega)
      · have more := ready.resolve_left full
        rw [size, grown, taken, reads]
        omega
  cases supply with
  | bytes count => exact bytes count (.inr readable)
  | eof =>
      rcases held.recv_end digest n (.inl rfl) with ⟨failed, -⟩ | ⟨full, same⟩
      · rw [Progresses]
        generalize receiver.recv digest n (encodeAll frames) .eof = result at failed ⊢
        obtain ⟨received, next⟩ := result
        cases failed
        trivial
      · rw [Progresses, same]
        exact bytes 0 (.inl full)
  | error =>
      rcases held.recv_end digest n (.inr rfl) with ⟨failed, -⟩ | ⟨full, same⟩
      · rw [Progresses]
        generalize receiver.recv digest n (encodeAll frames) .error = result at failed ⊢
        obtain ⟨received, next⟩ := result
        cases failed
        trivial
      · rw [Progresses, same]
        exact bytes 0 (.inl full)

private theorem neverWedges_of_short (opened : Opened receiver)
    (short : ∀ frame ∈ frames, frame.encode.length ≤ 1023) :
    NeverWedges digest n (encodeAll frames) receiver := by
  have start : Sound frames receiver := .inr ⟨0, opened.held⟩
  have sound : ∀ history, Sound frames (receiver.after digest n (encodeAll frames) history) :=
    fun history => start.after history
  refine ⟨fun history supply readable => ?_, fun history wedged => ?_⟩
  · rcases sound history with closed | ⟨done, held⟩
    · have failed : ((receiver.after digest n (encodeAll frames) history).recv digest n
          (encodeAll frames) supply).1 = .error := (recv_closed _ closed supply).1
      rw [Progresses]
      generalize (receiver.after digest n (encodeAll frames) history).recv digest n
        (encodeAll frames) supply = result at failed ⊢
      obtain ⟨received, next⟩ := result
      cases failed
      trivial
    · exact held.progresses short readable
  · obtain ⟨full, waits, stays⟩ := wedged
    rcases sound history with closed | ⟨done, held⟩
    · have failed : ((receiver.after digest n (encodeAll frames) history).recv digest n
          (encodeAll frames) .eof).1 = .error := (recv_closed _ closed .eof).1
      have returned := (stays [] .eof).1
      cases failed.symm.trans returned
    · have size := held.pending_length
      have begun := held.begun
      obtain ⟨frame, next, whole⟩ := held.whole short (by omega)
      have decoded := decode_pending [] frames done
        (receiver.after digest n (encodeAll frames) history).taken
      rw [List.nil_append, ← held.pending, waits, next] at decoded
      dsimp only at decoded
      rw [if_pos whole] at decoded
      cases decoded

/-! ## Long frames -/

/-- All frames up to some frame have been returned, and nothing behind them is read. -/
def Reached (digest : List UInt8 → List UInt8) (n : Nat) (frames : List Frame) (start : Receiver)
    (done : Nat) : Prop :=
  ∃ history, Held frames done (start.after digest n (encodeAll frames) history) ∧
    (start.after digest n (encodeAll frames) history).taken = offset [] frames done

private theorem Reached.succ {start : Receiver} (reached : Reached digest n frames start done)
    (never : NeverWedges digest n (encodeAll frames) start) {frame : Frame}
    (next : frames[done]? = some frame) :
    frame.encode.length ≤ 1023 ∧ Reached digest n frames start (done + 1) := by
  obtain ⟨history, held, taken⟩ := reached
  have total := offset_le frames (done + 1)
  have ends := @offset_succ [] frames done frame next
  have short : frame.encode.length ≤ 1023 := by
    by_contra long
    -- 1023 bytes of the frame are pending, and there is no space for the rest
    rcases held.recv_bytes digest n 1023 with ⟨other, there, whole, -⟩ | ⟨-, -, full, stop⟩
    · rw [next] at there
      cases there
      rw [reads] at whole
      omega
    · have read : (start.after digest n (encodeAll frames) (.bytes 1023 :: history)).taken =
          offset [] frames done + 1023 := by
        rw [after, History.replay_cons, stop, reads]
        omega
      have readable : (Supply.bytes 1).Readable (encodeAll frames)
          (start.after digest n (encodeAll frames) (.bytes 1023 :: history)) := by
        refine ⟨Nat.one_pos, ?_⟩
        rw [read]
        omega
      have progress := never.progresses (.bytes 1023 :: history) (.bytes 1) readable
      have stuck : Held frames done
          (start.after digest n (encodeAll frames) (.bytes 1023 :: history)) := full
      rw [Progresses] at progress
      have size := stuck.pending_length
      have calls := stuck.recv_bytes digest n 1
      generalize (start.after digest n (encodeAll frames) (.bytes 1023 :: history)).recv digest n
        (encodeAll frames) (.bytes 1) = result at calls progress
      obtain ⟨received, last⟩ := result
      rcases calls with ⟨other, there, whole, -⟩ | ⟨-, returned, later, taken⟩
      · rw [next] at there
        cases there
        rw [reads, read] at whole
        omega
      · cases returned
        have grown := later.pending_length
        dsimp only at progress taken grown
        rw [reads, read] at taken
        omega
  refine ⟨short, .bytes frame.encode.length :: history, ?_⟩
  rcases held.recv_bytes digest n frame.encode.length with
    ⟨other, -, -, -, later, stop⟩ | ⟨partial_, -⟩
  · refine ⟨later, ?_⟩
    rw [after, History.replay_cons, stop, reads, ends]
    omega
  · have early := partial_ frame next
    rw [reads] at early
    omega

private theorem short_of_neverWedges {start : Receiver} (opened : Opened start)
    (never : NeverWedges digest n (encodeAll frames) start) {frame : Frame}
    (member : frame ∈ frames) : frame.encode.length ≤ 1023 := by
  have reached : ∀ done ≤ frames.length, Reached digest n frames start done := by
    intro done
    induction done with
    | zero => exact fun _ => ⟨[], opened.held, opened.taken⟩
    | succ done ih =>
        intro inside
        have next := List.getElem?_eq_getElem (Nat.lt_of_succ_le inside)
        exact ((ih (Nat.le_of_succ_le inside)).succ never next).2
  obtain ⟨done, next⟩ := List.mem_iff_getElem?.mp member
  obtain ⟨inside, -⟩ := List.getElem?_eq_some_iff.mp next
  exact ((reached done (Nat.le_of_lt inside)).succ never next).1

/-- The receiver never gets stuck, however its stream is delivered, just when no frame is longer
than its buffer. -/
theorem run_progress (digest : List UInt8 → List UInt8) (n : Nat) {start : Receiver}
    (opened : Opened start) (frames : List Frame) :
    NeverWedges digest n (encodeAll frames) start ↔
      ∀ frame ∈ frames, frame.encode.length ≤ 1023 :=
  ⟨fun never _ member => short_of_neverWedges opened never member,
    fun short => neverWedges_of_short opened short⟩

def justOpened : Receiver := ⟨⟨some 9, false, [], true, [], 0⟩, 0⟩

private theorem justOpened_opened : justOpened.Opened := ⟨rfl, rfl, rfl, rfl⟩

def letterFrames : List Frame :=
  [⟨0x82, .short, some [1, 2, 3, 4], [0x61], Frame.binary_reserved, by decide,
    fun _ mask => by cases mask; rfl⟩]

/-- Frames of a letter each never wedge a reader. -/
theorem run_progress_letter :
    NeverWedges (fun _ => []) 10239 (encodeAll letterFrames) justOpened := by
  refine (run_progress (fun _ => []) 10239 justOpened_opened letterFrames).mpr
    fun frame member => ?_
  rw [List.mem_singleton.mp member, Frame.encode_length]
  simp [LengthForm.width]

/-- A frame of 1024 bytes. -/
def longFrame : Frame where
  head := 0x82
  form := .medium
  mask := none
  payload := List.replicate 1020 0x61
  reserved := Frame.binary_reserved
  fits := by
    rw [List.length_replicate, LengthForm.limit]
    omega
  four := Frame.unmasked_four

/-- A frame as long as the buffer wedges it. -/
theorem run_progress_long :
    ¬ NeverWedges (fun _ => []) 10239 (encodeAll [longFrame]) justOpened := by
  intro never
  have short := short_of_neverWedges justOpened_opened never List.mem_cons_self
  have payload : longFrame.payload.length = 1020 := List.length_replicate
  have width : longFrame.form.width = 2 := rfl
  have plain : (if longFrame.mask.isSome then 4 else 0) = 0 := rfl
  rw [Frame.encode_length, payload, width, plain] at short
  omega

end Receiver

end SupportProxy
