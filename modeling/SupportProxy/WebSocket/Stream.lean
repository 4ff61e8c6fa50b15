import SupportProxy.WebSocket.Connection

/-! # Frames on a stream

What `recv` does once the headers are done: `Decoding` says which part of the stream is pending,
and `receiveFrame_decoding` how one turn of the loop moves it on. -/

namespace SupportProxy

open WebSocket

/-- The bytes of a sequence of frames. -/
def WebSocket.encodeAll (frames : List Frame) : List UInt8 := frames.flatMap Frame.encode

namespace Engineer

variable {stream : List UInt8}

/-- More of a stream behind the part that is pending. -/
theorem pending_append (stream : List UInt8) {offset taken : Nat} (arrived space : Nat)
    (begun : offset ≤ taken)
    (inside : taken ≤ stream.length) :
    (stream.take taken).drop offset ++ ((stream.take arrived).drop taken).take space =
      (stream.take (taken + min space (arrived - taken))).drop offset := by
  have short : offset - taken = 0 := by omega
  have whole : (stream.take taken).length = taken := by
    rw [List.length_take]
    omega
  have rest : (stream.take arrived).drop taken = (stream.drop taken).take (arrived - taken) :=
    List.drop_take
  rw [List.take_add, List.drop_append, whole, short, List.drop_zero, rest, List.take_take]

private theorem answer_plain {ws : WebSocket} (engineer : Engineer) (arrived : Nat)
    (tls : Nat × ReadAnswer) (plain : ws.isSSL = false) :
    engineer.answer stream arrived tls ws = engineer.readSocket stream arrived := by
  rw [answer, plain, if_neg Bool.false_ne_true]

/-- `fill_pending` on a plain connection. -/
theorem fillPending_plain (stream : List UInt8) {ws : WebSocket} (engineer : Engineer)
    (arrived : Nat)
    (tls : Nat × ReadAnswer) (isOpen : ws.fd.isSome = true) (plain : ws.isSSL = false) :
    ws.fillPending (engineer.answer stream arrived tls ws) =
      { ws with pending :=
          ws.pending ++ (engineer.unread stream arrived).take (1023 - ws.pending.length) } := by
  rw [answer_plain engineer arrived tls plain, fillPending]
  by_cases room : 0 < 1023 - ws.pending.length
  · rw [if_pos ⟨isOpen, room⟩, readSocket]
    by_cases idle : engineer.unread stream arrived = []
    · rw [if_pos idle, idle, List.take_nil, List.append_nil]
    · rw [if_neg idle]
  · have full : 1023 - ws.pending.length = 0 := by omega
    rw [if_neg fun both => room both.2, full, List.take_zero, List.append_nil]

/-- What a plain socket yields. -/
theorem fills_plain (stream : List UInt8) {ws : WebSocket} (engineer : Engineer) (arrived : Nat)
    (tls : Nat × ReadAnswer) (isOpen : ws.fd.isSome = true) (plain : ws.isSSL = false) :
    engineer.fills stream arrived tls ws =
      ((engineer.unread stream arrived).take (1023 - ws.pending.length)).length := by
  rw [fills, plain, if_neg Bool.false_ne_true,
    fillPending_plain stream engineer arrived tls isOpen plain,
    List.length_append, Nat.add_sub_cancel_left]

/-- How many bytes are there to read. -/
theorem unread_take_length {engineer : Engineer} {arrived space : Nat}
    (inside : arrived ≤ stream.length) :
    ((engineer.unread stream arrived).take space).length =
    min space (arrived - engineer.taken) := by
  rw [List.length_take, unread, List.length_drop, List.length_take, Nat.min_eq_left inside]

/-- Headers are done once. -/
theorem noteDone_done {before : Bool} (done : before = true) (ws : WebSocket)
    (engineer : Engineer) : engineer.noteDone before ws = engineer := by
  rw [noteDone, done]
  rfl

section Frames

variable {front : List UInt8} {frames : List Frame}

/-- Where the frames begin that have not been decoded. -/
def offset (front : List UInt8) (frames : List Frame) (done : Nat) : Nat :=
  front.length + (encodeAll (frames.take done)).length

/-- The frames of the stream have been decoded up to some frame, and what was read of the rest is
pending. -/
structure Decoding (front : List UInt8) (frames : List Frame) (done : Nat) (ws : WebSocket)
    (taken : Nat) : Prop where
  isOpen : ws.fd.isSome = true
  plain : ws.isSSL = false
  headers : ws.doneHeaders = true
  begun : offset front frames done ≤ taken
  inside : taken ≤ (front ++ encodeAll frames).length
  room : taken ≤ offset front frames done + 1023
  pending : ws.pending = ((front ++ encodeAll frames).take taken).drop (offset front frames done)

private theorem drop_offset (front : List UInt8) (frames : List Frame) (done : Nat) :
    (front ++ encodeAll frames).drop (offset front frames done) = encodeAll (frames.drop done) := by
  have split : encodeAll frames = encodeAll (frames.take done) ++ encodeAll (frames.drop done) := by
    rw [encodeAll, encodeAll, encodeAll, ← List.flatMap_append, List.take_append_drop]
  rw [offset, split, ← List.append_assoc, ← List.length_append, List.drop_left]

/-- The next frame ends where the one behind it begins. -/
theorem offset_succ {done : Nat} {frame : Frame} (next : frames[done]? = some frame) :
    offset front frames (done + 1) = offset front frames done + frame.encode.length := by
  rw [offset, offset, List.take_add_one, next, Option.toList_some, encodeAll, encodeAll,
    List.flatMap_append, List.length_append, List.flatMap_singleton, Nat.add_assoc]

/-- What `decode` makes of the bytes read so far. -/
theorem decode_pending (front : List UInt8) (frames : List Frame) (done taken : Nat) :
    decode (((front ++ encodeAll frames).take taken).drop (offset front frames done)) =
      match frames[done]? with
      | none => .incomplete
      | some frame =>
          if offset front frames done + frame.encode.length ≤ taken then
            .frame frame.payload frame.encode.length
          else .incomplete := by
  rw [List.drop_take, drop_offset]
  cases next : frames[done]? with
  | none =>
      have beyond : frames.length ≤ done := List.getElem?_eq_none_iff.mp next
      rw [List.drop_eq_nil_of_le beyond]
      dsimp only
      rw [encodeAll, List.flatMap_nil, List.take_nil]
      rfl
  | some frame =>
      obtain ⟨bound, same⟩ := List.getElem?_eq_some_iff.mp next
      have long : 0 < frame.encode.length := by
        rw [frame.encode_length]
        omega
      have there : frame.encode.length ≤ taken - offset front frames done ↔
          offset front frames done + frame.encode.length ≤ taken := by omega
      rw [List.drop_eq_getElem_cons bound, same, encodeAll, List.flatMap_cons, decode_take]
      dsimp only
      by_cases whole : offset front frames done + frame.encode.length ≤ taken
      · rw [if_pos whole, if_pos (there.mpr whole)]
      · rw [if_neg whole, if_neg (mt there.mp whole)]

/-- What has been read of a stream after one more `fill_pending`. -/
def readTo (front : List UInt8) (frames : List Frame) (done arrived taken : Nat) : Nat :=
  taken + min (1023 - (taken - offset front frames done)) (arrived - taken)

/-- One `recv` when the headers are done: the next frame if it is there, and else nothing. -/
theorem receiveFrame_decoding (digest : List UInt8 → List UInt8) {engineer : Engineer}
    {ws : WebSocket} {done : Nat}
    {arrival : Arrival} (decoding : Decoding front frames done ws engineer.taken)
    (arrived : arrival.read ≤ (front ++ encodeAll frames).length) :
    (∃ frame, frames[done]? = some frame ∧
      offset front frames done + frame.encode.length ≤
        readTo front frames done arrival.read engineer.taken ∧
      ∃ next, Decoding front frames (done + 1) next
          (readTo front frames done arrival.read engineer.taken) ∧
        engineer.receiveFrame digest (front ++ encodeAll frames) arrival ws =
          { engineer with
            ws := some next
            taken := readTo front frames done arrival.read engineer.taken
            tcpActive := engineer.tcpActive || !(frame.payload.take 10239).isEmpty
            frames := engineer.frames ++
              [(offset front frames done, frame.payload.take 10239)] }) ∨
    (∀ frame, frames[done]? = some frame →
      readTo front frames done arrival.read engineer.taken <
        offset front frames done + frame.encode.length) ∧
      ∃ next, Decoding front frames done next
          (readTo front frames done arrival.read engineer.taken) ∧
        engineer.receiveFrame digest (front ++ encodeAll frames) arrival ws =
          { engineer with
            ws := some next
            taken := readTo front frames done arrival.read engineer.taken } := by
  have size : ws.pending.length = engineer.taken - offset front frames done := by
    rw [decoding.pending, List.length_drop, List.length_take, Nat.min_eq_left decoding.inside]
  have fill := fillPending_plain (front ++ encodeAll frames) engineer arrival.read
    arrival.tlsRead decoding.isOpen decoding.plain
  rw [unread, size, decoding.pending, pending_append _ _ _ decoding.begun decoding.inside] at fill
  have taken : engineer.taken + engineer.fills (front ++ encodeAll frames) arrival.read
      arrival.tlsRead ws = readTo front frames done arrival.read engineer.taken := by
    rw [fills_plain _ engineer arrival.read arrival.tlsRead decoding.isOpen decoding.plain,
      unread_take_length arrived, size, readTo]
  rw [← readTo] at fill
  have begun : offset front frames done ≤ readTo front frames done arrival.read engineer.taken :=
    Nat.le_trans decoding.begun (Nat.le_add_right _ _)
  have inside : readTo front frames done arrival.read engineer.taken ≤
      (front ++ encodeAll frames).length := by
    have before := decoding.inside
    rw [readTo]
    omega
  have room : readTo front frames done arrival.read engineer.taken ≤
      offset front frames done + 1023 := by
    have before := decoding.room
    have first := decoding.begun
    rw [readTo]
    omega
  have isOpen : ¬ws.fd = none := Option.isSome_iff_ne_none.mp decoding.isOpen
  have pending := decode_pending front frames done
    (readTo front frames done arrival.read engineer.taken)
  rw [receiveFrame, recv, fill]
  dsimp only
  rw [if_neg isOpen, if_pos decoding.headers]
  dsimp only
  rw [pending]
  generalize readTo front frames done arrival.read engineer.taken = stop at *
  have waits : Decoding front frames done
      { ws with pending := ((front ++ encodeAll frames).take stop).drop (offset front frames done) }
      stop := ⟨decoding.isOpen, decoding.plain, decoding.headers, begun, inside, room, rfl⟩
  cases next : frames[done]? with
  | none =>
      refine .inr ⟨by simp, _, waits, ?_⟩
      dsimp only
      rw [taken, noteDone_done decoding.headers]
  | some frame =>
      dsimp only
      by_cases whole : offset front frames done + frame.encode.length ≤ stop
      · have behind : ((front ++ encodeAll frames).take stop).drop
              (offset front frames (done + 1)) =
            (((front ++ encodeAll frames).take stop).drop (offset front frames done)).drop
              frame.encode.length := by
          rw [List.drop_drop, offset_succ next]
        have begins : stop - (((front ++ encodeAll frames).take stop).drop
              (offset front frames (done + 1))).length - frame.encode.length =
            offset front frames done := by
          rw [List.length_drop, List.length_take, Nat.min_eq_left inside, offset_succ next]
          omega
        refine .inl ⟨frame, rfl, whole, { ws with pending :=
          ((front ++ encodeAll frames).take stop).drop (offset front frames (done + 1)) },
          ⟨decoding.isOpen, decoding.plain, decoding.headers, ?_, inside, ?_, rfl⟩, ?_⟩
        · rw [offset_succ next]
          exact whole
        · rw [offset_succ next]
          omega
        · rw [if_pos whole]
          dsimp only
          rw [taken, noteDone_done decoding.headers, ← behind]
          dsimp only
          rw [begins]
      · refine .inr ⟨fun other same => ?_, _, waits, ?_⟩
        · rw [← Option.some.inj same]
          exact Nat.lt_of_not_le whole
        · rw [if_neg whole]
          dsimp only
          rw [taken, noteDone_done decoding.headers]

end Frames

end Engineer

end SupportProxy
