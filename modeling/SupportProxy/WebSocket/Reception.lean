import SupportProxy.WebSocket.Upgrade

/-! # Frames that are delivered

After the handshake `main_loop` calls `recv` once for each time the socket is readable, and each
call decodes one frame. `run_reception` says on which arrivals every frame is returned when the
socket is empty. -/

namespace SupportProxy

open WebSocket

/-- The frames that are whole in the first bytes of their stream. -/
def WebSocket.wholeFrames : List Frame → Nat → List Frame
  | [], _ => []
  | frame :: rest, count =>
      if frame.encode.length ≤ count then frame :: wholeFrames rest (count - frame.encode.length)
      else []

namespace Engineer

section Reception

variable (digest : List UInt8 → List UInt8) (fd : Nat) (frames : List Frame)

/-- A slot whose WebSocket has done its headers. -/
def upgraded (ws : WebSocket) (active : Bool) : Engineer :=
  ⟨some ws, active, false, 0, [], [], [], [], false⟩

/-- The socket is readable, and more arrives from call to call. -/
def Readable (engineer : Engineer) (arrival : Arrival) : Prop :=
  engineer.closed = false ∧ engineer.overrun = false ∧
    engineer.taken < arrival.peek ∧ arrival.peek ≤ arrival.peekAgain ∧
    arrival.peekAgain ≤ arrival.fill ∧ arrival.fill ≤ arrival.read ∧
    arrival.read ≤ (encodeAll frames).length

instance (engineer : Engineer) (arrival : Arrival) :
    Decidable (Readable frames engineer arrival) :=
  inferInstanceAs (Decidable (_ ∧ _ ∧ _ ∧ _ ∧ _ ∧ _ ∧ _))

/-- All frames that have been received are returned, and none is left to decode. -/
structure Delivered (engineer : Engineer) : Prop where
  returned : engineer.frames.flatMap Prod.snd =
    (wholeFrames frames engineer.taken).flatMap Frame.payload
  pending : ∀ ws, engineer.ws = some ws → decode ws.pending = .incomplete

/-- The bytes to read do not look like the beginning of a connection. -/
def Quiet (engineer : Engineer) (arrival : Arrival) : Prop :=
  engineer.detects (encodeAll frames) arrival = false

/-- Bytes remain in the socket, or at most one frame is whole that has not been returned. -/
def Single (engineer : Engineer) (arrival : Arrival) : Prop :=
  (∃ ws ∈ engineer.ws, engineer.taken + (1023 - ws.pending.length) < arrival.read) ∨
    (wholeFrames frames arrival.read).length ≤ engineer.frames.length + 1

end Reception

variable {digest : List UInt8 → List UInt8} {fd : Nat} {frames : List Frame}
  {engineer : Engineer} {arrival : Arrival}

private theorem offset_cons (front : List UInt8) (frame : Frame) (rest : List Frame) (done : Nat) :
    offset front (frame :: rest) (done + 1) = frame.encode.length + offset front rest done := by
  rw [offset, offset, List.take_succ_cons, encodeAll, List.flatMap_cons, List.length_append,
    Nat.add_left_comm]
  rfl

/-- Frames that end within the first bytes are whole. -/
theorem le_wholeFrames {done count : Nat} (bound : done ≤ frames.length)
    (inside : offset [] frames done ≤ count) : done ≤ (wholeFrames frames count).length := by
  induction frames generalizing done count with
  | nil => exact bound
  | cons frame rest ih =>
      cases done with
      | zero => exact Nat.zero_le _
      | succ done =>
          rw [offset_cons] at inside
          rw [wholeFrames, if_pos (by omega), List.length_cons]
          exact Nat.succ_le_succ (ih (Nat.le_of_succ_le_succ bound) (by omega))

/-- Frames up to one that does not end there. -/
theorem wholeFrames_eq {done count : Nat} (inside : offset [] frames done ≤ count)
    (behind : ∀ frame, frames[done]? = some frame →
      count < offset [] frames done + frame.encode.length) :
    wholeFrames frames count = frames.take done := by
  induction frames generalizing done count with
  | nil => rw [wholeFrames, List.take_nil]
  | cons frame rest ih =>
      cases done with
      | zero =>
          have early := behind frame rfl
          have zero : offset [] (frame :: rest) 0 = 0 := rfl
          rw [wholeFrames, if_neg (by omega), List.take_zero]
      | succ done =>
          rw [offset_cons] at inside behind
          have later : wholeFrames rest (count - frame.encode.length) = rest.take done := by
            refine ih (by omega) fun other next => ?_
            have early := behind other next
            omega
          rw [wholeFrames, if_pos (by omega), List.take_succ_cons, later]

/-- Each frame that was decoded has been returned. -/
structure Returning (frames : List Frame) (ws : WebSocket) (done : Nat) (engineer : Engineer) :
    Prop where
  slot : engineer.ws = some ws
  decoding : Decoding [] frames done ws engineer.taken
  bound : done ≤ frames.length
  returned : engineer.frames.map Prod.snd = (frames.take done).map Frame.payload

private theorem Returning.count {ws : WebSocket} {done : Nat}
    (returning : Returning frames ws done engineer) : engineer.frames.length = done := by
  have lengths := congrArg List.length returning.returned
  rw [List.length_map, List.length_map, List.length_take, Nat.min_eq_left returning.bound]
    at lengths
  exact lengths

/-- What is left to decode shows in the pending bytes. -/
theorem Returning.delivered_iff {ws : WebSocket} {done : Nat}
    (returning : Returning frames ws done engineer) :
    Delivered frames engineer ↔ (wholeFrames frames engineer.taken).length ≤ done := by
  have begun := returning.decoding.begun
  have decoded := decode_pending [] frames done engineer.taken
  have pending : ws.pending =
      (([] ++ encodeAll frames).take engineer.taken).drop (offset [] frames done) :=
    returning.decoding.pending
  rw [← pending] at decoded
  constructor
  · intro delivered
    have nothing := delivered.pending ws returning.slot
    rw [wholeFrames_eq begun, List.length_take]
    · exact Nat.min_le_left _ _
    · intro frame next
      rw [nothing, next] at decoded
      by_contra whole
      have there : offset [] frames done + frame.encode.length ≤ engineer.taken := by omega
      dsimp only at decoded
      rw [if_pos there] at decoded
      exact Decoded.noConfusion decoded
  · intro few
    have behind : ∀ frame, frames[done]? = some frame →
        engineer.taken < offset [] frames done + frame.encode.length := by
      intro frame next
      by_contra whole
      obtain ⟨bound, _⟩ := List.getElem?_eq_some_iff.mp next
      have inside : offset [] frames (done + 1) ≤ engineer.taken := by
        rw [offset_succ next]
        omega
      have more := le_wholeFrames bound inside
      omega
    refine ⟨?_, fun other same => ?_⟩
    · rw [wholeFrames_eq begun behind, List.flatMap_def, returning.returned, ← List.flatMap_def]
    · rw [returning.slot] at same
      rw [← Option.some.inj same, decoded]
      cases next : frames[done]? with
      | none => rfl
      | some frame =>
          have early := behind frame next
          dsimp only
          rw [if_neg (by omega)]

/-- One turn of the loop without another WebSocket: when it empties the socket, everything is
delivered exactly if there was a single frame at most. -/
theorem Returning.wake {ws : WebSocket} {done : Nat}
    (returning : Returning frames ws done engineer) (readable : Readable frames engineer arrival)
    (quiet : Quiet frames engineer arrival) :
    ∃ next later, Returning frames next later
        (engineer.wake digest (encodeAll frames) fd arrival) ∧
      (((engineer.wake digest (encodeAll frames) fd arrival).taken = arrival.read →
          Delivered frames (engineer.wake digest (encodeAll frames) fd arrival)) ↔
        Single frames engineer arrival) := by
  obtain ⟨_, _, peek, again, fill, read, inside⟩ := readable
  have count := returning.count
  have size : ws.pending.length = engineer.taken - offset [] frames done := by
    rw [returning.decoding.pending, List.length_drop, List.length_take,
      Nat.min_eq_left returning.decoding.inside]
  have begun := returning.decoding.begun
  have step : engineer.wake digest (encodeAll frames) fd arrival =
      engineer.receiveFrame digest ([] ++ encodeAll frames) arrival ws := by
    rw [Engineer.wake, quiet, if_neg Bool.false_ne_true, returning.slot]
    rfl
  -- the socket is emptied when the space is enough
  have drains : readTo [] frames done arrival.read engineer.taken = arrival.read ↔
      ¬engineer.taken + (1023 - ws.pending.length) < arrival.read := by
    rw [readTo, size]
    omega
  have single : Single frames engineer arrival ↔
      (readTo [] frames done arrival.read engineer.taken = arrival.read →
        (wholeFrames frames arrival.read).length ≤ done + 1) := by
    rw [Single, returning.slot, count, drains]
    constructor
    · rintro (⟨other, same, remain⟩ | few) empties
      · rw [← Option.some.inj same] at remain
        exact (empties remain).elim
      · exact few
    · intro few
      by_cases remain : engineer.taken + (1023 - ws.pending.length) < arrival.read
      · exact .inl ⟨ws, rfl, remain⟩
      · exact .inr (few remain)
  rw [step]
  rcases receiveFrame_decoding digest returning.decoding inside with
    ⟨frame, at_, whole, next, decoding, same⟩ | ⟨behind, next, decoding, same⟩
  · obtain ⟨bound, _⟩ := List.getElem?_eq_some_iff.mp at_
    have fits : frame.payload.take 10239 = frame.payload := by
      have length := frame.encode_length
      have room := returning.decoding.room
      rw [readTo] at whole
      exact List.take_of_length_le (by omega)
    have returned : Returning frames next (done + 1)
        (engineer.receiveFrame digest ([] ++ encodeAll frames) arrival ws) := by
      rw [same, fits]
      refine ⟨rfl, decoding, bound, ?_⟩
      rw [List.map_append, returning.returned, List.take_add_one, at_, Option.toList_some,
        List.map_append]
      rfl
    refine ⟨next, done + 1, returned, ?_⟩
    rw [returned.delivered_iff, single, same]
    dsimp only
    constructor
    · intro few empties
      rw [← empties]
      exact few empties
    · intro few empties
      rw [empties]
      exact few empties
  · have returned : Returning frames next done
        (engineer.receiveFrame digest ([] ++ encodeAll frames) arrival ws) := by
      rw [same]
      exact ⟨rfl, decoding, returning.bound, returning.returned⟩
    refine ⟨next, done, returned, ?_⟩
    rw [returned.delivered_iff, single, same]
    dsimp only
    have few : (wholeFrames frames (readTo [] frames done arrival.read engineer.taken)).length ≤
        done := by
      rw [wholeFrames_eq decoding.begun behind, List.length_take]
      exact Nat.min_le_left _ _
    constructor
    · intro _ empties
      rw [← empties]
      omega
    · exact fun _ _ => few

section Runs

variable (digest : List UInt8 → List UInt8) (fd : Nat) (frames : List Frame) (ws : WebSocket)
  (active : Bool)

/-- The slot after what has arrived since the handshake, the newest first. -/
abbrev afterFrames (history : List Arrival) : Engineer :=
  History.replay (wake digest (encodeAll frames) fd) (upgraded ws active) history

/-- A run of one connection behind the handshake. -/
abbrev FrameRun : List Arrival → Prop :=
  History.Guarded (wake digest (encodeAll frames) fd) (upgraded ws active) (Readable frames)

instance (history : List Arrival) : Decidable (FrameRun digest fd frames ws active history) :=
  History.Obeys.decidable history

/-- Whenever the socket has been emptied, everything is delivered. -/
def Delivers (history : List Arrival) : Prop :=
  ∀ arrival before, (arrival :: before) <:+ history →
    (afterFrames digest fd frames ws active (arrival :: before)).taken = arrival.read →
      Delivered frames (afterFrames digest fd frames ws active (arrival :: before))

variable {digest fd frames ws active}

private theorem Returning.start (ready : Ready ws) :
    Returning frames ws 0 (upgraded ws active) := by
  refine ⟨rfl, ⟨ready.isOpen, ready.plain, ready.headers, Nat.le_refl _, Nat.zero_le _,
    Nat.zero_le _, ?_⟩, Nat.zero_le _, rfl⟩
  exact ready.pending

/-- A run keeps on returning frames as long as no other WebSocket is made. -/
theorem FrameRun.returning (ready : Ready ws) {history : List Arrival}
    (run : FrameRun digest fd frames ws active history)
    (quiet : History.Guarded (wake digest (encodeAll frames) fd) (upgraded ws active)
      (Quiet frames) history) :
    ∃ last done, Returning frames last done (afterFrames digest fd frames ws active history) := by
  induction history with
  | nil => exact ⟨ws, 0, .start ready⟩
  | cons arrival before ih =>
      obtain ⟨last, done, returning⟩ := ih run.2 quiet.2
      obtain ⟨next, later, step, _⟩ := returning.wake run.1 quiet.1
      exact ⟨next, later, step⟩

/-- Everything is delivered if each arrival that empties the socket brings a single frame at most
and looks like no other connection; and among the runs that look like none, if and only if. -/
theorem run_reception (ready : Ready ws) {history : List Arrival}
    (run : FrameRun digest fd frames ws active history) :
    (History.Guarded (wake digest (encodeAll frames) fd) (upgraded ws active)
        (fun engineer arrival => Quiet frames engineer arrival ∧ Single frames engineer arrival)
        history → Delivers digest fd frames ws active history) ∧
      (History.Guarded (wake digest (encodeAll frames) fd) (upgraded ws active)
        (Quiet frames) history → Delivers digest fd frames ws active history →
          History.Guarded (wake digest (encodeAll frames) fd) (upgraded ws active)
            (Single frames) history) := by
  constructor
  · intro clean arrival before suffix
    obtain ⟨quiet, single⟩ := History.guarded_and.mp (clean.of_suffix suffix)
    have earlier := run.of_suffix suffix
    obtain ⟨last, done, returning⟩ := FrameRun.returning ready earlier.2 quiet.2
    obtain ⟨next, later, _, delivered⟩ := returning.wake earlier.1 quiet.1
    exact delivered.mpr single.1
  · intro quiet delivers
    induction history with
    | nil => trivial
    | cons arrival before ih =>
        obtain ⟨last, done, returning⟩ := FrameRun.returning ready run.2 quiet.2
        obtain ⟨next, later, _, delivered⟩ := returning.wake run.1 quiet.1
        refine ⟨delivered.mp (delivers arrival before (List.suffix_refl _)), ?_⟩
        refine ih run.2 quiet.2 fun other earlier suffix => ?_
        exact delivers other earlier (suffix.trans (List.suffix_cons arrival before))

/-- The WebSocket of a connection after its handshake. -/
def sampleWebSocket : WebSocket := ⟨some 9, false, [], true, [], 0⟩

/-- An unmasked frame of one byte. -/
def sampleFrame : Frame :=
  ⟨0x82, .short, none, [0xfe], Frame.binary_reserved, by decide, Frame.unmasked_four⟩

/-- One frame arrives as a whole and is delivered. -/
theorem run_reception_frame :
    (History.Guarded (wake (fun _ => []) (encodeAll [sampleFrame]) 9)
    (upgraded sampleWebSocket false)
        (fun engineer arrival =>
          Quiet [sampleFrame] engineer arrival ∧ Single [sampleFrame] engineer arrival)
        [Arrival.at 3] →
        Delivers (fun _ => []) 9 [sampleFrame] sampleWebSocket false [Arrival.at 3]) ∧
      (History.Guarded (wake (fun _ => []) (encodeAll [sampleFrame]) 9)
        (upgraded sampleWebSocket false) (Quiet [sampleFrame]) [Arrival.at 3] →
          Delivers (fun _ => []) 9 [sampleFrame] sampleWebSocket false [Arrival.at 3] →
            History.Guarded (wake (fun _ => []) (encodeAll [sampleFrame]) 9)
              (upgraded sampleWebSocket false) (Single [sampleFrame]) [Arrival.at 3]) :=
  run_reception ⟨rfl, rfl, rfl, rfl⟩ (by decide +kernel)

/-- Two frames in one read: the second one stays in the buffer. -/
theorem coalesced_frames_undelivered :
    FrameRun (fun _ => []) 9 [sampleFrame, sampleFrame] sampleWebSocket false [Arrival.at 6] ∧
      ¬Delivers (fun _ => []) 9 [sampleFrame, sampleFrame] sampleWebSocket false
        [Arrival.at 6] := by
  refine ⟨by decide +kernel, fun delivers => ?_⟩
  have delivered := delivers (Arrival.at 6) [] (List.suffix_refl _) (by decide +kernel)
  exact absurd delivered.returned (by decide +kernel)

end Runs

end Engineer

end SupportProxy
