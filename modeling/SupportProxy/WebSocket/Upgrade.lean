import SupportProxy.WebSocket.Stream
import SupportProxy.Library.History
import Mathlib.Data.List.TakeWhile

/-! # The upgrade of a connection

A client sends a request and, once it has the response, frames. `run_upgrade` says on which
arrivals the connection is upgraded as it should be. -/

namespace SupportProxy

open WebSocket ByteLayout Search

/-- An upgrade request, with the key that `check_headers` finds in the whole of it. -/
structure UpgradeRequest where
  bytes : List UInt8
  key : Nat × Nat
  start : wsPrefix <+: bytes
  short : bytes.length ≤ 1023
  text : ∀ byte ∈ bytes, byte ≠ 0
  keyed : findKey bytes = some key
  /-- it ends with the first blank line -/
  blank : search (ascii "\r\n\r\n") bytes = some (bytes.length - 4)

namespace UpgradeRequest

variable (request : UpgradeRequest)

/-- Where the line of the key ends. -/
def keyEnd : Nat := request.key.1 + request.key.2 + 2

/-- The key is found in a front part of the request that has its line. -/
theorem findKey_take (count : Nat) : findKey (request.bytes.take count) =
    if request.keyEnd ≤ count then some request.key else none := by
  have keyed := request.keyed
  rw [findKey] at keyed
  obtain ⟨found, marker, lineFound⟩ := Option.bind_eq_some_iff.mp keyed
  obtain ⟨length, behind, key⟩ := Option.map_eq_some_iff.mp lineFound
  have markerSize : keyMarker.length = 19 := rfl
  have lineSize : lineEnd.length = 2 := rfl
  have ends : request.keyEnd = found + keyMarker.length + length + lineEnd.length := by
    rw [keyEnd, ← key, lineSize]
  have dropped : (request.bytes.take count).drop (found + keyMarker.length) =
      (request.bytes.drop (found + keyMarker.length)).take (count - (found + keyMarker.length)) :=
    List.drop_take
  rw [findKey]
  by_cases early : found + keyMarker.length ≤ count
  · rw [(search_take (by decide)).mpr ⟨marker, early⟩, Option.bind_some, dropped]
    by_cases whole : request.keyEnd ≤ count
    · rw [if_pos whole, (search_take (by decide)).mpr ⟨behind, by omega⟩, Option.map_some, key]
    · rw [if_neg whole, Option.map_eq_none_iff]
      cases inside : search lineEnd ((request.bytes.drop (found + keyMarker.length)).take
          (count - (found + keyMarker.length))) with
      | none => rfl
      | some position =>
          obtain ⟨same, bound⟩ := (search_take (by decide)).mp inside
          rw [behind] at same
          have equal := Option.some.inj same
          omega
  · have absent : search keyMarker (request.bytes.take count) = none := by
      cases inside : search keyMarker (request.bytes.take count) with
      | none => rfl
      | some position =>
          obtain ⟨same, bound⟩ := (search_take (by decide)).mp inside
          rw [marker] at same
          have equal := Option.some.inj same
          omega
    rw [absent, Option.bind_none, if_neg (by omega)]

private theorem keyEnd_le : request.keyEnd ≤ request.bytes.length := by
  by_contra long
  have whole := request.findKey_take request.bytes.length
  rw [List.take_length, request.keyed, if_neg long] at whole
  exact Option.some_ne_none _ whole

/-- No byte of the request ends a string. -/
theorem takeWhile_take (count : Nat) :
    (request.bytes.take count).takeWhile (· ≠ 0) = request.bytes.take count := by
  rw [List.takeWhile_eq_self_iff]
  intro byte member
  exact decide_eq_true (request.text byte (List.mem_of_mem_take member))

/-- The front of a request is not a frame, and its first 71 bytes are decoded as one. -/
theorem decode_take (count : Nat) (inside : count ≤ request.bytes.length) :
    decode (request.bytes.take count) =
      if 71 ≤ count then .frame (slice 2 69 (request.bytes.take count)) 71 else .incomplete := by
  have length : (request.bytes.take count).length = count := by
    rw [List.length_take, Nat.min_eq_left inside]
  rw [decode]
  by_cases early : count < 2
  · rw [if_pos (by omega), if_neg (by omega)]
  rw [if_neg (by omega)]
  have second : (request.bytes.take count).getD 1 0 = 0x45 := by
    obtain ⟨rest, whole⟩ := request.start
    rw [List.getD_eq_getElem?_getD, List.getElem?_take_of_lt (by omega), ← whole]
    rfl
  dsimp only
  rw [second]
  have code : (0x45 : UInt8).toNat = 69 := rfl
  rw [code, if_neg (by omega), if_neg (by omega), decodePayload]
  have unmasked : decide (128 ≤ 69) = false := rfl
  rw [unmasked, if_neg Bool.false_ne_true, length]
  by_cases whole : 71 ≤ count
  · rw [if_neg (by omega), if_neg (by omega), if_neg Bool.false_ne_true, if_pos whole]
  · rw [if_pos (by omega), if_neg whole]

end UpgradeRequest

namespace Engineer

section Upgrade

variable (digest : List UInt8 → List UInt8) (fd : Nat) (request : UpgradeRequest)
  (frames : List Frame)

/-- The request and the frames behind it. -/
abbrev clientStream : List UInt8 := request.bytes ++ encodeAll frames

/-- The slot after the part of `wake` that detects a WebSocket. -/
def detected (arrival : Arrival) (engineer : Engineer) : Engineer :=
  if engineer.detects (clientStream request frames) arrival then
    engineer.openWebSocket digest (clientStream request frames) fd arrival
  else engineer

/-- The socket is readable. More arrives from call to call, and frames only once the response
has been sent. -/
def Possible (engineer : Engineer) (arrival : Arrival) : Prop :=
  engineer.closed = false ∧ engineer.overrun = false ∧
    engineer.taken < arrival.peek ∧ arrival.peek ≤ arrival.peekAgain ∧
    arrival.peekAgain ≤ arrival.fill ∧ arrival.fill ≤ arrival.read ∧
    arrival.read ≤ (clientStream request frames).length ∧
    (engineer.responses = [] → arrival.fill ≤ request.bytes.length) ∧
    ((engineer.detected digest fd request frames arrival).responses = [] →
      arrival.read ≤ request.bytes.length)

instance (engineer : Engineer) (arrival : Arrival) :
    Decidable (Possible digest fd request frames engineer arrival) :=
  inferInstanceAs (Decidable (_ ∧ _ ∧ _ ∧ _ ∧ _ ∧ _ ∧ _ ∧ _ ∧ _))

/-- The slot after what has arrived so far, the newest first. -/
abbrev after (history : List Arrival) : Engineer :=
  History.replay (wake digest (clientStream request frames) fd) accepted history

/-- A run of one connection. -/
abbrev Run : List Arrival → Prop :=
  History.Guarded (wake digest (clientStream request frames) fd) accepted
    (Possible digest fd request frames)

instance (history : List Arrival) : Decidable (Run digest fd request frames history) :=
  History.Obeys.decidable history

/-- The connection is a WebSocket from its first byte on, the response is sent when the request
has been read and at no other time, and decoding begins behind the request. -/
structure Upgraded (engineer : Engineer) : Prop where
  raw : engineer.raw = []
  opened : engineer.taken ≠ 0 → engineer.openings = [0]
  responded : engineer.responses =
    if request.bytes.length ≤ engineer.taken then [request.bytes.length] else []
  first : ∀ frame ∈ engineer.frames.head?, frame.1 = request.bytes.length
  framed : ∀ frame ∈ engineer.frames, request.bytes.length ≤ frame.1

/-- What `recv` may read before the headers are done: all of the request, or neither the line of
the key nor 71 bytes. -/
def Settled (arrived : Nat) : Prop :=
  arrived = request.bytes.length ∨ arrived < request.keyEnd ∧ arrived < 71

/-- The arrivals on which the connection is upgraded: 14 bytes at the first peek, nothing between
the line of the key and the end of the request at a read, and no bytes later on that look like
the beginning of a connection. -/
def Clean (engineer : Engineer) (arrival : Arrival) : Prop :=
  match engineer.ws with
  | none =>
      14 ≤ arrival.peek ∧
        (arrival.fill = request.bytes.length ∨
          arrival.fill < request.keyEnd ∧ Settled request arrival.read)
  | some ws =>
      engineer.detects (clientStream request frames) arrival = false ∧
        (ws.doneHeaders = true ∨ Settled request arrival.read)

end Upgrade

section Steps

variable {digest : List UInt8 → List UInt8} {fd : Nat} {request : UpgradeRequest}
  {frames : List Frame} {engineer : Engineer} {arrival : Arrival}

private theorem noteDone_keeps (before : Bool) (ws : WebSocket) (engineer : Engineer) :
    (engineer.noteDone before ws).openings = engineer.openings ∧
      (engineer.noteDone before ws).taken = engineer.taken ∧
      engineer.responses <+: (engineer.noteDone before ws).responses := by
  rw [noteDone]
  split_ifs
  · exact ⟨rfl, rfl, List.prefix_append _ _⟩
  · exact ⟨rfl, rfl, List.prefix_refl _⟩

/-- `recv` makes no WebSocket, and takes no response back. -/
theorem receiveFrame_keeps (digest : List UInt8 → List UInt8) (stream : List UInt8)
    (arrival : Arrival) (ws : WebSocket)
    (engineer : Engineer) :
    (engineer.receiveFrame digest stream arrival ws).openings = engineer.openings ∧
      engineer.taken ≤ (engineer.receiveFrame digest stream arrival ws).taken ∧
      engineer.responses <+: (engineer.receiveFrame digest stream arrival ws).responses := by
  rw [receiveFrame]
  generalize ws.recv digest (engineer.answer stream arrival.read arrival.tlsRead ws) [.all]
    10239 = result
  obtain ⟨received, next⟩ := result
  obtain ⟨openings, taken, responses⟩ := noteDone_keeps ws.doneHeaders next { engineer with
    ws := some next
    taken := engineer.taken + engineer.fills stream arrival.read arrival.tlsRead ws }
  have later : engineer.taken ≤ (noteDone ws.doneHeaders next { engineer with
      ws := some next
      taken := engineer.taken + engineer.fills stream arrival.read arrival.tlsRead ws }).taken := by
    rw [taken]
    exact Nat.le_add_right _ _
  cases received with
  | error => exact ⟨openings, later, responses⟩
  | nothing => exact ⟨openings, later, responses⟩
  | overrun => exact ⟨openings, later, responses⟩
  | frame bytes used => exact ⟨openings, later, responses⟩

private theorem openWebSocket_keeps (digest : List UInt8 → List UInt8) (fd : Nat)
    (stream : List UInt8) (arrival : Arrival) (engineer : Engineer) :
    (engineer.openWebSocket digest stream fd arrival).openings =
        engineer.openings ++ [engineer.taken] ∧
      engineer.taken ≤ (engineer.openWebSocket digest stream fd arrival).taken ∧
      (engineer.openWebSocket digest stream fd arrival).ws.isSome = true := by
  rw [openWebSocket, noteDone]
  split_ifs <;> exact ⟨rfl, Nat.le_add_right _ _, rfl⟩

private theorem wake_detected (engineer : Engineer) (arrival : Arrival) :
    engineer.wake digest (clientStream request frames) fd arrival =
      match (engineer.detected digest fd request frames arrival).ws with
      | some ws =>
          (engineer.detected digest fd request frames arrival).receiveFrame digest
            (clientStream request frames) arrival ws
      | none =>
          (engineer.detected digest fd request frames arrival).receiveRaw
            (clientStream request frames) arrival := rfl

/-- A second WebSocket on one connection. -/
theorem not_upgraded_of_detects (detects : engineer.detects (clientStream request frames) arrival =
      true) (opened : engineer.openings = [0]) (begun : engineer.taken ≠ 0) :
    ¬Upgraded request (engineer.wake digest (clientStream request frames) fd arrival) := by
  intro upgraded
  obtain ⟨openings, taken, some_⟩ :=
    openWebSocket_keeps digest fd (clientStream request frames) arrival engineer
  obtain ⟨ws, slot⟩ := Option.isSome_iff_exists.mp some_
  have step : engineer.wake digest (clientStream request frames) fd arrival =
      (engineer.openWebSocket digest (clientStream request frames) fd arrival).receiveFrame digest
        (clientStream request frames) arrival ws := by
    rw [wake_detected, detected, if_pos detects, slot]
  obtain ⟨kept, later, _⟩ := receiveFrame_keeps digest (clientStream request frames)
    arrival ws (engineer.openWebSocket digest (clientStream request frames) fd arrival)
  rw [← step] at kept later
  have one := upgraded.opened (by omega)
  rw [kept, openings, opened] at one
  exact List.cons_ne_nil _ _ (List.append_right_eq_self.mp one)

/-- What a client has sent looks like a request from its first 14 bytes on. -/
theorem accepted_peek (count : Nat) :
    (accepted.unread (clientStream request frames) count).take 14 =
    wsPrefix.take (min 14 count) := by
  obtain ⟨rest, whole⟩ := request.start
  have size : wsPrefix.length = 14 := rfl
  rw [unread, clientStream, accepted, List.drop_zero, List.take_take, ← whole, List.append_assoc,
    List.take_append_of_le_length (by omega)]

private theorem detect_take : ∀ count ≤ 14, detect (wsPrefix.take count) = decide (count = 14) ∧
    looksSSL (wsPrefix.take count) = false := by decide +kernel

private theorem accepted_detects : accepted.detects (clientStream request frames) arrival =
    decide (14 ≤ arrival.peek) := by
  rw [detects, accepted_peek, (detect_take _ (Nat.min_le_left _ _)).1]
  have same : (min 14 arrival.peek = 14) = (14 ≤ arrival.peek) := by
    apply propext
    omega
  rw [accepted, Bool.not_false, Bool.true_and]
  exact decide_eq_decide.mpr (by omega)

/-- A connection whose first segment is too short is read as it is. -/
theorem not_upgraded_of_short (possible : Possible digest fd request frames accepted arrival)
    (short : arrival.peek < 14) :
    ¬Upgraded request (accepted.wake digest (clientStream request frames) fd arrival) := by
  intro upgraded
  obtain ⟨_, _, readable, again, fill, read, inside, _, _⟩ := possible
  have missed : accepted.detected digest fd request frames arrival = accepted := by
    rw [detected, accepted_detects, decide_eq_false (by omega), if_neg Bool.false_ne_true]
  have raw := upgraded.raw
  rw [wake_detected, missed] at raw
  have some_ :
      ((accepted.unread (clientStream request frames) arrival.read).take 10239).length ≠ 0 := by
    have nonempty : accepted.taken = 0 := rfl
    rw [unread_take_length inside, nonempty]
    omega
  have taken : ¬(accepted.unread (clientStream request frames) arrival.read).take 10239 = [] := by
    intro empty
    rw [empty] at some_
    exact some_ rfl
  have kept : (accepted.receiveRaw (clientStream request frames) arrival).raw =
      (accepted.unread (clientStream request frames) arrival.read).take 10239 := by
    rw [receiveRaw, if_neg taken]
    rfl
  exact taken (kept.symm.trans raw)

/-- A WebSocket that waits for the rest of a request. -/
def waiting (fd : Nat) (request : UpgradeRequest) (taken : Nat) : WebSocket :=
  ⟨some fd, false, request.bytes.take taken, false, [], 0⟩

/-- A slot that waits for the rest of a request. -/
def collecting (fd : Nat) (request : UpgradeRequest) (taken : Nat) : Engineer :=
  ⟨some (waiting fd request taken), false, false, taken, [0], [], [], [], false⟩

/-- A slot that has just sent the response. -/
def answered (ws : WebSocket) (taken : Nat) : Engineer :=
  ⟨some ws, false, false, taken, [0], [taken], [], [], false⟩

/-- A WebSocket that has just sent the response. -/
structure Ready (ws : WebSocket) : Prop where
  isOpen : ws.fd.isSome = true
  plain : ws.isSSL = false
  headers : ws.doneHeaders = true
  pending : ws.pending = []

private theorem writeHandshake_all (total : Nat) :
    writeHandshake total [.all] 0 = (total, false) := by
  rw [writeHandshake]
  by_cases none : total ≤ 0
  · rw [if_pos none, Nat.le_zero.mp none]
  · rw [if_neg none]

private theorem checkHeaders_waiting (digest : List UInt8 → List UInt8) (fd : Nat)
    (request : UpgradeRequest) (taken : Nat) :
    (taken < request.keyEnd → (waiting fd request taken).checkHeaders digest [.all] =
        waiting fd request taken) ∧
      (request.keyEnd ≤ taken →
        Ready ((waiting fd request taken).checkHeaders digest [.all])) := by
  have found := request.findKey_take taken
  have text := request.takeWhile_take taken
  rw [checkHeaders]
  dsimp only [waiting]
  rw [text, found]
  constructor
  · intro early
    rw [if_neg (by omega)]
  · intro late
    rw [if_pos late]
    have sent : ∀ key, (sendHandshake digest [.all] key
        ⟨some fd, false, request.bytes.take taken, false, [], 0⟩).2 = true ∧
        (sendHandshake digest [.all] key
          ⟨some fd, false, request.bytes.take taken, false, [], 0⟩).1.fd = some fd ∧
        (sendHandshake digest [.all] key
          ⟨some fd, false, request.bytes.take taken, false, [], 0⟩).1.isSSL = false := by
      intro key
      rw [sendHandshake, if_pos rfl]
      dsimp only
      rw [writeHandshake_all]
      refine ⟨?_, rfl, rfl⟩
      dsimp only
      rw [decide_eq_true rfl]
      rfl
    dsimp only
    obtain ⟨whole, isOpen, plain⟩ := sent
      (slice request.key.1 request.key.2 (request.bytes.take taken))
    rw [if_pos whole]
    exact ⟨by rw [isOpen]; rfl, plain, rfl, rfl⟩

/-- Reading more of a request. -/
theorem waiting_fill (fd : Nat) (request : UpgradeRequest) (frames : List Frame)
    {taken arrived : Nat} (tls : Nat × ReadAnswer) (begun : taken ≤ arrived)
    (inside : arrived ≤ request.bytes.length) (state : Engineer) (at_ : state.taken = taken) :
    (waiting fd request taken).fillPending
        (state.answer (clientStream request frames) arrived tls (waiting fd request taken)) =
      waiting fd request arrived ∧
    taken + state.fills (clientStream request frames) arrived tls (waiting fd request taken) =
      arrived := by
  have short := request.short
  have size : (request.bytes.take taken).length = taken := by
    rw [List.length_take]
    omega
  have total : arrived ≤ (clientStream request frames).length := by
    rw [clientStream, List.length_append]
    omega
  have front : ∀ count ≤ request.bytes.length,
      (clientStream request frames).take count = request.bytes.take count := by
    intro count bound
    rw [clientStream, List.take_append_of_le_length bound]
  constructor
  · have more : request.bytes.take taken ++
        (state.unread (clientStream request frames) arrived).take
          (1023 - (request.bytes.take taken).length) = request.bytes.take arrived := by
      have joined := pending_append (clientStream request frames) arrived (1023 - taken)
        (Nat.zero_le taken) (by omega)
      have stop : taken + min (1023 - taken) (arrived - taken) = arrived := by omega
      rw [List.drop_zero, List.drop_zero, stop, front taken (by omega), front arrived inside]
        at joined
      rw [size, unread, at_]
      rw [front arrived inside]
      exact joined
    rw [fillPending_plain _ state arrived tls rfl rfl]
    dsimp only [waiting]
    rw [more]
  · rw [fills_plain _ state arrived tls rfl rfl, unread_take_length total, at_]
    dsimp only [waiting]
    rw [size]
    omega

/-- The first read of a request. -/
theorem accepted_open (digest : List UInt8 → List UInt8) (fd : Nat)
    (detects : accepted.detects (clientStream request frames) arrival = true)
    (inside : arrival.fill ≤ request.bytes.length) :
    (arrival.fill < request.keyEnd → accepted.detected digest fd request frames arrival =
        collecting fd request arrival.fill) ∧
      (request.keyEnd ≤ arrival.fill → ∃ ws, Ready ws ∧
        accepted.detected digest fd request frames arrival = answered ws arrival.fill) := by
  have plain :
      looksSSL ((accepted.unread (clientStream request frames) arrival.peekAgain).take 14) =
      false := by
    rw [accepted_peek]
    exact (detect_take _ (Nat.min_le_left _ _)).2
  have empty : waiting fd request 0 = fresh fd false := rfl
  obtain ⟨filled, taken⟩ :=
    waiting_fill fd request frames arrival.tlsFill (Nat.zero_le arrival.fill) inside accepted rfl
  obtain ⟨early, late⟩ := checkHeaders_waiting digest fd request arrival.fill
  rw [detected, if_pos detects, openWebSocket, plain, ← empty]
  rw [filled]
  have start : accepted.taken = 0 := rfl
  rw [start, taken]
  constructor
  · intro before
    rw [early before]
    rfl
  · intro behind
    have ready := late behind
    refine ⟨_, ready, ?_⟩
    rw [noteDone, ready.headers]
    rfl

/-- `recv` while the request is read. -/
theorem collecting_receive (digest : List UInt8 → List UInt8) (fd : Nat) (frames : List Frame)
    {taken : Nat} (begun : taken ≤ arrival.read) (inside : arrival.read ≤ request.bytes.length) :
    (arrival.read < request.keyEnd → arrival.read < 71 →
      (collecting fd request taken).receiveFrame digest (clientStream request frames) arrival
        (waiting fd request taken) = collecting fd request arrival.read) ∧
    (arrival.read < request.keyEnd → 71 ≤ arrival.read → ∃ bytes,
      ((collecting fd request taken).receiveFrame digest (clientStream request frames) arrival
        (waiting fd request taken)).frames = [(0, bytes)]) ∧
    (request.keyEnd ≤ arrival.read → ∃ ws, Ready ws ∧
      (collecting fd request taken).receiveFrame digest (clientStream request frames) arrival
        (waiting fd request taken) = answered ws arrival.read) := by
  obtain ⟨filled, total⟩ :=
    waiting_fill fd request frames arrival.tlsRead begun inside (collecting fd request taken) rfl
  obtain ⟨before, behind⟩ := checkHeaders_waiting digest fd request arrival.read
  have isOpen : ¬(waiting fd request arrival.read).fd = none := Option.some_ne_none fd
  have undone : ¬(waiting fd request arrival.read).doneHeaders = true := Bool.false_ne_true
  have at_ : (collecting fd request taken).taken = taken := rfl
  have decoded := request.decode_take arrival.read inside
  rw [receiveFrame, recv, filled]
  dsimp only
  rw [if_neg isOpen, if_neg undone, at_, total]
  refine ⟨fun early short => ?_, fun early long => ?_, fun late => ?_⟩
  · rw [before early]
    have nothing : decode (waiting fd request arrival.read).pending = .incomplete := by
      rw [waiting, decoded, if_neg (by omega)]
    rw [nothing]
    rfl
  · rw [before early]
    have garbage : decode (waiting fd request arrival.read).pending =
        .frame (slice 2 69 (request.bytes.take arrival.read)) 71 := by
      rw [waiting, decoded, if_pos long]
    have begins : arrival.read - ((waiting fd request arrival.read).pending.drop 71).length - 71 =
        0 := by
      rw [List.length_drop, waiting, List.length_take]
      omega
    rw [garbage]
    exact ⟨(slice 2 69 (request.bytes.take arrival.read)).take 10239,
      congrArg (fun start => [(start, (slice 2 69 (request.bytes.take arrival.read)).take 10239)])
        begins⟩
  · have ready := behind late
    generalize (waiting fd request arrival.read).checkHeaders digest [.all] = ws at ready
    refine ⟨ws, ready, ?_⟩
    have nothing : decode ws.pending = .incomplete := by
      rw [ready.pending]
      rfl
    rw [nothing]
    dsimp only
    rw [noteDone, ready.headers]
    rfl

/-- The headers are done, and the frames are decoded from the end of the request on. -/
structure Running (request : UpgradeRequest) (frames : List Frame) (ws : WebSocket) (done : Nat)
    (engineer : Engineer) : Prop where
  slot : engineer.ws = some ws
  decoding : Decoding request.bytes frames done ws engineer.taken
  opened : engineer.openings = [0]
  responded : engineer.responses = [request.bytes.length]
  raw : engineer.raw = []
  none : engineer.frames = [] → done = 0
  first : ∀ frame ∈ engineer.frames.head?, frame.1 = request.bytes.length
  framed : ∀ frame ∈ engineer.frames, request.bytes.length ≤ frame.1

private theorem offset_zero : offset request.bytes frames 0 = request.bytes.length := Nat.add_zero _

private theorem le_offset (request : UpgradeRequest) (frames : List Frame) (done : Nat) :
    request.bytes.length ≤ offset request.bytes frames done :=
  Nat.le_add_right _ _

private theorem Running.upgraded {ws : WebSocket} {done : Nat}
    (running : Running request frames ws done engineer) : Upgraded request engineer := by
  have begun := running.decoding.begun
  have behind := le_offset request frames done
  refine ⟨running.raw, fun _ => running.opened, ?_, running.first, running.framed⟩
  rw [running.responded, if_pos (by omega)]

/-- The response has just been sent, at the end of the request. -/
theorem Running.of_ready {ws : WebSocket} (ready : Ready ws) :
    Running request frames ws 0 (answered ws request.bytes.length) := by
  refine ⟨rfl, ⟨ready.isOpen, ready.plain, ready.headers, ?_, ?_, ?_, ?_⟩, rfl, rfl, rfl,
    fun _ => rfl, fun _ first => (by cases first), fun _ member => by cases member⟩
  · rw [offset_zero]
    exact Nat.le_refl _
  · rw [List.length_append]
    exact Nat.le_add_right _ _
  · rw [offset_zero]
    exact Nat.le_add_right _ _
  · rw [ready.pending, offset_zero]
    dsimp only [answered]
    rw [List.drop_eq_nil_of_le]
    rw [List.length_take]
    exact Nat.min_le_left _ _

/-- One `recv` behind the request. -/
theorem Running.receive (digest : List UInt8 → List UInt8) {ws : WebSocket} {done : Nat}
    (running : Running request frames ws done engineer)
    (inside : arrival.read ≤ (clientStream request frames).length) :
    ∃ next later, Running request frames next later
      (engineer.receiveFrame digest (clientStream request frames) arrival ws) := by
  rcases receiveFrame_decoding digest running.decoding inside with
    ⟨frame, at_, whole, next, decoding, same⟩ | ⟨_, next, decoding, same⟩
  · refine ⟨next, done + 1, ?_⟩
    rw [same]
    refine ⟨rfl, decoding, running.opened, running.responded, running.raw, fun empty => ?_, ?_, ?_⟩
    · exact (List.append_ne_nil_of_right_ne_nil _ (List.cons_ne_nil _ _) empty).elim
    · dsimp only
      rw [List.head?_append]
      cases before : engineer.frames with
      | nil =>
          intro first member
          rw [← Option.some.inj member, running.none before, offset_zero]
      | cons first rest =>
          have known := running.first
          rw [before] at known
          exact known
    · intro frame member
      rcases List.mem_append.mp member with old | new
      · exact running.framed frame old
      · rw [List.mem_singleton.mp new]
        exact le_offset request frames done
  · refine ⟨next, done, ?_⟩
    rw [same]
    exact ⟨rfl, decoding, running.opened, running.responded, running.raw, running.none,
      running.first, running.framed⟩

/-- A response at another place than the end of the request. -/
theorem not_upgraded_of_response {start : Nat} (responded : [start] <+: engineer.responses)
    (astray : start ≠ request.bytes.length) : ¬Upgraded request engineer := by
  intro upgraded
  rw [upgraded.responded] at responded
  split_ifs at responded
  · exact astray (List.cons_prefix_cons.mp responded).1
  · exact List.cons_ne_nil _ _ (List.prefix_nil.mp responded)

private theorem request_pos (request : UpgradeRequest) : 14 ≤ request.bytes.length :=
  request.start.length_le

/-- The states of a connection that is upgraded as it should be. -/
inductive Stage (fd : Nat) (request : UpgradeRequest) (frames : List Frame) : Engineer → Prop
  | start : Stage fd request frames accepted
  | collecting {taken : Nat} (begun : 0 < taken) (early : taken < request.keyEnd)
      (short : taken < 71) : Stage fd request frames (collecting fd request taken)
  | running {engineer : Engineer} {ws : WebSocket} {done : Nat}
      (running : Running request frames ws done engineer) : Stage fd request frames engineer

private theorem Stage.upgraded (stage : Stage fd request frames engineer) :
    Upgraded request engineer := by
  have long := request_pos request
  have inside := request.keyEnd_le
  cases stage with
  | start =>
      have none : ¬request.bytes.length ≤ accepted.taken := by
        have zero : accepted.taken = 0 := rfl
        omega
      exact ⟨rfl, fun absurd => (absurd rfl).elim, by rw [if_neg none]; rfl,
        fun _ first => (by cases first), fun _ member => by cases member⟩
  | @collecting taken begun early short =>
      have none : ¬request.bytes.length ≤ (Engineer.collecting fd request taken).taken := by
        have same : (Engineer.collecting fd request taken).taken = taken := rfl
        omega
      exact ⟨rfl, fun _ => rfl, by rw [if_neg none]; rfl, fun _ first => (by cases first),
        fun _ member => by cases member⟩
  | running running => exact running.upgraded

/-- One `recv` while the request is read. -/
theorem collecting_step (digest : List UInt8 → List UInt8) (fd : Nat)
    {request : UpgradeRequest} (frames : List Frame) {arrival : Arrival} {taken : Nat}
    (begun : taken ≤ arrival.read) (positive : 0 < arrival.read)
    (inside : arrival.read ≤ request.bytes.length) :
    (Settled request arrival.read → Stage fd request frames
      ((collecting fd request taken).receiveFrame digest (clientStream request frames) arrival
        (waiting fd request taken))) ∧
    (¬Settled request arrival.read → ¬Upgraded request
      ((collecting fd request taken).receiveFrame digest (clientStream request frames) arrival
        (waiting fd request taken))) := by
  have keyed := request.keyEnd_le
  have long := request_pos request
  obtain ⟨waits, garbage, responds⟩ := collecting_receive digest fd frames begun inside
  by_cases late : request.keyEnd ≤ arrival.read
  · obtain ⟨ws, ready, same⟩ := responds late
    rw [same]
    by_cases whole : arrival.read = request.bytes.length
    · refine ⟨fun _ => ?_, fun unsettled => (unsettled (.inl whole)).elim⟩
      rw [whole]
      exact .running (.of_ready ready)
    · refine ⟨fun settled => ?_, fun _ => not_upgraded_of_response (List.prefix_refl _) whole⟩
      rcases settled with equal | ⟨early, _⟩
      · exact (whole equal).elim
      · omega
  · by_cases short : arrival.read < 71
    · rw [waits (by omega) short]
      refine ⟨fun _ => .collecting positive (by omega) short, fun unsettled => ?_⟩
      exact (unsettled (.inr ⟨by omega, short⟩)).elim
    · obtain ⟨bytes, frame⟩ := garbage (by omega) (by omega)
      refine ⟨fun settled => ?_, fun _ upgraded => ?_⟩
      · rcases settled with equal | ⟨_, small⟩
        · omega
        · exact (short small).elim
      · have framed := upgraded.framed (0, bytes) (by rw [frame]; exact List.mem_singleton_self _)
        have zero : request.bytes.length ≤ 0 := framed
        omega

/-- One turn of the loop keeps the connection upgraded exactly on clean arrivals. -/
theorem Stage.step (stage : Stage fd request frames engineer)
    (possible : Possible digest fd request frames engineer arrival) :
    (Clean request frames engineer arrival → Stage fd request frames
      (engineer.wake digest (clientStream request frames) fd arrival)) ∧
    (¬Clean request frames engineer arrival → ¬Upgraded request
      (engineer.wake digest (clientStream request frames) fd arrival)) := by
  have keyed := request.keyEnd_le
  have long := request_pos request
  obtain ⟨_, _, readable, again, filled, read, inside, before, behind⟩ := id possible
  cases stage with
  | start =>
      by_cases short : 14 ≤ arrival.peek
      swap
      · exact ⟨fun clean => (short clean.1).elim,
          fun _ => not_upgraded_of_short possible (by omega)⟩
      have detects : accepted.detects (clientStream request frames) arrival = true := by
        rw [accepted_detects]
        exact decide_eq_true short
      have fill : arrival.fill ≤ request.bytes.length := before rfl
      obtain ⟨waits, responds⟩ := accepted_open digest fd detects fill
      by_cases early : arrival.fill < request.keyEnd
      · rw [waits early] at behind
        have bound : arrival.read ≤ request.bytes.length := behind rfl
        obtain ⟨settles, breaks⟩ := collecting_step digest fd frames read (by omega)
          bound
        rw [wake_detected, waits early]
        refine ⟨fun clean => settles ?_, fun unclean => breaks fun settled => ?_⟩
        · rcases clean.2 with whole | ⟨_, settled⟩
          · omega
          · exact settled
        · exact unclean ⟨short, .inr ⟨early, settled⟩⟩
      · obtain ⟨ws, ready, same⟩ := responds (by omega)
        rw [wake_detected, same]
        by_cases whole : arrival.fill = request.bytes.length
        · refine ⟨fun _ => ?_, fun unclean => (unclean ⟨short, .inl whole⟩).elim⟩
          have running : Running request frames ws 0 (answered ws arrival.fill) := by
            rw [whole]
            exact .of_ready ready
          obtain ⟨next, done, later⟩ := running.receive digest inside
          exact .running later
        · refine ⟨fun clean => ?_, fun _ => ?_⟩
          · rcases clean.2 with equal | ⟨small, _⟩
            · exact (whole equal).elim
            · exact (early small).elim
          · have kept := (receiveFrame_keeps digest (clientStream request frames) arrival ws
              (answered ws arrival.fill)).2.2
            exact not_upgraded_of_response kept whole
  | @collecting taken begun early small =>
      cases detects : (Engineer.collecting fd request taken).detects (clientStream request frames)
          arrival with
      | true =>
          refine ⟨fun clean => ?_, fun _ => ?_⟩
          · exact (Bool.false_ne_true (clean.1.symm.trans detects)).elim
          · exact not_upgraded_of_detects detects rfl (Nat.ne_of_gt begun)
      | false =>
          have stays :
              (Engineer.collecting fd request taken).detected digest fd request frames arrival =
              Engineer.collecting fd request taken := by
            rw [detected, detects, if_neg Bool.false_ne_true]
          have at_ : (Engineer.collecting fd request taken).taken = taken := rfl
          rw [stays] at behind
          have bound : arrival.read ≤ request.bytes.length := behind rfl
          obtain ⟨settles, breaks⟩ := @collecting_step digest fd request frames arrival
            taken (by omega) (by omega) bound
          rw [wake_detected, stays]
          refine ⟨fun clean => settles ?_, fun unclean => breaks fun settled => ?_⟩
          · exact clean.2.resolve_left Bool.false_ne_true
          · exact unclean ⟨detects, .inr settled⟩
  | @running _ ws done running =>
      have taken : engineer.taken ≠ 0 := by
        have begun := running.decoding.begun
        have least := le_offset request frames done
        omega
      have clean_iff : Clean request frames engineer arrival ↔
          engineer.detects (clientStream request frames) arrival = false := by
        rw [Clean, running.slot]
        exact ⟨fun clean => clean.1, fun quiet => ⟨quiet, .inl running.decoding.headers⟩⟩
      rw [clean_iff]
      cases detects : engineer.detects (clientStream request frames) arrival with
      | true =>
          refine ⟨by simp, fun _ => not_upgraded_of_detects detects running.opened taken⟩
      | false =>
          refine ⟨fun _ => ?_, fun absurd => (absurd rfl).elim⟩
          have stays : engineer.detected digest fd request frames arrival = engineer := by
            rw [detected, detects, if_neg Bool.false_ne_true]
          rw [wake_detected, stays, running.slot]
          obtain ⟨next, later, step⟩ := running.receive digest inside
          exact .running step

end Steps

section Runs

variable {digest : List UInt8 → List UInt8} {fd : Nat} {request : UpgradeRequest}
  {frames : List Frame}

/-- Every state of a run is that of a proper upgrade, exactly when every arrival is clean. -/
theorem run_upgrade {history : List Arrival} (run : Run digest fd request frames history) :
    (∀ earlier, earlier <:+ history → Upgraded request (after digest fd request frames earlier)) ↔
      History.Guarded (wake digest (clientStream request frames) fd) accepted
        (Clean request frames) history := by
  have stages : ∀ {earlier : List Arrival}, Run digest fd request frames earlier →
      History.Guarded (wake digest (clientStream request frames) fd) accepted
        (Clean request frames) earlier →
          Stage fd request frames (after digest fd request frames earlier) := by
    intro earlier run clean
    induction earlier with
    | nil => exact .start
    | cons arrival before ih => exact ((ih run.2 clean.2).step run.1).1 clean.1
  constructor
  · intro upgraded
    induction history with
    | nil => trivial
    | cons arrival before ih =>
        have clean := ih run.2 fun earlier suffix =>
          upgraded earlier (suffix.trans (List.suffix_cons arrival before))
        refine ⟨?_, clean⟩
        by_contra unclean
        exact ((stages run.2 clean).step run.1).2 unclean (upgraded _ (List.suffix_refl _))
  · intro clean earlier suffix
    exact (stages (run.of_suffix suffix) (clean.of_suffix suffix)).upgraded

/-- A short request, of 40 bytes. -/
def sampleRequest : UpgradeRequest where
  bytes := wsPrefix ++ lineEnd ++ keyMarker ++ [0x78] ++ lineEnd ++ lineEnd
  key := (35, 1)
  start := by decide +kernel
  short := by decide +kernel
  text := by decide +kernel
  keyed := by decide +kernel
  blank := by decide +kernel

/-- Everything has arrived at each call of the turn. -/
def Arrival.at (count : Nat) : Arrival := ⟨count, count, count, count, (0, .again), (0, .again)⟩

/-- An upgrade request that arrives as a whole. -/
theorem run_upgrade_whole :
    (∀ earlier, earlier <:+ [Arrival.at 40] →
      Upgraded sampleRequest (after (fun _ => []) 9 sampleRequest [] earlier)) ↔
        History.Guarded (wake (fun _ => []) (clientStream sampleRequest []) 9) accepted
          (Clean sampleRequest []) [Arrival.at 40] :=
  run_upgrade (by decide +kernel)

/-- A segment that ends between the line of the key and the blank line. -/
theorem split_request_not_upgraded :
    Run (fun _ => []) 9 sampleRequest [] [Arrival.at 38] ∧
      ¬Upgraded sampleRequest (after (fun _ => []) 9 sampleRequest [] [Arrival.at 38]) := by
  refine ⟨by decide +kernel, fun upgraded => ?_⟩
  exact absurd upgraded.responded (by decide +kernel)

end Runs

end Engineer

end SupportProxy
