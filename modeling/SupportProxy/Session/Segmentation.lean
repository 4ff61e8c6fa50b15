import SupportProxy.Session.Actions
import SupportProxy.Session.Scenario
import SupportProxy.Library.SegmentedStream

/-! # An engineer's stream and its segments

A TCP engineer's bytes come in `recv` buffers of at most 10239 bytes. The parse loop is a
byte-driven reader (`engineerReader`) that gives up the rest of a buffer behind a rejected frame,
and that carries `got_bad_signature` on from an unsigned frame whose checksum is wrong. What the
engineer gets through depends on the segments exactly when one of the two matters. -/

namespace SupportProxy

open SegmentedStream

variable {P : Type}

/-- The messages of an engineer handed on to the user, the newest first. -/
def relayed (slot : Nat) (log : List Event) : List Message :=
  log.filterMap fun event =>
    match event with
    | .toUser source msg => if source = slot then some msg else none
    | _ => none

/-- A used slot of a raw TCP engineer, with a user to forward to. -/
structure RawTcp (slot : Nat) (state : LoopState P) : Prop where
  user : state.haveConn1 = true
  used : (state.conn2 slot).used = true
  tcp : (state.conn2 slot).isUdp = false
  sock : (state.conn2 slot).sock.isSome = true

/-- `recv` of a raw TCP engineer returns a buffer. -/
def Wakeup.delivers (wake : Wakeup) (slot : Nat) (buffer : List UInt8) : Wakeup :=
  { wake with
    engineerReadable := fun other =>
      if other = slot then some ⟨false, 0, false, some buffer⟩ else none }

section Reading

variable (lib : Library P) (env : Environment) (pair : PortPair) (slot : Nat)

/-- The engineer's buffers one after the other. -/
def feed (wake : Wakeup) (state : LoopState P) (buffers : List (List UInt8)) : LoopState P :=
  buffers.foldl (fun state buffer =>
    (engineerTcpSlot lib env pair (wake.delivers slot buffer) slot state).2) state

/-- What handing a message to the user does to the links. -/
def relay (msg : Message) (mav : MavState P) : Bool × MavState P :=
  sendMessage lib env chanComm1 msg
    ((if pair.tlogEnabled then mav.note (.tlog msg) else mav).note (.toUser slot msg))

/-- The parse loop of an engineer between two bytes. -/
structure ParseLoop (P : Type) where
  mav : MavState P
  /-- the rest of the buffer is dropped -/
  givesUp : Bool

/-- `receive_message` clears `got_bad_signature`. -/
def cleared (slot : Nat) (mav : MavState P) : MavState P :=
  mav.setBadSignature (chanComm2 slot) false

private theorem cleared_cleared (slot : Nat) (mav : MavState P) :
    cleared slot (cleared slot mav) = cleared slot mav := by
  simp only [cleared, MavState.setBadSignature, Function.update_idem]

private theorem cleared_same (slot : Nat) (mav : MavState P) :
    (cleared slot mav).gotBadSignature (chanComm2 slot) = false := Function.update_self ..

private theorem cleared_clean {mav : MavState P}
    (clean : mav.gotBadSignature (chanComm2 slot) = false) : cleared slot mav = mav := by
  rw [cleared, MavState.setBadSignature, ← clean, Function.update_eq_self]

/-- The parse loop of an engineer, byte by byte. It drops the rest of the buffer behind a frame
that is not accepted, and behind a message the user does not get. `receive_message` is called
again behind a message that the user gets. -/
def engineerReader : Reader (ParseLoop P) UInt8 Message where
  step loop byte :=
    if loop.givesUp then (loop, [])
    else
      match parseByte lib (chanComm2 slot) byte loop.mav with
      | (none, mav) => (⟨mav, false⟩, [])
      | (some msg, mav) =>
          match checkFrame lib env (chanComm2 slot) msg mav with
          | (false, mav) => (⟨mav, true⟩, [])
          | (true, mav) =>
              match relay lib env pair slot msg (mav.note (.accepted (chanComm2 slot) msg)) with
              | (false, mav) => (⟨mav, true⟩, [msg])
              | (true, mav) => (⟨cleared slot mav, false⟩, [msg])
  start loop := ⟨cleared slot loop.mav, false⟩
  settled loop := !loop.givesUp && !loop.mav.gotBadSignature (chanComm2 slot)
  settled_start loop := by
    dsimp only
    rw [cleared_same]
    rfl
  start_of_settled loop settled := by
    rw [Bool.and_eq_true, Bool.not_eq_true', Bool.not_eq_true'] at settled
    obtain ⟨reads, clean⟩ := settled
    rw [cleared_clean slot clean, ← reads]

end Reading

section Lemmas

variable {lib : Library P} {env : Environment} {pair : PortPair} {slot : Nat}

private theorem relayed_append (first second : List Event) :
    relayed slot (first ++ second) = relayed slot first ++ relayed slot second :=
  List.filterMap_append

private theorem relayed_of_onLink {chan : Nat} {ws : Option Nat} {events : List Event}
    (on : ∀ event ∈ events, event.onLink chan ws) : relayed slot events = [] := by
  rw [relayed, List.filterMap_eq_nil_iff]
  intro event member
  have known := on event member
  cases event with
  | toUser _ _ => exact known.elim
  | _ => rfl

private theorem Touches.relayed {chan : Nat} {mav next : MavState P}
    (touches : Touches chan mav next) :
    relayed slot next.log = relayed slot mav.log := by
  obtain ⟨news, log, on⟩ := touches.log
  rw [log, relayed_append, relayed_of_onLink on, List.nil_append]

private theorem relayed_sendMessage {chan : Nat} (msg : Message) (mav : MavState P) :
    relayed slot (sendMessage lib env chan msg mav).2.log = relayed slot mav.log := by
  obtain ⟨middle, touches, _, _, sent⟩ := sendMessage_effect lib env chan msg mav
  rcases sent with silent | ⟨transport, noted, _, _⟩
  · rw [silent, touches.relayed]
  · rw [noted]
    exact touches.relayed

private theorem relayed_relay (msg : Message) (mav : MavState P) :
    relayed slot (relay lib env pair slot msg mav).2.log = msg :: relayed slot mav.log := by
  rw [relay, relayed_sendMessage]
  split_ifs
  · simp only [MavState.note, relayed, List.filterMap_cons, ↓reduceIte]
  · simp only [MavState.note, relayed, List.filterMap_cons, ↓reduceIte]

variable (lib env pair slot) in
/-- The reader's outputs are the messages handed on. -/
theorem relayed_step (loop : ParseLoop P) (byte : UInt8) :
    relayed slot ((engineerReader lib env pair slot).step loop byte).1.mav.log =
      ((engineerReader lib env pair slot).step loop byte).2.reverse ++
        relayed slot loop.mav.log := by
  simp only [engineerReader]
  by_cases gaveUp : loop.givesUp = true
  · rw [if_pos gaveUp]
    rfl
  rw [if_neg gaveUp]
  have parsed : Touches (chanComm2 slot) loop.mav _ :=
    parseByte_touches lib (chanComm2 slot) byte loop.mav
  generalize parseByte lib (chanComm2 slot) byte loop.mav = result at parsed ⊢
  rcases result with ⟨_ | msg, next⟩
  · exact parsed.relayed
  · have checked := parsed.trans (checkFrame_touches lib env (chanComm2 slot) msg next)
    dsimp only
    generalize checkFrame lib env (chanComm2 slot) msg next = verdict at checked ⊢
    rcases verdict with ⟨_ | _, last⟩
    · exact checked.relayed
    · have accepted : Touches (chanComm2 slot) loop.mav
          (last.note (.accepted (chanComm2 slot) msg)) := checked.trans (.note rfl)
      have handed : relayed slot (relay lib env pair slot msg
          (last.note (.accepted (chanComm2 slot) msg))).2.log = msg :: relayed slot _ :=
        relayed_relay msg _
      rw [accepted.relayed] at handed
      dsimp only
      generalize relay lib env pair slot msg (last.note (.accepted (chanComm2 slot) msg)) = sent
        at handed ⊢
      rcases sent with ⟨_ | _, after⟩
      · exact handed
      · exact handed

/-- What the reader has yielded behind a buffer. -/
theorem relayed_read (loop : ParseLoop P) (bytes : List UInt8) :
    relayed slot ((engineerReader lib env pair slot).read loop bytes).1.mav.log =
      ((engineerReader lib env pair slot).read loop bytes).2.reverse ++
        relayed slot loop.mav.log := by
  induction bytes generalizing loop with
  | nil => rfl
  | cons byte bytes ih =>
      rw [Reader.read_cons]
      dsimp only
      rw [ih, relayed_step lib env pair slot loop byte, List.reverse_append, List.append_assoc]

/-- What the reader has yielded behind a sequence of buffers. -/
theorem relayed_readAll (loop : ParseLoop P) (buffers : List (List UInt8)) :
    relayed slot ((engineerReader lib env pair slot).readAll loop buffers).1.mav.log =
      ((engineerReader lib env pair slot).readAll loop buffers).2.reverse ++
        relayed slot loop.mav.log := by
  induction buffers generalizing loop with
  | nil => rfl
  | cons buffer buffers ih =>
      rw [Reader.readAll_cons]
      dsimp only
      rw [ih, relayed_read, List.reverse_append, List.append_assoc]
      rfl

/-- A reader that has given up reads on to the end of the buffer. -/
theorem read_givesUp (mav : MavState P) (bytes : List UInt8) :
    (engineerReader lib env pair slot).read ⟨mav, true⟩ bytes = (⟨mav, true⟩, []) := by
  induction bytes with
  | nil => rfl
  | cons byte bytes ih =>
      have step :
          (engineerReader lib env pair slot).step ⟨mav, true⟩ byte = (⟨mav, true⟩, []) := rfl
      rw [Reader.read_cons, step, ih]
      rfl

/-- `receive_message` is the reader up to the next message. -/
theorem read_receiveBytes (bytes : List UInt8) (mav : MavState P) :
    ((engineerReader lib env pair slot).read ⟨mav, false⟩ bytes).1.mav =
        match receiveBytes lib env (chanComm2 slot) bytes mav with
        | (none, _, after) => after
        | (some msg, rest, after) =>
            match relay lib env pair slot msg after with
            | (false, after) => after
            | (true, after) =>
                ((engineerReader lib env pair slot).read
                  ⟨cleared slot after, false⟩ rest).1.mav := by
  induction bytes generalizing mav with
  | nil => rfl
  | cons byte bytes ih =>
      rw [Reader.read_cons, receiveBytes]
      dsimp only [engineerReader]
      rw [if_neg Bool.false_ne_true]
      rcases parseByte lib (chanComm2 slot) byte mav with ⟨_ | msg, next⟩
      · exact ih next
      · dsimp only
        rcases checkFrame lib env (chanComm2 slot) msg next with ⟨_ | _, last⟩
        · dsimp only
          exact congrArg (fun read => read.1.mav) (read_givesUp last bytes)
        · dsimp only
          rcases relay lib env pair slot msg (last.note (.accepted (chanComm2 slot) msg)) with
            ⟨_ | _, after⟩
          · exact congrArg (fun read => read.1.mav) (read_givesUp after bytes)
          · rfl

private theorem receiveBytes_shrinks {chan : Nat} {bytes rest : List UInt8} {mav after : MavState P}
    {msg : Message} (received : receiveBytes lib env chan bytes mav = (some msg, rest, after)) :
    rest.length < bytes.length := by
  induction bytes generalizing mav with
  | nil => cases received
  | cons byte bytes ih =>
      rw [receiveBytes] at received
      cases parsed : parseByte lib chan byte mav with
      | mk frame next =>
          rw [parsed] at received
          cases frame with
          | none =>
              have shorter := ih received
              rw [List.length_cons]
              omega
          | some found =>
              dsimp only at received
              cases checked : checkFrame lib env chan found next with
              | mk accepted last =>
                  rw [checked] at received
                  cases accepted with
                  | false => cases received
                  | true =>
                      obtain ⟨_, rfl, _⟩ := received
                      exact Nat.lt_succ_self _

variable (lib env pair slot) in
/-- Forwarding to the user, seen from the links. -/
theorem relayToUser_mav (msg : Message) (state : LoopState P) :
    (relayToUser lib env pair slot msg state).2.mav = (relay lib env pair slot msg state.mav).2 ∧
      (relayToUser lib env pair slot msg state).1 =
        if (relay lib env pair slot msg state.mav).1 then .next else .again := by
  have noted : (noteRelay pair slot msg state).mav =
      (if pair.tlogEnabled then state.mav.note (.tlog msg) else state.mav).note
        (.toUser slot msg) := by
    rw [noteRelay, writeTlog]
    split_ifs <;> rfl
  rw [relayToUser, relay, noted]
  generalize sendMessage lib env chanComm1 msg _ = sent
  rcases sent with ⟨_ | _, mav⟩ <;> exact ⟨rfl, rfl⟩

/-- The parse loop is the reader on one buffer, up to what the next call clears. -/
theorem parseMessages_mav (fuel : Nat) (bytes : List UInt8) (enough : bytes.length ≤ fuel)
    (state : LoopState P) :
    cleared slot (parseMessages lib env (chanComm2 slot) (relayToUser lib env pair slot) fuel bytes
        state).2.mav =
      cleared slot
        ((engineerReader lib env pair slot).read ⟨cleared slot state.mav, false⟩ bytes).1.mav := by
  induction fuel generalizing bytes state with
  | zero =>
      rw [List.eq_nil_of_length_eq_zero (Nat.le_zero.mp enough)]
      exact (cleared_cleared slot state.mav).symm
  | succ fuel ih =>
      rw [parseMessages]
      by_cases empty : bytes = []
      · rw [if_pos empty, empty]
        exact (cleared_cleared slot state.mav).symm
      · rw [if_neg empty, read_receiveBytes, receiveMessage]
        change _ = cleared slot (match receiveBytes lib env (chanComm2 slot) bytes
          (state.mav.setBadSignature (chanComm2 slot) false) with
          | (none, _, after) => after
          | (some msg, rest, after) => _)
        cases received : receiveBytes lib env (chanComm2 slot) bytes
            (state.mav.setBadSignature (chanComm2 slot) false) with
        | mk frame result =>
            obtain ⟨rest, after⟩ := result
            cases frame with
            | none => rfl
            | some msg =>
                have shorter := receiveBytes_shrinks received
                obtain ⟨mav, flow⟩ := relayToUser_mav lib env pair slot msg
                  { state with mav := after }
                dsimp only at mav flow ⊢
                generalize relayToUser lib env pair slot msg { state with mav := after } = forwarded
                  at mav flow ⊢
                obtain ⟨_, next⟩ := forwarded
                dsimp only at mav flow
                cases sent : relay lib env pair slot msg after with
                | mk delivered last =>
                    rw [sent] at mav flow
                    cases delivered with
                    | true =>
                        subst flow
                        simp only [↓reduceIte]
                        rw [ih rest (by omega) next, mav]
                    | false =>
                        subst flow
                        exact congrArg (cleared slot) mav

private theorem RawTcp.withMav {state : LoopState P} (raw : RawTcp slot state) (mav : MavState P) :
    RawTcp slot { state with mav := mav } := ⟨raw.user, raw.used, raw.tcp, raw.sock⟩

/-- Changing the counters of the slot leaves it a raw TCP engineer's. -/
theorem RawTcp.modifySlot {state : LoopState P} (raw : RawTcp slot state)
    {change : Connection2 → Connection2} (used : ∀ conn, (change conn).used = conn.used)
    (udp : ∀ conn, (change conn).isUdp = conn.isUdp)
    (sock : ∀ conn, (change conn).sock = conn.sock) :
    RawTcp slot (state.modifySlot slot change) := by
  have changed : (state.modifySlot slot change).conn2 slot = change (state.conn2 slot) :=
    Function.update_self ..
  refine ⟨raw.user, ?_, ?_, ?_⟩
  · rw [changed, used]
    exact raw.used
  · rw [changed, udp]
    exact raw.tcp
  · rw [changed, sock]
    exact raw.sock

variable (lib env pair) in
private theorem relayToUser_rawTcp (msg : Message) {state : LoopState P} (raw : RawTcp slot state) :
    RawTcp slot (relayToUser lib env pair slot msg state).2 := by
  have noted : RawTcp slot (noteRelay pair slot msg state) := by
    have counted : RawTcp slot (state.modifySlot slot fun conn =>
        { conn with rxMsgs := inc32 conn.rxMsgs }) :=
      raw.modifySlot (fun _ => rfl) (fun _ => rfl) fun _ => rfl
    rw [noteRelay, writeTlog]
    split_ifs
    · exact (counted.withMav _).withMav _
    · exact counted.withMav _
  rw [relayToUser]
  generalize sendMessage lib env chanComm1 msg _ = sent
  rcases sent with ⟨_ | _, mav⟩
  · exact noted.withMav mav
  · exact ⟨noted.user, noted.used, noted.tcp, noted.sock⟩

private theorem parseMessages_rawTcp (fuel : Nat) (bytes : List UInt8) {state : LoopState P}
    (raw : RawTcp slot state) :
    RawTcp slot (parseMessages lib env (chanComm2 slot) (relayToUser lib env pair slot) fuel bytes
      state).2 := by
  induction fuel generalizing bytes state with
  | zero => exact raw
  | succ fuel ih =>
      rw [parseMessages]
      split_ifs
      · exact raw
      · generalize receiveMessage lib env (chanComm2 slot) bytes state.mav = received
        obtain ⟨frame, rest, after⟩ := received
        have moved := raw.withMav after
        cases frame with
        | none => exact moved
        | some msg =>
            have next := relayToUser_rawTcp lib env pair msg moved
            dsimp only
            generalize relayToUser lib env pair slot msg { state with mav := after } = forwarded
              at next ⊢
            rcases forwarded with ⟨_ | _ | _, last⟩
            · exact ih rest next
            · exact next
            · exact next

variable (lib env pair) in
/-- One buffer of a raw TCP engineer. -/
theorem engineerTcpSlot_mav (wake : Wakeup) {buffer : List UInt8}
    (nonempty : buffer ≠ []) {state : LoopState P} (raw : RawTcp slot state) :
    cleared slot (engineerTcpSlot lib env pair (wake.delivers slot buffer) slot state).2.mav =
        cleared slot
          ((engineerReader lib env pair slot).read ⟨cleared slot state.mav, false⟩ buffer).1.mav ∧
      RawTcp slot (engineerTcpSlot lib env pair (wake.delivers slot buffer) slot state).2 := by
  obtain ⟨byte, rest, rfl⟩ := List.exists_cons_of_ne_nil nonempty
  have active : RawTcp slot (state.modifySlot slot fun conn => { conn with tcpActive := true }) :=
    raw.modifySlot (fun _ => rfl) (fun _ => rfl) fun _ => rfl
  have counted :
      RawTcp slot { state.modifySlot slot fun conn => { conn with tcpActive := true } with
      count2 := inc32 state.count2 } := ⟨active.user, active.used, active.tcp, active.sock⟩
  have same : engineerTcpSlot lib env pair (wake.delivers slot (byte :: rest)) slot state =
      parseMessages lib env (chanComm2 slot) (relayToUser lib env pair slot) (byte :: rest).length
        (byte :: rest) { state.modifySlot slot fun conn => { conn with tcpActive := true } with
          count2 := inc32 state.count2 } := by
    have open_slot : ((state.conn2 slot).isUdp || !(state.conn2 slot).used ||
        (state.conn2 slot).sock.isNone) = false := by
      rw [raw.tcp, raw.used, ← Option.not_isSome, raw.sock]
      rfl
    rw [engineerTcpSlot]
    dsimp only
    rw [open_slot]
    simp only [Wakeup.delivers, Bool.false_eq_true, ↓reduceIte, Bool.and_false]
    rw [engineerBytes, if_pos counted.user, parseBuffer]
  rw [same]
  exact ⟨parseMessages_mav _ _ le_rfl _, parseMessages_rawTcp _ _ counted⟩

/-- The buffers of a raw TCP engineer, up to what the next call clears. -/
theorem feed_mav (wake : Wakeup) (buffers : List (List UInt8))
    (nonempty : ∀ buffer ∈ buffers, buffer ≠ []) {state : LoopState P} (raw : RawTcp slot state)
    {loop : ParseLoop P} (same : cleared slot loop.mav = cleared slot state.mav) :
    cleared slot (feed lib env pair slot wake state buffers).mav =
      cleared slot ((engineerReader lib env pair slot).readAll loop buffers).1.mav := by
  induction buffers generalizing state loop with
  | nil => exact same.symm
  | cons buffer buffers ih =>
      obtain ⟨mav, next⟩ := engineerTcpSlot_mav lib env pair wake
        (nonempty buffer List.mem_cons_self) raw
      have started : (engineerReader lib env pair slot).start loop =
          ⟨cleared slot state.mav, false⟩ := congrArg (ParseLoop.mk · false) same
      rw [Reader.readAll_cons, started]
      exact ih (fun other member => nonempty other (List.mem_cons_of_mem _ member)) next mav.symm

/-- What a raw TCP engineer's buffers yield is what the reader yields. -/
theorem relayed_feed (wake : Wakeup) {bytes : List UInt8} {buffers : List (List UInt8)}
    (cut : Cut 10239 bytes buffers) {state : LoopState P} (raw : RawTcp slot state) :
    relayed slot (feed lib env pair slot wake state buffers).mav.log =
      ((engineerReader lib env pair slot).readAll ⟨state.mav, false⟩ buffers).2.reverse ++
        relayed slot state.mav.log := by
  have fed : cleared slot (feed lib env pair slot wake state buffers).mav =
      cleared slot ((engineerReader lib env pair slot).readAll ⟨state.mav, false⟩ buffers).1.mav :=
    feed_mav wake buffers (fun buffer member => (cut.2 buffer member).1) raw rfl
  have logs := congrArg MavState.log fed
  change (feed lib env pair slot wake state buffers).mav.log =
    ((engineerReader lib env pair slot).readAll ⟨state.mav, false⟩ buffers).1.mav.log at logs
  rw [logs, relayed_readAll]

end Lemmas

/-- A session with a user and a raw TCP engineer in slot 0. -/
def rawSession : LoopState (List UInt8) :=
  Scenario.session Scenario.authentic (some Scenario.record)
    [Scenario.userDatagram [], Scenario.engineerConnects 7]

def feedRaw (buffers : List (List UInt8)) : List Message :=
  relayed 0 (feed (Scenario.library Scenario.authentic) Scenario.environment Scenario.pair 0
    Scenario.quiet rawSession buffers).mav.log

/-- A signed heartbeat in the buffer of an unsigned frame whose checksum is wrong is taken for
badly signed. -/
example : feedRaw [Scenario.systemTimeFrame.set 23 0 ++ Scenario.heartbeatFrame] = [] ∧
    feedRaw [Scenario.systemTimeFrame.set 23 0, Scenario.heartbeatFrame] =
      [Framing.decode Scenario.heartbeatFrame] := by decide +kernel

end SupportProxy
