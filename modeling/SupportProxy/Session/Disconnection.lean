import SupportProxy.Session.Scenario
import SupportProxy.Session.Calls
import SupportProxy.Mavlink.Delivery
import SupportProxy.Library.History

/-! # Who may be disconnected

A slot is freed behind a failed send, and a session is left behind one, only when a call of
`send_message` has failed. `run_disconnection` says when that happens to a peer that is alive. -/

namespace SupportProxy

open History

variable {P : Type}

/-- One of the calls was for a channel, failed, and left the history as it is. -/
def SendFailed (lib : Library P) (env : Environment) (sends : List (MessageSend P)) (chan : Nat)
    (log : List Event) : Prop :=
  ∃ call ∈ sends, call.chan = chan ∧ (sendMessage lib env chan call.msg call.mav).1 = false ∧
    (sendMessage lib env chan call.msg call.mav).2.log = log

/-- A slot freed for a failed send had one. -/
def Blamed (lib : Library P) (env : Environment) (sends : List (MessageSend P))
    (before : List Event) : Event → Prop
  | .closed slot .sendFailed => SendFailed lib env sends (chanComm2 slot) before
  | _ => True

/-- A history that goes on while messages are sent, with a failed send behind every slot freed
for one. -/
structure Grows (lib : Library P) (env : Environment) (sends : List (MessageSend P))
    (before after : List Event) : Prop where
  suffix : before <:+ after
  blamed : ∀ earlier, Obeys (Blamed lib env earlier) before →
    Obeys (Blamed lib env (earlier ++ sends)) after

/-- An event other than the end of a connection. -/
def Event.harmless : Event → Prop
  | .closed _ _ => False
  | _ => True

/-- The table was overrun. -/
def Overrun (log : List Event) : Prop := Event.overrun ∈ log ∨ Event.bugExit ∈ log

/-- What ends a session apart from a failed send: the system calls of a wakeup, or silence. -/
inductive Wakeup.Ends (wake : Wakeup) (state : LoopState P) : Prop
  | dropped {indices : List Nat} (pending : wake.dropsPending = true)
      (flagged : wake.flagged = some indices) (user : 0 ∈ indices)
  | silent (connected : state.haveConn1 = true)
      (silent : state.lastPkt1 + silencePeriod < wake.top)
  | selectFailed (failed : wake.select = .failed)
  | userDatagramFailed (failed : wake.userDatagram = some none)
  | userConnectFailed (failed : wake.userConnects = false)
  | engineerDatagramFailed (failed : wake.engineerDatagram = some none)
  | userAcceptFailed (ready : wake.userTcpReady = true) (failed : wake.userAccept = none)
  | userEof (ready : wake.userTcpReady = true)
      (eof : wake.userReadable.received = none ∨ wake.userReadable.received = some [])

section Grows

variable {lib : Library P} {env : Environment} {sends : List (MessageSend P)}

private theorem SendFailed.of_more {first : List (MessageSend P)} {chan : Nat} {log : List Event}
    (failed : SendFailed lib env sends chan log) :
    SendFailed lib env (first ++ sends) chan log := by
  obtain ⟨call, member, fails⟩ := failed
  exact ⟨call, List.mem_append_right _ member, fails⟩

private theorem Blamed.of_append {earlier : List (MessageSend P)} {before : List Event}
    {event : Event} (blamed : Blamed lib env earlier before event) :
    Blamed lib env (earlier ++ sends) before event := by
  unfold Blamed at blamed ⊢
  split at blamed
  · obtain ⟨call, member, fails⟩ := blamed
    exact ⟨call, List.mem_append_left _ member, fails⟩
  · trivial

namespace Grows

private theorem refl (log : List Event) : Grows lib env sends log log :=
  ⟨List.suffix_refl log, fun _ obeys => obeys.imp fun _ _ blamed => blamed.of_append⟩

private theorem trans {more : List (MessageSend P)} {before middle after : List Event}
    (first : Grows lib env sends before middle) (second : Grows lib env more middle after) :
    Grows lib env (sends ++ more) before after := by
  refine ⟨first.suffix.trans second.suffix, fun earlier obeys => ?_⟩
  rw [← List.append_assoc]
  exact second.blamed _ (first.blamed earlier obeys)

/-- What grows without a send grows with some. -/
theorem after {before middle after : List Event} (first : Grows lib env [] before middle)
    (second : Grows lib env sends middle after) : Grows lib env sends before after :=
  first.trans second

private theorem note {event : Event} (log : List Event)
    (blamed : ∀ sends, Blamed lib env sends log event) : Grows lib env sends log (event :: log) :=
  ⟨List.suffix_cons _ _, fun _ obeys =>
    ⟨blamed _, obeys.imp fun _ _ blamed => blamed.of_append⟩⟩

private theorem harmless {event : Event} (log : List Event) (harmless : event.harmless) :
    Grows lib env sends log (event :: log) := by
  refine note log fun sends => ?_
  cases event with
  | closed slot reason => exact harmless.elim
  | _ => trivial

private theorem touches {chan : Nat} {mav next : MavState P} (touches : Touches chan mav next) :
    Grows lib env [] mav.log next.log := by
  obtain ⟨news, log, onLink⟩ := touches.log
  rw [log]
  clear log
  induction news with
  | nil => exact refl _
  | cons event news ih =>
      have own := onLink event List.mem_cons_self
      have rest : Grows lib env [] mav.log (news ++ mav.log) :=
        ih fun other member => onLink other (List.mem_cons_of_mem _ member)
      refine rest.after (harmless _ ?_)
      cases event with
      | closed slot reason => exact own.elim
      | _ => trivial

private theorem send (chan : Nat) (msg : Message) (mav : MavState P) :
    Grows lib env sends mav.log (sendMessage lib env chan msg mav).2.log := by
  obtain ⟨middle, _, _, log, same | ⟨transport, same, _⟩⟩ :=
    sendMessage_effect lib env chan msg mav
  · rw [same, log]
    exact refl _
  · rw [same, ← log]
    exact harmless _ trivial

private theorem receive (chan : Nat) (bytes : List UInt8) (mav : MavState P) :
    Grows lib env [] mav.log (receiveMessage lib env chan bytes mav).2.2.log :=
  touches (receiveMessage_touches lib env chan bytes mav)

end Grows

end Grows

/-- Why a flow is taken: it needs a cause unless it falls through, and later sends leave the
cause as it is. -/
structure CauseRule (cause : Flow → List (MessageSend P) → List Event → Prop) : Prop where
  next : ∀ sends log, cause .next sends log
  more : ∀ {flow first sends log}, cause flow sends log → cause flow (first ++ sends) log

/-- A user's message leaves nothing early but for an overrun. -/
def UserCause (flow : Flow) (_ : List (MessageSend P)) (log : List Event) : Prop :=
  match flow with
  | .next => True
  | .again => False
  | .stop => Overrun log

/-- An engineer's parse loop is left behind a failed send to the user. -/
def EngineerCause (lib : Library P) (env : Environment) (flow : Flow)
    (sends : List (MessageSend P)) (log : List Event) : Prop :=
  match flow with
  | .next => True
  | .again => SendFailed lib env sends chanComm1 log
  | .stop => False

/-- Why a block behind the first two ends the session. -/
def StopCause (lib : Library P) (env : Environment) (wake : Wakeup) (flow : Flow)
    (sends : List (MessageSend P)) (log : List Event) : Prop :=
  flow = .stop → (∀ state : LoopState P, wake.Ends state) ∨ Overrun log ∨
    SendFailed lib env sends chanComm1 log

/-- What a piece of code does to the history, with its sends and the cause of its flow. -/
structure Sound (lib : Library P) (env : Environment)
    (cause : Flow → List (MessageSend P) → List Event → Prop) (state : LoopState P)
    (sends : List (MessageSend P)) (result : Flow × LoopState P) : Prop where
  grows : Grows lib env sends state.mav.log result.2.mav.log
  cause : cause result.1 sends result.2.mav.log

section Handlers

variable {lib : Library P} {env : Environment} {pair : PortPair} {wake : Wakeup}
  {cause : Flow → List (MessageSend P) → List Event → Prop} {sends : List (MessageSend P)}

private theorem userCause_rule : CauseRule (UserCause (P := P)) := by
  refine ⟨fun _ _ => trivial, fun {flow} _ _ _ cause => ?_⟩
  cases flow <;> exact cause

private theorem engineerCause_rule : CauseRule (EngineerCause lib env) := by
  refine ⟨fun _ _ => trivial, fun {flow} _ _ _ cause => ?_⟩
  cases flow with
  | next => trivial
  | again => exact cause.of_more
  | stop => exact cause

private theorem stopCause_rule : CauseRule (StopCause lib env wake) := by
  refine ⟨fun _ _ => Flow.noConfusion, fun cause stops => ?_⟩
  exact (cause stops).imp id (.imp id .of_more)

namespace Sound

variable {state after : LoopState P} {result : Flow × LoopState P}

private theorem next (causes : CauseRule cause)
    (grows : Grows lib env sends state.mav.log after.mav.log) :
    Sound lib env cause state sends (.next, after) :=
  ⟨grows, causes.next _ _⟩

private theorem rule (causes : CauseRule cause) : TrailRule (Sound lib env cause) where
  idle := fun _ => .next causes (.refl _)
  next := fun first later => ⟨first.grows.trans later.grows, causes.more later.cause⟩

private theorem falls (causes : CauseRule cause) : FallsThrough (Sound lib env cause) :=
  fun sound => .next causes sound.grows

/-- Another cause that follows from this one. -/
theorem imp {other : Flow → List (MessageSend P) → List Event → Prop}
    (sound : Sound lib env cause state sends result)
    (implied : ∀ flow sends log, cause flow sends log → other flow sends log) :
    Sound lib env other state sends result :=
  ⟨sound.grows, implied _ _ _ sound.cause⟩

/-- A piece of code behind something that adds to the history and sends nothing. -/
theorem of_grows (sound : Sound lib env cause after sends result)
    (grows : Grows lib env [] state.mav.log after.mav.log) :
    Sound lib env cause state sends result :=
  ⟨grows.after sound.grows, sound.cause⟩

/-- Another state with the same history. -/
theorem of_log (sound : Sound lib env cause after sends result)
    (same : after.mav.log = state.mav.log) : Sound lib env cause state sends result := by
  refine sound.of_grows ?_
  rw [same]
  exact .refl _

end Sound

private theorem writeTlog_grows (msg : Message) (state : LoopState P) :
    Grows lib env [] state.mav.log (writeTlog pair msg state).mav.log := by
  rw [writeTlog]
  split_ifs
  · exact .harmless _ trivial
  · exact .refl _

private theorem binlogHandleUserMsg_log (msg : Message) (state : LoopState P) :
    (binlogHandleUserMsg lib pair wake msg state).2.mav.log = state.mav.log := by
  rw [binlogHandleUserMsg]
  split_ifs <;> rfl

/-- A slot is freed behind its own failed send. -/
theorem sendOrClose_sound (msg : Message) (slot : Nat) (state : LoopState P) :
    Sound lib env UserCause state [⟨chanComm2 slot, msg, state.mav⟩]
      (match sendToSlot lib env slot msg state with
        | (false, state) => (Flow.next, state.closeCounted .sendFailed slot)
        | (true, state) => (Flow.next, countTx slot state)) := by
  have sent : Grows lib env [⟨chanComm2 slot, msg, state.mav⟩] state.mav.log
      (sendMessage lib env (chanComm2 slot) msg state.mav).2.log :=
    .send (chanComm2 slot) msg state.mav
  rw [sendToSlot_eq]
  cases result : sendMessage lib env (chanComm2 slot) msg state.mav with
  | mk delivered after =>
      rw [result] at sent
      cases delivered with
      | true => exact .next userCause_rule sent
      | false =>
          refine .next userCause_rule
            ⟨sent.suffix.trans (List.suffix_cons _ _), fun earlier obeys => ?_⟩
          refine ⟨⟨⟨chanComm2 slot, msg, state.mav⟩, ?_, rfl, ?_, ?_⟩, sent.blamed earlier obeys⟩
          · exact List.mem_append_right _ List.mem_cons_self
          · rw [result]
          · exact congrArg (·.2.log) result

/-- The two fan-outs of the user handlers, with their sends. -/
def FansOut (lib : Library P) (env : Environment)
    (fanOut : Message → Nat → LoopState P → Flow × LoopState P)
    (sends : Message → Nat → LoopState P → List (MessageSend P)) : Prop :=
  ∀ msg slot state, Sound lib env UserCause state (sends msg slot state) (fanOut msg slot state)

private theorem fanOutTcp_fansOut : FansOut lib env (fanOutTcp lib env) fanOutTcpSends := by
  intro msg slot state
  rw [fanOutTcp, fanOutTcpSends]
  cases (state.conn2 slot).used with
  | false => exact .next userCause_rule (.refl _)
  | true => exact sendOrClose_sound msg slot state

private theorem fanOutUdp_fansOut : FansOut lib env (fanOutUdp lib env) fanOutUdpSends := by
  intro msg slot state
  rw [fanOutUdp, fanOutUdpSends]
  cases (state.conn2 slot).used with
  | false => exact .next userCause_rule (.refl _)
  | true =>
      cases (state.conn2 slot).isUdp with
      | true => exact .next userCause_rule (.send (chanComm2 slot) msg state.mav)
      | false =>
          cases (state.conn2 slot).sock with
          | none => exact .next userCause_rule (.refl _)
          | some fd => exact sendOrClose_sound msg slot state

private theorem overrun_sound (state : LoopState P) :
    Sound lib env UserCause state [] (.stop, state.note .overrun) :=
  ⟨.harmless _ trivial, .inl List.mem_cons_self⟩

private theorem relayToEngineers_sound {fanOut : Message → Nat → LoopState P → Flow × LoopState P}
    {fanOutSends : Message → Nat → LoopState P → List (MessageSend P)}
    (fans : FansOut lib env fanOut fanOutSends) (msg : Message) (state : LoopState P) :
    Sound lib env UserCause state (relayToEngineersSends lib pair wake fanOut fanOutSends msg state)
      (relayToEngineers lib pair wake fanOut msg state) := by
  rw [relayToEngineers, relayToEngineersSends]
  have logged : Grows lib env [] state.mav.log
      (writeTlog pair msg { state with mav1RxMsgs := inc32 state.mav1RxMsgs }).mav.log :=
    writeTlog_grows msg { state with mav1RxMsgs := inc32 state.mav1RxMsgs }
  generalize writeTlog pair msg { state with mav1RxMsgs := inc32 state.mav1RxMsgs } = middle
    at logged
  have handled : (binlogHandleUserMsg lib pair wake msg middle).2.mav.log = middle.mav.log :=
    binlogHandleUserMsg_log msg middle
  generalize binlogHandleUserMsg lib pair wake msg middle = result at handled
  rcases result with ⟨_ | _, after⟩
  · dsimp only at handled ⊢
    rw [← handled] at logged
    exact ((Sound.rule userCause_rule).forSlots (Sound.falls userCause_rule) (fans msg)
      overrun_sound 256 0 after).of_grows logged
  · dsimp only at handled ⊢
    rw [← handled] at logged
    exact .next userCause_rule logged

private theorem noteRelay_grows (slot : Nat) (msg : Message) (state : LoopState P) :
    Grows lib env [] state.mav.log (noteRelay pair slot msg state).mav.log := by
  rw [noteRelay]
  exact (writeTlog_grows msg (state.modifySlot slot fun conn =>
    { conn with rxMsgs := inc32 conn.rxMsgs })).after (.harmless _ trivial)

/-- The engineer's parse loop is left behind a failed send to the user. -/
theorem relayToUser_sound (slot : Nat) (msg : Message) (state : LoopState P) :
    Sound lib env (EngineerCause lib env) state (relayToUserSends pair slot msg state)
      (relayToUser lib env pair slot msg state) := by
  have noted : Grows lib env [] state.mav.log (noteRelay pair slot msg state).mav.log :=
    noteRelay_grows slot msg state
  rw [relayToUser, relayToUserSends]
  generalize noteRelay pair slot msg state = middle at noted
  have sent : Grows lib env [⟨chanComm1, msg, middle.mav⟩] middle.mav.log
      (sendMessage lib env chanComm1 msg middle.mav).2.log := .send chanComm1 msg middle.mav
  cases result : sendMessage lib env chanComm1 msg middle.mav with
  | mk delivered after =>
      rw [result] at sent
      cases delivered with
      | true => exact .next engineerCause_rule (noted.after sent)
      | false =>
          refine ⟨noted.after sent, ⟨chanComm1, msg, middle.mav⟩, List.mem_cons_self, rfl, ?_, ?_⟩
          · rw [result]
          · rw [result]

private theorem receive_sound (causes : CauseRule cause) (chan : Nat) (bytes : List UInt8)
    (state : LoopState P) :
    Sound lib env cause state []
      (.next, { state with mav := (receiveMessage lib env chan bytes state.mav).2.2 }) :=
  .next causes (.receive chan bytes state.mav)

private theorem userBytes_sound {fanOut : Message → Nat → LoopState P → Flow × LoopState P}
    {fanOutSends : Message → Nat → LoopState P → List (MessageSend P)}
    (fans : FansOut lib env fanOut fanOutSends) (bytes : List UInt8) (state : LoopState P) :
    Sound lib env UserCause state (userBytesSends lib env pair wake fanOut fanOutSends bytes state)
      (userBytes lib env pair wake fanOut bytes state) := by
  rw [userBytes, userBytesSends]
  split_ifs
  · exact (Sound.rule userCause_rule).parseMessages (receive_sound userCause_rule chanComm1)
      (relayToEngineers_sound fans) bytes.length bytes state
  · exact .next userCause_rule (.refl _)

private theorem engineerBytes_sound (slot : Nat) (bytes : List UInt8) (state : LoopState P) :
    Sound lib env (EngineerCause lib env) state (engineerBytesSends lib env pair slot bytes state)
      (engineerBytes lib env pair slot bytes state) := by
  rw [engineerBytes, engineerBytesSends]
  split_ifs
  · exact (Sound.rule engineerCause_rule).parseMessages
      (receive_sound engineerCause_rule (chanComm2 slot)) (relayToUser_sound slot)
      bytes.length bytes state
  · exact .next engineerCause_rule (.refl _)

end Handlers

section Iteration

variable {lib : Library P} {env : Environment} {pair : PortPair} {wake : Wakeup}

private theorem dropSlots_same (indices : List Nat) (state : LoopState P) :
    Grows lib env [] state.mav.log (indices.foldl dropSlot state).mav.log ∧
      (indices.foldl dropSlot state).haveConn1 = state.haveConn1 ∧
      (indices.foldl dropSlot state).lastPkt1 = state.lastPkt1 := by
  induction indices generalizing state with
  | nil => exact ⟨.refl _, rfl, rfl⟩
  | cons index indices ih =>
      obtain ⟨grows, connected, heard⟩ := ih (dropSlot state index)
      have dropped : Grows lib env [] state.mav.log (dropSlot state index).mav.log ∧
          (dropSlot state index).haveConn1 = state.haveConn1 ∧
          (dropSlot state index).lastPkt1 = state.lastPkt1 := by
        rw [dropSlot]
        split_ifs
        · exact ⟨.note _ fun _ => trivial, rfl, rfl⟩
        · exact ⟨.refl _, rfl, rfl⟩
      exact ⟨dropped.1.after grows, connected.trans dropped.2.1, heard.trans dropped.2.2⟩

private theorem processDrops_same (state : LoopState P) :
    Grows lib env [] state.mav.log (processDrops wake state).2.mav.log ∧
      (processDrops wake state).2.haveConn1 = state.haveConn1 ∧
      (processDrops wake state).2.lastPkt1 = state.lastPkt1 := by
  rw [processDrops]
  split_ifs
  · cases wake.flagged with
    | none => exact ⟨.refl _, rfl, rfl⟩
    | some indices => exact dropSlots_same indices state
  · exact ⟨.refl _, rfl, rfl⟩

private theorem processDrops_stop {state : LoopState P}
    (stops : (processDrops wake state).1 = .stop) :
    wake.Ends state := by
  rw [processDrops] at stops
  split_ifs at stops with pending
  cases flagged : wake.flagged with
  | none =>
      rw [flagged] at stops
      exact Flow.noConfusion stops
  | some indices =>
      rw [flagged] at stops
      by_cases user : 0 ∈ indices
      · exact .dropped pending flagged user
      · dsimp only at stops
        rw [if_neg user] at stops
        exact Flow.noConfusion stops

/-- A block of the loop body with its sends, and why it ends the session. -/
abbrev Block (lib : Library P) (env : Environment) (wake : Wakeup) :
    LoopState P → List (MessageSend P) → Flow × LoopState P → Prop :=
  Sound lib env (StopCause lib env wake)

namespace Block

variable {state : LoopState P} {sends : List (MessageSend P)}

private theorem flow {flow : Flow} {next : LoopState P} (running : flow ≠ .stop)
    (grows : Grows lib env sends state.mav.log next.mav.log) :
    Block lib env wake state sends (flow, next) :=
  ⟨grows, fun stops => (running stops).elim⟩

private theorem ends {next : LoopState P} (ended : ∀ state : LoopState P, wake.Ends state)
    (grows : Grows lib env sends state.mav.log next.mav.log) :
    Block lib env wake state sends (.stop, next) :=
  ⟨grows, fun _ => .inl ended⟩

private theorem of_user {result : Flow × LoopState P}
    (sound : Sound lib env UserCause state sends result) :
    Block lib env wake state sends result := by
  refine sound.imp fun flow sends log cause stops => ?_
  rw [stops] at cause
  exact .inr (.inl cause)

private theorem overrun (state : LoopState P) :
    Block lib env wake state [] (.stop, state.note .overrun) :=
  of_user (overrun_sound state)

private theorem eachSlot {body : Nat → LoopState P → Flow × LoopState P}
    {record : Nat → LoopState P → List (MessageSend P)}
    (visit : ∀ slot state, Block lib env wake state (record slot state) (body slot state))
    (state : LoopState P) :
    Block lib env wake state (slotTrail body record 256 0 state)
      (SupportProxy.eachSlot body state) :=
  (Sound.rule stopCause_rule).forSlots (Sound.falls stopCause_rule) visit overrun 256 0 state

/-- A loop over the slots that sends nothing. -/
theorem quietSlots {body : Nat → LoopState P → Flow × LoopState P}
    (visit : ∀ slot state, Block lib env wake state [] (body slot state)) (state : LoopState P) :
    Block lib env wake state [] (SupportProxy.eachSlot body state) := by
  rw [← slotTrail_nil body 256 0 state]
  exact eachSlot visit state

private theorem selectSockets (state : LoopState P) :
    Block lib env wake state [] (SupportProxy.selectSockets wake state) := by
  rw [SupportProxy.selectSockets]
  cases select : wake.select with
  | interrupted => exact .flow Flow.noConfusion (.refl _)
  | failed => exact .ends (fun _ => .selectFailed select) (.refl _)
  | ready =>
      dsimp only
      split_ifs
      · exact ⟨.harmless _ trivial, fun _ => .inr (.inl (.inr List.mem_cons_self))⟩
      · exact .flow Flow.noConfusion (.refl _)

private theorem sweepDeadUdp (state : LoopState P) :
    Block lib env wake state [] (SupportProxy.sweepDeadUdp wake state) := by
  refine quietSlots (fun slot state => ?_) state
  dsimp only
  split_ifs
  · exact .flow Flow.noConfusion (.note _ fun _ => trivial)
  · exact .flow Flow.noConfusion (.refl _)

private theorem watchSlots (state : LoopState P) :
    Block lib env wake state [] (SupportProxy.watchSlots state) :=
  quietSlots (fun _ _ => .flow Flow.noConfusion (.refl _)) state

end Block

private theorem openUser_grows (wake : Wakeup) (fd : Option Nat) (peer : Peer) (isTcp : Bool)
    (state : LoopState P) :
    Grows lib env [] state.mav.log (openUser env pair wake fd peer isTcp state).mav.log :=
  .touches (init_touches env chanComm1 fd pair.bidi false isTcp (conn1KeyId pair) state.mav)

private theorem startLink_grows (slot : Nat) (fd : Option Nat) (allowWebsocket isTcp : Bool)
    (state : LoopState P) :
    Grows lib env [] state.mav.log
      (state.startLink env pair slot fd allowWebsocket isTcp).mav.log :=
  .touches (init_touches env (chanComm2 slot) fd true allowWebsocket isTcp pair.port2 state.mav)

private theorem countOpened_grows (slot : Nat) (udp : Bool) (take : Connection2 → Connection2)
    (state : LoopState P) :
    Grows lib env [] state.mav.log ((state.modifySlot slot take).countOpened slot udp).mav.log :=
  .harmless _ trivial

private theorem openUdp_grows (slot : Nat) (peer : Peer) (now wallClock : Nat)
    (state : LoopState P) :
    Grows lib env [] state.mav.log (state.openUdp env pair slot peer now wallClock).mav.log := by
  rw [LoopState.openUdp]
  have taken : Grows lib env [] state.mav.log
      ((state.modifySlot slot (Connection2.takeUdp peer now wallClock)).countOpened slot
        true).mav.log := countOpened_grows slot true _ state
  generalize (state.modifySlot slot (Connection2.takeUdp peer now wallClock)).countOpened slot
    true = middle at taken
  have started : Grows lib env [] middle.mav.log
      (middle.startLink env pair slot state.sock2Udp false false).mav.log :=
    startLink_grows slot state.sock2Udp false false middle
  have directed : ∀ linked : LoopState P, (linked.directLink slot peer).mav.log = linked.mav.log :=
    fun _ => rfl
  rw [directed]
  exact taken.after started

private theorem openTcp_grows (slot fd : Nat) (peer : Peer) (wallClock : Nat)
    (state : LoopState P) :
    Grows lib env [] state.mav.log (state.openTcp env pair slot fd peer wallClock).mav.log := by
  rw [LoopState.openTcp]
  have taken : Grows lib env [] state.mav.log
      ((state.modifySlot slot (Connection2.takeTcp fd peer wallClock)).countOpened slot
        false).mav.log := countOpened_grows slot false _ state
  generalize (state.modifySlot slot (Connection2.takeTcp fd peer wallClock)).countOpened slot
    false = middle at taken
  exact taken.after (startLink_grows slot (some fd) true true middle)

namespace Block

private theorem userUdp (state : LoopState P) :
    Block lib env wake state
      (userUdpTrail env pair wake
        (userBytesSends lib env pair wake (fanOutUdp lib env) fanOutUdpSends) state)
      (SupportProxy.userUdp lib env pair wake state) := by
  rw [SupportProxy.userUdp, userUdpTrail]
  cases state.sock1Udp with
  | none => exact .flow Flow.noConfusion (.refl _)
  | some fd =>
      cases read : wake.userDatagram with
      | none => exact .flow Flow.noConfusion (.refl _)
      | some datagram =>
          cases datagram with
          | none => exact .ends (fun _ => .userDatagramFailed read) (.refl _)
          | some datagram =>
              obtain ⟨peer, bytes⟩ := datagram
              dsimp only
              split_ifs with connected connects
              · exact of_user ((userBytes_sound fanOutUdp_fansOut bytes _).of_log rfl)
              · exact of_user ((userBytes_sound fanOutUdp_fansOut bytes _).of_grows
                  (openUser_grows wake (some fd) peer false _))
              · have failed : wake.userConnects = false := (Bool.not_eq_true _).mp connects
                exact .ends (fun _ => .userConnectFailed failed) (.refl _)

private theorem engineerDatagram (slot : Nat) (bytes : List UInt8) (state : LoopState P) :
    Block lib env wake state (engineerBytesSends lib env pair slot bytes state)
      (SupportProxy.engineerDatagram lib env pair slot bytes state) := by
  have parsed : Sound lib env (EngineerCause lib env) state
      (engineerBytesSends lib env pair slot bytes state)
      (engineerBytes lib env pair slot bytes state) := engineerBytes_sound slot bytes state
  rw [SupportProxy.engineerDatagram]
  generalize engineerBytes lib env pair slot bytes state = result at parsed
  rcases result with ⟨_ | _ | _, after⟩
  · exact .flow Flow.noConfusion parsed.grows
  · exact ⟨parsed.grows, fun _ => .inr (.inr parsed.cause)⟩
  · exact parsed.cause.elim

private theorem engineerPacket (peer : Peer) (bytes : List UInt8) (state : LoopState P) :
    Block lib env wake state
      (engineerPacketTrail env pair wake (engineerBytesSends lib env pair) peer bytes state)
      (SupportProxy.engineerPacket lib env pair wake peer bytes state) := by
  rw [SupportProxy.engineerPacket, engineerPacketTrail]
  cases udpSlot peer state with
  | some slot =>
      exact (engineerDatagram slot bytes
        (state.modifySlot slot fun conn => { conn with lastPkt := wake.now })).of_log rfl
  | none =>
      dsimp only
      split_ifs
      · exact overrun state
      · cases state.freeSlot with
        | none => exact .flow Flow.noConfusion (.refl _)
        | some slot =>
            exact (engineerDatagram slot bytes _).of_grows
              (openUdp_grows slot peer wake.now wake.wallClock state)

private theorem engineerUdp (state : LoopState P) :
    Block lib env wake state
      (engineerUdpTrail env pair wake (engineerBytesSends lib env pair) state)
      (SupportProxy.engineerUdp lib env pair wake state) := by
  rw [SupportProxy.engineerUdp, engineerUdpTrail]
  cases state.sock2Udp with
  | none => exact .flow Flow.noConfusion (.refl _)
  | some fd =>
      cases read : wake.engineerDatagram with
      | none => exact .flow Flow.noConfusion (.refl _)
      | some datagram =>
          cases datagram with
          | none => exact .ends (fun _ => .engineerDatagramFailed read) (.refl _)
          | some datagram => exact (engineerPacket datagram.1 datagram.2 _).of_log rfl

private theorem userTcpAccept (state : LoopState P) :
    Block lib env wake state [] (SupportProxy.userTcpAccept env pair wake state) := by
  rw [SupportProxy.userTcpAccept]
  split_ifs with ready
  · cases accept : wake.userAccept with
    | none => exact .ends (fun _ => .userAcceptFailed ready.2.2 accept) (.refl _)
    | some accepted =>
        exact .flow Flow.noConfusion (openUser_grows wake (some accepted.1) accepted.2 true
          { state with sock1Udp := none, sock1Tcp := some accepted.1 })
  · exact .flow Flow.noConfusion (.refl _)

private theorem userTcpData (state : LoopState P) :
    Block lib env wake state
      (userTcpTrail wake
        (userBytesSends lib env pair wake (fanOutTcp lib env) fanOutTcpSends) state)
      (SupportProxy.userTcpData lib env pair wake state) := by
  rw [SupportProxy.userTcpData, userTcpTrail]
  split_ifs with ready
  · dsimp only
    have detected : (openUserWebsocket wake { state with sock1Udp := none }).mav.log =
        state.mav.log := by
      rw [openUserWebsocket]
      split_ifs <;> rfl
    generalize openUserWebsocket wake { state with sock1Udp := none } = middle at detected
    have same : Grows lib env [] state.mav.log middle.mav.log := by
      rw [detected]
      exact .refl _
    cases received : wake.userReadable.received with
    | none => exact .ends (fun _ => .userEof ready.2 (.inl received)) same
    | some bytes =>
        dsimp only
        split_ifs with eof
        · exact .ends (fun _ => .userEof ready.2 (.inr (by rw [received, eof.2]))) same
        · exact of_user ((userBytes_sound fanOutTcp_fansOut bytes _).of_log detected)
  · exact .flow Flow.noConfusion (.refl _)

private theorem engineerTcpAccept (state : LoopState P) :
    Block lib env wake state [] (SupportProxy.engineerTcpAccept env pair wake state) := by
  rw [SupportProxy.engineerTcpAccept]
  cases state.sock2Listen with
  | none => exact .flow Flow.noConfusion (.refl _)
  | some fd =>
      cases wake.engineerAccept with
      | none => exact .flow Flow.noConfusion (.refl _)
      | some accept =>
          cases accept with
          | none => exact .flow Flow.noConfusion (.refl _)
          | some accept =>
              dsimp only
              split_ifs
              · exact .flow Flow.noConfusion (.harmless _ trivial)
              · cases state.freeSlot with
                | none => exact .flow Flow.noConfusion (.harmless _ trivial)
                | some slot =>
                    exact .flow Flow.noConfusion
                      (openTcp_grows slot accept.1 accept.2 wake.wallClock state)

/-- Leaving the parse loop of a TCP engineer early does not end the session. -/
theorem of_engineer {state : LoopState P} {sends : List (MessageSend P)}
    {result : Flow × LoopState P}
    (sound : Sound lib env (EngineerCause lib env) state sends result) :
    Block lib env wake state sends result := by
  refine sound.imp fun flow sends log cause stops => ?_
  rw [stops] at cause
  exact cause.elim

private theorem engineerTcpSlot (slot : Nat) (state : LoopState P) :
    Block lib env wake state (engineerTcpTrail wake (engineerBytesSends lib env pair) slot state)
      (SupportProxy.engineerTcpSlot lib env pair wake slot state) := by
  rw [SupportProxy.engineerTcpSlot, engineerTcpTrail]
  dsimp only
  split_ifs with skipped
  · exact .flow Flow.noConfusion (.refl _)
  cases wake.engineerReadable slot with
  | none => exact .flow Flow.noConfusion (.refl _)
  | some readable =>
      dsimp only
      have detected : Grows lib env [] state.mav.log
          (if (!(state.conn2 slot).tcpActive && readable.detected) = true then
            state.openWebsocket slot readable.object readable.isSSL else state).mav.log := by
        split_ifs
        · exact .harmless _ trivial
        · exact .refl _
      generalize (if (!(state.conn2 slot).tcpActive && readable.detected) = true then
        state.openWebsocket slot readable.object readable.isSSL else state) = middle at detected
      have closed : Grows lib env [] state.mav.log (middle.closeCounted .eof slot).mav.log :=
        detected.after (.note _ fun _ => trivial)
      cases readable.received with
      | none => exact .flow Flow.noConfusion closed
      | some bytes =>
          cases bytes with
          | nil =>
              dsimp only
              split_ifs
              · exact .flow Flow.noConfusion detected
              · exact .flow Flow.noConfusion closed
          | cons byte bytes =>
              exact ((of_engineer (engineerBytes_sound slot (byte :: bytes) _)).of_log
                rfl).of_grows detected

private theorem binlogTick (state : LoopState P) :
    Block lib env wake state [] (SupportProxy.binlogTick lib pair wake state) := by
  have told : ∀ (packets : List StatusPacket) (state : LoopState P),
      Grows lib env [] state.mav.log (packets.foldl (sendStatus lib) state).mav.log := by
    intro packets
    induction packets with
    | nil => exact fun state => .refl _
    | cons packet packets ih =>
        intro state
        have packed : Grows lib env [] state.mav.log (sendStatus lib state packet).mav.log :=
          .note _ fun _ => trivial
        exact packed.after (ih (sendStatus lib state packet))
  rw [SupportProxy.binlogTick]
  split_ifs
  · exact .flow Flow.noConfusion (told _ { state with binlog := (state.binlog.tick wake.tickIo).2 })
  · exact .flow Flow.noConfusion (.refl _)

private theorem heartbeatSnapshot (state : LoopState P) :
    Block lib env wake state [] (SupportProxy.heartbeatSnapshot pair wake state) := by
  rw [SupportProxy.heartbeatSnapshot]
  split_ifs
  · exact .flow Flow.noConfusion (.harmless _ trivial)
  · exact .flow Flow.noConfusion (.refl _)

/-- The blocks behind the first two. -/
theorem rest : ∀ block ∈ (sendingBlocks lib env pair wake).drop 2, ∀ state,
    Block lib env wake state (block.2 state) (block.1 state) := by
  rw [sendingBlocks, List.drop_succ_cons, List.drop_succ_cons, List.drop_zero]
  simp only [List.forall_mem_cons, List.not_mem_nil, false_implies, implies_true, and_true]
  exact ⟨watchSlots, selectSockets, sweepDeadUdp, userUdp, engineerUdp, userTcpAccept, userTcpData,
    engineerTcpAccept, eachSlot engineerTcpSlot, binlogTick, heartbeatSnapshot⟩

end Block

/-- What an iteration adds to the history, and why it ends the session. -/
theorem iterate_stop (pair : PortPair) (wake : Wakeup) (state : LoopState P) :
    Grows lib env (iterateSends lib env pair wake state) state.mav.log
        (iterate lib env pair wake state).2.mav.log ∧
      ((iterate lib env pair wake state).1 = .stop →
        wake.Ends state ∨ Overrun (iterate lib env pair wake state).2.mav.log ∨
          SendFailed lib env (iterateSends lib env pair wake state) chanComm1
            (iterate lib env pair wake state).2.mav.log) := by
  rw [iterate, blocks, runBlocks, iterateSends, sendingBlocks, blockTrail]
  obtain ⟨dropped, connected, heard⟩ : Grows lib env [] state.mav.log
      (processDrops wake state).2.mav.log ∧
      (processDrops wake state).2.haveConn1 = state.haveConn1 ∧
      (processDrops wake state).2.lastPkt1 = state.lastPkt1 := processDrops_same state
  have left : (processDrops wake state).1 = .stop → wake.Ends state := processDrops_stop
  generalize processDrops wake state = result at dropped connected heard left
  rcases result with ⟨_ | _ | _, cleared⟩
  · dsimp only at connected heard ⊢
    rw [runBlocks, blockTrail, checkUser]
    by_cases silent : cleared.haveConn1 = true ∧ cleared.lastPkt1 + silencePeriod < wake.top
    · rw [if_pos silent]
      rw [connected, heard] at silent
      exact ⟨dropped, fun _ => .inl (.silent silent.1 silent.2)⟩
    · rw [if_neg silent]
      have later : Block lib env wake cleared
          (blockTrail ((sendingBlocks lib env pair wake).drop 2) cleared)
          (runBlocks (((sendingBlocks lib env pair wake).drop 2).map Prod.fst) cleared) :=
        (Sound.rule stopCause_rule).runBlocks Block.rest cleared
      refine ⟨dropped.after later.grows, fun stops => ?_⟩
      exact (later.cause stops).imp (fun ended => ended state) id
  · exact ⟨dropped, fun stops => Flow.noConfusion stops⟩
  · exact ⟨dropped, fun _ => .inl (left rfl)⟩

end Iteration

/-- A peer was not alive at a call that left the history as it is. -/
def PeerLost (lib : Library P) (env : Environment) (blocked : Nat → Prop)
    (sends : List (MessageSend P)) (chan : Nat) (log : List Event) : Prop :=
  ∃ call ∈ sends, call.chan = chan ∧ (sendMessage lib env chan call.msg call.mav).2.log = log ∧
    ¬(call.mav.links chan).Alive env blocked call.mav.queries

section Runs

variable {lib : Library P} {env : Environment} {pair : PortPair} {blocked : Nat → Prop}

private theorem run_grows (wakes : List Wakeup) (state : LoopState P) :
    Grows lib env (runSends lib env pair wakes state) state.mav.log
      (run lib env pair wakes state).2.mav.log := by
  have causes : CauseRule (P := P) fun _ _ _ => True := ⟨fun _ _ => trivial, fun _ => trivial⟩
  have ran : Sound lib env (fun _ _ _ => True) state (runSends lib env pair wakes state)
      (run lib env pair (wakes.map id) state) :=
    (Sound.rule causes).run (Sound.falls causes)
      (fun wake state => ⟨(iterate_stop pair wake state).1, trivial⟩) wakes state
  rw [List.map_id] at ran
  exact ran.grows

/-- The wakeup at which a session ends. -/
theorem run_stop {wakes : List Wakeup} {state : LoopState P}
    (stops : (run lib env pair wakes state).1 = .stop) :
    ∃ earlier wake later, wakes = earlier ++ wake :: later ∧
      (wake.Ends (run lib env pair earlier state).2 ∨
        Overrun (run lib env pair wakes state).2.mav.log ∨
          SendFailed lib env (runSends lib env pair wakes state) chanComm1
            (run lib env pair wakes state).2.mav.log) := by
  induction wakes generalizing state with
  | nil => exact Flow.noConfusion stops
  | cons wake wakes ih =>
      obtain ⟨_, iterated⟩ : Grows lib env (iterateSends lib env pair wake state) state.mav.log
        (iterate lib env pair wake state).2.mav.log ∧ _ := iterate_stop pair wake state
      have goes : ∀ flow middle, flow ≠ .stop → iterate lib env pair wake state = (flow, middle) →
          ∀ others, run lib env pair (wake :: others) state = run lib env pair others middle ∧
            runSends lib env pair (wake :: others) state =
              iterateSends lib env pair wake state ++ runSends lib env pair others middle := by
        intro flow middle running result others
        rw [run, runSends, runTrail, id, result]
        cases flow with
        | next => exact ⟨rfl, rfl⟩
        | again => exact ⟨rfl, rfl⟩
        | stop => exact (running rfl).elim
      have continues : ∀ flow middle, flow ≠ .stop →
          iterate lib env pair wake state = (flow, middle) →
          ∃ earlier next later, wake :: wakes = earlier ++ next :: later ∧
            (next.Ends (run lib env pair earlier state).2 ∨
              Overrun (run lib env pair (wake :: wakes) state).2.mav.log ∨
                SendFailed lib env (runSends lib env pair (wake :: wakes) state) chanComm1
                  (run lib env pair (wake :: wakes) state).2.mav.log) := by
        intro flow middle running result
        obtain ⟨ran, sent⟩ := goes flow middle running result wakes
        rw [ran] at stops ⊢
        obtain ⟨earlier, next, later, rfl, cause⟩ := ih stops
        refine ⟨wake :: earlier, next, later, rfl, ?_⟩
        rw [(goes flow middle running result earlier).1, sent]
        exact cause.imp id (.imp id .of_more)
      cases result : iterate lib env pair wake state with
      | mk flow middle =>
          cases flow with
          | next => exact continues .next middle Flow.noConfusion result
          | again => exact continues .again middle Flow.noConfusion result
          | stop =>
              rw [result] at iterated
              have ended : run lib env pair (wake :: wakes) state = (.stop, middle) := by
                rw [run, result]
              have sent : runSends lib env pair (wake :: wakes) state =
                  iterateSends lib env pair wake state := by
                rw [runSends, runTrail, id, result]
                exact List.append_nil _
              refine ⟨[], wake, wakes, rfl, ?_⟩
              rw [ended, sent]
              exact iterated rfl

/-- Where no call hurts a peer that is alive, a failed call tells of a lost peer. -/
theorem SendFailed.lost (frames : lib.Frames) (waits : env.Waits blocked)
    {sends : List (MessageSend P)} {chan : Nat} {log : List Event}
    (spares : ∀ call ∈ sends,
      (call.mav.links call.chan).Alive env blocked call.mav.queries →
        (call.mav.links call.chan).Spares lib env blocked call.mav.queries call.msg)
    (failed : SendFailed lib env sends chan log) : PeerLost lib env blocked sends chan log := by
  obtain ⟨call, member, rfl, result, same⟩ := failed
  refine ⟨call, member, rfl, same, fun alive => ?_⟩
  have sent := (sendMessage_true_iff lib env frames waits call.msg alive).mpr
    (spares call member alive)
  rw [result] at sent
  exact Bool.false_ne_true sent

private theorem relayToUser_next_iff (slot : Nat) (msg : Message) (state : LoopState P) :
    (relayToUser lib env pair slot msg state).1 = .next ↔
      (sendMessage lib env chanComm1 msg (noteRelay pair slot msg state).mav).1 = true := by
  rw [relayToUser]
  rcases sendMessage lib env chanComm1 msg (noteRelay pair slot msg state).mav with ⟨_ | _, after⟩
  · exact ⟨fun absurd => Flow.noConfusion absurd, fun absurd => (Bool.false_ne_true absurd).elim⟩
  · exact ⟨fun _ => rfl, fun _ => rfl⟩

private theorem noteRelay_links (pair : PortPair) (slot : Nat) (msg : Message)
    (state : LoopState P) :
    (noteRelay pair slot msg state).mav.links = state.mav.links ∧
      (noteRelay pair slot msg state).mav.queries = state.mav.queries := by
  rw [noteRelay, writeTlog]
  split_ifs <;> exact ⟨rfl, rfl⟩

/-- Counting a message leaves its slot used or free. -/
private theorem countTx_used (slot : Nat) (state : LoopState P) :
    ((countTx slot state).conn2 slot).used = (state.conn2 slot).used := by
  have own : (countTx slot state).conn2 slot =
      { state.conn2 slot with txMsgs := inc32 (state.conn2 slot).txMsgs } :=
    Function.update_self ..
  rw [own]

/-- A slot survives a fan-out that sends when the send does not fail. -/
theorem sendOrClose_used (lib : Library P) (env : Environment) (slot : Nat) (msg : Message)
    {state : LoopState P} (used : (state.conn2 slot).used = true) :
    ((match sendToSlot lib env slot msg state with
        | (false, state) => (Flow.next, state.closeCounted .sendFailed slot)
        | (true, state) => (Flow.next, countTx slot state)).2.conn2 slot).used = true ↔
      (sendMessage lib env (chanComm2 slot) msg state.mav).1 = true := by
  rw [sendToSlot_eq]
  rcases sendMessage lib env (chanComm2 slot) msg state.mav with ⟨_ | _, after⟩
  · have freed : ∀ sent : LoopState P,
        ((sent.closeCounted .sendFailed slot).conn2 slot).used = false := by
      intro sent
      have own : (sent.closeCounted .sendFailed slot).conn2 slot = (sent.conn2 slot).close :=
        Function.update_self ..
      rw [own]
      rfl
    dsimp only
    rw [freed]
  · dsimp only
    rw [countTx_used]
    exact ⟨fun _ => rfl, fun _ => used⟩

/-- A fan-out that sends leaves the other slots alone. -/
theorem sendOrClose_other (slot other : Nat) (msg : Message) (state : LoopState P)
    (different : other ≠ slot) :
    (match sendToSlot lib env slot msg state with
      | (false, state) => (Flow.next, state.closeCounted .sendFailed slot)
      | (true, state) => (Flow.next, countTx slot state)).2.conn2 other = state.conn2 other := by
  rw [sendToSlot_eq]
  rcases sendMessage lib env (chanComm2 slot) msg state.mav with ⟨_ | _, after⟩
  · exact Function.update_of_ne different ..
  · exact Function.update_of_ne different ..

/-- The fan-out for one slot goes on to the next one and leaves the others alone. -/
structure OwnSlot (slot : Nat) (state : LoopState P) (result : Flow × LoopState P) : Prop where
  next : result.1 = .next
  others : ∀ other, other ≠ slot → result.2.conn2 other = state.conn2 other

private theorem sendOrClose_own (slot : Nat) (msg : Message) (state : LoopState P) :
    OwnSlot slot state
      (match sendToSlot lib env slot msg state with
        | (false, state) => (Flow.next, state.closeCounted .sendFailed slot)
        | (true, state) => (Flow.next, countTx slot state)) := by
  refine ⟨?_, fun other => sendOrClose_other slot other msg state⟩
  rcases sendToSlot lib env slot msg state with ⟨_ | _, after⟩ <;> rfl

private theorem fanOutTcp_own (slot : Nat) (msg : Message) (state : LoopState P) :
    OwnSlot slot state (fanOutTcp lib env msg slot state) := by
  rw [fanOutTcp]
  split_ifs
  · exact ⟨rfl, fun _ _ => rfl⟩
  · exact sendOrClose_own slot msg state

private theorem fanOutUdp_own (slot : Nat) (msg : Message) (state : LoopState P) :
    OwnSlot slot state (fanOutUdp lib env msg slot state) := by
  rw [fanOutUdp]
  split_ifs
  · exact ⟨rfl, fun _ _ => rfl⟩
  · exact sendOrClose_own slot msg state
  · exact ⟨rfl, fun other different => Function.update_of_ne different ..⟩
  · exact ⟨rfl, fun _ _ => rfl⟩

/-- When a slot whose engineer is alive is still used behind `fanOutTcp`. -/
private theorem fanOutTcp_used (frames : lib.Frames) (waits : env.Waits blocked) {slot : Nat}
    (msg : Message) {state : LoopState P} (used : (state.conn2 slot).used = true)
    (alive : (state.mav.links (chanComm2 slot)).Alive env blocked state.mav.queries) :
    ((fanOutTcp lib env msg slot state).2.conn2 slot).used = true ↔
      (state.mav.links (chanComm2 slot)).Spares lib env blocked state.mav.queries msg := by
  rw [fanOutTcp, used, Bool.not_true, if_neg Bool.false_ne_true]
  exact (sendOrClose_used lib env slot msg used).trans
    (sendMessage_true_iff lib env frames waits msg alive)

/-- When a slot whose engineer is alive is still used behind `fanOutUdp`. -/
private theorem fanOutUdp_used (frames : lib.Frames) (waits : env.Waits blocked) {slot : Nat}
    (msg : Message) {state : LoopState P} (used : (state.conn2 slot).used = true)
    (alive : (state.mav.links (chanComm2 slot)).Alive env blocked state.mav.queries) :
    ((fanOutUdp lib env msg slot state).2.conn2 slot).used = true ↔
      (state.conn2 slot).isUdp = true ∨ (state.conn2 slot).sock = none ∨
        (state.mav.links (chanComm2 slot)).Spares lib env blocked state.mav.queries msg := by
  rw [fanOutUdp, used, Bool.not_true, if_neg Bool.false_ne_true]
  cases udp : (state.conn2 slot).isUdp with
  | true =>
      have still := countTx_used slot (sendToSlot lib env slot msg state).2
      exact ⟨fun _ => .inl rfl, fun _ => still.trans used⟩
  | false =>
      cases sock : (state.conn2 slot).sock with
      | none => exact ⟨fun _ => .inr (.inl rfl), fun _ => used⟩
      | some fd =>
          have sent := sendMessage_true_iff lib env frames waits msg alive
          refine ((sendOrClose_used lib env slot msg used).trans sent).trans
            ⟨fun spares => .inr (.inr spares), ?_⟩
          rintro (absurd | absurd | spares)
          · exact (Bool.false_ne_true absurd).elim
          · exact (Option.some_ne_none fd absurd).elim
          · exact spares

/-- An engineer's message to the user keeps every slot. -/
theorem relayToUser_slots (slot other : Nat) (msg : Message) (state : LoopState P) :
    ((relayToUser lib env pair slot msg state).2.conn2 other).used = (state.conn2 other).used := by
  have noted : ((noteRelay pair slot msg state).conn2 other).used = (state.conn2 other).used := by
    have counted : ∀ after : LoopState P, (writeTlog pair msg after).conn2 = after.conn2 := by
      intro after
      rw [writeTlog]
      split_ifs <;> rfl
    rw [noteRelay, LoopState.note]
    dsimp only
    rw [counted]
    change (Function.update state.conn2 slot _ other).used = _
    by_cases own : other = slot
    · rw [own, Function.update_self]
    · rw [Function.update_of_ne own]
  rw [relayToUser]
  generalize noteRelay pair slot msg state = middle at noted
  rcases sendMessage lib env chanComm1 msg middle.mav with ⟨_ | _, after⟩ <;> exact noted

end Runs

namespace Scenario

/-- A user who need not sign, and an engineer with a TCP link that has proved itself. -/
def openPair : PortPair := { pair with bidi := false }

def heardEngineer : List Wakeup :=
  [userDatagram systemTimeFrame, engineerConnects 7,
    engineerReads 0 ⟨false, 0, false, some heartbeatFrame⟩]

/-- A frame with the id 50000, which the dialect does not have, and `crc_extra` 0. -/
def unknownFrame : List UInt8 := [253, 1, 0, 0, 5, 1, 1, 80, 195, 0, 7, 91, 143]

/-- Every TCP socket is dead. -/
def deadSockets : Environment := { environment with socketDead := fun _ => true }

end Scenario

/-- The calls of a session in which every TCP socket is dead. -/
def Scenario.deadSends (wakes : List Wakeup) : List (MessageSend (List UInt8)) :=
  runSends (Scenario.library Scenario.authentic) Scenario.deadSockets Scenario.openPair wakes
    (LoopState.initial (Scenario.library Scenario.authentic) Scenario.openPair (fun _ => none)
      (some Scenario.record) (some 1, some 2, some 3, some 4))

end SupportProxy
