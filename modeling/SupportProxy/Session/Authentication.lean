import SupportProxy.Session.SlotTable

/-! # The engineer authentication gate

What passes between an engineer and the user over a whole session: a message
that reaches the user was the newest frame of the connection in its slot, signed
and verified under the key that connection loaded; a user message other than a
heartbeat goes to a connection that has proved itself (`run_authentication`). -/

namespace SupportProxy

/-- What must have happened before a message crosses the gate. -/
def GateRule (before : List Event) : Event → Prop
  | .toUser slot msg =>
      (trust (chanComm2 slot) before).live = true ∧ (trust (chanComm2 slot) before).Delivered msg ∧
        msg.msgid ≠ Message.setupSigning
  | .sent chan _ msg =>
      ∀ slot, chan = chanComm2 slot → (trust chan before).live = true ∧
        (msg.msgid = Message.heartbeat ∨ (trust chan before).proven = true ∨
          (trust chan before).excused = true)
  | _ => True

/-- The links of the slots are inside of the channel buffers. -/
theorem chanComm2_lt {slot : Nat} (inside : slot < maxComm2Links) :
    chanComm2 slot < commNumBuffers := by
  unfold chanComm2 commNumBuffers
  omega

variable {P : Type}

namespace LoopState

/-- Every used slot has a live connection behind its gate, and everything that
crossed the gate was let through. -/
structure Guarded (state : LoopState P) : Prop where
  gate : ∀ slot < maxComm2Links, (state.conn2 slot).used = true →
    Gate state.mav (chanComm2 slot) ∧ (trust (chanComm2 slot) state.mav.log).live = true
  obeys : History.Obeys GateRule state.mav.log

private theorem Guarded.of_touches_obeys {state : LoopState P} {chan : Nat} {mav : MavState P}
    (obeys : History.Obeys GateRule state.mav.log) (touches : Touches chan state.mav mav) :
    History.Obeys GateRule mav.log := by
  obtain ⟨news, log, on⟩ := touches.log
  rw [log]
  clear log
  induction news with
  | nil => exact obeys
  | cons event news ih =>
      refine ⟨?_, ih fun other member => on other (List.mem_cons_of_mem _ member)⟩
      have here := on event List.mem_cons_self
      cases event <;> simp only [Event.onLink] at here <;> trivial

/-- An operation on one link, with what it does to that link's own gate. -/
theorem Guarded.of_touches {state next : LoopState P} {chan : Nat} (guarded : state.Guarded)
    (touches : Touches chan state.mav next.mav)
    (used : ∀ slot, (next.conn2 slot).used = true → (state.conn2 slot).used = true)
    (own : ∀ slot < maxComm2Links, chanComm2 slot = chan → (state.conn2 slot).used = true →
      Gate state.mav chan → Gate next.mav chan) : next.Guarded := by
  refine ⟨?_, of_touches_obeys guarded.obeys touches⟩
  intro slot inside taken
  obtain ⟨gate, live⟩ := guarded.gate slot inside (used slot taken)
  by_cases same : chanComm2 slot = chan
  · subst same
    exact ⟨own slot inside rfl (used slot taken) gate, touches.live live⟩
  · refine ⟨touches.gate same gate, ?_⟩
    rw [touches.trust_eq same]
    exact live

/-- An event that no connection is judged by. -/
theorem Guarded.of_event {state next : LoopState P} {event : Event} (guarded : state.Guarded)
    (links : next.mav.links = state.mav.links) (log : next.mav.log = event :: state.mav.log)
    (used : ∀ slot, (next.conn2 slot).used = true → (state.conn2 slot).used = true ∧
      ∀ trust : Trust, trust.apply (chanComm2 slot) event = trust)
    (rule : GateRule state.mav.log event) : next.Guarded := by
  refine ⟨?_, by rw [log]; exact ⟨rule, guarded.obeys⟩⟩
  intro slot inside taken
  obtain ⟨before, silent⟩ := used slot taken
  obtain ⟨gate, live⟩ := guarded.gate slot inside before
  have said : trust (chanComm2 slot) next.mav.log = trust (chanComm2 slot) state.mav.log := by
    rw [log, trust_cons]
    exact silent _
  rw [said]
  refine ⟨⟨?_, ?_, ?_⟩, live⟩
  · rw [links]
    exact gate.keyId
  · rw [links, said]
    exact gate.keyed
  · rw [links, said]
    exact gate.trusted

/-- A new connection, between the event that takes its slot and its `init`. -/
theorem Guarded.opened {env : Environment} {pair : PortPair} {state : LoopState P}
    (guarded : state.Guarded) (port2 : pair.port2 ≠ -1) (slot : Nat) (udp : Bool)
    {take : Connection2 → Connection2} (fd : Option Nat) (allowWebsocket isTcp : Bool)
    (inside : slot < maxComm2Links)
    (nonzero : NonzeroKeys (((state.modifySlot slot take).countOpened slot udp).startLink env pair
      slot fd allowWebsocket isTcp).mav.log) :
    (((state.modifySlot slot take).countOpened slot udp).startLink env pair slot fd allowWebsocket
      isTcp).Guarded := by
  have counted : ∀ other, other ≠ slot →
      ((((state.modifySlot slot take).countOpened slot udp).conn2 other).used = true →
        (state.conn2 other).used = true) := by
    intro other different taken
    simpa only [countOpened, note, modifySlot, Function.update_of_ne different] using taken
  have obeys : History.Obeys GateRule
      ((state.modifySlot slot take).countOpened slot udp).mav.log := ⟨trivial, guarded.obeys⟩
  have gates : ∀ other < maxComm2Links, other ≠ slot → (state.conn2 other).used = true →
      Gate ((state.modifySlot slot take).countOpened slot udp).mav (chanComm2 other) ∧
        (trust (chanComm2 other)
          ((state.modifySlot slot take).countOpened slot udp).mav.log).live = true := by
    intro other within _ taken
    obtain ⟨gate, live⟩ := guarded.gate other within taken
    exact ⟨⟨gate.keyId, gate.keyed, gate.trusted⟩, live⟩
  generalize (state.modifySlot slot take).countOpened slot udp = middle
    at nonzero counted obeys gates ⊢
  have touches : Touches (chanComm2 slot) middle.mav
      (middle.startLink env pair slot fd allowWebsocket isTcp).mav :=
    startLink_touches env pair slot fd allowWebsocket isTcp middle
  refine ⟨?_, of_touches_obeys obeys touches⟩
  intro other within taken
  rw [startLink, askSnapshot_conn2, withMav_conn2] at taken
  by_cases same : other = slot
  · subst same
    rw [startLink, askSnapshot_mav, withMav_mav] at nonzero ⊢
    have small : chanComm2 other < 256 :=
      Nat.lt_of_lt_of_le (chanComm2_lt inside) (by decide)
    exact ⟨init_gate env _ small port2 nonzero, trust_init env _⟩
  · obtain ⟨gate, live⟩ := gates other within same (counted other same taken)
    have apart := chanComm2_ne same
    refine ⟨touches.gate apart gate, ?_⟩
    rw [touches.trust_eq apart]
    exact live

private theorem Guarded.closed {state next : LoopState P} {slot : Nat} {reason : CloseReason}
    (guarded : state.Guarded) (links : next.mav.links = state.mav.links)
    (log : next.mav.log = .closed slot reason :: state.mav.log)
    (conn2 : next.conn2 = Function.update state.conn2 slot (state.conn2 slot).close) :
    next.Guarded := by
  refine guarded.of_event links log (fun other taken => ?_) trivial
  rw [conn2] at taken
  by_cases same : other = slot
  · rw [same, Function.update_self] at taken
    exact Bool.noConfusion taken
  · rw [Function.update_of_ne same] at taken
    refine ⟨taken, fun trust => ?_⟩
    simp only [Trust.apply, chanComm2_ne (Ne.symm same), ↓reduceIte]

/-- A change of a connection that is there takes no slot. -/
theorem used_of_modifySlot {state : LoopState P} {slot index : Nat}
    {change : Connection2 → Connection2} (used : (state.conn2 slot).used = true)
    (taken : ((state.modifySlot slot change).conn2 index).used = true) :
    (state.conn2 index).used = true := by
  by_cases here : index = slot
  · rw [here]
    exact used
  · simpa only [modifySlot, Function.update_of_ne here] using taken

/-- A message that goes to the user is logged and counted. -/
theorem Guarded.noteRelay {pair : PortPair} {state : LoopState P} {slot : Nat} {msg : Message}
    (guarded : state.Guarded) (used : (state.conn2 slot).used = true)
    (rule : GateRule state.mav.log (.toUser slot msg)) :
    (SupportProxy.noteRelay pair slot msg state).Guarded := by
  have counted : (state.modifySlot slot fun conn =>
      { conn with rxMsgs := inc32 conn.rxMsgs }).Guarded :=
    ⟨fun index within taken => guarded.gate index within (used_of_modifySlot used taken),
      guarded.obeys⟩
  rw [SupportProxy.noteRelay, writeTlog]
  split
  · have logged : ((state.modifySlot slot fun conn =>
        { conn with rxMsgs := inc32 conn.rxMsgs }).note (.tlog msg)).Guarded :=
      counted.of_event rfl rfl (fun _ taken => ⟨taken, fun _ => rfl⟩) trivial
    exact logged.of_event rfl rfl (fun _ taken => ⟨taken, fun _ => rfl⟩) rule
  · exact counted.of_event rfl rfl (fun _ taken => ⟨taken, fun _ => rfl⟩) rule

private theorem Guarded.step {lib : Library P} {env : Environment} {pair : PortPair}
    {state next : LoopState P} (callsBack : lib.CallsBack) (port2 : pair.port2 ≠ -1)
    (guarded : state.Guarded) (action : Action lib env pair state next)
    (nonzero : NonzeroKeys next.mav.log) : next.Guarded := by
  cases action with
  | quiet unmoved =>
      refine ⟨fun slot inside taken => ?_, by rw [unmoved.log]; exact guarded.obeys⟩
      rw [unmoved.used] at taken
      obtain ⟨gate, live⟩ := guarded.gate slot inside taken
      rw [unmoved.log]
      refine ⟨⟨?_, ?_, ?_⟩, live⟩
      · rw [unmoved.links]
        exact gate.keyId
      · rw [unmoved.links, unmoved.log]
        exact gate.keyed
      · rw [unmoved.links, unmoved.log]
        exact gate.trusted
  | plain plain =>
      rename_i event
      refine guarded.of_event rfl rfl (fun slot taken => ⟨taken, fun trust => ?_⟩) ?_
      · cases event <;> simp only [Event.plain] at plain <;> rfl
      · cases event <;> simp only [Event.plain] at plain <;> trivial
  | user touches =>
      refine guarded.of_touches touches (fun _ taken => taken) fun slot _ same => ?_
      exact (chanComm2_ne_comm1 slot same).elim
  | userWebsocket object =>
      refine ⟨fun slot inside taken => ?_, guarded.obeys⟩
      obtain ⟨gate, live⟩ := guarded.gate slot inside taken
      have calm : Calm (chanComm2 slot) state.mav (setWs chanComm1 object state.mav) :=
        .modifyAny fun _ => ⟨rfl, rfl⟩
      exact ⟨calm.preserves gate, live⟩
  | calm inside touches calm =>
      exact guarded.of_touches touches (fun _ taken => taken) fun _ _ _ _ gate =>
        calm.preserves gate
  | receive bytes inside =>
      refine guarded.of_touches (receiveMessage_touches lib env _ bytes state.mav)
        (fun _ taken => taken) fun _ _ _ _ gate => ?_
      exact (receiveMessage_gate lib env _ callsBack (chanComm2_lt inside) nonzero gate).1
  | relay inside used received =>
      rename_i mav slot bytes rest msg
      have touches := receiveMessage_touches lib env (chanComm2 slot) bytes state.mav
      have earlier : NonzeroKeys mav.log :=
        nonzero.of_suffix (noteRelay_suffix slot msg { state with mav := mav })
      have passes : NonzeroKeys (receiveMessage lib env (chanComm2 slot) bytes state.mav).2.2.log →
          Gate state.mav (chanComm2 slot) → _ :=
        receiveMessage_gate lib env (chanComm2 slot) callsBack (chanComm2_lt inside)
      rw [received] at touches passes
      have read : Guarded { state with mav := mav } :=
        guarded.of_touches touches (fun _ taken => taken)
          fun _ _ _ _ gate => (passes earlier gate).1
      obtain ⟨gate, live⟩ := guarded.gate slot inside used
      obtain ⟨delivered, other⟩ := (passes earlier gate).2 msg rfl
      exact read.noteRelay used ⟨touches.live live, delivered, other⟩
  | sentUser =>
      refine guarded.of_event rfl rfl (fun _ taken => ⟨taken, fun _ => rfl⟩) ?_
      intro slot same
      exact (chanComm2_ne_comm1 slot same.symm).elim
  | sent inside used touches calm log object passes =>
      rename_i mav slot transport msg
      have quiet : Guarded { state with mav := mav } :=
        guarded.of_touches touches (fun _ taken => taken) fun _ _ _ _ gate => calm.preserves gate
      refine quiet.of_event rfl rfl (fun _ taken => ⟨taken, fun _ => rfl⟩) ?_
      obtain ⟨gate, live⟩ := guarded.gate slot inside used
      intro _ _
      dsimp only
      rw [log]
      refine ⟨live, ?_⟩
      rcases passes with open' | trusted | heartbeat
      · exact (gate.keyId open').elim
      · exact .inr (gate.trusted trusted)
      · exact .inl heartbeat
  | openUdp free room =>
      rename_i slot peer now wallClock
      have inside := (freeSlot_free free).1
      have directed :=
        directLink_touches slot peer (LoopState.startLink env pair slot state.sock2Udp
        false false (LoopState.countOpened slot true
          (state.modifySlot slot (Connection2.takeUdp peer now wallClock))))
      have started : Guarded (LoopState.startLink env pair slot state.sock2Udp false false
          (LoopState.countOpened slot true
            (state.modifySlot slot (Connection2.takeUdp peer now wallClock)))) :=
        guarded.opened port2 slot true state.sock2Udp false false inside
          (nonzero.of_suffix directed.suffix)
      refine started.of_touches directed (fun _ taken => taken) fun _ _ _ _ gate => ?_
      have calm : ∀ middle : LoopState P,
          Calm (chanComm2 slot) middle.mav (middle.directLink slot peer).mav := by
        intro middle
        have pointed :
            Calm (chanComm2 slot) middle.mav (setSendto (chanComm2 slot) peer middle.mav) :=
          .modifyAny fun _ => ⟨rfl, rfl⟩
        exact pointed
      exact (calm _).preserves gate
  | openTcp free room =>
      rename_i slot fd peer wallClock
      exact guarded.opened port2 slot false (some fd) true true (freeSlot_free free).1 nonzero
  | websocket inside used =>
      rename_i slot object isSSL
      have linked : Guarded ((state.modifySlot slot fun conn =>
          { conn with ws := some object, wsIsSSL := isSSL }).withMav
            (setWs (chanComm2 slot) object state.mav)) := by
        refine ⟨fun other within taken => ?_, guarded.obeys⟩
        rw [withMav_conn2] at taken
        obtain ⟨gate, live⟩ := guarded.gate other within (used_of_modifySlot used taken)
        have calm : Calm (chanComm2 other) state.mav (setWs (chanComm2 slot) object state.mav) :=
          .modifyAny fun _ => ⟨rfl, rfl⟩
        exact ⟨calm.preserves gate, live⟩
      exact linked.of_event rfl rfl (fun _ taken => ⟨taken, fun _ => rfl⟩) trivial
  | closeCounted inside used counted => exact guarded.closed rfl rfl rfl
  | closeDropped inside used => exact guarded.closed rfl rfl rfl
  | closeDead inside used => exact guarded.closed rfl rfl rfl

private theorem Guarded.acts {lib : Library P} {env : Environment} {pair : PortPair}
    {state next : LoopState P} (callsBack : lib.CallsBack) (port2 : pair.port2 ≠ -1)
    (guarded : state.Guarded) (acts : Acts lib env pair state next)
    (nonzero : NonzeroKeys next.mav.log) : next.Guarded := by
  induction acts with
  | refl => exact guarded
  | tail _ action ih =>
      exact (ih (nonzero.of_suffix action.suffix)).step callsBack port2 action nonzero

end LoopState

section Sessions

variable {lib : Library P} {env : Environment} {pair : PortPair} {memory : Nat → Option Nat}
  {record : Option KeyEntry} {sockets : Option Nat × Option Nat × Option Nat × Option Nat}

/-- In every session of a pair other than -1 whose keys are never all-zero, what
crosses the gate was let through. -/
theorem run_authentication (callsBack : lib.CallsBack) (port2 : pair.port2 ≠ -1)
    (wakes : List Wakeup)
    (nonzero : NonzeroKeys
      (run lib env pair wakes (LoopState.initial lib pair memory record sockets)).2.mav.log) :
    History.Obeys GateRule
      (run lib env pair wakes (LoopState.initial lib pair memory record sockets)).2.mav.log := by
  have started : (LoopState.initial lib pair memory record sockets).Guarded :=
    ⟨fun _ _ used => Bool.noConfusion used, trivial⟩
  exact (started.acts callsBack port2 (run_acts wakes _) nonzero).obeys

end Sessions

/-- A signed heartbeat of an engineer reaches the user. -/
theorem run_authentication_heartbeat :
    Event.toUser 0 (Framing.decode Scenario.heartbeatFrame) ∈
        (Scenario.session Scenario.authentic (some Scenario.record) [Scenario.userDatagram [],
          Scenario.engineerDatagram ⟨1, 1⟩ Scenario.heartbeatFrame]).mav.log ∧
      History.Obeys GateRule
        (Scenario.session Scenario.authentic (some Scenario.record) [Scenario.userDatagram [],
          Scenario.engineerDatagram ⟨1, 1⟩ Scenario.heartbeatFrame]).mav.log := by
  refine ⟨by decide +kernel, run_authentication Framing.callsBack (by decide) _ ?_⟩
  unfold NonzeroKeys
  decide +kernel

/-- Two ways past the gate. A verified SETUP_SIGNING whose transaction does not
open leaves its link trusted: a SYSTEM_TIME of the user goes to an engineer that
has delivered nothing else. On the port pair -1 an unsigned frame reaches the
user. -/
theorem gate_passed_without_proof :
    (let log := (Scenario.sessionIn { Scenario.environment with dbOpens := fun _ => false }
        { Scenario.pair with bidi := false } Scenario.authentic (some Scenario.record)
        [Scenario.userDatagram [], Scenario.engineerDatagram ⟨1, 1⟩ Scenario.setupFrame,
          Scenario.userDatagram Scenario.systemTimeFrame]).mav.log;
      NonzeroKeys log ∧ (trust (chanComm2 0) log).proven = false ∧
        Event.sent (chanComm2 0) (.sendto ⟨1, 1⟩) (Framing.decode Scenario.systemTimeFrame) ∈ log ∧
        (Framing.decode Scenario.systemTimeFrame).msgid ≠ Message.heartbeat) ∧
    (let log := (Scenario.sessionIn Scenario.environment
        { Scenario.pair with port2 := -1, bidi := false } Scenario.authentic (some Scenario.record)
        [Scenario.userDatagram [],
          Scenario.engineerDatagram ⟨1, 1⟩ Scenario.systemTimeFrame]).mav.log;
      NonzeroKeys log ∧
        Event.toUser 0 (Framing.decode Scenario.systemTimeFrame) ∈ log ∧
        (Framing.decode Scenario.systemTimeFrame).signed = false) := by
  unfold NonzeroKeys
  decide +kernel

end SupportProxy
