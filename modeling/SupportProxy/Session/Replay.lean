import SupportProxy.Session.Quiet
import SupportProxy.Session.Scenario
import SupportProxy.Session.Authentication

/-! # Replayed frames

A stream table lasts as long as its connection, so a connection accepts a frame once.
Another connection has a table of its own, and the copy is new to it. `run_replay` says
which copies must be turned away for a frame to be accepted once in the session. -/

namespace SupportProxy

/-- The messages accepted from engineers. -/
def acceptedMessages : List Event → List Message :=
  History.replay
    (fun event heard => match event with
      | .accepted chan msg => if chan = chanComm1 then heard else msg :: heard
      | _ => heard) []

/-- The messages accepted on the connection that holds a channel now. -/
def acceptedOn (chan : Nat) : List Event → List Message :=
  History.replay
    (fun event heard => match event with
      | .init other => if other = chan then [] else heard
      | .accepted other msg => if other = chan then msg :: heard else heard
      | _ => heard) []

/-- A message is accepted from an engineer once. -/
def AcceptedOnce (before : List Event) : Event → Prop
  | .accepted chan msg => chan ≠ chanComm1 → msg ∉ acceptedMessages before
  | _ => True

/-- A copy of a message that another connection delivered fails the signature check: its
stream is known to the link at that time or a later one, or the message is too old, the
table full, or the key another. -/
def CopiesRejected (before : List Event) : Event → Prop
  | .frame chan _ verified msg =>
      chan ≠ chanComm1 → msg ∈ acceptedMessages before →
        msg ∈ acceptedOn chan before ∨ verified = false
  | _ => True

instance (before : List Event) : (event : Event) → Decidable (CopiesRejected before event)
  | .frame chan _ verified msg =>
      inferInstanceAs (Decidable (chan ≠ chanComm1 → msg ∈ acceptedMessages before →
        msg ∈ acceptedOn chan before ∨ verified = false))
  | .init _ | .keyLoaded _ _ | .setupFailed _ | .accepted _ _ | .warned _ _ _ | .sent _ _ _
  | .sentStatus _ _ _ _ | .toUser _ _ | .opened _ _ | .closed _ _ | .websocket _ _ | .refused
  | .overrun | .bugExit | .tlog _ | .snapshot _ => isTrue trivial

variable {P : Type}

/-- The table of a link knows what its connection delivered. -/
def Remembered (chan : Nat) (mav : MavState P) : Prop :=
  ∀ msg ∈ acceptedOn chan mav.log, (mav.links chan).track.Remembers msg

private theorem Touches.acceptedOn {chan other : Nat} {mav next : MavState P}
    (touches : Touches chan mav next) (apart : other ≠ chan) :
    acceptedOn other next.log = acceptedOn other mav.log := by
  obtain ⟨news, log, on⟩ := touches.log
  rw [log]
  clear log
  induction news with
  | nil => rfl
  | cons event news ih =>
      have kept := ih fun event member => on event (List.mem_cons_of_mem _ member)
      have here := on event List.mem_cons_self
      rw [List.cons_append, SupportProxy.acceptedOn, History.replay_cons]
      rw [SupportProxy.acceptedOn] at kept
      cases event with
      | init own =>
          have elsewhere : own ≠ other := by
            rw [here]
            exact apart.symm
          dsimp only
          rw [if_neg elsewhere]
          exact kept
      | accepted own msg =>
          have elsewhere : own ≠ other := by
            rw [here]
            exact apart.symm
          dsimp only
          rw [if_neg elsewhere]
          exact kept
      | _ => exact kept

/-- An event that neither starts a connection nor accepts a message. -/
def Event.mute : Event → Prop
  | .init _ => False
  | .accepted _ _ => False
  | .frame _ _ _ _ => False
  | _ => True

namespace Event.mute

variable {event : Event} {before : List Event}

private theorem acceptedOn (mute : event.mute) (chan : Nat) :
    SupportProxy.acceptedOn chan (event :: before) = SupportProxy.acceptedOn chan before := by
  cases event <;> first | rfl | exact mute.elim

private theorem acceptedOnce (mute : event.mute) : AcceptedOnce before event := by
  cases event <;> trivial

end Event.mute

private theorem Event.outward.mute {event : Event} (outward : event.outward) : event.mute := by
  cases event <;> trivial

section Operations

variable {lib : Library P} {env : Environment} {chan : Nat}

/-- The checks of a frame that is returned say nothing. -/
theorem checkFrame_silent {msg : Message} {mav done : MavState P} (gate : Gate mav chan)
    (accepts : checkFrame lib env chan msg mav = (true, done)) :
    done.log = mav.log ∧ Passes chan msg mav := by
  have recorded := checkFrame_log lib env chan msg mav gate.keyId
  rw [accepts] at recorded
  rcases recorded with ⟨_, impossible⟩ | ⟨passes, same | ⟨impossible, _⟩⟩
  · cases impossible
  · exact ⟨same, passes⟩
  · cases impossible

/-- The checks of a frame that is not returned say nothing of connections. -/
theorem checkFrame_mute {msg : Message} {mav done : MavState P} (gate : Gate mav chan)
    (rejects : checkFrame lib env chan msg mav = (false, done)) :
    done.log = mav.log ∨ ∃ event, event.mute ∧ done.log = event :: mav.log := by
  have recorded := checkFrame_log lib env chan msg mav gate.keyId
  rw [rejects] at recorded
  rcases recorded with ⟨same | ⟨event, warning, added⟩, _⟩ |
    ⟨_, same | ⟨_, failed | ⟨key, loaded⟩⟩⟩
  · exact .inl same
  · refine .inr ⟨event, ?_, added⟩
    cases event <;> trivial
  · exact .inl same
  · exact .inr ⟨.setupFailed chan, trivial, failed⟩
  · exact .inr ⟨.keyLoaded chan key, trivial, loaded⟩

/-- A connection that remembers what it delivered does not deliver it again. -/
theorem receiveBytes_once (tracks : lib.TracksStreams) (callsBack : lib.CallsBack)
    (inside : chan < commNumBuffers) (engineer : chan ≠ chanComm1) {bytes : List UInt8}
    {mav : MavState P} (gate : Gate mav chan) (remembered : Remembered chan mav)
    (copies : History.Obeys CopiesRejected (receiveBytes lib env chan bytes mav).2.2.log)
    (once : History.Obeys AcceptedOnce mav.log) :
    Remembered chan (receiveBytes lib env chan bytes mav).2.2 ∧
      History.Obeys AcceptedOnce (receiveBytes lib env chan bytes mav).2.2.log := by
  induction bytes generalizing mav with
  | nil => exact ⟨remembered, once⟩
  | cons byte rest ih =>
      have kept : ∀ msg, (mav.links chan).track.Remembers msg →
          ((parseByte lib chan byte mav).2.links chan).track.Remembers msg :=
        fun _ known => parseByte_keeps chan tracks byte mav known
      rw [receiveBytes] at copies ⊢
      cases parsed : parseByte lib chan byte mav with
      | mk found after =>
      rw [parsed] at kept copies
      cases found with
      | none =>
          have calm := parseByte_calm lib chan parsed
          have log : after.log = mav.log := by
            have record := parseByte_log lib chan byte mav
            rw [parsed] at record
            rcases record with ⟨same, _⟩ | ⟨_, _, impossible, _⟩
            · exact same
            · cases impossible
          refine ih (calm.preserves gate) ?_ copies ?_
          · intro msg delivered
            rw [log] at delivered
            exact kept msg (remembered msg delivered)
          · rw [log]
            exact once
      | some msg =>
          obtain ⟨gated, judged⟩ := parseByte_judged lib chan callsBack inside gate parsed
          obtain ⟨verified, log, verdict⟩ := parseByte_verdict chan tracks parsed
          have tables := checkFrame_streams env chan tracks msg after
          have heard : Remembered chan after := by
            intro other delivered
            rw [log] at delivered
            exact kept other (remembered other delivered)
          have onceMore : History.Obeys AcceptedOnce after.log := by
            rw [log]
            exact ⟨trivial, once⟩
          dsimp only at copies ⊢
          cases checked : checkFrame lib env chan msg after with
          | mk accepted done =>
          rw [checked] at copies tables
          cases accepted with
          | false =>
              dsimp only at copies ⊢
              rcases checkFrame_mute gated checked with same | ⟨event, mute, added⟩
              · refine ⟨fun other delivered => ?_, ?_⟩
                · rw [same] at delivered
                  exact tables.remembers (heard other delivered)
                · rw [same]
                  exact onceMore
              · refine ⟨fun other delivered => ?_, ?_⟩
                · rw [added, mute.acceptedOn] at delivered
                  exact tables.remembers (heard other delivered)
                · rw [added]
                  exact ⟨mute.acceptedOnce, onceMore⟩
          | true =>
              obtain ⟨same, loaded, signed, good⟩ := checkFrame_silent gated checked
              dsimp only at copies ⊢
              have latest := (judged loaded signed good).1
              have passed : verified = true := by
                rw [log, trust_cons, Trust.apply, if_pos rfl] at latest
                exact (Prod.mk.inj (Prod.mk.inj (Option.some.inj latest)).2).1
              obtain ⟨unknown, known⟩ := verdict passed
              -- the frame is new to its own connection, so to the session
              have rule : CopiesRejected mav.log
                  (.frame chan (mav.links chan).signing.secretKey verified msg) := by
                have earlier := copies.2
                rw [same, log] at earlier
                exact earlier.1
              have fresh : msg ∉ acceptedMessages mav.log := by
                intro delivered
                rcases rule engineer delivered with here | rejected
                · exact unknown (remembered msg here)
                · rw [passed] at rejected
                  cases rejected
              refine ⟨fun other delivered => ?_, ?_, ?_⟩
              · have either : other = msg ∨ other ∈ acceptedOn chan done.log := by
                  have member : other ∈ acceptedOn chan (.accepted chan msg :: done.log) :=
                    delivered
                  rw [acceptedOn, History.replay_cons] at member
                  dsimp only at member
                  rw [if_pos rfl] at member
                  exact List.mem_cons.mp member
                rcases either with rfl | before
                · exact tables.remembers (known signed)
                · rw [same] at before
                  exact tables.remembers (heard other before)
              · intro _
                rw [same, log]
                exact fresh
              · rw [same]
                exact onceMore

private theorem receiveBytes_others (tracks : lib.TracksStreams) (bytes : List UInt8)
    (mav : MavState P) {other : Nat} (apart : other ≠ chan) :
    ((receiveBytes lib env chan bytes mav).2.2.links other).track.streams =
      (mav.links other).track.streams := by
  induction bytes generalizing mav with
  | nil => rfl
  | cons byte rest ih =>
      have parsed : ((parseByte lib chan byte mav).2.links other).track.streams =
          (mav.links other).track.streams := parseByte_others chan byte mav apart
      rw [receiveBytes]
      generalize parseByte lib chan byte mav = result at parsed
      obtain ⟨_ | msg, after⟩ := result
      · exact (ih after).trans parsed
      · have checked := (checkFrame_streams env chan tracks msg after other).trans parsed
        dsimp only
        generalize checkFrame lib env chan msg after = answer at checked
        obtain ⟨_ | _, done⟩ := answer
        · exact checked
        · exact checked

/-- A new connection has delivered nothing. -/
theorem init_acceptedOn (fd : Option Nat) (signingRequired allowWebsocket isTcp : Bool)
    (keyId : Int) (mav : MavState P) :
    acceptedOn chan (init env chan fd signingRequired allowWebsocket isTcp keyId mav).log = [] := by
  rcases init_log env chan fd signingRequired allowWebsocket isTcp keyId mav with
    log | ⟨_, key, log⟩
  · rw [log]
    exact if_pos rfl
  · rw [log]
    exact if_pos rfl

private theorem init_once (fd : Option Nat) (signingRequired allowWebsocket isTcp : Bool)
    (keyId : Int) {mav : MavState P} (once : History.Obeys AcceptedOnce mav.log) :
    History.Obeys AcceptedOnce
      (init env chan fd signingRequired allowWebsocket isTcp keyId mav).log := by
  rcases init_log env chan fd signingRequired allowWebsocket isTcp keyId mav with
    log | ⟨_, key, log⟩
  · rw [log]
    exact ⟨trivial, once⟩
  · rw [log]
    exact ⟨trivial, trivial, once⟩

/-- Operations on the user's link accept nothing from engineers. -/
theorem Touches.acceptedOnce {mav next : MavState P} (touches : Touches chanComm1 mav next)
    (once : History.Obeys AcceptedOnce mav.log) : History.Obeys AcceptedOnce next.log := by
  obtain ⟨news, log, on⟩ := touches.log
  rw [log]
  clear log
  induction news with
  | nil => exact once
  | cons event news ih =>
      refine ⟨?_, ih fun event member => on event (List.mem_cons_of_mem _ member)⟩
      have here := on event List.mem_cons_self
      cases event with
      | accepted own msg => exact fun engineer => (engineer here).elim
      | _ => trivial

end Operations

/-- What holds at every moment of a session in which copies are turned away. -/
structure Remembering (layer : LinkLayer P) : Prop where
  engineer : ∀ slot < maxComm2Links, layer.connected (chanComm2 slot) = true →
    Gate layer.mav (chanComm2 slot) ∧ Remembered (chanComm2 slot) layer.mav
  once : History.Obeys AcceptedOnce layer.mav.log

namespace Remembering

variable {lib : Library P} {env : Environment} {pair : PortPair} {layer next : LinkLayer P}

private theorem of_quiet (tracks : lib.TracksStreams) (remembering : Remembering layer)
    (quiet : layer.Quiet lib next) : Remembering next := by
  refine ⟨?_, quiet.obeys ?_ remembering.once⟩
  · intro slot inside held
    obtain ⟨gate, remembered⟩ := remembering.engineer slot inside (quiet.connected _ held)
    refine ⟨(quiet.calm _ (.inr held)).preserves gate, fun msg delivered => ?_⟩
    refine (quiet.streams tracks).remembers (remembered msg ?_)
    rcases quiet.log with same | ⟨event, outward, added⟩
    · rwa [same] at delivered
    · rwa [added, Event.mute.acceptedOn outward.mute] at delivered
  · exact fun log event outward => outward.mute.acceptedOnce

/-- An operation on one link, which says what becomes of its own gate and table. -/
theorem of_touches {chan : Nat} (remembering : Remembering layer)
    (touches : Touches chan layer.mav next.mav)
    (streams : ∀ other ≠ chan, (next.mav.links other).track.streams =
      (layer.mav.links other).track.streams)
    (connected : ∀ other, other ≠ chan → next.connected other = true →
      layer.connected other = true)
    (own : ∀ slot < maxComm2Links, chanComm2 slot = chan → next.connected chan = true →
      Gate next.mav chan ∧ Remembered chan next.mav)
    (once : History.Obeys AcceptedOnce next.mav.log) : Remembering next := by
  refine ⟨?_, once⟩
  intro slot inside held
  by_cases same : chanComm2 slot = chan
  · rw [same] at held ⊢
    exact own slot inside same held
  · obtain ⟨gate, remembered⟩ := remembering.engineer slot inside (connected _ same held)
    refine ⟨touches.gate same gate, fun msg delivered => ?_⟩
    rw [touches.acceptedOn same] at delivered
    rw [SigningTrack.Remembers, streams _ same]
    exact remembered msg delivered

private theorem connectUser (remembering : Remembering layer) (fd : Option Nat) (isTcp : Bool) :
    Remembering
      { mav := init env chanComm1 fd pair.bidi false isTcp (conn1KeyId pair) layer.mav
        connected := Function.update layer.connected chanComm1 true } := by
  refine remembering.of_touches
    (init_touches env chanComm1 fd pair.bidi false isTcp (conn1KeyId pair) layer.mav)
    (fun other apart => init_streams env chanComm1 fd _ _ _ _ layer.mav apart) ?_ ?_
    (init_once fd _ _ _ _ remembering.once)
  · intro other apart held
    dsimp only at held
    rwa [Function.update_of_ne apart] at held
  · intro slot _ same
    exact (chanComm2_ne_comm1 slot same).elim

private theorem connectEngineer (remembering : Remembering layer) (tracks : lib.TracksStreams)
    (port2 : pair.port2 ≠ -1) {slot : Nat} (inside : slot < maxComm2Links) (udp : Bool)
    (fd : Option Nat) (allowWebsocket isTcp : Bool)
    (nonzero : NonzeroKeys (init env (chanComm2 slot) fd true allowWebsocket isTcp pair.port2
      (layer.mav.note (.opened slot udp))).log) :
    Remembering
      { mav := init env (chanComm2 slot) fd true allowWebsocket isTcp pair.port2
          (layer.mav.note (.opened slot udp))
        connected := Function.update layer.connected (chanComm2 slot) true } := by
  have small : chanComm2 slot < 256 := Nat.lt_of_lt_of_le (chanComm2_lt inside) (by decide)
  have note : layer.Quiet lib { layer with mav := layer.mav.note (.opened slot udp) } :=
    .note trivial fun _ _ => rfl
  have opened := remembering.of_quiet tracks note
  have touches := init_touches env (chanComm2 slot) fd true allowWebsocket isTcp pair.port2
    (layer.mav.note (.opened slot udp))
  have streams := fun (other : Nat) (apart : other ≠ chanComm2 slot) =>
    init_streams env (chanComm2 slot) fd true allowWebsocket isTcp pair.port2
      (layer.mav.note (.opened slot udp)) apart
  have gate := init_gate env _ small port2 nonzero
  have unheard : acceptedOn (chanComm2 slot) (init env (chanComm2 slot) fd true allowWebsocket isTcp
      pair.port2 (layer.mav.note (.opened slot udp))).log = [] := init_acceptedOn fd _ _ _ _ _
  have once : History.Obeys AcceptedOnce (init env (chanComm2 slot) fd true allowWebsocket isTcp
      pair.port2 (layer.mav.note (.opened slot udp))).log := init_once fd _ _ _ _ opened.once
  generalize init env (chanComm2 slot) fd true allowWebsocket isTcp pair.port2
    (layer.mav.note (.opened slot udp)) = started at touches streams gate unheard once
  refine opened.of_touches touches streams ?_ ?_ once
  · intro other apart held
    dsimp only at held
    rwa [Function.update_of_ne apart] at held
  · intro _ _ _ _
    refine ⟨gate, fun msg delivered => ?_⟩
    dsimp only at delivered
    rw [unheard] at delivered
    exact (List.not_mem_nil delivered).elim

private theorem receive (remembering : Remembering layer) (tracks : lib.TracksStreams)
    (callsBack : lib.CallsBack) {chan : Nat} (bytes : List UInt8) (active : layer.Active chan)
    (nonzero : NonzeroKeys (receiveMessage lib env chan bytes layer.mav).2.2.log)
    (copies : History.Obeys CopiesRejected (receiveMessage lib env chan bytes layer.mav).2.2.log) :
    Remembering { layer with mav := (receiveMessage lib env chan bytes layer.mav).2.2 } := by
  have clear : layer.Quiet lib { layer with mav := layer.mav.setBadSignature chan false } :=
    .of_links rfl rfl rfl
  have cleared := remembering.of_quiet tracks clear
  have touches := receiveBytes_touches lib env chan bytes (layer.mav.setBadSignature chan false)
  have others : ∀ other ≠ chan, ((receiveBytes lib env chan bytes
      (layer.mav.setBadSignature chan false)).2.2.links other).track.streams =
        ((layer.mav.setBadSignature chan false).links other).track.streams :=
    fun other apart => receiveBytes_others tracks bytes _ apart
  rw [receiveMessage] at nonzero copies ⊢
  rcases active with rfl | ⟨slot, inside, rfl, held⟩
  · refine cleared.of_touches touches others (fun _ _ held => held) ?_
      (touches.acceptedOnce cleared.once)
    intro slot _ same
    exact (chanComm2_ne_comm1 slot same).elim
  · obtain ⟨gate, remembered⟩ := cleared.engineer slot inside held
    have within := chanComm2_lt inside
    obtain ⟨delivered, once⟩ := receiveBytes_once tracks callsBack within
      (chanComm2_ne_comm1 slot) gate remembered copies cleared.once
    refine cleared.of_touches touches others (fun _ _ held => held) ?_ once
    intro _ _ _ _
    exact ⟨(receiveBytes_gate lib env _ callsBack within nonzero gate).1, delivered⟩

private theorem step (tracks : lib.TracksStreams) (callsBack : lib.CallsBack)
    (port2 : pair.port2 ≠ -1)
    (remembering : Remembering layer) (operation : Operation lib env pair layer next)
    (nonzero : NonzeroKeys next.mav.log) (copies : History.Obeys CopiesRejected next.mav.log) :
    Remembering next := by
  induction operation using Operation.byKind with
  | quiet operation quiet => exact remembering.of_quiet tracks quiet
  | connectUser layer fd isTcp absent => exact remembering.connectUser fd isTcp
  | connectEngineer layer slot udp fd allowWebsocket isTcp inside absent =>
      exact remembering.connectEngineer tracks port2 inside udp fd allowWebsocket isTcp nonzero
  | receive layer chan bytes active =>
      exact remembering.receive tracks callsBack bytes active nonzero copies

end Remembering

section Sessions

variable {lib : Library P} {env : Environment} {pair : PortPair} {memory : Nat → Option Nat}
  {record : Option KeyEntry} {sockets : Option Nat × Option Nat × Option Nat × Option Nat}

/-- A session that turns away the copies that come in on other connections accepts every
message of an engineer once. -/
theorem run_replay (tracks : lib.TracksStreams) (callsBack : lib.CallsBack)
    (port2 : pair.port2 ≠ -1) (wakes : List Wakeup)
    (nonzero : NonzeroKeys
      (run lib env pair wakes (LoopState.initial lib pair memory record sockets)).2.mav.log)
    (copies : History.Obeys CopiesRejected
      (run lib env pair wakes (LoopState.initial lib pair memory record sockets)).2.mav.log) :
    History.Obeys AcceptedOnce
      (run lib env pair wakes (LoopState.initial lib pair memory record sockets)).2.mav.log := by
  have operates : Operates lib env pair (LoopState.initial lib pair memory record sockets)
      (run lib env pair wakes (LoopState.initial lib pair memory record sockets)).2 :=
    run_operates wakes _
  have started : Remembering (LoopState.initial lib pair memory record sockets).linkLayer := by
    refine ⟨fun slot inside held => ?_, trivial⟩
    have unused : (LoopState.initial lib pair memory record sockets).connected (chanComm2 slot) =
        false := connected_slot inside
    dsimp only [LoopState.linkLayer] at held
    rw [unused] at held
    cases held
  exact (Operates.invariant Remembering
    (fun log => NonzeroKeys log ∧ History.Obeys CopiesRejected log) operates
    (fun suffix allowed => ⟨allowed.1.of_suffix suffix, allowed.2.of_suffix suffix⟩)
    (fun operation allowed before =>
      Remembering.step tracks callsBack port2 before operation allowed.1 allowed.2)
    started ⟨nonzero, copies⟩).once

end Sessions

/-- An engineer who sends a frame twice is heard once. -/
theorem run_replay_repeated :
    Event.accepted (chanComm2 0) (Framing.decode Scenario.heartbeatFrame) ∈
        (Scenario.session Scenario.authentic (some Scenario.record) [Scenario.userDatagram [],
          Scenario.engineerDatagram ⟨1, 1⟩ Scenario.heartbeatFrame,
          Scenario.engineerDatagram ⟨1, 1⟩ Scenario.heartbeatFrame]).mav.log ∧
      History.Obeys AcceptedOnce
        (Scenario.session Scenario.authentic (some Scenario.record) [Scenario.userDatagram [],
          Scenario.engineerDatagram ⟨1, 1⟩ Scenario.heartbeatFrame,
          Scenario.engineerDatagram ⟨1, 1⟩ Scenario.heartbeatFrame]).mav.log := by
  have once : ∀ wakes,
      NonzeroKeys (Scenario.session Scenario.authentic (some Scenario.record) wakes).mav.log →
        History.Obeys CopiesRejected
          (Scenario.session Scenario.authentic (some Scenario.record) wakes).mav.log →
            History.Obeys AcceptedOnce
              (Scenario.session Scenario.authentic (some Scenario.record) wakes).mav.log :=
    fun wakes nonzero copies => run_replay Framing.tracksStreams Framing.callsBack (by decide)
      wakes nonzero copies
  refine ⟨by decide +kernel, once _ ?_ ?_⟩
  · unfold NonzeroKeys
    decide +kernel
  · decide +kernel

/-- The copy of a frame from a second address reaches the user too. -/
theorem copy_accepted_twice :
    (let log := (Scenario.session Scenario.authentic (some Scenario.record)
        [Scenario.userDatagram [], Scenario.engineerDatagram ⟨1, 1⟩ Scenario.heartbeatFrame,
          Scenario.engineerDatagram ⟨2, 2⟩ Scenario.heartbeatFrame]).mav.log;
      (Framing.decode Scenario.heartbeatFrame).signed = true ∧
        Event.toUser 0 (Framing.decode Scenario.heartbeatFrame) ∈ log ∧
        Event.toUser 1 (Framing.decode Scenario.heartbeatFrame) ∈ log) := by
  decide +kernel

end SupportProxy
