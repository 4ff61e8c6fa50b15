import SupportProxy.Session.Turns
import SupportProxy.Session.Scenario
import SupportProxy.Logs.Tlog

/-! # What a session passes on, in which order

The history of a session read as streams of messages: what was accepted from either side, what
went to the tlog, what was passed to the user, and what was sent on each channel. Every turn
adds events in which these streams agree (`Relays`). -/

namespace SupportProxy

open Segments

/-! ## The streams of a history -/

namespace Event

variable (pair : PortPair)

/-- The accepted message that is to be recorded. -/
def recorded : Event → Option Message
  | .accepted _ msg => if pair.tlogEnabled then some msg else none
  | _ => none

def tlogged : Event → Option Message
  | .tlog msg => some msg
  | _ => none

/-- The message accepted from an engineer, with the slot of its channel. -/
def fromEngineer : Event → Option (Nat × Message)
  | .accepted chan msg => if 2 ≤ chan then some (chan - 2, msg) else none
  | _ => none

/-- The message with which `mav1.send_message` was called, with the slot it came from. -/
def forwarded : Event → Option (Nat × Message)
  | .toUser slot msg => some (slot, msg)
  | _ => none

def forUser : Event → Option Message
  | .toUser _ msg => some msg
  | _ => none

/-- The message accepted from the user that is meant for the engineers. -/
def forEngineers : Event → Option Message
  | .accepted chan msg => if chan = chanComm1 ∧ tapped pair msg = false then some msg else none
  | _ => none

end Event

/-- The streams agree: all that is accepted is recorded, what engineers send is passed to the
user, and what goes out on a channel is part of what came in for it. -/
structure Relays (pair : PortPair) (news : List Event) : Prop where
  tlog : news.filterMap Event.tlogged = news.filterMap (Event.recorded pair)
  forwarded : news.filterMap Event.forwarded = news.filterMap Event.fromEngineer
  user : (news.filterMap (Event.sentOn chanComm1)).Sublist (news.filterMap Event.forUser)
  engineers : ∀ slot, (news.filterMap (Event.sentOn (chanComm2 slot))).Sublist
    (news.filterMap (Event.forEngineers pair))

private theorem Relays.additive (pair : PortPair) : Additive (Relays pair) := by
  refine ⟨⟨rfl, rfl, .refl [], fun _ => .refl []⟩, fun late early => ⟨?_, ?_, ?_, fun slot => ?_⟩⟩
  · exact (Additive.filterMap_eq _ _).append late.tlog early.tlog
  · exact (Additive.filterMap_eq _ _).append late.forwarded early.forwarded
  · exact (Additive.filterMap_sublist _ _).append late.user early.user
  · exact (Additive.filterMap_sublist _ _).append (late.engineers slot) (early.engineers slot)

section Blind

variable {event : Event} (neutral : event.neutral)

include neutral

private theorem Event.neutral.recorded (pair : PortPair) : event.recorded pair = none := by
  cases event <;> first | rfl | exact neutral.elim

private theorem Event.neutral.tlogged : event.tlogged = none := by
  cases event <;> first | rfl | exact neutral.elim

private theorem Event.neutral.fromEngineer : event.fromEngineer = none := by
  cases event <;> first | rfl | exact neutral.elim

private theorem Event.neutral.forwarded : event.forwarded = none := by
  cases event <;> first | rfl | exact neutral.elim

private theorem Event.neutral.forUser : event.forUser = none := by
  cases event <;> first | rfl | exact neutral.elim

private theorem Event.neutral.forEngineers (pair : PortPair) : event.forEngineers pair = none := by
  cases event <;> first | rfl | exact neutral.elim

end Blind

private theorem Neutral.relays {pair : PortPair} {news : List Event} (neutral : Neutral news) :
    Relays pair news where
  tlog := (neutral.filterMap fun _ blind => blind.tlogged).trans
    (neutral.filterMap fun _ blind => blind.recorded pair).symm
  forwarded := (neutral.filterMap fun _ blind => blind.forwarded).trans
    (neutral.filterMap fun _ blind => blind.fromEngineer).symm
  user := by
    rw [neutral.filterMap fun _ blind => blind.sentOn chanComm1]
    exact List.nil_sublist _
  engineers := by
    intro slot
    rw [neutral.filterMap fun _ blind => blind.sentOn (chanComm2 slot)]
    exact List.nil_sublist _

/-! ## What the turns add -/

variable {P : Type} {lib : Library P} {env : Environment} {pair : PortPair}

/-- The history has grown by events of a kind. -/
abbrev LoopState.Grows (kind : List Event → Prop) (state next : LoopState P) : Prop :=
  Grown kind state.mav.log next.mav.log

private theorem tlogEvents_tlogged (msg : Message) :
    (tlogEvents pair msg).filterMap Event.tlogged = if pair.tlogEnabled then [msg] else [] := by
  unfold tlogEvents
  split
  · rfl
  · rfl

/-- A reading of the history that does not show the tlog. -/
theorem tlogEvents_hidden {α : Type} (pair : PortPair) (msg : Message)
    (reading : Event → Option α) (blind : reading (.tlog msg) = none) :
    (tlogEvents pair msg).filterMap reading = [] := by
  unfold tlogEvents
  split
  · rw [List.filterMap_cons_none blind, List.filterMap_nil]
  · rfl

private theorem recorded_accepted (chan : Nat) (msg : Message) :
    [Event.accepted chan msg].filterMap (Event.recorded pair) =
      if pair.tlogEnabled then [msg] else [] := by
  cases on : pair.tlogEnabled with
  | true =>
      have shown : Event.recorded pair (.accepted chan msg) = some msg := if_pos on
      rw [List.filterMap_cons_some shown, List.filterMap_nil, if_pos rfl]
  | false =>
      have hidden : Event.recorded pair (.accepted chan msg) = none :=
        if_neg (Bool.eq_false_iff.mp on)
      rw [List.filterMap_cons_none hidden, List.filterMap_nil]
      rfl

/-- A user's message with its record and the copies for the engineers. -/
theorem relays_user {msg : Message} {copies : List Event} (copied : Copies msg 0 copies)
    (stripped : Event.tapped pair msg = true → copies = []) :
    Relays pair ((copies ++ tlogEvents pair msg) ++ [.accepted chanComm1 msg]) where
  tlog := by
    simp only [List.filterMap_append, tlogEvents_tlogged, recorded_accepted,
      copied.hidden (fun _ blind => blind.tlogged) (fun _ _ => rfl),
      copied.hidden (fun _ blind => blind.recorded pair) (fun _ _ => rfl),
      tlogEvents_hidden pair msg (Event.recorded pair) rfl, List.nil_append]
    exact List.append_nil _
  forwarded := by
    simp only [List.filterMap_append,
      copied.hidden (fun _ blind => blind.forwarded) (fun _ _ => rfl),
      copied.hidden (fun _ blind => blind.fromEngineer) (fun _ _ => rfl),
      tlogEvents_hidden pair msg Event.forwarded rfl,
      tlogEvents_hidden pair msg Event.fromEngineer rfl, List.nil_append]
    rfl
  user := by
    simp only [List.filterMap_append, copied.user,
      tlogEvents_hidden pair msg (Event.sentOn chanComm1) rfl]
    exact List.nil_sublist _
  engineers := by
    intro slot
    have silent :
        [Event.accepted chanComm1 msg].filterMap (Event.sentOn (chanComm2 slot)) = [] := rfl
    simp only [List.filterMap_append, silent,
      tlogEvents_hidden pair msg (Event.sentOn (chanComm2 slot)) rfl,
      tlogEvents_hidden pair msg (Event.forEngineers pair) rfl,
      copied.hidden (fun _ blind => blind.forEngineers pair) (fun _ _ => rfl), List.append_nil,
      List.nil_append]
    cases tap : Event.tapped pair msg with
    | true =>
        rw [stripped tap]
        exact List.nil_sublist _
    | false =>
        have meant : Event.forEngineers pair (.accepted chanComm1 msg) = some msg :=
          if_pos ⟨rfl, tap⟩
        rw [List.filterMap_cons_some meant, List.filterMap_nil]
        exact copied.once slot

/-- An engineer's message with its record, its way to the user and the copy that is sent. -/
theorem relays_engineer {msg : Message} {slot : Nat} {sent : List Event}
    (copy : Copy msg chanComm1 sent) :
    Relays pair ((sent ++ .toUser slot msg :: tlogEvents pair msg) ++
      [.accepted (chanComm2 slot) msg]) where
  tlog := by
    have passed : Event.tlogged (.toUser slot msg) = none := rfl
    have alsoPassed : Event.recorded pair (.toUser slot msg) = none := rfl
    simp only [List.filterMap_append, List.filterMap_cons_none passed,
      List.filterMap_cons_none alsoPassed, tlogEvents_tlogged, recorded_accepted,
      copy.hidden (fun _ blind => blind.tlogged) (fun _ _ => rfl),
      copy.hidden (fun _ blind => blind.recorded pair) (fun _ _ => rfl),
      tlogEvents_hidden pair msg (Event.recorded pair) rfl, List.nil_append]
    exact List.append_nil _
  forwarded := by
    have shown : Event.forwarded (.toUser slot msg) = some (slot, msg) := rfl
    have passed : Event.fromEngineer (.toUser slot msg) = none := rfl
    have accepted : [Event.accepted (chanComm2 slot) msg].filterMap Event.fromEngineer =
        [(slot, msg)] := by
      have theirs : Event.fromEngineer (.accepted (chanComm2 slot) msg) = some (slot, msg) := by
        rw [Event.fromEngineer, chanComm2, if_pos (Nat.le_add_right 2 slot),
          Nat.add_sub_cancel_left]
      rw [List.filterMap_cons_some theirs, List.filterMap_nil]
    simp only [List.filterMap_append, List.filterMap_cons_some shown,
      List.filterMap_cons_none passed, accepted,
      copy.hidden (fun _ blind => blind.forwarded) (fun _ _ => rfl),
      copy.hidden (fun _ blind => blind.fromEngineer) (fun _ _ => rfl),
      tlogEvents_hidden pair msg Event.forwarded rfl,
      tlogEvents_hidden pair msg Event.fromEngineer rfl, List.nil_append]
    rfl
  user := by
    have shown : Event.forUser (.toUser slot msg) = some msg := rfl
    have passed : Event.sentOn chanComm1 (.toUser slot msg) = none := rfl
    have silent :
        [Event.accepted (chanComm2 slot) msg].filterMap (Event.sentOn chanComm1) = [] := rfl
    have unread : [Event.accepted (chanComm2 slot) msg].filterMap Event.forUser = [] := rfl
    simp only [List.filterMap_append, List.filterMap_cons_some shown,
      List.filterMap_cons_none passed, silent, unread,
      copy.hidden (fun _ blind => blind.forUser) (fun _ _ => rfl),
      tlogEvents_hidden pair msg (Event.sentOn chanComm1) rfl,
      tlogEvents_hidden pair msg Event.forUser rfl, List.append_nil, List.nil_append]
    exact copy.once
  engineers := by
    intro other
    have different := chanComm2_ne_comm1 other
    have passed : Event.sentOn (chanComm2 other) (.toUser slot msg) = none := rfl
    have silent : [Event.accepted (chanComm2 slot) msg].filterMap
        (Event.sentOn (chanComm2 other)) = [] := rfl
    simp only [List.filterMap_append, List.filterMap_cons_none passed, silent,
      copy.others _ different, tlogEvents_hidden pair msg (Event.sentOn (chanComm2 other)) rfl]
    exact List.nil_sublist _

private theorem relays_nothing {news : List Event} (tlogged : news.filterMap Event.tlogged = [])
    (recorded : news.filterMap (Event.recorded pair) = [])
    (forwarded : news.filterMap Event.forwarded = [])
    (fromEngineer : news.filterMap Event.fromEngineer = [])
    (unsent : ∀ chan, news.filterMap (Event.sentOn chan) = []) : Relays pair news where
  tlog := tlogged.trans recorded.symm
  forwarded := forwarded.trans fromEngineer.symm
  user := by
    rw [unsent]
    exact List.nil_sublist _
  engineers := fun slot => by
    rw [unsent]
    exact List.nil_sublist _

/-- The packets of a tick are in none of the streams. -/
theorem relays_status (transport : Transport) (packets : List StatusPacket) :
    Relays pair (statusEvents transport packets) := by
  have blind : ∀ {α : Type} (reading : Event → Option α),
      (∀ seqno ack, reading (.sentStatus chanComm1 transport seqno ack) = none) →
        (statusEvents transport packets).filterMap reading = [] := by
    intro α reading none
    refine List.filterMap_eq_nil_iff.mpr fun event member => ?_
    obtain ⟨packet, -, rfl⟩ := List.mem_map.mp (List.mem_reverse.mp member)
    exact none packet.seqno packet.ack
  exact relays_nothing (blind _ fun _ _ => rfl) (blind _ fun _ _ => rfl) (blind _ fun _ _ => rfl)
    (blind _ fun _ _ => rfl) fun chan => blind _ fun _ _ => rfl

private theorem Turn.relays {state next : LoopState P} (turn : Turn lib pair state next) :
    state.Grows (Relays pair) next := by
  cases turn with
  | quiet binlog steady neutral => exact neutral.mono fun _ neutral => neutral.relays
  | heard msg heard =>
      obtain ⟨news, log, copies, stripped, -⟩ := heard.copies
      refine ⟨(news ++ tlogEvents pair msg) ++ [.accepted chanComm1 msg], ?_,
        relays_user copies stripped⟩
      rw [log, List.append_assoc _ [_]]
      rfl
  | passed slot msg passed =>
      obtain ⟨sent, log, copy⟩ := passed.sent
      refine ⟨(sent ++ .toUser slot msg :: tlogEvents pair msg) ++ [.accepted (chanComm2 slot) msg],
        ?_, relays_engineer copy⟩
      rw [log, List.append_assoc _ [_]]
      rfl
  | taken slot udp taken =>
      exact ⟨[.opened slot udp], taken.log, relays_nothing rfl rfl rfl rfl fun _ => rfl⟩
  | ticked io transport steady binlog told =>
      exact ⟨_, told, relays_status transport _⟩
  | reported wake binlog steady log =>
      exact ⟨[.snapshot _], log, relays_nothing rfl rfl rfl rfl fun _ => rfl⟩

private theorem Turns.relays {state next : LoopState P} (turns : Turns lib pair state next) :
    state.Grows (Relays pair) next := by
  induction turns with
  | refl => exact .refl (Relays.additive pair) _
  | tail _ turn ih => exact ih.trans (Relays.additive pair) turn.relays

section Sessions

variable {memory : Nat → Option Nat} {record : Option KeyEntry}
  {sockets : Option Nat × Option Nat × Option Nat × Option Nat}

/-- The streams of the whole history of a session. -/
theorem session_relays (wakes : List Wakeup) :
    Relays pair
      (run lib env pair wakes (LoopState.initial lib pair memory record sockets)).2.mav.log := by
  obtain ⟨news, same, relays⟩ :
      LoopState.Grows (Relays pair) (LoopState.initial lib pair memory record sockets)
        (run lib env pair wakes (LoopState.initial lib pair memory record sockets)).2 :=
    (run_turns wakes _).relays
  rw [same, LoopState.initial, List.append_nil]
  exact relays

/-- **Nothing is made up, repeated or reordered** between the two sides, in any session. The
messages for which `mav1.send_message` is called are those accepted from the engineers, one for
one and in their order; what is sent to the user is part of them, and what is sent to an
engineer is part of what was accepted from the user and not stripped, in that order. -/
theorem run_relay (wakes : List Wakeup) :
    let log := (run lib env pair wakes
      (LoopState.initial lib pair memory record sockets)).2.mav.log
    log.filterMap Event.forwarded = log.filterMap Event.fromEngineer ∧
      (log.filterMap (Event.sentOn chanComm1)).Sublist (log.filterMap Event.forUser) ∧
        ∀ slot, (log.filterMap (Event.sentOn (chanComm2 slot))).Sublist
          (log.filterMap (Event.forEngineers pair)) := by
  intro log
  have relays : Relays pair log := session_relays wakes
  exact ⟨relays.forwarded, relays.user, relays.engineers⟩

/-- The message of an acceptance, on any channel. -/
def Event.acceptedMessage : Event → Option Message
  | .accepted _ msg => some msg
  | _ => none

private theorem Event.recorded_enabled (enabled : pair.tlogEnabled = true) :
    Event.recorded pair = Event.acceptedMessage := by
  funext event
  cases event with
  | accepted chan msg => exact if_pos enabled
  | _ => rfl

/-- Complete calls leave a file from which the walker reads their frames. -/
theorem Tlog.read_whole {calls : List FrameWrite} (wellFormed : ∀ call ∈ calls, call.WellFormed)
    (whole : ∀ call ∈ calls, call.Whole) :
    (readTlogRecords (Tlog.after calls).file).map Prod.snd =
      calls.reverse.map FrameWrite.frame := by
  have sound : Tlog.Sound (Tlog.after calls) ∧ (Tlog.after calls).torn = false ∧
      (Tlog.after calls).complete = calls.reverse := by
    induction calls with
    | nil => exact ⟨⟨fun call complete => (by cases complete), [], .inl rfl, rfl⟩, rfl, rfl⟩
    | cons call calls ih =>
        obtain ⟨sound, torn, complete⟩ := ih
          (fun other member => wellFormed other (List.mem_cons_of_mem _ member))
          fun other member => whole other (List.mem_cons_of_mem _ member)
        have here := whole call List.mem_cons_self
        have untorn : Tlog.Untorn (Tlog.after calls) call :=
          ⟨fun short => absurd here.1 (by omega), fun cut => by rw [torn] at cut; cases cut⟩
        refine ⟨sound.writeFrame (wellFormed call List.mem_cons_self) untorn, ?_, ?_⟩
        · rw [Tlog.after, History.replay_cons, Tlog.writeFrame]
          dsimp only
          rw [torn, decide_eq_false (not_not.mpr here), Bool.and_false, Bool.or_false]
        · rw [Tlog.after, History.replay_cons, Tlog.writeFrame]
          dsimp only
          rw [if_pos here, List.reverse_cons]
          exact congrArg (· ++ [call]) complete
  rw [sound.1.read, sound.2.2, List.map_map]
  rfl

/-- **The tlog is the transcript of its session.** When the file is open from the first message
on and no `fwrite` comes short, the records that are read back are the frames of all messages
accepted from either side, in the order in which they were accepted. -/
theorem run_transcript (enabled : pair.tlogEnabled = true) (wakes : List Wakeup)
    {toFrame : Message → List UInt8} {calls : List FrameWrite}
    (written : calls.map FrameWrite.frame = ((run lib env pair wakes
      (LoopState.initial lib pair memory record sockets)).2.mav.log.filterMap
        Event.tlogged).map toFrame)
    (wellFormed : ∀ call ∈ calls, call.WellFormed) (whole : ∀ call ∈ calls, call.Whole) :
    (readTlogRecords (Tlog.after calls).file).map Prod.snd =
      ((run lib env pair wakes (LoopState.initial lib pair memory record
        sockets)).2.mav.log.reverse.filterMap Event.acceptedMessage).map toFrame := by
  have relays : Relays pair (run lib env pair wakes
      (LoopState.initial lib pair memory record sockets)).2.mav.log := session_relays wakes
  have recorded := relays.tlog
  rw [Event.recorded_enabled enabled] at recorded
  rw [Tlog.read_whole wellFormed whole, List.map_reverse, written, recorded, List.filterMap_reverse,
    List.map_reverse]

end Sessions

/-- `mavlink_msg_to_send_buffer` of a MAVLink 2 message whose payload does not end in zeros. -/
def Framing.toSendBuffer (msg : Message) : List UInt8 :=
  encode msg msg.seq (UInt8.ofNat msg.incompatFlags.toNat) (dialect msg.msgid).1 ++ msg.signature

/-- A session that records, with one message from each side. -/
def Scenario.recording : List Wakeup :=
  [userDatagram setupFrame, engineerDatagram ⟨1, 1⟩ heartbeatFrame]

def Scenario.recordingPair : PortPair := { Scenario.pair with bidi := false, tlogEnabled := true }

def Scenario.recordingCalls : List FrameWrite :=
  [⟨2, heartbeatFrame, 8, 34⟩, ⟨1, setupFrame, 8, 67⟩]

/-- The records of a session with messages from both sides. -/
theorem run_transcript_bothSides :
    (readTlogRecords (Tlog.after Scenario.recordingCalls).file).map Prod.snd =
      ((Scenario.sessionIn Scenario.environment Scenario.recordingPair Scenario.authentic
        (some Scenario.record) Scenario.recording).mav.log.reverse.filterMap
          Event.acceptedMessage).map Framing.toSendBuffer := by
  have written : Scenario.recordingCalls.map FrameWrite.frame =
      ((Scenario.sessionIn Scenario.environment Scenario.recordingPair Scenario.authentic
        (some Scenario.record) Scenario.recording).mav.log.filterMap
          Event.tlogged).map Framing.toSendBuffer := by
    have logged : (Scenario.sessionIn Scenario.environment Scenario.recordingPair
        Scenario.authentic (some Scenario.record) Scenario.recording).mav.log.filterMap
          Event.tlogged = [Framing.decode Scenario.heartbeatFrame,
            Framing.decode Scenario.setupFrame] := by decide +kernel
    have sent : [Framing.decode Scenario.heartbeatFrame, Framing.decode Scenario.setupFrame].map
        Framing.toSendBuffer = [Scenario.heartbeatFrame, Scenario.setupFrame] := by decide +kernel
    rw [logged, sent]
    rfl
  unfold Scenario.sessionIn at written ⊢
  refine run_transcript rfl Scenario.recording written ?_ ?_
  · simp only [Scenario.recordingCalls, List.forall_mem_cons, FrameWrite.WellFormed]
    exact ⟨rfl, rfl, by simp⟩
  · simp only [Scenario.recordingCalls, List.forall_mem_cons]
    exact ⟨⟨by decide, by decide⟩, ⟨by decide, by decide⟩, by simp⟩

end SupportProxy
