import SupportProxy.Session.Turns
import SupportProxy.Binlog.Capture

/-! # The binary log of a session

What a session does with its `BinlogWriter`, read off its history: the user's messages it
is shown and the status packets it answers. A session is a run of the writer on the messages
accepted from the user (`session_fed`). -/

namespace SupportProxy

open Segments

/-! ## A session's dealings with its writer -/

/-- `binlog_handle_user_msg` and `binlog.tick`, with what the outside answers. -/
inductive BinlogStep
  | message (msg : Message) (nextN : Nat) (io : BlockIo)
  | tick (io : TickIo)

/-- What the user's link shows of the binlog. -/
inductive Signal
  /-- a message accepted from the user -/
  | heard (msg : Message)
  /-- a REMOTE_LOG_BLOCK_STATUS sent to the user -/
  | told (seqno : Nat) (ack : Bool)
deriving DecidableEq

namespace Signal

variable {P : Type} (lib : Library P)

/-- The block that a message from the user carries. -/
def block : Signal → Option DataBlock
  | .heard msg => if msg.msgid = Message.remoteLogDataBlock then some (lib.dataBlock msg) else none
  | .told _ _ => none

/-- The seqno of the block that the signal carries. -/
def carries (seqno : Nat) (signal : Signal) : Bool :=
  (signal.block lib).any fun block => decide (block.seqno = seqno)

def acknowledges (seqno : Nat) : Signal → Bool
  | .heard _ => false
  | .told other ack => ack && decide (other = seqno)

end Signal

def Event.signal : Event → Option Signal
  | .accepted chan msg => if chan = chanComm1 then some (.heard msg) else none
  | .sentStatus chan _ seqno ack => if chan = chanComm1 then some (.told seqno ack) else none
  | _ => none

/-- A writer with the signals so far, the newest first. -/
structure BinlogFeed where
  writer : BinlogWriter
  signals : List Signal

def StatusPacket.signal (packet : StatusPacket) : Signal := .told packet.seqno packet.ack

namespace BinlogStep

variable {P : Type} (lib : Library P) (pair : PortPair)

/-- The calls on the writer, the newest first. -/
def calls : BinlogStep → List WriterCall
  | .message msg nextN io =>
      (if msg.msgid = Message.remoteLogDataBlock then
        [.handleBlock (pair.port2 % 2 ^ 32).toNat pair.sessionN io msg.sysid msg.compid
          (lib.dataBlock msg)]
      else []) ++ [.observe nextN msg (lib.timeBootMs msg)]
  | .tick io => [.tick io]

def apply : BinlogStep → BinlogFeed → BinlogFeed
  | .message msg nextN io, feed =>
      { writer := tap lib pair msg nextN io feed.writer
        signals := .heard msg :: feed.signals }
  | .tick io, feed =>
      { writer := (feed.writer.tick io).2
        signals := ((feed.writer.tick io).1.map StatusPacket.signal).reverse ++ feed.signals }

end BinlogStep

/-- The feed that a session leaves. -/
def LoopState.feed {P : Type} (state : LoopState P) : BinlogFeed :=
  ⟨state.binlog, state.mav.log.filterMap Event.signal⟩

/-- From one state to the other the writer took steps, and the history shows them. -/
def Fed {P : Type} (lib : Library P) (pair : PortPair) (state next : LoopState P) : Prop :=
  ∃ steps, next.feed = History.replay (BinlogStep.apply lib pair) state.feed steps

variable {P : Type} {lib : Library P} {env : Environment} {pair : PortPair}

namespace Fed

variable {state middle next : LoopState P}

private theorem refl (state : LoopState P) : Fed lib pair state state := ⟨[], rfl⟩

private theorem trans (first : Fed lib pair state middle) (second : Fed lib pair middle next) :
    Fed lib pair state next := by
  obtain ⟨early, fed⟩ := first
  obtain ⟨late, later⟩ := second
  refine ⟨late ++ early, ?_⟩
  rw [later, fed]
  exact List.foldr_append.symm

private theorem step (step : BinlogStep) (same : next.feed = step.apply lib pair state.feed) :
    Fed lib pair state next := ⟨[step], same⟩

/-- The writer stays as it is, and the history grows by events that show nothing of it. -/
theorem aside (binlog : next.binlog = state.binlog) {news : List Event}
    (log : next.mav.log = news ++ state.mav.log) (silent : news.filterMap Event.signal = []) :
    Fed lib pair state next := by
  refine ⟨[], ?_⟩
  rw [LoopState.feed, binlog, log, List.filterMap_append, silent, List.nil_append]
  rfl

end Fed

private theorem Event.neutral.signal {event : Event} (neutral : event.neutral) :
    event.signal = none := by
  cases event <;> first | rfl | exact neutral.elim

private theorem tlogEvents_silent (msg : Message) :
    (tlogEvents pair msg).filterMap Event.signal = [] := by
  unfold tlogEvents
  split <;> rfl

/-- A message of the user is a signal. -/
theorem heard_signals {msg : Message} {news log : List Event} (copies : Copies msg 0 news) :
    ((news ++ tlogEvents pair msg) ++ .accepted chanComm1 msg :: log).filterMap Event.signal =
      .heard msg :: log.filterMap Event.signal := by
  have shown : Event.signal (.accepted chanComm1 msg) = some (.heard msg) := by
    rw [Event.signal, if_pos rfl]
  rw [List.filterMap_append, List.filterMap_append, tlogEvents_silent,
    copies.hidden (fun _ blind => blind.signal) (fun _ _ => rfl), List.filterMap_cons_some shown]
  rfl

/-- A message of an engineer is none. -/
theorem passed_signals {msg : Message} {slot : Nat} {sent : List Event}
    (copy : Copy msg chanComm1 sent) :
    List.filterMap Event.signal ((sent ++ .toUser slot msg :: tlogEvents pair msg) ++
      [.accepted (chanComm2 slot) msg]) = [] := by
  have silent : Event.signal (.accepted (chanComm2 slot) msg) = none := by
    refine if_neg ?_
    rw [chanComm1, chanComm2]
    omega
  have passed : Event.signal (.toUser slot msg) = none := rfl
  rw [List.filterMap_append, List.filterMap_append, List.filterMap_cons_none passed,
    tlogEvents_silent, copy.hidden (fun _ blind => blind.signal) (fun _ _ => rfl),
    List.filterMap_cons_none silent]
  rfl

private theorem statusEvents_signals (transport : Transport) (packets : List StatusPacket) :
    (statusEvents transport packets).filterMap Event.signal =
      (packets.map StatusPacket.signal).reverse := by
  rw [statusEvents, List.filterMap_reverse, List.filterMap_map]
  refine congrArg List.reverse ?_
  rw [← List.filterMap_eq_map]
  refine List.filterMap_congr fun packet _ => ?_
  rw [Function.comp_apply, Function.comp_apply, Event.signal, if_pos rfl, StatusPacket.signal]

private theorem Turn.fed (enabled : pair.binlogEnabled = true) {state next : LoopState P}
    (turn : Turn lib pair state next) : Fed lib pair state next := by
  cases turn with
  | quiet binlog steady neutral =>
      obtain ⟨news, log, neutral⟩ := neutral
      exact .aside binlog log (neutral.filterMap fun _ blind => blind.signal)
  | heard msg heard =>
      obtain ⟨nextN, io, tapped⟩ := heard.binlog enabled
      obtain ⟨news, log, copies, -, -⟩ := heard.copies
      refine .step (.message msg nextN io) ?_
      rw [LoopState.feed, tapped, log, heard_signals copies]
      rfl
  | passed slot msg passed =>
      obtain ⟨sent, log, copy⟩ := passed.sent
      have silent :
          List.filterMap Event.signal ((sent ++ .toUser slot msg :: tlogEvents pair msg) ++
          [.accepted (chanComm2 slot) msg]) = [] := passed_signals copy
      refine .aside passed.binlog ?_ silent
      rw [log, List.append_assoc _ [_]]
      rfl
  | taken slot udp taken =>
      have log : next.mav.log = [.opened slot udp] ++ state.mav.log := taken.log
      exact .aside taken.binlog log rfl
  | ticked io transport steady binlog told =>
      refine .step (.tick io) ?_
      rw [LoopState.feed, binlog, told, List.filterMap_append, statusEvents_signals]
      rfl
  | reported wake binlog steady log =>
      have added :
          next.mav.log = [.snapshot (snapshotEntries pair wake state)] ++ state.mav.log := log
      exact .aside binlog added rfl

private theorem Turns.fed (enabled : pair.binlogEnabled = true) {state next : LoopState P}
    (turns : Turns lib pair state next) : Fed lib pair state next := by
  induction turns with
  | refl => exact .refl _
  | tail _ turn ih => exact ih.trans (turn.fed enabled)

/-- The feed of a whole session. -/
theorem session_fed (enabled : pair.binlogEnabled = true) {memory : Nat → Option Nat}
    {record : Option KeyEntry} {sockets : Option Nat × Option Nat × Option Nat × Option Nat}
    (wakes : List Wakeup) :
    ∃ steps, (run lib env pair wakes (LoopState.initial lib pair memory record sockets)).2.feed =
      History.replay (BinlogStep.apply lib pair) ⟨BinlogWriter.initial pair.fcSysid, []⟩ steps := by
  obtain ⟨steps, fed⟩ : Fed lib pair (LoopState.initial lib pair memory record sockets)
      (run lib env pair wakes (LoopState.initial lib pair memory record sockets)).2 :=
    (run_turns wakes _).fed enabled
  refine ⟨steps, fed.trans ?_⟩
  rw [LoopState.feed, LoopState.initial, if_pos enabled]
  rfl

end SupportProxy
