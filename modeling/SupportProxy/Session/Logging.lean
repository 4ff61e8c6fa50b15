import SupportProxy.Session.BinlogFeed
import SupportProxy.Session.Scenario
import SupportProxy.Binlog.Reassembly

/-! # What a session logs

The results about the writer carried over to sessions: which blocks a session
acknowledges and asks for, and what is in its `.bin` file. -/

namespace SupportProxy

namespace BinlogWriter

/-- The acknowledgements owed and the seqnos asked for, after a block. -/
theorem handleBlock_queues (writer : BinlogWriter) (port2 sessionN : Nat) (io : BlockIo)
    (sysid compid : UInt8) (block : DataBlock) :
    let next := (writer.handleBlock port2 sessionN io sysid compid block).2
    next.pendingAcks = writer.pendingAcks ∧ next.nackState = writer.nackState ∨
      next.pendingAcks = writer.pendingAcks ++ [block.seqno] ∧
        ∀ seqno, (next.nackState seqno).isSome = true →
          (writer.nackState seqno).isSome = true ∨ seqno < block.seqno := by
  rw [handleBlock]
  cases opens : writer.ensureOpen port2 sessionN io block.seqno with
  | error result => exact .inl ⟨rfl, rfl⟩
  | ok opened =>
      have pending : opened.pendingAcks = writer.pendingAcks ∧
          opened.nackState = writer.nackState := by
        rcases (ensureOpen_ok opens).2 with rfl | ⟨-, -, path, same⟩
        · exact ⟨rfl, rfl⟩
        · exact ⟨same.pending, same.nacks⟩
      have latched := latchTarget_sameLog opened sysid compid
      rw [← pending.1, ← pending.2]
      dsimp only
      rcases acceptBlock_cases opened io sysid compid block with
        ⟨-, result | result⟩ | ⟨-, ⟨-, result⟩ | ⟨-, -, result⟩ | ⟨-, -, result⟩⟩
      · rw [result]
        exact .inl ⟨rfl, rfl⟩
      · rw [result]
        exact .inl ⟨rfl, rfl⟩
      · rw [result]
        exact .inl ⟨latched.pending, latched.nacks⟩
      · rw [result]
        exact .inl ⟨latched.pending, latched.nacks⟩
      · rw [result]
        have recorded := recordBlock_recorded ((opened.latchTarget sysid compid).writeBlock
          (block.seqno * blockBytes) io.wrote block.data) io block.seqno
        have before : ((opened.latchTarget sysid compid).writeBlock (block.seqno * blockBytes)
            io.wrote block.data).nackState = opened.nackState := latched.nacks
        refine .inr ⟨recorded.pending.trans (congrArg (· ++ [block.seqno]) latched.pending), ?_⟩
        intro seqno key
        rw [recorded.nacks, before] at key
        split_ifs at key with own gap
        · cases key
        · exact .inr gap.2.2.1
        · exact .inl key

/-- `observe` forgets what is owed and asked for, or keeps it. -/
theorem observe_queues (writer : BinlogWriter) (nextN : Nat) (msg : Message) (timeBootMs : Nat) :
    (∀ seqno, (writer.observe nextN msg timeBootMs).pendingAcks.count seqno ≤
        writer.pendingAcks.count seqno) ∧
      ∀ seqno, ((writer.observe nextN msg timeBootMs).nackState seqno).isSome = true →
        (writer.nackState seqno).isSome = true := by
  rcases observe_cases writer nextN msg timeBootMs with same | ⟨-, blank⟩
  · rw [same.pending, same.nacks]
    exact ⟨fun seqno => Nat.le_refl _, fun seqno key => key⟩
  · rw [blank.pending, blank.nacks]
    refine ⟨fun seqno => ?_, fun seqno key => ?_⟩
    · rw [List.count_nil]
      exact Nat.zero_le _
    · cases key

end BinlogWriter

/-! ## What is acknowledged and asked for -/

section Owing

open BinlogWriter

variable {P : Type} (lib : Library P)

/-- When a signal may be given: an acknowledgement for every time the block came in, a
request for a seqno below that of a block that came in. -/
def Signal.Owed (before : List Signal) : Signal → Prop
  | .heard _ => True
  | .told seqno true => seqno = remoteLogDataBlockStart ∨
      before.countP (Signal.acknowledges seqno) < before.countP (Signal.carries lib seqno)
  | .told seqno false => ∃ block ∈ before.filterMap (Signal.block lib), seqno < block.seqno

/-- The signals were owed, and there is a block for what the writer still owes. -/
structure BinlogFeed.Owes (feed : BinlogFeed) : Prop where
  owed : History.Obeys (Signal.Owed lib) feed.signals
  pending : ∀ seqno ≠ remoteLogDataBlockStart,
    feed.signals.countP (Signal.acknowledges seqno) + feed.writer.pendingAcks.count seqno ≤
      feed.signals.countP (Signal.carries lib seqno)
  asked : ∀ seqno, (feed.writer.nackState seqno).isSome = true →
    ∃ block ∈ feed.signals.filterMap (Signal.block lib), seqno < block.seqno

variable {lib} {pair : PortPair}

private theorem Signal.block_data {msg : Message}
    (isBlock : msg.msgid = Message.remoteLogDataBlock) :
    Signal.block lib (.heard msg) = some (lib.dataBlock msg) := if_pos isBlock

private theorem BinlogFeed.Owes.message {feed : BinlogFeed} (owes : feed.Owes lib) (msg : Message)
    (nextN : Nat) (io : BlockIo) :
    ((BinlogStep.message msg nextN io).apply lib pair feed).Owes lib := by
  obtain ⟨kept, asked⟩ := observe_queues feed.writer nextN msg (lib.timeBootMs msg)
  have silent : ∀ seqno, (Signal.heard msg :: feed.signals).countP (Signal.acknowledges seqno) =
      feed.signals.countP (Signal.acknowledges seqno) := fun seqno =>
    List.countP_cons_of_neg Bool.false_ne_true
  unfold BinlogStep.apply tap
  dsimp only
  generalize feed.writer.observe nextN msg (lib.timeBootMs msg) = observed at kept asked ⊢
  by_cases isBlock : msg.msgid = Message.remoteLogDataBlock
  · have shown : (Signal.heard msg :: feed.signals).filterMap (Signal.block lib) =
        lib.dataBlock msg :: feed.signals.filterMap (Signal.block lib) :=
      List.filterMap_cons_some (Signal.block_data isBlock)
    have counted : ∀ seqno, (Signal.heard msg :: feed.signals).countP (Signal.carries lib seqno) =
        feed.signals.countP (Signal.carries lib seqno) +
          if (lib.dataBlock msg).seqno = seqno then 1 else 0 := by
      intro seqno
      rw [List.countP_cons, Signal.carries, Signal.block_data isBlock, Option.any_some]
      simp only [decide_eq_true_eq]
    rw [if_pos isBlock]
    have queues := handleBlock_queues observed (pair.port2 % 2 ^ 32).toNat pair.sessionN io
      msg.sysid msg.compid (lib.dataBlock msg)
    dsimp only at queues
    generalize (observed.handleBlock (pair.port2 % 2 ^ 32).toNat pair.sessionN io msg.sysid
      msg.compid (lib.dataBlock msg)).2 = next at queues
    refine ⟨⟨trivial, owes.owed⟩, fun seqno ordinary => ?_, fun seqno key => ?_⟩
    · have before := owes.pending seqno ordinary
      have less := kept seqno
      rw [silent, counted]
      rcases queues with ⟨same, -⟩ | ⟨queued, -⟩
      · rw [same]
        omega
      · rw [queued, List.count_append, List.count_singleton]
        simp only [beq_iff_eq]
        omega
    · have earlier : (observed.nackState seqno).isSome = true →
          ∃ block ∈ (Signal.heard msg :: feed.signals).filterMap (Signal.block lib),
            seqno < block.seqno := by
        intro known
        obtain ⟨block, member, below⟩ := owes.asked seqno (asked seqno known)
        rw [shown]
        exact ⟨block, List.mem_cons_of_mem _ member, below⟩
      rcases queues with ⟨-, same⟩ | ⟨-, gaps⟩
      · rw [same] at key
        exact earlier key
      · rcases gaps seqno key with known | below
        · exact earlier known
        · rw [shown]
          exact ⟨lib.dataBlock msg, List.mem_cons_self, below⟩
  · have shown : (Signal.heard msg :: feed.signals).filterMap (Signal.block lib) =
        feed.signals.filterMap (Signal.block lib) :=
      List.filterMap_cons_none (if_neg isBlock)
    rw [if_neg isBlock]
    refine ⟨⟨trivial, owes.owed⟩, fun seqno ordinary => ?_, fun seqno key => ?_⟩
    · have before := owes.pending seqno ordinary
      have less := kept seqno
      have same : (Signal.heard msg :: feed.signals).countP (Signal.carries lib seqno) =
          feed.signals.countP (Signal.carries lib seqno) := by
        refine List.countP_cons_of_neg ?_
        have none : Signal.block lib (.heard msg) = none := if_neg isBlock
        rw [Signal.carries, none]
        exact Bool.false_ne_true
      rw [silent, same]
      dsimp only
      omega
    · rw [shown]
      exact owes.asked seqno (asked seqno key)

/-- Packets that leave what is owed as it is. -/
theorem owed_told {packets : List StatusPacket} {signals : List Signal}
    (owed : History.Obeys (Signal.Owed lib) signals)
    (apart : ∀ packet ∈ packets,
      packet.ack = true ∧ packet.seqno = remoteLogDataBlockStart ∨
        packet.ack = false ∧ ∃ block ∈ signals.filterMap (Signal.block lib),
          packet.seqno < block.seqno) :
    History.Obeys (Signal.Owed lib) ((packets.map StatusPacket.signal).reverse ++ signals) := by
  induction packets generalizing signals with
  | nil => exact owed
  | cons packet rest ih =>
      have told : Signal.Owed lib signals packet.signal := by
        rw [StatusPacket.signal]
        rcases apart packet List.mem_cons_self with ⟨ack, start⟩ | ⟨nack, gap⟩
        · rw [ack]
          exact .inl start
        · rw [nack]
          exact gap
      have silent : (packet.signal :: signals).filterMap (Signal.block lib) =
          signals.filterMap (Signal.block lib) := rfl
      rw [List.map_cons, List.reverse_cons, List.append_assoc, List.singleton_append]
      refine ih ⟨told, owed⟩ fun other member => ?_
      rw [silent]
      exact apart other (List.mem_cons_of_mem _ member)

/-- Every packet of a queue is paid for. -/
theorem owed_acks {seqnos : List Nat} {signals : List Signal} (writer : BinlogWriter)
    (owed : History.Obeys (Signal.Owed lib) signals)
    (paid : ∀ seqno ≠ remoteLogDataBlockStart,
      signals.countP (Signal.acknowledges seqno) + seqnos.count seqno ≤
        signals.countP (Signal.carries lib seqno)) :
    History.Obeys (Signal.Owed lib)
      (((seqnos.map (writer.statusPacket · true)).map StatusPacket.signal).reverse ++ signals) := by
  induction seqnos generalizing signals with
  | nil => exact owed
  | cons seqno rest ih =>
      have told : Signal.Owed lib signals (.told seqno true) := by
        by_cases start : seqno = remoteLogDataBlockStart
        · exact .inl start
        · have credit := paid seqno start
          rw [List.count_cons_self] at credit
          exact .inr (by omega)
      have signal : StatusPacket.signal (writer.statusPacket seqno true) = .told seqno true := rfl
      rw [List.map_cons, List.map_cons, List.reverse_cons, List.append_assoc,
        List.singleton_append, signal]
      refine ih ⟨told, owed⟩ fun other ordinary => ?_
      have credit := paid other ordinary
      have carried : (Signal.told seqno true :: signals).countP (Signal.carries lib other) =
          signals.countP (Signal.carries lib other) :=
        List.countP_cons_of_neg Bool.false_ne_true
      rw [carried, List.countP_cons, Signal.acknowledges, Bool.true_and]
      simp only [List.count_cons, beq_iff_eq] at credit
      simp only [decide_eq_true_eq]
      omega

/-- The acknowledgements among packets. -/
theorem countP_told (packets : List StatusPacket) (seqno : Nat) :
    (packets.map StatusPacket.signal).countP (Signal.acknowledges seqno) =
      packets.countP fun packet => packet.ack && decide (packet.seqno = seqno) := by
  rw [List.countP_map]
  rfl

private theorem filterMap_told (packets : List StatusPacket) :
    (packets.map StatusPacket.signal).reverse.filterMap (Signal.block lib) = [] := by
  refine List.filterMap_eq_nil_iff.mpr fun signal member => ?_
  obtain ⟨packet, -, rfl⟩ := List.mem_map.mp (List.mem_reverse.mp member)
  rfl

private theorem carries_told (packets : List StatusPacket) (seqno : Nat) :
    (packets.map StatusPacket.signal).reverse.countP (Signal.carries lib seqno) = 0 := by
  refine List.countP_eq_zero.mpr fun signal member => ?_
  obtain ⟨packet, -, rfl⟩ := List.mem_map.mp (List.mem_reverse.mp member)
  exact Bool.false_ne_true

/-- What a tick acknowledges it owes no more. -/
theorem BinlogWriter.tick_settles (writer : BinlogWriter) (io : TickIo) {seqno : Nat}
    (ordinary : seqno ≠ remoteLogDataBlockStart) :
    ((writer.tick io).1.countP fun packet => packet.ack && decide (packet.seqno = seqno)) +
      (writer.tick io).2.pendingAcks.count seqno = writer.pendingAcks.count seqno := by
  have starting : ∀ packets : List StatusPacket,
      (∀ packet ∈ packets, packet.seqno = remoteLogDataBlockStart ∧ packet.ack = true) →
        (packets.countP fun packet => packet.ack && decide (packet.seqno = seqno)) = 0 := by
    intro packets starts
    refine List.countP_eq_zero.mpr fun packet member => ?_
    rw [(starts packet member).1, decide_eq_false (Ne.symm ordinary), Bool.and_false]
    exact Bool.false_ne_true
  cases streams : writer.streaming with
  | false =>
      obtain ⟨same, starts⟩ := tick_waiting streams io
      rw [starting _ starts, same.pending, Nat.zero_add]
  | true =>
      obtain ⟨starts, nacks, packets, areStarts, areNacks, asked⟩ := tick_streaming streams io
      have silent :
          (nacks.countP fun packet => packet.ack && decide (packet.seqno = seqno)) = 0 := by
        refine List.countP_eq_zero.mpr fun packet member => ?_
        rw [(areNacks packet member).1, Bool.false_and]
        exact Bool.false_ne_true
      have queue : ((writer.pendingAcks.map (writer.statusPacket · true)).countP fun packet =>
          packet.ack && decide (packet.seqno = seqno)) = writer.pendingAcks.count seqno := by
        rw [List.countP_map, List.count_eq_countP]
        refine List.countP_congr fun other _ => ?_
        simp only [Function.comp_apply, statusPacket, Bool.true_and, decide_eq_true_eq, beq_iff_eq]
      rw [packets, List.countP_append, List.countP_append, starting _ areStarts, silent, queue,
        asked.pending, List.count_nil]
      omega

private theorem BinlogFeed.Owes.tick {feed : BinlogFeed} (owes : feed.Owes lib) (io : TickIo) :
    ((BinlogStep.tick io).apply lib pair feed).Owes lib := by
  unfold BinlogStep.apply
  refine ⟨?_, fun seqno ordinary => ?_, fun seqno key => ?_⟩
  · dsimp only
    cases streams : feed.writer.streaming with
    | false =>
        obtain ⟨-, starts⟩ := tick_waiting streams io
        exact owed_told owes.owed fun packet member =>
          .inl ⟨(starts packet member).2, (starts packet member).1⟩
    | true =>
        obtain ⟨starts, nacks, packets, areStarts, areNacks, -⟩ := tick_streaming streams io
        have started := owed_told owes.owed fun packet member =>
          .inl ⟨(areStarts packet member).2, (areStarts packet member).1⟩
        have paid : ∀ seqno ≠ remoteLogDataBlockStart,
            ((starts.map StatusPacket.signal).reverse ++ feed.signals).countP
                (Signal.acknowledges seqno) + feed.writer.pendingAcks.count seqno ≤
              ((starts.map StatusPacket.signal).reverse ++ feed.signals).countP
                (Signal.carries lib seqno) := by
          intro seqno ordinary
          have none : starts.countP (fun packet =>
              packet.ack && decide (packet.seqno = seqno)) = 0 := by
            refine List.countP_eq_zero.mpr fun packet member => ?_
            rw [(areStarts packet member).1, decide_eq_false (Ne.symm ordinary), Bool.and_false]
            exact Bool.false_ne_true
          have before := owes.pending seqno ordinary
          rw [List.countP_append, List.countP_append, List.countP_reverse, countP_told, none,
            carries_told]
          omega
        have acknowledged := owed_acks feed.writer started paid
        have known : ∀ packet ∈ nacks, packet.ack = false ∧
            ∃ block ∈ (((feed.writer.pendingAcks.map (feed.writer.statusPacket · true)).map
              StatusPacket.signal).reverse ++ ((starts.map StatusPacket.signal).reverse ++
                feed.signals)).filterMap (Signal.block lib), packet.seqno < block.seqno := by
          intro packet member
          obtain ⟨nack, key⟩ := areNacks packet member
          rw [List.filterMap_append, List.filterMap_append, filterMap_told, filterMap_told,
            List.nil_append, List.nil_append]
          exact ⟨nack, owes.asked packet.seqno (survives key).1⟩
        have asked := owed_told acknowledged fun packet member => .inr (known packet member)
        rw [packets, List.map_append, List.map_append, List.reverse_append, List.reverse_append,
          List.append_assoc, List.append_assoc]
        exact asked
  · have before := owes.pending seqno ordinary
    have paid := tick_settles feed.writer io ordinary
    dsimp only
    rw [List.countP_append, List.countP_append, List.countP_reverse, countP_told, carries_told]
    omega
  · dsimp only at key ⊢
    rw [List.filterMap_append, filterMap_told, List.nil_append]
    refine owes.asked seqno ?_
    cases streams : feed.writer.streaming with
    | false =>
        obtain ⟨same, -⟩ := tick_waiting streams io
        rwa [same.nacks] at key
    | true =>
        obtain ⟨_, _, _, _, _, asked⟩ := tick_streaming streams io
        rw [asked.isSome] at key
        exact (survives key).1

private theorem owes_replay (fcSysid : UInt8) (steps : List BinlogStep) :
    (History.replay (BinlogStep.apply lib pair) ⟨BinlogWriter.initial fcSysid, []⟩ steps).Owes
      lib := by
  induction steps with
  | nil =>
      refine ⟨trivial, fun seqno _ => Nat.le_refl _, fun seqno key => ?_⟩
      cases key
  | cons step before ih =>
      rw [History.replay_cons]
      cases step with
      | message msg nextN io => exact ih.message msg nextN io
      | tick io => exact ih.tick io

end Owing

/-! ## What is in the file -/

/-- The block a call hands to the writer. -/
def WriterCall.block : WriterCall → Option DataBlock
  | .handleBlock _ _ _ _ _ block => some block
  | _ => none

private theorem Capture.settle_written {block written : DataBlock} {capture : Capture}
    {outcome : BlockResult × BinlogWriter}
    (member : written ∈ (Capture.settle block capture outcome).written) :
    written = block ∨ written ∈ capture.written := by
  obtain ⟨result, writer⟩ := outcome
  cases result with
  | stored => exact List.mem_cons.mp member
  | shortWrite => exact List.mem_cons.mp member
  | _ => exact .inr member

/-- Only what was handed to the writer is written. -/
theorem Capture.written_handed {fcSysid : UInt8} {calls : List WriterCall} {block : DataBlock}
    (member : block ∈ (Capture.after fcSysid calls).written) :
    block ∈ calls.filterMap WriterCall.block := by
  induction calls with
  | nil => exact (List.not_mem_nil member).elim
  | cons call before ih =>
      rw [Capture.after, History.replay_cons] at member
      rw [Capture.after] at ih
      generalize History.replay Capture.apply
        (Capture.fresh (BinlogWriter.initial fcSysid)) before = capture at ih member
      cases call with
      | handleBlock port2 sessionN io sysid compid handed =>
          have own : WriterCall.block (.handleBlock port2 sessionN io sysid compid handed) =
              some handed := rfl
          rw [List.filterMap_cons_some own]
          rcases Capture.settle_written member with rfl | earlier
          · exact List.mem_cons_self
          · exact List.mem_cons_of_mem _ (ih earlier)
      | observe nextN msg timeBootMs =>
          rw [Capture.apply] at member
          split_ifs at member
          · exact ih member
          · exact (List.not_mem_nil member).elim
      | tick io => exact ih member

section Files

variable {P : Type} {lib : Library P} {pair : PortPair}

/-- A step does to the writer what its calls do. -/
theorem BinlogStep.calls_writer (step : BinlogStep) {feed : BinlogFeed} {capture : Capture}
    (same : capture.writer = feed.writer) :
    (History.replay Capture.apply capture (step.calls lib pair)).writer =
      (step.apply lib pair feed).writer := by
  cases step with
  | message msg nextN io =>
      have observed := Capture.apply_observe_writer capture nextN msg (lib.timeBootMs msg)
      rw [same] at observed
      unfold BinlogStep.calls BinlogStep.apply tap
      dsimp only
      by_cases isBlock : msg.msgid = Message.remoteLogDataBlock
      · rw [if_pos isBlock, if_pos isBlock, List.singleton_append, History.replay_cons,
          History.replay_cons, History.replay_nil, Capture.apply, Capture.settle_writer, observed]
      · rw [if_neg isBlock, if_neg isBlock, List.nil_append, History.replay_cons,
          History.replay_nil, observed]
  | tick io =>
      unfold BinlogStep.calls BinlogStep.apply
      dsimp only
      rw [← same]
      rfl

private theorem BinlogStep.calls_blocks (step : BinlogStep) (feed : BinlogFeed) :
    (step.apply lib pair feed).signals.filterMap (Signal.block lib) =
      (step.calls lib pair).filterMap WriterCall.block ++
        feed.signals.filterMap (Signal.block lib) := by
  cases step with
  | message msg nextN io =>
      unfold BinlogStep.calls BinlogStep.apply
      dsimp only
      by_cases isBlock : msg.msgid = Message.remoteLogDataBlock
      · rw [if_pos isBlock, List.filterMap_cons_some (Signal.block_data isBlock)]
        rfl
      · have none : Signal.block lib (.heard msg) = none := if_neg isBlock
        rw [if_neg isBlock, List.filterMap_cons_none none]
        rfl
  | tick io =>
      unfold BinlogStep.calls BinlogStep.apply
      dsimp only
      rw [List.filterMap_append, filterMap_told]
      rfl

/-- The steps of a session as calls on its writer. -/
theorem replay_calls (fcSysid : UInt8) (steps : List BinlogStep) :
    let feed := History.replay (BinlogStep.apply lib pair) ⟨BinlogWriter.initial fcSysid, []⟩ steps
    let calls := steps.flatMap (BinlogStep.calls lib pair)
    (Capture.after fcSysid calls).writer = feed.writer ∧
      calls.filterMap WriterCall.block = feed.signals.filterMap (Signal.block lib) := by
  induction steps with
  | nil => exact ⟨rfl, rfl⟩
  | cons step before ih =>
      obtain ⟨writer, blocks⟩ := ih
      dsimp only
      rw [List.flatMap_cons, History.replay_cons, List.filterMap_append, BinlogStep.calls_blocks,
        blocks]
      refine ⟨?_, rfl⟩
      rw [← BinlogStep.calls_writer step writer]
      exact congrArg Capture.writer List.foldr_append

variable {env : Environment} {memory : Nat → Option Nat} {record : Option KeyEntry}
  {sockets : Option Nat × Option Nat × Option Nat × Option Nat}

/-- The writer of a session after the calls that its history shows. -/
theorem session_calls (enabled : pair.binlogEnabled = true) (wakes : List Wakeup) :
    ∃ calls, (Capture.after pair.fcSysid calls).writer =
        (run lib env pair wakes (LoopState.initial lib pair memory record sockets)).2.binlog ∧
      calls.filterMap WriterCall.block = ((run lib env pair wakes
        (LoopState.initial lib pair memory record sockets)).2.mav.log.filterMap
          Event.signal).filterMap (Signal.block lib) := by
  obtain ⟨steps, fed⟩ : ∃ steps, (run lib env pair wakes
      (LoopState.initial lib pair memory record sockets)).2.feed = History.replay
        (BinlogStep.apply lib pair) ⟨BinlogWriter.initial pair.fcSysid, []⟩ steps :=
    session_fed enabled wakes
  have replayed := @replay_calls P lib pair pair.fcSysid steps
  dsimp only at replayed
  rw [← fed] at replayed
  exact ⟨steps.flatMap (BinlogStep.calls lib pair), replayed⟩

/-- **What a session acknowledges it was sent.** In every session with a binlog, an
acknowledgement goes out only when the block has come in from the user once more than it was
acknowledged before, and a block is asked for only when a later one has come in. -/
theorem run_acknowledgements (enabled : pair.binlogEnabled = true) (wakes : List Wakeup) :
    History.Obeys (Signal.Owed lib) ((run lib env pair wakes
      (LoopState.initial lib pair memory record sockets)).2.mav.log.filterMap Event.signal) := by
  obtain ⟨steps, fed⟩ : ∃ steps, (run lib env pair wakes
      (LoopState.initial lib pair memory record sockets)).2.feed = History.replay
        (BinlogStep.apply lib pair) ⟨BinlogWriter.initial pair.fcSysid, []⟩ steps :=
    session_fed enabled wakes
  have owes : ((run lib env pair wakes
      (LoopState.initial lib pair memory record sockets)).2.feed).Owes lib := by
    rw [fed]
    exact owes_replay pair.fcSysid steps
  exact owes.owed

end Files

namespace Scenario

def loggingPair : PortPair := { pair with bidi := false, binlogEnabled := true }

/-- Blocks 0 and 2 of a log. -/
def firstBlockFrame : List UInt8 :=
  [253, 7, 0, 0, 0, 1, 1, 184, 0, 0, 0, 0, 0, 0, 255, 190, 7, 181, 4]

def thirdBlockFrame : List UInt8 :=
  [253, 7, 0, 0, 2, 1, 1, 184, 0, 0, 2, 0, 0, 0, 255, 190, 9, 30, 104]

/-- Block 1 is lost on the way. -/
def uploading : List Wakeup :=
  [userDatagram firstBlockFrame,
    { userDatagram thirdBlockFrame with tickIo := ⟨1, true, fun _ => true, [1]⟩ }]

def uploaded : LoopState (List UInt8) :=
  sessionIn environment loggingPair authentic none uploading

/-- A log with the two blocks. -/
def uploadedLog (seqno : Nat) : Vector UInt8 200 :=
  ((library authentic).dataBlock
    (Framing.decode (if seqno = 0 then firstBlockFrame else thirdBlockFrame))).data

private theorem uploaded_signals :
    uploaded.mav.log.filterMap Event.signal =
      [.told 1 false, .told 2 true, .heard (Framing.decode thirdBlockFrame), .told 0 true,
        .heard (Framing.decode firstBlockFrame)] := by decide +kernel

end Scenario

/-- Block 1 is lost: the other two are acknowledged, and it is asked for. -/
theorem run_acknowledgements_gap :
    History.Obeys (Signal.Owed (Scenario.library Scenario.authentic))
      [.told 1 false, .told 2 true, .heard (Framing.decode Scenario.thirdBlockFrame),
        .told 0 true, .heard (Framing.decode Scenario.firstBlockFrame)] := by
  rw [← Scenario.uploaded_signals]
  unfold Scenario.uploaded Scenario.sessionIn
  exact run_acknowledgements rfl Scenario.uploading

section Files

variable {P : Type} {lib : Library P} {pair : PortPair} {env : Environment}
  {memory : Nat → Option Nat} {record : Option KeyEntry}
  {sockets : Option Nat × Option Nat × Option Nat × Option Nat}

/-- **The `.bin` file of a session is the log that its user sent.** The writer has run on what the
history shows as accepted from the user. When the blocks that came in are those of one log, the
file holds every block that is marked at its place, and each of these came in; it has zeros where
no block came in; and it begins with the log as far as the blocks are marked. -/
theorem run_binlogFile (enabled : pair.binlogEnabled = true) (wakes : List Wakeup)
    {source : Nat → Vector UInt8 200} {file : SessionFile}
    (streams : Capture.Streams source (((run lib env pair wakes
      (LoopState.initial lib pair memory record sockets)).2.mav.log.filterMap
        Event.signal).filterMap (Signal.block lib)))
    (isOpen : (run lib env pair wakes
      (LoopState.initial lib pair memory record sockets)).2.binlog.fp = some file) :
    let session := (run lib env pair wakes
      (LoopState.initial lib pair memory record sockets)).2
    let blocks := (session.mav.log.filterMap Event.signal).filterMap (Signal.block lib)
    (∃ steps, session.feed = History.replay (BinlogStep.apply lib pair)
      ⟨BinlogWriter.initial pair.fcSysid, []⟩ steps) ∧
    (∀ seqno, session.binlog.seqnoSeen seqno = true →
      (∃ block ∈ blocks, block.seqno = seqno) ∧
        file.bytes.read (seqno * blockBytes) blockBytes = (source seqno).toList) ∧
    (∀ seqno, (∀ block ∈ blocks, block.seqno ≠ seqno) →
      file.bytes.read (seqno * blockBytes) blockBytes = List.replicate blockBytes 0) ∧
    ∀ count, (∀ seqno < count, session.binlog.seqnoSeen seqno = true) →
      file.bytes.read 0 (count * blockBytes) =
        (List.range count).flatMap fun seqno => (source seqno).toList := by
  intro session blocks
  obtain ⟨calls, sameWriter, sameBlocks⟩ : ∃ calls,
      (Capture.after pair.fcSysid calls).writer = session.binlog ∧
        calls.filterMap WriterCall.block = blocks := session_calls enabled wakes
  have received : ∀ block ∈ (Capture.after pair.fcSysid calls).written, block ∈ blocks := by
    intro block member
    rw [← sameBlocks]
    exact Capture.written_handed member
  have lengths : ∀ seqno, (source seqno).toList.length = blockBytes := fun _ => Vector.length_toList
  have marked := Capture.marked_rules.after (Capture.admits_any pair.fcSysid calls)
  have opened : (Capture.after pair.fcSysid calls).writer.fp = some file := by
    rw [sameWriter]
    exact isOpen
  obtain ⟨held, assembles, whole, known⟩ := Capture.assembled_after source pair.fcSysid calls
    (fun block member => streams block (received block member)) file opened
  have complete : ∀ seqno, session.binlog.seqnoSeen seqno = true →
      held seqno = blockBytes := by
    intro seqno seen
    rw [← sameWriter] at seen
    obtain ⟨block, member, rfl⟩ := (marked.seen seqno).mp seen
    exact whole block member
  have arrived : ∀ seqno, 0 < held seqno → ∃ block ∈ blocks, block.seqno = seqno := by
    intro seqno positive
    obtain ⟨block, member, same⟩ := known seqno positive
    exact ⟨block, received block member, same⟩
  refine ⟨session_fed enabled wakes, fun seqno seen => ⟨?_, ?_⟩, fun seqno absent => ?_,
    fun count all => ?_⟩
  · refine arrived seqno ?_
    rw [complete seqno seen]
    exact Nat.succ_pos _
  · exact assembles.read_block (lengths seqno) (complete seqno seen)
  · refine assembles.read_hole (Nat.eq_zero_of_not_pos fun positive => ?_)
    obtain ⟨block, member, same⟩ := arrived seqno positive
    exact absent block member same
  · exact assembles.read_blocks lengths fun seqno below => complete seqno (all seqno below)

end Files

/-- Block 1 is lost, and the file has a hole in its place. -/
theorem run_binlogFile_gap :
    ∃ file, Scenario.uploaded.binlog.fp = some file ∧
      file.bytes.read (0 * blockBytes) blockBytes = (Scenario.uploadedLog 0).toList ∧
      file.bytes.read (1 * blockBytes) blockBytes = List.replicate blockBytes 0 := by
  have opened : Scenario.uploaded.binlog.fp.isSome = true := by decide +kernel
  have seen : Scenario.uploaded.binlog.seqnoSeen 0 = true := by decide +kernel
  have blocks : (Scenario.uploaded.mav.log.filterMap Event.signal).filterMap
      (Signal.block (Scenario.library Scenario.authentic)) =
        [(Scenario.library Scenario.authentic).dataBlock (Framing.decode Scenario.thirdBlockFrame),
          (Scenario.library Scenario.authentic).dataBlock
            (Framing.decode Scenario.firstBlockFrame)] := by
    rw [Scenario.uploaded_signals]
    rfl
  have lost : ∀ block ∈ (Scenario.uploaded.mav.log.filterMap Event.signal).filterMap
      (Signal.block (Scenario.library Scenario.authentic)), block.seqno ≠ 1 := by
    rw [blocks]
    decide +kernel
  have streams : Capture.Streams Scenario.uploadedLog
      ((Scenario.uploaded.mav.log.filterMap Event.signal).filterMap
        (Signal.block (Scenario.library Scenario.authentic))) := by
    rw [blocks]
    intro block member
    rcases List.mem_pair.mp member with rfl | rfl
    · rfl
    · rfl
  obtain ⟨file, isOpen⟩ := Option.isSome_iff_exists.mp opened
  refine ⟨file, isOpen, ?_⟩
  unfold Scenario.uploaded Scenario.sessionIn at *
  obtain ⟨-, whole, holes, -⟩ := run_binlogFile rfl Scenario.uploading streams isOpen
  exact ⟨(whole 0 seen).2, holes 1 lost⟩

end SupportProxy
