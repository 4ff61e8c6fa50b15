import SupportProxy.Logs.Freshness

/-! # What a child writes and acknowledges

The lists of a `LogChild` change with a block, a tick and a rotation. A property of
children that survives these holds for every child of a history. -/

namespace SupportProxy

namespace BinlogWriter

/-- The writers have the same target and the same acknowledgements to send. -/
structure SameQueue (writer next : BinlogWriter) : Prop where
  latched : next.anyBlockSeen = writer.anyBlockSeen
  target : next.target = writer.target
  pending : next.pendingAcks = writer.pendingAcks

/-- The target is latched, on this source if it was not before. -/
structure Latched (source : UInt8 × UInt8) (writer next : BinlogWriter) : Prop where
  seen : next.anyBlockSeen = true
  target : next.target = if writer.anyBlockSeen then writer.target else source

private theorem sendNacks_target (io : TickIo) (order : List Nat) (budget : Nat)
    (writer : BinlogWriter) :
    ∀ packet ∈ (sendNacks io order budget writer).1,
      (packet.targetSystem, packet.targetComponent) = writer.target := by
  induction order generalizing budget writer with
  | nil => simp [sendNacks]
  | cons seqno rest ih =>
      rw [sendNacks]
      by_cases spent : budget = 0
      · rw [if_pos spent]
        simp
      rw [if_neg spent]
      cases writer.nackState seqno with
      | none => exact ih budget writer
      | some state =>
          dsimp only
          by_cases recent : state.lastSent ≠ 0 ∧ io.now < state.lastSent + nackRepeat
          · rw [if_pos recent]
            exact ih budget writer
          rw [if_neg recent]
          by_cases sends : io.nackSends seqno = true
          · rw [if_pos sends]
            exact List.forall_mem_cons.mpr ⟨rfl, ih (budget - 1) _⟩
          · rw [if_neg sends]
            exact List.forall_mem_cons.mpr ⟨rfl, ih budget writer⟩

private theorem sendStart_target (writer : BinlogWriter) (io : TickIo) (interval : Nat) :
    ∀ packet ∈ (writer.sendStart io interval).1,
      (packet.targetSystem, packet.targetComponent) = writer.target := by
  rw [sendStart]
  split_ifs
  · exact List.forall_mem_singleton.mpr rfl
  · exact List.forall_mem_singleton.mpr rfl
  · simp

/-- Every packet goes to the latched vehicle. -/
theorem tick_target (writer : BinlogWriter) (io : TickIo) :
    ∀ packet ∈ (writer.tick io).1,
      (packet.targetSystem, packet.targetComponent) = writer.target := by
  rw [tick]
  by_cases unlatched : (!writer.anyBlockSeen) = true
  · rw [if_pos unlatched]
    exact sendStart_target writer io startRepeat
  rw [if_neg unlatched]
  have starts := sendStart_target writer io startKeepalive
  have same := (sendStart_same writer io startKeepalive).1.target
  generalize writer.sendStart io startKeepalive = sent at starts same ⊢
  obtain ⟨packets, next⟩ := sent
  dsimp only at starts same ⊢
  by_cases closed : next.fp.isNone = true
  · rw [if_pos closed]
    exact starts
  rw [if_neg closed]
  have nacks := sendNacks_target io io.order maxNacksPerTick
    (({ next with pendingAcks := [] }).dropStaleNackState io.now)
  intro packet member
  rcases List.mem_append.mp member with front | nack
  · rcases List.mem_append.mp front with start | ack
    · exact starts packet start
    · obtain ⟨seqno, -, rfl⟩ := List.mem_map.mp ack
      exact same
  · exact (nacks packet nack).trans same

/-- A tick acknowledges what is queued, once a vehicle is latched. -/
theorem tick_acks (writer : BinlogWriter) (io : TickIo) :
    (∀ packet ∈ (writer.tick io).1, packet.seqno ≠ remoteLogDataBlockStart →
      writer.anyBlockSeen = true ∧ (packet.ack = true → packet.seqno ∈ writer.pendingAcks)) ∧
      (writer.tick io).2.pendingAcks ⊆ writer.pendingAcks := by
  cases streams : writer.streaming with
  | false =>
      obtain ⟨same, starts⟩ := tick_waiting streams io
      exact ⟨fun packet member other => (other (starts packet member).1).elim,
        fun seqno member => same.pending ▸ member⟩
  | true =>
      obtain ⟨starts, nacks, packets, areStarts, areNacks, asked⟩ := tick_streaming streams io
      rw [streaming, Bool.and_eq_true] at streams
      refine ⟨fun packet member other => ⟨streams.1, fun isAck => ?_⟩, ?_⟩
      · rw [packets, List.mem_append, List.mem_append] at member
        rcases member with (start | ack) | nack
        · exact (other (areStarts packet start).1).elim
        · obtain ⟨seqno, queued, rfl⟩ := List.mem_map.mp ack
          exact queued
        · cases isAck.symm.trans (areNacks packet nack).1
      · rw [asked.pending]
        exact List.nil_subset _

end BinlogWriter

open BinlogWriter

def LogEntry.source (entry : LogEntry) : UInt8 × UInt8 := (entry.sysid, entry.compid)

namespace LogChild

/-- The gate lets the block through. -/
def Passes (child : LogChild) (entry : LogEntry) : Prop :=
  child.writer.fp.isSome = true ∨ entry.block.seqno = 0

/-- What becomes of a block. -/
inductive Outcome (child : LogChild) (entry : LogEntry) : LogChild → Prop
  | turnedAway : Outcome child entry child
  | dropped {writer : BinlogWriter} (passes : child.Passes entry)
      (pending : writer.pendingAcks = child.writer.pendingAcks)
      (latch : SameQueue child.writer writer ∨ Latched entry.source child.writer writer) :
      Outcome child entry { child with writer := writer }
  | cut {writer : BinlogWriter} (passes : child.Passes entry)
      (pending : writer.pendingAcks = child.writer.pendingAcks)
      (latched : Latched entry.source child.writer writer) :
      Outcome child entry { child with writer := writer, written := entry :: child.written }
  | kept {writer : BinlogWriter} (passes : child.Passes entry)
      (pending : writer.pendingAcks = child.writer.pendingAcks ++ [entry.block.seqno])
      (latched : Latched entry.source child.writer writer) :
      Outcome child entry { child with
        writer := writer
        written := entry :: child.written
        stored := entry :: child.stored }

private theorem settle_outcome (child : LogChild) (entry : LogEntry) (port2 sessionN : Nat)
    (io : BlockIo) :
    Outcome child entry (child.settle entry
      (child.writer.handleBlock port2 sessionN io entry.sysid entry.compid entry.block)) := by
  rw [handleBlock]
  cases opens : child.writer.ensureOpen port2 sessionN io entry.block.seqno with
  | error result =>
      obtain rfl | rfl := ensureOpen_error opens
      · exact .turnedAway
      · exact .turnedAway
  | ok opened =>
      have passes : child.Passes entry := by
        rcases ensureOpen_opened opens with ⟨isOpen, -⟩ | ⟨-, first, -, -⟩
        · exact .inl isOpen
        · exact .inr first
      have same : SameQueue child.writer opened := by
        rcases ensureOpen_opened opens with ⟨-, rfl⟩ | ⟨-, -, -, rfl⟩
        · exact ⟨rfl, rfl, rfl⟩
        · exact ⟨rfl, rfl, rfl⟩
      have latches := latchTarget_eq opened entry.sysid entry.compid
      have queued :=
        (latchTarget_sameLog opened entry.sysid entry.compid).pending.trans same.pending
      have latched : Latched entry.source child.writer
          (opened.latchTarget entry.sysid entry.compid) := by
        refine ⟨latches.1, ?_⟩
        rw [latches.2.2.2.2, same.latched, same.target]
        rfl
      dsimp only
      rcases acceptBlock_cases opened io entry.sysid entry.compid entry.block with
        ⟨-, result | result⟩ | ⟨-, ⟨-, result⟩ | ⟨-, -, result⟩ | ⟨-, -, result⟩⟩
      · rw [result]
        exact .dropped passes same.pending (.inl same)
      · rw [result]
        exact .dropped passes same.pending (.inl same)
      · rw [result]
        exact .dropped passes queued (.inr latched)
      · rw [result]
        exact .cut passes queued ⟨latched.seen, latched.target⟩
      · rw [result]
        have file := recordBlock_sameFile ((opened.latchTarget entry.sysid entry.compid).writeBlock
          (entry.block.seqno * blockBytes) io.wrote entry.block.data) io entry.block.seqno
        have recorded := recordBlock_recorded ((opened.latchTarget entry.sysid
          entry.compid).writeBlock (entry.block.seqno * blockBytes) io.wrote entry.block.data) io
          entry.block.seqno
        exact .kept passes (recorded.pending.trans (congrArg (· ++ [_]) queued))
          ⟨file.latched.trans latched.seen, file.target.trans latched.target⟩

/-- The child after a tick. -/
def ticked (io : TickIo) (child : LogChild) : LogChild :=
  { child with
    writer := (child.writer.tick io).2
    packets := (child.writer.tick io).1.filter
      (fun packet => packet.seqno ≠ remoteLogDataBlockStart) ++ child.packets }

/-- The children agree but for the `.tlog` file and the watermark. -/
structure SameLists (child next : LogChild) : Prop where
  queue : SameQueue child.writer next.writer
  floor : next.floor = child.floor
  written : next.written = child.written
  stored : next.stored = child.stored
  packets : next.packets = child.packets

/-- What a property of children has to survive, where blocks are admitted by a guard. -/
structure Rules (admits : LogChild → LogEntry → Prop) (holds : LogChild → Prop) : Prop where
  initial : ∀ sessionN fcSysid, holds (initial sessionN fcSysid)
  same : ∀ child next, holds child → SameLists child next → holds next
  block : ∀ child entry next, holds child → admits child entry → Outcome child entry next →
    holds next
  rotates : ∀ child boot writer, holds child → writer.pendingAcks = [] →
    writer.anyBlockSeen = child.writer.anyBlockSeen → writer.target = child.writer.target →
      holds (child.rotated boot writer)
  ticks : ∀ child io, holds child → holds (child.ticked io)

end LogChild

namespace LogStore

/-- The blocks of a history are admitted by the child they come to. -/
def Admits (admits : LogChild → LogEntry → Prop) (store : LogStore) : LogEvent → Prop
  | .block _ entry => ∀ child, store.child = some child → admits child entry
  | _ => True

open LogChild in
/-- The property holds for every child of a history whose blocks are admitted. -/
theorem rules_after {admits : LogChild → LogEntry → Prop} {holds : LogChild → Prop}
    (rules : Rules admits holds) {port2 date : Nat} {history : List LogEvent}
    (admitted : History.Guarded apply (LogStore.initial port2 date) (Admits admits) history) :
    ∀ child, (after port2 date history).child = some child → holds child := by
  let Held : LogStore → Prop := fun store => ∀ child, store.child = some child → holds child
  suffices every : Held (after port2 date history) from every
  have start : Held (LogStore.initial port2 date) := fun child isChild => by cases isChild
  refine admitted.invariant start fun store event before admits next isNext => ?_
  rw [apply.eq_def] at isNext
  cases isChild : store.child with
  | none =>
      rw [isChild] at isNext
      cases event with
      | fork listed fcSysid =>
          obtain rfl := Option.some.inj isNext
          exact rules.initial _ _
      | exit => cases isNext
      | midnight days => cases isNext
      | unlinkBin path => cases isNext
      | unlinkTlog path => cases isNext
      | openTlog opens => cases isChild.symm.trans isNext
      | block io entry => cases isChild.symm.trans isNext
      | observe listed boot msg timeBootMs => cases isChild.symm.trans isNext
      | tick io => cases isChild.symm.trans isNext
  | some child =>
      have now := before child isChild
      rw [isChild] at isNext
      cases event with
      | exit => cases isNext
      | midnight days =>
          obtain rfl := Option.some.inj isNext
          exact now
      | unlinkBin path =>
          obtain rfl := Option.some.inj isNext
          exact now
      | unlinkTlog path =>
          obtain rfl := Option.some.inj isNext
          exact now
      | fork listed fcSysid => exact before next isNext
      | openTlog opens =>
          dsimp only at isNext
          rw [childStep] at isNext
          split_ifs at isNext
          · obtain rfl := Option.some.inj isNext
            exact rules.same child _ now ⟨⟨rfl, rfl, rfl⟩, rfl, rfl, rfl, rfl⟩
          · exact before next isNext
      | block io entry =>
          obtain rfl := Option.some.inj isNext
          exact rules.block child entry _ now (admits child isChild) (settle_outcome ..)
      | observe listed boot msg timeBootMs =>
          dsimp only at isNext
          rcases store.childStep_observe child listed boot msg timeBootMs with
            ⟨file, -, rotated⟩ | ⟨mark, marked⟩
          · rw [rotated] at isNext
            obtain rfl := Option.some.inj isNext
            exact rules.rotates child boot _ now rfl rfl rfl
          · rw [marked] at isNext
            obtain rfl := Option.some.inj isNext
            exact rules.same child _ now ⟨⟨rfl, rfl, rfl⟩, rfl, rfl, rfl, rfl⟩
      | tick io =>
          obtain rfl := Option.some.inj isNext
          exact rules.ticks child io now

end LogStore

end SupportProxy
