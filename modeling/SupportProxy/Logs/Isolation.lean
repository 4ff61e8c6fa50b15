import SupportProxy.Logs.Children

/-! # One file, one boot, one vehicle

A block says neither which boot it is of nor, once the target is latched, which
vehicle it came from. A file holds the blocks of one boot of one vehicle where no
other block passes the gate. -/

namespace SupportProxy

namespace LogChild

open BinlogWriter

/-- What is acknowledged was stored in the open file. -/
structure Acked (child : LogChild) : Prop where
  stored : child.stored ⊆ child.written
  pending : ∀ seqno ∈ child.writer.pendingAcks, ∃ entry ∈ child.stored, entry.block.seqno = seqno
  acks : ∀ packet ∈ child.packets, packet.ack = true →
    ∃ entry ∈ child.stored, entry.block.seqno = packet.seqno

private theorem mem_ticked_packets {child : LogChild} {io : TickIo} {packet : StatusPacket}
    (member : packet ∈ (child.ticked io).packets) :
    packet ∈ child.packets ∨ packet ∈ (child.writer.tick io).1 ∧
      packet.seqno ≠ remoteLogDataBlockStart := by
  rcases List.mem_append.mp member with new | before
  · obtain ⟨sent, other⟩ := List.mem_filter.mp new
    exact .inr ⟨sent, of_decide_eq_true other⟩
  · exact .inl before

private theorem acked_rules : Rules (fun _ _ => True) Acked where
  initial := fun _ _ =>
    ⟨List.Subset.refl _, fun _ member => (by cases member), fun _ member => by cases member⟩
  same := by
    intro child next acked same
    refine ⟨?_, ?_, ?_⟩
    · rw [same.stored, same.written]
      exact acked.stored
    · rw [same.queue.pending, same.stored]
      exact acked.pending
    · rw [same.packets, same.stored]
      exact acked.acks
  block := by
    intro child entry next acked _ outcome
    cases outcome with
    | turnedAway => exact acked
    | dropped passes pending latch =>
        exact ⟨acked.stored, fun seqno queued => acked.pending seqno (pending ▸ queued), acked.acks⟩
    | cut passes pending latched =>
        exact ⟨fun _ member => List.mem_cons_of_mem _ (acked.stored member),
          fun seqno queued => acked.pending seqno (pending ▸ queued), acked.acks⟩
    | kept passes pending latched =>
        refine ⟨List.cons_subset_cons _ acked.stored, fun seqno queued => ?_, ?_⟩
        · dsimp only at queued
          rw [pending] at queued
          rcases List.mem_append.mp queued with before | new
          · obtain ⟨found, member, same⟩ := acked.pending seqno before
            exact ⟨found, List.mem_cons_of_mem _ member, same⟩
          · exact ⟨entry, List.mem_cons_self, (List.mem_singleton.mp new).symm⟩
        · intro packet member isAck
          obtain ⟨found, stored, same⟩ := acked.acks packet member isAck
          exact ⟨found, List.mem_cons_of_mem _ stored, same⟩
  rotates := by
    intro child boot writer _ pending _ _
    refine ⟨List.Subset.refl _, ?_, fun _ member => by cases member⟩
    rw [rotated, pending]
    exact fun _ member => by cases member
  ticks := by
    intro child io acked
    obtain ⟨acks, fewer⟩ := tick_acks child.writer io
    refine ⟨acked.stored, fun seqno queued => acked.pending seqno (fewer queued), ?_⟩
    intro packet member isAck
    rcases mem_ticked_packets member with before | ⟨sent, other⟩
    · exact acked.acks packet before isAck
    · exact acked.pending _ ((acks packet sent other).2 isAck)

/-- A block sent before the reboot that closed the last file does not pass the gate. -/
def HoldsBack (child : LogChild) (entry : LogEntry) : Prop :=
  entry.boot < child.floor → ¬child.Passes entry

/-- The open file holds blocks sent since the last detected reboot. -/
def SinceReboot (child : LogChild) : Prop := ∀ entry ∈ child.written, child.floor ≤ entry.boot

private theorem sinceReboot_rules : Rules HoldsBack SinceReboot where
  initial := fun _ _ _ member => by cases member
  same := fun child next since same => by
    rw [SinceReboot, same.written, same.floor]
    exact since
  block := by
    intro child entry next since held outcome
    have fresh : child.Passes entry → child.floor ≤ entry.boot := fun passes =>
      Nat.not_lt.mp fun early => held early passes
    cases outcome with
    | turnedAway => exact since
    | dropped passes pending latch => exact since
    | cut passes pending latched => exact List.forall_mem_cons.mpr ⟨fresh passes, since⟩
    | kept passes pending latched => exact List.forall_mem_cons.mpr ⟨fresh passes, since⟩
  rotates := fun _ _ _ _ _ _ _ _ member => by cases member
  ticks := fun _ _ since => since

/-- Once a vehicle is latched, a block of another source does not pass the gate. -/
def OneSource (child : LogChild) (entry : LogEntry) : Prop :=
  child.writer.anyBlockSeen = true → child.Passes entry → entry.source = child.writer.target

/-- The open file is about the latched vehicle. -/
structure OneVehicle (child : LogChild) : Prop where
  latched : child.written ≠ [] ∨ child.packets ≠ [] → child.writer.anyBlockSeen = true
  written : ∀ entry ∈ child.written, entry.source = child.writer.target
  packets : ∀ packet ∈ child.packets,
    (packet.targetSystem, packet.targetComponent) = child.writer.target

/-- A latch keeps what is about the latched vehicle, and takes the block's source. -/
theorem OneVehicle.latch {child : LogChild} (one : OneVehicle child) {entry : LogEntry}
    {writer : BinlogWriter} (latch : Latched entry.source child.writer writer)
    (admitted : OneSource child entry) (passes : child.Passes entry) :
    OneVehicle { child with writer := writer } ∧ entry.source = writer.target := by
  obtain ⟨seen, target⟩ := latch
  cases before : child.writer.anyBlockSeen with
  | true =>
      rw [before, if_pos rfl] at target
      exact ⟨⟨fun _ => seen, fun other member => (one.written other member).trans target.symm,
        fun packet member => (one.packets packet member).trans target.symm⟩,
        (admitted before passes).trans target.symm⟩
  | false =>
      rw [before, if_neg Bool.false_ne_true] at target
      have unwritten : child.written = [] := by
        by_contra some
        exact Bool.false_ne_true (before.symm.trans (one.latched (.inl some)))
      have unsent : child.packets = [] := by
        by_contra some
        exact Bool.false_ne_true (before.symm.trans (one.latched (.inr some)))
      refine ⟨⟨fun _ => seen, ?_, ?_⟩, target.symm⟩
      · rw [unwritten]
        simp
      · rw [unsent]
        simp

private theorem oneVehicle_rules : Rules OneSource OneVehicle where
  initial := fun _ _ =>
    ⟨fun some => some.elim (absurd rfl) (absurd rfl), fun _ member => (by cases member),
      fun _ member => by cases member⟩
  same := by
    intro child next one same
    refine ⟨?_, ?_, ?_⟩
    · rw [same.written, same.packets, same.queue.latched]
      exact one.latched
    · rw [same.written, same.queue.target]
      exact one.written
    · rw [same.packets, same.queue.target]
      exact one.packets
  block := by
    intro child entry next one admitted outcome
    cases outcome with
    | turnedAway => exact one
    | dropped passes pending latch =>
        rcases latch with same | latched
        · exact ⟨fun some => same.latched.trans (one.latched some),
            fun other member => (one.written other member).trans same.target.symm,
            fun packet member => (one.packets packet member).trans same.target.symm⟩
        · exact (one.latch latched admitted passes).1
    | cut passes pending latched =>
        obtain ⟨kept, source⟩ := one.latch latched admitted passes
        exact ⟨fun _ => latched.seen, List.forall_mem_cons.mpr ⟨source, kept.written⟩, kept.packets⟩
    | kept passes pending latched =>
        obtain ⟨kept, source⟩ := one.latch latched admitted passes
        exact ⟨fun _ => latched.seen, List.forall_mem_cons.mpr ⟨source, kept.written⟩, kept.packets⟩
  rotates := fun _ _ _ _ _ _ _ =>
    ⟨fun some => some.elim (absurd rfl) (absurd rfl), fun _ member => (by cases member),
      fun _ member => by cases member⟩
  ticks := by
    intro child io one
    have same := (tick_same child.writer io).1
    refine ⟨fun some => ?_, fun other member => (one.written other member).trans same.target.symm,
      fun packet member => ?_⟩
    · refine same.latched.trans ?_
      by_cases before : child.written ≠ [] ∨ child.packets ≠ []
      · exact one.latched before
      · rw [not_or, not_not, not_not] at before
        obtain ⟨packet, member⟩ := List.exists_mem_of_ne_nil _ (some.resolve_left (· before.1))
        rcases mem_ticked_packets member with old | ⟨sent, other⟩
        · rw [before.2] at old
          exact (List.not_mem_nil old).elim
        · exact ((tick_acks child.writer io).1 packet sent other).1
    · refine Eq.trans ?_ same.target.symm
      rcases mem_ticked_packets member with old | ⟨sent, -⟩
      · exact one.packets packet old
      · exact tick_target child.writer io packet sent

end LogChild

namespace LogStore

open LogChild

private theorem admits_any (port2 date : Nat) (history : List LogEvent) :
    History.Guarded apply (initial port2 date) (Admits fun _ _ => True) history := by
  induction history with
  | nil => trivial
  | cons event before ih =>
      refine ⟨?_, ih⟩
      cases event with
      | block io entry => exact fun _ _ => trivial
      | _ => trivial

/-- **Rotation isolates boots.** Where `opendir` does not fail for a directory with session
files, no file closed by a rotation is open again; where no block sent before a detected
reboot passes the gate after it, none is written to, or acknowledged for, a later file. -/
theorem run_isolation (port2 date : Nat) (history : List LogEvent) :
    (History.Guarded apply (initial port2 date) Lists history →
      ∀ earlier, earlier <:+ history → ∀ child, (after port2 date earlier).child = some child →
        ∀ path, child.binPath = some path → path ∉ (after port2 date earlier).closed) ∧
      (History.Guarded apply (initial port2 date) (Admits HoldsBack) history →
        ∀ earlier, earlier <:+ history → ∀ child, (after port2 date earlier).child = some child →
          (∀ entry ∈ child.written, child.floor ≤ entry.boot) ∧
            ∀ packet ∈ child.packets, packet.ack = true →
              ∃ entry ∈ child.stored, entry.block.seqno = packet.seqno ∧
                child.floor ≤ entry.boot) := by
  refine ⟨fun lists earlier suffix => (orderly_after (lists.of_suffix suffix)).apart, ?_⟩
  intro held earlier suffix child isChild
  have since := rules_after sinceReboot_rules (held.of_suffix suffix) child isChild
  have acked := rules_after acked_rules (admits_any port2 date earlier) child isChild
  refine ⟨since, fun packet member isAck => ?_⟩
  obtain ⟨entry, stored, same⟩ := acked.acks packet member isAck
  exact ⟨entry, stored, same, since entry (acked.stored stored)⟩

/-- A block 0 of the first boot comes once more after the reboot. -/
def lateBlockZero : List LogEvent :=
  [.tick ⟨0, true, fun _ => true, []⟩, blockZero 0, .observe true 1 systemTime 1000,
    .observe true 0 systemTime 60000, blockZero 0, .fork true 0]

/-- The file opened after the reboot has blocks of the second boot only. -/
theorem run_isolation_rebootAtMidnight :
    ((after 5000 7 rebootAtMidnight).child.map LogChild.floor) = some 1 ∧
      ∀ child, (after 5000 7 rebootAtMidnight).child = some child →
        ∀ entry ∈ child.written, child.floor ≤ entry.boot := by
  have held : History.Guarded apply (initial 5000 7) (Admits HoldsBack) rebootAtMidnight := by
    refine ⟨trivial, ?_, trivial, trivial, trivial, ?_, trivial, trivial⟩
    · intro child isChild early
      obtain rfl := Option.some.inj isChild
      exact (Nat.lt_irrefl 1 early).elim
    · intro child isChild early
      obtain rfl := Option.some.inj isChild
      exact (Nat.lt_irrefl 0 early).elim
  exact ⟨rfl, fun child isChild => ((run_isolation 5000 7 rebootAtMidnight).2 held _
    (List.suffix_refl _) child isChild).1⟩

/-- The old block opens the new file and is acknowledged for it. -/
theorem lateBlockZero_mixed :
    ∃ child, (after 5000 7 lateBlockZero).child = some child ∧
      child.binPath = some ⟨5000, 7, 2⟩ ∧ child.floor = 1 ∧
      child.written.map LogEntry.boot = [0] ∧ child.packets = [⟨1, 1, 0, true⟩] :=
  ⟨_, rfl, rfl, rfl, rfl, rfl⟩

/-- **One log, one vehicle**, in every history in which no block of another source passes the
gate once a vehicle is latched. -/
theorem run_oneVehicle {port2 date : Nat} {history : List LogEvent}
    (admitted : History.Guarded apply (initial port2 date) (Admits OneSource) history) :
    ∀ earlier, earlier <:+ history → ∀ child, (after port2 date earlier).child = some child →
      ∃ source, (∀ entry ∈ child.written, entry.source = source) ∧
        ∀ packet ∈ child.packets, (packet.targetSystem, packet.targetComponent) = source ∧
          (packet.ack = true →
            ∃ entry ∈ child.stored, entry.block.seqno = packet.seqno ∧ entry.source = source) := by
  intro earlier suffix child isChild
  have one := rules_after oneVehicle_rules (admitted.of_suffix suffix) child isChild
  have acked := rules_after acked_rules (admits_any port2 date earlier) child isChild
  refine ⟨child.writer.target, one.written, fun packet member =>
    ⟨one.packets packet member, fun isAck => ?_⟩⟩
  obtain ⟨entry, stored, same⟩ := acked.acks packet member isAck
  exact ⟨entry, stored, same, one.written entry (acked.stored stored)⟩

/-- Block 1 of a source. -/
def blockOne (sysid : UInt8) : LogEvent :=
  .block ⟨0, true, 0, 0, true, 200, 0⟩
    ⟨0, sysid, 1, ⟨1, DataBlock.one_lt, Vector.replicate 200 9⟩⟩

/-- Two blocks of one vehicle, and their acknowledgements. -/
def oneVehicle : List LogEvent :=
  [.tick ⟨0, true, fun _ => true, []⟩, blockOne 1, blockZero 0, .fork true 0]

/-- The two blocks of one vehicle have one source. -/
theorem run_oneVehicle_sample :
    (after 5000 7 oneVehicle).child.isSome = true ∧
      ∀ child, (after 5000 7 oneVehicle).child = some child →
        ∃ source, ∀ entry ∈ child.written, entry.source = source := by
  refine ⟨rfl, fun child isChild => ?_⟩
  have admitted : History.Guarded apply (initial 5000 7) (Admits OneSource) oneVehicle := by
    refine ⟨trivial, ?_, ?_, trivial, trivial⟩
    · intro child isChild _ _
      obtain rfl := Option.some.inj isChild
      rfl
    · intro child isChild seen
      obtain rfl := Option.some.inj isChild
      cases seen
  obtain ⟨source, written, -⟩ :=
    run_oneVehicle admitted oneVehicle (List.suffix_refl _) child isChild
  exact ⟨source, written⟩

/-- A block of another vehicle on the same link. -/
def twoVehicles : List LogEvent :=
  [.tick ⟨0, true, fun _ => true, []⟩, blockOne 2, blockZero 0, .fork true 0]

/-- The blocks of both are in one file, and the first vehicle gets the acknowledgement of the
block that the second one sent. -/
theorem twoVehicles_mixed :
    ∃ child, (after 5000 7 twoVehicles).child = some child ∧
      child.stored.map LogEntry.source = [(2, 1), (1, 1)] ∧
      child.packets = [⟨1, 1, 0, true⟩, ⟨1, 1, 1, true⟩] :=
  ⟨_, rfl, rfl, rfl⟩

end LogStore

end SupportProxy
