import SupportProxy.Binlog.Capture

/-! # What is acknowledged is on disk

An acknowledgement lets the vehicle drop its only copy of a block. `Capture.Sound`
ties the acknowledgement queue, the bitmap and the gap list of a writer to the
blocks of its open file, and every call of a run keeps it. -/

namespace SupportProxy

/-- The block is in the file at its place. -/
def SessionFile.Holds (file : SessionFile) (block : DataBlock) : Prop :=
  block.seqno * blockBytes + blockBytes ≤ file.bytes.size ∧
    file.bytes.read (block.seqno * blockBytes) blockBytes = block.data.toList

/-- A write of a block, in full or in part, keeps every block it agrees with. -/
theorem SessionFile.Holds.write {file : SessionFile} {held block : DataBlock}
    (holds : file.Holds held) (same : held.seqno = block.seqno → held.data = block.data)
    (wrote : Nat) :
    SessionFile.Holds ⟨file.path,
      file.bytes.write (block.seqno * blockBytes) (block.data.toList.take wrote)⟩ held := by
  obtain ⟨inside, stored⟩ := holds
  refine ⟨inside.trans (SparseArray.size_le_write _ _ _), ?_⟩
  by_cases equal : held.seqno = block.seqno
  · rw [← equal, ← same equal, ← stored]
    dsimp only
    rw [← SparseArray.read_congr fun index _ => congrFun (SparseArray.write_cell_of_prefix
      file.bytes (List.take_prefix wrote _)).symm _]
  · have short : (block.data.toList.take wrote).length ≤ blockBytes := by
      rw [List.length_take, Vector.length_toList]
      exact Nat.min_le_right _ _
    rw [← stored]
    refine SparseArray.read_write_disjoint _ ?_
    rw [blockBytes] at short ⊢
    omega

/-- A block written in full is in the file. -/
theorem SessionFile.holds_write (file : SessionFile) (block : DataBlock) {wrote : Nat}
    (whole : blockBytes ≤ wrote) :
    SessionFile.Holds ⟨file.path,
      file.bytes.write (block.seqno * blockBytes) (block.data.toList.take wrote)⟩ block := by
  have length : block.data.toList.length = blockBytes := Vector.length_toList
  rw [List.take_of_length_le (length.trans_le whole)]
  constructor
  · rw [← length]
    exact SparseArray.end_le_write _ _ (by rw [← List.length_pos_iff, length]; decide)
  · have read := SparseArray.read_write_self file.bytes (block.seqno * blockBytes) block.data.toList
    rwa [length] at read

namespace Capture

open BinlogWriter

structure Sound (capture : Capture) : Prop where
  closed : Closed capture
  written : ∀ block ∈ capture.stored, block ∈ capture.written
  small : ∀ block ∈ capture.stored, block.seqno * blockBytes + blockBytes ≤ maxPerPort2Bytes
  holds : ∀ file, capture.writer.fp = some file → ∀ block ∈ capture.stored, file.Holds block
  seen : ∀ seqno, capture.writer.seqnoSeen seqno = true ↔
    ∃ block ∈ capture.stored, block.seqno = seqno
  queue : capture.acked ++ capture.writer.pendingAcks = capture.stored.map DataBlock.seqno
  keys : ∀ seqno, (capture.writer.nackState seqno).isSome = true →
    capture.writer.seqnoSeen seqno = false ∧ ∃ block ∈ capture.stored, seqno < block.seqno

/-- The block with a seqno that the open file holds. -/
def OnDisk (capture : Capture) (seqno : Nat) : Prop :=
  ∃ file, capture.writer.fp = some file ∧
    ∃ block ∈ capture.stored, block.seqno = seqno ∧ file.Holds block

private theorem sound_fresh {writer : BinlogWriter} (blank : writer.Blank) :
    Sound (fresh writer) where
  closed := fun _ => ⟨rfl, blank⟩
  written := fun block member => (List.not_mem_nil member).elim
  small := fun block member => (List.not_mem_nil member).elim
  holds := fun file _ block member => (List.not_mem_nil member).elim
  seen := by
    intro seqno
    rw [show (fresh writer).writer.seqnoSeen seqno = false from blank.seqnoSeen seqno]
    constructor
    · intro impossible
      cases impossible
    · rintro ⟨block, member, _⟩
      exact (List.not_mem_nil member).elim
  queue := blank.pending
  keys := by
    intro seqno key
    rw [show (fresh writer).writer.nackState = _ from blank.nacks] at key
    cases key

private theorem Sound.sameLog {capture : Capture} (sound : Sound capture) {writer : BinlogWriter}
    (same : SameLog capture.writer writer) : Sound { capture with writer := writer } where
  closed := sound.closed.sameLog same
  written := sound.written
  small := sound.small
  holds := fun file isOpen => sound.holds file (same.fp.symm.trans isOpen)
  seen := fun seqno => by
    rw [← sound.seen seqno, ← same.seqnoSeen]
  queue := by
    rw [← sound.queue]
    exact congrArg (capture.acked ++ ·) same.pending
  keys := by
    intro seqno key
    rw [show ({ capture with writer := writer } : Capture).writer.nackState = _ from same.nacks]
      at key
    rw [show ({ capture with writer := writer } : Capture).writer.seqnoSeen seqno = _ from
      same.seqnoSeen seqno]
    exact sound.keys seqno key

/-- The bytes of a block go to the open file. -/
theorem Sound.wrote {capture : Capture} (kept : Sound capture)
    (isOpen : capture.writer.fp.isSome = true) (block : DataBlock) (wrote : Nat)
    (agrees : SameBytes capture.written block) :
    Sound { capture with
      writer := capture.writer.writeBlock (block.seqno * blockBytes) wrote block.data
      written := block :: capture.written } := by
  obtain ⟨file, opened⟩ := Option.isSome_iff_exists.mp isOpen
  have after : (capture.writer.writeBlock (block.seqno * blockBytes) wrote block.data).fp =
      some ⟨file.path,
        file.bytes.write (block.seqno * blockBytes) (block.data.toList.take wrote)⟩ := by
    rw [writeBlock, opened]
    rfl
  exact {
    closed := fun closed => (Option.some_ne_none _ (after.symm.trans closed)).elim
    written := fun earlier member => List.mem_cons_of_mem _ (kept.written earlier member)
    small := kept.small
    holds := by
      intro found isFound earlier member
      obtain rfl := Option.some.inj (after.symm.trans isFound)
      exact (kept.holds file opened earlier member).write
        (agrees earlier (kept.written earlier member)) wrote
    seen := kept.seen
    queue := kept.queue
    keys := kept.keys }

/-- A block written in full is marked, taken off the gap list and queued for an
acknowledgement. -/
theorem Sound.stores {capture : Capture} (sound : Sound capture)
    (isOpen : capture.writer.fp.isSome = true) (block : DataBlock) (io : BlockIo)
    (whole : blockBytes ≤ io.wrote)
    (small : block.seqno * blockBytes + blockBytes ≤ maxPerPort2Bytes)
    (agrees : SameBytes capture.written block) :
    Sound { capture with
      writer := (capture.writer.writeBlock (block.seqno * blockBytes) io.wrote
        block.data).recordBlock io block.seqno
      written := block :: capture.written
      stored := capture.stored ++ [block] } := by
  have kept := sound.wrote isOpen block io.wrote agrees
  obtain ⟨file, opened⟩ := Option.isSome_iff_exists.mp isOpen
  have after : (capture.writer.writeBlock (block.seqno * blockBytes) io.wrote block.data).fp =
      some ⟨file.path,
        file.bytes.write (block.seqno * blockBytes) (block.data.toList.take io.wrote)⟩ := by
    rw [writeBlock, opened]
    rfl
  have recorded := recordBlock_recorded
    (capture.writer.writeBlock (block.seqno * blockBytes) io.wrote block.data) io block.seqno
  generalize capture.writer.writeBlock (block.seqno * blockBytes) io.wrote block.data = wrote
    at kept after recorded ⊢
  generalize wrote.recordBlock io block.seqno = next at recorded ⊢
  refine ⟨?_, ?_, ?_, ?_, ?_, ?_, ?_⟩
  · intro closed
    exact (Option.some_ne_none _ (after.symm.trans (recorded.fp.symm.trans closed))).elim
  · intro earlier member
    rcases List.mem_append.mp member with before | new
    · exact kept.written earlier before
    · exact List.mem_cons.mpr (.inl (List.mem_singleton.mp new))
  · intro earlier member
    rcases List.mem_append.mp member with before | new
    · exact kept.small earlier before
    · rw [List.mem_singleton.mp new]
      exact small
  · intro found isFound earlier member
    rcases List.mem_append.mp member with before | new
    · exact kept.holds found (recorded.fp.symm.trans isFound) earlier before
    · obtain rfl := Option.some.inj (after.symm.trans (recorded.fp.symm.trans isFound))
      rw [List.mem_singleton.mp new]
      exact file.holds_write block whole
  · intro seqno
    refine (Eq.to_iff (congrArg (· = true) (recorded.seen seqno))).trans ?_
    rw [Bool.or_eq_true, decide_eq_true_eq, kept.seen seqno]
    constructor
    · rintro (rfl | ⟨earlier, before, equal⟩)
      · exact ⟨block, List.mem_append_right _ List.mem_cons_self, rfl⟩
      · exact ⟨earlier, List.mem_append_left _ before, equal⟩
    · rintro ⟨earlier, member, equal⟩
      rcases List.mem_append.mp member with before | new
      · exact .inr ⟨earlier, before, equal⟩
      · rw [List.mem_singleton.mp new] at equal
        exact .inl equal.symm
  · rw [List.map_append, ← kept.queue, List.append_assoc]
    exact congrArg (capture.acked ++ ·) recorded.pending
  · intro seqno key
    have nack := recorded.nacks seqno
    have mark := recorded.seen seqno
    dsimp only at key ⊢
    rw [nack] at key
    by_cases filled : seqno = block.seqno
    · rw [if_pos filled] at key
      cases key
    · rw [if_neg filled] at key
      rw [mark, decide_eq_false filled, Bool.false_or]
      split_ifs at key with seeded
      · exact ⟨seeded.2.2.2.1, block, List.mem_append_right _ List.mem_cons_self, seeded.2.2.1⟩
      · obtain ⟨unseen, above, before, less⟩ := kept.keys seqno key
        exact ⟨unseen, above, List.mem_append_left _ before, less⟩

/-- A queued seqno names a stored block. -/
theorem Sound.pending_stored {capture : Capture} (sound : Sound capture) {seqno : Nat}
    (queued : seqno ∈ capture.writer.pendingAcks) :
    ∃ block ∈ capture.stored, block.seqno = seqno := by
  have member : seqno ∈ capture.stored.map DataBlock.seqno := by
    rw [← sound.queue]
    exact List.mem_append_right _ queued
  exact List.mem_map.mp member

/-- No stored seqno is the START magic. -/
theorem Sound.ne_start {capture : Capture} (sound : Sound capture) {seqno : Nat}
    (queued : seqno ∈ capture.writer.pendingAcks) : seqno ≠ remoteLogDataBlockStart := by
  obtain ⟨block, member, rfl⟩ := sound.pending_stored queued
  have small := sound.small block member
  rw [blockBytes, maxPerPort2Bytes] at small
  rw [remoteLogDataBlockStart]
  omega

private theorem Sound.ticked {capture : Capture} (sound : Sound capture) (io : TickIo) :
    Sound (apply (.tick io) capture) := by
  rw [apply]
  cases streams : capture.writer.streaming with
  | false =>
      obtain ⟨same, packets⟩ := tick_waiting streams io
      have kept := sound.sameLog same
      rw [ackedBy_starts packets, List.append_nil]
      simp only [Bool.false_and, Bool.or_false]
      exact kept
  | true =>
      obtain ⟨starts, nacks, sent, areStarts, areNacks, asked⟩ := tick_streaming streams io
      have queue : capture.acked ++ ackedBy (capture.writer.tick io).1 =
          capture.stored.map DataBlock.seqno := by
        rw [sent, ackedBy_append, ackedBy_append, ackedBy_starts areStarts,
          ackedBy_acks _ fun seqno queued => sound.ne_start queued,
          ackedBy_nacks fun packet member => (areNacks packet member).1, List.nil_append,
          List.append_nil, sound.queue]
      have isOpen : capture.writer.fp ≠ none := by
        rw [streaming, Bool.and_eq_true] at streams
        exact Option.isSome_iff_ne_none.mp streams.2
      refine ⟨?_, sound.written, sound.small, ?_, ?_, ?_, ?_⟩
      · intro closed
        exact (isOpen (asked.fp.symm.trans closed)).elim
      · intro file isFile
        exact sound.holds file (asked.fp.symm.trans isFile)
      · intro seqno
        rw [← sound.seen seqno, seqnoSeen, asked.seen]
        rfl
      · dsimp only
        rw [asked.pending, List.append_nil, queue]
      · intro seqno key
        obtain ⟨before, unseen, _⟩ := survives ((asked.isSome seqno).symm.trans key)
        refine ⟨?_, (sound.keys seqno before).2⟩
        rw [seqnoSeen, asked.seen]
        exact unseen

private theorem sound_rules : Rules SameBytes Sound where
  first := fun block earlier member => (List.not_mem_nil member).elim
  closed := fun _ sound => sound.closed
  blank := fun _ blank => sound_fresh blank
  same := fun _ _ sound same => sound.sameLog same
  wrote := fun _ block wrote sound isOpen agrees => sound.wrote isOpen block wrote agrees
  stores := fun _ block io sound streams whole small agrees =>
    sound.stores (by rw [streaming, Bool.and_eq_true] at streams; exact streams.2) block io whole
      small agrees
  ticks := fun _ io sound => sound.ticked io

private theorem Sound.onDisk {capture : Capture} (sound : Sound capture) {block : DataBlock}
    (member : block ∈ capture.stored) : capture.OnDisk block.seqno := by
  cases opened : capture.writer.fp with
  | none =>
      rw [(sound.closed opened).1] at member
      exact (List.not_mem_nil member).elim
  | some file => exact ⟨file, opened, block, member, rfl, sound.holds file opened block member⟩

/-- What a `tick` acknowledges is on disk. -/
theorem Sound.ack_onDisk {capture : Capture} (sound : Sound capture) {io : TickIo}
    {packet : StatusPacket} (sent : packet ∈ (capture.writer.tick io).1)
    (isAck : packet.ack = true) :
    packet.seqno = remoteLogDataBlockStart ∨ capture.OnDisk packet.seqno := by
  cases streams : capture.writer.streaming with
  | false => exact .inl ((tick_waiting streams io).2 packet sent).1
  | true =>
      obtain ⟨starts, nacks, packets, areStarts, areNacks, _⟩ := tick_streaming streams io
      rw [packets, List.mem_append, List.mem_append] at sent
      rcases sent with (start | ack) | nack
      · exact .inl (areStarts packet start).1
      · obtain ⟨seqno, queued, rfl⟩ := List.mem_map.mp ack
        obtain ⟨block, member, same⟩ := sound.pending_stored queued
        refine .inr ?_
        rw [statusPacket, ← same]
        exact sound.onDisk member
      · rw [(areNacks packet nack).1] at isAck
        cases isAck

/-- What a `tick` asks for is a gap below a stored block of the open file. -/
theorem Sound.nack_missing {capture : Capture} (sound : Sound capture) {io : TickIo}
    {packet : StatusPacket} (sent : packet ∈ (capture.writer.tick io).1)
    (isNack : packet.ack = false) :
    capture.writer.fp.isSome = true ∧ capture.writer.seqnoSeen packet.seqno = false ∧
      ∃ block ∈ capture.stored, packet.seqno < block.seqno := by
  cases streams : capture.writer.streaming with
  | false =>
      rw [((tick_waiting streams io).2 packet sent).2] at isNack
      cases isNack
  | true =>
      obtain ⟨starts, nacks, packets, areStarts, areNacks, _⟩ := tick_streaming streams io
      rw [packets, List.mem_append, List.mem_append] at sent
      rcases sent with (start | ack) | nack
      · rw [(areStarts packet start).2] at isNack
        cases isNack
      · obtain ⟨seqno, _, rfl⟩ := List.mem_map.mp ack
        cases isNack
      · rw [streaming, Bool.and_eq_true] at streams
        obtain ⟨key, _, _⟩ := survives (areNacks packet nack).2
        exact ⟨streams.2, sound.keys packet.seqno key⟩

private theorem acceptBlock_pending (writer : BinlogWriter) (io : BlockIo) (sysid compid : UInt8)
    (block : DataBlock) (unstored : (writer.acceptBlock io sysid compid block).1 ≠ .stored) :
    (writer.acceptBlock io sysid compid block).2.pendingAcks = writer.pendingAcks := by
  have latched := latchTarget_sameLog writer sysid compid
  rw [acceptBlock] at unstored ⊢
  dsimp only at unstored ⊢
  split_ifs at unstored ⊢
  · rfl
  · rfl
  · exact latched.pending
  · exact latched.pending
  · exact (unstored rfl).elim

/-- A block that `handle_block` drops, or writes in part, is not queued. -/
theorem handleBlock_pending (writer : BinlogWriter) (port2 sessionN : Nat) (io : BlockIo)
    (sysid compid : UInt8) (block : DataBlock)
    (unstored : (writer.handleBlock port2 sessionN io sysid compid block).1 ≠ .stored) :
    (writer.handleBlock port2 sessionN io sysid compid block).2.pendingAcks =
      writer.pendingAcks := by
  rw [handleBlock] at unstored ⊢
  cases opens : writer.ensureOpen port2 sessionN io block.seqno with
  | error result => rfl
  | ok opened =>
      rw [opens] at unstored
      refine (acceptBlock_pending opened io sysid compid block unstored).trans ?_
      obtain ⟨_, rfl | ⟨_, _, path, same⟩⟩ := ensureOpen_ok opens
      · rfl
      · exact same.pending

/-- The blocks handed to the writer in a run. -/
def handed : List WriterCall → List DataBlock
  | [] => []
  | .handleBlock _ _ _ _ _ block :: before => block :: handed before
  | _ :: before => handed before

/-- A call stores the block it was handed or none. -/
theorem stored_apply (call : WriterCall) (capture : Capture) {block : DataBlock}
    (member : block ∈ (apply call capture).stored) :
    block ∈ capture.stored ∨ block ∈ handed [call] := by
  cases call with
  | handleBlock port2 sessionN io sysid compid newBlock =>
      rw [apply] at member
      generalize capture.writer.handleBlock port2 sessionN io sysid compid newBlock = outcome
        at member
      obtain ⟨result, writer⟩ := outcome
      cases result with
      | stored =>
          rcases List.mem_append.mp member with before | new
          · exact .inl before
          · exact .inr (List.mem_cons.mpr (.inl (List.mem_singleton.mp new)))
      | gated => exact .inl member
      | openFailed => exact .inl member
      | jumpCap => exact .inl member
      | quota => exact .inl member
      | seekFailed => exact .inl member
      | shortWrite => exact .inl member
  | observe nextN msg timeBootMs =>
      rw [apply] at member
      split_ifs at member
      · exact .inl member
      · exact (List.not_mem_nil member).elim
  | tick io => exact .inl member

/-- Nothing handed over before a file was open is stored in it. -/
theorem stored_since {fcSysid : UInt8} {later earlier : List WriterCall}
    (started : (after fcSysid earlier).stored = []) {block : DataBlock}
    (member : block ∈ (after fcSysid (later ++ earlier)).stored) : block ∈ handed later := by
  induction later with
  | nil =>
      rw [List.nil_append, started] at member
      exact (List.not_mem_nil member).elim
  | cons call later ih =>
      rcases stored_apply call _ member with before | new
      · have known := ih before
        cases call with
        | handleBlock _ _ _ _ _ _ => exact List.mem_cons_of_mem _ known
        | observe _ _ _ => exact known
        | tick _ => exact known
      · cases call with
        | handleBlock _ _ _ _ _ newBlock =>
            exact List.mem_cons.mpr (.inl (List.mem_singleton.mp new))
        | observe _ _ _ => exact (List.not_mem_nil new).elim
        | tick _ => exact (List.not_mem_nil new).elim

/-- **An acknowledgement is sound.** In every run in which a retransmission within one
log carries the bytes written before: what is queued, seen or acknowledged is on disk
in the open file; the acknowledgements of a file are its stored blocks in the order
they came; a dropped block adds none; a NACK names a gap of the open file; and
after a rotation all of this is about the blocks handed over since. -/
theorem run_acknowledgement {fcSysid : UInt8} {calls : List WriterCall}
    (retransmits : History.Guarded apply (fresh (BinlogWriter.initial fcSysid))
      (Admits SameBytes) calls) :
    let capture := after fcSysid calls
    (∀ seqno ∈ capture.writer.pendingAcks, capture.OnDisk seqno) ∧
      (∀ seqno, capture.writer.seqnoSeen seqno = true → capture.OnDisk seqno) ∧
      (∀ io, ∀ packet ∈ (capture.writer.tick io).1,
        if packet.ack = true then
          packet.seqno = remoteLogDataBlockStart ∨ capture.OnDisk packet.seqno
        else capture.writer.fp.isSome = true ∧ capture.writer.seqnoSeen packet.seqno = false ∧
          ∃ block ∈ capture.stored, packet.seqno < block.seqno) ∧
      capture.acked ++ capture.writer.pendingAcks = capture.stored.map DataBlock.seqno ∧
      (∀ port2 sessionN io sysid compid block,
        (capture.writer.handleBlock port2 sessionN io sysid compid block).1 ≠ .stored →
          (capture.writer.handleBlock port2 sessionN io sysid compid block).2.pendingAcks =
            capture.writer.pendingAcks) ∧
      ∀ later earlier, calls = later ++ earlier → (after fcSysid earlier).writer.fp = none →
        ∀ block ∈ capture.stored, block ∈ handed later := by
  have sound := sound_rules.after retransmits
  refine ⟨?_, ?_, ?_, sound.queue, fun _ _ _ _ _ _ => handleBlock_pending _ _ _ _ _ _ _, ?_⟩
  · intro seqno queued
    obtain ⟨block, member, rfl⟩ := sound.pending_stored queued
    exact sound.onDisk member
  · intro seqno seen
    obtain ⟨block, member, rfl⟩ := (sound.seen seqno).mp seen
    exact sound.onDisk member
  · intro io packet sent
    split_ifs with isAck
    · exact sound.ack_onDisk sent isAck
    · exact sound.nack_missing sent (Bool.not_eq_true _ ▸ isAck)
  · rintro later earlier rfl closed block member
    have before := sound_rules.after (retransmits.of_suffix (List.suffix_append later earlier))
    refine stored_since ?_ member
    rw [(before.closed closed).1]
    rfl

/-- Every call of the file system succeeds. -/
def goodIo : BlockIo := ⟨0, true, 0, 0, true, 200, 0⟩

def firstBlock : DataBlock := ⟨0, DataBlock.zero_lt, Vector.replicate 200 7⟩

/-- Block 0 and its retransmission. -/
def retransmission : List WriterCall :=
  [.handleBlock 5000 1 goodIo 1 1 firstBlock, .handleBlock 5000 1 goodIo 1 1 firstBlock]

/-- Block 0 comes twice, and both receptions are acknowledged. -/
theorem retransmission_acknowledged :
    [0, 0] = (after 0 retransmission).writer.pendingAcks ∧
      ∀ seqno ∈ (after 0 retransmission).writer.pendingAcks,
        (after 0 retransmission).OnDisk seqno := by
  have written : (after 0 [.handleBlock 5000 1 goodIo 1 1 firstBlock]).written =
      [firstBlock] := rfl
  refine ⟨rfl, (@run_acknowledgement 0 retransmission ⟨?_, ?_, trivial⟩).1⟩
  · intro earlier member _
    have known := List.mem_singleton.mp (written ▸ member)
    rw [known]
  · intro earlier member
    exact (List.not_mem_nil member).elim

end Capture

end SupportProxy
