import SupportProxy.Binlog.Acknowledgement
import SupportProxy.Binlog.Steps

/-! # Block 0 comes first

The strict-start gate asks whether a file is open, and block 0 opens it. Where the
write of block 0 then fails, the file stays open without it and takes any block. -/

namespace SupportProxy

/-- The bytes of the first block that a file has are those of blocks with seqno 0. -/
def SessionFile.BeginsWith (file : SessionFile) (written : List DataBlock) : Prop :=
  ∀ index < blockBytes, index < file.bytes.size → ∃ first ∈ written,
    first.seqno = 0 ∧ first.data.toList[index]? = some (file.bytes.cell index)

/-- A write of block 0, or of another block behind the first 200 bytes. -/
theorem SessionFile.BeginsWith.write {file : SessionFile} {written : List DataBlock}
    (begins : file.BeginsWith written) {block : DataBlock}
    (start : block.seqno ≠ 0 → blockBytes ≤ file.bytes.size) (wrote : Nat) :
    SessionFile.BeginsWith ⟨file.path,
      file.bytes.write (block.seqno * blockBytes) (block.data.toList.take wrote)⟩
      (block :: written) := by
  have before : ∀ index < blockBytes, index < file.bytes.size →
      (file.bytes.write (block.seqno * blockBytes) (block.data.toList.take wrote)).cell index =
        file.bytes.cell index → ∃ first ∈ block :: written, first.seqno = 0 ∧
          first.data.toList[index]? = some ((file.bytes.write (block.seqno * blockBytes)
            (block.data.toList.take wrote)).cell index) := by
    intro index low inside same
    obtain ⟨first, member, isFirst, byte⟩ := begins index low inside
    exact ⟨first, List.mem_cons_of_mem _ member, isFirst, byte.trans (congrArg some same.symm)⟩
  intro index low inside
  by_cases isFirst : block.seqno = 0
  · by_cases covered : index < (block.data.toList.take wrote).length
    · have byte := SparseArray.write_cell_inside file.bytes (block.seqno * blockBytes) _ covered
      rw [isFirst, Nat.zero_mul, Nat.zero_add, List.getElem_take] at byte
      refine ⟨block, List.mem_cons_self, isFirst, ?_⟩
      dsimp only
      rw [isFirst, Nat.zero_mul, byte]
      exact List.getElem?_eq_getElem _
    · refine before index low ?_ (SparseArray.write_cell_outside _ (.inr ?_))
      · dsimp only at inside
        rw [SparseArray.write] at inside
        dsimp only at inside
        rw [isFirst, Nat.zero_mul, Nat.zero_add] at inside
        split_ifs at inside
        · exact inside
        · omega
      · rw [isFirst, Nat.zero_mul, Nat.zero_add]
        exact Nat.not_lt.mp covered
  · have far : blockBytes ≤ block.seqno * blockBytes :=
      Nat.le_mul_of_pos_left _ (Nat.pos_of_ne_zero isFirst)
    exact before index low (low.trans_le (start isFirst))
      (SparseArray.write_cell_outside _ (.inl (low.trans_le far)))

namespace Capture

open BinlogWriter

/-- Block 0 is in the open file in full. -/
def HoldsFirst (capture : Capture) : Prop := ∃ first ∈ capture.stored, first.seqno = 0

/-- Another block was written to the open file only with block 0 in it, and the file begins
with bytes of block 0. -/
structure Anchored (capture : Capture) : Prop where
  later : ∀ block ∈ capture.written, block.seqno ≠ 0 → capture.HoldsFirst
  begins : ∀ file, capture.writer.fp = some file → file.BeginsWith capture.written

/-- Where the open file has no block 0 yet and the quota has room for two blocks, the seek and
the write of block 0 succeed. -/
def KeepsFirst (capture : Capture) : WriterCall → Prop
  | .handleBlock port2 sessionN io _ _ block =>
      block.seqno = 0 → ¬capture.HoldsFirst → ∀ opened,
        capture.writer.ensureOpen port2 sessionN io 0 = .ok opened →
          opened.otherSessionsBytes + 2 * blockBytes ≤ maxPerPort2Bytes →
            io.seeks = true ∧ blockBytes ≤ io.wrote
  | _ => True

/-- A file without block 0 is one that the quota keeps closed to every other block. -/
structure Begun (capture : Capture) : Prop extends Anchored capture where
  closed : Closed capture
  size : capture.HoldsFirst → ∀ file, capture.writer.fp = some file → blockBytes ≤ file.bytes.size
  stored : ¬capture.HoldsFirst → capture.stored = []
  current : ¬capture.HoldsFirst → capture.writer.fp.isSome = true →
    capture.writer.currentFileSize = 0
  full : ¬capture.HoldsFirst → capture.writer.fp.isSome = true →
    maxPerPort2Bytes < capture.writer.otherSessionsBytes + 2 * blockBytes

private theorem not_holdsFirst_fresh (writer : BinlogWriter) : ¬(fresh writer).HoldsFirst := by
  rintro ⟨first, member, _⟩
  exact List.not_mem_nil member

private theorem begun_fresh {writer : BinlogWriter} (closed : writer.fp = none)
    (blank : writer.Blank) :
    Begun (fresh writer) where
  later := fun block member => (List.not_mem_nil member).elim
  begins := fun file opened => (Option.some_ne_none file (opened.symm.trans closed)).elim
  closed := fun _ => ⟨rfl, blank⟩
  size := fun _ file opened => (Option.some_ne_none file (opened.symm.trans closed)).elim
  stored := fun _ => rfl
  current := fun _ isOpen => by
    rw [show (fresh writer).writer.fp = none from closed] at isOpen
    cases isOpen
  full := fun _ isOpen => by
    rw [show (fresh writer).writer.fp = none from closed] at isOpen
    cases isOpen

private theorem Begun.same {capture : Capture} (begun : Begun capture) {writer : BinlogWriter}
    (fp : writer.fp = capture.writer.fp) (sizes : SameSizes capture.writer writer)
    (closed : Closed { capture with writer := writer }) :
    Begun { capture with writer := writer } where
  later := begun.later
  begins := fun file opened => begun.begins file (fp.symm.trans opened)
  closed := closed
  size := fun holds file opened => begun.size holds file (fp.symm.trans opened)
  stored := begun.stored
  current := fun lacks isOpen => sizes.current.trans (begun.current lacks (fp ▸ isOpen))
  full := fun lacks isOpen => by
    have full := begun.full lacks (fp ▸ isOpen)
    rw [← sizes.others] at full
    exact full

/-- A block behind the gate; `begun` is what holds with the file open. -/
theorem Anchored.accept {capture : Capture} (anchored : Anchored capture)
    (isOpen : capture.writer.fp.isSome = true)
    (size : capture.HoldsFirst → ∀ file, capture.writer.fp = some file →
      blockBytes ≤ file.bytes.size)
    (stored : ¬capture.HoldsFirst → capture.stored = [] ∧ capture.writer.currentFileSize = 0)
    {io : BlockIo} {sysid compid : UInt8} {block : DataBlock}
    (full : ¬capture.HoldsFirst → block.seqno = 0 ∨
      maxPerPort2Bytes < capture.writer.otherSessionsBytes + 2 * blockBytes)
    (kept : block.seqno = 0 → ¬capture.HoldsFirst →
      capture.writer.otherSessionsBytes + 2 * blockBytes ≤ maxPerPort2Bytes →
        io.seeks = true ∧ blockBytes ≤ io.wrote) :
    Begun (capture.settle block (capture.writer.acceptBlock io sysid compid block)) := by
  obtain ⟨file, opened⟩ := Option.isSome_iff_exists.mp isOpen
  obtain ⟨-, latchedFp, -, latchedSizes, -⟩ := latchTarget_eq capture.writer sysid compid
  have beyond : block.seqno ≠ 0 → capture.writer.Fits block.seqno → capture.HoldsFirst := by
    intro later fits
    by_contra lacks
    have quota := fits.quota
    have two : 2 * blockBytes ≤ block.seqno * blockBytes + blockBytes := by
      have := Nat.mul_le_mul_right blockBytes (Nat.one_le_iff_ne_zero.mpr later)
      omega
    rw [prospectiveSize] at quota
    have := (full lacks).resolve_left later
    omega
  have failed : (io.seeks = false ∨ io.wrote < blockBytes) → ¬capture.HoldsFirst →
      capture.writer.Fits block.seqno →
        maxPerPort2Bytes < capture.writer.otherSessionsBytes + 2 * blockBytes := by
    intro fails lacks fits
    by_cases isFirst : block.seqno = 0
    · by_contra room
      obtain ⟨seeks, whole⟩ := kept isFirst lacks (Nat.not_lt.mp room)
      rcases fails with fails | short
      · rw [seeks] at fails
        cases fails
      · exact Nat.not_lt.mpr whole short
    · exact (lacks (beyond isFirst fits)).elim
  have turnedDown : ¬capture.writer.Fits block.seqno → ¬capture.HoldsFirst →
      maxPerPort2Bytes < capture.writer.otherSessionsBytes + 2 * blockBytes := by
    intro rejected lacks
    rcases full lacks with isFirst | full
    · by_contra room
      refine rejected ⟨?_, ?_⟩
      · rw [prospectiveSize, isFirst, (stored lacks).2]
        simp [blockBytes, maxForwardJumpBytes]
      · rw [prospectiveSize, isFirst, (stored lacks).2]
        omega
    · exact full
  -- the file after a write of the block, in full or in part
  have writtenFp : ((capture.writer.latchTarget sysid compid).writeBlock
      (block.seqno * blockBytes) io.wrote block.data).fp = some ⟨file.path,
        file.bytes.write (block.seqno * blockBytes) (block.data.toList.take io.wrote)⟩ := by
    rw [writeBlock, latchedFp, opened]
    rfl
  have writtenBegins : capture.writer.Fits block.seqno →
      SessionFile.BeginsWith ⟨file.path, file.bytes.write (block.seqno * blockBytes)
        (block.data.toList.take io.wrote)⟩ (block :: capture.written) := fun fits =>
    (anchored.begins file opened).write
      (fun later => size (beyond later fits) file opened) io.wrote
  rcases acceptBlock_cases capture.writer io sysid compid block with
    ⟨rejected, result | result⟩ | ⟨fits, ⟨fails, result⟩ | ⟨-, short, result⟩ | ⟨-, whole, result⟩⟩
  · rw [result]
    exact ⟨anchored, closed_of_open isOpen, size, fun lacks => (stored lacks).1,
      fun lacks _ => (stored lacks).2, fun lacks _ => turnedDown rejected lacks⟩
  · rw [result]
    exact ⟨anchored, closed_of_open isOpen, size, fun lacks => (stored lacks).1,
      fun lacks _ => (stored lacks).2, fun lacks _ => turnedDown rejected lacks⟩
  · rw [result]
    refine ⟨⟨anchored.later, ?_⟩, closed_of_open (latchedFp ▸ isOpen), ?_,
      fun lacks => (stored lacks).1,
      fun lacks _ => latchedSizes.current.trans (stored lacks).2, ?_⟩
    · exact fun found isFound => anchored.begins found (latchedFp.symm.trans isFound)
    · exact fun holds found isFound => size holds found (latchedFp.symm.trans isFound)
    · intro lacks _
      have := failed (.inl fails) lacks fits
      rwa [← latchedSizes.others] at this
  · rw [result]
    refine ⟨⟨?_, ?_⟩, closed_of_open (Option.isSome_iff_exists.mpr ⟨_, writtenFp⟩), ?_,
      fun lacks => (stored lacks).1, fun lacks _ => latchedSizes.current.trans (stored lacks).2, ?_⟩
    · intro other member later
      rcases List.mem_cons.mp member with rfl | before
      · exact beyond later fits
      · exact anchored.later other before later
    · intro found isFound
      obtain rfl := Option.some.inj (writtenFp.symm.trans isFound)
      exact writtenBegins fits
    · intro holds found isFound
      obtain rfl := Option.some.inj (writtenFp.symm.trans isFound)
      exact (size holds file opened).trans (SparseArray.size_le_write _ _ _)
    · intro lacks _
      have := failed (.inr short) lacks fits
      rwa [← latchedSizes.others] at this
  · rw [result]
    have recorded := (recordBlock_sameFile ((capture.writer.latchTarget sysid compid).writeBlock
      (block.seqno * blockBytes) io.wrote block.data) io block.seqno).fp.trans writtenFp
    have holds : HoldsFirst (capture.settle block (.stored,
        ((capture.writer.latchTarget sysid compid).writeBlock (block.seqno * blockBytes)
          io.wrote block.data).recordBlock io block.seqno)) := by
      by_cases isFirst : block.seqno = 0
      · exact ⟨block, List.mem_append_right _ List.mem_cons_self, isFirst⟩
      · obtain ⟨first, member, zero⟩ := beyond isFirst fits
        exact ⟨first, List.mem_append_left _ member, zero⟩
    refine ⟨⟨fun _ _ _ => holds, ?_⟩,
      closed_of_open (Option.isSome_iff_exists.mpr ⟨_, recorded⟩), ?_,
      fun lacks => (lacks holds).elim, fun lacks => (lacks holds).elim,
      fun lacks => (lacks holds).elim⟩
    · intro found isFound
      obtain rfl := Option.some.inj (recorded.symm.trans isFound)
      exact writtenBegins fits
    · intro _ found isFound
      obtain rfl := Option.some.inj (recorded.symm.trans isFound)
      have length : block.data.toList.length = blockBytes := Vector.length_toList
      rw [List.take_of_length_le (length.trans_le whole)]
      have reached := SparseArray.end_le_write file.bytes (block.seqno * blockBytes)
        (List.ne_nil_of_length_pos (Nat.lt_of_lt_of_eq (Nat.succ_pos 199) length.symm))
      rw [length] at reached
      exact (Nat.le_add_left _ _).trans reached

private theorem Begun.ticked {capture : Capture} (begun : Begun capture) (io : TickIo) :
    Begun (apply (.tick io) capture) := by
  obtain ⟨file, sizes⟩ := tick_same capture.writer io
  exact ⟨⟨begun.later, fun found opened => begun.begins found (file.fp.symm.trans opened)⟩,
    begun.closed.ticked io,
    fun holds found opened => begun.size holds found (file.fp.symm.trans opened),
    begun.stored, fun lacks isOpen => sizes.current.trans (begun.current lacks (file.fp ▸ isOpen)),
    fun lacks isOpen => sizes.others.symm ▸ begun.full lacks (file.fp ▸ isOpen)⟩

private theorem Begun.observed {capture : Capture} (begun : Begun capture) (nextN : Nat)
    (msg : Message) (timeBootMs : Nat) : Begun (apply (.observe nextN msg timeBootMs) capture) := by
  rw [apply]
  rcases observe_eq capture.writer nextN msg timeBootMs with ⟨-, rotated⟩ | ⟨mark, marked⟩
  · rw [rotated]
    exact begun_fresh rfl ⟨rfl, rfl, rfl, rfl⟩
  · rw [marked]
    dsimp only
    by_cases isOpen : capture.writer.fp.isSome = true
    · rw [if_pos isOpen]
      exact begun.same rfl ⟨rfl, rfl⟩ (begun.closed.sameLog ⟨rfl, rfl, rfl, rfl, rfl⟩)
    · rw [if_neg isOpen]
      have isClosed := Option.not_isSome_iff_eq_none.mp isOpen
      have blank := (begun.closed isClosed).2
      exact begun_fresh isClosed ⟨blank.seen, blank.highest, blank.pending, blank.nacks⟩

private theorem Begun.handled {capture : Capture} (begun : Begun capture) {port2 sessionN : Nat}
    {io : BlockIo} {sysid compid : UInt8} {block : DataBlock}
    (kept : KeepsFirst capture (.handleBlock port2 sessionN io sysid compid block)) :
    Begun (apply (.handleBlock port2 sessionN io sysid compid block) capture) := by
  rw [apply, handleBlock]
  cases opens : capture.writer.ensureOpen port2 sessionN io block.seqno with
  | error result =>
      obtain rfl | rfl := ensureOpen_error opens
      · exact begun
      · exact begun
  | ok opened =>
      have isOpen := (ensureOpen_ok opens).1
      rcases ensureOpen_opened opens with ⟨before, rfl⟩ | ⟨closed, isFirst, -, just⟩
      · refine begun.accept isOpen begun.size
          (fun lacks => ⟨begun.stored lacks, begun.current lacks before⟩)
          (fun lacks => .inr (begun.full lacks before)) fun isFirst lacks room => ?_
        rw [isFirst] at opens
        exact kept isFirst lacks _ opens room
      · obtain ⟨started, -⟩ := begun.closed closed
        have lacks : ¬capture.HoldsFirst := by
          rw [started]
          exact not_holdsFirst_fresh _
        have anchored : Anchored (fresh opened) := by
          refine ⟨fun _ member => (List.not_mem_nil member).elim, ?_⟩
          rintro file isFile index - inside
          rw [just] at isFile
          obtain rfl := Option.some.inj isFile
          exact (Nat.not_lt_zero index inside).elim
        rw [started, settle_fresh block _ opened]
        refine anchored.accept isOpen (fun holds => (not_holdsFirst_fresh _ holds).elim)
          (fun _ => ⟨rfl, by rw [just]; rfl⟩) (fun _ => .inl isFirst) fun _ _ room => ?_
        rw [isFirst] at opens
        exact kept isFirst lacks _ opens room

private theorem begun_after {fcSysid : UInt8} {calls : List WriterCall}
    (kept : History.Guarded apply (fresh (BinlogWriter.initial fcSysid)) KeepsFirst calls) :
    Begun (after fcSysid calls) := by
  refine kept.invariant (begun_fresh rfl ⟨rfl, rfl, rfl, rfl⟩) fun capture call before keeps => ?_
  cases call with
  | handleBlock port2 sessionN io sysid compid block => exact before.handled keeps
  | observe nextN msg timeBootMs => exact before.observed nextN msg timeBootMs
  | tick io => exact before.ticked io

/-- The block after the first. -/
def secondBlock : DataBlock := ⟨1, DataBlock.one_lt, Vector.replicate 200 8⟩

/-- A file without block 0 and with room takes the block after it. -/
theorem second_unanchored {capture : Capture} (isOpen : capture.writer.fp.isSome = true)
    (lacks : ¬capture.HoldsFirst) (current : capture.writer.currentFileSize = 0)
    (room : capture.writer.otherSessionsBytes + 2 * blockBytes ≤ maxPerPort2Bytes) :
    ¬(apply (.handleBlock 0 0 goodIo 1 1 secondBlock) capture).Anchored := by
  have opens : capture.writer.ensureOpen 0 0 goodIo secondBlock.seqno = .ok capture.writer := by
    rw [ensureOpen, if_pos isOpen]
  have size : capture.writer.prospectiveSize secondBlock.seqno = 2 * blockBytes := by
    rw [prospectiveSize, current]
    rfl
  have fits : capture.writer.Fits secondBlock.seqno := by
    refine ⟨?_, size ▸ room⟩
    rw [size, current]
    simp [blockBytes, maxForwardJumpBytes]
  rw [apply, handleBlock, opens]
  dsimp only
  rcases acceptBlock_cases capture.writer goodIo 1 1 secondBlock with
    ⟨rejected, -⟩ | ⟨-, ⟨fails, -⟩ | ⟨-, short, -⟩ | ⟨-, -, result⟩⟩
  · exact (rejected fits).elim
  · cases fails
  · exact (Nat.lt_irrefl _ short).elim
  · rw [result]
    intro anchored
    obtain ⟨first, member, zero⟩ := anchored.later secondBlock List.mem_cons_self Nat.one_ne_zero
    rcases List.mem_append.mp member with before | new
    · exact lacks ⟨first, before, zero⟩
    · rw [List.mem_singleton.mp new] at zero
      exact Nat.one_ne_zero zero

/-- Where the write of block 0 fails, the next block goes to a file without it. -/
theorem Begun.loses {capture : Capture} (begun : Begun capture) {call : WriterCall}
    (fails : ¬KeepsFirst capture call) : ∃ next, ¬(apply next (apply call capture)).Anchored := by
  cases call with
  | observe nextN msg timeBootMs => exact (fails trivial).elim
  | tick io => exact (fails trivial).elim
  | handleBlock port2 sessionN io sysid compid block =>
      simp only [KeepsFirst, not_forall] at fails
      obtain ⟨isFirst, lacks, opened, opens, room, fails⟩ := fails
      have isOpen := (ensureOpen_ok opens).1
      rw [← isFirst] at opens
      have current : opened.currentFileSize = 0 := by
        rcases ensureOpen_opened opens with ⟨before, rfl⟩ | ⟨-, -, -, just⟩
        · exact begun.current lacks before
        · rw [just]
          rfl
      have fits : opened.Fits block.seqno := by
        have size : opened.prospectiveSize block.seqno = blockBytes := by
          rw [prospectiveSize, current, isFirst, Nat.zero_mul, Nat.zero_add,
            Nat.max_eq_right (Nat.zero_le _)]
        refine ⟨?_, ?_⟩
        · rw [size, current]
          simp [blockBytes, maxForwardJumpBytes]
        · rw [size]
          omega
      obtain ⟨-, latchedFp, -, sizes, -⟩ := latchTarget_eq opened sysid compid
      refine ⟨.handleBlock 0 0 goodIo 1 1 secondBlock, ?_⟩
      rw [apply.eq_def (.handleBlock port2 sessionN io sysid compid block)]
      dsimp only
      rw [handleBlock, opens]
      dsimp only
      rcases acceptBlock_cases opened io sysid compid block with
        ⟨rejected, -⟩ | ⟨-, ⟨-, result⟩ | ⟨-, -, result⟩ | ⟨seeks, whole, -⟩⟩
      · exact (rejected fits).elim
      · rw [result]
        exact second_unanchored (latchedFp ▸ isOpen) lacks (sizes.current.trans current)
          (sizes.others.symm ▸ room)
      · rw [result]
        refine second_unanchored ?_ lacks (sizes.current.trans current) (sizes.others.symm ▸ room)
        simp only [settle, writeBlock, Option.isSome_map, latchedFp, isOpen]
      · exact (fails ⟨seeks, whole⟩).elim

/-- **No block is stored without block 0**, in every run in which the write of block 0
succeeds while the file lacks it; and where it fails, one more block breaks the rule. -/
theorem run_startGate {fcSysid : UInt8} {calls : List WriterCall}
    (kept : History.Guarded apply (fresh (BinlogWriter.initial fcSysid)) KeepsFirst calls) :
    (∀ earlier, earlier <:+ calls → (after fcSysid earlier).Anchored) ∧
      ∀ call, ¬KeepsFirst (after fcSysid calls) call →
        ∃ next, ¬(after fcSysid (next :: call :: calls)).Anchored :=
  ⟨fun _ suffix => (begun_after (kept.of_suffix suffix)).toAnchored,
    fun _ fails => (begun_after kept).loses fails⟩

/-- Block 0 opens a file and the block after it follows. -/
def twoBlocks : List WriterCall :=
  [.handleBlock 5000 1 goodIo 1 1 secondBlock, .handleBlock 5000 1 goodIo 1 1 firstBlock]

/-- Block 0 and then block 1 are stored, and the file begins with block 0. -/
theorem run_startGate_twoBlocks :
    ((after 0 twoBlocks).stored.map DataBlock.seqno = [0, 1]) ∧
      ∀ earlier, earlier <:+ twoBlocks → (after 0 earlier).Anchored := by
  refine ⟨rfl, (@run_startGate 0 twoBlocks ⟨?_, ?_, trivial⟩).1⟩
  · exact fun first => (Nat.one_ne_zero first).elim
  · exact fun _ _ _ _ _ => ⟨rfl, le_rfl⟩

/-- The disk is full when block 0 comes, and has room again for the next block. -/
def fullDisk : List WriterCall :=
  [.handleBlock 5000 1 goodIo 1 1 secondBlock,
    .handleBlock 5000 1 { goodIo with wrote := 0 } 1 1 firstBlock]

/-- The file begins with a hole where block 0 belongs. -/
theorem fullDisk_unanchored :
    (after 0 fullDisk).stored.map DataBlock.seqno = [1] ∧
      (after 0 fullDisk).writer.pendingAcks = [1] ∧ ¬(after 0 fullDisk).Anchored := by
  have stored : (after 0 fullDisk).stored = [secondBlock] := rfl
  have written : secondBlock ∈ (after 0 fullDisk).written := List.mem_cons_self
  refine ⟨rfl, rfl, fun anchored => ?_⟩
  obtain ⟨first, member, zero⟩ := anchored.later secondBlock written Nat.one_ne_zero
  rw [stored] at member
  rw [List.mem_singleton.mp member] at zero
  exact Nat.one_ne_zero zero

end Capture

end SupportProxy
