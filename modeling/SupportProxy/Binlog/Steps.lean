import SupportProxy.Binlog.Capture

/-! # What a call on the writer changes

The open file, the latched vehicle and the number of the next file change at four
places only: the lazy open, the latch, the write of a block and the rotation. -/

namespace SupportProxy

namespace BinlogWriter

/-- `(target_system, target_component)` -/
def target (writer : BinlogWriter) : UInt8 × UInt8 := (writer.targetSystem, writer.targetComponent)

/-- The two writers have the same file open, for the same vehicle. -/
structure SameFile (writer next : BinlogWriter) : Prop where
  fp : next.fp = writer.fp
  latched : next.anyBlockSeen = writer.anyBlockSeen
  target : next.target = writer.target
  pendingSessionN : next.pendingSessionN = writer.pendingSessionN

/-- The two writers count the same sizes. -/
structure SameSizes (writer next : BinlogWriter) : Prop where
  current : next.currentFileSize = writer.currentFileSize
  others : next.otherSessionsBytes = writer.otherSessionsBytes

private theorem countWrite_sameFile (writer : BinlogWriter) (io : BlockIo) :
    SameFile writer (writer.countWrite io) := by
  rw [countWrite]
  split_ifs <;> exact ⟨rfl, rfl, rfl, rfl⟩

/-- Recording a block leaves the file alone. -/
theorem recordBlock_sameFile (writer : BinlogWriter) (io : BlockIo) (seqno : Nat) :
    SameFile writer (writer.recordBlock io seqno) := by
  have counted := countWrite_sameFile
    { writer with currentFileSize := writer.prospectiveSize seqno } io
  rw [recordBlock_eq]
  dsimp only
  rw [raiseHighest_eq, noticeJump_eq]
  exact ⟨counted.fp, counted.latched, counted.target, counted.pendingSessionN⟩

/-- A START packet leaves the file and its sizes alone. -/
theorem sendStart_same (writer : BinlogWriter) (io : TickIo) (interval : Nat) :
    SameFile writer (writer.sendStart io interval).2 ∧
      SameSizes writer (writer.sendStart io interval).2 := by
  rw [sendStart]
  split_ifs <;> exact ⟨⟨rfl, rfl, rfl, rfl⟩, rfl, rfl⟩

/-- The NACK loop is about `nack_state` only. -/
theorem sendNacks_eq (io : TickIo) (order : List Nat) (budget : Nat) (writer : BinlogWriter) :
    ∃ nacks, (sendNacks io order budget writer).2 = { writer with nackState := nacks } := by
  induction order generalizing budget writer with
  | nil => exact ⟨_, rfl⟩
  | cons seqno rest ih =>
      rw [sendNacks]
      by_cases spent : budget = 0
      · rw [if_pos spent]
        exact ⟨_, rfl⟩
      rw [if_neg spent]
      cases writer.nackState seqno with
      | none => exact ih budget writer
      | some state =>
          dsimp only
          by_cases recent : state.lastSent ≠ 0 ∧ io.now < state.lastSent + nackRepeat
          · rw [if_pos recent]
            exact ih budget writer
          rw [if_neg recent]
          by_cases sends : io.nackSends seqno = true
          · rw [if_pos sends]
            obtain ⟨nacks, later⟩ := ih (budget - 1) { writer with
              nackState := Function.update writer.nackState seqno
                (some { state with lastSent := io.now }) }
            exact ⟨nacks, later⟩
          · rw [if_neg sends]
            exact ih budget writer

/-- `tick` leaves the file and its sizes alone. -/
theorem tick_same (writer : BinlogWriter) (io : TickIo) :
    SameFile writer (writer.tick io).2 ∧ SameSizes writer (writer.tick io).2 := by
  rw [tick]
  by_cases unlatched : (!writer.anyBlockSeen) = true
  · rw [if_pos unlatched]
    exact sendStart_same writer io startRepeat
  rw [if_neg unlatched]
  obtain ⟨file, sizes⟩ := sendStart_same writer io startKeepalive
  generalize writer.sendStart io startKeepalive = sent at file sizes ⊢
  obtain ⟨starts, next⟩ := sent
  dsimp only at file sizes ⊢
  by_cases closed : next.fp.isNone = true
  · rw [if_pos closed]
    exact ⟨file, sizes⟩
  rw [if_neg closed]
  obtain ⟨nacks, later⟩ := sendNacks_eq io io.order maxNacksPerTick
    (({ next with pendingAcks := [] }).dropStaleNackState io.now)
  dsimp only
  rw [later]
  exact ⟨⟨file.fp, file.latched, file.target, file.pendingSessionN⟩, sizes.current, sizes.others⟩

/-- A writer that has just opened a file. -/
def justOpened (writer : BinlogWriter) (port2 n : Nat) (io : BlockIo) : BinlogWriter :=
  { writer with
    fp := some ⟨⟨port2, io.date, n⟩, SparseArray.empty⟩
    port2 := port2
    currentFileSize := 0
    otherSessionsBytes := if port2 = 0 then 0 else io.othersAtOpen
    writesSinceQuotaRefresh := 0
    pendingSessionN := 0 }

/-- The number of the next file. -/
def nextN (writer : BinlogWriter) (sessionN : Nat) : Nat :=
  if writer.pendingSessionN ≠ 0 then writer.pendingSessionN else sessionN

/-- Past the strict-start gate a file was open, or block 0 has opened one. -/
theorem ensureOpen_opened {writer opened : BinlogWriter} {port2 sessionN seqno : Nat}
    {io : BlockIo} (ok : writer.ensureOpen port2 sessionN io seqno = .ok opened) :
    writer.fp.isSome = true ∧ opened = writer ∨
      writer.fp = none ∧ seqno = 0 ∧ io.opens = true ∧
        opened = writer.justOpened port2 (writer.nextN sessionN) io := by
  rw [ensureOpen] at ok
  by_cases isOpen : writer.fp.isSome = true
  · rw [if_pos isOpen] at ok
    exact .inl ⟨isOpen, (Except.ok.inj ok).symm⟩
  rw [if_neg isOpen] at ok
  by_cases first : seqno = 0
  · rw [if_neg (not_not.mpr first), openFile] at ok
    by_cases opens : io.opens = true
    · rw [if_pos opens] at ok
      exact .inr ⟨Option.not_isSome_iff_eq_none.mp isOpen, first, opens, (Except.ok.inj ok).symm⟩
    · rw [if_neg opens] at ok
      cases ok
  · rw [if_pos first] at ok
    cases ok

/-- The block is within both caps of `handle_block`. -/
structure Fits (writer : BinlogWriter) (seqno : Nat) : Prop where
  jump : writer.prospectiveSize seqno - writer.currentFileSize ≤ maxForwardJumpBytes
  quota : writer.otherSessionsBytes + writer.prospectiveSize seqno ≤ maxPerPort2Bytes

/-- The exits of `handle_block` behind the gate. -/
theorem acceptBlock_cases (writer : BinlogWriter) (io : BlockIo) (sysid compid : UInt8)
    (block : DataBlock) :
    (¬writer.Fits block.seqno ∧ (writer.acceptBlock io sysid compid block = (.jumpCap, writer) ∨
      writer.acceptBlock io sysid compid block = (.quota, writer))) ∨
    writer.Fits block.seqno ∧
      (io.seeks = false ∧ writer.acceptBlock io sysid compid block =
        (.seekFailed, writer.latchTarget sysid compid) ∨
      io.seeks = true ∧ io.wrote < blockBytes ∧ writer.acceptBlock io sysid compid block =
        (.shortWrite, (writer.latchTarget sysid compid).writeBlock (block.seqno * blockBytes)
          io.wrote block.data) ∨
      io.seeks = true ∧ blockBytes ≤ io.wrote ∧ writer.acceptBlock io sysid compid block =
        (.stored, ((writer.latchTarget sysid compid).writeBlock (block.seqno * blockBytes)
          io.wrote block.data).recordBlock io block.seqno)) := by
  rw [acceptBlock]
  dsimp only
  by_cases jump : maxForwardJumpBytes < writer.prospectiveSize block.seqno - writer.currentFileSize
  · rw [if_pos jump]
    exact .inl ⟨fun fits => Nat.not_lt.mpr fits.jump jump, .inl rfl⟩
  rw [if_neg jump]
  by_cases quota : maxPerPort2Bytes <
      writer.otherSessionsBytes + writer.prospectiveSize block.seqno
  · rw [if_pos quota]
    exact .inl ⟨fun fits => Nat.not_lt.mpr fits.quota quota, .inr rfl⟩
  rw [if_neg quota]
  refine .inr ⟨⟨Nat.not_lt.mp jump, Nat.not_lt.mp quota⟩, ?_⟩
  cases seeks : io.seeks with
  | false => exact .inl ⟨rfl, rfl⟩
  | true =>
      refine .inr ?_
      rw [if_neg (by simp only [Bool.not_true, Bool.false_eq_true, not_false_eq_true])]
      by_cases short : io.wrote < blockBytes
      · rw [if_pos short]
        exact .inl ⟨rfl, short, rfl⟩
      · rw [if_neg short]
        exact .inr ⟨rfl, Nat.not_lt.mp short, rfl⟩

/-- The latch is set once. -/
theorem latchTarget_eq (writer : BinlogWriter) (sysid compid : UInt8) :
    (writer.latchTarget sysid compid).anyBlockSeen = true ∧
      (writer.latchTarget sysid compid).fp = writer.fp ∧
      (writer.latchTarget sysid compid).pendingSessionN = writer.pendingSessionN ∧
      SameSizes writer (writer.latchTarget sysid compid) ∧
      (writer.latchTarget sysid compid).target =
        if writer.anyBlockSeen then writer.target else (sysid, compid) := by
  rw [latchTarget]
  cases latched : writer.anyBlockSeen with
  | false => exact ⟨rfl, rfl, rfl, ⟨rfl, rfl⟩, rfl⟩
  | true => exact ⟨latched, rfl, rfl, ⟨rfl, rfl⟩, rfl⟩

private theorem writeBlock_path (writer : BinlogWriter) (offset wrote : Nat)
    (data : Vector UInt8 200) :
    (writer.writeBlock offset wrote data).fp.map SessionFile.path =
      writer.fp.map SessionFile.path := by
  rw [writeBlock, Option.map_map]
  rfl

private theorem acceptBlock_path (writer : BinlogWriter) (io : BlockIo) (sysid compid : UInt8)
    (block : DataBlock) :
    (writer.acceptBlock io sysid compid block).2.fp.map SessionFile.path =
      writer.fp.map SessionFile.path := by
  have latched := (latchTarget_eq writer sysid compid).2.1
  rcases acceptBlock_cases writer io sysid compid block with
    ⟨-, result | result⟩ | ⟨-, ⟨-, result⟩ | ⟨-, -, result⟩ | ⟨-, -, result⟩⟩
  · rw [result]
  · rw [result]
  · rw [result, latched]
  · rw [result, writeBlock_path, latched]
  · rw [result, (recordBlock_sameFile _ _ _).fp, writeBlock_path, latched]

/-- `handle_block` leaves the open file open, and block 0 opens the next one. -/
theorem handleBlock_path (writer : BinlogWriter) (port2 sessionN : Nat) (io : BlockIo)
    (sysid compid : UInt8) (block : DataBlock) :
    (writer.fp.isSome = true →
      (writer.handleBlock port2 sessionN io sysid compid block).2.fp.map SessionFile.path =
        writer.fp.map SessionFile.path) ∧
      (writer.fp = none → (writer.handleBlock port2 sessionN io sysid compid block).2 = writer ∨
        (writer.handleBlock port2 sessionN io sysid compid block).2.fp.map SessionFile.path =
          some ⟨port2, io.date, writer.nextN sessionN⟩) := by
  rw [handleBlock]
  cases opens : writer.ensureOpen port2 sessionN io block.seqno with
  | error result => exact ⟨fun _ => rfl, fun _ => .inl rfl⟩
  | ok opened =>
      dsimp only
      rw [acceptBlock_path]
      rcases ensureOpen_opened opens with ⟨isOpen, rfl⟩ | ⟨closed, -, -, just⟩
      · refine ⟨fun _ => rfl, fun closed => ?_⟩
        rw [closed] at isOpen
        cases isOpen
      · refine ⟨fun isOpen => ?_, fun _ => .inr ?_⟩
        · rw [closed] at isOpen
          cases isOpen
        · rw [just]
          rfl

/-- `observe` starts over, or moves its watermark at most. -/
theorem observe_eq (writer : BinlogWriter) (nextN : Nat) (msg : Message) (timeBootMs : Nat) :
    writer.fp.isSome = true ∧ writer.observe nextN msg timeBootMs =
        { writer.rotateForReboot nextN with lastSystemTimeBootMs := timeBootMs } ∨
      ∃ mark, writer.observe nextN msg timeBootMs =
        { writer with lastSystemTimeBootMs := mark } := by
  rw [observe]
  split_ifs with other compid filtered reboot
  · exact .inr ⟨_, rfl⟩
  · exact .inr ⟨_, rfl⟩
  · exact .inr ⟨_, rfl⟩
  · rw [rebootSeen, Bool.and_eq_true] at reboot
    exact .inl ⟨reboot.2, rfl⟩
  · exact .inr ⟨_, rfl⟩

/-- `handle_block` goes on at once where a file is open. -/
theorem handleBlock_open {writer : BinlogWriter} (isOpen : writer.fp.isSome = true)
    (port2 sessionN : Nat) (io : BlockIo) (sysid compid : UInt8) (block : DataBlock) :
    writer.handleBlock port2 sessionN io sysid compid block =
      writer.acceptBlock io sysid compid block := by
  rw [handleBlock, ensureOpen, if_pos isOpen]

end BinlogWriter

namespace Capture

open BinlogWriter

/-- A history with an open file is closed. -/
theorem closed_of_open {capture : Capture} (isOpen : capture.writer.fp.isSome = true) :
    Closed capture := by
  intro closed
  rw [closed] at isOpen
  cases isOpen

/-- `tick` closes no history and opens none. -/
theorem Closed.ticked {capture : Capture} (closed : Closed capture) (io : TickIo) :
    Closed (apply (.tick io) capture) := by
  rw [apply]
  cases streams : capture.writer.streaming with
  | false =>
      obtain ⟨same, packets⟩ := tick_waiting streams io
      rw [ackedBy_starts packets, List.append_nil]
      simp only [Bool.false_and, Bool.or_false]
      exact closed.sameLog same
  | true =>
      rw [streaming, Bool.and_eq_true] at streams
      intro isClosed
      have opened := streams.2
      rw [← (tick_same capture.writer io).1.fp, isClosed] at opened
      cases opened

end Capture

end SupportProxy
