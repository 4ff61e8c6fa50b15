import SupportProxy.Binlog.Acknowledgement
import SupportProxy.Binlog.Steps

/-! # Reboot detection

`observe` compares the vehicle's clock with a watermark, the clock of the
SYSTEM_TIME before. The sum with the tolerance is one of 32 bits, so in the last
ten seconds before the clock starts over it looks like a jump back. -/

namespace SupportProxy

namespace BinlogWriter

/-- The two writers watch the clock of the same vehicle, at the same watermark. -/
structure SameClock (writer next : BinlogWriter) : Prop where
  mark : next.lastSystemTimeBootMs = writer.lastSystemTimeBootMs
  filter : next.fcSysidFilter = writer.fcSysidFilter

private theorem SameClock.trans {writer next last : BinlogWriter} (first : SameClock writer next)
    (second : SameClock next last) : SameClock writer last :=
  ⟨second.mark.trans first.mark, second.filter.trans first.filter⟩

private theorem latchTarget_sameClock (writer : BinlogWriter) (sysid compid : UInt8) :
    SameClock writer (writer.latchTarget sysid compid) := by
  rw [latchTarget]
  split_ifs <;> exact ⟨rfl, rfl⟩

private theorem recordBlock_sameClock (writer : BinlogWriter) (io : BlockIo) (seqno : Nat) :
    SameClock writer (writer.recordBlock io seqno) := by
  have counted : SameClock writer
      (({ writer with currentFileSize := writer.prospectiveSize seqno }).countWrite io) := by
    rw [countWrite]
    split_ifs <;> exact ⟨rfl, rfl⟩
  rw [recordBlock_eq]
  dsimp only
  rw [raiseHighest_eq, noticeJump_eq]
  exact ⟨counted.mark, counted.filter⟩

private theorem acceptBlock_sameClock (writer : BinlogWriter) (io : BlockIo) (sysid compid : UInt8)
    (block : DataBlock) : SameClock writer (writer.acceptBlock io sysid compid block).2 := by
  have latched := latchTarget_sameClock writer sysid compid
  rcases acceptBlock_cases writer io sysid compid block with
    ⟨-, result | result⟩ | ⟨-, ⟨-, result⟩ | ⟨-, -, result⟩ | ⟨-, -, result⟩⟩
  · rw [result]
    exact ⟨rfl, rfl⟩
  · rw [result]
    exact ⟨rfl, rfl⟩
  · rw [result]
    exact latched
  · rw [result]
    exact latched.trans ⟨rfl, rfl⟩
  · rw [result]
    have written : SameClock (writer.latchTarget sysid compid)
        ((writer.latchTarget sysid compid).writeBlock (block.seqno * blockBytes) io.wrote
          block.data) := ⟨rfl, rfl⟩
    exact latched.trans (written.trans (recordBlock_sameClock _ io block.seqno))

private theorem handleBlock_sameClock (writer : BinlogWriter) (port2 sessionN : Nat) (io : BlockIo)
    (sysid compid : UInt8) (block : DataBlock) :
    SameClock writer (writer.handleBlock port2 sessionN io sysid compid block).2 := by
  rw [handleBlock]
  cases opens : writer.ensureOpen port2 sessionN io block.seqno with
  | error result => exact ⟨rfl, rfl⟩
  | ok opened =>
      have accepted := acceptBlock_sameClock opened io sysid compid block
      rcases ensureOpen_opened opens with ⟨-, rfl⟩ | ⟨-, -, -, just⟩
      · exact accepted
      · refine SameClock.trans ?_ accepted
        rw [just]
        exact ⟨rfl, rfl⟩

private theorem sendStart_sameClock (writer : BinlogWriter) (io : TickIo) (interval : Nat) :
    SameClock writer (writer.sendStart io interval).2 := by
  rw [sendStart]
  split_ifs <;> exact ⟨rfl, rfl⟩

private theorem tick_sameClock (writer : BinlogWriter) (io : TickIo) :
    SameClock writer (writer.tick io).2 := by
  rw [tick]
  by_cases unlatched : (!writer.anyBlockSeen) = true
  · rw [if_pos unlatched]
    exact sendStart_sameClock writer io startRepeat
  rw [if_neg unlatched]
  have sent := sendStart_sameClock writer io startKeepalive
  generalize writer.sendStart io startKeepalive = outcome at sent ⊢
  obtain ⟨starts, next⟩ := outcome
  dsimp only at sent ⊢
  by_cases closed : next.fp.isNone = true
  · rw [if_pos closed]
    exact sent
  rw [if_neg closed]
  obtain ⟨nacks, later⟩ := sendNacks_eq io io.order maxNacksPerTick
    (({ next with pendingAcks := [] }).dropStaleNackState io.now)
  dsimp only
  rw [later]
  exact ⟨sent.mark, sent.filter⟩

/-- The message passes the filters of `observe`. -/
def Passes (fcSysid : UInt8) (msg : Message) : Prop :=
  msg.msgid = Message.systemTime ∧ msg.compid = compIdAutopilot1 ∧
    (fcSysid = 0 ∨ msg.sysid = fcSysid)

instance (fcSysid : UInt8) (msg : Message) : Decidable (Passes fcSysid msg) :=
  inferInstanceAs (Decidable (_ ∧ _))

private theorem observe_of_passes {writer : BinlogWriter} {msg : Message}
    (passes : Passes writer.fcSysidFilter msg) (nextN timeBootMs : Nat) :
    writer.observe nextN msg timeBootMs =
      { (if writer.rebootSeen timeBootMs then writer.rotateForReboot nextN else writer) with
        lastSystemTimeBootMs := timeBootMs } := by
  obtain ⟨systemTime, autopilot, filtered⟩ := passes
  rw [observe, if_neg (not_not.mpr systemTime), if_neg (not_not.mpr autopilot), if_neg]
  rintro ⟨set, other⟩
  exact filtered.elim set other

private theorem observe_of_not_passes {writer : BinlogWriter} {msg : Message}
    (stopped : ¬Passes writer.fcSysidFilter msg) (nextN timeBootMs : Nat) :
    writer.observe nextN msg timeBootMs = writer := by
  rw [observe]
  by_cases systemTime : msg.msgid = Message.systemTime
  · by_cases autopilot : msg.compid = compIdAutopilot1
    · rw [if_neg (not_not.mpr systemTime), if_neg (not_not.mpr autopilot), if_pos]
      rw [Passes, not_and, not_and] at stopped
      exact not_or.mp (stopped systemTime autopilot)
    · rw [if_neg (not_not.mpr systemTime), if_pos autopilot]
  · rw [if_pos systemTime]

/-- With a file open, the file is closed exactly by a rotation. -/
theorem observe_closes {writer : BinlogWriter} (isOpen : writer.fp.isSome = true) (nextN : Nat)
    (msg : Message) (timeBootMs : Nat) :
    (writer.observe nextN msg timeBootMs).fp = none ↔
      Passes writer.fcSysidFilter msg ∧ writer.rebootSeen timeBootMs = true := by
  have notClosed : writer.fp ≠ none := Option.isSome_iff_ne_none.mp isOpen
  by_cases passes : Passes writer.fcSysidFilter msg
  · rw [observe_of_passes passes]
    cases reboot : writer.rebootSeen timeBootMs with
    | false => simp only [Bool.false_eq_true, ↓reduceIte, notClosed, and_false]
    | true => simp only [↓reduceIte, rotateForReboot, passes, and_self]
  · rw [observe_of_not_passes passes]
    simp only [notClosed, passes, false_and]

end BinlogWriter

namespace Capture

open BinlogWriter

/-- The clock of the last SYSTEM_TIME that passed the filters. -/
def watermark (fcSysid : UInt8) : List WriterCall → Option Nat
  | [] => none
  | .observe _ msg timeBootMs :: before =>
      if Passes fcSysid msg then some timeBootMs else watermark fcSysid before
  | .handleBlock _ _ _ _ _ _ :: before => watermark fcSysid before
  | .tick _ :: before => watermark fcSysid before

/-- The writer's watermark is that of the run, 0 standing for none. -/
theorem after_watermark (fcSysid : UInt8) (calls : List WriterCall) :
    (after fcSysid calls).writer.lastSystemTimeBootMs = (watermark fcSysid calls).getD 0 ∧
      (after fcSysid calls).writer.fcSysidFilter = fcSysid := by
  induction calls with
  | nil => exact ⟨rfl, rfl⟩
  | cons call before ih =>
      obtain ⟨mark, filter⟩ := ih
      rw [after, History.replay_cons]
      rw [after] at mark filter
      generalize History.replay apply (fresh (BinlogWriter.initial fcSysid)) before = capture
        at mark filter ⊢
      cases call with
      | handleBlock port2 sessionN io sysid compid block =>
          have same := handleBlock_sameClock capture.writer port2 sessionN io sysid compid block
          rw [apply, watermark, settle_writer]
          exact ⟨same.mark.trans mark, same.filter.trans filter⟩
      | tick io =>
          have same := tick_sameClock capture.writer io
          exact ⟨same.mark.trans mark, same.filter.trans filter⟩
      | observe nextN msg timeBootMs =>
          rw [apply_observe_writer, watermark]
          by_cases passes : Passes fcSysid msg
          · rw [if_pos passes, observe_of_passes (filter.symm ▸ passes)]
            refine ⟨rfl, Eq.trans ?_ filter⟩
            cases capture.writer.rebootSeen timeBootMs <;> rfl
          · rw [if_neg passes, observe_of_not_passes (filter.symm ▸ passes)]
            exact ⟨mark, filter⟩

/-- `observe` rotates on a message that passes the filters and whose clock is ten seconds
behind the watermark, and on no other. -/
def RotatesExactly (fcSysid : UInt8) (before : List WriterCall) : WriterCall → Prop
  | .observe nextN msg timeBootMs =>
      (after fcSysid before).writer.fp.isSome = true →
        (((after fcSysid before).writer.observe nextN msg timeBootMs).fp = none ↔
          Passes fcSysid msg ∧ ∃ mark, watermark fcSysid before = some mark ∧ mark ≠ 0 ∧
            timeBootMs + rebootTimeBackwardMs ≤ mark)
  | _ => True

/-- A sum that wraps around stays above the watermark. -/
def Unwrapped (fcSysid : UInt8) (before : List WriterCall) : WriterCall → Prop
  | .observe _ msg timeBootMs =>
      (after fcSysid before).writer.fp.isSome = true → Passes fcSysid msg →
        ∀ mark, watermark fcSysid before = some mark → mark ≠ 0 →
          2 ^ 32 ≤ timeBootMs + rebootTimeBackwardMs →
            mark < timeBootMs + rebootTimeBackwardMs - 2 ^ 32
  | _ => True

/-- The clock does not go back. -/
def Advances (fcSysid : UInt8) (before : List WriterCall) : WriterCall → Prop
  | .observe _ msg timeBootMs =>
      Passes fcSysid msg → ∀ mark, watermark fcSysid before = some mark → mark ≤ timeBootMs
  | _ => True

/-- `observe` leaves the open file open. -/
def StaysOpen (fcSysid : UInt8) (before : List WriterCall) : WriterCall → Prop
  | .observe nextN msg timeBootMs =>
      (after fcSysid before).writer.fp.isSome = true →
        ((after fcSysid before).writer.observe nextN msg timeBootMs).fp.isSome = true
  | _ => True

/-- `time_boot_ms` is a `uint32_t`. -/
def WordClock : WriterCall → Prop
  | .observe _ _ timeBootMs => timeBootMs < 2 ^ 32
  | _ => True

private theorem watermark_lt {fcSysid : UInt8} {calls : List WriterCall}
    (words : ∀ call ∈ calls, WordClock call) {mark : Nat}
    (marked : watermark fcSysid calls = some mark) : mark < 2 ^ 32 := by
  induction calls with
  | nil => cases marked
  | cons call before ih =>
      have earlier := ih fun other member => words other (List.mem_cons_of_mem _ member)
      cases call with
      | handleBlock port2 sessionN io sysid compid block => exact earlier marked
      | tick io => exact earlier marked
      | observe nextN msg timeBootMs =>
          rw [watermark] at marked
          by_cases passes : Passes fcSysid msg
          · rw [if_pos passes] at marked
            obtain rfl := Option.some.inj marked
            exact words _ List.mem_cons_self
          · rw [if_neg passes] at marked
            exact earlier marked

/-- When a message rotates, in terms of the run. -/
theorem closes_iff {fcSysid : UInt8} {before : List WriterCall}
    (isOpen : (after fcSysid before).writer.fp.isSome = true) (nextN : Nat) (msg : Message)
    (timeBootMs : Nat) :
    ((after fcSysid before).writer.observe nextN msg timeBootMs).fp = none ↔
      Passes fcSysid msg ∧ ∃ mark, watermark fcSysid before = some mark ∧ mark ≠ 0 ∧
        (timeBootMs + rebootTimeBackwardMs) % 2 ^ 32 ≤ mark := by
  obtain ⟨mark, filter⟩ := after_watermark fcSysid before
  rw [observe_closes isOpen, filter, rebootSeen, isOpen, Bool.and_true, Bool.and_eq_true,
    decide_eq_true_iff, decide_eq_true_iff, mark]
  cases watermark fcSysid before with
  | none => simp only [Option.getD_none, ne_eq, not_true_eq_false, false_and, and_false,
      reduceCtorEq, exists_false]
  | some mark => simp only [Option.getD_some, Option.some.injEq, exists_eq_left']

private theorem rotatesExactly_iff {fcSysid : UInt8} {before : List WriterCall} {call : WriterCall}
    (word : WordClock call) (words : ∀ call ∈ before, WordClock call) :
    RotatesExactly fcSysid before call ↔ Unwrapped fcSysid before call := by
  cases call with
  | handleBlock port2 sessionN io sysid compid block => exact Iff.rfl
  | tick io => exact Iff.rfl
  | observe nextN msg timeBootMs =>
      rw [RotatesExactly, Unwrapped]
      refine forall_congr' fun isOpen => ?_
      rw [closes_iff isOpen, and_congr_right_iff]
      refine forall_congr' fun passes => ?_
      rw [WordClock] at word
      rw [rebootTimeBackwardMs]
      cases marked : watermark fcSysid before with
      | none => simp only [reduceCtorEq, false_and, exists_false, false_implies, implies_true]
      | some mark =>
          have small := watermark_lt words marked
          simp only [Option.some.injEq, exists_eq_left', forall_eq']
          omega

private theorem staysOpen_iff {fcSysid : UInt8} {before : List WriterCall} {call : WriterCall}
    (word : WordClock call) (advances : Advances fcSysid before call) :
    StaysOpen fcSysid before call ↔ Unwrapped fcSysid before call := by
  cases call with
  | handleBlock port2 sessionN io sysid compid block => exact Iff.rfl
  | tick io => exact Iff.rfl
  | observe nextN msg timeBootMs =>
      rw [StaysOpen, Unwrapped]
      refine forall_congr' fun isOpen => ?_
      rw [Option.isSome_iff_ne_none, ne_eq, closes_iff isOpen, not_and]
      refine forall_congr' fun passes => ?_
      have forward := advances passes
      rw [WordClock] at word
      rw [rebootTimeBackwardMs]
      cases marked : watermark fcSysid before with
      | none => simp only [reduceCtorEq, false_and, exists_false, not_false_eq_true,
          false_implies, implies_true]
      | some mark =>
          have behind := forward mark marked
          simp only [Option.some.injEq, exists_eq_left', forall_eq']
          omega

/-- **Reboot detection** is exact in every run in which no sum wraps around to a time before
the watermark, and in no other; and so it is for a clock that only advances. -/
theorem run_reboot {fcSysid : UInt8} {calls : List WriterCall}
    (words : ∀ call ∈ calls, WordClock call) :
    (History.Obeys (RotatesExactly fcSysid) calls ↔ History.Obeys (Unwrapped fcSysid) calls) ∧
      (History.Obeys (Advances fcSysid) calls →
        (History.Obeys (StaysOpen fcSysid) calls ↔ History.Obeys (Unwrapped fcSysid) calls)) := by
  induction calls with
  | nil => exact ⟨Iff.rfl, fun _ => Iff.rfl⟩
  | cons call before ih =>
      have earlier : ∀ call ∈ before, WordClock call :=
        fun other member => words other (List.mem_cons_of_mem _ member)
      obtain ⟨exactly, stays⟩ := ih earlier
      have word := words call List.mem_cons_self
      simp only [History.obeys_cons]
      refine ⟨and_congr (rotatesExactly_iff word earlier) exactly, ?_⟩
      rintro ⟨advances, earlier⟩
      exact and_congr (staysOpen_iff word advances) (stays earlier)

/-- A SYSTEM_TIME of the autopilot of system 1. -/
def systemTimeMessage : Message := ⟨Message.systemTime, 1, compIdAutopilot1, 0, 0, [], []⟩

/-- Block 0 and two SYSTEM_TIMEs, a second apart. -/
def secondApart (timeBootMs : Nat) : List WriterCall :=
  [.observe 2 systemTimeMessage (timeBootMs + 1000), .observe 2 systemTimeMessage timeBootMs,
    .handleBlock 5000 1 goodIo 1 1 firstBlock]

/-- A boot clock that goes back five seconds rotates nothing. -/
theorem run_reboot_secondApart :
    (History.Obeys (RotatesExactly 0) (secondApart 5000) ↔
      History.Obeys (Unwrapped 0) (secondApart 5000)) ∧
      (History.Obeys (StaysOpen 0) (secondApart 5000) ↔
        History.Obeys (Unwrapped 0) (secondApart 5000)) := by
  have words : ∀ call ∈ secondApart 5000, WordClock call := by
    simp [secondApart, WordClock]
  have advances : History.Obeys (Advances 0) (secondApart 5000) := by
    simp [secondApart, Advances, watermark, systemTimeMessage, Passes]
  exact ⟨(run_reboot words).1, (run_reboot words).2 advances⟩

/-- Past 49 days the clock goes on by a second, and the file is closed. -/
theorem run_reboot_longUptime :
    History.Obeys (Advances 0) (secondApart 4294966000) ∧
      (after 0 (secondApart 4294966000).tail).writer.fp.isSome = true ∧
      (after 0 (secondApart 4294966000)).writer.fp = none ∧
      ¬History.Obeys (RotatesExactly 0) (secondApart 4294966000) := by
  have advances : History.Obeys (Advances 0) (secondApart 4294966000) := by
    simp [secondApart, Advances, watermark, systemTimeMessage, Passes]
  have isOpen : (after 0 (secondApart 4294966000).tail).writer.fp.isSome = true := rfl
  have closed : ((after 0 (secondApart 4294966000).tail).writer.observe 2 systemTimeMessage
      (4294966000 + 1000)).fp = none := rfl
  refine ⟨advances, isOpen, rfl, fun exactly => ?_⟩
  obtain ⟨-, mark, marked, -, back⟩ := (exactly.1 isOpen).mp closed
  have last : watermark 0 (secondApart 4294966000).tail = some 4294966000 := rfl
  obtain rfl := Option.some.inj (last.symm.trans marked)
  simp [rebootTimeBackwardMs] at back

end Capture

end SupportProxy
