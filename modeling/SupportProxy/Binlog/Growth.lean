import SupportProxy.Binlog.GapTracking
import SupportProxy.Binlog.Steps
import Mathlib.Data.Finset.Card

/-! # How far a session file grows

The caps of `handle_block` are all that bounds a file whose seqnos come from an
unauthenticated port. What passes them also bounds `seen_bitmap` and the keys of
`nack_state`, and what does not leaves the writer as it was. -/

namespace SupportProxy

/-- Blocks of a file within the quota. -/
def maxBlocks : Nat := maxPerPort2Bytes / blockBytes

/-- The chunks of `seen_bitmap` for a file within the quota. -/
def maxBitmapBytes : Nat := ((maxBlocks - 1) / 8 + 1 + 65535) / 65536 * 65536

/-- The size of a file that ends with the greatest of the blocks stored. -/
def Spans (stored : List DataBlock) (size : Nat) : Prop :=
  stored = [] ∧ size = 0 ∨
    ∃ greatest ∈ stored, (∀ block ∈ stored, block.seqno ≤ greatest.seqno) ∧
      size = blockBytes * (1 + greatest.seqno)

private theorem Spans.append {stored : List DataBlock} {size : Nat} (spans : Spans stored size)
    (block : DataBlock) :
    Spans (stored ++ [block]) (max size (block.seqno * blockBytes + blockBytes)) := by
  have own : block.seqno * blockBytes + blockBytes = blockBytes * (1 + block.seqno) := by
    rw [Nat.mul_add, Nat.mul_one, Nat.mul_comm, Nat.add_comm]
  have last : block ∈ stored ++ [block] := List.mem_append_right _ List.mem_cons_self
  rw [own]
  rcases spans with ⟨rfl, rfl⟩ | ⟨greatest, member, above, rfl⟩
  · refine .inr ⟨block, last, ?_, Nat.max_eq_right (Nat.zero_le _)⟩
    intro other isOther
    rw [List.mem_singleton.mp isOther]
  · rcases Nat.le_total greatest.seqno block.seqno with less | less
    · refine .inr ⟨block, last, ?_,
        Nat.max_eq_right (Nat.mul_le_mul_left _ (Nat.add_le_add_left less 1))⟩
      intro other isOther
      rcases List.mem_append.mp isOther with before | new
      · exact (above other before).trans less
      · rw [List.mem_singleton.mp new]
    · refine .inr ⟨greatest, List.mem_append_left _ member, ?_,
        Nat.max_eq_left (Nat.mul_le_mul_left _ (Nat.add_le_add_left less 1))⟩
      intro other isOther
      rcases List.mem_append.mp isOther with before | new
      · exact above other before
      · rwa [List.mem_singleton.mp new]

namespace BinlogWriter

private theorem recordBlock_size (writer : BinlogWriter) (io : BlockIo) (seqno : Nat) :
    (writer.recordBlock io seqno).currentFileSize = writer.prospectiveSize seqno := by
  rw [recordBlock_eq]
  dsimp only
  rw [raiseHighest_eq, noticeJump_eq]
  change (({ writer with
    currentFileSize := writer.prospectiveSize seqno }).countWrite io).currentFileSize = _
  rw [countWrite]
  split_ifs <;> rfl

private theorem recordBlock_bitmap (writer : BinlogWriter) (io : BlockIo) (seqno : Nat) :
    (writer.recordBlock io seqno).seenBitmap = (writer.markSeqnoSeen seqno).seenBitmap := by
  have same := countWrite_sameLog { writer with currentFileSize := writer.prospectiveSize seqno } io
  rw [recordBlock_eq]
  dsimp only
  rw [raiseHighest_eq, noticeJump_eq]
  change ((({ writer with
    currentFileSize := writer.prospectiveSize seqno
  }).countWrite io).markSeqnoSeen seqno).seenBitmap = _
  simp only [markSeqnoSeen, same.seen]

private theorem markSeqnoSeen_size (writer : BinlogWriter) (seqno : Nat) :
    (writer.markSeqnoSeen seqno).seenBitmap.size ≤
      max writer.seenBitmap.size ((seqno / 8 + 1 + 65535) / 65536 * 65536) := by
  rw [markSeqnoSeen]
  dsimp only
  split_ifs with inside
  · exact Nat.le_max_left _ _
  · exact le_rfl

/-- The size counts the blocks that are stored. -/
theorem acceptBlock_size (writer : BinlogWriter) (io : BlockIo) (sysid compid : UInt8)
    (block : DataBlock) :
    (writer.acceptBlock io sysid compid block).2.currentFileSize =
      if (writer.acceptBlock io sysid compid block).1 = .stored then
        writer.prospectiveSize block.seqno
      else writer.currentFileSize := by
  obtain ⟨-, -, -, sizes, -⟩ := latchTarget_eq writer sysid compid
  rcases acceptBlock_cases writer io sysid compid block with
    ⟨-, result | result⟩ | ⟨-, ⟨-, result⟩ | ⟨-, -, result⟩ | ⟨-, -, result⟩⟩
  · rw [result]
    rfl
  · rw [result]
    rfl
  · rw [result]
    exact sizes.current
  · rw [result]
    exact sizes.current
  · rw [result, if_pos rfl, recordBlock_size, prospectiveSize, prospectiveSize]
    exact congrArg (max · _) sizes.current

/-- What the caps promise of an exit of `handle_block`. -/
def Capped (writer : BinlogWriter) (outcome : BlockResult × BinlogWriter) : Prop :=
  if outcome.1 = .jumpCap ∨ outcome.1 = .quota then outcome.2 = writer
  else outcome.2.currentFileSize ≤ writer.currentFileSize + maxForwardJumpBytes ∧
    writer.otherSessionsBytes + outcome.2.currentFileSize ≤ maxPerPort2Bytes

private theorem acceptBlock_capped (writer : BinlogWriter) (io : BlockIo) (sysid compid : UInt8)
    (block : DataBlock) : writer.Capped (writer.acceptBlock io sysid compid block) := by
  have size := acceptBlock_size writer io sysid compid block
  have most : writer.Fits block.seqno →
      (writer.acceptBlock io sysid compid block).2.currentFileSize ≤
          writer.currentFileSize + maxForwardJumpBytes ∧
        writer.otherSessionsBytes + (writer.acceptBlock io sysid compid block).2.currentFileSize ≤
          maxPerPort2Bytes := by
    rintro ⟨jump, quota⟩
    have least : writer.currentFileSize ≤ writer.prospectiveSize block.seqno := Nat.le_max_left _ _
    rw [size]
    split_ifs <;> omega
  rw [Capped]
  rcases acceptBlock_cases writer io sysid compid block with
    ⟨-, result | result⟩ | ⟨fits, others⟩
  · rw [result, if_pos (.inl rfl)]
  · rw [result, if_pos (.inr rfl)]
  · have accepted : ¬((writer.acceptBlock io sysid compid block).1 = .jumpCap ∨
        (writer.acceptBlock io sysid compid block).1 = .quota) := by
      rcases others with ⟨-, result⟩ | ⟨-, -, result⟩ | ⟨-, -, result⟩ <;>
        simp only [result, reduceCtorEq, or_self, not_false_eq_true]
    rw [if_neg accepted]
    exact most fits

end BinlogWriter

namespace Capture

open BinlogWriter

private theorem settle_stored (block : DataBlock) (capture : Capture)
    (outcome : BlockResult × BinlogWriter) :
    (settle block capture outcome).stored =
      if outcome.1 = .stored then capture.stored ++ [block] else capture.stored := by
  obtain ⟨result, next⟩ := outcome
  cases result <;> rfl

private theorem spans_accept {capture : Capture}
    (spans : Spans capture.stored capture.writer.currentFileSize) (io : BlockIo)
    (sysid compid : UInt8) (block : DataBlock) :
    let next := capture.settle block (capture.writer.acceptBlock io sysid compid block)
    Spans next.stored next.writer.currentFileSize := by
  dsimp only
  rw [settle_stored, settle_writer, acceptBlock_size]
  by_cases stored : (capture.writer.acceptBlock io sysid compid block).1 = .stored
  · rw [if_pos stored, if_pos stored]
    exact spans.append block
  · rw [if_neg stored, if_neg stored]
    exact spans

/-- The size of the open file is that of the blocks stored. -/
theorem spans_after (fcSysid : UInt8) (calls : List WriterCall) :
    (after fcSysid calls).writer.fp.isSome = true →
      Spans (after fcSysid calls).stored (after fcSysid calls).writer.currentFileSize := by
  induction calls with
  | nil => exact fun isOpen => absurd isOpen Bool.false_ne_true
  | cons call before ih =>
      have closed := (tracked_rules.after (admits_any fcSysid before)).closed
      rw [after, History.replay_cons]
      rw [after] at ih closed
      generalize History.replay apply (fresh (BinlogWriter.initial fcSysid)) before = capture
        at ih closed ⊢
      cases call with
      | handleBlock port2 sessionN io sysid compid block =>
          rw [apply, handleBlock]
          cases opens : capture.writer.ensureOpen port2 sessionN io block.seqno with
          | error result =>
              obtain rfl | rfl := ensureOpen_error opens
              · exact ih
              · exact ih
          | ok opened =>
              intro _
              rcases ensureOpen_opened opens with ⟨isOpen, rfl⟩ | ⟨isClosed, -, -, just⟩
              · exact spans_accept (ih isOpen) io sysid compid block
              · obtain ⟨started, -⟩ := closed isClosed
                rw [started, settle_fresh block _ opened]
                refine spans_accept (.inl ⟨rfl, ?_⟩) io sysid compid block
                rw [just]
                rfl
      | observe nextN msg timeBootMs =>
          intro isOpen
          rw [apply_observe_writer] at isOpen
          rw [apply, if_pos isOpen]
          rcases observe_eq capture.writer nextN msg timeBootMs with ⟨-, rotated⟩ | ⟨mark, marked⟩
          · rw [rotated] at isOpen
            cases isOpen
          · rw [marked] at isOpen ⊢
            exact ih isOpen
      | tick io =>
          obtain ⟨file, sizes⟩ := tick_same capture.writer io
          intro isOpen
          have kept := ih (file.fp ▸ isOpen)
          rw [← sizes.current] at kept
          exact kept

/-- The bitmap covers blocks within the quota only. -/
structure Mapped (capture : Capture) : Prop where
  closed : Closed capture
  size : capture.writer.seenBitmap.size ≤ maxBitmapBytes

private theorem mapped_rules : Rules (fun _ _ => True) Mapped where
  first := fun _ => trivial
  closed := fun _ mapped => mapped.closed
  blank := fun writer blank => ⟨fun _ => ⟨rfl, blank⟩, by
    rw [fresh, blank.seen]
    exact Nat.zero_le _⟩
  same := fun capture writer mapped same => ⟨mapped.closed.sameLog same, same.seen ▸ mapped.size⟩
  wrote := fun capture block wrote mapped isOpen _ =>
    ⟨closed_of_open (by rw [writeBlock, Option.isSome_map, isOpen]), mapped.size⟩
  stores := by
    intro capture block io mapped streams _ small _
    rw [streaming, Bool.and_eq_true] at streams
    refine ⟨closed_of_open ?_, ?_⟩
    · dsimp only
      rw [(recordBlock_sameFile _ io block.seqno).fp, writeBlock, Option.isSome_map, streams.2]
    · dsimp only
      rw [recordBlock_bitmap]
      refine (markSeqnoSeen_size _ block.seqno).trans (Nat.max_le.mpr ⟨mapped.size, ?_⟩)
      have limit : maxBitmapBytes = 720896 := rfl
      rw [blockBytes, maxPerPort2Bytes] at small
      omega
  ticks := by
    intro capture io mapped
    refine ⟨mapped.closed.ticked io, ?_⟩
    have seen : (capture.writer.tick io).2.seenBitmap = capture.writer.seenBitmap := by
      cases streams : capture.writer.streaming with
      | false => exact (tick_waiting streams io).1.seen
      | true =>
          obtain ⟨_, _, _, _, _, asked⟩ := tick_streaming streams io
          exact asked.seen
    exact (congrArg SparseArray.size seen).trans_le mapped.size

/-- **The caps hold.** After every run, with the file open, its size is that of the blocks
stored, a block within the caps keeps to them and one beyond them leaves no trace;
`seen_bitmap` and `nack_state` never exceed a constant. -/
theorem run_growth (fcSysid : UInt8) (calls : List WriterCall) :
    let capture := after fcSysid calls
    (capture.writer.fp.isSome = true →
      Spans capture.stored capture.writer.currentFileSize ∧
        ∀ port2 sessionN io sysid compid block,
          capture.writer.Capped
            (capture.writer.handleBlock port2 sessionN io sysid compid block)) ∧
      capture.writer.seenBitmap.size ≤ maxBitmapBytes ∧
      ∃ keys : Finset Nat, keys.card ≤ maxBlocks ∧
        ∀ seqno, seqno ∈ keys ↔ (capture.writer.nackState seqno).isSome = true := by
  have tracked := tracked_rules.after (admits_any fcSysid calls)
  have mapped := mapped_rules.after (admits_any fcSysid calls)
  refine ⟨fun isOpen => ⟨spans_after fcSysid calls isOpen, ?_⟩, mapped.size, ?_⟩
  · intro port2 sessionN io sysid compid block
    rw [handleBlock_open isOpen]
    exact acceptBlock_capped _ io sysid compid block
  · refine ⟨(Finset.range maxBlocks).filter fun seqno =>
      ((after fcSysid calls).writer.nackState seqno).isSome = true, ?_, ?_⟩
    · exact (Finset.card_filter_le _ _).trans (Finset.card_range maxBlocks).le
    · intro seqno
      rw [Finset.mem_filter, Finset.mem_range, and_iff_right_iff_imp]
      intro key
      have below := (tracked.key seqno key).1
      have bound := tracked.bound
      rw [blockBytes, maxPerPort2Bytes] at bound
      rw [maxBlocks, maxPerPort2Bytes, blockBytes]
      omega

end Capture

end SupportProxy
