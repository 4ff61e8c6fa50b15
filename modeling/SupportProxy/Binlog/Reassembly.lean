import SupportProxy.Binlog.Acknowledgement
import SupportProxy.Binlog.GapTracking
import SupportProxy.Binlog.Steps
import SupportProxy.Library.Assembly

/-! # The log in the session file

A vehicle streams one log, and its blocks come in any order, more than once or not at
all, and some are written in part. The session file is the blocks that were written, each
at its place, with holes for the others. -/

namespace SupportProxy.Capture

open BinlogWriter

/-- The blocks are those of the log `source`. -/
def Streams (source : Nat → Vector UInt8 200) (blocks : List DataBlock) : Prop :=
  ∀ block ∈ blocks, block.data = source block.seqno

/-- The open file is assembled from the blocks written, and those stored are whole. -/
def Assembled (source : Nat → Vector UInt8 200) (capture : Capture) : Prop :=
  ∀ file, capture.writer.fp = some file → ∃ held : Nat → Nat,
    file.bytes.Assembles blockBytes (fun seqno => (source seqno).toList) held ∧
      (∀ block ∈ capture.stored, held block.seqno = blockBytes) ∧
      ∀ seqno, 0 < held seqno → ∃ block ∈ capture.written, block.seqno = seqno

variable {source : Nat → Vector UInt8 200} {capture : Capture}

private theorem assembled_fresh {writer : BinlogWriter}
    (blank : ∀ file, writer.fp = some file → file.bytes = SparseArray.empty) :
    Assembled source (fresh writer) := by
  intro file isOpen
  refine ⟨fun _ => 0, ?_, ?_, ?_⟩
  · rw [blank file isOpen]
    exact SparseArray.assembles_empty
  · exact fun block member => (List.not_mem_nil member).elim
  · exact fun seqno positive => (Nat.lt_irrefl 0 positive).elim

/-- The file is what counts. -/
theorem Assembled.same (assembled : Assembled source capture) {writer : BinlogWriter}
    (fp : writer.fp = capture.writer.fp) : Assembled source { capture with writer := writer } :=
  fun file isOpen => assembled file (fp.symm.trans isOpen)

/-- A block of the log is written, in full or in part. -/
theorem Assembled.wrote (assembled : Assembled source capture) {block : DataBlock}
    (streams : block.data = source block.seqno) {writer next : BinlogWriter} (wrote : Nat)
    (fp : writer.fp = capture.writer.fp)
    (after : next.fp = (writer.writeBlock (block.seqno * blockBytes) wrote block.data).fp) :
    Assembled source { capture with writer := next, written := block :: capture.written } ∧
      (blockBytes ≤ wrote → Assembled source { capture with
        writer := next
        written := block :: capture.written
        stored := capture.stored ++ [block] }) := by
  have grown : ∀ file, next.fp = some file → ∃ held : Nat → Nat,
      file.bytes.Assembles blockBytes (fun seqno => (source seqno).toList) held ∧
        (∀ earlier ∈ capture.stored, held earlier.seqno = blockBytes) ∧
        (blockBytes ≤ wrote → held block.seqno = blockBytes) ∧
        ∀ seqno, 0 < held seqno → ∃ written ∈ block :: capture.written, written.seqno = seqno := by
    intro file isOpen
    rw [after, writeBlock, Option.map_eq_some_iff] at isOpen
    obtain ⟨before, wasOpen, rfl⟩ := isOpen
    obtain ⟨held, assembles, whole, known⟩ := assembled before (fp.symm.trans wasOpen)
    have length : (source block.seqno).toList.length = blockBytes := Vector.length_toList
    have most := assembles.partial_le block.seqno
    have written := assembles.write length wrote
    rw [← streams] at written
    refine ⟨_, written, ?_, ?_, ?_⟩
    · intro earlier member
      by_cases same : earlier.seqno = block.seqno
      · have full := whole earlier member
        rw [same] at full ⊢
        rw [Function.update_self, full]
        omega
      · rw [Function.update_of_ne same]
        exact whole earlier member
    · intro complete
      rw [Function.update_self]
      omega
    · intro seqno positive
      by_cases same : seqno = block.seqno
      · exact ⟨block, List.mem_cons_self, same.symm⟩
      · rw [Function.update_of_ne same] at positive
        obtain ⟨earlier, member, equal⟩ := known seqno positive
        exact ⟨earlier, List.mem_cons_of_mem _ member, equal⟩
  constructor
  · intro file isOpen
    obtain ⟨held, assembles, whole, -, known⟩ := grown file isOpen
    exact ⟨held, assembles, whole, known⟩
  · intro complete file isOpen
    obtain ⟨held, assembles, whole, own, known⟩ := grown file isOpen
    refine ⟨held, assembles, ?_, known⟩
    intro earlier member
    rcases List.mem_append.mp member with before | new
    · exact whole earlier before
    · rw [List.mem_singleton.mp new]
      exact own complete

private theorem Assembled.accept
    (assembled : Streams source capture.written → Assembled source capture)
    (io : BlockIo) (sysid compid : UInt8) (block : DataBlock) :
    let next := capture.settle block (capture.writer.acceptBlock io sysid compid block)
    Streams source next.written → Assembled source next := by
  have latched := (latchTarget_eq capture.writer sysid compid).2.1
  rcases acceptBlock_cases capture.writer io sysid compid block with
    ⟨-, result | result⟩ | ⟨-, ⟨-, result⟩ | ⟨-, -, result⟩ | ⟨-, whole, result⟩⟩
  · rw [result]
    exact assembled
  · rw [result]
    exact assembled
  · rw [result]
    exact fun streams => (assembled streams).same latched
  · rw [result]
    intro next streams
    have before := assembled fun earlier member => streams earlier (List.mem_cons_of_mem _ member)
    exact (before.wrote (streams block List.mem_cons_self) io.wrote latched rfl).1
  · rw [result]
    intro next streams
    have before := assembled fun earlier member => streams earlier (List.mem_cons_of_mem _ member)
    exact (before.wrote (streams block List.mem_cons_self) io.wrote latched
      (recordBlock_sameFile _ io block.seqno).fp).2 whole

/-- Whatever was handed to the writer, a file written from one log is assembled from it. -/
theorem assembled_after (source : Nat → Vector UInt8 200) (fcSysid : UInt8)
    (calls : List WriterCall) :
    Streams source (after fcSysid calls).written → Assembled source (after fcSysid calls) := by
  induction calls with
  | nil =>
      refine fun _ => assembled_fresh fun file isOpen => ?_
      cases isOpen
  | cons call before ih =>
      have closed := (tracked_rules.after (admits_any fcSysid before)).closed
      rw [after, History.replay_cons]
      rw [after] at ih closed
      generalize History.replay apply (fresh (BinlogWriter.initial fcSysid)) before = capture
        at ih closed ⊢
      cases call with
      | handleBlock port2 sessionN io sysid compid block =>
          rw [apply, handleBlock]
          cases opens : capture.writer.ensureOpen port2 sessionN io block.seqno with
          | error result =>
              obtain rfl | rfl := ensureOpen_error opens
              · exact ih
              · exact ih
          | ok opened =>
              rcases ensureOpen_opened opens with ⟨-, rfl⟩ | ⟨isClosed, -, -, just⟩
              · exact Assembled.accept ih io sysid compid block
              · obtain ⟨started, -⟩ := closed isClosed
                rw [started, settle_fresh block _ opened]
                refine Assembled.accept (fun _ => assembled_fresh fun file isOpen => ?_) io sysid
                  compid block
                rw [just] at isOpen
                rw [← Option.some.inj isOpen]
      | observe nextN msg timeBootMs =>
          rw [apply]
          rcases observe_eq capture.writer nextN msg timeBootMs with ⟨-, rotated⟩ | ⟨mark, marked⟩
          · rw [rotated]
            refine fun _ => assembled_fresh fun file isOpen => ?_
            cases isOpen
          · rw [marked]
            dsimp only
            by_cases isOpen : capture.writer.fp.isSome = true
            · rw [if_pos isOpen]
              exact fun streams => (ih streams).same rfl
            · rw [if_neg isOpen]
              refine fun _ => assembled_fresh fun file isFile => (isOpen ?_).elim
              exact Option.isSome_iff_exists.mpr ⟨file, isFile⟩
      | tick io => exact fun streams => (ih streams).same (tick_same capture.writer io).1.fp

/-- The bitmap marks the blocks stored. -/
structure Marked (capture : Capture) : Prop where
  closed : Closed capture
  seen : ∀ seqno, capture.writer.seqnoSeen seqno = true ↔
    ∃ block ∈ capture.stored, block.seqno = seqno

private theorem Marked.of_seen (marked : Marked capture) {writer : BinlogWriter}
    (closed : Closed { capture with writer := writer })
    (seen : ∀ seqno, writer.seqnoSeen seqno = capture.writer.seqnoSeen seqno) :
    Marked { capture with writer := writer } :=
  ⟨closed, fun seqno => by rw [← marked.seen seqno, ← seen seqno]⟩

/-- Every step keeps the marks of the bitmap true. -/
theorem marked_rules : Rules (fun _ _ => True) Marked where
  first := fun _ => trivial
  closed := fun _ marked => marked.closed
  blank := by
    refine fun writer blank => ⟨fun _ => ⟨rfl, blank⟩, fun seqno => ?_⟩
    have unseen : (fresh writer).writer.seqnoSeen seqno = false := blank.seqnoSeen seqno
    rw [unseen]
    refine ⟨fun impossible => (Bool.false_ne_true impossible).elim, ?_⟩
    rintro ⟨block, member, -⟩
    exact (List.not_mem_nil member).elim
  same := fun capture writer marked same =>
    marked.of_seen (marked.closed.sameLog same) same.seqnoSeen
  wrote := by
    intro capture block wrote marked isOpen _
    exact ⟨closed_of_open (by rw [writeBlock, Option.isSome_map, isOpen]), marked.seen⟩
  stores := by
    intro capture block io marked streams _ _ _
    rw [streaming, Bool.and_eq_true] at streams
    have recorded := recordBlock_recorded (capture.writer.writeBlock (block.seqno * blockBytes)
      io.wrote block.data) io block.seqno
    refine ⟨closed_of_open ?_, fun seqno => ?_⟩
    · dsimp only
      rw [recorded.fp, writeBlock, Option.isSome_map, streams.2]
    · have before : (capture.writer.writeBlock (block.seqno * blockBytes) io.wrote
          block.data).seqnoSeen seqno = capture.writer.seqnoSeen seqno := rfl
      dsimp only
      rw [recorded.seen, before, Bool.or_eq_true, decide_eq_true_eq, marked.seen]
      constructor
      · rintro (rfl | ⟨earlier, member, same⟩)
        · exact ⟨block, List.mem_append_right _ List.mem_cons_self, rfl⟩
        · exact ⟨earlier, List.mem_append_left _ member, same⟩
      · rintro ⟨earlier, member, same⟩
        rcases List.mem_append.mp member with old | new
        · exact .inr ⟨earlier, old, same⟩
        · rw [List.mem_singleton.mp new] at same
          exact .inl same.symm
  ticks := by
    intro capture io marked
    refine ⟨marked.closed.ticked io, fun seqno => ?_⟩
    have seen : (capture.writer.tick io).2.seqnoSeen seqno = capture.writer.seqnoSeen seqno := by
      cases streams : capture.writer.streaming with
      | false => exact (tick_waiting streams io).1.seqnoSeen seqno
      | true =>
          obtain ⟨_, _, _, _, _, asked⟩ := tick_streaming streams io
          rw [seqnoSeen, asked.seen]
          rfl
    exact (Eq.to_iff (congrArg (· = true) seen)).trans (marked.seen seqno)

/-- With block 0 in the file, nothing asked for and nothing given up, no block below the
highest is missing. -/
theorem Tracked.seen_all (tracked : Tracked capture) (first : capture.writer.seqnoSeen 0 = true)
    (settled : ∀ seqno, capture.writer.nackState seqno = none)
    (kept : ∀ seqno, capture.abandoned seqno = true → capture.writer.seqnoSeen seqno = true)
    {seqno : Nat} (within : seqno ≤ capture.writer.highestSeen) :
    capture.writer.seqnoSeen seqno = true := by
  by_cases start : seqno = 0
  · rw [start]
    exact first
  · have positive := Nat.pos_of_ne_zero start
    rcases Nat.lt_or_eq_of_le within with below | highest
    · rcases tracked.covered seqno positive below with seen | asked | given
      · exact seen
      · rw [settled] at asked
        cases asked
      · exact kept seqno given
    · rw [highest]
      exact tracked.seen_highest (highest ▸ positive)

/-- **The session file is the log.** After every run, a file that took the blocks of one log
holds each block seen at its place and zeros where none was written; once block 0 is in,
nothing is asked for and nothing stays given up, it begins with the log up to the highest
seqno; and any other run that left the same blocks, none of them in part only, left the same
file. -/
theorem run_reassembly {fcSysid : UInt8} {calls : List WriterCall}
    {source : Nat → Vector UInt8 200} {file : SessionFile}
    (streams : Streams source (after fcSysid calls).written)
    (isOpen : (after fcSysid calls).writer.fp = some file) :
    let capture := after fcSysid calls
    (∀ seqno, capture.writer.seqnoSeen seqno = true →
      file.bytes.read (seqno * blockBytes) blockBytes = (source seqno).toList) ∧
    (∀ seqno, (∀ block ∈ capture.written, block.seqno ≠ seqno) →
      file.bytes.read (seqno * blockBytes) blockBytes = List.replicate blockBytes 0) ∧
    (capture.writer.seqnoSeen 0 = true → (∀ seqno, capture.writer.nackState seqno = none) →
      (∀ seqno, capture.abandoned seqno = true → capture.writer.seqnoSeen seqno = true) →
        file.bytes.read 0 ((capture.writer.highestSeen + 1) * blockBytes) =
          (List.range (capture.writer.highestSeen + 1)).flatMap fun seqno =>
            (source seqno).toList) ∧
    ∀ otherSysid others otherFile, Streams source (after otherSysid others).written →
      (after otherSysid others).writer.fp = some otherFile →
      (∀ block ∈ capture.written, capture.writer.seqnoSeen block.seqno = true) →
      (∀ block ∈ (after otherSysid others).written,
        (after otherSysid others).writer.seqnoSeen block.seqno = true) →
      (∀ seqno, (after otherSysid others).writer.seqnoSeen seqno =
        capture.writer.seqnoSeen seqno) → otherFile.bytes = file.bytes := by
  have lengths : ∀ seqno, (source seqno).toList.length = blockBytes := fun _ => Vector.length_toList
  have tracked := tracked_rules.after (admits_any fcSysid calls)
  have marked := marked_rules.after (admits_any fcSysid calls)
  obtain ⟨held, assembles, whole, known⟩ := assembled_after source fcSysid calls streams file isOpen
  have complete : ∀ seqno, (after fcSysid calls).writer.seqnoSeen seqno = true →
      held seqno = blockBytes := by
    intro seqno seen
    obtain ⟨block, member, rfl⟩ := (marked.seen seqno).mp seen
    exact whole block member
  refine ⟨?_, ?_, ?_, ?_⟩
  · exact fun seqno seen => assembles.read_block (lengths seqno) (complete seqno seen)
  · intro seqno unwritten
    refine assembles.read_hole (Nat.eq_zero_of_not_pos fun positive => ?_)
    obtain ⟨block, member, same⟩ := known seqno positive
    exact unwritten block member same
  · intro first settled kept
    exact assembles.read_blocks lengths fun seqno below =>
      complete seqno (tracked.seen_all first settled kept (Nat.le_of_lt_succ below))
  · intro otherSysid others otherFile otherStreams otherOpen noPart otherNoPart same
    have otherMarked := marked_rules.after (admits_any otherSysid others)
    obtain ⟨otherHeld, otherAssembles, otherWhole, otherKnown⟩ :=
      assembled_after source otherSysid others otherStreams otherFile otherOpen
    have agree : otherHeld = held := by
      funext seqno
      cases seen : (after fcSysid calls).writer.seqnoSeen seqno with
      | true =>
          obtain ⟨block, member, isBlock⟩ := (otherMarked.seen seqno).mp ((same seqno).trans seen)
          rw [complete seqno seen, ← isBlock]
          exact otherWhole block member
      | false =>
          have nothing : held seqno = 0 := by
            refine Nat.eq_zero_of_not_pos fun positive => ?_
            obtain ⟨block, member, rfl⟩ := known seqno positive
            exact Bool.false_ne_true (seen.symm.trans (noPart block member))
          have otherNothing : otherHeld seqno = 0 := by
            refine Nat.eq_zero_of_not_pos fun positive => ?_
            obtain ⟨block, member, rfl⟩ := otherKnown seqno positive
            exact Bool.false_ne_true
              (((same _).trans seen).symm.trans (otherNoPart block member))
          rw [nothing, otherNothing]
    rw [agree] at otherAssembles
    exact otherAssembles.unique (Nat.succ_pos _) assembles

/-- Three blocks of a log, each filled with its seqno. -/
def numbered (seqno : Nat) : Vector UInt8 200 := Vector.replicate 200 (UInt8.ofNat seqno)

def offered (seqno : Nat) (small : seqno < 2 ^ 32) : WriterCall :=
  .handleBlock 5000 1 goodIo 1 1 ⟨seqno, small, numbered seqno⟩

/-- Block 2 overtakes block 1, which comes twice. -/
def scattered : List WriterCall :=
  [offered 1 DataBlock.one_lt, offered 1 DataBlock.one_lt, offered 2 (by omega),
    offered 0 DataBlock.zero_lt]

/-- The three blocks in order. -/
def inSequence : List WriterCall :=
  [offered 2 (by omega), offered 1 DataBlock.one_lt, offered 0 DataBlock.zero_lt]

/-- Scattered blocks and blocks in sequence leave the same bytes. -/
theorem run_reassembly_scattered :
    ∃ file otherFile, (after 0 scattered).writer.fp = some file ∧
      (after 0 inSequence).writer.fp = some otherFile ∧ otherFile.bytes = file.bytes ∧
      file.bytes.read 0 600 =
        (List.range 3).flatMap fun seqno => (numbered seqno).toList := by
  have stored : (after 0 scattered).stored.map DataBlock.seqno = [0, 2, 1, 1] := rfl
  have otherStored : (after 0 inSequence).stored.map DataBlock.seqno = [0, 1, 2] := rfl
  have written : (after 0 scattered).written.map DataBlock.seqno = [1, 1, 2, 0] := rfl
  have otherWritten : (after 0 inSequence).written.map DataBlock.seqno = [2, 1, 0] := rfl
  have streams : Streams numbered (after 0 scattered).written := by
    intro block member
    simp only [show (after 0 scattered).written = [_, _, _, _] from rfl, List.mem_cons,
      List.not_mem_nil, or_false] at member
    rcases member with rfl | rfl | rfl | rfl <;> rfl
  have otherStreams : Streams numbered (after 0 inSequence).written := by
    intro block member
    simp only [show (after 0 inSequence).written = [_, _, _] from rfl, List.mem_cons,
      List.not_mem_nil, or_false] at member
    rcases member with rfl | rfl | rfl <;> rfl
  have marked := marked_rules.after (admits_any 0 scattered)
  have otherMarked := marked_rules.after (admits_any 0 inSequence)
  have tracked := tracked_rules.after (admits_any 0 scattered)
  have seen : ∀ seqno, (after 0 scattered).writer.seqnoSeen seqno = true ↔
      seqno ∈ [0, 2, 1, 1] := by
    intro seqno
    rw [marked.seen, ← stored, List.mem_map]
  have otherSeen : ∀ seqno,
      (after 0 inSequence).writer.seqnoSeen seqno = true ↔ seqno ∈ [0, 1, 2] := by
    intro seqno
    rw [otherMarked.seen, ← otherStored, List.mem_map]
  have settled : ∀ seqno, (after 0 scattered).writer.nackState seqno = none := by
    intro seqno
    by_contra asked
    obtain ⟨below, unseen, -⟩ := tracked.key seqno (Option.isSome_iff_ne_none.mpr asked)
    have highest : (after 0 scattered).writer.highestSeen = 2 := rfl
    have isSeen := (seen seqno).mpr (by simp; omega)
    rw [unseen] at isSeen
    cases isSeen
  have run := run_reassembly streams rfl
  refine ⟨_, _, rfl, rfl, ?_, ?_⟩
  · refine run.2.2.2 0 inSequence _ otherStreams rfl ?_ ?_ ?_
    · intro block member
      have known := List.mem_map_of_mem (f := DataBlock.seqno) member
      rw [written] at known
      exact (seen block.seqno).mpr (by simp at known ⊢; omega)
    · intro block member
      have known := List.mem_map_of_mem (f := DataBlock.seqno) member
      rw [otherWritten] at known
      exact (otherSeen block.seqno).mpr (by simp at known ⊢; omega)
    · intro seqno
      rw [Bool.eq_iff_iff, seen, otherSeen]
      simp
      omega
  · exact run.2.2.1 ((seen 0).mpr (by simp)) settled fun seqno given => by cases given

end SupportProxy.Capture
