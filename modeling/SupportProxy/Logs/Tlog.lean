import SupportProxy.Library.ByteLayout
import SupportProxy.Library.History
import SupportProxy.Library.Records

/-! # The tlog file

`TlogWriter::write_frame` puts a timestamp and a frame with two calls of `fwrite` and looks at
neither result. The file is a sequence of records as long as nothing is written behind a call
that came short. -/

namespace SupportProxy

open ByteLayout

/-- A call of `write_frame`: the microseconds of `gettimeofday`, the frame, and how many bytes
each `fwrite` puts. -/
structure FrameWrite where
  us : Nat
  frame : List UInt8
  headerPut : Nat
  framePut : Nat

/-- The length of the MAVLink frame at the front, from its own header. -/
def frameLength (data : List UInt8) : Option Nat :=
  if data.length < 1 then none
  else if data.getD 0 0 = 0xFD then
    if data.length < 10 then none
    else some (10 + (data.getD 1 0).toNat + 2 +
      if BitVec.ofNat 8 (data.getD 2 0).toNat &&& 0x01 != 0 then 13 else 0)
  else if data.getD 0 0 = 0xFE then
    if data.length < 6 then none else some (6 + (data.getD 1 0).toNat + 2)
  else none

/-- The length of the record at the front: a timestamp and a frame. -/
def recordLength (data : List UInt8) : Option Nat :=
  if data.length < 8 then none else (frameLength (data.drop 8)).map (8 + ·)

/-- `_read_tlog_records` -/
def readTlogRecords (data : List UInt8) : List (Nat × List UInt8) :=
  (Records.walk recordLength data).map fun record => (bigValue (record.take 8), record.drop 8)

namespace FrameWrite

/-- `hdr` -/
def header (call : FrameWrite) : List UInt8 := bigBytes 8 call.us

def record (call : FrameWrite) : List UInt8 := call.header ++ call.frame

/-- The bytes that `write_frame` puts in the file. -/
def puts (call : FrameWrite) : List UInt8 :=
  call.header.take call.headerPut ++ call.frame.take call.framePut

/-- Both calls of `fwrite` are complete. -/
def Whole (call : FrameWrite) : Prop := 8 ≤ call.headerPut ∧ call.frame.length ≤ call.framePut

instance (call : FrameWrite) : Decidable call.Whole :=
  inferInstanceAs (Decidable (_ ∧ _))

/-- A frame of the length that its header says. -/
def WellFormed (call : FrameWrite) : Prop := frameLength call.frame = some call.frame.length

/-- The frame is put behind a whole timestamp, or not at all. -/
def InOrder (call : FrameWrite) : Prop :=
  call.headerPut < 8 → call.frame.take call.framePut = []

end FrameWrite

/-- A tlog file, with the calls of `write_frame` that were complete, oldest first. -/
structure Tlog where
  file : List UInt8
  complete : List FrameWrite
  /-- a call has come short after it put some bytes -/
  torn : Bool

namespace Tlog

def empty : Tlog := ⟨[], [], false⟩

/-- `write_frame` -/
def writeFrame (call : FrameWrite) (tlog : Tlog) : Tlog where
  file := tlog.file ++ call.puts
  complete := if call.Whole then tlog.complete ++ [call] else tlog.complete
  torn := tlog.torn || !call.puts.isEmpty && decide ¬call.Whole

/-- Nothing is written behind an `fwrite` that came short: neither the frame behind its
timestamp nor anything behind a cut record. -/
def Untorn (tlog : Tlog) (call : FrameWrite) : Prop :=
  call.InOrder ∧ (tlog.torn = true → call.puts = [])

abbrev after (history : List FrameWrite) : Tlog := History.replay writeFrame empty history

/-- A record that is not complete. -/
def Truncated (torn : List UInt8) : Prop :=
  torn ≠ [] ∧ ∃ call : FrameWrite, call.WellFormed ∧ torn <+: call.record ∧ torn ≠ call.record

end Tlog

private theorem frameLength_settled : Records.Settled frameLength := by
  intro data rest length known
  have same : ∀ index < data.length, (data ++ rest).getD index 0 = data.getD index 0 :=
    fun index inside => by
      rw [List.getD_eq_getElem?_getD, List.getElem?_append_left inside,
        ← List.getD_eq_getElem?_getD]
  have longer : data.length ≤ (data ++ rest).length := by
    rw [List.length_append]
    exact Nat.le_add_right _ _
  rw [frameLength] at known ⊢
  by_cases empty : data.length < 1
  · rw [if_pos empty] at known
    cases known
  rw [if_neg empty] at known
  rw [if_neg (by omega), same 0 (by omega)]
  by_cases second : data.getD 0 0 = 0xFD
  · rw [if_pos second] at known ⊢
    by_cases short : data.length < 10
    · rw [if_pos short] at known
      cases known
    · rw [if_neg short] at known
      rw [if_neg (by omega), same 1 (by omega), same 2 (by omega)]
      exact known
  · rw [if_neg second] at known ⊢
    by_cases first : data.getD 0 0 = 0xFE
    · rw [if_pos first] at known ⊢
      by_cases short : data.length < 6
      · rw [if_pos short] at known
        cases known
      · rw [if_neg short] at known
        rw [if_neg (by omega), same 1 (by omega)]
        exact known
    · rw [if_neg first] at known
      cases known

private theorem recordLength_settled : Records.Settled recordLength := by
  intro data rest length known
  rw [recordLength] at known ⊢
  by_cases short : data.length < 8
  · rw [if_pos short] at known
    cases known
  rw [if_neg short] at known
  obtain ⟨frame, isFrame, rfl⟩ := Option.map_eq_some_iff.mp known
  rw [if_neg (by rw [List.length_append]; omega), List.drop_append_of_le_length (by omega),
    frameLength_settled _ rest _ isFrame]
  rfl

namespace FrameWrite

@[simp] theorem header_length (call : FrameWrite) : call.header.length = 8 := bigBytes_length _ _

@[simp] theorem record_length (call : FrameWrite) : call.record.length = 8 + call.frame.length := by
  simp [record]

private theorem WellFormed.whole {call : FrameWrite} (wellFormed : call.WellFormed) :
    Records.Whole recordLength call.record := by
  refine ⟨List.ne_nil_of_length_pos (by simp), ?_⟩
  have behind : call.record.drop 8 = call.frame := by
    rw [record, ← header_length call, List.drop_left]
  rw [recordLength, if_neg (by simp), behind, wellFormed, record_length]
  rfl

/-- What one call puts: a complete record, a beginning of one or nothing. -/
theorem puts_cases {call : FrameWrite} (inOrder : call.InOrder) :
    call.Whole ∧ call.puts = call.record ∨
      ¬call.Whole ∧ call.puts <+: call.record ∧ (call.frame ≠ [] → call.puts ≠ call.record) := by
  by_cases header : 8 ≤ call.headerPut
  · have all : call.header.take call.headerPut = call.header :=
      List.take_of_length_le (by simpa using header)
    by_cases frame : call.frame.length ≤ call.framePut
    · refine .inl ⟨⟨header, frame⟩, ?_⟩
      rw [puts, all, List.take_of_length_le frame, record]
    · refine .inr ⟨fun whole => frame whole.2, ?_, fun _ same => ?_⟩
      · rw [puts, all, record]
        exact List.prefix_append_right_inj _ |>.mpr (List.take_prefix _ _)
      · have sizes := congrArg List.length same
        rw [puts, all] at sizes
        simp only [List.length_append, header_length, List.length_take, record_length] at sizes
        omega
  · have none := inOrder (Nat.lt_of_not_le header)
    refine .inr ⟨fun whole => header whole.1, ?_, fun some same => ?_⟩
    · rw [puts, none, List.append_nil, record]
      exact (List.take_prefix _ _).trans (List.prefix_append _ _)
    · have sizes := congrArg List.length same
      have positive := List.length_pos_iff.mpr some
      rw [puts, none] at sizes
      simp only [List.append_nil, header_length, List.length_take, record_length] at sizes
      omega

end FrameWrite

namespace Tlog

/-- The records of the complete calls. -/
def records (tlog : Tlog) : List (List UInt8) := tlog.complete.map FrameWrite.record

/-- The file as long as nothing is written behind a call that came short. -/
structure Sound (tlog : Tlog) : Prop where
  wellFormed : ∀ call ∈ tlog.complete, call.WellFormed
  file : ∃ tail, (tail = [] ∨ tlog.torn = true ∧ Truncated tail) ∧
    tlog.file = tlog.records.flatten ++ tail

/-- A well-formed frame behind whole records keeps the file sound. -/
theorem Sound.writeFrame {tlog : Tlog} (sound : Sound tlog) {call : FrameWrite}
    (wellFormed : call.WellFormed) (untorn : Untorn tlog call) : Sound (tlog.writeFrame call) := by
  obtain ⟨members, tail, ends, file⟩ := sound
  have some : call.frame ≠ [] := by
    intro empty
    rw [FrameWrite.WellFormed, empty] at wellFormed
    cases wellFormed
  have wrote : (tlog.writeFrame call).file = tlog.file ++ call.puts := rfl
  rcases FrameWrite.puts_cases untorn.1 with ⟨whole, puts⟩ | ⟨short, front, differs⟩
  · have complete : (tlog.writeFrame call).complete = tlog.complete ++ [call] := if_pos whole
    have records : (tlog.writeFrame call).records = tlog.records ++ [call.record] := by
      rw [Tlog.records, complete, List.map_append]
      rfl
    have tailless : tail = [] := by
      rcases ends with empty | ⟨torn, -⟩
      · exact empty
      · have silent := congrArg List.length (puts.symm.trans (untorn.2 torn))
        simp at silent
    refine ⟨?_, [], .inl rfl, ?_⟩
    · rw [complete]
      intro other member
      rcases List.mem_append.mp member with before | new
      · exact members other before
      · rw [List.mem_singleton.mp new]
        exact wellFormed
    · rw [wrote, file, tailless, puts, records, List.flatten_append]
      simp
  · have complete : (tlog.writeFrame call).complete = tlog.complete := if_neg short
    have records : (tlog.writeFrame call).records = tlog.records :=
      congrArg (List.map FrameWrite.record) complete
    refine ⟨complete ▸ members, ?_⟩
    by_cases silent : call.puts = []
    · refine ⟨tail, ends.imp_right fun cut => ⟨?_, cut.2⟩, ?_⟩
      · rw [Tlog.writeFrame]
        dsimp only
        rw [cut.1, Bool.true_or]
      · rw [wrote, silent, List.append_nil, file, records]
    · have tailless : tail = [] := ends.resolve_right fun cut => silent (untorn.2 cut.1)
      refine ⟨call.puts, .inr ⟨?_, silent, call, wellFormed, front, differs some⟩, ?_⟩
      · rw [Tlog.writeFrame]
        dsimp only
        rw [List.isEmpty_eq_false_iff.mpr silent, decide_eq_true short]
        exact Bool.or_true _
      · rw [wrote, file, tailless, List.append_nil, records]

/-- The walker recovers the complete calls. -/
theorem Sound.read {tlog : Tlog} (sound : Sound tlog) :
    readTlogRecords tlog.file =
      tlog.complete.map fun call => (call.us % 2 ^ 64, call.frame) := by
  obtain ⟨members, tail, ends, file⟩ := sound
  have stops : Records.walk recordLength tail = [] := by
    rcases ends with rfl | ⟨-, -, call, wellFormed, front, differs⟩
    · rfl
    · exact Records.walk_prefix recordLength_settled wellFormed.whole front differs
  have whole : ∀ record ∈ tlog.records, Records.Whole recordLength record := by
    intro record member
    obtain ⟨call, isCall, rfl⟩ := List.mem_map.mp member
    exact (members call isCall).whole
  rw [readTlogRecords, file, Records.walk_flatten recordLength_settled whole stops, records,
    List.map_map]
  refine List.map_congr_left fun call _ => ?_
  have front : call.record.take 8 = call.header := by
    rw [FrameWrite.record, ← FrameWrite.header_length call, List.take_left]
  have behind : call.record.drop 8 = call.frame := by
    rw [FrameWrite.record, ← FrameWrite.header_length call, List.drop_left]
  simp only [Function.comp_apply, front, behind, FrameWrite.header, bigValue_bigBytes]
  rfl

/-- **The tlog stays parseable** in every run in which nothing is written behind an `fwrite`
that came short: the file is the complete records and at most one truncated one, and the walker
recovers the complete ones in order. -/
theorem run_tlog {history : List FrameWrite} (wellFormed : ∀ call ∈ history, call.WellFormed)
    (untorn : History.Guarded writeFrame empty Untorn history) :
    ∀ earlier, earlier <:+ history → ∃ tail, (tail = [] ∨ Truncated tail) ∧
      (after earlier).file = (after earlier).records.flatten ++ tail ∧
        readTlogRecords (after earlier).file =
          (after earlier).complete.map fun call => (call.us % 2 ^ 64, call.frame) := by
  have sound : ∀ {earlier : List FrameWrite}, (∀ call ∈ earlier, call.WellFormed) →
      History.Guarded writeFrame empty Untorn earlier → Sound (after earlier) := by
    intro earlier wellFormed untorn
    induction earlier with
    | nil => exact ⟨fun call complete => (by cases complete), [], .inl rfl, rfl⟩
    | cons call before ih =>
        exact (ih (fun other member => wellFormed other (List.mem_cons_of_mem _ member))
          untorn.2).writeFrame (wellFormed call List.mem_cons_self) untorn.1
  intro earlier suffix
  have here := sound (fun call member => wellFormed call (suffix.subset member))
    (untorn.of_suffix suffix)
  obtain ⟨tail, ends, file⟩ := here.file
  exact ⟨tail, ends.imp_right And.right, file, here.read⟩

/-- A MAVLink 1 frame without payload. -/
def shortFrame : List UInt8 := [0xFE, 0, 1, 2, 3, 4, 5, 6]

/-- The last record comes short. -/
def cutAtTheEnd : List FrameWrite := [⟨1, shortFrame, 8, 3⟩, ⟨0, shortFrame, 8, 8⟩]

/-- A record cut at the end of the file is left out, and the one before it is read. -/
theorem run_tlog_cutAtTheEnd :
    (after cutAtTheEnd).file.length = 27 ∧
      readTlogRecords (after cutAtTheEnd).file = [(0, shortFrame)] := by
  have untorn : History.Guarded writeFrame empty Untorn cutAtTheEnd := by
    refine ⟨⟨fun short => ?_, fun torn => (by cases torn)⟩,
      ⟨fun short => ?_, fun torn => (by cases torn)⟩, trivial⟩
    · exact (Nat.lt_irrefl 8 short).elim
    · exact (Nat.lt_irrefl 8 short).elim
  have wellFormed : ∀ call ∈ cutAtTheEnd, call.WellFormed :=
    List.forall_mem_cons.mpr ⟨rfl, List.forall_mem_singleton.mpr rfl⟩
  obtain ⟨tail, -, -, read⟩ := run_tlog wellFormed untorn cutAtTheEnd (List.suffix_refl _)
  exact ⟨rfl, read⟩

/-- A record that lost a byte of its frame, and a complete one. -/
def cutInTheMiddle : List FrameWrite := [⟨1, shortFrame, 8, 8⟩, ⟨0, shortFrame, 8, 7⟩]

/-- The walker takes a byte of the next timestamp for the end of the frame and finds no complete
frame. -/
theorem cutInTheMiddle_desynchronised :
    (after cutInTheMiddle).complete = [⟨1, shortFrame, 8, 8⟩] ∧
      readTlogRecords (after cutInTheMiddle).file = [(0, [0xFE, 0, 1, 2, 3, 4, 5, 0])] :=
  ⟨rfl, rfl⟩

end Tlog

end SupportProxy
