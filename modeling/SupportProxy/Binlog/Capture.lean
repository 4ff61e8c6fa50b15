import SupportProxy.Binlog.Writer
import SupportProxy.Library.History
import Mathlib.Algebra.Order.Group.Nat

/-! # Runs of the binary-log writer

A run is a history of calls on a `BinlogWriter`. `Capture` keeps the writer
together with what the open session file has been through: the blocks written to
it, the blocks fully on disk, the seqnos acknowledged and the seqnos given up. A
reboot rotation starts all of them over. -/

namespace SupportProxy

/-- A call on the writer, with what the outside answers it. -/
inductive WriterCall
  | handleBlock (port2 sessionN : Nat) (io : BlockIo) (sysid compid : UInt8) (block : DataBlock)
  | observe (nextN : Nat) (msg : Message) (timeBootMs : Nat)
  | tick (io : TickIo)

namespace BinlogWriter

/-- `drop_stale_nack_state` removes the seqno by one of its give-up rules. -/
def abandons (writer : BinlogWriter) (now seqno : Nat) : Bool :=
  match writer.nackState seqno with
  | none => false
  | some state => !writer.seqnoSeen seqno && writer.gaveUp now seqno state

/-- `tick` gets past the START packets. -/
def streaming (writer : BinlogWriter) : Bool := writer.anyBlockSeen && writer.fp.isSome

/-- The two writers agree on the log they keep. -/
structure SameLog (writer other : BinlogWriter) : Prop where
  fp : other.fp = writer.fp
  seen : other.seenBitmap = writer.seenBitmap
  highest : other.highestSeen = writer.highestSeen
  pending : other.pendingAcks = writer.pendingAcks
  nacks : other.nackState = writer.nackState

/-- Latching a target leaves the log alone. -/
theorem latchTarget_sameLog (writer : BinlogWriter) (sysid compid : UInt8) :
    SameLog writer (writer.latchTarget sysid compid) := by
  rw [latchTarget]
  split_ifs <;> exact ⟨rfl, rfl, rfl, rfl, rfl⟩

/-- Counting a write leaves the log alone. -/
theorem countWrite_sameLog (writer : BinlogWriter) (io : BlockIo) :
    SameLog writer (writer.countWrite io) := by
  rw [countWrite]
  split_ifs <;> exact ⟨rfl, rfl, rfl, rfl, rfl⟩

private theorem sendStart_sameLog (writer : BinlogWriter) (io : TickIo) (interval : Nat) :
    SameLog writer (writer.sendStart io interval).2 := by
  rw [sendStart]
  split_ifs <;> exact ⟨rfl, rfl, rfl, rfl, rfl⟩

private theorem sendStart_packets {writer : BinlogWriter} {io : TickIo} {interval : Nat}
    {packet : StatusPacket} (member : packet ∈ (writer.sendStart io interval).1) :
    packet.seqno = remoteLogDataBlockStart ∧ packet.ack = true := by
  rw [sendStart] at member
  split_ifs at member
  · rw [List.mem_singleton.mp member]
    exact ⟨rfl, rfl⟩
  · rw [List.mem_singleton.mp member]
    exact ⟨rfl, rfl⟩
  · exact (List.not_mem_nil member).elim

private theorem seqnoSeen_markSeqnoSeen (writer : BinlogWriter) (seqno other : Nat) :
    (writer.markSeqnoSeen seqno).seqnoSeen other =
      (decide (other = seqno) || writer.seqnoSeen other) := by
  rw [seqnoSeen, markSeqnoSeen, seqnoSeen]
  split
  · rename_i inside
    exact SparseArray.testBit_setBit _ inside _
  · rw [SparseArray.testBit_setBit, SparseArray.testBit_grow]

/-- The lazy open: an open file is kept, a new one is empty and opened by
seqno 0. -/
theorem ensureOpen_ok {writer opened : BinlogWriter} {port2 sessionN seqno : Nat} {io : BlockIo}
    (ok : writer.ensureOpen port2 sessionN io seqno = .ok opened) :
    opened.fp.isSome = true ∧ (opened = writer ∨ (writer.fp = none ∧ seqno = 0 ∧
      ∃ path, SameLog { writer with fp := some ⟨path, SparseArray.empty⟩ } opened)) := by
  rw [ensureOpen] at ok
  by_cases isOpen : writer.fp.isSome = true
  · rw [if_pos isOpen] at ok
    obtain rfl := Except.ok.inj ok
    exact ⟨isOpen, .inl rfl⟩
  · rw [if_neg isOpen] at ok
    by_cases first : seqno = 0
    · rw [if_neg (not_not.mpr first), openFile] at ok
      by_cases opens : io.opens = true
      · rw [if_pos opens] at ok
        obtain rfl := Except.ok.inj ok
        refine ⟨rfl, .inr ⟨?_, first, _, ⟨rfl, rfl, rfl, rfl, rfl⟩⟩⟩
        simpa only [Option.not_isSome_iff_eq_none] using isOpen
      · rw [if_neg opens] at ok
        cases ok
    · rw [if_pos first] at ok
      cases ok

/-- Seeding the missing seqnos of a range changes nothing but their NACK state. -/
theorem foldl_noticeGap (now : Nat) (seqnos : List Nat) (writer : BinlogWriter) :
    seqnos.foldl (noticeGap now) writer = { writer with
      nackState := fun seqno =>
        if seqno ∈ seqnos ∧ writer.seqnoSeen seqno = false ∧ writer.nackState seqno = none then
          some ⟨now, 0⟩
        else writer.nackState seqno } := by
  induction seqnos generalizing writer with
  | nil => simp only [List.foldl_nil, List.not_mem_nil, false_and, ↓reduceIte]
  | cons first rest ih =>
      rw [List.foldl_cons, ih]
      by_cases seen : writer.seqnoSeen first = true
      · rw [noticeGap, if_pos seen]
        congr 1
        funext seqno
        by_cases same : seqno = first
        · subst same
          simp only [seen, Bool.true_eq_false, false_and, and_false, ↓reduceIte]
        · simp only [List.mem_cons, same, false_or]
      · rw [noticeGap, if_neg seen]
        by_cases known : (writer.nackState first).isSome = true
        · rw [if_pos known]
          congr 1
          funext seqno
          by_cases same : seqno = first
          · subst same
            have present : writer.nackState seqno ≠ none := Option.isSome_iff_ne_none.mp known
            simp only [present, and_false, ↓reduceIte]
          · simp only [List.mem_cons, same, false_or]
        · rw [if_neg known]
          have absent : writer.nackState first = none := by
            simpa only [Option.not_isSome_iff_eq_none] using known
          have unseen : writer.seqnoSeen first = false := by
            simpa only [Bool.not_eq_true] using seen
          congr 1
          funext seqno
          by_cases same : seqno = first
          · subst same
            simp only [Function.update_self, reduceCtorEq, and_false, ↓reduceIte, List.mem_cons,
              true_or, unseen, absent, and_self]
          · simp only [Function.update_of_ne same, List.mem_cons, same, false_or]
            rfl

/-- A block on disk is seen and not asked for any more. -/
def fillGap (writer : BinlogWriter) (seqno : Nat) : BinlogWriter :=
  { writer.markSeqnoSeen seqno with
    nackState := Function.update (writer.markSeqnoSeen seqno).nackState seqno none }

/-- The gap a forward jump leaves. -/
def noticeJump (writer : BinlogWriter) (wasSeen : Bool) (now seqno : Nat) : BinlogWriter :=
  if writer.anyBlockSeen && decide ((writer.highestSeen + 1) % 2 ^ 32 < seqno)
      && !(decide (writer.highestSeen = 0) && !wasSeen && decide (seqno = 0)) then
    writer.queueGapNacks writer.highestSeen seqno now
  else writer

def raiseHighest (writer : BinlogWriter) (seqno : Nat) : BinlogWriter :=
  if writer.highestSeen ≤ seqno then { writer with highestSeen := seqno } else writer

/-- What `handle_block` books for a stored block, field by field. -/
theorem recordBlock_eq (writer : BinlogWriter) (io : BlockIo) (seqno : Nat) :
    writer.recordBlock io seqno =
      let counted := ({ writer with
        currentFileSize := writer.prospectiveSize seqno }).countWrite io
      let raised := ((counted.fillGap seqno).noticeJump (counted.seqnoSeen seqno) io.now
        seqno).raiseHighest seqno
      { raised with pendingAcks := raised.pendingAcks ++ [seqno] } := rfl

/-- A jump forward changes `nack_state` only. -/
theorem noticeJump_eq (writer : BinlogWriter) (wasSeen : Bool) (now seqno : Nat) :
    writer.noticeJump wasSeen now seqno = { writer with
      nackState := fun other =>
        if writer.anyBlockSeen = true ∧ (writer.highestSeen + 1) % 2 ^ 32 ≤ other ∧
            other < seqno ∧ writer.seqnoSeen other = false ∧ writer.nackState other = none then
          some ⟨now, 0⟩
        else writer.nackState other } := by
  rw [noticeJump]
  by_cases jumps : writer.anyBlockSeen = true ∧ (writer.highestSeen + 1) % 2 ^ 32 < seqno
  · have later : seqno ≠ 0 := by omega
    rw [if_pos (by simp only [jumps.1, jumps.2, later, decide_true, decide_false, Bool.and_false,
      Bool.not_false, Bool.and_self]), queueGapNacks, foldl_noticeGap]
    congr 1
    funext other
    simp only [jumps.1, true_and, List.mem_range'_1, and_assoc,
      Nat.add_sub_cancel' (Nat.le_of_lt jumps.2)]
  · rw [if_neg]
    · refine congrArg (fun nacks => { writer with nackState := nacks }) (funext fun other => ?_)
      rw [if_neg]
      rintro ⟨streams, above, below, _⟩
      exact jumps ⟨streams, by omega⟩
    · intro taken
      simp only [Bool.and_eq_true, decide_eq_true_eq] at taken
      exact jumps taken.1

/-- Only `highest_seen` is raised. -/
theorem raiseHighest_eq (writer : BinlogWriter) (seqno : Nat) :
    writer.raiseHighest seqno = { writer with highestSeen := max writer.highestSeen seqno } := by
  rw [raiseHighest]
  by_cases reached : writer.highestSeen ≤ seqno
  · rw [if_pos reached, Nat.max_eq_right reached]
  · rw [if_neg reached, Nat.max_eq_left (by omega)]

/-- What recording a block does to the log. -/
structure Recorded (now seqno : Nat) (writer next : BinlogWriter) : Prop where
  fp : next.fp = writer.fp
  seen : ∀ other, next.seqnoSeen other = (decide (other = seqno) || writer.seqnoSeen other)
  highest : next.highestSeen = max writer.highestSeen seqno
  pending : next.pendingAcks = writer.pendingAcks ++ [seqno]
  nacks : ∀ other, next.nackState other =
    if other = seqno then none
    else if writer.anyBlockSeen = true ∧ (writer.highestSeen + 1) % 2 ^ 32 ≤ other ∧
        other < seqno ∧ writer.seqnoSeen other = false ∧ writer.nackState other = none then
      some ⟨now, 0⟩
    else writer.nackState other

/-- A stored block is recorded as `Recorded` says. -/
theorem recordBlock_recorded (writer : BinlogWriter) (io : BlockIo) (seqno : Nat) :
    Recorded io.now seqno writer (writer.recordBlock io seqno) := by
  have same := countWrite_sameLog { writer with currentFileSize := writer.prospectiveSize seqno } io
  have latched : (({ writer with
      currentFileSize := writer.prospectiveSize seqno }).countWrite io).anyBlockSeen =
        writer.anyBlockSeen := by
    rw [countWrite]
    split_ifs <;> rfl
  rw [recordBlock_eq]
  dsimp only
  rw [raiseHighest_eq, noticeJump_eq]
  generalize ({ writer with
    currentFileSize := writer.prospectiveSize seqno }).countWrite io = counted at same latched ⊢
  have seen : ∀ other, (counted.fillGap seqno).seqnoSeen other =
      (decide (other = seqno) || writer.seqnoSeen other) := by
    intro other
    have marked := seqnoSeen_markSeqnoSeen counted seqno other
    rw [show counted.seqnoSeen other = writer.seqnoSeen other by
      rw [seqnoSeen, same.seen]; rfl] at marked
    exact marked
  refine ⟨same.fp, seen, congrArg (max · seqno) same.highest,
    congrArg (· ++ [seqno]) same.pending, ?_⟩
  intro other
  have erased : (counted.fillGap seqno).nackState other =
      if other = seqno then none else writer.nackState other := by
    refine (Function.update_apply counted.nackState seqno none other).trans ?_
    rw [same.nacks]
  have highest : (counted.fillGap seqno).highestSeen = writer.highestSeen := same.highest
  have streams : (counted.fillGap seqno).anyBlockSeen = writer.anyBlockSeen := latched
  simp only [erased, highest, streams, seen]
  by_cases filled : other = seqno
  · subst filled
    simp only [lt_irrefl, false_and, and_false, ↓reduceIte]
  · simp only [filled, decide_false, Bool.false_or, ↓reduceIte]

/-- The NACK loop changes when a key was last asked for, and no key. -/
structure Asked (writer next : BinlogWriter) : Prop where
  fp : next.fp = writer.fp
  seen : next.seenBitmap = writer.seenBitmap
  highest : next.highestSeen = writer.highestSeen
  pending : next.pendingAcks = writer.pendingAcks
  noticed : ∀ seqno, (next.nackState seqno).map NackState.firstSeen =
    (writer.nackState seqno).map NackState.firstSeen

private theorem Asked.refl (writer : BinlogWriter) :
    Asked writer writer := ⟨rfl, rfl, rfl, rfl, fun _ => rfl⟩

private theorem Asked.trans {writer next last : BinlogWriter} (first : Asked writer next)
    (second : Asked next last) : Asked writer last :=
  ⟨second.fp.trans first.fp, second.seen.trans first.seen, second.highest.trans first.highest,
    second.pending.trans first.pending,
    fun seqno => (second.noticed seqno).trans (first.noticed seqno)⟩

/-- Asking for blocks again forgets none and adds none. -/
theorem Asked.isSome {writer next : BinlogWriter} (asked : Asked writer next) (seqno : Nat) :
    (next.nackState seqno).isSome = (writer.nackState seqno).isSome := by
  rw [← Option.isSome_map, asked.noticed seqno, Option.isSome_map]

/-- Note the time a key was asked for. -/
theorem asked_update {writer : BinlogWriter} {seqno : Nat} {state : NackState}
    (known : writer.nackState seqno = some state) (now : Nat) :
    Asked writer { writer with
      nackState :=
        Function.update writer.nackState seqno (some { state with lastSent := now }) } := by
  refine ⟨rfl, rfl, rfl, rfl, fun other => ?_⟩
  dsimp only
  by_cases same : other = seqno
  · subst same
    rw [Function.update_self, known]
    rfl
  · rw [Function.update_of_ne same]

/-- The NACK loop asks for keys of `nack_state` only. -/
theorem sendNacks_spec (io : TickIo) (order : List Nat) (budget : Nat) (writer : BinlogWriter) :
    Asked writer (sendNacks io order budget writer).2 ∧
      ∀ packet ∈ (sendNacks io order budget writer).1,
        packet.ack = false ∧ (writer.nackState packet.seqno).isSome = true := by
  induction order generalizing budget writer with
  | nil => exact ⟨.refl writer, fun packet member => (List.not_mem_nil member).elim⟩
  | cons seqno rest ih =>
      rw [sendNacks]
      by_cases spent : budget = 0
      · rw [if_pos spent]
        exact ⟨.refl writer, fun packet member => (List.not_mem_nil member).elim⟩
      · rw [if_neg spent]
        cases known : writer.nackState seqno with
        | none => exact ih budget writer
        | some state =>
            have key : (writer.nackState seqno).isSome = true := by rw [known]; rfl
            dsimp only
            by_cases recent : state.lastSent ≠ 0 ∧ io.now < state.lastSent + nackRepeat
            · rw [if_pos recent]
              exact ih budget writer
            · rw [if_neg recent]
              by_cases sends : io.nackSends seqno = true
              · rw [if_pos sends]
                have noted := asked_update known io.now
                obtain ⟨asked, keys⟩ := ih (budget - 1) _
                refine ⟨noted.trans asked, fun packet member => ?_⟩
                rcases List.mem_cons.mp member with rfl | later
                · exact ⟨rfl, key⟩
                · exact ⟨(keys packet later).1, by rw [← noted.isSome]; exact (keys packet later).2⟩
              · rw [if_neg sends]
                obtain ⟨asked, keys⟩ := ih budget writer
                refine ⟨asked, fun packet member => ?_⟩
                rcases List.mem_cons.mp member with rfl | later
                · exact ⟨rfl, key⟩
                · exact keys packet later

/-- What `drop_stale_nack_state` keeps. -/
theorem dropStaleNackState_eq (writer : BinlogWriter) (now seqno : Nat) :
    (writer.dropStaleNackState now).nackState seqno =
      if writer.seqnoSeen seqno = true ∨ writer.abandons now seqno = true then none
      else writer.nackState seqno := by
  rw [dropStaleNackState, abandons]
  cases known : writer.nackState seqno with
  | none => simp only [known, Option.filter_none, ite_self]
  | some state =>
      cases seen : writer.seqnoSeen seqno <;> cases gives : writer.gaveUp now seqno state <;>
        simp [known, Option.filter, seen, gives]

/-- A key that survives is neither seen nor given up. -/
theorem survives {writer : BinlogWriter} {now seqno : Nat}
    (key : ((writer.dropStaleNackState now).nackState seqno).isSome = true) :
    (writer.nackState seqno).isSome = true ∧ writer.seqnoSeen seqno = false ∧
      writer.abandons now seqno = false := by
  rw [dropStaleNackState_eq] at key
  by_cases dropped : writer.seqnoSeen seqno = true ∨ writer.abandons now seqno = true
  · rw [if_pos dropped] at key
    cases key
  · rw [if_neg dropped] at key
    rw [not_or, Bool.not_eq_true, Bool.not_eq_true] at dropped
    exact ⟨key, dropped⟩

private theorem SameLog.dropStaleNackState {writer other : BinlogWriter}
    (same : SameLog writer other) (now seqno : Nat) :
    (other.dropStaleNackState now).nackState seqno =
      (writer.dropStaleNackState now).nackState seqno := by
  simp only [BinlogWriter.dropStaleNackState, gaveUp, seqnoSeen, same.seen, same.highest,
    same.nacks]

private theorem tick_unlatched {writer : BinlogWriter} (unlatched : writer.anyBlockSeen = false)
    (io : TickIo) : writer.tick io = writer.sendStart io startRepeat := by
  rw [tick, if_pos (by rw [unlatched]; rfl)]

private theorem tick_closed {writer : BinlogWriter} (latched : writer.anyBlockSeen = true)
    (closed : writer.fp = none) (io : TickIo) :
    writer.tick io = writer.sendStart io startKeepalive := by
  have same := sendStart_sameLog writer io startKeepalive
  rw [tick, if_neg (by rw [latched]; decide)]
  generalize writer.sendStart io startKeepalive = sent at same ⊢
  obtain ⟨starts, next⟩ := sent
  dsimp only at same ⊢
  rw [if_pos (by rw [same.fp, closed]; rfl)]

/-- Before a block is written the writer sends START packets only. -/
theorem tick_waiting {writer : BinlogWriter} (waits : writer.streaming = false) (io : TickIo) :
    SameLog writer (writer.tick io).2 ∧ ∀ packet ∈ (writer.tick io).1,
      packet.seqno = remoteLogDataBlockStart ∧ packet.ack = true := by
  have starts : ∃ interval, writer.tick io = writer.sendStart io interval := by
    cases latched : writer.anyBlockSeen with
    | false => exact ⟨_, tick_unlatched latched io⟩
    | true =>
        rw [streaming, latched, Bool.true_and] at waits
        exact ⟨_, tick_closed latched
          (Option.isSome_eq_false_iff.mp waits |> Option.isNone_iff_eq_none.mp) io⟩
  obtain ⟨interval, sends⟩ := starts
  rw [sends]
  exact ⟨sendStart_sameLog _ _ _, fun packet => sendStart_packets⟩

/-- What `tick` does once the writer streams: the acknowledgements of the queue
between START packets and NACKs. -/
theorem tick_streaming {writer : BinlogWriter} (streams : writer.streaming = true) (io : TickIo) :
    ∃ starts nacks, (writer.tick io).1 =
        starts ++ writer.pendingAcks.map (writer.statusPacket · true) ++ nacks ∧
      (∀ packet ∈ starts, packet.seqno = remoteLogDataBlockStart ∧ packet.ack = true) ∧
      (∀ packet ∈ nacks, packet.ack = false ∧
        ((writer.dropStaleNackState io.now).nackState packet.seqno).isSome = true) ∧
      Asked { writer.dropStaleNackState io.now with pendingAcks := [] } (writer.tick io).2 := by
  rw [streaming, Bool.and_eq_true] at streams
  have same := sendStart_sameLog writer io startKeepalive
  have target : ∀ seqno ack, (writer.sendStart io startKeepalive).2.statusPacket seqno ack =
      writer.statusPacket seqno ack := by
    intro seqno ack
    rw [sendStart]
    split_ifs <;> rfl
  have packets := fun packet => @sendStart_packets writer io startKeepalive packet
  rw [tick, if_neg (by rw [streams.1]; decide)]
  generalize writer.sendStart io startKeepalive = sent at same target packets ⊢
  obtain ⟨starts, next⟩ := sent
  dsimp only at same target packets ⊢
  have isOpen : ¬next.fp.isNone = true := by
    rw [same.fp, Option.isNone_iff_eq_none]
    exact Option.isSome_iff_ne_none.mp streams.2
  rw [if_neg isOpen]
  obtain ⟨asked, keys⟩ := sendNacks_spec io io.order maxNacksPerTick
    (({ next with pendingAcks := [] }).dropStaleNackState io.now)
  have dropped : ∀ seqno, (({ next with pendingAcks := [] }).dropStaleNackState
      io.now).nackState seqno = (writer.dropStaleNackState io.now).nackState seqno :=
    fun seqno => same.dropStaleNackState io.now seqno
  refine ⟨starts, (sendNacks io io.order maxNacksPerTick
    (({ next with pendingAcks := [] }).dropStaleNackState io.now)).1, ?_, packets, ?_, ?_⟩
  · dsimp only
    rw [same.pending]
    simp only [target]
  · intro packet member
    rw [← dropped]
    exact keys packet member
  · exact ⟨asked.fp.trans same.fp, asked.seen.trans same.seen, asked.highest.trans same.highest,
      asked.pending, fun seqno => (asked.noticed seqno).trans (by rw [dropped])⟩

/-- No log is being kept. -/
structure Blank (writer : BinlogWriter) : Prop where
  seen : writer.seenBitmap = SparseArray.empty
  highest : writer.highestSeen = 0
  pending : writer.pendingAcks = []
  nacks : writer.nackState = fun _ => none

/-- A blank writer has seen nothing. -/
theorem Blank.seqnoSeen {writer : BinlogWriter} (blank : writer.Blank) (seqno : Nat) :
    writer.seqnoSeen seqno = false := by
  rw [BinlogWriter.seqnoSeen, blank.seen, SparseArray.testBit_empty]

/-- Where no file gets open, the block was gated or the open failed. -/
theorem ensureOpen_error {writer : BinlogWriter} {port2 sessionN seqno : Nat} {io : BlockIo}
    {result : BlockResult} (error : writer.ensureOpen port2 sessionN io seqno = .error result) :
    result = .gated ∨ result = .openFailed := by
  rw [ensureOpen] at error
  by_cases isOpen : writer.fp.isSome = true
  · rw [if_pos isOpen] at error
    cases error
  · rw [if_neg isOpen] at error
    by_cases later : seqno ≠ 0
    · rw [if_pos later] at error
      cases error
      exact .inl rfl
    · rw [if_neg later] at error
      generalize writer.openFile _ _ _ = opened at error
      cases opened with
      | none =>
          cases error
          exact .inr rfl
      | some opened => cases error

private theorem SameLog.blank {writer other : BinlogWriter} (same : SameLog writer other)
    (blank : Blank writer) : Blank other :=
  ⟨same.seen.trans blank.seen, same.highest.trans blank.highest, same.pending.trans blank.pending,
    same.nacks.trans blank.nacks⟩

/-- The same log has seen the same blocks. -/
theorem SameLog.seqnoSeen {writer other : BinlogWriter} (same : SameLog writer other)
    (seqno : Nat) : other.seqnoSeen seqno = writer.seqnoSeen seqno := by
  rw [BinlogWriter.seqnoSeen, same.seen, BinlogWriter.seqnoSeen]

/-- `observe` keeps the log or starts over. -/
theorem observe_cases (writer : BinlogWriter) (nextN : Nat) (msg : Message) (timeBootMs : Nat) :
    SameLog writer (writer.observe nextN msg timeBootMs) ∨
      (writer.observe nextN msg timeBootMs).fp = none ∧
        (writer.observe nextN msg timeBootMs).Blank := by
  rw [observe]
  split_ifs with other compid filtered reboot
  · exact .inl ⟨rfl, rfl, rfl, rfl, rfl⟩
  · exact .inl ⟨rfl, rfl, rfl, rfl, rfl⟩
  · exact .inl ⟨rfl, rfl, rfl, rfl, rfl⟩
  · exact .inr ⟨rfl, rfl, rfl, rfl, rfl⟩
  · exact .inl ⟨rfl, rfl, rfl, rfl, rfl⟩

end BinlogWriter

/-- A writer with the history of its open file. -/
structure Capture where
  writer : BinlogWriter
  /-- blocks of which some bytes were written, newest first -/
  written : List DataBlock
  /-- blocks that were written in full, oldest first -/
  stored : List DataBlock
  /-- seqnos acknowledged, oldest first -/
  acked : List Nat
  /-- seqnos given up -/
  abandoned : Nat → Bool

namespace Capture

/-- A writer with no history, as constructed or just rotated. -/
def fresh (writer : BinlogWriter) : Capture := ⟨writer, [], [], [], fun _ => false⟩

/-- The seqnos a list of packets acknowledges, the START magic apart. -/
def ackedBy (packets : List StatusPacket) : List Nat :=
  (packets.filter fun packet =>
    packet.ack && decide (packet.seqno ≠ remoteLogDataBlockStart)).map StatusPacket.seqno

/-- The acknowledgements of two lists of packets, one after the other. -/
theorem ackedBy_append (first second : List StatusPacket) :
    ackedBy (first ++ second) = ackedBy first ++ ackedBy second := by
  rw [ackedBy, List.filter_append, List.map_append, ackedBy, ackedBy]

/-- A START packet acknowledges no block. -/
theorem ackedBy_starts {packets : List StatusPacket}
    (starts : ∀ packet ∈ packets, packet.seqno = remoteLogDataBlockStart ∧ packet.ack = true) :
    ackedBy packets = [] := by
  rw [ackedBy, List.map_eq_nil_iff, List.filter_eq_nil_iff]
  intro packet member
  simp only [(starts packet member).1, ne_eq, not_true_eq_false, decide_false, Bool.and_false,
    Bool.false_eq_true, not_false_eq_true]

/-- A NACK acknowledges no block. -/
theorem ackedBy_nacks {packets : List StatusPacket}
    (nacks : ∀ packet ∈ packets, packet.ack = false) :
    ackedBy packets = [] := by
  rw [ackedBy, List.map_eq_nil_iff, List.filter_eq_nil_iff]
  intro packet member
  simp only [nacks packet member, Bool.false_and, Bool.false_eq_true, not_false_eq_true]

/-- The packets for a queue of seqnos acknowledge just these. -/
theorem ackedBy_acks (writer : BinlogWriter) {seqnos : List Nat}
    (blocks : ∀ seqno ∈ seqnos, seqno ≠ remoteLogDataBlockStart) :
    ackedBy (seqnos.map (writer.statusPacket · true)) = seqnos := by
  induction seqnos with
  | nil => rfl
  | cons seqno rest ih =>
      have later := ih fun other member => blocks other (List.mem_cons_of_mem _ member)
      rw [ackedBy] at later ⊢
      rw [List.map_cons, List.filter_cons_of_pos, List.map_cons, later]
      · rfl
      · simp only [BinlogWriter.statusPacket, ne_eq, blocks seqno List.mem_cons_self,
          not_false_eq_true,
          decide_true, Bool.and_self]

/-- The history after a block came to one of the exits of `handle_block`. -/
def settle (block : DataBlock) (capture : Capture) : BlockResult × BinlogWriter → Capture
  | (.stored, writer) =>
      { capture with
        writer := writer
        written := block :: capture.written
        stored := capture.stored ++ [block] }
  | (.shortWrite, writer) =>
      { capture with writer := writer, written := block :: capture.written }
  | (_, writer) => { capture with writer := writer }

/-- One call. -/
def apply : WriterCall → Capture → Capture
  | .handleBlock port2 sessionN io sysid compid block, capture =>
      capture.settle block (capture.writer.handleBlock port2 sessionN io sysid compid block)
  | .observe nextN msg timeBootMs, capture =>
      let writer := capture.writer.observe nextN msg timeBootMs
      if writer.fp.isSome then { capture with writer := writer } else fresh writer
  | .tick io, capture =>
      { capture with
        writer := (capture.writer.tick io).2
        acked := capture.acked ++ ackedBy (capture.writer.tick io).1
        abandoned := fun seqno => capture.abandoned seqno ||
          (capture.writer.streaming && capture.writer.abandons io.now seqno) }

/-- The capture after a run, the newest call first. -/
def after (fcSysid : UInt8) : List WriterCall → Capture :=
  History.replay apply (fresh (BinlogWriter.initial fcSysid))

@[simp] theorem settle_writer (block : DataBlock) (capture : Capture)
    (outcome : BlockResult × BinlogWriter) : (settle block capture outcome).writer = outcome.2 := by
  obtain ⟨result, next⟩ := outcome
  cases result <;> rfl

/-- `observe` in a history is that of its writer. -/
theorem apply_observe_writer (capture : Capture) (nextN : Nat) (msg : Message) (timeBootMs : Nat) :
    (apply (.observe nextN msg timeBootMs) capture).writer =
      capture.writer.observe nextN msg timeBootMs := by
  rw [apply]
  split_ifs <;> rfl

/-- The outcome of a block does not depend on the writer it replaces. -/
theorem settle_fresh (block : DataBlock) (writer other : BinlogWriter)
    (outcome : BlockResult × BinlogWriter) :
    settle block (fresh writer) outcome = settle block (fresh other) outcome := by
  obtain ⟨result, next⟩ := outcome
  cases result <;> rfl

/-- The guard of a run: what the writer is handed agrees with what it wrote. -/
def Admits (agrees : List DataBlock → DataBlock → Prop) (capture : Capture) : WriterCall → Prop
  | .handleBlock _ _ _ _ _ block => agrees capture.written block
  | _ => True

/-- A retransmission within one log carries the bytes written before. -/
def SameBytes (written : List DataBlock) (block : DataBlock) : Prop :=
  ∀ earlier ∈ written, earlier.seqno = block.seqno → earlier.data = block.data

/-- A writer without an open file has no history. -/
def Closed (capture : Capture) : Prop :=
  capture.writer.fp = none → capture = fresh capture.writer ∧ capture.writer.Blank

/-- A closed history may take another writer with the same log. -/
theorem Closed.sameLog {capture : Capture} (closed : capture.Closed) {writer : BinlogWriter}
    (same : BinlogWriter.SameLog capture.writer writer) :
    Closed { capture with writer := writer } := by
  intro isClosed
  obtain ⟨started, blank⟩ := closed (same.fp.symm.trans isClosed)
  refine ⟨?_, same.blank blank⟩
  rw [started]
  rfl

open BinlogWriter in
/-- What a property has to survive to hold after every run whose blocks agree. -/
structure Rules (agrees : List DataBlock → DataBlock → Prop) (holds : Capture → Prop) : Prop where
  first : ∀ block, agrees [] block
  closed : ∀ capture, holds capture → Closed capture
  blank : ∀ writer, writer.Blank → holds (fresh writer)
  same : ∀ capture writer, holds capture → SameLog capture.writer writer →
    holds { capture with writer := writer }
  wrote : ∀ capture block wrote, holds capture → capture.writer.fp.isSome = true →
    agrees capture.written block → holds { capture with
      writer := capture.writer.writeBlock (block.seqno * blockBytes) wrote block.data
      written := block :: capture.written }
  stores : ∀ capture block io, holds capture → capture.writer.streaming = true →
    blockBytes ≤ io.wrote → block.seqno * blockBytes + blockBytes ≤ maxPerPort2Bytes →
    agrees capture.written block → holds { capture with
      writer := (capture.writer.writeBlock (block.seqno * blockBytes) io.wrote
        block.data).recordBlock io block.seqno
      written := block :: capture.written
      stored := capture.stored ++ [block] }
  ticks : ∀ capture io, holds capture → holds (apply (.tick io) capture)

namespace Rules

open BinlogWriter

variable {agrees : List DataBlock → DataBlock → Prop} {holds : Capture → Prop}
  {capture : Capture}

/-- A block offered to an open file. -/
theorem accepted (rules : Rules agrees holds) (before : holds capture)
    (isOpen : capture.writer.fp.isSome = true) (io : BlockIo) (sysid compid : UInt8)
    {block : DataBlock} (agree : agrees capture.written block) :
    holds (capture.settle block (capture.writer.acceptBlock io sysid compid block)) := by
  have same := latchTarget_sameLog capture.writer sysid compid
  have latched := rules.same capture _ before same
  have streams : (capture.writer.latchTarget sysid compid).streaming = true := by
    rw [streaming, same.fp, isOpen, Bool.and_true, latchTarget]
    split_ifs with before
    · exact before
    · rfl
  rw [acceptBlock]
  dsimp only
  split_ifs with jump quota seek short
  · exact before
  · exact before
  · exact latched
  · exact rules.wrote { capture with writer := capture.writer.latchTarget sysid compid } block
      io.wrote latched (same.fp ▸ isOpen) agree
  · have small : block.seqno * blockBytes + blockBytes ≤ maxPerPort2Bytes := by
      rw [prospectiveSize] at quota
      omega
    exact rules.stores { capture with writer := capture.writer.latchTarget sysid compid } block io
      latched streams (Nat.not_lt.mp short) small agree

private theorem handled (rules : Rules agrees holds) (before : holds capture) (port2 sessionN : Nat)
    (io : BlockIo) (sysid compid : UInt8) {block : DataBlock}
    (agree : agrees capture.written block) :
    holds (apply (.handleBlock port2 sessionN io sysid compid block) capture) := by
  rw [Capture.apply, handleBlock]
  cases opens : capture.writer.ensureOpen port2 sessionN io block.seqno with
  | error result =>
      obtain rfl | rfl := ensureOpen_error opens
      · exact before
      · exact before
  | ok opened =>
      obtain ⟨isOpen, rfl | ⟨closed, _, path, same⟩⟩ := ensureOpen_ok opens
      · exact rules.accepted before isOpen io sysid compid agree
      · obtain ⟨started, blank⟩ := rules.closed capture before closed
        have emptied := rules.blank { capture.writer with fp := some ⟨path, SparseArray.empty⟩ }
          ⟨blank.seen, blank.highest, blank.pending, blank.nacks⟩
        have begun : holds (fresh opened) := rules.same _ opened emptied same
        rw [started, settle_fresh block _ opened]
        exact rules.accepted begun isOpen io sysid compid (rules.first block)

private theorem observed (rules : Rules agrees holds) (before : holds capture) (nextN : Nat)
    (msg : Message) (timeBootMs : Nat) :
    holds (apply (.observe nextN msg timeBootMs) capture) := by
  rw [Capture.apply]
  obtain same | ⟨closed, blank⟩ := observe_cases capture.writer nextN msg timeBootMs
  · by_cases isOpen : (capture.writer.observe nextN msg timeBootMs).fp.isSome = true
    · rw [if_pos isOpen]
      exact rules.same _ _ before same
    · rw [if_neg isOpen]
      have closed := rules.closed _ before
        (same.fp.symm.trans (Option.not_isSome_iff_eq_none.mp isOpen))
      exact rules.blank _ (same.blank closed.2)
  · rw [closed]
    exact rules.blank _ blank

/-- The property holds after every run whose blocks agree. -/
theorem after (rules : Rules agrees holds) {fcSysid : UInt8} {calls : List WriterCall}
    (admitted : History.Guarded apply (fresh (BinlogWriter.initial fcSysid)) (Admits agrees)
      calls) : holds (after fcSysid calls) := by
  refine admitted.invariant (rules.blank _ ⟨rfl, rfl, rfl, rfl⟩)
    fun capture call before admits => ?_
  cases call with
  | handleBlock port2 sessionN io sysid compid block =>
      exact rules.handled before port2 sessionN io sysid compid admits
  | observe nextN msg timeBootMs => exact rules.observed before nextN msg timeBootMs
  | tick io => exact rules.ticks capture io before

end Rules

end Capture

end SupportProxy
