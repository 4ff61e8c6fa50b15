import SupportProxy.Binlog.Capture

/-! # The gaps of a session file

Every seqno below the highest one is stored, asked for or given up. The gaps of
a forward jump are seeded once, and no later jump reaches below the highest
seqno again. -/

namespace SupportProxy.Capture

open BinlogWriter

structure Tracked (capture : Capture) : Prop where
  closed : Closed capture
  bound : capture.writer.highestSeen * blockBytes + blockBytes ≤ maxPerPort2Bytes
  seen_le : ∀ seqno, capture.writer.seqnoSeen seqno = true → seqno ≤ capture.writer.highestSeen
  seen_highest : 0 < capture.writer.highestSeen →
    capture.writer.seqnoSeen capture.writer.highestSeen = true
  key : ∀ seqno, (capture.writer.nackState seqno).isSome = true →
    seqno < capture.writer.highestSeen ∧ capture.writer.seqnoSeen seqno = false ∧
      capture.abandoned seqno = false
  given_up : ∀ seqno, capture.abandoned seqno = true → seqno < capture.writer.highestSeen
  covered : ∀ seqno, 0 < seqno → seqno < capture.writer.highestSeen →
    capture.writer.seqnoSeen seqno = true ∨ (capture.writer.nackState seqno).isSome = true ∨
      capture.abandoned seqno = true

private theorem tracked_fresh {writer : BinlogWriter} (blank : writer.Blank) :
    Tracked (fresh writer) := by
  have highest : (fresh writer).writer.highestSeen = 0 := blank.highest
  have seen : ∀ seqno, (fresh writer).writer.seqnoSeen seqno = false := fun seqno =>
    blank.seqnoSeen seqno
  have nacks : ∀ seqno, (fresh writer).writer.nackState seqno = none := fun seqno =>
    congrFun blank.nacks seqno
  refine ⟨fun _ => ⟨rfl, blank⟩, ?_, ?_, ?_, ?_, ?_, ?_⟩
  · rw [highest]
    decide
  · intro seqno marked
    rw [seen] at marked
    cases marked
  · rw [highest]
    exact fun positive => (lt_irrefl 0 positive).elim
  · intro seqno key
    rw [nacks] at key
    cases key
  · intro seqno given
    cases given
  · rw [highest]
    exact fun seqno _ below => (Nat.not_lt_zero seqno below).elim

private theorem Tracked.sameLog {capture : Capture} (tracked : Tracked capture)
    {writer : BinlogWriter}
    (same : SameLog capture.writer writer) : Tracked { capture with writer := writer } where
  closed := tracked.closed.sameLog same
  bound := by
    rw [show ({ capture with writer := writer } : Capture).writer.highestSeen = _ from same.highest]
    exact tracked.bound
  seen_le := by
    simp only [same.highest, same.seqnoSeen]
    exact tracked.seen_le
  seen_highest := by
    simp only [same.highest, same.seqnoSeen]
    exact tracked.seen_highest
  key := by
    simp only [same.highest, same.seqnoSeen, same.nacks]
    exact tracked.key
  given_up := by
    simp only [same.highest]
    exact tracked.given_up
  covered := by
    simp only [same.highest, same.seqnoSeen, same.nacks]
    exact tracked.covered

/-- A write changes the file alone. -/
theorem Tracked.wrote {capture : Capture} (tracked : Tracked capture)
    (isOpen : capture.writer.fp.isSome = true) (block : DataBlock) (wrote : Nat) :
    Tracked { capture with
      writer := capture.writer.writeBlock (block.seqno * blockBytes) wrote block.data
      written := block :: capture.written } where
  closed := by
    intro closed
    rw [writeBlock, Option.map_eq_none_iff] at closed
    rw [closed] at isOpen
    cases isOpen
  bound := tracked.bound
  seen_le := tracked.seen_le
  seen_highest := tracked.seen_highest
  key := tracked.key
  given_up := tracked.given_up
  covered := tracked.covered

/-- A stored block is seen, and the seqnos it jumps over are seeded. -/
theorem Tracked.stores {capture : Capture} (tracked : Tracked capture)
    (streams : capture.writer.streaming = true) (block : DataBlock) (io : BlockIo)
    (small : block.seqno * blockBytes + blockBytes ≤ maxPerPort2Bytes) :
    Tracked { capture with
      writer := (capture.writer.writeBlock (block.seqno * blockBytes) io.wrote
        block.data).recordBlock io block.seqno
      written := block :: capture.written
      stored := capture.stored ++ [block] } := by
  rw [streaming, Bool.and_eq_true] at streams
  have kept := tracked.wrote streams.2 block io.wrote
  have latched : (capture.writer.writeBlock (block.seqno * blockBytes) io.wrote
      block.data).anyBlockSeen = true := streams.1
  have recorded := recordBlock_recorded
    (capture.writer.writeBlock (block.seqno * blockBytes) io.wrote block.data) io block.seqno
  have isOpen : (capture.writer.writeBlock (block.seqno * blockBytes) io.wrote
      block.data).fp ≠ none := by
    rw [writeBlock, ne_eq, Option.map_eq_none_iff]
    exact Option.isSome_iff_ne_none.mp streams.2
  generalize capture.writer.writeBlock (block.seqno * blockBytes) io.wrote block.data = wrote
    at kept latched recorded isOpen ⊢
  generalize wrote.recordBlock io block.seqno = next at recorded ⊢
  have bound := kept.bound
  dsimp only at bound
  have plain : (wrote.highestSeen + 1) % 2 ^ 32 = wrote.highestSeen + 1 := by
    rw [blockBytes, maxPerPort2Bytes] at bound
    omega
  have nacks := recorded.nacks
  rw [latched, plain] at nacks
  refine ⟨?_, ?_, ?_, ?_, ?_, ?_, ?_⟩
  · intro closed
    exact (isOpen (recorded.fp.symm.trans closed)).elim
  · dsimp only
    rw [recorded.highest]
    rcases Nat.le_total wrote.highestSeen block.seqno with less | less
    · rwa [Nat.max_eq_right less]
    · rwa [Nat.max_eq_left less]
  · intro seqno marked
    dsimp only at marked ⊢
    rw [recorded.seen, Bool.or_eq_true, decide_eq_true_eq] at marked
    rw [recorded.highest]
    rcases marked with rfl | before
    · exact Nat.le_max_right _ _
    · exact (kept.seen_le seqno before).trans (Nat.le_max_left _ _)
  · intro positive
    dsimp only at positive ⊢
    rw [recorded.highest] at positive ⊢
    rw [recorded.seen]
    rcases Nat.le_total wrote.highestSeen block.seqno with less | less
    · rw [Nat.max_eq_right less]
      simp only [decide_true, Bool.true_or]
    · rw [Nat.max_eq_left less] at positive ⊢
      rw [kept.seen_highest positive, Bool.or_true]
  · intro seqno key
    dsimp only at key ⊢
    rw [nacks] at key
    rw [recorded.highest, recorded.seen]
    by_cases filled : seqno = block.seqno
    · rw [if_pos filled] at key
      cases key
    · rw [if_neg filled] at key
      rw [decide_eq_false filled, Bool.false_or]
      split_ifs at key with seeded
      · obtain ⟨_, above, below, unseen, _⟩ := seeded
        refine ⟨below.trans_le (Nat.le_max_right _ _), unseen, ?_⟩
        by_contra given
        have lower := kept.given_up seqno (Bool.not_eq_false _ ▸ given)
        dsimp only at lower
        omega
      · obtain ⟨below, unseen, kept⟩ := kept.key seqno key
        exact ⟨below.trans_le (Nat.le_max_left _ _), unseen, kept⟩
  · intro seqno given
    dsimp only at given ⊢
    rw [recorded.highest]
    exact (kept.given_up seqno given).trans_le (Nat.le_max_left _ _)
  · intro seqno positive below
    dsimp only at below ⊢
    rw [recorded.highest] at below
    rw [recorded.seen, nacks]
    by_cases filled : seqno = block.seqno
    · exact .inl (by rw [decide_eq_true filled, Bool.true_or])
    · rw [if_neg filled, decide_eq_false filled, Bool.false_or]
      by_cases old : seqno < wrote.highestSeen
      · rcases kept.covered seqno positive old with seen | key | given
        · exact .inl seen
        · refine .inr (.inl ?_)
          split_ifs
          · rfl
          · exact key
        · exact .inr (.inr given)
      · -- the old highest seqno, or one the block jumps over
        have jumped : seqno < block.seqno := by omega
        cases seen : wrote.seqnoSeen seqno with
        | true => exact .inl rfl
        | false =>
            have above : wrote.highestSeen + 1 ≤ seqno := by
              by_contra at_highest
              have same : seqno = wrote.highestSeen := by omega
              have marked := kept.seen_highest (by rw [← same]; exact positive)
              dsimp only at marked
              rw [← same, seen] at marked
              cases marked
            refine .inr (.inl ?_)
            cases key : wrote.nackState seqno with
            | some state =>
                rw [if_neg (by simp only [reduceCtorEq, and_false, not_false_eq_true])]
                rfl
            | none =>
                rw [if_pos ⟨rfl, above, jumped, rfl, rfl⟩]
                rfl

/-- A key that a `tick` removes is given up. -/
theorem Tracked.ticked {capture : Capture} (tracked : Tracked capture) (io : TickIo) :
    Tracked (apply (.tick io) capture) := by
  rw [apply]
  cases streams : capture.writer.streaming with
  | false =>
      obtain ⟨same, packets⟩ := tick_waiting streams io
      have kept := tracked.sameLog same
      simp only [Bool.false_and, Bool.or_false]
      exact { kept with
        closed := by
          intro closed
          obtain ⟨started, blank⟩ := kept.closed closed
          refine ⟨?_, blank⟩
          rw [ackedBy_starts packets, List.append_nil]
          exact started }
  | true =>
      obtain ⟨_, _, _, _, _, asked⟩ := tick_streaming streams io
      rw [streaming, Bool.and_eq_true] at streams
      have seen : ∀ seqno, (capture.writer.tick io).2.seqnoSeen seqno =
          capture.writer.seqnoSeen seqno := by
        intro seqno
        rw [seqnoSeen, asked.seen]
        rfl
      have highest : (capture.writer.tick io).2.highestSeen = capture.writer.highestSeen :=
        asked.highest
      have key : ∀ seqno, ((capture.writer.tick io).2.nackState seqno).isSome =
          ((capture.writer.dropStaleNackState io.now).nackState seqno).isSome := asked.isSome
      refine ⟨?_, ?_, ?_, ?_, ?_, ?_, ?_⟩
      · intro closed
        have before : capture.writer.fp = none := asked.fp.symm.trans closed
        rw [before] at streams
        cases streams.2
      · dsimp only
        rw [highest]
        exact tracked.bound
      · simp only [seen, highest]
        exact tracked.seen_le
      · simp only [seen, highest]
        exact tracked.seen_highest
      · intro seqno isKey
        dsimp only at isKey ⊢
        obtain ⟨before, _, kept⟩ := survives ((key seqno).symm.trans isKey)
        obtain ⟨below, unseen, held⟩ := tracked.key seqno before
        rw [seen, highest, held, kept]
        exact ⟨below, unseen, rfl⟩
      · intro seqno given
        dsimp only at given ⊢
        rw [highest]
        rw [Bool.true_and, Bool.or_eq_true] at given
        rcases given with before | now
        · exact tracked.given_up seqno before
        · rw [abandons] at now
          cases known : capture.writer.nackState seqno with
          | none =>
              rw [known] at now
              cases now
          | some state => exact (tracked.key seqno (by rw [known]; rfl)).1
      · intro seqno positive below
        dsimp only at below ⊢
        rw [highest] at below
        rw [seen, key, Bool.true_and, Bool.or_eq_true, dropStaleNackState_eq]
        rcases tracked.covered seqno positive below with isSeen | isKey | given
        · exact .inl isSeen
        · cases given : capture.writer.abandons io.now seqno with
          | true => exact .inr (.inr (.inr rfl))
          | false =>
              rw [(tracked.key seqno isKey).2.1, if_neg (by decide)]
              exact .inr (.inl isKey)
        · exact .inr (.inr (.inl given))

/-- Every step keeps track of the gaps. -/
theorem tracked_rules : Rules (fun _ _ => True) Tracked where
  first := fun _ => trivial
  closed := fun _ tracked => tracked.closed
  blank := fun _ blank => tracked_fresh blank
  same := fun _ _ tracked same => tracked.sameLog same
  wrote := fun _ block wrote tracked isOpen _ => tracked.wrote isOpen block wrote
  stores := fun _ block io tracked streams _ small _ => tracked.stores streams block io small
  ticks := fun _ io tracked => tracked.ticked io

/-- Every run is a run of blocks that need not agree. -/
theorem admits_any (fcSysid : UInt8) (calls : List WriterCall) :
    History.Guarded apply (fresh (BinlogWriter.initial fcSysid))
      (Admits fun _ _ => True) calls := by
  induction calls with
  | nil => trivial
  | cons call calls ih =>
      refine ⟨?_, ih⟩
      cases call <;> trivial

/-- A NACK names a key that the same `tick` does not give up. -/
theorem Tracked.nack {capture : Capture} (tracked : Tracked capture) {io : TickIo}
    {packet : StatusPacket} (sent : packet ∈ (capture.writer.tick io).1)
    (isNack : packet.ack = false) :
    packet.seqno < capture.writer.highestSeen ∧ capture.writer.seqnoSeen packet.seqno = false ∧
      (apply (.tick io) capture).abandoned packet.seqno = false := by
  cases streams : capture.writer.streaming with
  | false =>
      rw [((tick_waiting streams io).2 packet sent).2] at isNack
      cases isNack
  | true =>
      obtain ⟨starts, nacks, packets, areStarts, areNacks, _⟩ := tick_streaming streams io
      rw [packets, List.mem_append, List.mem_append] at sent
      rcases sent with (start | ack) | nack
      · rw [(areStarts packet start).2] at isNack
        cases isNack
      · obtain ⟨seqno, _, rfl⟩ := List.mem_map.mp ack
        cases isNack
      · obtain ⟨before, unseen, kept⟩ := survives (areNacks packet nack).2
        obtain ⟨below, _, held⟩ := tracked.key _ before
        refine ⟨below, unseen, ?_⟩
        rw [apply]
        dsimp only
        rw [held, kept, Bool.and_false, Bool.or_false]

/-- A seqno given up stays so while the file is open. -/
theorem abandoned_apply (call : WriterCall) {capture : Capture} {seqno : Nat}
    (isOpen : (apply call capture).writer.fp.isSome = true)
    (given : capture.abandoned seqno = true) : (apply call capture).abandoned seqno = true := by
  cases call with
  | handleBlock port2 sessionN io sysid compid block =>
      rw [apply]
      generalize capture.writer.handleBlock port2 sessionN io sysid compid block = outcome
      obtain ⟨result, writer⟩ := outcome
      cases result <;> exact given
  | observe nextN msg timeBootMs =>
      rw [apply] at isOpen ⊢
      split_ifs at isOpen ⊢ with stillOpen
      · exact given
      · exact (stillOpen isOpen).elim
  | tick io =>
      rw [apply]
      dsimp only
      rw [given, Bool.true_or]

/-- **Gap tracking is exact.** In every reachable state with the file open and seqno 0
stored, a seqno below the highest one is seen, a key of `nack_state`, or given up and not
seen, and no two of these. Keys are unseen seqnos below the highest one, a NACK
names one that is not given up, and what is given up stays so for the file. -/
theorem run_gaps (fcSysid : UInt8) (calls : List WriterCall) :
    let capture := after fcSysid calls
    (capture.writer.fp.isSome = true → capture.writer.seqnoSeen 0 = true →
      ∀ seqno < capture.writer.highestSeen,
        (capture.writer.seqnoSeen seqno, (capture.writer.nackState seqno).isSome,
            capture.abandoned seqno && !capture.writer.seqnoSeen seqno) ∈
          [(true, false, false), (false, true, false), (false, false, true)]) ∧
      (∀ seqno, (capture.writer.nackState seqno).isSome = true →
        capture.writer.seqnoSeen seqno = false ∧ seqno < capture.writer.highestSeen) ∧
      (∀ io, ∀ packet ∈ (capture.writer.tick io).1, packet.ack = false →
        capture.writer.seqnoSeen packet.seqno = false ∧
          packet.seqno < capture.writer.highestSeen ∧
          (apply (.tick io) capture).abandoned packet.seqno = false) ∧
      ∀ call seqno, (apply call capture).writer.fp.isSome = true →
        capture.abandoned seqno = true → (apply call capture).abandoned seqno = true := by
  have tracked := tracked_rules.after (admits_any fcSysid calls)
  refine ⟨?_, ?_, ?_, fun call seqno => abandoned_apply call⟩
  · intro _ first seqno below
    cases seen : (after fcSysid calls).writer.seqnoSeen seqno with
    | true =>
        have unkeyed : ((after fcSysid calls).writer.nackState seqno).isSome = false := by
          by_contra keyed
          have unseen := (tracked.key seqno (Bool.not_eq_false _ ▸ keyed)).2.1
          rw [seen] at unseen
          cases unseen
        rw [unkeyed, Bool.not_true, Bool.and_false]
        exact List.mem_cons_self
    | false =>
        have positive : 0 < seqno := by
          by_contra zero
          rw [Nat.eq_zero_of_not_pos zero, first] at seen
          cases seen
        rw [Bool.not_false, Bool.and_true]
        cases keyed : ((after fcSysid calls).writer.nackState seqno).isSome with
        | true =>
            rw [(tracked.key seqno keyed).2.2]
            exact List.mem_cons_of_mem _ List.mem_cons_self
        | false =>
            rcases tracked.covered seqno positive below with isSeen | isKey | given
            · rw [seen] at isSeen
              cases isSeen
            · rw [keyed] at isKey
              cases isKey
            · rw [given]
              exact List.mem_cons_of_mem _ (List.mem_cons_of_mem _ List.mem_cons_self)
  · intro seqno keyed
    obtain ⟨below, unseen, _⟩ := tracked.key seqno keyed
    exact ⟨unseen, below⟩
  · intro io packet sent isNack
    obtain ⟨below, unseen, held⟩ := tracked.nack sent isNack
    exact ⟨unseen, below, held⟩

/-- Block 1 is given up after a minute and arrives late. -/
theorem late_block_seen_and_abandoned :
    let block (seqno : Nat) (small : seqno < 2 ^ 32) : WriterCall :=
      .handleBlock 5000 1 ⟨0, true, 0, 0, true, 200, 0⟩ 1 1 ⟨seqno, small, Vector.replicate 200 0⟩
    let capture := after 0 [block 1 (by decide), .tick ⟨61000000, true, fun _ => true, [1]⟩,
      block 2 (by decide), block 0 (by decide)]
    capture.writer.fp.isSome = true ∧ capture.writer.seqnoSeen 0 = true ∧
      1 < capture.writer.highestSeen ∧ capture.writer.seqnoSeen 1 = true ∧
      capture.abandoned 1 = true := by
  decide

end SupportProxy.Capture
