import SupportProxy.Connections.System

/-! # Snapshots

Every writer replaces all records of the pair, and nothing orders the writers among
themselves, after a drop or before the parent's `conn_remove_port2`. In the runs in
which they happen to be in order, the records end up as the last snapshot says
(`run_snapshots`). -/

namespace SupportProxy.Connections

/-- The last snapshot taken, less what has been deleted since. -/
def wanted (table : Table) (index : Nat) : Option Connection :=
  if table.latest.dropped index then none else table.latest.listing index

/-- All forked writers have finished. -/
def Quiet (table : Table) : Prop := ∀ writer, table.writers writer = none

/-- Whenever all writers have finished, the records are those of the last snapshot less later
drops, and none when the child has been reaped. -/
def Converged (table : Table) : Prop :=
  Quiet table →
    (∀ index, (table.records index).map ConnRecord.conn = wanted table index) ∧
      (table.reaped = true → ∀ index, table.records index = none)

/-- A writer commits only before any later one has, with nothing deleted of what it writes; only
a writer that is not the last fails to open the database, and the parent fails to for a child it
has reaped only if no record is wanted any more. -/
def InOrder (table : Table) : Action → Prop
  | .commit writer =>
      table.committed ≤ writer ∧
        ∀ forked, table.writers writer = some forked →
          ∀ index, forked.dropped index = true → forked.listing index = none
  | .openFails writer => writer + 1 < table.taken
  | .reap opens => opens = true ∨ ∀ index, wanted table index = none
  | _ => True

/-- What a run in order keeps: as soon as the last writer has finished, the records are the
wanted ones. -/
structure Ordered (table : Table) : Prop where
  running : ∀ writer forked, table.writers writer = some forked →
    writer < table.taken ∧ (writer + 1 = table.taken → forked = table.latest)
  committed : table.committed ≤ table.taken
  finished : (∀ writer, writer + 1 = table.taken → table.writers writer = none) →
    table.committed = table.taken ∧
      ∀ index, (table.records index).map ConnRecord.conn = wanted table index
  reaped : table.reaped = true →
    table.alive = false ∧ ∀ index, wanted table index = none

/-- The records that are left are those of the same connections. -/
theorem Ordered.of_same {table next : Table} (ordered : Ordered table)
    (writers : next.writers = table.writers) (taken : next.taken = table.taken)
    (latest : next.latest = table.latest) (committed : next.committed = table.committed)
    (records : ∀ index, (next.records index).map ConnRecord.conn =
      (table.records index).map ConnRecord.conn)
    (reaped : next.reaped = true → table.reaped = true)
    (alive : next.alive = true → table.alive = true) : Ordered next := by
  refine ⟨?_, ?_, ?_, ?_⟩
  · rw [writers, taken, latest]
    exact ordered.running
  · rw [committed, taken]
    exact ordered.committed
  · rw [writers, taken, committed]
    intro finished
    obtain ⟨same, all⟩ := ordered.finished finished
    refine ⟨same, fun index => ?_⟩
    rw [records, all, wanted, wanted, latest]
  · intro done
    obtain ⟨dead, none⟩ := ordered.reaped (reaped done)
    refine ⟨?_, fun index => by rw [wanted, latest]; exact none index⟩
    by_contra living
    rw [alive (Bool.eq_true_of_not_eq_false living)] at dead
    cases dead

private theorem Ordered.delete {table : Table} (ordered : Ordered table) (gone : Nat → Bool) :
    Ordered (table.delete gone) := by
  refine ⟨?_, ordered.committed, ?_, ?_⟩
  · intro writer forked running
    obtain ⟨before, held, rfl⟩ := Option.map_eq_some_iff.mp running
    obtain ⟨bound, last⟩ := ordered.running writer before held
    exact ⟨bound, fun newest => by rw [last newest]; rfl⟩
  · intro finished
    have before : ∀ writer, writer + 1 = table.taken → table.writers writer = none :=
      fun writer newest => Option.map_eq_none_iff.mp (finished writer newest)
    obtain ⟨same, all⟩ := ordered.finished before
    refine ⟨same, fun index => ?_⟩
    have here := all index
    unfold wanted at here ⊢
    simp only [Table.delete]
    by_cases deleted : gone index = true
    · simp [deleted]
    · simp [deleted, here]
  · intro done
    obtain ⟨dead, none⟩ := ordered.reaped done
    refine ⟨dead, fun index => ?_⟩
    have here := none index
    unfold wanted at here ⊢
    simp only [Table.delete]
    by_cases deleted : gone index = true
    · simp [deleted]
    · simp [deleted, here]

private theorem Ordered.apply {table : Table} (ordered : Ordered table) {action : Action}
    (possible : action.Possible table) (inOrder : InOrder table action) :
    Ordered (action.apply table) := by
  cases action with
  | connect index peer =>
      exact ordered.of_same rfl rfl rfl rfl (fun _ => rfl) id id
  | disconnect index => exact ordered.of_same rfl rfl rfl rfl (fun _ => rfl) id id
  | exit => exact ordered.of_same rfl rfl rfl rfl (fun _ => rfl) id fun alive => by cases alive
  | snapshot bound =>
      refine ⟨?_, Nat.le_succ_of_le ordered.committed, ?_, ?_⟩
      · intro writer forked running
        rcases of_update_some running with ⟨rfl, new⟩ | ⟨other, running⟩
        · exact ⟨Nat.lt_succ_self _, fun _ => new.symm⟩
        · have before := (ordered.running writer forked running).1
          exact ⟨Nat.lt_succ_of_lt before, fun newest => absurd (Nat.succ.inj newest) other⟩
      · intro finished
        have none := finished table.taken rfl
        simp only [Action.apply, Function.update_self] at none
        cases none
      · intro done
        have dead := (ordered.reaped done).1
        rw [show table.alive = true from possible] at dead
        cases dead
  | commit writer =>
      obtain ⟨forked, known⟩ := Option.isSome_iff_exists.mp possible
      obtain ⟨newer, whole⟩ := inOrder
      obtain ⟨bound, last⟩ := ordered.running writer forked known
      rw [Action.apply_commit known]
      refine ⟨?_, Nat.max_le.mpr ⟨ordered.committed, bound⟩, ?_, ordered.reaped⟩
      · exact fun other still running => ordered.running other still (of_update_none running).2
      · intro finished
        by_cases newest : writer + 1 = table.taken
        · refine ⟨?_, fun index => ?_⟩
          · dsimp only
            omega
          · have listing := whole forked known index
            rw [last newest] at listing
            rw [last newest]
            unfold wanted
            dsimp only [Snapshot.write]
            rw [Option.map_map]
            by_cases deleted : table.latest.dropped index = true
            · simp [deleted, listing deleted]
            · simp [deleted, Function.comp_def]
        · -- the last writer has finished before, so it has committed
          have before : ∀ other, other + 1 = table.taken → table.writers other = none := by
            intro other final
            have different : other ≠ writer := by
              rintro rfl
              exact newest final
            have none := finished other final
            simp only [Function.update_of_ne different] at none
            exact none
          have same := (ordered.finished before).1
          omega
  | openFails writer =>
      refine ⟨?_, ordered.committed, ?_, ordered.reaped⟩
      · exact fun other still running => ordered.running other still (of_update_none running).2
      · intro finished
        refine ordered.finished fun other last => ?_
        have different : other ≠ writer := by
          rintro rfl
          have newer : other + 1 < table.taken := inOrder
          omega
        have none := finished other last
        simp only [Action.apply, Function.update_of_ne different] at none
        exact none
  | flag request index =>
      obtain ⟨record, found⟩ := Option.isSome_iff_exists.mp possible.2
      rw [Action.apply_flag found]
      refine ordered.of_same rfl rfl rfl rfl (fun other => ?_) id id
      by_cases same : other = index
      · simp [same, found]
      · simp [Function.update_of_ne same]
  | signal request => exact ordered.of_same rfl rfl rfl rfl (fun _ => rfl) id id
  | refuse request => exact ordered.of_same rfl rfl rfl rfl (fun _ => rfl) id id
  | processDrops opens =>
      cases opens with
      | true =>
          have deleted := ordered.delete table.flagged
          refine deleted.of_same rfl rfl rfl rfl (fun _ => rfl) id fun living => ?_
          exact (Bool.and_eq_true_iff.mp living).1
      | false => exact ordered.of_same rfl rfl rfl rfl (fun _ => rfl) id id
  | remove opens =>
      cases opens with
      | true => exact ordered.delete _
      | false => exact ordered
  | reap opens =>
      cases opens with
      | true =>
          have deleted : Ordered (table.delete fun _ => true) := ordered.delete _
          refine ⟨deleted.running, deleted.committed, deleted.finished,
            fun _ => ⟨possible.1, fun index => ?_⟩⟩
          simp [wanted, Action.apply, Table.removePort2, Table.delete]
      | false =>
          have none := inOrder.resolve_left Bool.false_ne_true
          exact ⟨ordered.running, ordered.committed, ordered.finished,
            fun _ => ⟨possible.1, none⟩⟩

private theorem Ordered.initial : Ordered .initial :=
  ⟨fun _ _ running => (by cases running), Nat.le_refl 0, fun _ => ⟨rfl, fun _ => rfl⟩,
    fun reaped => by cases reaped⟩

private theorem Ordered.converged {table : Table} (ordered : Ordered table) : Converged table := by
  intro quiet
  obtain ⟨_, all⟩ := ordered.finished fun writer _ => quiet writer
  refine ⟨all, fun reaped index => ?_⟩
  have here := all index
  rw [(ordered.reaped reaped).2 index] at here
  exact Option.map_eq_none_iff.mp here

/-- In every run in which the writers commit in order, write nothing that has been deleted since
their snapshot, and the last one and the parent's cleanup get to open the database, the records
converge. -/
theorem run_snapshots {history : List Action} (run : Run history)
    (inOrder : History.Guarded Action.apply Table.initial InOrder history) :
    Converged (after history) := by
  have guarded := History.guarded_and.mpr ⟨run, inOrder⟩
  have ordered : Ordered (after history) := by
    refine History.Guarded.invariant guarded .initial fun table action holds allowed => ?_
    exact holds.apply allowed.1 allowed.2
  exact ordered.converged

/-- An engineer leaves between two snapshots. -/
def twoSnapshots : List Action :=
  [.snapshot 1, .disconnect 1, .snapshot 1, .connect 1 ⟨1, 1⟩]

private theorem twoSnapshots_running {writer : Nat} {forked : Snapshot}
    (running : (after twoSnapshots).writers writer = some forked) (index : Nat) :
    forked.dropped index = false := by
  match writer with
  | 0 =>
      rw [← Option.some.inj running]
  | 1 =>
      rw [← Option.some.inj running]
  | _ + 2 => cases running

/-- Writers that commit in the order of their forks converge. -/
theorem run_snapshots_inOrder : Converged (after (.commit 1 :: .commit 0 :: twoSnapshots)) := by
  have first : InOrder (after twoSnapshots) (.commit 0) :=
    ⟨Nat.le_refl 0, fun forked running index deleted => by
      rw [twoSnapshots_running running] at deleted
      cases deleted⟩
  have second : InOrder (after (.commit 0 :: twoSnapshots)) (.commit 1) :=
    ⟨Nat.le_refl 1, fun forked running index deleted => by
      have before : (after twoSnapshots).writers 1 = some forked := running
      rw [twoSnapshots_running before] at deleted
      cases deleted⟩
  exact run_snapshots (by decide +kernel) ⟨second, first, trivial, trivial, trivial, trivial,
    trivial⟩

/-- The writer of the first snapshot commits last. -/
theorem run_snapshots_late :
    Run (.commit 0 :: .commit 1 :: twoSnapshots) ∧
      ¬ Converged (after (.commit 0 :: .commit 1 :: twoSnapshots)) := by
  refine ⟨by decide +kernel, fun converged => ?_⟩
  have quiet : Quiet (after (.commit 0 :: .commit 1 :: twoSnapshots)) := by
    intro writer
    match writer with
    | 0 => rfl
    | 1 => rfl
    | _ + 2 => rfl
  have gone := (converged quiet).1 1
  revert gone
  decide +kernel

end SupportProxy.Connections
