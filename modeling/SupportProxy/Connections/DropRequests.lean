import SupportProxy.Connections.System

/-! # Drop requests

A heartbeat writer rewrites the records of the pair from memory that knows nothing of a
flag, so a request survives exactly as long as no writer commits in between
(`run_dropRequests`). A flag names a slot, not a connection, so it closes the connection
it was set for exactly as long as nobody else takes the slot (`run_aimed`). -/

namespace SupportProxy.Connections

/-- The connections seen so far have the numbers given out so far. -/
structure Numbered (table : Table) : Prop where
  slots : ∀ index conn, table.slots index = some conn →
    conn.serial < table.made ∧ index ≤ maxComm2Links
  records : ∀ index record, table.records index = some record → record.conn.serial < table.made
  writers : ∀ writer forked, table.writers writer = some forked →
    ∀ index conn, forked.listing index = some conn → conn.serial < table.made
  requests : ∀ request call, table.requests request = some call → call.conn.serial < table.made
  exited : table.alive = false → ∀ index, table.slots index = none

/-- A request that has not been refused, for a connection that is still in its slot. -/
def Outstanding (table : Table) (call : DropRequest) : Prop :=
  call.stage ≠ .refused ∧ table.slots call.index = some call.conn

/-- `request_drop` returned True and `process_drops` has run since, but the connection is
still open and its record no longer carries the flag. -/
def Lost (table : Table) (call : DropRequest) : Prop :=
  call.stage = .processed ∧ table.slots call.index = some call.conn ∧
    table.flagged call.index = false

instance (table : Table) (call : DropRequest) : Decidable (Lost table call) :=
  inferInstanceAs (Decidable (_ ∧ _ ∧ _))

/-- Every outstanding request has its flag in the table. -/
def Kept (table : Table) : Prop :=
  ∀ request call, table.requests request = some call → Outstanding table call →
    table.flagged call.index = true

/-- The records of the pair are not replaced or cleared while the record of an outstanding
request carries the flag. -/
def Spares (table : Table) : Action → Prop
  | .commit _ | .remove true =>
      ∀ request call, table.requests request = some call → Outstanding table call →
        table.flagged call.index = false
  | _ => True

private theorem flagged_iff {table : Table} {index : Nat} :
    table.flagged index = true ↔
      ∃ record, table.records index = some record ∧ record.dropRequested = true := by
  unfold Table.flagged
  cases table.records index with
  | none => simp
  | some record => simp

private theorem flagged_congr {table next : Table} {index : Nat}
    (same : next.records index = table.records index) :
    next.flagged index = table.flagged index := by
  unfold Table.flagged
  rw [same]

private theorem Numbered.initial : Numbered .initial := by
  constructor
  all_goals
    intros
    contradiction

private theorem Numbered.setStage {table : Table} (numbered : Numbered table) (request : Nat)
    (stage : Stage) : Numbered (table.setStage request stage) := by
  refine ⟨numbered.slots, numbered.records, numbered.writers, fun other call stored => ?_,
    numbered.exited⟩
  by_cases same : other = request
  · simp only [Table.setStage, same, Function.update_self] at stored
    obtain ⟨before, held, rfl⟩ := Option.map_eq_some_iff.mp stored
    exact numbered.requests request before held
  · simp only [Table.setStage, Function.update_of_ne same] at stored
    exact numbered.requests other call stored

private theorem Numbered.delete {table : Table} (numbered : Numbered table) (gone : Nat → Bool) :
    Numbered (table.delete gone) := by
  refine ⟨numbered.slots, fun index record stored => ?_, fun writer forked running => ?_,
    numbered.requests, numbered.exited⟩
  · simp only [Table.delete] at stored
    split at stored
    · cases stored
    · exact numbered.records index record stored
  · obtain ⟨before, held, rfl⟩ := Option.map_eq_some_iff.mp running
    exact numbered.writers writer before held

private theorem Numbered.removePort2 {table : Table} (numbered : Numbered table) (opens : Bool) :
    Numbered (table.removePort2 opens) := by
  unfold Table.removePort2
  split
  · exact numbered.delete _
  · exact numbered

private theorem Numbered.closeFlagged {table : Table} (numbered : Numbered table)
    (flags : Nat → Bool) :
    Numbered (table.closeFlagged flags) := by
  refine ⟨fun index conn slot => ?_, numbered.records, numbered.writers, numbered.requests,
    fun dead index => ?_⟩
  · simp only [Table.closeFlagged] at slot
    split at slot
    · cases slot
    · exact numbered.slots index conn slot
  · simp only [Table.closeFlagged, Bool.and_eq_false_iff, Bool.not_eq_false'] at dead ⊢
    rcases dead with dead | user
    · rw [numbered.exited dead index]
      split
      · rfl
      · rfl
    · rw [user, Bool.true_or, if_pos rfl]

private theorem Numbered.processDrops {table : Table} (numbered : Numbered table) (opens : Bool) :
    Numbered (table.processDrops opens) := by
  have processed : Numbered { table with
      dropsPending := false
      requests := fun request => (table.requests request).map DropRequest.process } := by
    refine ⟨numbered.slots, numbered.records, numbered.writers, fun request call stored => ?_,
      numbered.exited⟩
    obtain ⟨before, held, rfl⟩ := Option.map_eq_some_iff.mp stored
    have same : before.process.conn = before.conn := by
      unfold DropRequest.process
      split
      · rfl
      · rfl
    rw [same]
    exact numbered.requests request before held
  unfold Table.processDrops
  dsimp only
  split
  · exact (processed.delete _).closeFlagged _
  · exact processed

private theorem Numbered.apply {table : Table} (numbered : Numbered table) {action : Action}
    (possible : action.Possible table) : Numbered (action.apply table) := by
  cases action with
  | connect index peer =>
      refine ⟨fun other conn slot => ?_,
        fun other record stored => Nat.lt_succ_of_lt (numbered.records other record stored),
        fun writer forked running other conn listed =>
          Nat.lt_succ_of_lt (numbered.writers writer forked running other conn listed),
        fun request call stored => Nat.lt_succ_of_lt (numbered.requests request call stored),
        fun dead => ?_⟩
      · rcases of_update_some slot with ⟨rfl, rfl⟩ | ⟨-, slot⟩
        · exact ⟨Nat.lt_succ_self _, possible.2.2⟩
        · have before := numbered.slots other conn slot
          exact ⟨Nat.lt_succ_of_lt before.1, before.2⟩
      · exact Bool.noConfusion (dead.symm.trans possible.1)
  | disconnect index =>
      refine ⟨fun other conn slot => ?_, numbered.records, numbered.writers, numbered.requests,
        fun dead => ?_⟩
      · exact numbered.slots other conn (of_update_none slot).2
      · exact Bool.noConfusion (dead.symm.trans possible.1)
  | exit =>
      exact ⟨fun _ _ slot => (by cases slot), numbered.records, numbered.writers,
        numbered.requests, fun _ _ => rfl⟩
  | snapshot bound =>
      refine ⟨numbered.slots, numbered.records, fun writer forked running index conn listed => ?_,
        numbered.requests, numbered.exited⟩
      rcases of_update_some running with ⟨rfl, rfl⟩ | ⟨-, running⟩
      · dsimp only at listed
        split at listed
        · exact (numbered.slots index conn listed).1
        · cases listed
      · exact numbered.writers writer forked running index conn listed
  | commit writer =>
      obtain ⟨forked, known⟩ := Option.isSome_iff_exists.mp possible
      rw [Action.apply_commit known]
      refine ⟨numbered.slots, fun index record stored => ?_, fun other still running => ?_,
        numbered.requests, numbered.exited⟩
      · obtain ⟨conn, listed, rfl⟩ := Option.map_eq_some_iff.mp stored
        exact numbered.writers writer forked known index conn listed
      · exact numbered.writers other still (of_update_none running).2
  | openFails writer =>
      exact ⟨numbered.slots, numbered.records,
        fun other still running => numbered.writers other still (of_update_none running).2,
        numbered.requests, numbered.exited⟩
  | flag request index =>
      obtain ⟨record, found⟩ := Option.isSome_iff_exists.mp possible.2
      have known := numbered.records index record found
      rw [Action.apply_flag found]
      refine ⟨numbered.slots, fun other stored held => ?_, numbered.writers,
        fun other call stored => ?_, numbered.exited⟩
      · rcases of_update_some held with ⟨-, rfl⟩ | ⟨-, held⟩
        · exact known
        · exact numbered.records other stored held
      · rcases of_update_some stored with ⟨-, rfl⟩ | ⟨-, stored⟩
        · exact known
        · exact numbered.requests other call stored
  | signal request =>
      have staged := numbered.setStage request .signalled
      exact ⟨staged.slots, staged.records, staged.writers, staged.requests, staged.exited⟩
  | refuse request => exact numbered.setStage request .refused
  | processDrops opens => exact numbered.processDrops opens
  | remove opens => exact numbered.removePort2 opens
  | reap opens =>
      have removed := numbered.removePort2 opens
      exact ⟨removed.slots, removed.records, removed.writers, removed.requests, removed.exited⟩

/-! ## Requests are not lost -/

private theorem flagged_update {table : Table} {index : Nat} (record : ConnRecord) (other : Nat)
    (kept : table.flagged other = true) :
    ({ table with
        records := Function.update table.records index
          (some { record with dropRequested := true }) } : Table).flagged other = true := by
  by_cases same : other = index
  · simp [Table.flagged, same]
  · rw [← kept]
    exact flagged_congr (Function.update_of_ne same _ _)

/-- Steps that leave the records alone, and no request outstanding that was not before. -/
theorem Kept.of_records {table next : Table} (kept : Kept table)
    (records : next.records = table.records)
    (requests : ∀ request call, next.requests request = some call → Outstanding next call →
      ∃ before, table.requests request = some before ∧ Outstanding table before ∧
        before.index = call.index) : Kept next := by
  intro request call stored outstanding
  obtain ⟨before, held, still, same⟩ := requests request call stored outstanding
  rw [← same, flagged_congr (congrFun records before.index)]
  exact kept request before held still

private theorem Kept.setStage {table : Table} (kept : Kept table) {request : Nat} {stage : Stage}
    (staged : (table.requests request).map DropRequest.stage = some .flagged) :
    Kept (table.setStage request stage) := by
  refine kept.of_records rfl fun other call stored outstanding => ?_
  by_cases same : other = request
  · simp only [Table.setStage, same, Function.update_self] at stored
    obtain ⟨before, held, rfl⟩ := Option.map_eq_some_iff.mp stored
    rw [held] at staged
    refine ⟨before, same ▸ held, ⟨?_, outstanding.2⟩, rfl⟩
    rw [Option.some.inj staged]
    simp
  · simp only [Table.setStage, Function.update_of_ne same] at stored
    exact ⟨call, stored, outstanding, rfl⟩

/-- With nothing outstanding there is nothing to keep. -/
theorem Kept.of_spared {table next : Table} (kept : Kept table)
    (spares : ∀ request call, table.requests request = some call → Outstanding table call →
      table.flagged call.index = false)
    (requests : next.requests = table.requests) (slots : next.slots = table.slots) :
    Kept next := by
  intro request call stored outstanding
  rw [requests] at stored
  have before : Outstanding table call := ⟨outstanding.1, by rw [← slots]; exact outstanding.2⟩
  have flagged := kept request call stored before
  rw [spares request call stored before] at flagged
  cases flagged

private theorem DropRequest.process_same (call : DropRequest) :
    call.process.index = call.index ∧ call.process.conn = call.conn ∧
      (call.process.stage ≠ .refused → call.stage ≠ .refused) := by
  unfold DropRequest.process
  split
  · rename_i signalled
    refine ⟨rfl, rfl, fun _ => ?_⟩
    rw [signalled]
    simp
  · exact ⟨rfl, rfl, id⟩

private theorem Kept.processDrops {table : Table} (kept : Kept table) (numbered : Numbered table)
    (opens : Bool) : Kept (table.processDrops opens) := by
  have processed : ∀ request call,
      ((table.requests request).map DropRequest.process) = some call → call.stage ≠ .refused →
        table.slots call.index = some call.conn → table.flagged call.index = true := by
    intro request call stored notRefused slot
    obtain ⟨before, held, rfl⟩ := Option.map_eq_some_iff.mp stored
    obtain ⟨index, conn, stage⟩ := before.process_same
    rw [index, conn] at slot
    rw [index]
    exact kept request before held ⟨stage notRefused, slot⟩
  unfold Table.processDrops
  dsimp only
  split
  · intro request call stored outstanding
    obtain ⟨notRefused, slot⟩ := outstanding
    simp only [Table.closeFlagged] at slot
    split at slot
    · cases slot
    · rename_i spared
      -- the flag is there, so the slot has just been closed
      have flagged := processed request call stored notRefused slot
      have inside := (numbered.slots call.index call.conn slot).2
      exfalso
      refine spared ?_
      by_cases user : call.index = 0
      · rw [user] at flagged
        exact Bool.or_eq_true_iff.mpr (.inl flagged)
      · have engineer : 1 ≤ call.index := Nat.one_le_iff_ne_zero.mpr user
        refine Bool.or_eq_true_iff.mpr (.inr ?_)
        rw [Bool.and_eq_true, Bool.and_eq_true, decide_eq_true_iff, decide_eq_true_iff]
        exact ⟨⟨flagged, engineer⟩, inside⟩
  · intro request call stored outstanding
    exact processed request call stored outstanding.1 outstanding.2

private theorem Kept.apply {table : Table} (kept : Kept table) (numbered : Numbered table)
    {action : Action} (possible : action.Possible table) (spares : Spares table action) :
    Kept (action.apply table) := by
  cases action with
  | connect index peer =>
      refine kept.of_records rfl fun request call stored outstanding =>
        ⟨call, stored, ⟨outstanding.1, ?_⟩, rfl⟩
      rcases of_update_some outstanding.2 with ⟨-, new⟩ | ⟨-, slot⟩
      · -- the new connection has a number of its own
        have before : call.conn.serial < table.made := numbered.requests request call stored
        rw [← new] at before
        exact absurd before (Nat.lt_irrefl _)
      · exact slot
  | disconnect index =>
      exact kept.of_records rfl fun request call stored outstanding =>
        ⟨call, stored, ⟨outstanding.1, (of_update_none outstanding.2).2⟩, rfl⟩
  | exit => exact kept.of_records rfl fun _ _ _ outstanding => by cases outstanding.2
  | snapshot bound =>
      exact kept.of_records rfl fun _ call stored outstanding => ⟨call, stored, outstanding, rfl⟩
  | commit writer =>
      obtain ⟨forked, known⟩ := Option.isSome_iff_exists.mp possible
      rw [Action.apply_commit known]
      exact kept.of_spared spares rfl rfl
  | openFails writer =>
      exact kept.of_records rfl fun _ call stored outstanding => ⟨call, stored, outstanding, rfl⟩
  | flag request index =>
      obtain ⟨record, found⟩ := Option.isSome_iff_exists.mp possible.2
      rw [Action.apply_flag found]
      intro other call stored outstanding
      rcases of_update_some stored with ⟨-, rfl⟩ | ⟨-, stored⟩
      · simp [Table.flagged]
      · exact flagged_update record call.index (kept other call stored outstanding)
  | signal request => exact kept.setStage possible.2
  | refuse request => exact kept.setStage possible
  | processDrops opens => exact kept.processDrops numbered opens
  | remove opens =>
      cases opens with
      | true => exact kept.of_spared spares rfl rfl
      | false => exact kept
  | reap opens =>
      intro request call stored outstanding
      have dead := numbered.exited possible.1 call.index
      have slot : table.slots call.index = some call.conn := by
        cases opens with
        | true => exact outstanding.2
        | false => exact outstanding.2
      rw [dead] at slot
      cases slot

structure Tracked (table : Table) : Prop where
  kept : Kept table
  numbered : Numbered table

/-- In every run in which no writer commits and the parent clears nothing while the record of
an outstanding request carries its flag, no drop request is ever lost. -/
theorem run_dropRequests {history : List Action} (run : Run history)
    (spares : History.Guarded Action.apply Table.initial Spares history) :
    ∀ request call, (after history).requests request = some call → ¬ Lost (after history) call := by
  have guarded := History.guarded_and.mpr ⟨run, spares⟩
  have tracked : Tracked (after history) := by
    have start : Kept Table.initial := fun request call asked => by cases asked
    refine History.Guarded.invariant guarded ⟨start, .initial⟩
      fun table action holds allowed => ?_
    exact ⟨holds.kept.apply holds.numbered allowed.1 allowed.2, holds.numbered.apply allowed.1⟩
  intro request call stored lost
  obtain ⟨processed, slot, unflagged⟩ := lost
  have flagged := tracked.kept request call stored ⟨by rw [processed]; simp, slot⟩
  rw [unflagged] at flagged
  cases flagged

/-- An engineer is listed, and then dropped on request. -/
def listed : List Action := [.snapshot 1, .connect 1 ⟨1, 1⟩]

def served : List Action := .processDrops true :: .signal 0 :: .flag 0 1 :: .commit 0 :: listed

/-- A request that is served in the usual order is not lost. -/
theorem run_dropRequests_served :
    Run served ∧ ∀ request call, (after served).requests request = some call →
      ¬ Lost (after served) call := by
  have spares : Spares (after listed) (.commit 0) := by
    intro request call stored
    have none : Option.none = some call := stored
    cases none
  have run : Run served := by decide +kernel
  exact ⟨run, run_dropRequests run ⟨trivial, trivial, trivial, spares, trivial, trivial, trivial⟩⟩

/-- The next writer commits between the flag and the scan. -/
def overwritten : List Action :=
  .processDrops true :: .signal 0 :: .commit 1 :: .flag 0 1 :: .snapshot 1 :: .commit 0 :: listed

/-- A commit that was forked before the request overwrites the flag, and the request is lost. -/
theorem run_dropRequests_overwritten :
    Run overwritten ∧ ¬ ∀ request call, (after overwritten).requests request = some call →
      ¬ Lost (after overwritten) call := by
  refine ⟨by decide +kernel, fun kept => ?_⟩
  have stored : (after overwritten).requests 0 = some ⟨1, ⟨0, 1, 1⟩, .processed⟩ := by
    decide +kernel
  have lost : Lost (after overwritten) ⟨1, ⟨0, 1, 1⟩, .processed⟩ := by decide +kernel
  exact kept 0 _ stored lost

/-! ## Requests are not misdirected -/

/-- A flagged record describes the connection in its slot. -/
def Aimed (table : Table) : Prop :=
  ∀ index record conn, 1 ≤ index → table.records index = some record →
    record.dropRequested = true → table.slots index = some conn → conn = record.conn

/-- A flagged record was flagged by a request while it described the same connection. -/
def Requested (table : Table) : Prop :=
  ∀ index record, table.records index = some record → record.dropRequested = true →
    ∃ request call, table.requests request = some call ∧ call.index = index ∧
      call.conn = record.conn

/-- No engineer takes the slot of a flagged record, and no record is flagged whose slot has
been taken by another engineer. -/
def Settled (table : Table) : Action → Prop
  | .connect index _ => 1 ≤ index → table.flagged index = false
  | .flag _ index => ∀ record conn, 1 ≤ index → table.records index = some record →
      table.slots index = some conn → conn = record.conn
  | _ => True

private theorem Aimed.of_same {table next : Table} (aimed : Aimed table)
    (records : ∀ index record, next.records index = some record → record.dropRequested = true →
      table.records index = some record)
    (slots : ∀ index conn, next.slots index = some conn → table.slots index = some conn) :
    Aimed next := fun index record conn engineer stored flagged slot =>
  aimed index record conn engineer (records index record stored flagged) flagged
    (slots index conn slot)

private theorem Snapshot.write_flag {forked : Snapshot} {index : Nat} {record : ConnRecord}
    (stored : forked.write index = some record) : record.dropRequested = false := by
  obtain ⟨conn, _, rfl⟩ := Option.map_eq_some_iff.mp stored
  rfl

private theorem delete_records {table : Table} {gone : Nat → Bool} {index : Nat}
    {record : ConnRecord} (stored : (table.delete gone).records index = some record) :
    table.records index = some record := by
  simp only [Table.delete] at stored
  split at stored
  · cases stored
  · exact stored

private theorem closeFlagged_slots {table : Table} {flags : Nat → Bool} {index : Nat}
    {conn : Connection} (slot : (table.closeFlagged flags).slots index = some conn) :
    table.slots index = some conn := by
  simp only [Table.closeFlagged] at slot
  split at slot
  · cases slot
  · exact slot

private theorem Aimed.delete {table : Table} (aimed : Aimed table) (gone : Nat → Bool) :
    Aimed (table.delete gone) :=
  aimed.of_same (fun _ _ stored _ => delete_records stored) fun _ _ slot => slot

private theorem Aimed.apply {table : Table} (aimed : Aimed table) {action : Action}
    (possible : action.Possible table) (settled : Settled table action) :
    Aimed (action.apply table) := by
  cases action with
  | connect index peer =>
      intro other record conn engineer stored flagged slot
      rcases of_update_some slot with ⟨rfl, -⟩ | ⟨-, slot⟩
      · have flags : table.flagged other = true := flagged_iff.mpr ⟨record, stored, flagged⟩
        rw [settled engineer] at flags
        cases flags
      · exact aimed other record conn engineer stored flagged slot
  | disconnect index =>
      exact aimed.of_same (fun _ _ stored _ => stored) fun _ _ slot => (of_update_none slot).2
  | exit => exact aimed.of_same (fun _ _ stored _ => stored) fun _ _ slot => by cases slot
  | snapshot bound => exact aimed.of_same (fun _ _ stored _ => stored) fun _ _ slot => slot
  | commit writer =>
      obtain ⟨forked, known⟩ := Option.isSome_iff_exists.mp possible
      rw [Action.apply_commit known]
      refine aimed.of_same (fun index record stored flagged => ?_) fun _ _ slot => slot
      rw [Snapshot.write_flag stored] at flagged
      cases flagged
  | openFails writer => exact aimed.of_same (fun _ _ stored _ => stored) fun _ _ slot => slot
  | flag request index =>
      obtain ⟨record, found⟩ := Option.isSome_iff_exists.mp possible.2
      rw [Action.apply_flag found]
      intro other stored conn engineer held flagged slot
      rcases of_update_some held with ⟨rfl, rfl⟩ | ⟨-, held⟩
      · exact settled record conn engineer found slot
      · exact aimed other stored conn engineer held flagged slot
  | signal request => exact aimed.of_same (fun _ _ stored _ => stored) fun _ _ slot => slot
  | refuse request => exact aimed.of_same (fun _ _ stored _ => stored) fun _ _ slot => slot
  | processDrops opens =>
      cases opens with
      | true =>
          exact aimed.of_same (fun _ _ stored _ => delete_records stored)
            fun _ _ slot => closeFlagged_slots slot
      | false => exact aimed.of_same (fun _ _ stored _ => stored) fun _ _ slot => slot
  | remove opens =>
      cases opens with
      | true => exact aimed.delete _
      | false => exact aimed
  | reap opens =>
      cases opens with
      | true =>
          have deleted : Aimed (table.delete fun _ => true) := aimed.delete _
          exact deleted.of_same (fun _ _ stored _ => stored) fun _ _ slot => slot
      | false => exact aimed

/-- Flagged records that were there before, under requests that still are. -/
theorem Requested.of_same {table next : Table} (requested : Requested table)
    (records : ∀ index record, next.records index = some record → record.dropRequested = true →
      table.records index = some record)
    (requests : ∀ request call, table.requests request = some call →
      ∃ later, next.requests request = some later ∧ later.index = call.index ∧
        later.conn = call.conn) : Requested next := by
  intro index record stored flagged
  obtain ⟨request, call, held, here, same⟩ :=
    requested index record (records index record stored flagged) flagged
  obtain ⟨later, kept, sameIndex, sameConn⟩ := requests request call held
  exact ⟨request, later, kept, sameIndex.trans here, sameConn.trans same⟩

private theorem Requested.setStage {table : Table} (requested : Requested table) (request : Nat)
    (stage : Stage) : Requested (table.setStage request stage) := by
  refine requested.of_same (fun _ _ stored _ => stored) fun other call held => ?_
  by_cases same : other = request
  · subst same
    refine ⟨{ call with stage := stage }, ?_, rfl, rfl⟩
    simp only [Table.setStage, Function.update_self, held, Option.map_some]
  · refine ⟨call, ?_, rfl, rfl⟩
    simp only [Table.setStage, Function.update_of_ne same, held]

private theorem Requested.apply {table : Table} (requested : Requested table) {action : Action}
    (possible : action.Possible table) : Requested (action.apply table) := by
  have kept : ∀ request call, table.requests request = some call →
      ∃ later, table.requests request = some later ∧ later.index = call.index ∧
        later.conn = call.conn := fun _ call held => ⟨call, held, rfl, rfl⟩
  cases action with
  | connect index peer => exact requested.of_same (fun _ _ stored _ => stored) kept
  | disconnect index => exact requested.of_same (fun _ _ stored _ => stored) kept
  | exit => exact requested.of_same (fun _ _ stored _ => stored) kept
  | snapshot bound => exact requested.of_same (fun _ _ stored _ => stored) kept
  | commit writer =>
      obtain ⟨forked, known⟩ := Option.isSome_iff_exists.mp possible
      rw [Action.apply_commit known]
      refine requested.of_same (fun index record stored flagged => ?_) kept
      rw [Snapshot.write_flag stored] at flagged
      cases flagged
  | openFails writer => exact requested.of_same (fun _ _ stored _ => stored) kept
  | flag request index =>
      obtain ⟨record, found⟩ := Option.isSome_iff_exists.mp possible.2
      rw [Action.apply_flag found]
      intro other stored held flagged
      rcases of_update_some held with ⟨rfl, rfl⟩ | ⟨-, held⟩
      · exact ⟨request, ⟨other, record.conn, .flagged⟩, Function.update_self .., rfl, rfl⟩
      · obtain ⟨earlier, call, known, here, alike⟩ := requested other stored held flagged
        have different : earlier ≠ request := by
          rintro rfl
          rw [possible.1] at known
          cases known
        exact ⟨earlier, call, (Function.update_of_ne different ..).trans known, here, alike⟩
  | signal request =>
      exact (requested.setStage request .signalled).of_same (fun _ _ stored _ => stored)
        fun _ call held => ⟨call, held, rfl, rfl⟩
  | refuse request => exact requested.setStage request .refused
  | processDrops opens =>
      have processed : ∀ request call, table.requests request = some call →
          ∃ later, (table.requests request).map DropRequest.process = some later ∧
            later.index = call.index ∧ later.conn = call.conn := by
        intro request call held
        obtain ⟨index, conn, _⟩ := call.process_same
        exact ⟨call.process, by rw [held, Option.map_some], index, conn⟩
      cases opens with
      | true => exact requested.of_same (fun _ _ stored _ => delete_records stored) processed
      | false => exact requested.of_same (fun _ _ stored _ => stored) processed
  | remove opens =>
      cases opens with
      | true => exact requested.of_same (fun _ _ stored _ => delete_records stored) kept
      | false => exact requested
  | reap opens =>
      cases opens with
      | true =>
          have deleted : Requested (table.delete fun _ => true) :=
            requested.of_same (fun _ _ stored _ => delete_records stored) kept
          exact deleted.of_same (fun _ _ stored _ => stored)
            fun _ call held => ⟨call, held, rfl, rfl⟩
      | false => exact requested

structure Directed (table : Table) : Prop where
  aimed : Aimed table
  requested : Requested table

/-- `process_drops` closes an engineer connection for the record of its slot. -/
def Closes (table : Table) (index : Nat) (conn : Connection) : Prop :=
  1 ≤ index ∧ index ≤ maxComm2Links ∧ table.flagged index = true ∧
    table.slots index = some conn

/-- Unless the session ends, the slots that `process_drops` closes are these. -/
theorem closes_iff {table : Table} (session : table.flagged 0 = false) {index : Nat}
    {conn : Connection} (slot : table.slots index = some conn) :
    ((Action.processDrops true).apply table).slots index = none ↔ Closes table index conn := by
  have slots : ((Action.processDrops true).apply table).slots index =
      if table.flagged 0 || (table.flagged index && decide (1 ≤ index) &&
        decide (index ≤ maxComm2Links)) then none else table.slots index := rfl
  rw [slots, session, Bool.false_or, slot]
  constructor
  · intro closed
    split at closed
    · rename_i asked
      rw [Bool.and_eq_true, Bool.and_eq_true, decide_eq_true_iff, decide_eq_true_iff] at asked
      exact ⟨asked.1.2, asked.2, asked.1.1, slot⟩
    · cases closed
  · rintro ⟨engineer, inside, flagged, _⟩
    rw [if_pos (by simp [engineer, inside, flagged])]

/-- Whenever `process_drops` runs, the engineer connections it closes for a record are the ones
that a request flagged the record for. -/
def DropsAimed (history : List Action) : Prop :=
  ∀ before, .processDrops true :: before <:+ history → ∀ index conn,
    Closes (after before) index conn →
      ∃ request call, (after before).requests request = some call ∧ call.index = index ∧
        call.conn = conn

/-- In every run in which no engineer takes the slot of a flagged record and no record is
flagged whose slot has been taken, `process_drops` closes only connections that were asked
for; and the slots that it closes, where the session goes on, are those that `Closes` says. -/
theorem run_aimed {history : List Action} (run : Run history)
    (settled : History.Guarded Action.apply Table.initial Settled history) :
    DropsAimed history ∧
      ∀ before, .processDrops true :: before <:+ history → (after before).flagged 0 = false →
        ∀ index conn, (after before).slots index = some conn →
          (((Action.processDrops true).apply (after before)).slots index = none ↔
            Closes (after before) index conn) := by
  refine ⟨?_, fun before _ session index conn slot => closes_iff session slot⟩
  intro before suffix index conn closes
  have earlier : History.Guarded Action.apply Table.initial
      (fun table action => action.Possible table ∧ Settled table action) before :=
    (History.guarded_and.mpr ⟨run, settled⟩).of_suffix ((List.suffix_cons _ before).trans suffix)
  have directed : Directed (after before) := by
    have aimed : Aimed Table.initial := fun index record conn engineer stored => by cases stored
    have requested : Requested Table.initial := fun index record stored => by cases stored
    refine History.Guarded.invariant earlier ⟨aimed, requested⟩
      fun table action holds allowed => ?_
    exact ⟨holds.aimed.apply allowed.1 allowed.2, holds.requested.apply allowed.1⟩
  obtain ⟨engineer, _, flagged, slot⟩ := closes
  obtain ⟨record, stored, flag⟩ := flagged_iff.mp flagged
  have same := directed.aimed index record conn engineer stored flag slot
  rw [same]
  exact directed.requested index record stored flag

/-- The flagged engineer is still there when the signal comes. -/
theorem run_aimed_served :
    DropsAimed served ∧ ((Action.processDrops true).apply (after served.tail)).slots 1 = none := by
  have unflagged : (after []).flagged 1 = false := rfl
  have described : Settled (after (.commit 0 :: listed)) (.flag 0 1) := by
    intro record conn _ stored slot
    have recorded : (after (.commit 0 :: listed)).records 1 = some ⟨⟨0, 1, 1⟩, false⟩ := by
      decide +kernel
    have taken : (after (.commit 0 :: listed)).slots 1 = some ⟨0, 1, 1⟩ := by decide +kernel
    rw [recorded] at stored
    rw [taken] at slot
    rw [← Option.some.inj stored, ← Option.some.inj slot]
  obtain ⟨aimed, closed⟩ := @run_aimed served (by decide +kernel) ⟨trivial, trivial, described,
    trivial, trivial, fun _ => unflagged, trivial⟩
  refine ⟨aimed, (closed _ (List.suffix_refl _) (by decide +kernel) 1 ⟨0, 1, 1⟩
    (by decide +kernel)).mpr ?_⟩
  exact ⟨Nat.le_refl 1, by simp [maxComm2Links], by decide +kernel, by decide +kernel⟩

/-- The flagged engineer leaves and another one takes its slot before the signal. -/
def retaken : List Action :=
  .processDrops true :: .signal 0 :: .connect 1 ⟨2, 2⟩ :: .disconnect 1 :: .flag 0 1 ::
    .commit 0 :: listed

/-- Another engineer is closed for the record of the one that left. -/
theorem run_aimed_retaken : Run retaken ∧ ¬ DropsAimed retaken := by
  refine ⟨by decide +kernel, fun aimed => ?_⟩
  have closes : Closes (after retaken.tail) 1 ⟨1, 2, 2⟩ :=
    ⟨Nat.le_refl 1, by simp [maxComm2Links], by decide +kernel, by decide +kernel⟩
  obtain ⟨request, call, stored, _, conn⟩ := aimed retaken.tail (List.suffix_refl _) 1 _ closes
  -- the only request is for the engineer that left
  have only : (after retaken.tail).requests =
      Function.update (Function.update (fun _ => none) 0 (some ⟨1, ⟨0, 1, 1⟩, .flagged⟩)) 0
        (some ⟨1, ⟨0, 1, 1⟩, .signalled⟩) := rfl
  rw [only, Function.update_idem] at stored
  by_cases first : request = 0
  · rw [first, Function.update_self] at stored
    rw [← Option.some.inj stored] at conn
    cases conn
  · rw [Function.update_of_ne first] at stored
    cases stored

end SupportProxy.Connections
