import SupportProxy.Library.History
import SupportProxy.Event

/-! # connections.tdb

The records of one port pair in connections.tdb and all that write them: the child of
the pair, the writers it forks for its heartbeat snapshots, the drop requests of the
web admin, and the parent. Every transaction is one step, and the steps interleave
freely. Index 0 is the user, index `i + 1` the engineer slot `i`.

A record is kept down to the connection it describes and `DROP_REQUESTED`. -/

namespace SupportProxy.Connections

/-! ## Indices that are written and cleared -/

section Updates

variable {α : Type} {table : Nat → Option α} {index other : Nat} {value found : α}

/-- An entry of an updated table is the new one or an old one. -/
theorem of_update_some (here : Function.update table index (some value) other = some found) :
    other = index ∧ value = found ∨ other ≠ index ∧ table other = some found := by
  by_cases same : other = index
  · rw [same, Function.update_self] at here
    exact .inl ⟨same, Option.some.inj here⟩
  · rw [Function.update_of_ne same] at here
    exact .inr ⟨same, here⟩

/-- An entry of a table that something was deleted from is an old one. -/
theorem of_update_none (here : Function.update table index none other = some found) :
    other ≠ index ∧ table other = some found := by
  by_cases same : other = index
  · rw [same, Function.update_self] at here
    cases here
  · rw [Function.update_of_ne same] at here
    exact ⟨same, here⟩

end Updates

/-! ## The parties -/

/-- A connection, with its number among all connections of the child. -/
structure Connection where
  serial : Nat
  peer : Peer
deriving DecidableEq

structure ConnRecord where
  conn : Connection
  /-- `CONN_FLAG_DROP_REQUESTED` -/
  dropRequested : Bool
deriving DecidableEq

/-- What a writer was forked with, and the indices whose records `process_drops` or the parent
has deleted since. -/
structure Snapshot where
  listing : Nat → Option Connection
  dropped : Nat → Bool

/-- How far a call of `request_drop` has come. -/
inductive Stage
  /-- `_flip_drop_flag` has committed -/
  | flagged
  /-- SIGUSR1 has been sent and True returned -/
  | signalled
  /-- False returned: another process has the pid, or `kill` failed -/
  | refused
  /-- `process_drops` has run since the signal -/
  | processed
deriving DecidableEq

/-- A call of `request_drop`, with the connection that the record described when it was
flagged. -/
structure DropRequest where
  index : Nat
  conn : Connection
  stage : Stage
deriving DecidableEq

/-- `process_drops` runs. -/
def DropRequest.process (request : DropRequest) : DropRequest :=
  if request.stage = .signalled then { request with stage := .processed } else request

structure Table where
  slots : Nat → Option Connection
  /-- the connections made so far -/
  made : Nat
  alive : Bool
  reaped : Bool
  /-- `g_drops_pending` -/
  dropsPending : Bool
  /-- the records by index -/
  records : Nat → Option ConnRecord
  /-- the writers that have not finished, in the order of their snapshots -/
  writers : Nat → Option Snapshot
  /-- the snapshots taken so far, and the last of them -/
  taken : Nat
  latest : Snapshot
  /-- the snapshots up to the newest that has been committed -/
  committed : Nat
  requests : Nat → Option DropRequest

/-- A new child, with no records of the pair left. -/
def Table.initial : Table where
  slots _ := none
  made := 0
  alive := true
  reaped := false
  dropsPending := false
  records _ := none
  writers _ := none
  taken := 0
  latest := ⟨fun _ => none, fun _ => false⟩
  committed := 0
  requests _ := none

inductive Action
  /-- a new user or engineer -/
  | connect (index : Nat) (peer : Peer)
  /-- an engineer's slot is closed -/
  | disconnect (index : Nat)
  /-- the child exits, as when its user goes -/
  | exit
  /-- a writer is forked; `bound` is `max_conn2_count` -/
  | snapshot (bound : Nat)
  /-- a writer's transaction -/
  | commit (writer : Nat)
  /-- a writer cannot open the database -/
  | openFails (writer : Nat)
  /-- `_flip_drop_flag` for a record that is there -/
  | flag (request index : Nat)
  /-- `os.kill(pid, signal.SIGUSR1)` -/
  | signal (request : Nat)
  /-- `request_drop` returns False after the flag -/
  | refuse (request : Nat)
  | processDrops (opens : Bool)
  /-- `conn_remove_port2` for an entry that is gone from keys.tdb -/
  | remove (opens : Bool)
  /-- `conn_remove_port2` for a child that has exited -/
  | reap (opens : Bool)
deriving DecidableEq

namespace Table

/-- The record of an index carries the flag. -/
def flagged (table : Table) (index : Nat) : Bool :=
  ((table.records index).map ConnRecord.dropRequested).getD false

/-- The records are deleted, as far as `gone` says. -/
def delete (gone : Nat → Bool) (table : Table) : Table :=
  let forget (snapshot : Snapshot) : Snapshot :=
    { snapshot with dropped := fun index => snapshot.dropped index || gone index }
  { table with
    records := fun index => if gone index then none else table.records index
    writers := fun writer => (table.writers writer).map forget
    latest := forget table.latest }

/-- `conn_remove_port2` -/
def removePort2 (opens : Bool) (table : Table) : Table :=
  if opens then table.delete fun _ => true else table

/-- The slots that are closed for the flagged records; index 0 ends the session. -/
def closeFlagged (flags : Nat → Bool) (table : Table) : Table :=
  { table with
    slots := fun index =>
      if flags 0 || (flags index && decide (1 ≤ index) && decide (index ≤ maxComm2Links)) then none
      else table.slots index
    alive := table.alive && !flags 0 }

/-- `process_drops` -/
def processDrops (opens : Bool) (table : Table) : Table :=
  let table := { table with
    dropsPending := false
    requests := fun request => (table.requests request).map DropRequest.process }
  if opens then (table.delete table.flagged).closeFlagged table.flagged else table

def setStage (request : Nat) (stage : Stage) (table : Table) : Table :=
  { table with
    requests := Function.update table.requests request
      ((table.requests request).map fun call => { call with stage := stage }) }

end Table

/-- The records that a snapshot writes. -/
def Snapshot.write (snapshot : Snapshot) (index : Nat) : Option ConnRecord :=
  (snapshot.listing index).map fun conn => ⟨conn, false⟩

namespace Action

def apply : Action → Table → Table
  | .connect index peer, table =>
      { table with
        slots := Function.update table.slots index (some ⟨table.made, peer⟩)
        made := table.made + 1 }
  | .disconnect index, table => { table with slots := Function.update table.slots index none }
  | .exit, table => { table with slots := fun _ => none, alive := false }
  | .snapshot bound, table =>
      let forked : Snapshot :=
        ⟨fun index => if index ≤ bound then table.slots index else none, fun _ => false⟩
      { table with
        writers := Function.update table.writers table.taken (some forked)
        taken := table.taken + 1
        latest := forked }
  | .commit writer, table =>
      match table.writers writer with
      | none => table
      | some forked =>
          { table with
            records := forked.write
            writers := Function.update table.writers writer none
            committed := max table.committed (writer + 1) }
  | .openFails writer, table =>
      { table with writers := Function.update table.writers writer none }
  | .flag request index, table =>
      match table.records index with
      | none => table
      | some record =>
          { table with
            records := Function.update table.records index
              (some { record with dropRequested := true })
            requests := Function.update table.requests request
              (some ⟨index, record.conn, .flagged⟩) }
  | .signal request, table => { table.setStage request .signalled with dropsPending := true }
  | .refuse request, table => table.setStage request .refused
  | .processDrops opens, table => table.processDrops opens
  | .remove opens, table => table.removePort2 opens
  | .reap opens, table => { table.removePort2 opens with reaped := true }

/-- The commit of a running writer. -/
theorem apply_commit {table : Table} {writer : Nat} {forked : Snapshot}
    (running : table.writers writer = some forked) :
    (commit writer).apply table =
      { table with
        records := forked.write
        writers := Function.update table.writers writer none
        committed := max table.committed (writer + 1) } := by
  rw [apply, running]

/-- The flagging of a record that is there. -/
theorem apply_flag {table : Table} {request index : Nat} {record : ConnRecord}
    (found : table.records index = some record) :
    (flag request index).apply table =
      { table with
        records := Function.update table.records index (some { record with dropRequested := true })
        requests := Function.update table.requests request
          (some ⟨index, record.conn, .flagged⟩) } := by
  rw [apply, found]

/-- A step that can happen. -/
def Possible (table : Table) : Action → Prop
  | .connect index _ =>
      table.alive = true ∧ table.slots index = none ∧ index ≤ maxComm2Links
  | .disconnect index => table.alive = true ∧ 1 ≤ index
  | .exit => table.alive = true
  | .snapshot _ => table.alive = true
  | .commit writer => (table.writers writer).isSome = true
  | .openFails writer => (table.writers writer).isSome = true
  | .flag request index => table.requests request = none ∧ (table.records index).isSome = true
  -- a child that has exited can be signalled until it is reaped
  | .signal request =>
      table.reaped = false ∧ (table.requests request).map DropRequest.stage = some .flagged
  | .refuse request => (table.requests request).map DropRequest.stage = some .flagged
  | .processDrops _ => table.alive = true ∧ table.dropsPending = true
  | .remove _ => True
  | .reap _ => table.alive = false ∧ table.reaped = false

instance (table : Table) : (action : Action) → Decidable (action.Possible table)
  | .connect _ _ => inferInstanceAs (Decidable (_ ∧ _ ∧ _))
  | .disconnect _ | .flag _ _ | .signal _ | .processDrops _ | .reap _ =>
      inferInstanceAs (Decidable (_ ∧ _))
  | .exit | .snapshot _ | .commit _ | .openFails _ | .refuse _ =>
      inferInstanceAs (Decidable (_ = _))
  | .remove _ => isTrue trivial

end Action

/-- The states of a run: the newest step first. -/
abbrev after (history : List Action) : Table := History.replay Action.apply .initial history

/-- A run of all processes together. -/
abbrev Run : List Action → Prop :=
  History.Guarded Action.apply Table.initial Action.Possible

instance (history : List Action) : Decidable (Run history) := History.Obeys.decidable history

end SupportProxy.Connections
