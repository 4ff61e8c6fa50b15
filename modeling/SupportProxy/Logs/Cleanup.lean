import SupportProxy.Binlog.Writer
import SupportProxy.Library.History

/-! # The cleanup worker

`log_cleanup_once` for one port pair, step by step between the writes of a live child:
`retention_pass` removes files by their age, `enforce_port2_quota` the oldest ones until the
rest fits. Both go by what `stat` says of a file, and `run_cleanup` says when that keeps the
files a child has open. -/

namespace SupportProxy

/-- `.tlog` and `.bin` -/
inductive Extension
  | tlog | bin
deriving DecidableEq

abbrev LogPath := SessionPath × Extension

/-- `st_size` and `st_mtime` -/
structure Stat where
  size : Nat
  mtime : Nat
deriving DecidableEq

/-- An `Item` of `enforce_port2_quota`. -/
structure Item where
  path : LogPath
  stat : Stat

def Item.size (item : Item) : Nat := item.stat.size

/-- Where the worker is. `started` is `PassCtx.now`, the cutoff is `retention_days * 86400`
in whole seconds, none for a retention that keeps every file. -/
inductive Pass
  | idle
  | retention (started : Nat) (cutoff : Option Nat) (examined : Option Item)
  | scan (items : List Item)
  | delete (queue failed : List Item) (total : Nat)

/-- The session files of a port pair, those that a live child has open, and the worker. -/
structure Cleanup where
  disk : LogPath → Option Stat
  isOpen : LogPath → Bool
  now : Nat
  pass : Pass
  /-- files that were unlinked while a child had them open -/
  lost : List LogPath

inductive CleanupEvent
  | wait (seconds : Nat)
  /-- a child opens a new file -/
  | create (path : LogPath)
  /-- a child writes to a file it has open, which then has a size -/
  | write (path : LogPath) (size : Nat)
  /-- a child closes a file -/
  | finish (path : LogPath)
  | begin (started : Nat) (cutoff : Option Nat)
  /-- `stat` in `retention_pass` -/
  | examine (path : LogPath)
  /-- the rest of the loop body of `retention_pass` -/
  | age (unlinks : Bool)
  | beginScan
  /-- `stat` in `enforce_port2_quota` -/
  | scanFile (path : LogPath)
  /-- the test of the total and the sort -/
  | sort (order : List Item)
  /-- the loop body of `enforce_port2_quota` -/
  | next (unlinks : Bool)

/-- `double(now - fst.st_mtime) > cutoff_age_s` -/
def expired (started : Nat) (cutoff : Option Nat) (stat : Stat) : Bool :=
  match cutoff with
  | none => false
  | some seconds => decide (stat.mtime + seconds < started)

namespace Cleanup

/-- A successful `unlink`. -/
def unlink (path : LogPath) (cleanup : Cleanup) : Cleanup :=
  { cleanup with
    disk := Function.update cleanup.disk path none
    lost := if cleanup.isOpen path then path :: cleanup.lost else cleanup.lost }

def withPass (cleanup : Cleanup) (pass : Pass) : Cleanup := { cleanup with pass := pass }

def totalSize (items : List Item) : Nat := (items.map Item.size).sum

/-- The next file in `enforce_port2_quota`. -/
def deleteNext (unlinks : Bool) (queue failed : List Item) (total : Nat) (cleanup : Cleanup) :
    Cleanup :=
  match queue with
  | [] => cleanup.withPass .idle
  | item :: rest =>
      if total ≤ maxPerPort2Bytes then cleanup.withPass .idle
      else if unlinks then
        (cleanup.unlink item.path).withPass (.delete rest failed (total - item.size))
      else cleanup.withPass (.delete rest (item :: failed) total)

def step (event : CleanupEvent) (cleanup : Cleanup) : Cleanup :=
  match event, cleanup.pass with
  | .wait seconds, _ => { cleanup with now := cleanup.now + seconds }
  | .create path, _ =>
      { cleanup with
        disk := Function.update cleanup.disk path (some ⟨0, cleanup.now⟩)
        isOpen := Function.update cleanup.isOpen path true }
  | .write path size, _ =>
      -- an unlinked file takes the bytes, but no path leads to it
      if cleanup.isOpen path && (cleanup.disk path).isSome then
        { cleanup with disk := Function.update cleanup.disk path (some ⟨size, cleanup.now⟩) }
      else cleanup
  | .finish path, _ => { cleanup with isOpen := Function.update cleanup.isOpen path false }
  | .begin started cutoff, .idle => cleanup.withPass (.retention started cutoff none)
  | .examine path, .retention started cutoff _ =>
      cleanup.withPass (.retention started cutoff
        ((cleanup.disk path).map fun stat => ⟨path, stat⟩))
  | .age unlinks, .retention started cutoff (some item) =>
      (if expired started cutoff item.stat && unlinks then cleanup.unlink item.path
        else cleanup).withPass (.retention started cutoff none)
  | .beginScan, .retention _ _ _ => cleanup.withPass (.scan [])
  | .scanFile path, .scan items =>
      match cleanup.disk path with
      | none => cleanup
      | some stat => cleanup.withPass (.scan (⟨path, stat⟩ :: items))
  | .sort order, .scan items =>
      if totalSize items ≤ maxPerPort2Bytes then cleanup.withPass .idle
      else cleanup.withPass (.delete order [] (totalSize items))
  | .next unlinks, .delete queue failed total => cleanup.deleteNext unlinks queue failed total
  | _, _ => cleanup

def initial : Cleanup := ⟨fun _ => none, fun _ => false, 0, .idle, []⟩

/-- The worker sorts what it scanned, oldest first. -/
def Possible (cleanup : Cleanup) : CleanupEvent → Prop
  | .sort order => ∀ items, cleanup.pass = .scan items →
      order.Perm items ∧ order.Pairwise fun first second => first.stat.mtime ≤ second.stat.mtime
  | _ => True

/-- An open file is young enough for the retention, and with the files behind it in the order
of their age and the older ones that could not be removed it fits in the quota; or else it
cannot be removed either. -/
def Spares (cleanup : Cleanup) : CleanupEvent → Prop
  | .age unlinks => ∀ started cutoff item, cleanup.pass = .retention started cutoff (some item) →
      cleanup.isOpen item.path = true → unlinks = true → expired started cutoff item.stat = false
  | .next unlinks => ∀ item rest failed total, cleanup.pass = .delete (item :: rest) failed total →
      cleanup.isOpen item.path = true → unlinks = true →
        totalSize (item :: rest) + totalSize failed ≤ maxPerPort2Bytes
  | _ => True

abbrev after (history : List CleanupEvent) : Cleanup := History.replay step initial history

abbrev Run : List CleanupEvent → Prop := History.Guarded step initial Possible

/-- The running total is the size of what has not been removed. -/
def Counted (cleanup : Cleanup) : Prop :=
  ∀ queue failed total, cleanup.pass = .delete queue failed total →
    total = totalSize queue + totalSize failed

/-- The order makes no difference to the total. -/
theorem totalSize_perm {items order : List Item} (perm : order.Perm items) :
    totalSize order = totalSize items := (perm.map Item.size).sum_eq

@[simp] theorem totalSize_cons (item : Item) (rest : List Item) :
    totalSize (item :: rest) = item.size + totalSize rest := List.sum_cons

private theorem deleteNext_pass (unlinks : Bool) (queue failed : List Item) (total : Nat)
    (cleanup : Cleanup) :
    (cleanup.deleteNext unlinks queue failed total).pass = .idle ∨
      ∃ item rest, queue = item :: rest ∧ (cleanup.deleteNext unlinks queue failed total).pass =
        if unlinks then .delete rest failed (total - item.size)
        else .delete rest (item :: failed) total := by
  rw [deleteNext.eq_def]
  cases queue with
  | nil => exact .inl rfl
  | cons item rest =>
      dsimp only
      by_cases fits : total ≤ maxPerPort2Bytes
      · rw [if_pos fits]
        exact .inl rfl
      · rw [if_neg fits]
        refine .inr ⟨item, rest, rfl, ?_⟩
        cases unlinks <;> rfl

/-- Only `sort` and `next` leave a queue that was not there before. -/
theorem step_delete {event : CleanupEvent} {cleanup : Cleanup} {queue failed : List Item}
    {total : Nat} (deleting : (cleanup.step event).pass = .delete queue failed total) :
    cleanup.pass = .delete queue failed total ∨
      (∃ items, event = .sort queue ∧ cleanup.pass = .scan items ∧ failed = [] ∧
        total = totalSize items) ∨
      ∃ unlinks item before sum, event = .next unlinks ∧
        cleanup.pass = .delete (item :: queue) before sum ∧
        failed = (if unlinks then before else item :: before) ∧
        total = (if unlinks then sum - item.size else sum) := by
  rw [step.eq_def] at deleting
  split at deleting
  · exact .inl deleting
  · exact .inl deleting
  · split at deleting <;> exact .inl deleting
  · exact .inl deleting
  · cases deleting
  · cases deleting
  · cases deleting
  · cases deleting
  · split at deleting
    · exact .inl deleting
    · cases deleting
  · rename_i order items scanning
    split at deleting
    · cases deleting
    · injection deleting with order_eq failed_eq total_eq
      subst order_eq failed_eq total_eq
      exact .inr (.inl ⟨items, rfl, scanning, rfl, rfl⟩)
  · rename_i unlinks old before sum deletes
    rcases deleteNext_pass unlinks old before sum cleanup with
      idle | ⟨item, rest, rfl, pass_eq⟩
    · rw [idle] at deleting
      cases deleting
    · rw [pass_eq] at deleting
      refine .inr (.inr ⟨unlinks, item, before, sum, rfl, ?_⟩)
      cases unlinks <;>
      · injection deleting with rest_eq failed_eq total_eq
        subst rest_eq failed_eq total_eq
        exact ⟨deletes, rfl, rfl⟩
  · exact .inl deleting

private theorem Counted.step {cleanup : Cleanup} (counted : Counted cleanup) {event : CleanupEvent}
    (possible : Possible cleanup event) : Counted (cleanup.step event) := by
  intro queue failed total deleting
  rcases step_delete deleting with
    same | ⟨items, rfl, scanning, rfl, rfl⟩ | ⟨unlinks, item, before, sum, rfl, deletes, rfl, rfl⟩
  · exact counted queue failed total same
  · exact (totalSize_perm (possible items scanning).1).symm
  · have sum_eq := counted _ _ _ deletes
    rw [totalSize_cons] at sum_eq
    cases unlinks with
    | true =>
        rw [if_pos rfl, if_pos rfl]
        omega
    | false =>
        rw [if_neg Bool.false_ne_true, if_neg Bool.false_ne_true, totalSize_cons]
        omega

private theorem lost_unlink (path : LogPath) (cleanup : Cleanup) :
    (cleanup.unlink path).lost = cleanup.lost ↔ cleanup.isOpen path = false := by
  unfold unlink
  cases cleanup.isOpen path <;> simp

/-- The loop body of `retention_pass` leaves the open files alone just when it spares them. -/
theorem lost_age (unlinks : Bool) (started : Nat) (cutoff : Option Nat) (item : Item)
    {cleanup : Cleanup} (pass_eq : cleanup.pass = .retention started cutoff (some item)) :
    (cleanup.step (.age unlinks)).lost = cleanup.lost ↔ Spares cleanup (.age unlinks) := by
  have spares : Spares cleanup (.age unlinks) ↔ (cleanup.isOpen item.path = true →
      unlinks = true → expired started cutoff item.stat = false) := by
    simp only [Spares, pass_eq, Pass.retention.injEq, Option.some.injEq]
    constructor
    · intro every
      exact every started cutoff item ⟨rfl, rfl, rfl⟩
    · rintro one _ _ _ ⟨rfl, rfl, rfl⟩
      exact one
  rw [spares, step.eq_def, pass_eq]
  dsimp only [withPass]
  by_cases removes : (expired started cutoff item.stat && unlinks) = true
  · rw [if_pos removes, lost_unlink]
    rw [Bool.and_eq_true] at removes
    simp only [removes.1, removes.2, Bool.true_eq_false, forall_const, imp_false,
      Bool.not_eq_true]
  · rw [if_neg removes]
    simp only [Bool.and_eq_true, not_and, Bool.not_eq_true] at removes
    refine iff_of_true rfl fun _ unlinked => ?_
    by_contra old
    exact absurd (removes (Bool.not_eq_false _ ▸ old)) (by simp [unlinked])

/-- The loop body of `enforce_port2_quota`, whose total is the size of all that is left. -/
theorem lost_next (unlinks : Bool) (item : Item) (rest failed : List Item) (total : Nat)
    {cleanup : Cleanup} (counted : Counted cleanup)
    (pass_eq : cleanup.pass = .delete (item :: rest) failed total) :
    (cleanup.step (.next unlinks)).lost = cleanup.lost ↔ Spares cleanup (.next unlinks) := by
  have spares : Spares cleanup (.next unlinks) ↔ (cleanup.isOpen item.path = true →
      unlinks = true → total ≤ maxPerPort2Bytes) := by
    rw [counted _ _ _ pass_eq]
    simp only [Spares, pass_eq, Pass.delete.injEq, List.cons.injEq]
    constructor
    · intro every
      exact every item rest failed _ ⟨⟨rfl, rfl⟩, rfl, rfl⟩
    · rintro one _ _ _ _ ⟨⟨rfl, rfl⟩, rfl, rfl⟩
      exact one
  rw [spares, step.eq_def, pass_eq]
  dsimp only [deleteNext]
  by_cases fits : total ≤ maxPerPort2Bytes
  · rw [if_pos fits]
    exact iff_of_true rfl fun _ _ => fits
  · rw [if_neg fits]
    cases unlinks with
    | true =>
        rw [if_pos rfl]
        dsimp only [withPass]
        rw [lost_unlink]
        simp only [fits, forall_const, imp_false, Bool.not_eq_true]
    | false => exact iff_of_true rfl (by simp)

/-- Only the two loop bodies unlink. -/
theorem lost_other {event : CleanupEvent} {cleanup : Cleanup}
    (ages : ∀ unlinks started cutoff item, event = .age unlinks →
      cleanup.pass ≠ .retention started cutoff (some item))
    (nexts : ∀ unlinks item rest failed total, event = .next unlinks →
      cleanup.pass ≠ .delete (item :: rest) failed total) :
    (cleanup.step event).lost = cleanup.lost := by
  rw [step.eq_def]
  split
  · rfl
  · rfl
  · split <;> rfl
  · rfl
  · rfl
  · rfl
  · exact absurd ‹_› (ages _ _ _ _ rfl)
  · rfl
  · split <;> rfl
  · split <;> rfl
  · rename_i unlinks queue failed total pass_eq
    cases queue with
    | nil => rfl
    | cons item rest => exact absurd pass_eq (nexts _ _ _ _ _ rfl)
  · rfl

/-- What a step does to the files a child has open. -/
theorem lost_step {cleanup : Cleanup} (counted : Counted cleanup) (event : CleanupEvent) :
    (cleanup.step event).lost = cleanup.lost ↔ Spares cleanup event := by
  by_cases ages : ∃ unlinks started cutoff item, event = .age unlinks ∧
      cleanup.pass = .retention started cutoff (some item)
  · obtain ⟨unlinks, started, cutoff, item, rfl, pass_eq⟩ := ages
    exact lost_age unlinks started cutoff item pass_eq
  · by_cases nexts : ∃ unlinks item rest failed total, event = .next unlinks ∧
        cleanup.pass = .delete (item :: rest) failed total
    · obtain ⟨unlinks, item, rest, failed, total, rfl, pass_eq⟩ := nexts
      exact lost_next unlinks item rest failed total counted pass_eq
    · refine iff_of_true (lost_other ?_ ?_) ?_
      · rintro unlinks started cutoff item rfl pass_eq
        exact ages ⟨unlinks, started, cutoff, item, rfl, pass_eq⟩
      · rintro unlinks item rest failed total rfl pass_eq
        exact nexts ⟨unlinks, item, rest, failed, total, rfl, pass_eq⟩
      · cases event with
        | age unlinks =>
            intro started cutoff item pass_eq
            exact absurd ⟨unlinks, started, cutoff, item, rfl, pass_eq⟩ ages
        | next unlinks =>
            intro item rest failed total pass_eq
            exact absurd ⟨unlinks, item, rest, failed, total, rfl, pass_eq⟩ nexts
        | _ => trivial

private theorem Run.counted {history : List CleanupEvent} (run : Run history) :
    Counted (after history) := by
  have start : Counted (after []) := fun queue failed total pass => by cases pass
  exact History.Guarded.invariant run start fun _ _ counted possible => counted.step possible

/-- No file that a child has open is ever unlinked just when every loop body spares them. -/
theorem run_cleanup {history : List CleanupEvent} (run : Run history) :
    (∀ earlier, earlier <:+ history → (after earlier).lost = []) ↔
      History.Guarded step initial Spares history := by
  induction history with
  | nil =>
      refine iff_of_true ?_ trivial
      intro earlier suffix
      rw [List.suffix_nil.mp suffix]
      rfl
  | cons event before ih =>
      have kept := lost_step (Run.counted run.2) event
      rw [History.guarded_cons, ← ih run.2, ← kept]
      constructor
      · intro none_lost
        have earlier : ∀ earlier, earlier <:+ before → (after earlier).lost = [] :=
          fun earlier suffix => none_lost earlier (suffix.trans (List.suffix_cons event before))
        refine ⟨?_, earlier⟩
        exact (none_lost _ (List.suffix_refl _)).trans (earlier _ (List.suffix_refl _)).symm
      · rintro ⟨same, none_lost⟩ earlier suffix
        rcases List.suffix_cons_iff.mp suffix with rfl | shorter
        · exact same.trans (none_lost _ (List.suffix_refl _))
        · exact none_lost earlier shorter

/-- The tlog of the `n`th session of a day. -/
def sampleTlog (n : Nat) : LogPath := (⟨10006, 20000, n⟩, .tlog)

/-- With a retention of a day, the tlog of a session that ended two days ago is removed and that
of the running session, last written an hour ago, is not. -/
def dayRetention : List CleanupEvent :=
  [.sort [⟨sampleTlog 2, ⟨0, 172800⟩⟩], .scanFile (sampleTlog 2), .beginScan, .age true,
    .examine (sampleTlog 2), .age true, .examine (sampleTlog 1), .begin 176400 (some 86400),
    .wait 3600, .create (sampleTlog 2), .wait 172800, .finish (sampleTlog 1),
    .write (sampleTlog 1) 4000, .create (sampleTlog 1)]

/-- With a retention of a day, the finished tlog goes and the open one stays. -/
theorem run_cleanup_dayRetention :
    (after dayRetention).disk (sampleTlog 1) = none ∧
      (after dayRetention).disk (sampleTlog 2) = some ⟨0, 172800⟩ ∧
      ∀ earlier, earlier <:+ dayRetention → (after earlier).lost = [] := by
  have run : Run dayRetention := by
    refine ⟨?_, trivial, trivial, trivial, trivial, trivial, trivial, trivial, trivial, trivial,
      trivial, trivial, trivial, trivial, trivial⟩
    intro items scanning
    have scanned : Pass.scan [⟨sampleTlog 2, ⟨0, 172800⟩⟩] = .scan items := scanning
    rw [← (Pass.scan.inj scanned)]
    exact ⟨.refl _, List.pairwise_singleton _ _⟩
  refine ⟨by decide +kernel, by decide +kernel, (run_cleanup run).mpr ?_⟩
  refine ⟨trivial, trivial, trivial, ?_, trivial, ?_, trivial, trivial, trivial, trivial,
    trivial, trivial, trivial, trivial, trivial⟩
  · intro started cutoff item pass_eq _ _
    have examined : Pass.retention 176400 (some 86400) (some ⟨sampleTlog 2, ⟨0, 172800⟩⟩) =
      .retention started cutoff (some item) := pass_eq
    injection examined with started_eq cutoff_eq item_eq
    subst started_eq cutoff_eq
    rw [← Option.some.inj item_eq]
    decide
  · intro started cutoff item pass_eq opened
    have examined : Pass.retention 176400 (some 86400) (some ⟨sampleTlog 1, ⟨4000, 0⟩⟩) =
      .retention started cutoff (some item) := pass_eq
    injection examined with started_eq cutoff_eq item_eq
    rw [← Option.some.inj item_eq] at opened
    exact absurd opened (by decide +kernel)

/-- A retention of half a day removes the tlog of a vehicle that was silent for half a day, and
the quota a tlog that outgrows it alone. -/
theorem silentVehicle_unlinked :
    (¬ ∀ history, Run history → (after history).lost = []) ∧
      (after [.age true, .examine (sampleTlog 1), .begin 43201 (some 43200), .wait 43201,
        .create (sampleTlog 1)]).lost = [sampleTlog 1] ∧
      (after [.next true, .sort [⟨sampleTlog 1, ⟨maxPerPort2Bytes + 1, 0⟩⟩],
        .scanFile (sampleTlog 1), .beginScan, .begin 0 none,
        .write (sampleTlog 1) (maxPerPort2Bytes + 1), .create (sampleTlog 1)]).lost =
          [sampleTlog 1] := by
  refine ⟨fun every => ?_, by decide +kernel, by decide +kernel⟩
  have spared := every [.age true, .examine (sampleTlog 1), .begin 43201 (some 43200),
    .wait 43201, .create (sampleTlog 1)] ⟨trivial, trivial, trivial, trivial, trivial, trivial⟩
  exact absurd spared (by decide +kernel)

end Cleanup

end SupportProxy
