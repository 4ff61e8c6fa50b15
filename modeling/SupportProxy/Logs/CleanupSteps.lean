import SupportProxy.Logs.Cleanup
import SupportProxy.Logs.CleanupTree
import Mathlib.Data.Rat.Floor

/-! # The steps of an undisturbed cleanup

`Cleanup` takes `cleanup_for_port2` apart into the steps between which a child may write, and
`cleanupForPort2` is what it comes to when nobody else is at work on the files. The steps of one
such cleanup leave just the files that `cleanupForPort2` leaves. -/

namespace SupportProxy.LogTree

/-- The cutoff in whole seconds, which decides as `retention_days * 86400.0` does. -/
def cutoffOf (retention : Binary32.Number) : Option Nat :=
  if keepsForever retention then none
  else retention.value.map fun days => ⌊days * 86400⌋.toNat

def statOf (item : Item) : Stat := ⟨item.size, item.mtime.toNat⟩

section Steps

variable (locate : Name × Name → LogPath)

/-- The item as the steps see it. -/
def located (item : Item) : SupportProxy.Item := ⟨locate item.path, statOf item⟩

/-- The disk of the steps holds these files and no others. -/
def Shows (disk : LogPath → Option Stat) (items : List Item) : Prop :=
  ∀ path stat, disk path = some stat ↔ ∃ item ∈ items, located locate item = ⟨path, stat⟩

end Steps

/-- The loop of `retention_pass`, the newest step first. -/
def agingEvents (paths : List LogPath) : List CleanupEvent :=
  paths.reverse.flatMap fun path => [.age true, .examine path]

/-- `retention_pass` and the walk of `enforce_port2_quota`, with every `unlink` succeeding. -/
def surveyEvents (started : Nat) (cutoff : Option Nat) (aged scanned : List LogPath) :
    List CleanupEvent :=
  (scanned.map .scanFile).reverse ++ .beginScan :: (agingEvents aged ++ [.begin started cutoff])

/-- The rest of `enforce_port2_quota`. -/
def deletionEvents (order : List SupportProxy.Item) : List CleanupEvent :=
  List.replicate (order.length + 1) (.next true) ++ [.sort order]

/-! ## What the steps do to the disk -/

section Disk

variable {start : Cleanup}

/-- The loop body of `retention_pass`. -/
theorem examine_age {started : Nat} {cutoff : Option Nat} {examined : Option SupportProxy.Item}
    (pass : start.pass = .retention started cutoff examined) (path : LogPath) :
    ((start.step (.examine path)).step (.age true)).pass = .retention started cutoff none ∧
      ((start.step (.examine path)).step (.age true)).disk =
        Function.update start.disk path
          ((start.disk path).filter fun stat => !expired started cutoff stat) := by
  have looked : start.step (.examine path) = start.withPass (.retention started cutoff
      ((start.disk path).map fun stat => ⟨path, stat⟩)) := by
    rw [Cleanup.step.eq_def, pass]
  rw [looked]
  cases found : start.disk path with
  | none =>
      have same : Function.update start.disk path none = start.disk := by
        rw [← found, Function.update_eq_self]
      rw [Option.filter_none, same]
      exact ⟨rfl, rfl⟩
  | some stat =>
      rw [Cleanup.step.eq_def, Option.map_some]
      dsimp only [Cleanup.withPass]
      refine ⟨rfl, ?_⟩
      rw [Bool.and_true]
      cases old : expired started cutoff stat with
      | true =>
          rw [if_pos rfl, Option.filter_some, old]
          rfl
      | false =>
          rw [if_neg Bool.false_ne_true, Option.filter_some, old, Bool.not_false, if_pos rfl,
            ← found, Function.update_eq_self]

private theorem agingEvents_cons (first : LogPath) (rest : List LogPath) :
    agingEvents (first :: rest) = agingEvents rest ++ [.age true, .examine first] := by
  rw [agingEvents, List.reverse_cons, List.flatMap_append, List.flatMap_singleton, agingEvents]

private theorem replay_aging (paths : List LogPath) {started : Nat} {cutoff : Option Nat}
    {examined : Option SupportProxy.Item} (pass : start.pass = .retention started cutoff examined) :
    (∃ last, (History.replay Cleanup.step start (agingEvents paths)).pass =
        .retention started cutoff last) ∧
      ∀ path, (History.replay Cleanup.step start (agingEvents paths)).disk path =
        if path ∈ paths then (start.disk path).filter fun stat => !expired started cutoff stat
        else start.disk path := by
  induction paths generalizing start examined with
  | nil =>
      refine ⟨⟨examined, pass⟩, fun path => ?_⟩
      rw [if_neg List.not_mem_nil]
      rfl
  | cons first rest ih =>
      obtain ⟨nextPass, nextDisk⟩ := examine_age pass first
      obtain ⟨last, disk⟩ := ih nextPass
      rw [agingEvents_cons, History.replay_append]
      refine ⟨last, fun path => ?_⟩
      refine (disk path).trans ?_
      rw [nextDisk]
      by_cases own : path = first
      · subst own
        rw [Function.update_self, if_pos List.mem_cons_self, Option.filter_filter]
        simp only [Bool.and_self, ite_self]
      · rw [Function.update_of_ne own]
        simp only [List.mem_cons, own, false_or]

private theorem replay_scan (paths : List LogPath) {items : List SupportProxy.Item}
    (pass : start.pass = .scan items) :
    (History.replay Cleanup.step start (paths.map .scanFile).reverse).disk = start.disk ∧
      (History.replay Cleanup.step start (paths.map .scanFile).reverse).pass =
        .scan ((paths.filterMap fun path =>
          (start.disk path).map (SupportProxy.Item.mk path)).reverse ++ items) := by
  induction paths generalizing start items with
  | nil => exact ⟨rfl, pass⟩
  | cons first rest ih =>
      rw [List.map_cons, List.reverse_cons, History.replay_append]
      have scanned : (start.step (.scanFile first)).disk = start.disk ∧
          (start.step (.scanFile first)).pass =
            .scan (((start.disk first).map (SupportProxy.Item.mk first)).toList ++ items) := by
        rw [Cleanup.step.eq_def, pass]
        dsimp only
        cases start.disk first with
        | none => exact ⟨rfl, pass⟩
        | some stat => exact ⟨rfl, rfl⟩
      obtain ⟨nextDisk, nextPass⟩ := scanned
      obtain ⟨disk, last⟩ := ih nextPass
      refine ⟨disk.trans nextDisk, last.trans ?_⟩
      rw [nextDisk, List.filterMap_cons]
      cases start.disk first with
      | none => rfl
      | some stat =>
          simp only [Option.map_some, Option.toList_some, List.reverse_cons, List.append_assoc]

private theorem replay_idle (idle : start.pass = .idle) (count : Nat) :
    History.replay Cleanup.step start (List.replicate count (.next true)) = start := by
  induction count with
  | zero => rfl
  | succ count ih =>
      rw [List.replicate_succ, History.replay_cons, ih, Cleanup.step.eq_def, idle]

/-- The loop of `enforce_port2_quota` removes the prefix that `deleteOldest` removes. -/
theorem replay_deleting {removed kept failed : List SupportProxy.Item}
    (pass : start.pass = .delete (removed ++ kept) failed (Cleanup.totalSize (removed ++ kept)))
    (room : Cleanup.totalSize kept ≤ maxPerPort2Bytes)
    (shortest : ∀ count < removed.length,
      maxPerPort2Bytes < Cleanup.totalSize ((removed ++ kept).drop count)) :
    let ended := History.replay Cleanup.step start
      (List.replicate ((removed ++ kept).length + 1) (.next true))
    ended.pass = .idle ∧ ∀ path, ended.disk path =
      if path ∈ removed.map SupportProxy.Item.path then none else start.disk path := by
  induction removed generalizing start with
  | nil =>
      dsimp only
      rw [List.nil_append] at pass ⊢
      have stops : start.step (.next true) = start.withPass .idle := by
        rw [Cleanup.step.eq_def, pass]
        dsimp only
        rw [Cleanup.deleteNext.eq_def]
        cases kept with
        | nil => rfl
        | cons item rest => exact if_pos room
      rw [List.replicate_succ', History.replay_append, History.replay_cons, History.replay_nil,
        stops, replay_idle rfl]
      refine ⟨rfl, fun path => ?_⟩
      rw [List.map_nil, if_neg List.not_mem_nil]
      rfl
  | cons item removed ih =>
      have above : ¬ Cleanup.totalSize (item :: (removed ++ kept)) ≤ maxPerPort2Bytes :=
        Nat.not_le.mpr (shortest 0 (Nat.succ_pos _))
      have less : Cleanup.totalSize (item :: (removed ++ kept)) - item.size =
          Cleanup.totalSize (removed ++ kept) := by
        rw [Cleanup.totalSize_cons, Nat.add_sub_cancel_left]
      have deletes : start.step (.next true) = (start.unlink item.path).withPass
          (.delete (removed ++ kept) failed (Cleanup.totalSize (removed ++ kept))) := by
        rw [Cleanup.step.eq_def, pass, ← less]
        dsimp only
        rw [Cleanup.deleteNext.eq_def]
        exact if_neg above
      obtain ⟨idle, disk⟩ := @ih (start.step (.next true)) (by rw [deletes]; rfl)
        fun count below => shortest (count + 1) (Nat.succ_lt_succ below)
      dsimp only
      rw [List.cons_append, List.length_cons, List.replicate_succ', History.replay_append]
      refine ⟨idle, fun path => (disk path).trans ?_⟩
      rw [deletes, List.map_cons]
      change (if _ then none else Function.update start.disk item.path none path) = _
      by_cases own : path = item.path
      · rw [own, Function.update_self, ite_self, if_pos List.mem_cons_self]
      · rw [Function.update_of_ne own]
        simp only [List.mem_cons, own, false_or]

end Disk

/-! ## The tree behind the disk -/

private theorem value_positive {retention : Binary32.Number}
    (positive : keepsForever retention = false)
    {days : ℚ} (valued : retention.value = some days) : 0 < days := by
  cases retention with
  | finite negative mantissa exponent =>
      obtain rfl := Option.some.inj valued
      exact (positive_iff negative mantissa exponent).mp positive
  | infinite negative => cases valued
  | nan payload => cases valued

/-- The integer cutoff ages the same files. -/
theorem expired_eq (retention : Binary32.Number) (started : Nat) {item : Item}
    (dated : 0 ≤ item.mtime) :
    expired started (cutoffOf retention) (statOf item) = isOld retention started item := by
  rw [Bool.eq_iff_iff, isOld_iff, cutoffOf]
  cases forever : keepsForever retention with
  | true =>
      rw [if_pos rfl, ← isOld_iff, isOld, forever]
      exact iff_of_false Bool.false_ne_true Bool.false_ne_true
  | false =>
      rw [if_neg Bool.false_ne_true, OlderThan]
      cases valued : retention.value with
      | none =>
          refine iff_of_false Bool.false_ne_true ?_
          rintro ⟨days, isDays, -⟩
          cases isDays
      | some days =>
          have positive : 0 < days := value_positive forever valued
          have cutoff : 0 ≤ ⌊days * 86400⌋ := Int.floor_nonneg.mpr (by positivity)
          simp only [Option.some.injEq, exists_eq_left', positive, true_and, ← Int.floor_lt]
          change decide (item.mtime.toNat + ⌊days * 86400⌋.toNat < started) = true ↔ _
          rw [decide_eq_true_iff]
          omega

section Pass

variable {locate : Name × Name → LogPath} {disk : LogPath → Option Stat} {items : List Item}

/-- A disk that has lost some files shows those that are left. -/
theorem Shows.filter (shown : Shows locate disk items) {next : LogPath → Option Stat}
    {keeps : SupportProxy.Item → Bool} (kept : ∀ path stat,
      next path = some stat ↔ disk path = some stat ∧ keeps ⟨path, stat⟩ = true) :
    Shows locate next (items.filter fun item => keeps (located locate item)) := by
  intro path stat
  rw [kept, shown path stat]
  simp only [List.mem_filter]
  constructor
  · rintro ⟨⟨item, member, same⟩, keep⟩
    exact ⟨item, ⟨member, by rw [same]; exact keep⟩, same⟩
  · rintro ⟨item, ⟨member, keep⟩, same⟩
    rw [same] at keep
    exact ⟨⟨item, member, same⟩, keep⟩

private theorem Shows.listed (shown : Shows locate disk items) :
    (items.map fun item => locate item.path).filterMap
        (fun path => (disk path).map (SupportProxy.Item.mk path)) =
      items.map (located locate) := by
  rw [List.filterMap_map, ← List.filterMap_eq_map]
  refine List.filterMap_congr fun item member => ?_
  have found : disk (locate item.path) = some (statOf item) :=
    (shown _ _).mpr ⟨item, member, rfl⟩
  rw [Function.comp_apply, found, Option.map_some]
  rfl

private theorem Shows.mem_paths (shown : Shows locate disk items) {path : LogPath} {stat : Stat}
    (found : disk path = some stat) : path ∈ items.map fun item => locate item.path := by
  obtain ⟨item, member, same⟩ := (shown path stat).mp found
  exact List.mem_map.mpr ⟨item, member, congrArg SupportProxy.Item.path same⟩

private theorem totalSize_located (items : List Item) :
    Cleanup.totalSize (items.map (located locate)) = totalSize items := by
  rw [Cleanup.totalSize, List.map_map]
  rfl

/-- The files that the first pass leaves are on the disk after its steps. -/
theorem Shows.aged {tree : List PortEntry} (shown : Shows locate disk (sessions tree))
    {retention : Binary32.Number} {started : Nat}
    (dated : ∀ item ∈ sessions tree, 0 ≤ item.mtime) {next : LogPath → Option Stat}
    (aged : ∀ path, next path = if path ∈ (sessions tree).map (fun item => locate item.path) then
      (disk path).filter fun stat => !expired started (cutoffOf retention) stat else disk path) :
    Shows locate next (sessions (retentionPass retention started tree)) := by
  have left : sessions (retentionPass retention started tree) = (sessions tree).filter fun item =>
      !expired started (cutoffOf retention) (located locate item).stat := by
    rw [sessions, retentionPass_files, List.filter_filter, sessions, List.filter_filter]
    refine List.filter_congr fun item member => ?_
    cases session : item.isSession with
    | false => rw [Bool.false_and, Bool.and_false]
    | true =>
        have recent := dated item (List.mem_filter.mpr ⟨member, session⟩)
        rw [located, expired_eq retention started recent, Bool.true_and, Bool.true_and,
          Bool.and_true]
  rw [left]
  refine @Shows.filter locate disk _ shown next
    (fun item => !expired started (cutoffOf retention) item.stat) fun path stat => ?_
  rw [aged]
  by_cases known : path ∈ (sessions tree).map fun item => locate item.path
  · rw [if_pos known, Option.filter_eq_some_iff]
  · rw [if_neg known]
    refine ⟨fun found => absurd (shown.mem_paths found) known, And.left⟩

/-- The files that the second pass leaves are on the disk after its steps. -/
theorem Shows.deleted {tree : List PortEntry} (shown : Shows locate disk (sessions tree))
    (distinct : Set.InjOn (fun item => locate (Item.path item)) {item | item ∈ sessions tree})
    {removed : List Item}
    (listed : ∀ item ∈ removed, item ∈ sessions tree) {next : LogPath → Option Stat}
    (deleted : ∀ path, next path =
      if path ∈ (removed.map (located locate)).map SupportProxy.Item.path then none
      else disk path) :
    Shows locate next ((sessions tree).filter fun item =>
      decide (item.path ∉ removed.map Item.path)) := by
  have same : (sessions tree).filter (fun item => decide (item.path ∉ removed.map Item.path)) =
      (sessions tree).filter fun item => decide ((located locate item).path ∉
        (removed.map (located locate)).map SupportProxy.Item.path) := by
    refine List.filter_congr fun item member => ?_
    rw [decide_eq_decide, not_iff_not, List.map_map, List.mem_map, List.mem_map]
    constructor
    · rintro ⟨other, gone, path_eq⟩
      exact ⟨other, gone, congrArg locate path_eq⟩
    · rintro ⟨other, gone, path_eq⟩
      exact ⟨other, gone, congrArg Item.path (distinct (listed other gone) member path_eq)⟩
  rw [same]
  refine @Shows.filter locate disk _ shown next (fun item => decide (item.path ∉
    (removed.map (located locate)).map SupportProxy.Item.path)) fun path stat => ?_
  rw [deleted, decide_eq_true_iff]
  by_cases gone : path ∈ (removed.map (located locate)).map SupportProxy.Item.path
  · rw [if_pos gone]
    simp only [reduceCtorEq, gone, not_true, and_false]
  · rw [if_neg gone, and_iff_left gone]

/-- The steps up to the sort, from a worker at rest. -/
theorem Shows.survey {tree : List PortEntry} {start : Cleanup} (idle : start.pass = .idle)
    (shown : Shows locate start.disk (sessions tree)) (retention : Binary32.Number)
    (started : Nat) (dated : ∀ item ∈ sessions tree, 0 ≤ item.mtime) :
    let left := sessions (retentionPass retention started tree)
    let surveyed := History.replay Cleanup.step start (surveyEvents started (cutoffOf retention)
      ((sessions tree).map fun item => locate item.path) (left.map fun item => locate item.path))
    surveyed.pass = .scan (left.map (located locate)).reverse ∧
      Shows locate surveyed.disk left := by
  dsimp only
  generalize scannedPaths : (sessions (retentionPass retention started tree)).map
    (fun item => locate item.path) = scanned
  rw [surveyEvents, History.replay_append, History.replay_cons, History.replay_append]
  have begins : History.replay Cleanup.step start [.begin started (cutoffOf retention)] =
      start.withPass (.retention started (cutoffOf retention) none) := by
    rw [History.replay_cons, History.replay_nil, Cleanup.step.eq_def, idle]
  rw [begins]
  obtain ⟨⟨last, retaining⟩, agedDisk⟩ := @replay_aging
    (start.withPass (.retention started (cutoffOf retention) none))
    ((sessions tree).map fun item => locate item.path) _ _ _ rfl
  have aged := shown.aged dated agedDisk
  generalize History.replay Cleanup.step _ (agingEvents _) = retained at retaining aged ⊢
  have scans : retained.step .beginScan = retained.withPass (.scan []) := by
    rw [Cleanup.step.eq_def, retaining]
  obtain ⟨scanDisk, scanPass⟩ := @replay_scan (retained.withPass (.scan [])) scanned [] rfl
  rw [scans, scanDisk, scanPass, List.append_nil, ← scannedPaths]
  exact ⟨congrArg (fun items => Pass.scan items.reverse) aged.listed, aged⟩

/-- Behind the sort, the shortest prefix goes that leaves no more than the quota. -/
theorem replay_deletion {start : Cleanup} {scanned removed kept : List SupportProxy.Item}
    (pass : start.pass = .scan scanned) (perm : (removed ++ kept).Perm scanned)
    (room : Cleanup.totalSize kept ≤ maxPerPort2Bytes)
    (shortest : ∀ count < removed.length,
      maxPerPort2Bytes < Cleanup.totalSize ((removed ++ kept).drop count)) :
    let ended := History.replay Cleanup.step start (deletionEvents (removed ++ kept))
    ended.pass = .idle ∧ ∀ path, ended.disk path =
      if path ∈ removed.map SupportProxy.Item.path then none else start.disk path := by
  have total := Cleanup.totalSize_perm perm
  have sorted : start.step (.sort (removed ++ kept)) =
      if Cleanup.totalSize (removed ++ kept) ≤ maxPerPort2Bytes then start.withPass .idle
      else start.withPass
        (.delete (removed ++ kept) [] (Cleanup.totalSize (removed ++ kept))) := by
    rw [Cleanup.step.eq_def, pass, total]
  dsimp only
  rw [deletionEvents, History.replay_append, History.replay_cons, History.replay_nil, sorted]
  by_cases fits : Cleanup.totalSize (removed ++ kept) ≤ maxPerPort2Bytes
  · have none_removed : removed = [] := by
      cases removed with
      | nil => rfl
      | cons item rest => exact absurd fits (Nat.not_le.mpr (shortest 0 (Nat.succ_pos _)))
    subst none_removed
    rw [if_pos fits, replay_idle rfl]
    refine ⟨rfl, fun path => ?_⟩
    rw [List.map_nil, if_neg List.not_mem_nil]
    rfl
  · rw [if_neg fits]
    exact @replay_deleting (start.withPass (.delete (removed ++ kept) []
      (Cleanup.totalSize (removed ++ kept)))) removed kept [] rfl room shortest

end Pass

/-- Only a sort is subject to a promise. -/
theorem possible_unsorted {event : CleanupEvent} (other : ∀ order, event ≠ .sort order)
    (cleanup : Cleanup) : Cleanup.Possible cleanup event := by
  cases event with
  | sort order => exact absurd rfl (other order)
  | _ => trivial

private theorem surveyEvents_unsorted {started : Nat} {cutoff : Option Nat}
    {aged scanned : List LogPath}
    {event : CleanupEvent} (member : event ∈ surveyEvents started cutoff aged scanned) :
    ∀ order, event ≠ .sort order := by
  rintro order rfl
  simp [surveyEvents, agingEvents] at member

/-- **The steps of a cleanup come to `cleanupForPort2`.** From any run that leaves the worker at
rest and the session files of a tree on the disk, the steps of one cleanup that nobody disturbs
are a run as well, and leave the session files of the tree that `cleanupForPort2` leaves. -/
theorem run_cleanupForPort2 (sorter : Sorter) (retention : Binary32.Number) (started : Nat)
    {locate : Name × Name → LogPath} {tree : List PortEntry} {history : List CleanupEvent}
    (run : Cleanup.Run history) (idle : (Cleanup.after history).pass = .idle)
    (shown : Shows locate (Cleanup.after history).disk (sessions tree))
    (distinct : Set.InjOn (fun item => locate (Item.path item)) {item | item ∈ sessions tree})
    (dated : ∀ item ∈ sessions tree, 0 ≤ item.mtime) :
    let left := sessions (retentionPass retention started tree)
    let events := deletionEvents ((sorter.sort left).map (located locate)) ++
      (surveyEvents started (cutoffOf retention) ((sessions tree).map fun item => locate item.path)
        (left.map fun item => locate item.path) ++ history)
    Cleanup.Run events ∧ (Cleanup.after events).pass = .idle ∧
      Shows locate (Cleanup.after events).disk
        (sessions (cleanupForPort2 sorter retention started tree)) := by
  dsimp only
  obtain ⟨scanning, aged⟩ := shown.survey idle retention started dated
  have first := retentionPass_files retention started tree
  rw [cleanupForPort2, enforcePort2Quota_eq]
  dsimp only
  rw [items_eq, ← sessions]
  generalize retentionPass retention started tree = middle at first scanning aged ⊢
  have within : ∀ item ∈ sessions middle, item ∈ sessions tree := by
    intro item member
    obtain ⟨present, session⟩ := List.mem_filter.mp member
    rw [first] at present
    exact List.mem_filter.mpr ⟨(List.mem_filter.mp present).1, session⟩
  have perm := sorter.perm (sessions middle)
  have sorted := sorter.sorted (sessions middle)
  generalize sorter.sort (sessions middle) = queue at perm sorted ⊢
  have visible : ∀ item ∈ queue, isHidden item.directory = false := by
    intro item member
    have session := (List.mem_filter.mp (perm.mem_iff.mp member)).2
    rw [Item.isSession, Bool.and_eq_true, Bool.not_eq_true'] at session
    exact session.1
  obtain ⟨removed, kept, rfl, room, shortest, gone, -⟩ := deleteOldest_prefix visible middle
  have survey_run : Cleanup.Run (surveyEvents started (cutoffOf retention)
      ((sessions tree).map fun item => locate item.path)
      ((sessions middle).map fun item => locate item.path) ++ history) :=
    run.append fun event member => possible_unsorted (surveyEvents_unsorted member)
  rw [← History.replay_append] at scanning aged
  generalize surveyEvents started (cutoffOf retention)
    ((sessions tree).map fun item => locate item.path)
    ((sessions middle).map fun item => locate item.path) ++ history = before
    at survey_run scanning aged ⊢
  have order : ((removed ++ kept).map (located locate)).Perm
      ((sessions middle).map (located locate)).reverse :=
    (perm.map _).trans (List.reverse_perm _).symm
  rw [List.map_append] at order ⊢
  obtain ⟨ended, disk⟩ := replay_deletion scanning order (by rwa [totalSize_located]) (by
    intro count below
    rw [List.length_map] at below
    rw [← List.map_append, ← List.map_drop, totalSize_located]
    exact shortest count below)
  rw [Cleanup.after, History.replay_append]
  refine ⟨?_, ended, ?_⟩
  · have sorts : Cleanup.Run (.sort (removed.map (located locate) ++ kept.map (located locate)) ::
        before) := by
      refine ⟨fun items pass => ?_, survey_run⟩
      rw [← Pass.scan.inj (scanning.symm.trans pass), ← List.map_append, List.pairwise_map]
      refine ⟨List.map_append ▸ order, sorted.imp fun older => ?_⟩
      exact Int.toNat_le_toNat older
    rw [deletionEvents, List.append_assoc]
    refine History.Guarded.append sorts fun event member => possible_unsorted fun other => ?_
    rw [List.eq_of_mem_replicate member]
    exact fun same => by cases same
  · have left : sessions (deleteOldest (removed ++ kept) (totalSize (removed ++ kept)) middle) =
        (sessions middle).filter fun item => decide (item.path ∉ removed.map Item.path) := by
      rw [sessions, gone, sessions, List.filter_comm]
    rw [left]
    refine aged.deleted (distinct.mono within) (fun item member => ?_) disk
    exact perm.mem_iff.mp (List.mem_append_left _ member)

end SupportProxy.LogTree
