import SupportProxy.Logs.Store

/-! # Session files are new when they are opened

A session number is taken from one day's directory and used later, perhaps in the
directory of another day. It stays above every number of a file from that day on
until the file is opened. -/

namespace SupportProxy

/-- No number in the directory is above the highest. -/
theorem le_highestSessionN {entries : List Nat} {n : Nat} (member : n ∈ entries) :
    n ≤ highestSessionN entries := by
  have grows : ∀ (rest : List Nat) (highest : Nat),
      highest ≤ rest.foldl (fun highest n => if highest < n then n else highest) highest ∧
        ∀ n ∈ rest,
          n ≤ rest.foldl (fun highest n => if highest < n then n else highest) highest := by
    intro rest
    induction rest with
    | nil => exact fun highest => ⟨le_rfl, by simp⟩
    | cons first rest ih =>
        intro highest
        rw [List.foldl_cons]
        obtain ⟨above, members⟩ := ih (if highest < first then first else highest)
        refine ⟨le_trans ?_ above, List.forall_mem_cons.mpr ⟨le_trans ?_ above, members⟩⟩
        · split_ifs <;> omega
        · split_ifs <;> omega
  exact (grows entries 0).2 n member

/-- The highest number is below a bound of them all. -/
theorem highestSessionN_lt {entries : List Nat} {bound : Nat} (positive : 0 < bound)
    (small : ∀ n ∈ entries, n < bound) : highestSessionN entries < bound := by
  have stays : ∀ (rest : List Nat) (highest : Nat), highest < bound → (∀ n ∈ rest, n < bound) →
      rest.foldl (fun highest n => if highest < n then n else highest) highest < bound := by
    intro rest
    induction rest with
    | nil => exact fun _ below _ => below
    | cons first rest ih =>
        intro highest below small
        rw [List.foldl_cons]
        refine ih _ ?_ fun n member => small n (List.mem_cons_of_mem _ member)
        split_ifs
        · exact small first List.mem_cons_self
        · exact below
  exact stays entries 0 positive small

namespace LogStore

/-- The number is above that of every file of the port pair from some day up to today. -/
def Fresh (store : LogStore) (files : List SessionPath) (n : Nat) : Prop :=
  ∃ since ≤ store.date, ∀ path ∈ files, path.port2 = store.port2 → since ≤ path.date → path.n < n

/-- A fresh number names no file of today. -/
theorem Fresh.not_mem {store : LogStore} {files : List SessionPath} {n : Nat}
    (fresh : store.Fresh files n) : ⟨store.port2, store.date, n⟩ ∉ files := by
  obtain ⟨since, past, above⟩ := fresh
  intro member
  exact Nat.lt_irrefl n (above _ member rfl past)

private theorem Fresh.mono {store next : LogStore} {files others : List SessionPath} {n : Nat}
    (fresh : store.Fresh files n) (port2 : next.port2 = store.port2) (date : store.date ≤ next.date)
    (fewer : others ⊆ files) : next.Fresh others n := by
  obtain ⟨since, past, above⟩ := fresh
  exact ⟨since, past.trans date, fun path member port later =>
    above path (fewer member) (port.trans port2) later⟩

/-- Session numbers leave room for one more. -/
def Small (store : LogStore) : Prop := ∀ n ∈ store.entries, n < 2 ^ 32 - 1

/-- `next_session_n` is called with fewer than 2^32 - 1 sessions, and `opendir` does not fail
for a directory with session files. -/
def Lists (store : LogStore) : LogEvent → Prop
  | .fork listed _ => store.Small ∧ (listed = true ∨ store.entries = [])
  | .observe listed _ _ _ => store.Small ∧ (listed = true ∨ store.entries = [])
  | _ => True

instance (store : LogStore) : Decidable store.Small :=
  inferInstanceAs (Decidable (∀ n ∈ store.entries, n < 2 ^ 32 - 1))

instance (store : LogStore) : (event : LogEvent) → Decidable (store.Lists event)
  | .fork listed _ => inferInstanceAs (Decidable (_ ∧ (listed = true ∨ store.entries = [])))
  | .observe listed _ _ _ => inferInstanceAs (Decidable (_ ∧ (listed = true ∨ store.entries = [])))
  | .midnight _ | .exit | .openTlog _ | .block _ _ | .tick _ | .unlinkBin _ | .unlinkTlog _ =>
      isTrue trivial

private theorem nextN_above {store : LogStore} {listed : Bool}
    (lists : store.Small ∧ (listed = true ∨ store.entries = [])) :
    store.nextN listed ≠ 0 ∧ ∀ n ∈ store.entries, n < store.nextN listed := by
  obtain ⟨small, listing⟩ := lists
  have bound := highestSessionN_lt (Nat.sub_pos_of_lt (by simp)) small
  rw [nextN, nextSessionN.eq_def]
  rcases listing with rfl | empty
  · simp only [↓reduceIte]
    rw [Nat.mod_eq_of_lt (by omega)]
    exact ⟨Nat.succ_ne_zero _, fun n member => Nat.lt_succ_of_le (le_highestSessionN member)⟩
  · rw [empty]
    cases listed with
    | false => exact ⟨Nat.one_ne_zero, by simp⟩
    | true => exact ⟨Nat.one_ne_zero, by simp⟩

/-- A number just taken is fresh. -/
theorem fresh_nextN {store : LogStore} {listed : Bool} {files : List SessionPath}
    (lists : store.Small ∧ (listed = true ∨ store.entries = []))
    (some : files ⊆ store.bins ++ store.tlogs.map Prod.fst)
    (past : ∀ path ∈ files, path.date ≤ store.date) : store.Fresh files (store.nextN listed) := by
  refine ⟨store.date, le_rfl, fun path member port2 today => (nextN_above lists).2 _ ?_⟩
  refine List.mem_map.mpr ⟨path, List.mem_filter.mpr ⟨some member, ?_⟩, rfl⟩
  simp only [port2, Nat.le_antisymm (past path member) today, and_self, decide_true]

/-- What the children keep of the log directory. -/
structure Orderly (store : LogStore) : Prop where
  bins : ∀ path ∈ store.bins, path.date ≤ store.date
  tlogs : ∀ tlog ∈ store.tlogs, tlog.1.date ≤ store.date
  /-- the number of the next `.bin` file is fresh -/
  nextBin : ∀ child, store.child = some child → child.writer.fp = none →
    store.Fresh store.bins (child.writer.nextN child.sessionN)
  nextTlog : ∀ child, store.child = some child → child.tlog = none →
    store.Fresh (store.tlogs.map Prod.fst) child.sessionN
  closed : store.closed ⊆ store.bins
  /-- no closed file is open -/
  apart : ∀ child, store.child = some child → ∀ path, child.binPath = some path →
    path ∉ store.closed
  overwritten : store.overwritten = []
  continued : store.continued = []

private theorem orderly_initial (port2 date : Nat) : Orderly (initial port2 date) where
  bins := fun _ member => by cases member
  tlogs := fun _ member => by cases member
  nextBin := fun _ isChild => by cases isChild
  nextTlog := fun _ isChild => by cases isChild
  closed := fun _ member => by cases member
  apart := fun _ isChild => by cases isChild
  overwritten := rfl
  continued := rfl

/-- Nothing changes but the child, which keeps its files and its next number. -/
theorem Orderly.sameFiles {store : LogStore} (orderly : Orderly store) {child next : LogChild}
    (isChild : store.child = some child) (binPath : next.binPath = child.binPath)
    (sessionN : next.sessionN = child.sessionN) (tlog : next.tlog = child.tlog)
    (pending : child.writer.fp = none →
      next.writer.pendingSessionN = child.writer.pendingSessionN) :
    Orderly { store with child := some next } where
  bins := orderly.bins
  tlogs := orderly.tlogs
  nextBin := by
    intro other isOther closed
    obtain rfl := Option.some.inj isOther
    have before : child.writer.fp = none :=
      Option.map_eq_none_iff.mp (binPath.symm.trans (Option.map_eq_none_iff.mpr closed))
    have fresh := orderly.nextBin child isChild before
    rw [BinlogWriter.nextN, ← pending before, ← sessionN, ← BinlogWriter.nextN] at fresh
    exact fresh
  nextTlog := by
    intro other isOther unopened
    obtain rfl := Option.some.inj isOther
    exact sessionN ▸ orderly.nextTlog child isChild (tlog.symm.trans unopened)
  closed := orderly.closed
  apart := by
    intro other isOther path isPath
    obtain rfl := Option.some.inj isOther
    exact orderly.apart child isChild path (binPath.symm.trans isPath)
  overwritten := orderly.overwritten
  continued := orderly.continued

/-- The settled child differs in its writer and its lists. -/
theorem settle_eq (child : LogChild) (entry : LogEntry) (outcome : BlockResult × BinlogWriter) :
    (child.settle entry outcome).writer = outcome.2 ∧
      (child.settle entry outcome).sessionN = child.sessionN ∧
      (child.settle entry outcome).tlog = child.tlog := by
  obtain ⟨result, writer⟩ := outcome
  cases result <;> exact ⟨rfl, rfl, rfl⟩

private theorem Orderly.openTlog {store : LogStore} (orderly : Orderly store) {child : LogChild}
    (isChild : store.child = some child) (unopened : child.tlog = none) :
    Orderly { store.openTlog ⟨store.port2, store.date, child.sessionN⟩ with
      child := some { child with tlog := some ⟨store.port2, store.date, child.sessionN⟩ } } := by
  have absent := (orderly.nextTlog child isChild unopened).not_mem
  have created : store.openTlog ⟨store.port2, store.date, child.sessionN⟩ = { store with
      tlogs := (⟨store.port2, store.date, child.sessionN⟩, store.forks) :: store.tlogs } := by
    rw [LogStore.openTlog, List.find?_eq_none.mpr]
    intro tlog member same
    refine absent (List.mem_map.mpr ⟨tlog, member, ?_⟩)
    simpa only [decide_eq_true_eq] using same
  rw [created]
  refine ⟨orderly.bins, List.forall_mem_cons.mpr ⟨le_rfl, orderly.tlogs⟩, ?_, ?_, orderly.closed,
    ?_, orderly.overwritten, orderly.continued⟩
  · intro other isOther closed
    obtain rfl := Option.some.inj isOther
    exact orderly.nextBin child isChild closed
  · intro other isOther unopened
    obtain rfl := Option.some.inj isOther
    cases unopened
  · intro other isOther path isPath
    obtain rfl := Option.some.inj isOther
    exact orderly.apart child isChild path isPath

private theorem Orderly.openBin {store : LogStore} (orderly : Orderly store) {child next : LogChild}
    {path : SessionPath} (isChild : store.child = some child) (closed : child.writer.fp = none)
    (isPath : path = ⟨store.port2, store.date, child.writer.nextN child.sessionN⟩)
    (opened : next.binPath = some path) (sessionN : next.sessionN = child.sessionN)
    (tlog : next.tlog = child.tlog) :
    Orderly { store.openBin path with child := some next } := by
  have absent : path ∉ store.bins := isPath ▸ (orderly.nextBin child isChild closed).not_mem
  rw [LogStore.openBin, if_neg absent]
  refine ⟨List.forall_mem_cons.mpr ⟨isPath ▸ le_rfl, orderly.bins⟩, orderly.tlogs, ?_, ?_,
    fun other member => List.mem_cons_of_mem _ (orderly.closed member), ?_, orderly.overwritten,
    orderly.continued⟩
  · intro other isOther closed
    obtain rfl := Option.some.inj isOther
    rw [LogChild.binPath, closed] at opened
    cases opened
  · intro other isOther unopened
    obtain rfl := Option.some.inj isOther
    exact sessionN ▸ orderly.nextTlog child isChild (tlog.symm.trans unopened)
  · intro other isOther found isFound
    obtain rfl := Option.some.inj isOther
    obtain rfl := Option.some.inj (opened.symm.trans isFound)
    exact fun member => absent (orderly.closed member)

/-- `observe` closes the open file, or moves its watermark at most. -/
theorem childStep_observe (store : LogStore) (child : LogChild) (listed : Bool) (boot : Nat)
    (msg : Message) (timeBootMs : Nat) :
    (∃ file, child.writer.fp = some file ∧
      store.childStep child (.observe listed boot msg timeBootMs) = { store with
        closed := if file.path ∈ store.bins then file.path :: store.closed else store.closed
        child := some (child.rotated boot { child.writer.rotateForReboot (store.nextN listed) with
          lastSystemTimeBootMs := timeBootMs }) }) ∨
      ∃ mark, store.childStep child (.observe listed boot msg timeBootMs) = { store with
        child := some { child with
          writer := { child.writer with lastSystemTimeBootMs := mark } } } := by
  rw [childStep]
  rcases BinlogWriter.observe_eq child.writer (store.nextN listed) msg timeBootMs with
    ⟨isOpen, rotated⟩ | ⟨mark, marked⟩
  · obtain ⟨file, fp⟩ := Option.isSome_iff_exists.mp isOpen
    have path : child.binPath = some file.path := by rw [LogChild.binPath, fp]; rfl
    rw [rotated, path]
    exact .inl ⟨file, fp, rfl⟩
  · rw [marked]
    refine .inr ⟨mark, ?_⟩
    rw [LogChild.binPath]
    cases fp : child.writer.fp with
    | none => simp only [Option.map_none, fp]
    | some file => simp only [Option.map_some, fp]

private theorem Orderly.block {store : LogStore} (orderly : Orderly store) {child : LogChild}
    (isChild : store.child = some child) (io : BlockIo) (entry : LogEntry) :
    Orderly (store.childStep child (.block io entry)) := by
  rw [childStep]
  obtain ⟨stays, opens⟩ := BinlogWriter.handleBlock_path child.writer store.port2 child.sessionN
    { io with date := store.date } entry.sysid entry.compid entry.block
  generalize child.writer.handleBlock store.port2 child.sessionN { io with date := store.date }
    entry.sysid entry.compid entry.block = outcome at stays opens ⊢
  obtain ⟨writer, sessionN, tlog⟩ := settle_eq child entry outcome
  generalize child.settle entry outcome = next at writer sessionN tlog ⊢
  have binPath : next.binPath = outcome.2.fp.map SessionFile.path := by
    rw [LogChild.binPath, writer]
  cases fp : child.writer.fp with
  | some file =>
      have same : next.binPath = child.binPath :=
        binPath.trans (stays (fp ▸ rfl))
      have isOpen : child.binPath = some file.path := by rw [LogChild.binPath, fp]; rfl
      rw [isOpen]
      refine orderly.sameFiles isChild same sessionN tlog fun closed => ?_
      cases fp.symm.trans closed
  | none =>
      have closed : child.binPath = none := by rw [LogChild.binPath, fp]; rfl
      rcases opens fp with same | path
      · have unopened : next.binPath = none := by rw [binPath, same, fp]; rfl
        rw [closed, unopened]
        exact orderly.sameFiles isChild (unopened.trans closed.symm) sessionN tlog
          fun _ => by rw [writer, same]
      · rw [closed, binPath.trans path]
        exact orderly.openBin isChild fp rfl (binPath.trans path) sessionN tlog

private theorem Orderly.observe {store : LogStore} (orderly : Orderly store) {child : LogChild}
    (isChild : store.child = some child) {listed : Bool} {boot : Nat} {msg : Message}
    {timeBootMs : Nat} (lists : store.Lists (.observe listed boot msg timeBootMs)) :
    Orderly (store.childStep child (.observe listed boot msg timeBootMs)) := by
  rcases store.childStep_observe child listed boot msg timeBootMs with
    ⟨file, -, rotated⟩ | ⟨mark, marked⟩
  · rw [rotated]
    refine ⟨orderly.bins, orderly.tlogs, ?_, ?_, ?_, ?_, orderly.overwritten, orderly.continued⟩
    · intro other isOther _
      obtain rfl := Option.some.inj isOther
      have fresh := fresh_nextN lists (List.subset_append_left _ _) orderly.bins
      change store.Fresh store.bins (if store.nextN listed ≠ 0 then store.nextN listed else _)
      rw [if_pos (nextN_above lists).1]
      exact fresh
    · intro other isOther unopened
      obtain rfl := Option.some.inj isOther
      exact orderly.nextTlog child isChild unopened
    · intro other member
      dsimp only at member
      by_cases exists_ : file.path ∈ store.bins
      · rw [if_pos exists_] at member
        rcases List.mem_cons.mp member with rfl | before
        · exact exists_
        · exact orderly.closed before
      · rw [if_neg exists_] at member
        exact orderly.closed member
    · intro other isOther found isFound
      obtain rfl := Option.some.inj isOther
      cases isFound
  · rw [marked]
    exact orderly.sameFiles isChild rfl rfl rfl fun _ => rfl

private theorem Orderly.fork {store : LogStore} (orderly : Orderly store) {listed : Bool}
    {fcSysid : UInt8} (lists : store.Lists (.fork listed fcSysid)) :
    Orderly { store with
      forks := store.forks + 1
      child := some (LogChild.initial (store.nextN listed) fcSysid) } := by
  refine ⟨orderly.bins, orderly.tlogs, ?_, ?_, orderly.closed, ?_, orderly.overwritten,
    orderly.continued⟩
  · intro other isOther _
    obtain rfl := Option.some.inj isOther
    exact fresh_nextN lists (List.subset_append_left _ _) orderly.bins
  · intro other isOther _
    obtain rfl := Option.some.inj isOther
    refine fresh_nextN lists (List.subset_append_right _ _) fun path member => ?_
    obtain ⟨tlog, isTlog, rfl⟩ := List.mem_map.mp member
    exact orderly.tlogs tlog isTlog
  · intro other isOther path isPath
    obtain rfl := Option.some.inj isOther
    cases isPath

/-- Removing files, the end of the child and the passing of days keep the order. -/
theorem Orderly.fewer {store next : LogStore} (orderly : Orderly store)
    (port2 : next.port2 = store.port2) (date : store.date ≤ next.date)
    (bins : next.bins ⊆ store.bins) (tlogs : next.tlogs ⊆ store.tlogs)
    (child : ∀ child, next.child = some child → store.child = some child)
    (closed : ∀ path ∈ next.closed, path ∈ store.closed ∧ path ∈ next.bins)
    (overwritten : next.overwritten = store.overwritten)
    (continued : next.continued = store.continued) : Orderly next where
  bins := fun path member => (orderly.bins path (bins member)).trans date
  tlogs := fun tlog member => (orderly.tlogs tlog (tlogs member)).trans date
  nextBin := fun other isOther unopened =>
    (orderly.nextBin other (child other isOther) unopened).mono port2 date bins
  nextTlog := fun other isOther unopened =>
    (orderly.nextTlog other (child other isOther) unopened).mono port2 date
      (List.map_subset _ tlogs)
  closed := fun path member => (closed path member).2
  apart := fun other isOther path isPath member =>
    orderly.apart other (child other isOther) path isPath (closed path member).1
  overwritten := overwritten.trans orderly.overwritten
  continued := continued.trans orderly.continued

private theorem Orderly.childStep {store : LogStore} (orderly : Orderly store) {child : LogChild}
    (isChild : store.child = some child) {event : LogEvent} (lists : store.Lists event) :
    Orderly (store.childStep child event) := by
  cases event with
  | openTlog opens =>
      rw [LogStore.childStep]
      by_cases opening : child.tlog.isNone = true ∧ opens = true
      · rw [if_pos opening]
        exact orderly.openTlog isChild (Option.isNone_iff_eq_none.mp opening.1)
      · rw [if_neg opening]
        exact orderly
  | block io entry => exact orderly.block isChild io entry
  | observe listed boot msg timeBootMs => exact orderly.observe isChild lists
  | tick io =>
      have same := (BinlogWriter.tick_same child.writer io).1
      exact orderly.sameFiles isChild (congrArg (Option.map SessionFile.path) same.fp) rfl rfl
        fun _ => same.pendingSessionN
  | midnight days => exact orderly
  | fork listed fcSysid => exact orderly
  | exit => exact orderly
  | unlinkBin path => exact orderly
  | unlinkTlog path => exact orderly

private theorem Orderly.step {store : LogStore} (orderly : Orderly store) {event : LogEvent}
    (lists : store.Lists event) : Orderly (apply event store) := by
  cases event with
  | midnight days =>
      exact orderly.fewer rfl (Nat.le_add_right _ _) (List.Subset.refl _) (List.Subset.refl _)
        (fun _ same => same) (fun path member => ⟨member, orderly.closed member⟩) rfl rfl
  | unlinkBin path =>
      refine orderly.fewer rfl le_rfl (List.filter_subset_self _) (List.Subset.refl _)
        (fun _ same => same) (fun other member => ?_) rfl rfl
      obtain ⟨isClosed, apart⟩ := List.mem_filter.mp member
      exact ⟨isClosed, List.mem_filter.mpr ⟨orderly.closed isClosed, apart⟩⟩
  | unlinkTlog path =>
      exact orderly.fewer rfl le_rfl (List.Subset.refl _) (List.filter_subset_self _)
        (fun _ same => same) (fun other member => ⟨member, orderly.closed member⟩) rfl rfl
  | exit =>
      exact orderly.fewer rfl le_rfl (List.Subset.refl _) (List.Subset.refl _)
        (fun _ isChild => by cases isChild)
        (fun other member => ⟨member, orderly.closed member⟩) rfl rfl
  | fork listed fcSysid =>
      rw [apply.eq_def]
      cases isChild : store.child with
      | none => exact orderly.fork lists
      | some child => exact orderly
  | openTlog opens =>
      rw [apply.eq_def]
      cases isChild : store.child with
      | none => exact orderly
      | some child => exact orderly.childStep isChild lists
  | block io entry =>
      rw [apply.eq_def]
      cases isChild : store.child with
      | none => exact orderly
      | some child => exact orderly.childStep isChild lists
  | observe listed boot msg timeBootMs =>
      rw [apply.eq_def]
      cases isChild : store.child with
      | none => exact orderly
      | some child => exact orderly.childStep isChild lists
  | tick io =>
      rw [apply.eq_def]
      cases isChild : store.child with
      | none => exact orderly
      | some child => exact orderly.childStep isChild lists

/-- Every history in which directories are listed leaves an orderly store. -/
theorem orderly_after {port2 date : Nat} {history : List LogEvent}
    (lists : History.Guarded apply (initial port2 date) Lists history) :
    Orderly (after port2 date history) :=
  lists.invariant (orderly_initial port2 date) fun _ _ before admitted => before.step admitted

/-- **Session files are new when they are opened**, in every history in which `opendir` does
not fail for a directory with session files. -/
theorem run_fresh {port2 date : Nat} {history : List LogEvent}
    (lists : History.Guarded apply (initial port2 date) Lists history) :
    ∀ earlier, earlier <:+ history →
      (after port2 date earlier).overwritten = [] ∧ (after port2 date earlier).continued = [] := by
  intro earlier suffix
  have orderly := orderly_after (lists.of_suffix suffix)
  exact ⟨orderly.overwritten, orderly.continued⟩

/-- A SYSTEM_TIME of the vehicle's autopilot. -/
def systemTime : Message := ⟨Message.systemTime, 1, compIdAutopilot1, 0, 0, [], []⟩

/-- Block 0 of a boot. -/
def blockZero (boot : Nat) : LogEvent :=
  .block ⟨0, true, 0, 0, true, 200, 0⟩
    ⟨boot, 1, 1, ⟨0, DataBlock.zero_lt, Vector.replicate 200 7⟩⟩

/-- A vehicle that logs, reboots before midnight and logs again after it. -/
def rebootAtMidnight : List LogEvent :=
  [.openTlog true, blockZero 1, .midnight 1, .observe true 1 systemTime 1000,
    .observe true 0 systemTime 60000, blockZero 0, .fork true 0]

/-- A reboot at midnight opens a file in the directory of the new day, and overwrites none. -/
theorem run_fresh_rebootAtMidnight :
    (after 5000 7 rebootAtMidnight).bins = [⟨5000, 8, 2⟩, ⟨5000, 7, 1⟩] ∧
      ∀ earlier, earlier <:+ rebootAtMidnight →
        (after 5000 7 earlier).overwritten = [] ∧ (after 5000 7 earlier).continued = [] :=
  ⟨by decide +kernel, @run_fresh 5000 7 rebootAtMidnight
    (by unfold History.Guarded; decide +kernel)⟩

/-- `opendir` fails at the rotation. -/
def unlistedReboot : List LogEvent :=
  [blockZero 1, .observe false 1 systemTime 1000, .observe true 0 systemTime 60000, blockZero 0,
    .fork true 0]

/-- The log of the first boot is truncated. -/
theorem unlistedReboot_overwrites :
    (after 5000 7 unlistedReboot).overwritten = [⟨5000, 7, 1⟩] ∧
      (after 5000 7 unlistedReboot).bins = [⟨5000, 7, 1⟩] := by
  decide +kernel

end LogStore

end SupportProxy
