import SupportProxy.Binlog.Writer
import SupportProxy.Library.Binary32
import Mathlib.Data.List.Sort

/-! # What one cleanup removes

`cleanup_for_port2` on the directory of a port pair, with every `stat`, `opendir` and
`unlink` succeeding and nobody else at work on the files: `retention_pass` walks the date
directories, `enforce_port2_quota` sorts the session files that are left and deletes from
the oldest on. `rmdir` fails on a directory that is not empty. Directories list their
entries in the order of `readdir`. -/

namespace SupportProxy.LogTree

open Binary32

abbrev Name := List UInt8

/-- An entry of a date directory with its `st_size` and `st_mtime`. -/
structure FileEntry where
  name : Name
  size : Nat
  mtime : Int
deriving DecidableEq

inductive Node
  | directory (entries : List FileEntry)
  | other
deriving DecidableEq

/-- An entry of `logs/<port2>`. -/
structure PortEntry where
  name : Name
  node : Node
deriving DecidableEq

/-- An `Item` of `enforce_port2_quota`. -/
structure Item where
  directory : Name
  file : FileEntry
deriving DecidableEq

def Item.path (item : Item) : Name × Name := (item.directory, item.file.name)

def Item.size (item : Item) : Nat := item.file.size

def Item.mtime (item : Item) : Int := item.file.mtime

/-- `d_name[0] == '.'` -/
def isHidden (name : Name) : Bool := name.head? == some 0x2E

/-- `.tlog` -/
def tlogExtension : Name := [0x2E, 0x74, 0x6C, 0x6F, 0x67]

/-- `.bin` -/
def binExtension : Name := [0x2E, 0x62, 0x69, 0x6E]

/-- `is_session_file` -/
def isSessionFile (name : Name) : Bool :=
  (decide (5 < name.length) && name.drop (name.length - 5) == tlogExtension) ||
    (decide (4 < name.length) && name.drop (name.length - 4) == binExtension)

/-- `retention_days <= 0.0`, false for a NaN -/
def keepsForever (retention : Number) : Bool := retention.isZero || retention.isNegative

/-- `double(now - fst.st_mtime) > retention_days * 86400.0`. Both sides are exact: an age has
less than 2^53 seconds, and a retention is a single precision number. -/
def isAged (retention : Number) (now : Int) (file : FileEntry) : Bool :=
  retention.scaledLt 86400 (now - file.mtime)

/-- The inner loop of `retention_pass`: the entries left and `remaining`. -/
def retentionFiles (retention : Number) (now : Int) : List FileEntry → List FileEntry × Nat
  | [] => ([], 0)
  | file :: rest =>
      let (left, remaining) := retentionFiles retention now rest
      if isHidden file.name then (file :: left, remaining)
      else if isSessionFile file.name && isAged retention now file then (left, remaining)
      else (file :: left, remaining + 1)

/-- The body of the outer loop, none for a directory that `rmdir` has removed. -/
def retentionEntry (retention : Number) (now : Int) (entry : PortEntry) : Option PortEntry :=
  match entry.node with
  | .other => some entry
  | .directory entries =>
      if isHidden entry.name then some entry
      else
        let (left, remaining) := retentionFiles retention now entries
        if remaining = 0 ∧ left = [] then none
        else some { entry with node := .directory left }

/-- `retention_pass` -/
def retentionPass (retention : Number) (now : Int) (tree : List PortEntry) : List PortEntry :=
  if keepsForever retention then tree else tree.filterMap (retentionEntry retention now)

/-- The items that a directory adds to `items`. -/
def PortEntry.items (entry : PortEntry) : List Item :=
  match entry.node with
  | .other => []
  | .directory entries =>
      if isHidden entry.name then []
      else (entries.filter fun file => !isHidden file.name && isSessionFile file.name).map
        (Item.mk entry.name)

/-- `unlink(it.path)` -/
def unlink (item : Item) (tree : List PortEntry) : List PortEntry :=
  tree.map fun entry =>
    match entry.node with
    | .other => entry
    | .directory entries =>
        if entry.name = item.directory then
          { entry with node := .directory (entries.filter (·.name != item.file.name)) }
        else entry

/-- `rmdir(it.date_dir)` -/
def rmdir (name : Name) (tree : List PortEntry) : List PortEntry :=
  tree.filter fun entry => !(entry.name == name && entry.node == .directory [])

def totalSize (items : List Item) : Nat := (items.map Item.size).sum

/-- The loop over the sorted items. -/
def deleteOldest : List Item → Nat → List PortEntry → List PortEntry
  | [], _, tree => tree
  | item :: rest, total, tree =>
      if total ≤ maxPerPort2Bytes then tree
      else deleteOldest rest (total - item.size) (rmdir item.directory (unlink item tree))

/-- What `std::sort` promises: it may order files of the same age in any way. -/
structure Sorter where
  sort : List Item → List Item
  perm : ∀ items, (sort items).Perm items
  sorted : ∀ items, (sort items).Pairwise fun first second => first.mtime ≤ second.mtime

/-- `enforce_port2_quota` -/
def enforcePort2Quota (sorter : Sorter) (tree : List PortEntry) : List PortEntry :=
  let items := tree.flatMap PortEntry.items
  if totalSize items ≤ maxPerPort2Bytes then tree
  else deleteOldest (sorter.sort items) (totalSize items) tree

/-- `cleanup_for_port2` -/
def cleanupForPort2 (sorter : Sorter) (retention : Number) (now : Int)
    (tree : List PortEntry) : List PortEntry :=
  enforcePort2Quota sorter (retentionPass retention now tree)

/-- All entries of a directory, hidden ones too. -/
def PortEntry.files (entry : PortEntry) : List Item :=
  match entry.node with
  | .other => []
  | .directory entries => entries.map (Item.mk entry.name)

/-- All entries of all directories. -/
def files (tree : List PortEntry) : List Item := tree.flatMap PortEntry.files

/-- A session file that is not hidden, in a directory that is not. -/
def Item.isSession (item : Item) : Bool :=
  !isHidden item.directory && (!isHidden item.file.name && isSessionFile item.file.name)

/-- A positive number of days, and the item is older. -/
def OlderThan (retention : Number) (now : Int) (item : Item) : Prop :=
  ∃ days : ℚ, retention.value = some days ∧ 0 < days ∧ days * 86400 < ((now - item.mtime : Int) : ℚ)

/-- A finite retention keeps files for a time just when it is positive. -/
theorem positive_iff (negative : Bool) (mantissa : Nat) (exponent : Int) :
    keepsForever (.finite negative mantissa exponent) = false ↔
      (0 : ℚ) < (if negative then -(mantissa : ℚ) else mantissa) * 2 ^ exponent := by
  have power : (0 : ℚ) < 2 ^ exponent := zpow_pos zero_lt_two exponent
  rw [mul_pos_iff_of_pos_right power, keepsForever, Number.isZero, Number.isNegative]
  cases negative with
  | true => simp
  | false => simp [pos_iff_ne_zero]

/-- The test of the first pass is the one of the real numbers. -/
theorem isAged_iff {retention : Number} (positive : keepsForever retention = false) (now : Int)
    (item : Item) : isAged retention now item.file = true ↔ OlderThan retention now item := by
  rw [isAged, OlderThan]
  cases retention with
  | finite negative mantissa exponent =>
      rw [Number.scaledLt_finite]
      simp only [Number.value, Option.some.injEq, exists_eq_left']
      rw [← positive_iff, and_iff_right positive]
      rfl
  | infinite negative =>
      have plus : negative = false := positive
      simp only [plus, Number.scaledLt, Number.value, Bool.false_eq_true, reduceCtorEq, false_and,
        exists_false]
  | nan payload =>
      simp only [Number.scaledLt, Number.value, Bool.false_eq_true, reduceCtorEq, false_and,
        exists_false]

/-- What the first pass removes. -/
def isOld (retention : Number) (now : Int) (item : Item) : Bool :=
  !keepsForever retention && isAged retention now item.file

/-- The first pass removes what is older than the retention. -/
theorem isOld_iff (retention : Number) (now : Int) (item : Item) :
    isOld retention now item = true ↔ OlderThan retention now item := by
  rw [isOld]
  cases forever : keepsForever retention with
  | false =>
      rw [Bool.not_false, Bool.true_and]
      exact isAged_iff forever now item
  | true =>
      rw [Bool.not_true, Bool.false_and]
      refine iff_of_false Bool.false_ne_true ?_
      rintro ⟨days, valued, positive, -⟩
      cases retention with
      | finite negative mantissa exponent =>
          rw [Number.value, Option.some.injEq] at valued
          rw [← valued, ← positive_iff, forever] at positive
          cases positive
      | infinite negative => cases valued
      | nan payload => cases valued

instance (retention : Number) (now : Int) (item : Item) :
    Decidable (OlderThan retention now item) :=
  decidable_of_iff _ (isOld_iff retention now item)

/-- A directory that the worker looks into. -/
def PortEntry.isDateDirectory (entry : PortEntry) : Bool :=
  !isHidden entry.name && entry.node != .other

private theorem retentionFiles_left (retention : Number) (now : Int) (entries : List FileEntry) :
    (retentionFiles retention now entries).1 = entries.filter fun file =>
      !(!isHidden file.name && isSessionFile file.name && isAged retention now file) := by
  induction entries with
  | nil => rfl
  | cons file rest ih =>
      rw [retentionFiles, List.filter_cons, ← ih]
      dsimp only
      cases isHidden file.name with
      | true => rfl
      | false =>
          rw [Bool.not_false, Bool.true_and]
          cases isSessionFile file.name && isAged retention now file <;> rfl

private theorem retentionEntry_files (retention : Number) (now : Int) (entry : PortEntry) :
    (retentionEntry retention now entry).elim [] PortEntry.files =
      entry.files.filter fun item => !(item.isSession && isAged retention now item.file) := by
  obtain ⟨name, node⟩ := entry
  cases node with
  | other => rfl
  | directory entries =>
      rw [retentionEntry, PortEntry.files]
      dsimp only
      rw [List.filter_map]
      cases hidden : isHidden name with
      | true =>
          have all : entries.filter ((fun item : Item =>
              !(item.isSession && isAged retention now item.file)) ∘ Item.mk name) = entries := by
            rw [List.filter_eq_self]
            intro file _
            simp [Item.isSession, hidden]
          rw [if_pos rfl, all]
          rfl
      | false =>
          have left : entries.filter ((fun item : Item =>
              !(item.isSession && isAged retention now item.file)) ∘ Item.mk name) =
                (retentionFiles retention now entries).1 := by
            rw [retentionFiles_left]
            refine List.filter_congr fun file _ => ?_
            simp [Item.isSession, hidden]
          rw [if_neg Bool.false_ne_true, left]
          by_cases gone : (retentionFiles retention now entries).2 = 0 ∧
              (retentionFiles retention now entries).1 = []
          · rw [if_pos gone, gone.2]
            rfl
          · rw [if_neg gone]
            rfl

/-- The first pass leaves every entry that is not an old session file. -/
theorem retentionPass_files (retention : Number) (now : Int) (tree : List PortEntry) :
    files (retentionPass retention now tree) =
      (files tree).filter fun item => !(item.isSession && isOld retention now item) := by
  rw [retentionPass]
  cases forever : keepsForever retention with
  | true =>
      rw [if_pos rfl, eq_comm, List.filter_eq_self]
      intro item _
      rw [isOld, forever, Bool.not_true, Bool.false_and, Bool.and_false, Bool.not_false]
  | false =>
      rw [if_neg Bool.false_ne_true, files, files, List.filter_flatMap]
      simp only [isOld, forever, Bool.not_false, Bool.true_and, ← retentionEntry_files]
      induction tree with
      | nil => rfl
      | cons entry rest ih =>
          rw [List.filterMap_cons, List.flatMap_cons, ← ih]
          cases retentionEntry retention now entry <;> rfl

private theorem retentionEntry_name {retention : Number} {now : Int} {entry left : PortEntry}
    (kept : retentionEntry retention now entry = some left) :
    left.name = entry.name ∧ left.isDateDirectory = entry.isDateDirectory := by
  obtain ⟨name, node⟩ := entry
  cases node with
  | other =>
      obtain rfl := Option.some.inj kept
      exact ⟨rfl, rfl⟩
  | directory entries =>
      rw [retentionEntry] at kept
      dsimp only at kept
      split_ifs at kept with hidden gone
      · obtain rfl := Option.some.inj kept
        exact ⟨rfl, rfl⟩
      · obtain rfl := Option.some.inj kept
        exact ⟨rfl, rfl⟩

/-- The first pass looks into date directories only. -/
theorem retentionEntry_other (retention : Number) (now : Int) {entry : PortEntry}
    (other : entry.isDateDirectory = false) : retentionEntry retention now entry = some entry := by
  obtain ⟨name, node⟩ := entry
  cases node with
  | other => rfl
  | directory entries =>
      have hidden : isHidden name = true := by
        simpa [PortEntry.isDateDirectory] using other
      rw [retentionEntry]
      dsimp only
      rw [if_pos hidden]

/-- A part of the tree: the same entries that are no date directories, and some of the
directories. -/
structure Within (tree next : List PortEntry) : Prop where
  names : (next.map PortEntry.name).Sublist (tree.map PortEntry.name)
  others : next.filter (!·.isDateDirectory) = tree.filter (!·.isDateDirectory)

/-- A tree is part of itself. -/
theorem Within.refl (tree : List PortEntry) : Within tree tree := ⟨.refl _, rfl⟩

/-- A part of a part of the tree. -/
theorem Within.trans {first middle last : List PortEntry} (early : Within first middle)
    (late : Within middle last) : Within first last :=
  ⟨late.names.trans early.names, late.others.trans early.others⟩

/-- The first pass leaves a part of the tree. -/
theorem retentionPass_within (retention : Number) (now : Int) (tree : List PortEntry) :
    Within tree (retentionPass retention now tree) := by
  rw [retentionPass]
  by_cases forever : keepsForever retention = true
  · rw [if_pos forever]
    exact .refl tree
  rw [if_neg forever]
  induction tree with
  | nil => exact .refl []
  | cons entry rest ih =>
      rw [List.filterMap_cons]
      cases kept : retentionEntry retention now entry with
      | none =>
          have date : entry.isDateDirectory = true := by
            by_contra other
            rw [retentionEntry_other retention now (Bool.not_eq_true _ ▸ other)] at kept
            cases kept
          refine ⟨ih.names.trans (List.sublist_cons_self _ _), ?_⟩
          rw [List.filter_cons_of_neg (by rw [date]; decide)]
          exact ih.others
      | some left =>
          obtain ⟨name, same⟩ := retentionEntry_name kept
          refine ⟨?_, ?_⟩
          · rw [List.map_cons, List.map_cons, name]
            exact ih.names.cons_cons _
          · dsimp only
            rw [List.filter_cons, List.filter_cons, same, ih.others]
            by_cases date : entry.isDateDirectory = true
            · rw [date]
              rfl
            · have whole := retentionEntry_other retention now (Bool.not_eq_true _ ▸ date)
              obtain rfl := Option.some.inj (kept.symm.trans whole)
              rfl

private theorem unlink_files (item : Item) (tree : List PortEntry) :
    files (unlink item tree) =
      (files tree).filter fun other => decide (other.path ≠ item.path) := by
  rw [files, files, unlink, List.flatMap_map, List.filter_flatMap]
  refine List.flatMap_congr fun entry _ => ?_
  obtain ⟨name, node⟩ := entry
  cases node with
  | other => rfl
  | directory entries =>
      dsimp only
      by_cases own : name = item.directory
      · rw [if_pos own, PortEntry.files, PortEntry.files]
        dsimp only
        rw [List.filter_map]
        refine congrArg (List.map _) (List.filter_congr fun file _ => ?_)
        have same : (Item.mk name file).path = item.path ↔ file.name = item.file.name := by
          simp [Item.path, own]
        change (file.name != item.file.name) = decide ((Item.mk name file).path ≠ item.path)
        rw [Bool.eq_iff_iff, bne_iff_ne, decide_eq_true_iff, ne_eq, ne_eq, same]
      · rw [if_neg own, eq_comm, List.filter_eq_self]
        intro other member
        obtain ⟨file, -, rfl⟩ := List.mem_map.mp member
        rw [decide_eq_true_iff]
        exact fun same => own (congrArg Prod.fst same)

private theorem rmdir_files (name : Name) (tree : List PortEntry) :
    files (rmdir name tree) = files tree := by
  induction tree with
  | nil => rfl
  | cons entry rest ih =>
      rw [rmdir] at ih ⊢
      rw [List.filter_cons]
      by_cases kept : (!(entry.name == name && entry.node == .directory [])) = true
      · rw [if_pos kept, files, List.flatMap_cons, ← files, ih]
        rfl
      · rw [if_neg kept, ih]
        obtain ⟨other, node⟩ := entry
        have empty : node = .directory [] := by
          rw [Bool.not_eq_true, Bool.not_eq_false', Bool.and_eq_true] at kept
          exact eq_of_beq kept.2
        rw [empty]
        rfl

private theorem unlink_within {item : Item} (visible : isHidden item.directory = false)
    (tree : List PortEntry) : Within tree (unlink item tree) := by
  induction tree with
  | nil => exact .refl []
  | cons entry rest ih =>
      obtain ⟨name, node⟩ := entry
      rw [unlink] at ih ⊢
      rw [List.map_cons]
      cases node with
      | other =>
          refine ⟨ih.names.cons_cons _, ?_⟩
          dsimp only
          rw [List.filter_cons, List.filter_cons, ih.others]
      | directory entries =>
          dsimp only
          by_cases own : name = item.directory
          · rw [if_pos own]
            have date : ∀ left, PortEntry.isDateDirectory ⟨name, .directory left⟩ = true := by
              intro left
              rw [PortEntry.isDateDirectory, own, visible]
              rfl
            refine ⟨ih.names.cons_cons _, ?_⟩
            rw [List.filter_cons_of_neg (by rw [date]; decide),
              List.filter_cons_of_neg (by rw [date]; decide)]
            exact ih.others
          · rw [if_neg own]
            refine ⟨ih.names.cons_cons _, ?_⟩
            rw [List.filter_cons, List.filter_cons, ih.others]

private theorem rmdir_within {name : Name} (visible : isHidden name = false)
    (tree : List PortEntry) :
    Within tree (rmdir name tree) := by
  refine ⟨(List.filter_sublist).map _, ?_⟩
  rw [rmdir, List.filter_filter]
  refine List.filter_congr fun entry _ => ?_
  by_cases gone : (entry.name == name && entry.node == .directory []) = true
  · rw [Bool.and_eq_true] at gone
    have date : entry.isDateDirectory = true := by
      rw [PortEntry.isDateDirectory, eq_of_beq gone.1, visible, eq_of_beq gone.2]
      rfl
    rw [date]
    rfl
  · rw [Bool.not_eq_true] at gone
    rw [gone, Bool.not_false, Bool.and_true]

/-- The total with one more item. -/
theorem totalSize_cons (item : Item) (rest : List Item) :
    totalSize (item :: rest) = item.size + totalSize rest := List.sum_cons

/-- The order makes no difference to the total. -/
theorem totalSize_perm {items order : List Item} (perm : order.Perm items) :
    totalSize order = totalSize items := (perm.map Item.size).sum_eq

/-- The loop deletes the shortest prefix of its queue that leaves no more than the quota. -/
theorem deleteOldest_prefix {queue : List Item}
    (visible : ∀ item ∈ queue, isHidden item.directory = false) (tree : List PortEntry) :
    ∃ removed kept, queue = removed ++ kept ∧ totalSize kept ≤ maxPerPort2Bytes ∧
      (∀ count < removed.length, maxPerPort2Bytes < totalSize (queue.drop count)) ∧
      files (deleteOldest queue (totalSize queue) tree) =
        (files tree).filter (fun item => decide (item.path ∉ removed.map Item.path)) ∧
      Within tree (deleteOldest queue (totalSize queue) tree) := by
  induction queue generalizing tree with
  | nil =>
      refine ⟨[], [], rfl, Nat.zero_le _, fun count below => (Nat.not_lt_zero _ below).elim, ?_,
        .refl tree⟩
      change files tree = _
      rw [eq_comm, List.filter_eq_self]
      exact fun item _ => decide_eq_true List.not_mem_nil
  | cons item rest ih =>
      rw [deleteOldest]
      by_cases fits : totalSize (item :: rest) ≤ maxPerPort2Bytes
      · rw [if_pos fits]
        refine ⟨[], item :: rest, rfl, fits, fun count below => (Nat.not_lt_zero _ below).elim, ?_,
          .refl tree⟩
        rw [eq_comm, List.filter_eq_self]
        exact fun item _ => decide_eq_true List.not_mem_nil
      · rw [if_neg fits]
        have less : totalSize (item :: rest) - item.size = totalSize rest := by
          rw [totalSize_cons, Nat.add_sub_cancel_left]
        have own := visible item List.mem_cons_self
        obtain ⟨removed, kept, rfl, room, shortest, left, within⟩ :=
          ih (fun other member => visible other (List.mem_cons_of_mem _ member))
            (rmdir item.directory (unlink item tree))
        rw [less]
        refine ⟨item :: removed, kept, rfl, room, ?_, ?_, ?_⟩
        · intro count below
          cases count with
          | zero => exact Nat.not_le.mp fits
          | succ count => exact shortest count (Nat.lt_of_succ_lt_succ below)
        · rw [left, rmdir_files, unlink_files, List.filter_filter]
          refine List.filter_congr fun other _ => ?_
          rw [List.map_cons, Bool.eq_iff_iff, Bool.and_eq_true, decide_eq_true_iff,
            decide_eq_true_iff, decide_eq_true_iff, List.mem_cons, not_or, and_comm]
        · exact ((unlink_within own tree).trans (rmdir_within own _)).trans within

/-- The files of an entry are in its directory. -/
theorem directory_of_mem {entry : PortEntry} {item : Item} (member : item ∈ entry.files) :
    item.directory = entry.name := by
  obtain ⟨name, node⟩ := entry
  cases node with
  | other => exact (List.not_mem_nil member).elim
  | directory entries =>
      obtain ⟨file, -, rfl⟩ := List.mem_map.mp member
      rfl

/-- The items of the quota are the session files. -/
theorem items_eq (tree : List PortEntry) :
    tree.flatMap PortEntry.items = (files tree).filter Item.isSession := by
  rw [files, List.filter_flatMap]
  refine List.flatMap_congr fun entry _ => ?_
  obtain ⟨name, node⟩ := entry
  cases node with
  | other => rfl
  | directory entries =>
      rw [PortEntry.items, PortEntry.files]
      dsimp only
      rw [List.filter_map]
      cases hidden : isHidden name with
      | true =>
          have none : entries.filter (Item.isSession ∘ Item.mk name) = [] := by
            rw [List.filter_eq_nil_iff]
            intro file _
            simp [Item.isSession, hidden]
          rw [if_pos rfl, none]
          rfl
      | false =>
          rw [if_neg Bool.false_ne_true]
          refine congrArg (List.map _) (List.filter_congr fun file _ => ?_)
          simp [Item.isSession, hidden]

/-- `enforce_port2_quota` is its loop, which stops at once where nothing has to go. -/
theorem enforcePort2Quota_eq (sorter : Sorter) (tree : List PortEntry) :
    enforcePort2Quota sorter tree =
      let queue := sorter.sort (tree.flatMap PortEntry.items)
      deleteOldest queue (totalSize queue) tree := by
  have total := totalSize_perm (sorter.perm (tree.flatMap PortEntry.items))
  rw [enforcePort2Quota]
  dsimp only
  rw [total]
  by_cases fits : totalSize (tree.flatMap PortEntry.items) ≤ maxPerPort2Bytes
  · rw [if_pos fits]
    cases sorter.sort (tree.flatMap PortEntry.items) with
    | nil => rfl
    | cons item rest => rw [deleteOldest, if_pos fits]
  · rw [if_neg fits]

/-- **One cleanup removes exactly what it must**: the old session files and then the shortest
prefix of the others, oldest first, that brings their total within the quota. A directory
goes only when all that was in it has gone, and what is no date directory stays as it is. -/
theorem cleanup_exact (sorter : Sorter) (retention : Number) (now : Int)
    (tree : List PortEntry) :
    let next := cleanupForPort2 sorter retention now tree
    let left := (files tree).filter fun item =>
      decide ¬(item.isSession = true ∧ OlderThan retention now item)
    ∃ removed kept,
      (removed ++ kept).Perm (left.filter Item.isSession) ∧
      (removed ++ kept).Pairwise (fun first second => first.mtime ≤ second.mtime) ∧
      totalSize kept ≤ maxPerPort2Bytes ∧
      (∀ count < removed.length, maxPerPort2Bytes < totalSize ((removed ++ kept).drop count)) ∧
      files next = left.filter (fun item => decide (item.path ∉ removed.map Item.path)) ∧
      (∀ entry ∈ tree, entry.name ∉ next.map PortEntry.name → ∀ item ∈ entry.files,
        item.isSession = true ∧ OlderThan retention now item ∨ item.path ∈ removed.map Item.path) ∧
      Within tree next := by
  have first := retentionPass_files retention now tree
  have within := retentionPass_within retention now tree
  have old : (files tree).filter (fun item => !(item.isSession && isOld retention now item)) =
      (files tree).filter fun item =>
        decide ¬(item.isSession = true ∧ OlderThan retention now item) := by
    refine List.filter_congr fun item _ => ?_
    rw [Bool.eq_iff_iff, decide_eq_true_iff, ← isOld_iff, Bool.not_eq_true', ← Bool.and_eq_true,
      Bool.not_eq_true]
  rw [old] at first
  dsimp only
  rw [cleanupForPort2, enforcePort2Quota_eq]
  dsimp only
  rw [items_eq, first]
  generalize retentionPass retention now tree = aged at first within ⊢
  generalize lefts : (files tree).filter (fun item =>
    decide ¬(item.isSession = true ∧ OlderThan retention now item)) = left at first
  have perm := sorter.perm (left.filter Item.isSession)
  have sorted := sorter.sorted (left.filter Item.isSession)
  generalize sorter.sort (left.filter Item.isSession) = queue at perm sorted
  have visible : ∀ item ∈ queue, isHidden item.directory = false := by
    intro item member
    have session := (List.mem_filter.mp (perm.mem_iff.mp member)).2
    rw [Item.isSession, Bool.and_eq_true, Bool.not_eq_true'] at session
    exact session.1
  obtain ⟨removed, kept, rfl, room, shortest, gone, later⟩ := deleteOldest_prefix visible aged
  rw [first] at gone
  refine ⟨removed, kept, perm, sorted, room, shortest, gone, ?_, within.trans later⟩
  intro entry member missing item isItem
  by_contra spared
  obtain ⟨young, unlisted⟩ := not_or.mp spared
  have inTree : item ∈ files tree := List.mem_flatMap.mpr ⟨entry, member, isItem⟩
  have inLeft : item ∈ left := by
    rw [← lefts]
    exact List.mem_filter.mpr ⟨inTree, decide_eq_true young⟩
  have stays :
      item ∈ files (deleteOldest (removed ++ kept) (totalSize (removed ++ kept)) aged) := by
    rw [gone]
    exact List.mem_filter.mpr ⟨inLeft, decide_eq_true unlisted⟩
  obtain ⟨holder, present, held⟩ := List.mem_flatMap.mp stays
  refine missing (List.mem_map.mpr ⟨holder, present, ?_⟩)
  rw [← directory_of_mem held, directory_of_mem isItem]

/-- A sort that keeps the order of files of the same age. -/
def stableSorter : Sorter where
  sort := List.insertionSort fun first second => first.mtime ≤ second.mtime
  perm := List.perm_insertionSort _
  sorted := List.pairwise_insertionSort _

end SupportProxy.LogTree
