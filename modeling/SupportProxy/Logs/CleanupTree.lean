import SupportProxy.Keydb.Readers
import SupportProxy.Logs.CleanupPass
import Mathlib.Algebra.Order.BigOperators.Group.List

/-! # The cleanup of all port pairs

`log_cleanup_once` on the whole of `logs/`: the records of keys.tdb say which directories are
cleaned up and with which retention. `log_cleanup_loop` does so again and again, and between
two passes the children write their files and the database is edited. -/

namespace SupportProxy.LogTree

open Keydb

/-- `logs/<port2>` for each port2 -/
abbrev Tree := Int → List PortEntry

/-- `double(k.log_retention_days)` -/
def retentionOf (data : List UInt8) : Binary32.Number :=
  Binary32.decode (Field.logRetentionDays.unsigned data)

/-- `traverse_cb` -/
def traverseCb (sorter : Sorter) (now : Int) (tree : Tree) (record : List UInt8 × List UInt8) :
    Tree :=
  if record.1.length ≠ 4 ∨ record.2.length < minSize then tree
  else if portOf record.1 ≤ 0 then tree
  else if Field.magic.unsigned record.2 ≠ magicValue then tree
  else Function.update tree (portOf record.1)
    (cleanupForPort2 sorter (retentionOf record.2) now (tree (portOf record.1)))

/-- `log_cleanup_once` -/
def logCleanupOnce (sorter : Sorter) (db : Database) (now : Int) (tree : Tree) : Tree :=
  db.records.foldl (traverseCb sorter now) tree

/-- The entries of a date directory once a file of it has been written. -/
def storeFile (file : FileEntry) : List FileEntry → List FileEntry
  | [] => [file]
  | other :: rest => if other.name = file.name then file :: rest else other :: storeFile file rest

/-- `logs/<port2>` once a file of a date directory has been written. A path with a component that
is no directory cannot be opened. -/
def storeEntry (directory : Name) (file : FileEntry) : List PortEntry → List PortEntry
  | [] => [⟨directory, .directory [file]⟩]
  | entry :: rest =>
      if entry.name = directory then
        match entry.node with
        | .other => entry :: rest
        | .directory entries => { entry with node := .directory (storeFile file entries) } :: rest
      else entry :: storeEntry directory file rest

/-- What happens to `logs/`. -/
inductive TreeEvent
  /-- a pass over the records that are in the database by then -/
  | pass (db : Database) (now : Int)
  /-- a child has created a file or has written to one -/
  | store (port2 : Int) (directory : Name) (file : FileEntry)

def TreeEvent.apply (sorter : Sorter) : TreeEvent → Tree → Tree
  | .pass db now, tree => logCleanupOnce sorter db now tree
  | .store port2 directory file, tree =>
      Function.update tree port2 (storeEntry directory file (tree port2))

abbrev after (sorter : Sorter) (start : Tree) (history : List TreeEvent) : Tree :=
  History.replay (TreeEvent.apply sorter) start history

/-- The record that a pass over the database takes the retention of a directory from. -/
def listed (db : Database) (port2 : Int) : Option (List UInt8) :=
  if 0 < port2 then db.loadKey port2 else none

/-- All session files. -/
def sessions (tree : List PortEntry) : List Item := (files tree).filter Item.isSession

/-- The size of the file, zero for one that does not exist. -/
def sizeOf (tree : List PortEntry) (path : Name × Name) : Nat :=
  ((files tree).find? fun item => decide (item.path = path)).elim 0 Item.size

/-- How much the files of a port pair have grown since the last pass that cleaned them up. -/
def unswept (sorter : Sorter) (start : Tree) (port2 : Int) : List TreeEvent → Nat
  | [] => totalSize (sessions (start port2))
  | .pass db _ :: before =>
      if (listed db port2).isSome then 0 else unswept sorter start port2 before
  | .store other directory file :: before =>
      if other = port2 then
        unswept sorter start port2 before +
          (file.size - sizeOf (after sorter start before port2) (directory, file.name))
      else unswept sorter start port2 before

/-- No two entries of a directory have the same name. -/
structure WellFormed (tree : List PortEntry) : Prop where
  directories : (tree.map PortEntry.name).Nodup
  files : ((files tree).map Item.path).Nodup

/-- What a pass makes of a directory, given its record. -/
structure Sweeps (now : Int) (record : Option (List UInt8)) (tree next : List PortEntry) :
    Prop where
  unlisted : record = none → next = tree
  /-- A file goes when it is old, or when it and the newer files do not fit in the quota. -/
  removed : ∀ item ∈ files tree, item ∉ files next → ∃ data, record = some data ∧
    item.isSession = true ∧ (OlderThan (retentionOf data) now item ∨ maxPerPort2Bytes <
      totalSize ((sessions tree).filter fun other =>
        decide (¬ OlderThan (retentionOf data) now other ∧ item.mtime ≤ other.mtime)))
  left : (files next).Sublist (files tree)
  young : ∀ data, record = some data → ∀ item ∈ sessions next,
    ¬ OlderThan (retentionOf data) now item
  fits : record.isSome = true → totalSize (sessions next) ≤ maxPerPort2Bytes
  within : Within tree next

section Pass

variable {sorter : Sorter} {now : Int}

/-- `traverse_cb` goes on with the record, and the directory is its own. -/
def Covers (port2 : Int) (record : List UInt8 × List UInt8) : Prop :=
  record.1.length = 4 ∧ Readable record.2 ∧ 0 < portOf record.1 ∧ portOf record.1 = port2

private theorem traverseCb_covered {port2 : Int} {record : List UInt8 × List UInt8}
    (covers : Covers port2 record) (tree : Tree) :
    traverseCb sorter now tree record port2 =
      cleanupForPort2 sorter (retentionOf record.2) now (tree port2) := by
  obtain ⟨four, ⟨big, magic⟩, positive, rfl⟩ := covers
  rw [traverseCb, if_neg (by omega), if_neg (Int.not_le.mpr positive), if_neg (not_not.mpr magic),
    Function.update_self]

private theorem traverseCb_other {port2 : Int} {record : List UInt8 × List UInt8}
    (other : ¬ Covers port2 record) (tree : Tree) :
    traverseCb sorter now tree record port2 = tree port2 := by
  rw [traverseCb]
  split_ifs with sizes positive magic
  · rfl
  · rfl
  · rfl
  · refine Function.update_of_ne (fun same => other ?_) _ _
    obtain ⟨four, big⟩ := not_or.mp sizes
    exact ⟨not_not.mp four, ⟨Nat.not_lt.mp big, not_not.mp magic⟩, Int.not_le.mp positive,
      same.symm⟩

private theorem foldl_traverseCb_other {port2 : Int} {records : List (List UInt8 × List UInt8)}
    (others : ∀ record ∈ records, ¬ Covers port2 record) (tree : Tree) :
    records.foldl (traverseCb sorter now) tree port2 = tree port2 := by
  induction records generalizing tree with
  | nil => rfl
  | cons record rest ih =>
      rw [List.foldl_cons, ih fun other member => others other (List.mem_cons_of_mem _ member)]
      exact traverseCb_other (others record List.mem_cons_self) tree

/-- A directory that `db_load_key` knows nothing about is left alone. -/
theorem logCleanupOnce_unlisted {db : Database} {port2 : Int} (unlisted : listed db port2 = none)
    (tree : Tree) : logCleanupOnce sorter db now tree port2 = tree port2 := by
  refine foldl_traverseCb_other (fun record member covers => ?_) tree
  obtain ⟨four, readable, positive, rfl⟩ := covers
  have found : db.lookup record.1 = some record.2 := Database.mem_records.mp member
  rw [listed, if_pos positive, Database.loadKey_of_key (packInt_portOf four), found,
    Option.bind_some, dbLoadKey_eq_some.mpr ⟨readable, rfl⟩] at unlisted
  cases unlisted

/-- Each directory is cleaned up once, with the retention of the record that `db_load_key` loads. -/
theorem logCleanupOnce_listed {db : Database} {port2 : Int} {key : List UInt8}
    (known : listed db port2 = some key) (tree : Tree) :
    logCleanupOnce sorter db now tree port2 =
      cleanupForPort2 sorter (retentionOf key) now (tree port2) := by
  rw [listed] at known
  split_ifs at known with positive
  obtain ⟨name, packs, known⟩ := Option.bind_eq_some_iff.mp known
  obtain ⟨data, found, loads⟩ := Option.bind_eq_some_iff.mp known
  obtain ⟨readable, rfl⟩ := dbLoadKey_eq_some.mp loads
  have port : portOf name = port2 := portOf_packInt packs
  have covers : Covers port2 (name, data) :=
    ⟨packInt_length packs, readable, port.symm ▸ positive, port⟩
  have nodup := db.records_nodup
  obtain ⟨front, back, split⟩ := List.append_of_mem (Database.mem_records.mpr found)
  rw [logCleanupOnce, split, List.foldl_append, List.foldl_cons]
  rw [split, List.map_append, List.map_cons] at nodup
  have apart : ∀ record ∈ front ++ back, ¬ Covers port2 record := by
    intro record member ⟨four, _, _, same⟩
    have key_eq : record.1 = name :=
      portOf_injective four (packInt_length packs) (same.trans port.symm)
    rw [List.nodup_middle, List.nodup_cons, ← List.map_append] at nodup
    have again : record.1 ∈ (front ++ back).map Prod.fst := List.mem_map_of_mem member
    rw [key_eq] at again
    exact nodup.1 again
  rw [foldl_traverseCb_other fun record member => apart record (List.mem_append_right _ member),
    traverseCb_covered covers,
    foldl_traverseCb_other fun record member => apart record (List.mem_append_left _ member)]
  rw [retentionOf, retentionOf, Field.unsigned_extend]

private theorem not_old_iff {retention : Binary32.Number} {item : Item} :
    (!(item.isSession && isOld retention now item)) = true ↔
      (item.isSession = true → ¬ OlderThan retention now item) := by
  rw [Bool.not_eq_true', Bool.and_eq_false_iff, ← isOld_iff, Bool.not_eq_true]
  cases item.isSession <;> simp

/-- The files that both passes leave. -/
theorem cleanupForPort2_files (retention : Binary32.Number) (tree : List PortEntry) :
    ∃ removed kept : List Item,
      (removed ++ kept).Perm
        ((sessions tree).filter fun item => decide (¬ OlderThan retention now item)) ∧
      (removed ++ kept).Pairwise (fun first second => first.mtime ≤ second.mtime) ∧
      totalSize kept ≤ maxPerPort2Bytes ∧
      (∀ count < removed.length, maxPerPort2Bytes < totalSize ((removed ++ kept).drop count)) ∧
      files (cleanupForPort2 sorter retention now tree) =
        (files tree).filter (fun item => decide ((item.isSession = true →
          ¬ OlderThan retention now item) ∧ item.path ∉ removed.map Item.path)) ∧
      Within tree (cleanupForPort2 sorter retention now tree) := by
  have within := retentionPass_within retention now tree
  have first := retentionPass_files retention now tree
  rw [cleanupForPort2, enforcePort2Quota_eq]
  dsimp only
  generalize retentionPass retention now tree = aged at first within ⊢
  have items : aged.flatMap PortEntry.items =
      (sessions tree).filter fun item => decide (¬ OlderThan retention now item) := by
    rw [items_eq, first, sessions, List.filter_filter, List.filter_filter]
    refine List.filter_congr fun item _ => ?_
    rw [Bool.eq_iff_iff, Bool.and_eq_true, Bool.and_eq_true, decide_eq_true_iff, not_old_iff]
    tauto
  rw [items]
  generalize (sessions tree).filter (fun item => decide (¬ OlderThan retention now item)) = young
    at items ⊢
  have perm := sorter.perm young
  have sorted := sorter.sorted young
  generalize sorter.sort young = queue at perm sorted ⊢
  have visible : ∀ item ∈ queue, isHidden item.directory = false := by
    intro item member
    rw [perm.mem_iff, ← items, items_eq, List.mem_filter, Item.isSession, Bool.and_eq_true,
      Bool.not_eq_true'] at member
    exact member.2.1
  obtain ⟨removed, kept, rfl, room, shortest, gone, later⟩ := deleteOldest_prefix visible aged
  refine ⟨removed, kept, perm, sorted, room, shortest, ?_, within.trans later⟩
  rw [gone, first, List.filter_filter]
  refine List.filter_congr fun item _ => ?_
  rw [Bool.eq_iff_iff, Bool.and_eq_true, decide_eq_true_iff, decide_eq_true_iff, not_old_iff,
    and_comm]

private theorem totalSize_le_of_sublist {part whole : List Item} (sublist : part.Sublist whole) :
    totalSize part ≤ totalSize whole :=
  (sublist.map Item.size).sum_le_sum fun _ _ => Nat.zero_le _

/-- The items from one of a queue on are at least as new as it is. -/
theorem totalSize_drop_le {queue front back : List Item} {item : Item}
    (split : queue = front ++ item :: back)
    (sorted : queue.Pairwise fun first second => first.mtime ≤ second.mtime) :
    totalSize (queue.drop front.length) ≤
      totalSize (queue.filter fun other => decide (item.mtime ≤ other.mtime)) := by
  subst split
  rw [List.drop_left, List.filter_append]
  have behind := (List.pairwise_append.mp sorted).2.1
  have newer : (item :: back).filter (fun other => decide (item.mtime ≤ other.mtime)) =
      item :: back := by
    rw [List.filter_eq_self]
    intro other member
    rcases List.mem_cons.mp member with rfl | later
    · exact decide_eq_true le_rfl
    · exact decide_eq_true ((List.pairwise_cons.mp behind).1 other later)
  rw [newer]
  exact totalSize_le_of_sublist (List.sublist_append_right _ _)

private theorem cleanupForPort2_sweeps (data : List UInt8) {tree : List PortEntry}
    (formed : WellFormed tree) :
    Sweeps now (some data) tree (cleanupForPort2 sorter (retentionOf data) now tree) := by
  obtain ⟨removed, kept, perm, sorted, room, shortest, left, within⟩ :=
    @cleanupForPort2_files sorter now (retentionOf data) tree
  generalize cleanupForPort2 sorter (retentionOf data) now tree = next at left within
  have sublist : (files next).Sublist (files tree) := left ▸ List.filter_sublist
  have young : ∀ item ∈ sessions next, ¬ OlderThan (retentionOf data) now item := by
    intro item member
    obtain ⟨present, session⟩ := List.mem_filter.mp member
    rw [left, List.mem_filter, decide_eq_true_iff] at present
    exact present.2.1 session
  refine ⟨fun missing => ?_, ?_, sublist, ?_, ?_, within⟩
  · cases missing
  · intro item member gone
    refine ⟨data, rfl, ?_⟩
    by_cases old : item.isSession = true ∧ OlderThan (retentionOf data) now item
    · exact ⟨old.1, .inl old.2⟩
    rw [left, List.mem_filter, decide_eq_true_iff, not_and, not_and, not_not] at gone
    obtain ⟨other, unlinked, same⟩ :=
      List.mem_map.mp (gone member fun session aged => old ⟨session, aged⟩)
    have queued := List.mem_append_left kept unlinked
    obtain ⟨listed, -⟩ := List.mem_filter.mp (perm.mem_iff.mp queued)
    obtain ⟨present, session⟩ := List.mem_filter.mp listed
    obtain rfl : other = item := List.inj_on_of_nodup_map formed.files present member same
    obtain ⟨front, back, split⟩ := List.append_of_mem unlinked
    refine ⟨session, .inr ?_⟩
    have above := shortest front.length (by rw [split, List.length_append]; simp)
    have splitQueue : removed ++ kept = front ++ other :: (back ++ kept) := by
      rw [split, List.append_assoc, List.cons_append]
    have newer := totalSize_drop_le splitQueue sorted
    have whole := totalSize_perm (perm.filter fun item => decide (other.mtime ≤ item.mtime))
    rw [List.filter_filter] at whole
    rw [whole] at newer
    refine (above.trans_le newer).trans_eq (congrArg totalSize (List.filter_congr fun item _ => ?_))
    rw [Bool.eq_iff_iff, Bool.and_eq_true, decide_eq_true_iff, decide_eq_true_iff,
      decide_eq_true_iff, and_comm]
  · intro other same item member
    obtain rfl := Option.some.inj same
    exact young item member
  · intro _
    have stays : sessions next = ((sessions tree).filter fun item =>
        decide (¬ OlderThan (retentionOf data) now item)).filter fun item =>
          decide (item.path ∉ removed.map Item.path) := by
      rw [sessions, left, sessions, List.filter_filter, List.filter_filter, List.filter_filter]
      refine List.filter_congr fun item _ => ?_
      rw [Bool.eq_iff_iff, Bool.and_eq_true, Bool.and_eq_true, Bool.and_eq_true, decide_eq_true_iff,
        decide_eq_true_iff, decide_eq_true_iff]
      tauto
    have none_removed : removed.filter (fun item =>
        decide (item.path ∉ removed.map Item.path)) = [] := by
      rw [List.filter_eq_nil_iff]
      intro item member
      rw [decide_eq_true_iff, not_not]
      exact List.mem_map_of_mem member
    rw [stays, ← totalSize_perm (perm.filter _), List.filter_append, none_removed,
      List.nil_append]
    exact (totalSize_le_of_sublist List.filter_sublist).trans room

end Pass

section Store

variable {directory : Name} {file : FileEntry}

/-- A file of that name is replaced where it stands, or the file comes last. -/
theorem storeFile_split (file : FileEntry) (entries : List FileEntry) :
    ∃ front replaced back, entries = front ++ replaced ++ back ∧
      storeFile file entries = front ++ file :: back ∧
      (replaced = [] ∧ file.name ∉ entries.map FileEntry.name ∨
        ∃ old, replaced = [old] ∧ old.name = file.name) := by
  induction entries with
  | nil => exact ⟨[], [], [], rfl, rfl, .inl ⟨rfl, List.not_mem_nil⟩⟩
  | cons other rest ih =>
      rw [storeFile]
      by_cases same : other.name = file.name
      · rw [if_pos same]
        exact ⟨[], [other], rest, rfl, rfl, .inr ⟨other, rfl, same⟩⟩
      · rw [if_neg same]
        obtain ⟨front, replaced, back, split, stored, which⟩ := ih
        refine ⟨other :: front, replaced, back, by rw [split]; rfl, by rw [stored]; rfl,
          which.imp_left fun ⟨empty, fresh⟩ => ⟨empty, ?_⟩⟩
        rw [List.map_cons, List.mem_cons, not_or]
        exact ⟨Ne.symm same, fresh⟩

private theorem mem_paths {tree : List PortEntry} {path : Name × Name}
    (member : path ∈ (files tree).map Item.path) : path.1 ∈ tree.map PortEntry.name := by
  obtain ⟨item, present, rfl⟩ := List.mem_map.mp member
  obtain ⟨entry, listed, held⟩ := List.mem_flatMap.mp present
  exact List.mem_map.mpr ⟨entry, listed, (directory_of_mem held).symm⟩

/-- Nothing happens, or the file takes the place of the one with its path or a place of its own. -/
theorem storeEntry_split {tree : List PortEntry} (distinct : (tree.map PortEntry.name).Nodup) :
    storeEntry directory file tree = tree ∨ ∃ front replaced back,
      files tree = front ++ replaced ++ back ∧
      files (storeEntry directory file tree) = front ++ ⟨directory, file⟩ :: back ∧
      (replaced = [] ∧ (directory, file.name) ∉ (files tree).map Item.path ∨
        ∃ old, replaced = [⟨directory, old⟩] ∧ old.name = file.name) := by
  induction tree with
  | nil => exact .inr ⟨[], [], [], rfl, rfl, .inl ⟨rfl, List.not_mem_nil⟩⟩
  | cons entry rest ih =>
      rw [List.map_cons, List.nodup_cons] at distinct
      obtain ⟨name, node⟩ := entry
      rw [storeEntry]
      by_cases own : name = directory
      · subst own
        rw [if_pos rfl]
        cases node with
        | other => exact .inl rfl
        | directory entries =>
            refine .inr ?_
            obtain ⟨front, replaced, back, split, stored, which⟩ := storeFile_split file entries
            refine ⟨front.map (Item.mk name), replaced.map (Item.mk name),
              back.map (Item.mk name) ++ files rest, ?_, ?_, ?_⟩
            · change entries.map (Item.mk name) ++ files rest = _
              rw [split, List.map_append, List.map_append, List.append_assoc]
            · change (storeFile file entries).map (Item.mk name) ++ files rest = _
              rw [stored, List.map_append, List.map_cons, List.append_assoc, List.cons_append]
            · rcases which with ⟨rfl, fresh⟩ | ⟨old, rfl, same⟩
              · refine .inl ⟨rfl, fun taken => ?_⟩
                change _ ∈ (entries.map (Item.mk name) ++ files rest).map Item.path at taken
                rw [List.map_append, List.mem_append] at taken
                rcases taken with here | behind
                · rw [List.map_map, List.mem_map] at here
                  obtain ⟨other, member, same⟩ := here
                  exact fresh (List.mem_map.mpr ⟨other, member, congrArg Prod.snd same⟩)
                · exact distinct.1 (mem_paths behind)
              · exact .inr ⟨old, rfl, same⟩
      · rw [if_neg own]
        rcases ih distinct.2 with same | ⟨front, replaced, back, split, stored, which⟩
        · exact .inl (by rw [same])
        · refine .inr ⟨PortEntry.files ⟨name, node⟩ ++ front, replaced, back, ?_, ?_,
            which.imp_left fun ⟨empty, fresh⟩ => ⟨empty, fun taken => ?_⟩⟩
          · change _ ++ files rest = _
            rw [split, List.append_assoc, List.append_assoc, List.append_assoc]
          · change _ ++ files (storeEntry directory file rest) = _
            rw [stored, List.append_assoc]
          · change _ ∈ (PortEntry.files ⟨name, node⟩ ++ files rest).map Item.path at taken
            rw [List.map_append, List.mem_append] at taken
            rcases taken with here | behind
            · obtain ⟨item, member, same⟩ := List.mem_map.mp here
              exact own ((directory_of_mem member).symm.trans (congrArg Prod.fst same))
            · exact fresh behind

private theorem storeEntry_names (tree : List PortEntry) :
    (storeEntry directory file tree).map PortEntry.name = tree.map PortEntry.name ∨
      (storeEntry directory file tree).map PortEntry.name =
        tree.map PortEntry.name ++ [directory] ∧ directory ∉ tree.map PortEntry.name := by
  induction tree with
  | nil => exact .inr ⟨rfl, List.not_mem_nil⟩
  | cons entry rest ih =>
      obtain ⟨name, node⟩ := entry
      rw [storeEntry]
      by_cases own : name = directory
      · rw [if_pos own]
        cases node <;> exact .inl rfl
      · rw [if_neg own, List.map_cons, List.map_cons]
        rcases ih with same | ⟨longer, fresh⟩
        · exact .inl (by rw [same])
        · refine .inr ⟨by rw [longer, List.cons_append], ?_⟩
          rw [List.mem_cons, not_or]
          exact ⟨Ne.symm own, fresh⟩

private theorem WellFormed.store {tree : List PortEntry} (formed : WellFormed tree) :
    WellFormed (storeEntry directory file tree) := by
  refine ⟨?_, ?_⟩
  · rcases storeEntry_names tree with same | ⟨longer, fresh⟩
    · rw [same]
      exact formed.directories
    · rw [longer, List.nodup_append]
      refine ⟨formed.directories, List.nodup_singleton _, ?_⟩
      rintro name member _ last rfl
      exact fresh (List.mem_singleton.mp last ▸ member)
  · rcases storeEntry_split formed.directories with
      same | ⟨front, replaced, back, split, stored, which⟩
    · rw [same]
      exact formed.files
    · have paths := formed.files
      rw [stored, List.map_append, List.map_cons, List.nodup_middle, List.nodup_cons,
        ← List.map_append]
      rw [split] at paths which
      rcases which with ⟨rfl, fresh⟩ | ⟨old, rfl, same⟩
      · rw [List.append_nil] at paths fresh
        exact ⟨fresh, paths⟩
      · have path_eq : (Item.mk directory file).path = (Item.mk directory old).path := by
          rw [Item.path, Item.path, same]
        rw [List.append_assoc, List.singleton_append, List.map_append, List.map_cons,
          List.nodup_middle, List.nodup_cons, ← List.map_append, ← path_eq] at paths
        exact paths

private theorem sessions_middle (front back : List Item) (item : Item) :
    totalSize ((front ++ item :: back).filter Item.isSession) =
      totalSize ((front ++ back).filter Item.isSession) +
        if item.isSession = true then item.size else 0 := by
  have perm : (front ++ item :: back).Perm (item :: (front ++ back)) := List.perm_middle
  have moved := totalSize_perm (perm.filter Item.isSession)
  rw [moved]
  by_cases session : item.isSession = true
  · rw [List.filter_cons_of_pos session, totalSize_cons, if_pos session, Nat.add_comm]
  · rw [List.filter_cons_of_neg session, if_neg session, Nat.add_zero]

/-- A write adds what it makes the file grow. -/
theorem sessions_store {tree : List PortEntry} (formed : WellFormed tree) :
    totalSize (sessions (storeEntry directory file tree)) ≤
      totalSize (sessions tree) + (file.size - sizeOf tree (directory, file.name)) := by
  rcases storeEntry_split formed.directories with
    same | ⟨front, replaced, back, split, stored, which⟩
  · rw [same]
    exact Nat.le_add_right _ _
  rw [sessions, stored, sessions_middle, sessions, split]
  change _ + (if _ then file.size else 0) ≤ _
  rcases which with ⟨rfl, fresh⟩ | ⟨old, rfl, same⟩
  · have unknown : sizeOf tree (directory, file.name) = 0 := by
      have none : (files tree).find? (fun item => decide (item.path = (directory, file.name))) =
          none := by
        rw [List.find?_eq_none]
        intro item member found
        exact fresh (List.mem_map.mpr ⟨item, member, of_decide_eq_true found⟩)
      rw [sizeOf, none]
      rfl
    rw [unknown, List.append_nil, Nat.sub_zero]
    split_ifs <;> omega
  · have known : sizeOf tree (directory, file.name) = old.size := by
      have first : (files tree).find? (fun item => decide (item.path = (directory, file.name))) =
          some ⟨directory, old⟩ := by
        rw [List.find?_eq_some_iff_append]
        refine ⟨decide_eq_true (by rw [Item.path, same]), front, back, ?_, ?_⟩
        · rw [split, List.append_assoc, List.singleton_append]
        · intro item member
          have paths := formed.files
          rw [split, List.append_assoc, List.singleton_append, List.map_append, List.nodup_append]
            at paths
          rw [Bool.not_eq_true', decide_eq_false_iff_not]
          intro taken
          refine paths.2.2 _ (List.mem_map_of_mem member) _ List.mem_cons_self ?_
          rw [taken, Item.path, same]
      rw [sizeOf, first]
      rfl
    rw [known, List.append_assoc, List.singleton_append, sessions_middle]
    have alike : (Item.mk directory old).isSession = (Item.mk directory file).isSession := by
      rw [Item.isSession, Item.isSession, same]
    rw [alike]
    change _ ≤ _ + (if _ then old.size else 0) + _
    split_ifs <;> omega

end Store

section Run

variable {sorter : Sorter} {start : Tree}

private theorem logCleanupOnce_sweeps {tree : Tree} {port2 : Int} (formed : WellFormed (tree port2))
    (db : Database) (now : Int) :
    Sweeps now (listed db port2) (tree port2) (logCleanupOnce sorter db now tree port2) := by
  cases known : listed db port2 with
  | none =>
      rw [logCleanupOnce_unlisted known]
      refine ⟨fun _ => rfl, fun item member gone => absurd member gone, .refl _, ?_, ?_,
        .refl _⟩
      · intro data same
        cases same
      · intro present
        cases present
  | some key =>
      rw [logCleanupOnce_listed known]
      exact cleanupForPort2_sweeps key formed

private theorem Sweeps.wellFormed {now : Int} {record : Option (List UInt8)}
    {tree next : List PortEntry}
    (sweeps : Sweeps now record tree next) (formed : WellFormed tree) : WellFormed next :=
  ⟨formed.directories.sublist sweeps.within.names, formed.files.sublist (sweeps.left.map _)⟩

private theorem WellFormed.apply {tree : Tree} (formed : ∀ port2, WellFormed (tree port2))
    (event : TreeEvent) (port2 : Int) : WellFormed (event.apply sorter tree port2) := by
  cases event with
  | pass db now =>
      exact (logCleanupOnce_sweeps (formed port2) db now).wellFormed (formed port2)
  | store other directory file =>
      change WellFormed (Function.update tree other _ port2)
      by_cases own : port2 = other
      · subst own
        rw [Function.update_self]
        exact (formed port2).store
      · rw [Function.update_of_ne own]
        exact formed port2

private theorem after_wellFormed (formed : ∀ port2, WellFormed (start port2))
    (history : List TreeEvent) :
    ∀ port2, WellFormed (after sorter start history port2) := by
  induction history with
  | nil => exact formed
  | cons event before ih => exact WellFormed.apply ih event

private theorem after_fits (formed : ∀ port2, WellFormed (start port2)) (history : List TreeEvent)
    (port2 : Int) : totalSize (sessions (after sorter start history port2)) ≤
      maxPerPort2Bytes + unswept sorter start port2 history := by
  induction history with
  | nil => exact Nat.le_add_left _ _
  | cons event before ih =>
      have wellFormed : WellFormed (after sorter start before port2) :=
        after_wellFormed formed before port2
      cases event with
      | pass db now =>
          have sweeps : Sweeps now (listed db port2) (after sorter start before port2)
              (logCleanupOnce sorter db now (after sorter start before) port2) :=
            logCleanupOnce_sweeps wellFormed db now
          have applied : after sorter start (.pass db now :: before) port2 =
            logCleanupOnce sorter db now (after sorter start before) port2 := rfl
          rw [applied, unswept]
          by_cases present : (listed db port2).isSome = true
          · rw [if_pos present]
            exact sweeps.fits present
          · rw [if_neg present, sweeps.unlisted (Option.not_isSome_iff_eq_none.mp present)]
            exact ih
      | store other directory file =>
          have applied : after sorter start (.store other directory file :: before) port2 =
            Function.update (after sorter start before) other
              (storeEntry directory file (after sorter start before other)) port2 := rfl
          rw [applied, unswept]
          by_cases own : other = port2
          · subst own
            rw [if_pos rfl, Function.update_self]
            have grows : totalSize (sessions (storeEntry directory file _)) ≤ _ :=
              sessions_store wellFormed
            omega
          · rw [if_neg own, Function.update_of_ne (Ne.symm own)]
            exact ih

/-- **Every run keeps the disk bounded and loses no more than it must.** The session files of a
port pair never outgrow the quota by more than what was written since the last pass that knew the
pair, and each pass does to each directory what its record asks for, to the others nothing. -/
theorem run_logsTree (sorter : Sorter) {start : Tree} (formed : ∀ port2, WellFormed (start port2))
    (history : List TreeEvent) (port2 : Int) :
    totalSize (sessions (after sorter start history port2)) ≤
        maxPerPort2Bytes + unswept sorter start port2 history ∧
      History.Obeys (fun before event => ∀ db now, event = .pass db now →
        Sweeps now (listed db port2) (after sorter start before port2)
          (after sorter start (event :: before) port2)) history := by
  refine ⟨after_fits formed history port2, ?_⟩
  rw [History.obeys_iff_suffix]
  rintro event before - db now rfl
  exact logCleanupOnce_sweeps (after_wellFormed formed before port2) db now

/-- An entry for port2 10006 that keeps its logs for a day. -/
def dayRecords : Database :=
  AList.insert [0x16, 0x27, 0, 0] (Field.logRetentionDays.assignNumber 0x3F800000 blankRecord) ∅

/-- The tlog of the session with that digit. -/
def digitTlog (digit : UInt8) (mtime : Int) : FileEntry := ⟨digit :: tlogExtension, 4000, mtime⟩

/-- A pass two days after the first of two sessions, when the second has just been written to. -/
def twoSessions : List TreeEvent :=
  [.pass dayRecords 172800, .store 10006 [0x64] (digitTlog 0x32 172800),
    .store 10006 [0x64] (digitTlog 0x31 0)]

/-- The file of the first session is gone after two days, and what is left fits in the quota. -/
theorem run_logsTree_twoSessions :
    files (after stableSorter (fun _ => []) twoSessions 10006) =
        [⟨[0x64], digitTlog 0x32 172800⟩] ∧
      totalSize (sessions (after stableSorter (fun _ => []) twoSessions 10006)) ≤
        maxPerPort2Bytes + 0 := by
  refine ⟨by decide +kernel, ?_⟩
  have swept : unswept stableSorter (fun _ => []) 10006 twoSessions = 0 := by decide +kernel
  rw [← swept]
  have empty : WellFormed [] := ⟨List.nodup_nil, List.nodup_nil⟩
  exact (run_logsTree stableSorter (fun _ => empty) twoSessions 10006).1

end Run

end SupportProxy.LogTree
