import SupportProxy.Connections.Listing
import SupportProxy.Connections.System
import SupportProxy.Session.MainLoop
import Mathlib.Data.List.Find
import Mathlib.Logic.Relation

/-! # The bytes behind the table

`Connections.Table` keeps a record down to its connection and its flag. Here the table runs
beside the file: every transaction of the pair changes the bytes as it changes the table, and the
transactions of all other pairs come in between. -/

namespace SupportProxy.Connections

open ByteLayout Keydb

/-- The bytes of a record of the table. -/
structure Shows (data : List UInt8) (record : ConnRecord) : Prop where
  readable : Readable data
  addr : (PythonConnEntry.read data).peerIpBe = record.conn.peer.addr % 2 ^ 32
  port : (PythonConnEntry.read data).peerPortBe = record.conn.peer.port % 2 ^ 16
  flag : (PythonConnEntry.read data).flags &&& 1 ≠ 0 ↔ record.dropRequested = true

/-- The file holds the records of the table for the pair, and no others of it. -/
structure Holds (port2 : Int) (table : Table) (db : Database) : Prop where
  present : ∀ index ≤ maxComm2Links, ∀ record, table.records index = some record →
    ∃ data, db.lookup (connKey port2 index) = some data ∧ Shows data record
  absent : ∀ index ≤ maxComm2Links, table.records index = none →
    db.lookup (connKey port2 index) = none

/-- The entries of a snapshot describe the connections of a listing. -/
structure Lists (entries : List ConnEntry) (listing : Nat → Option Connection) : Prop where
  flags : ∀ entry ∈ entries, entry.flags = 0
  slots : ∀ entry ∈ entries, entry.connIndex ≤ maxComm2Links
  peers : ∀ index ≤ maxComm2Links,
    (entries.reverse.find? fun entry => entry.connIndex = index).map ConnEntry.peer =
      (listing index).map Connection.peer

/-- The action leaves connections.tdb alone. -/
def Action.silent : Action → Prop
  | .commit _ => False
  | .flag _ _ => False
  | .processDrops opens => opens = false
  | .remove opens => opens = false
  | .reap opens => opens = false
  | _ => True

/-- A step of the pair in the table and in the file at once, or a transaction of another
pair. -/
inductive Beside (port2 : Int) : Table × Database → Table × Database → Prop
  | silent {table : Table} {db : Database} {action : Action} (silent : action.silent) :
      Beside port2 (table, db) (action.apply table, db)
  | commit {table : Table} {db : Database} {writer : Nat} {forked : Snapshot}
      {padding : Vector UInt8 4} {entries : List ConnEntry}
      (running : table.writers writer = some forked) (lists : Lists entries forked.listing) :
      Beside port2 (table, db)
        ((Action.commit writer).apply table,
          (Transaction.snapshot port2 padding entries).apply db)
  | flag {table : Table} {db : Database} {request index : Nat} {record : ConnRecord}
      (found : table.records index = some record) (slot : index ≤ maxComm2Links) :
      Beside port2 (table, db)
        ((Action.flag request index).apply table, (Transaction.flip port2 index).apply db)
  /-- a flag for a record that is not there -/
  | miss {table : Table} {db : Database} {index : Int} (range : IsInt index)
      (missing : ∀ slot : Nat, index = slot → table.records slot = none) :
      Beside port2 (table, db) (table, (Transaction.flip port2 index).apply db)
  | processDrops {table : Table} {db : Database} :
      Beside port2 (table, db)
        ((Action.processDrops true).apply table, (Transaction.processDrops port2).apply db)
  | remove {table : Table} {db : Database} :
      Beside port2 (table, db)
        ((Action.remove true).apply table, (Transaction.remove port2).apply db)
  | reap {table : Table} {db : Database} :
      Beside port2 (table, db)
        ((Action.reap true).apply table, (Transaction.remove port2).apply db)
  | other {table : Table} {db : Database} {transaction : Transaction}
      (typed : transaction.Typed) (foreign : transaction.port2 ≠ port2) :
      Beside port2 (table, db) (table, transaction.apply db)

variable {port2 : Int} {table : Table} {db : Database}

/-- The index of a slot is of type `int`. -/
theorem isInt_slot {index : Nat} (slot : index ≤ maxComm2Links) : IsInt index := by
  rw [maxComm2Links] at slot
  exact ⟨by omega, by omega⟩

/-- Actions that leave the file alone leave the records of the table alone. -/
theorem Action.silent.records {action : Action} (silent : action.silent) :
    (action.apply table).records = table.records := by
  cases action with
  | commit writer => exact silent.elim
  | flag request index => exact silent.elim
  | processDrops opens =>
      cases silent
      rfl
  | remove opens =>
      cases silent
      rfl
  | reap opens =>
      cases silent
      rfl
  | _ => rfl

private theorem Holds.of_records {other : Table} (holds : Holds port2 table db)
    (same : other.records = table.records) : Holds port2 other db :=
  ⟨fun index slot record found => holds.present index slot record (same ▸ found),
    fun index slot none => holds.absent index slot (same ▸ none)⟩

/-! ## Every step keeps the two together -/

private theorem Holds.other {transaction : Transaction} (holds : Holds port2 table db)
    (range : IsInt port2) (typed : transaction.Typed) (foreign : transaction.port2 ≠ port2) :
    Holds port2 table (transaction.apply db) := by
  have kept : ∀ index, (transaction.apply db).lookup (connKey port2 index) =
      db.lookup (connKey port2 index) := by
    intro index
    rw [Transaction.lookup_apply typed, if_neg]
    exact fun also => foreign (ofPort2_unique also (ofPort2_connKey range))
  refine ⟨fun index slot record found => ?_, fun index slot none => ?_⟩
  · rw [kept]
    exact holds.present index slot record found
  · rw [kept]
    exact holds.absent index slot none

private theorem Lists.written {entries : List ConnEntry} {listing : Nat → Option Connection}
    (lists : Lists entries listing) (range : IsInt port2) (padding : Vector UInt8 4) {index : Nat}
    (slot : index ≤ maxComm2Links) :
    Connections.written padding port2 entries (connKey port2 index) =
      (entries.reverse.find? fun entry => entry.connIndex = index).map
        (entryBytes padding port2) := by
  have same : ∀ entry ∈ entries.reverse,
      decide (connKey port2 entry.connIndex = connKey port2 index) =
        decide (entry.connIndex = index) := by
    intro entry member
    have inSlot := lists.slots entry (List.mem_reverse.mp member)
    rw [decide_eq_decide, connKey_inj range range (isInt_slot inSlot) (isInt_slot slot)]
    omega
  rw [Connections.written, List.find?_congr same]

private theorem Holds.snapshot {entries : List ConnEntry} {forked : Snapshot} {other : Table}
    {padding : Vector UInt8 4} (range : IsInt port2) (lists : Lists entries forked.listing)
    (records : other.records = forked.write) :
    Holds port2 other ((Transaction.snapshot port2 padding entries).apply db) := by
  have typed : (Transaction.snapshot port2 padding entries).Typed := ⟨range, lists.slots⟩
  have found : ∀ index ≤ maxComm2Links,
      ((Transaction.snapshot port2 padding entries).apply db).lookup (connKey port2 index) =
        (entries.reverse.find? fun entry => entry.connIndex = index).map
          (entryBytes padding port2) := by
    intro index slot
    rw [Transaction.lookup_own typed (ofPort2_connKey range) rfl]
    exact lists.written range padding slot
  refine ⟨fun index slot record isRecord => ?_, fun index slot none => ?_⟩
  · rw [records, Snapshot.write] at isRecord
    obtain ⟨conn, listed, rfl⟩ := Option.map_eq_some_iff.mp isRecord
    have peers := lists.peers index slot
    rw [listed, Option.map_some, Option.map_eq_some_iff] at peers
    obtain ⟨entry, isEntry, peer⟩ := peers
    have member := List.mem_reverse.mp (List.mem_of_find?_eq_some isEntry)
    have reads := read_entryBytes range (isInt_slot (lists.slots entry member)) padding
    refine ⟨entryBytes padding port2 entry, by rw [found index slot, isEntry]; rfl,
      ⟨(entryBytes_length padding port2 entry).ge, by rw [reads]; rfl⟩, ?_, ?_, ?_⟩
    · rw [reads, ← peer]
      rfl
    · rw [reads, ← peer]
      rfl
    · have clear : (PythonConnEntry.read (entryBytes padding port2 entry)).flags = 0 := by
        rw [reads, asRead, lists.flags entry member]
        rfl
      simp only [clear, Nat.zero_and, ne_eq, not_true_eq_false, Bool.false_eq_true]
  · rw [records, Snapshot.write, Option.map_eq_none_iff] at none
    have peers := lists.peers index slot
    rw [none, Option.map_none, Option.map_eq_none_iff] at peers
    rw [found index slot, peers, Option.map_none]

private theorem Shows.flipped {data : List UInt8} {record : ConnRecord}
    (shows : Shows data record) :
    Shows (flipped data) { record with dropRequested := true } := by
  have reads := read_flipped shows.readable.1
  have set : ((PythonConnEntry.read data).flags ||| 1) &&& 1 = 1 := by
    rw [Nat.and_one_is_mod, Nat.or_mod_two_eq_one]
    exact .inr rfl
  refine ⟨⟨?_, ?_⟩, ?_, ?_, ?_⟩
  · rw [flipped_length shows.readable.1]
    exact shows.readable.1
  · rw [reads]
    exact shows.readable.2
  · rw [reads]
    exact shows.addr
  · rw [reads]
    exact shows.port
  · rw [reads]
    simp only [set, ne_eq, one_ne_zero, not_false_eq_true]

private theorem Holds.flag {request index : Nat} {record : ConnRecord}
    (holds : Holds port2 table db) (range : IsInt port2) (found : table.records index = some record)
    (slot : index ≤ maxComm2Links) :
    Holds port2 ((Action.flag request index).apply table)
      ((Transaction.flip port2 index).apply db) := by
  have typed : (Transaction.flip port2 index).Typed := ⟨range, isInt_slot slot⟩
  have records : ((Action.flag request index).apply table).records =
      Function.update table.records index (some { record with dropRequested := true }) := by
    rw [Action.apply_flag found]
  have kept : ∀ other ≤ maxComm2Links, other ≠ index →
      ((Transaction.flip port2 index).apply db).lookup (connKey port2 other) =
        db.lookup (connKey port2 other) := by
    intro other otherSlot different
    have apart : connKey port2 (index : Int) ≠ connKey port2 (other : Int) := by
      intro same
      have both := (connKey_inj range range (isInt_slot slot) (isInt_slot otherSlot)).mp same
      omega
    rw [Transaction.lookup_own typed (ofPort2_connKey range) rfl]
    exact if_neg apart
  refine ⟨fun other otherSlot otherRecord isRecord => ?_, fun other otherSlot none => ?_⟩
  · rw [records] at isRecord
    rcases of_update_some isRecord with ⟨rfl, rfl⟩ | ⟨different, before⟩
    · obtain ⟨data, present, shows⟩ := holds.present other slot record found
      refine ⟨flipped data, ?_, shows.flipped⟩
      rw [Transaction.lookup_own typed (ofPort2_connKey range) rfl, Transaction.effect, if_pos rfl,
        present, Option.map_some, if_pos shows.readable]
    · rw [kept other otherSlot different]
      exact holds.present other otherSlot otherRecord before
  · rw [records] at none
    have different : other ≠ index := by
      rintro rfl
      rw [Function.update_self] at none
      cases none
    rw [Function.update_of_ne different] at none
    rw [kept other otherSlot different]
    exact holds.absent other otherSlot none

private theorem Holds.miss {index : Int} (holds : Holds port2 table db) (range : IsInt port2)
    (indexRange : IsInt index) (missing : ∀ slot : Nat, index = slot → table.records slot = none) :
    Holds port2 table ((Transaction.flip port2 index).apply db) := by
  have typed : (Transaction.flip port2 index).Typed := ⟨range, indexRange⟩
  have kept : ∀ slot ≤ maxComm2Links,
      ((Transaction.flip port2 index).apply db).lookup (connKey port2 slot) =
        db.lookup (connKey port2 slot) := by
    intro slot inside
    rw [Transaction.lookup_own typed (ofPort2_connKey range) rfl, Transaction.effect]
    split_ifs with same
    · have index_eq := ((connKey_inj range range indexRange (isInt_slot inside)).mp same).2
      rw [holds.absent slot inside (missing slot index_eq), Option.map_none]
    · rfl
  refine ⟨fun slot inside record found => ?_, fun slot inside none => ?_⟩
  · rw [kept slot inside]
    exact holds.present slot inside record found
  · rw [kept slot inside]
    exact holds.absent slot inside none

private theorem Holds.processDrops (holds : Holds port2 table db) (range : IsInt port2) :
    Holds port2 ((Action.processDrops true).apply table)
      ((Transaction.processDrops port2).apply db) := by
  have typed : (Transaction.processDrops port2).Typed := range
  have records : ∀ index, ((Action.processDrops true).apply table).records index =
      if table.flagged index then none else table.records index := fun _ => rfl
  have found : ∀ index : Nat,
      ((Transaction.processDrops port2).apply db).lookup (connKey port2 index) =
        (db.lookup (connKey port2 index)).filter fun data => ¬DropRequested data := by
    intro index
    rw [Transaction.lookup_own typed (ofPort2_connKey range) rfl]
    rfl
  refine ⟨fun index slot record isRecord => ?_, fun index slot none => ?_⟩
  · rw [records] at isRecord
    split_ifs at isRecord with flagged
    obtain ⟨data, present, shows⟩ := holds.present index slot record isRecord
    refine ⟨data, ?_, shows⟩
    have clear : ¬DropRequested data := by
      rintro ⟨-, set⟩
      rw [Table.flagged, isRecord] at flagged
      exact flagged (shows.flag.mp set)
    rw [found, present, Option.filter_some_pos (by simp [clear])]
  · rw [records] at none
    rw [found]
    cases isRecord : table.records index with
    | none => rw [holds.absent index slot isRecord, Option.filter_none]
    | some record =>
        split_ifs at none with flagged
        · obtain ⟨data, present, shows⟩ := holds.present index slot record isRecord
          have set : DropRequested data := by
            rw [Table.flagged, isRecord] at flagged
            exact ⟨shows.readable, shows.flag.mpr flagged⟩
          rw [present, Option.filter_some_neg (by simp [set])]
        · rw [isRecord] at none
          cases none

private theorem Holds.removed {other : Table} (range : IsInt port2)
    (records : ∀ index, other.records index = none) :
    Holds port2 other ((Transaction.remove port2).apply db) := by
  have typed : (Transaction.remove port2).Typed := range
  refine ⟨fun index _ record isRecord => ?_, fun index _ _ => ?_⟩
  · rw [records index] at isRecord
    cases isRecord
  · rw [Transaction.lookup_own typed (ofPort2_connKey range) rfl]
    rfl

/-- A step in the table and in the file keeps them together. -/
theorem Holds.beside {next : Table} {nextDb : Database} (holds : Holds port2 table db)
    (range : IsInt port2) (step : Beside port2 (table, db) (next, nextDb)) :
    Holds port2 next nextDb := by
  cases step with
  | silent silent => exact holds.of_records silent.records
  | commit running lists =>
      exact Holds.snapshot range lists (by rw [Action.apply_commit running])
  | flag found slot => exact holds.flag range found slot
  | miss indexRange missing => exact holds.miss range indexRange missing
  | processDrops => exact holds.processDrops range
  | remove => exact Holds.removed range fun _ => rfl
  | reap => exact Holds.removed range fun _ => rfl
  | other typed foreign => exact holds.other range typed foreign

/-! ## The snapshots of the main loop -/

/-- The connections of a session by index, numbered by any rule. -/
def listing {P : Type} (serial : Nat → Nat) (state : LoopState P) : Nat → Option Connection
  | 0 => if state.haveConn1 then some ⟨serial 0, state.mav1Peer⟩ else none
  | slot + 1 =>
      if slot < state.maxConn2Count ∧ (state.conn2 slot).used = true then
        some ⟨serial (slot + 1), (state.conn2 slot).peer⟩
      else none

private theorem snapshotEntries_user {P : Type} (pair : PortPair) (wake : Wakeup)
    (state : LoopState P) :
    ((snapshotEntries pair wake state).reverse.find? fun entry => entry.connIndex = 0) =
      if state.haveConn1 then some (userEntry pair wake state) else none := by
  have engineers : (((List.range state.maxConn2Count).filter fun slot =>
      (state.conn2 slot).used).map (engineerEntry pair wake state)).reverse.find?
        (fun entry => entry.connIndex = 0) = none := by
    rw [List.find?_eq_none]
    intro entry member
    obtain ⟨slot, -, rfl⟩ := List.mem_map.mp (List.mem_reverse.mp member)
    simp [engineerEntry]
  rw [snapshotEntries, List.reverse_append, List.find?_append, engineers, Option.none_or]
  cases state.haveConn1 <;> rfl

private theorem snapshotEntries_engineer {P : Type} (pair : PortPair) (wake : Wakeup)
    (state : LoopState P) (slot : Nat) :
    ((snapshotEntries pair wake state).reverse.find? fun entry => entry.connIndex = slot + 1) =
      if slot < state.maxConn2Count ∧ (state.conn2 slot).used = true then
        some (engineerEntry pair wake state slot)
      else none := by
  have user : (if state.haveConn1 = true then [userEntry pair wake state] else []).reverse.find?
      (fun entry => entry.connIndex = slot + 1) = none := by
    cases state.haveConn1 <;> rfl
  rw [snapshotEntries, List.reverse_append, List.find?_append, user, Option.or_none,
    ← List.map_reverse, List.find?_map]
  have here : ((fun entry : ConnEntry => decide (entry.connIndex = slot + 1)) ∘
      engineerEntry pair wake state) = fun other => decide (other = slot) := by
    funext other
    simp [engineerEntry]
  rw [here]
  by_cases listed : slot < state.maxConn2Count ∧ (state.conn2 slot).used = true
  · have member : slot ∈ ((List.range state.maxConn2Count).filter fun slot =>
        (state.conn2 slot).used).reverse :=
      List.mem_reverse.mpr (List.mem_filter.mpr ⟨List.mem_range.mpr listed.1, listed.2⟩)
    have found : ((List.range state.maxConn2Count).filter fun slot =>
        (state.conn2 slot).used).reverse.find? (fun other => decide (other = slot)) =
          some slot := by
      cases result : ((List.range state.maxConn2Count).filter fun slot =>
          (state.conn2 slot).used).reverse.find? fun other => decide (other = slot) with
      | none => exact absurd (decide_eq_true rfl) (List.find?_eq_none.mp result slot member)
      | some other =>
          have same : other = slot := by simpa using List.find?_some result
          rw [same]
    rw [found, if_pos listed]
    rfl
  · have missing : ((List.range state.maxConn2Count).filter fun slot =>
        (state.conn2 slot).used).reverse.find? (fun other => decide (other = slot)) = none := by
      rw [List.find?_eq_none]
      intro other member same
      have here := List.mem_filter.mp (List.mem_reverse.mp member)
      rw [of_decide_eq_true same] at here
      exact listed ⟨List.mem_range.mp here.1, here.2⟩
    rw [missing, if_neg listed]
    rfl

/-- The snapshot of the main loop describes its connections, as long as the bound of its slots is
in range. -/
theorem snapshotEntries_lists {P : Type} {pair : PortPair} {wake : Wakeup} {state : LoopState P}
    (bounded : state.maxConn2Count ≤ maxComm2Links) (serial : Nat → Nat) :
    Lists (snapshotEntries pair wake state) (listing serial state) := by
  have members : ∀ entry ∈ snapshotEntries pair wake state,
      entry = userEntry pair wake state ∨
        ∃ slot < state.maxConn2Count, entry = engineerEntry pair wake state slot := by
    intro entry member
    rcases List.mem_append.mp member with user | engineer
    · split_ifs at user
      · exact .inl (List.mem_singleton.mp user)
      · cases user
    · obtain ⟨slot, inside, rfl⟩ := List.mem_map.mp engineer
      exact .inr ⟨slot, List.mem_range.mp (List.mem_filter.mp inside).1, rfl⟩
  refine ⟨fun entry member => ?_, fun entry member => ?_, fun index slot => ?_⟩
  · rcases members entry member with rfl | ⟨slot, -, rfl⟩ <;> rfl
  · rcases members entry member with rfl | ⟨slot, inside, rfl⟩
    · exact Nat.zero_le _
    · exact Nat.le_trans inside bounded
  · cases index with
    | zero =>
        rw [snapshotEntries_user, listing]
        split_ifs <;> rfl
    | succ slot =>
        rw [snapshotEntries_engineer, listing]
        split_ifs <;> rfl

/-! ## The file in every run -/

/-- **The table is what the file says.** Along every interleaving of the steps of one pair with
the transactions of all others, the bytes of the file show the records of the table: a record is
there for exactly the indices of the table, with the peer of its connection and its flag, for
every reader. The snapshots that the main loop forks are ones that a commit takes. -/
theorem run_holds (range : IsInt port2) {start file : Database} {table : Table}
    (empty : ∀ index ≤ maxComm2Links, start.lookup (connKey port2 index) = none)
    (run : Relation.ReflTransGen (Beside port2) (Table.initial, start) (table, file)) :
    Holds port2 table file ∧
      ∀ {P : Type} (pair : PortPair) (wake : Wakeup) (state : LoopState P) (serial : Nat → Nat),
        state.maxConn2Count ≤ maxComm2Links →
          Lists (snapshotEntries pair wake state) (listing serial state) := by
  refine ⟨?_, fun pair wake state serial bounded => snapshotEntries_lists bounded serial⟩
  have reached : ∀ state : Table × Database,
      Relation.ReflTransGen (Beside port2) (Table.initial, start) state →
        Holds port2 state.1 state.2 := by
    intro state run
    induction run with
    | refl =>
        have unlisted : ∀ index record, Table.initial.records index ≠ some record := by
          intro index record found
          cases found
        exact ⟨fun index _ record found => absurd found (unlisted index record),
          fun index slot _ => empty index slot⟩
    | tail _ step ih => exact ih.beside range step
  exact reached (table, file) run

/-- A user has connected, and a snapshot of it has been forked. -/
def sampleForked : Table :=
  (Action.snapshot 0).apply ((Action.connect 0 sampleEntry.peer).apply Table.initial)

/-- The snapshot is written, another pair writes its own, and the user's record is flagged. -/
theorem run_holds_user :
    Holds 5000 ((Action.flag 0 0).apply ((Action.commit 0).apply sampleForked))
      (fileAfter ∅ twoPairs) := by
  have connected : Beside 5000 (Table.initial, ∅)
      ((Action.connect 0 sampleEntry.peer).apply Table.initial, ∅) := .silent trivial
  have forked : Beside 5000 ((Action.connect 0 sampleEntry.peer).apply Table.initial, ∅)
      (sampleForked, ∅) := .silent trivial
  have listing : Lists [sampleEntry] (fun index => if index ≤ 0 then Function.update
      Table.initial.slots 0 (some ⟨0, sampleEntry.peer⟩) index else none) := by
    refine ⟨by simp [sampleEntry], by simp [sampleEntry], fun index _ => ?_⟩
    cases index with
    | zero => rfl
    | succ slot => rfl
  have committed : Beside 5000 (sampleForked, ∅) ((Action.commit 0).apply sampleForked,
      (Transaction.snapshot 5000 samplePadding [sampleEntry]).apply ∅) := .commit rfl listing
  have foreign : (Transaction.snapshot 5001 samplePadding [sampleEntry]).Typed :=
    ⟨by decide, by simp [sampleEntry]⟩
  have beside : Beside 5000 ((Action.commit 0).apply sampleForked,
        (Transaction.snapshot 5000 samplePadding [sampleEntry]).apply ∅)
      ((Action.commit 0).apply sampleForked,
        (Transaction.snapshot 5001 samplePadding [sampleEntry]).apply
          ((Transaction.snapshot 5000 samplePadding [sampleEntry]).apply ∅)) :=
    .other foreign (by decide)
  have flagged : Beside 5000 ((Action.commit 0).apply sampleForked,
        (Transaction.snapshot 5001 samplePadding [sampleEntry]).apply
          ((Transaction.snapshot 5000 samplePadding [sampleEntry]).apply ∅))
      ((Action.flag 0 0).apply ((Action.commit 0).apply sampleForked), fileAfter ∅ twoPairs) :=
    .flag rfl (Nat.zero_le _)
  have run := ((((Relation.ReflTransGen.single connected).tail forked).tail committed).tail
    beside).tail flagged
  exact (run_holds (by decide) (fun _ _ => rfl) run).1

end SupportProxy.Connections
