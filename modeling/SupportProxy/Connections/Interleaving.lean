import SupportProxy.Connections.Store
import SupportProxy.Library.History

/-! # connections.tdb under all its processes

The children of all port pairs, their writers, the parent and the web admin change the file in
transactions that come in any order. Each transaction changes the records of its own pair only,
every record by itself (`Transaction.lookup_apply`); what the file holds for one pair is then a
matter of that pair's transactions, and the listing of the web admin shows every record once. -/

namespace SupportProxy.Connections

open ByteLayout Keydb

inductive Transaction
  /-- a snapshot writer of a child -/
  | snapshot (port2 : Int) (padding : Vector UInt8 4) (entries : List ConnEntry)
  /-- `process_drops` of a child -/
  | processDrops (port2 : Int)
  /-- `conn_remove_port2` of the parent -/
  | remove (port2 : Int)
  /-- `_flip_drop_flag` of the web admin -/
  | flip (port2 index : Int)

namespace Transaction

def port2 : Transaction → Int
  | .snapshot port2 _ _ => port2
  | .processDrops port2 => port2
  | .remove port2 => port2
  | .flip port2 _ => port2

/-- The ports and indices are of type `int`, and a child has no slot beyond the last. -/
def Typed : Transaction → Prop
  | .snapshot port2 _ entries => IsInt port2 ∧ ∀ entry ∈ entries, entry.connIndex ≤ maxComm2Links
  | .processDrops port2 => IsInt port2
  | .remove port2 => IsInt port2
  | .flip port2 index => IsInt port2 ∧ IsInt index

def apply : Transaction → Database → Database
  | .snapshot port2 padding entries, db => writeSnapshot padding port2 entries db
  | .processDrops port2, db => deleteDropped port2 db
  | .remove port2, db => connDeleteForPort2 port2 db
  | .flip port2 index, db => ((flipDropFlag port2 index db).map Prod.fst).getD db

/-- What a transaction makes of the record under a key of its pair. -/
def effect : Transaction → List UInt8 → Option (List UInt8) → Option (List UInt8)
  | .snapshot port2 padding entries, key, _ => written padding port2 entries key
  | .processDrops _, _, record => record.filter fun data => ¬DropRequested data
  | .remove _, _, _ => none
  | .flip port2 index, key, record =>
      if connKey port2 index = key then
        record.map fun data => if Readable data then flipped data else data
      else record

/-- Each record is changed by itself, and those of other pairs not at all. -/
theorem lookup_apply {transaction : Transaction} (typed : transaction.Typed) (db : Database)
    (key : List UInt8) :
    (transaction.apply db).lookup key =
      if ofPort2 transaction.port2 key then transaction.effect key (db.lookup key)
      else db.lookup key := by
  cases transaction with
  | snapshot port2 padding entries => exact lookup_writeSnapshot typed.1 entries db key
  | processDrops port2 => exact lookup_deleteDropped db key
  | remove port2 => exact lookup_connDeleteForPort2 port2 db key
  | flip port2 index =>
      obtain ⟨next, pid, flips, records, -⟩ := flipDropFlag_eq typed.1 typed.2 db
      have after : (flip port2 index).apply db = next := by
        rw [apply, flips]
        rfl
      rw [after, records]
      by_cases own : ofPort2 port2 key = true
      · exact (if_pos own).symm
      · have other : connKey port2 index ≠ key := by
          rintro rfl
          exact own (ofPort2_connKey typed.1)
        rw [if_neg other]
        exact (if_neg own).symm

/-- The record under a key of the transaction's own pair. -/
theorem lookup_own {transaction : Transaction} (typed : transaction.Typed) {port2 : Int}
    {key : List UInt8} (own : ofPort2 port2 key = true) (pair : transaction.port2 = port2)
    (db : Database) :
    (transaction.apply db).lookup key = transaction.effect key (db.lookup key) := by
  rw [lookup_apply typed, pair, if_pos own]

end Transaction

/-- The file after transactions, the newest first. -/
abbrev fileAfter (db : Database) (history : List Transaction) : Database :=
  History.replay Transaction.apply db history

/-- The transactions of one pair. -/
def ofPair (port2 : Int) (history : List Transaction) : List Transaction :=
  history.filter fun transaction => transaction.port2 = port2

/-- What a record becomes under transactions of its pair. -/
def recordAfter (key : List UInt8) (history : List Transaction) (record : Option (List UInt8)) :
    Option (List UInt8) :=
  history.foldr (fun transaction record => transaction.effect key record) record

/-- A key names one pair. -/
theorem ofPort2_unique {port2 other : Int} {key : List UInt8} (own : ofPort2 port2 key = true)
    (also : ofPort2 other key = true) : port2 = other :=
  (ofPort2_iff.mp own).2.symm.trans (ofPort2_iff.mp also).2

private theorem lookup_fileAfter {history : List Transaction} (typed : ∀ step ∈ history, step.Typed)
    (db : Database) {port2 : Int} {key : List UInt8} (own : ofPort2 port2 key = true) :
    (fileAfter db history).lookup key =
      recordAfter key (ofPair port2 history) (db.lookup key) := by
  induction history with
  | nil => rfl
  | cons transaction before ih =>
      have earlier := ih fun step member => typed step (List.mem_cons_of_mem _ member)
      rw [fileAfter, History.replay_cons,
        Transaction.lookup_apply (typed transaction List.mem_cons_self), ofPair]
      by_cases same : transaction.port2 = port2
      · have kept : (transaction :: before).filter (fun step => step.port2 = port2) =
            transaction :: ofPair port2 before := List.filter_cons_of_pos (by simpa using same)
        rw [if_pos (by rw [same]; exact own), kept, recordAfter, List.foldr_cons]
        exact congrArg (transaction.effect key) earlier
      · have foreign : ¬ofPort2 transaction.port2 key = true :=
          fun also => same (ofPort2_unique also own)
        rw [if_neg foreign, List.filter_cons_of_neg (by simpa using same)]
        exact earlier

/-- **One pair's connections are no matter of the others.** In every interleaving of all
processes, over any content of the file, the records of a pair come out as if the transactions of
that pair had been the only ones. -/
theorem run_isolated {history : List Transaction} (typed : ∀ step ∈ history, step.Typed)
    (db : Database) {port2 : Int} {key : List UInt8} (own : ofPort2 port2 key = true) :
    (fileAfter db history).lookup key = (fileAfter db (ofPair port2 history)).lookup key := by
  have again : ofPair port2 (ofPair port2 history) = ofPair port2 history := by
    rw [ofPair, ofPair, List.filter_filter]
    simp only [Bool.and_self]
  have typedToo : ∀ step ∈ ofPair port2 history, step.Typed :=
    fun step member => typed step (List.mem_of_mem_filter member)
  rw [lookup_fileAfter typed db own, lookup_fileAfter typedToo db own, again]

/-- The record of a UDP user. -/
def sampleEntry : ConnEntry := ⟨10, 12, 0, 77, 3, 4, ⟨16777343, 9⟩, .udp, true, 0⟩

def samplePadding : Vector UInt8 4 := Vector.replicate 4 0

/-- Two pairs write their snapshots, and the user of the first is to be dropped. -/
def twoPairs : List Transaction :=
  [.flip 5000 0, .snapshot 5001 samplePadding [sampleEntry],
    .snapshot 5000 samplePadding [sampleEntry]]

/-- The transactions of the two pairs have ports and indices of type `int`. -/
theorem twoPairs_typed : ∀ step ∈ twoPairs, step.Typed := by
  have slots : ∀ entry ∈ [sampleEntry], entry.connIndex ≤ maxComm2Links := by
    simp [sampleEntry]
  have first : IsInt 5000 := by decide
  have second : IsInt 5001 := by decide
  simp only [twoPairs, List.forall_mem_cons]
  exact ⟨⟨first, by decide⟩, ⟨second, slots⟩, ⟨first, slots⟩, by simp⟩

/-- The record of pair 5000 is the same with and without the transactions of the other pair. -/
theorem run_isolated_flagged :
    (fileAfter ∅ twoPairs).lookup (connKey 5000 0) =
      (fileAfter ∅ (ofPair 5000 twoPairs)).lookup (connKey 5000 0) :=
  run_isolated twoPairs_typed ∅ (ofPort2_connKey (by decide))

end SupportProxy.Connections
