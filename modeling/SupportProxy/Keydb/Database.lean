import SupportProxy.Keydb.Operations
import Mathlib.Data.List.AList
import Mathlib.Data.List.Sort

/-! # The database

keys.tdb holds records under keys. An entry is a record that is readable under a key of four
bytes, its port2. The functions of `keydb_lib.py` are functions of the database here, with none
for an exception, after which the transaction is cancelled. -/

namespace SupportProxy.Keydb

open ByteLayout

abbrev Database := AList fun _ : List UInt8 => List UInt8

def PythonEntry.isAdmin (entry : PythonEntry) : Bool := entry.flags &&& 1 != 0

namespace Database

variable (machine : Nat → Nat) (sha256 : List UInt8 → SecretKey)

/-- `KeyEntry(port2).fetch` -/
def fetch (port2 : Int) (db : Database) : Option PythonEntry := do
  let key ← packInt port2
  let data ← db.lookup key
  PythonEntry.fetch data

/-- `KeyEntry.store` -/
def store (port2 : Int) (entry : PythonEntry) (db : Database) : Option Database := do
  let key ← packInt port2
  let data ← PythonEntry.store machine ((db.lookup key).getD []) entry
  return db.insert key data

/-- `KeyEntry.remove` -/
def remove (port2 : Int) (db : Database) : Option Database :=
  (packInt port2).map fun key => db.erase key

/-- The loop body of `list_entries`. -/
def readEntry (record : (_ : List UInt8) × List UInt8) : Option (Int × PythonEntry) :=
  if minSize ≤ record.2.length ∧ record.1.length = 4 then
    ((PythonEntry.unpack record.2).filter fun entry => entry.magic = magicValue).map fun entry =>
      (portOf record.1, entry)
  else none

/-- `list_entries` -/
def listEntries (db : Database) : List (Int × PythonEntry) :=
  (db.entries.filterMap readEntry).insertionSort fun first second => first.1 ≤ second.1

/-- The first set of `get_port_sets`. -/
def ports1 (db : Database) : List Int := db.listEntries.map fun entry => entry.2.port1

/-- The second set of `get_port_sets`. -/
def ports2 (db : Database) : List Int := db.listEntries.map Prod.fst

/-- `count_admins` -/
def countAdmins (db : Database) : Nat := db.listEntries.countP fun entry => entry.2.isAdmin

/-- `find_by_port` -/
def findByPort (port : Int) (db : Database) : Option (Int × PythonEntry) :=
  match db.fetch port with
  | some entry => some (port, entry)
  | none => db.listEntries.find? fun entry => entry.2.port1 = port

/-- `add_entry` -/
def addEntry (port1 port2 : Int) (name : List Char) (passphrase : List UInt8) (db : Database) :
    Option Database :=
  if port1 ∈ db.ports1 ∨ port1 ∈ db.ports2 then none
  else if port2 ∈ db.ports2 ∨ port2 ∈ db.ports1 then none
  else db.store machine port2 (.new sha256 port1 name passphrase)

/-- `remove_entry` -/
def removeEntry (port2 : Int) (db : Database) : Option Database :=
  (db.fetch port2).bind fun _ => db.remove port2

/-- The frame of the setters and of the forms: fetch, change, store. -/
def mutate (change : PythonEntry → Option PythonEntry) (port2 : Int) (db : Database) :
    Option Database := do
  let entry ← db.fetch port2
  let changed ← change entry
  db.store machine port2 changed

end Database

/-- Read back, a packed port is the same. -/
theorem portOf_packInt {number : Int} {key : List UInt8} (packs : packInt number = some key) :
    portOf key = number := by
  rw [packInt] at packs
  split_ifs at packs with range
  have low : (number % 2 ^ 32).toNat % 256 ^ 4 = (number % 2 ^ 32).toNat := by
    rw [Nat.mod_eq_of_lt]
    omega
  rw [← Option.some.inj packs, portOf, value_bytes, low, BitVec.toInt_eq_toNat_cond,
    BitVec.toNat_ofNat]
  split_ifs <;> omega

/-- A key of four bytes is a packed port. -/
theorem packInt_portOf {key : List UInt8} (four : key.length = 4) :
    packInt (portOf key) = some key := packInt_value four

/-- A packed unsigned number reads back. -/
theorem value_packUnsigned {width number : Nat} {part : List UInt8}
    (packs : packUnsigned width number = some part) : value part = number := by
  rw [packUnsigned] at packs
  split_ifs at packs with small
  rw [← Option.some.inj packs, value_bytes, Nat.mod_eq_of_lt small]

/-- What is read again of an entry that was packed. -/
structure PythonEntry.StoredAs (entry stored : PythonEntry) : Prop where
  port1 : stored.port1 = entry.port1
  flags : stored.flags = entry.flags
  secretKey : packBytes 32 entry.secretKey = some stored.secretKey
  name : stored.name = Utf8.reread 32 entry.name

/-- A packed entry is read again. -/
theorem PythonEntry.fetch_of_pack {machine : Nat → Nat} {entry : PythonEntry} {data : List UInt8}
    (packs : entry.pack machine = some data) (magic : entry.magic = magicValue) :
    ∃ stored, PythonEntry.fetch data = some stored ∧ entry.StoredAs stored := by
  have member : ∀ field ∈ Field.all, entry.packedField machine field = some (field.bytes data) :=
    fun field member => packedField_of_pack packs member
  have big : minSize ≤ data.length := by
    rw [(pack_eq_some packs).2.1, entrySize, minSize]
    omega
  have magicRead : Field.magic.unsigned data = magicValue := by
    rw [← magic]
    exact value_packUnsigned (member .magic (by simp [Field.all]))
  refine ⟨_, fetch_eq_some.mpr ⟨⟨big, magicRead⟩, unpack_eq big⟩, ?_, ?_, ?_, ?_⟩
  · exact portOf_packInt (member .port1 (by simp [Field.all]))
  · exact value_packUnsigned (member .flags (by simp [Field.all]))
  · exact member .secretKey (by simp [Field.all])
  · have name : packBytes 32 (Utf8.encode entry.name) = some (Field.name.bytes data) :=
      member .name (by simp [Field.all])
    rw [packBytes, Option.some_inj] at name
    rw [Utf8.reread, name]

namespace Database

variable {machine : Nat → Nat} {sha256 : List UInt8 → SecretKey} {db next : Database}

/-- `fetch` looks under the packed port. -/
theorem fetch_of_key {port2 : Int} {key : List UInt8} (packs : packInt port2 = some key) :
    db.fetch port2 = (db.lookup key).bind PythonEntry.fetch := by
  rw [fetch, packs]
  rfl

/-- Different ports have different keys. -/
theorem key_ne {first second : Int} {firstKey secondKey : List UInt8} (different : first ≠ second)
    (packs : packInt first = some firstKey) (alsoPacks : packInt second = some secondKey) :
    firstKey ≠ secondKey := by
  rintro rfl
  exact different ((portOf_packInt packs).symm.trans (portOf_packInt alsoPacks))

/-- `fetch` finds the entries that `list_entries` lists. -/
theorem mem_listEntries {port2 : Int} {entry : PythonEntry} :
    (port2, entry) ∈ db.listEntries ↔ db.fetch port2 = some entry := by
  rw [listEntries, (List.perm_insertionSort _ _).mem_iff, List.mem_filterMap]
  constructor
  · rintro ⟨⟨key, data⟩, member, reads⟩
    rw [readEntry] at reads
    split_ifs at reads with sizes
    obtain ⟨found, unpacks, same⟩ := Option.map_eq_some_iff.mp reads
    rw [Prod.mk.injEq] at same
    obtain ⟨rfl, rfl⟩ := same
    have here : db.lookup key = some data := AList.mem_lookup_iff.mpr member
    rw [fetch_of_key (packInt_portOf sizes.2), here, Option.bind_some, PythonEntry.fetch,
      if_neg (Nat.not_lt.mpr sizes.1)]
    exact unpacks
  · intro fetches
    obtain ⟨key, packs, fetches⟩ := Option.bind_eq_some_iff.mp fetches
    obtain ⟨data, found, fetches⟩ := Option.bind_eq_some_iff.mp fetches
    rw [PythonEntry.fetch] at fetches
    split_ifs at fetches with small
    refine ⟨⟨key, data⟩, AList.mem_lookup_iff.mp found, ?_⟩
    rw [readEntry, if_pos ⟨Nat.not_lt.mp small, packInt_length packs⟩, fetches, Option.map_some,
      portOf_packInt packs]

/-- No port2 is listed twice. -/
theorem listEntries_nodup (db : Database) : (db.listEntries.map Prod.fst).Nodup := by
  rw [listEntries, ((List.perm_insertionSort _ _).map Prod.fst).nodup_iff]
  have keys : db.entries.Pairwise fun first second => first.1 ≠ second.1 := by
    have nodup := db.nodupKeys
    rw [List.NodupKeys, List.keys, List.nodup_iff_pairwise_ne, List.pairwise_map] at nodup
    exact nodup
  rw [List.nodup_iff_pairwise_ne, List.pairwise_map]
  refine keys.filterMap _ fun first second different entry reads other otherReads => ?_
  rw [readEntry] at reads otherReads
  split_ifs at reads with sizes
  split_ifs at otherReads with otherSizes
  obtain ⟨_, _, rfl⟩ := Option.map_eq_some_iff.mp reads
  obtain ⟨_, _, rfl⟩ := Option.map_eq_some_iff.mp otherReads
  exact fun same => different (portOf_injective sizes.2 otherSizes.2 same)

/-- A store leaves the records under other keys alone. -/
theorem lookup_store {port2 : Int} {entry : PythonEntry}
    (stores : db.store machine port2 entry = some next) {key : List UInt8}
    (other : packInt port2 ≠ some key) : next.lookup key = db.lookup key := by
  obtain ⟨own, packs, stores⟩ := Option.bind_eq_some_iff.mp stores
  obtain ⟨data, stored, stores⟩ := Option.bind_eq_some_iff.mp stores
  rw [← Option.some.inj stores, AList.lookup_insert_ne]
  rintro rfl
  exact other packs

/-- What a store leaves under each port. -/
theorem fetch_store {port2 : Int} {entry : PythonEntry}
    (stores : db.store machine port2 entry = some next) (magic : entry.magic = magicValue) :
    (∃ stored, next.fetch port2 = some stored ∧ entry.StoredAs stored) ∧
      ∀ other, other ≠ port2 → next.fetch other = db.fetch other := by
  have elsewhere : ∀ key, packInt port2 ≠ some key → next.lookup key = db.lookup key :=
    fun _ => lookup_store stores
  obtain ⟨key, packs, stores⟩ := Option.bind_eq_some_iff.mp stores
  obtain ⟨data, stored, stores⟩ := Option.bind_eq_some_iff.mp stores
  refine ⟨?_, fun other different => ?_⟩
  · have again : ∃ stored, PythonEntry.fetch data = some stored ∧ entry.StoredAs stored := by
      rw [PythonEntry.store] at stored
      split_ifs at stored
      · obtain ⟨found, fetches, kept⟩ := PythonEntry.fetch_of_pack stored magic
        exact ⟨found, fetches, kept.port1, kept.flags, kept.secretKey, kept.name⟩
      · exact PythonEntry.fetch_of_pack stored magic
    obtain ⟨found, fetches, kept⟩ := again
    refine ⟨found, ?_, kept⟩
    rw [← Option.some.inj stores, fetch_of_key packs, AList.lookup_insert, Option.bind_some,
      fetches]
  · cases otherPacks : packInt other with
    | none =>
        rw [fetch, fetch, otherPacks]
        rfl
    | some otherKey =>
        rw [fetch_of_key otherPacks, fetch_of_key otherPacks, elsewhere otherKey]
        intro same
        exact key_ne different otherPacks packs (Option.some.inj (packs.symm.trans same)).symm

/-- What a removal leaves under each port. -/
theorem fetch_remove {port2 : Int} (removes : db.remove port2 = some next) :
    next.fetch port2 = none ∧ ∀ other, other ≠ port2 → next.fetch other = db.fetch other := by
  obtain ⟨key, packs, rfl⟩ := Option.map_eq_some_iff.mp removes
  refine ⟨?_, fun other different => ?_⟩
  · rw [fetch_of_key packs, AList.lookup_erase]
    rfl
  · cases otherPacks : packInt other with
    | none =>
        rw [fetch, fetch, otherPacks]
        rfl
    | some otherKey =>
        rw [fetch_of_key otherPacks, fetch_of_key otherPacks,
          AList.lookup_erase_ne (key_ne different otherPacks packs)]

/-- Every entry that is found has the magic. -/
theorem fetch_magic {port2 : Int} {entry : PythonEntry} (found : db.fetch port2 = some entry) :
    entry.magic = magicValue := by
  obtain ⟨key, -, found⟩ := Option.bind_eq_some_iff.mp found
  obtain ⟨data, -, found⟩ := Option.bind_eq_some_iff.mp found
  obtain ⟨readable, unpacks⟩ := fetch_eq_some.mp found
  rw [PythonEntry.unpack_eq readable.1, Option.some_inj] at unpacks
  rw [← unpacks]
  exact readable.2

@[simp] theorem mem_ports1 {port : Int} :
    port ∈ db.ports1 ↔ ∃ port2 entry, db.fetch port2 = some entry ∧ entry.port1 = port := by
  simp only [ports1, List.mem_map, Prod.exists, mem_listEntries]

@[simp] theorem mem_ports2 {port : Int} :
    port ∈ db.ports2 ↔ ∃ entry, db.fetch port = some entry := by
  simp only [ports2, List.mem_map, Prod.exists, mem_listEntries, exists_and_right, exists_eq_right]

end Database

end SupportProxy.Keydb
