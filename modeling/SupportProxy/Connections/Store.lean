import SupportProxy.Connections.Records

/-! # The file connections.tdb

Every access to the file is one transaction on its records, whatever their keys and bytes: the
snapshot of a child, the drops it processes, `conn_remove_port2` of the parent, and what the web
admin flags and lists. -/

namespace SupportProxy.Connections

open ByteLayout Keydb

/-! ## conntdb.cpp and supportproxy.cpp -/

/-- `conn_write` -/
def connWrite (padding : Vector UInt8 4) (port2 : Int) (db : Database) (entry : ConnEntry) :
    Database :=
  let key := connKey port2 entry.connIndex
  db.insert key (entryBytes padding port2 entry ++ ((db.lookup key).getD []).drop connEntrySize)

/-- `conn_delete` -/
def connDelete (port2 index : Int) (db : Database) : Database := db.erase (connKey port2 index)

/-- `collect_port2` goes on with the key. -/
def ofPort2 (port2 : Int) (key : List UInt8) : Bool :=
  key.length == 8 && intValue (key.take 4) == port2

/-- `conn_delete_for_port2` -/
def connDeleteForPort2 (port2 : Int) (db : Database) : Database :=
  (db.keys.filter (ofPort2 port2)).foldl (fun db key => db.erase key) db

/-- The transaction of a forked snapshot writer. -/
def writeSnapshot (padding : Vector UInt8 4) (port2 : Int) (entries : List ConnEntry)
    (db : Database) : Database :=
  entries.foldl (connWrite padding port2) (connDeleteForPort2 port2 db)

/-- The callback of `process_drops`: the index of a record of the pair that carries the flag. -/
def dropIndex (port2 : Int) (record : (_ : List UInt8) × List UInt8) : Option Int :=
  if record.1.length ≠ 8 ∨ record.2.length < connEntrySize then none
  else if intValue (record.1.take 4) ≠ port2 then none
  else if value (slice 0 8 record.2) = connMagic ∧ value (slice 52 4 record.2) &&& 1 ≠ 0 then
    some (intValue (record.1.drop 4))
  else none

/-- The indices that `process_drops` collects. -/
def dropIndices (port2 : Int) (db : Database) : List Int := db.entries.filterMap (dropIndex port2)

/-- The transaction of `process_drops`. -/
def deleteDropped (port2 : Int) (db : Database) : Database :=
  (dropIndices port2 db).foldl (fun db index => connDelete port2 index db) db

/-! ## conntdb_lib.py -/

/-- `_flip_drop_flag`: the records afterwards and the PID to be signalled, none for an
exception. -/
def flipDropFlag (port2 index : Int) (db : Database) : Option (Database × Option Nat) := do
  let first ← packInt port2
  let second ← packInt index
  match db.lookup (first ++ second) with
  | none => some (db, none)
  | some data =>
      if data.length < connEntrySize then some (db, none)
      else do
        let entry ← PythonConnEntry.unpack data
        if entry.magic ≠ connMagic then some (db, none)
        else do
          let body ← PythonConnEntry.pack { entry with flags := entry.flags ||| 1 }
          return (db.insert (first ++ second) (body ++ data.drop connEntrySize),
            if 0 < entry.pid then some entry.pid else none)

/-- The loop body of `iter_active`. -/
def readActive (now maxAge : Int) (record : (_ : List UInt8) × List UInt8) :
    Option PythonConnEntry :=
  if connEntrySize ≤ record.2.length ∧ record.1.length = 8 then
    (PythonConnEntry.unpack record.2).filter fun entry =>
      entry.magic = connMagic ∧ now - entry.lastUpdate ≤ maxAge
  else none

/-- The order of the pairs `(port2, conn_index)`. -/
def PythonConnEntry.le (first second : PythonConnEntry) : Prop :=
  first.port2 < second.port2 ∨ first.port2 = second.port2 ∧ first.connIndex ≤ second.connIndex

instance : DecidableRel PythonConnEntry.le :=
  fun _ _ => inferInstanceAs (Decidable (_ ∨ _ ∧ _))

/-- `list_active` -/
def listActive (now maxAge : Int) (db : Database) : List PythonConnEntry :=
  (db.entries.filterMap (readActive now maxAge)).insertionSort PythonConnEntry.le

/-! ## Keys -/

/-- The range of an `int`. -/
def IsInt (number : Int) : Prop := -2 ^ 31 ≤ number ∧ number < 2 ^ 31

instance (number : Int) : Decidable (IsInt number) := inferInstanceAs (Decidable (_ ∧ _))

private theorem packInt_isInt {number : Int} (range : IsInt number) :
    packInt number = some (intBytes number) := if_pos range

@[simp] theorem intBytes_length (number : Int) : (intBytes number).length = 4 := bytes_length 4 _

/-- Packing and unpacking an `int`. -/
theorem intValue_intBytes {number : Int} (range : IsInt number) :
    intValue (intBytes number) = number := portOf_packInt (packInt_isInt range)

/-- Four bytes are the bytes of the `int` in them. -/
theorem intBytes_intValue {data : List UInt8} (four : data.length = 4) :
    IsInt (intValue data) ∧ intBytes (intValue data) = data := by
  have packs : packInt (intValue data) = some data := packInt_value four
  rw [packInt] at packs
  split_ifs at packs with range
  exact ⟨range, Option.some.inj packs⟩

@[simp] theorem connKey_length (port2 index : Int) : (connKey port2 index).length = 8 := by
  rw [connKey, List.length_append, intBytes_length, intBytes_length]

/-- The first half of a key is the port. -/
theorem connKey_take (port2 index : Int) : (connKey port2 index).take 4 = intBytes port2 :=
  List.take_left' (intBytes_length port2)

private theorem connKey_drop (port2 index : Int) : (connKey port2 index).drop 4 = intBytes index :=
  List.drop_left' (intBytes_length port2)

/-- A key of the pair has eight bytes and begins with its port. -/
theorem ofPort2_iff {port2 : Int} {key : List UInt8} :
    ofPort2 port2 key = true ↔ key.length = 8 ∧ intValue (key.take 4) = port2 := by
  rw [ofPort2, Bool.and_eq_true, beq_iff_eq, beq_iff_eq]

/-- The keys that the pair writes are its own. -/
theorem ofPort2_connKey {port2 index : Int} (range : IsInt port2) :
    ofPort2 port2 (connKey port2 index) = true := by
  rw [ofPort2_iff, connKey_length, connKey_take, intValue_intBytes range]
  exact ⟨rfl, rfl⟩

/-- A key of eight bytes is the key of its two numbers. -/
theorem connKey_of_values {key : List UInt8} (eight : key.length = 8) :
    connKey (intValue (key.take 4)) (intValue (key.drop 4)) = key := by
  have front : (key.take 4).length = 4 := by
    rw [List.length_take]
    omega
  have back : (key.drop 4).length = 4 := by
    rw [List.length_drop]
    omega
  rw [connKey, (intBytes_intValue front).2, (intBytes_intValue back).2, List.take_append_drop]

/-- Keys tell pairs and indices apart. -/
theorem connKey_inj {port2 other index otherIndex : Int} (range : IsInt port2)
    (otherRange : IsInt other) (indexRange : IsInt index) (otherIndexRange : IsInt otherIndex) :
    connKey port2 index = connKey other otherIndex ↔ port2 = other ∧ index = otherIndex := by
  constructor
  · intro same
    have front := congrArg (fun key : List UInt8 => intValue (key.take 4)) same
    have back := congrArg (fun key : List UInt8 => intValue (key.drop 4)) same
    simp only [connKey_take, connKey_drop, intValue_intBytes range, intValue_intBytes otherRange,
      intValue_intBytes indexRange, intValue_intBytes otherIndexRange] at front back
    exact ⟨front, back⟩
  · rintro ⟨rfl, rfl⟩
    rfl

/-! ## What a transaction does to one record -/

/-- A record that every reader takes for one: long enough and with the magic. -/
def Readable (data : List UInt8) : Prop :=
  connEntrySize ≤ data.length ∧ (PythonConnEntry.read data).magic = connMagic

instance (data : List UInt8) : Decidable (Readable data) := inferInstanceAs (Decidable (_ ∧ _))

/-- `CONN_FLAG_DROP_REQUESTED` of a record. -/
def DropRequested (data : List UInt8) : Prop :=
  Readable data ∧ (PythonConnEntry.read data).flags &&& 1 ≠ 0

instance (data : List UInt8) : Decidable (DropRequested data) :=
  inferInstanceAs (Decidable (_ ∧ _))

/-- A record with the flag set. -/
def flipped (data : List UInt8) : List UInt8 :=
  data.take 52 ++ bytes 4 ((PythonConnEntry.read data).flags ||| 1) ++ List.replicate 8 0 ++
    data.drop connEntrySize

private theorem lookup_eraseAll (keys : List (List UInt8)) (db : Database) (key : List UInt8) :
    (keys.foldl (fun db key => db.erase key) db).lookup key =
      if key ∈ keys then none else db.lookup key := by
  induction keys generalizing db with
  | nil => rfl
  | cons first rest ih =>
      rw [List.foldl_cons, ih]
      by_cases later : key ∈ rest
      · rw [if_pos later, if_pos (List.mem_cons_of_mem _ later)]
      · rw [if_neg later]
        by_cases same : key = first
        · rw [same, AList.lookup_erase, if_pos List.mem_cons_self]
        · rw [AList.lookup_erase_ne same, if_neg (by simp [same, later])]

/-- `conn_delete_for_port2` deletes the records of the pair and no others. -/
theorem lookup_connDeleteForPort2 (port2 : Int) (db : Database) (key : List UInt8) :
    (connDeleteForPort2 port2 db).lookup key =
      if ofPort2 port2 key then none else db.lookup key := by
  rw [connDeleteForPort2, lookup_eraseAll]
  by_cases own : ofPort2 port2 key = true
  · by_cases present : key ∈ db.keys
    · rw [if_pos (List.mem_filter.mpr ⟨present, own⟩), if_pos own]
    · rw [if_neg fun member => present (List.mem_filter.mp member).1, if_pos own]
      exact AList.lookup_eq_none.mpr present
  · rw [if_neg fun member => own (List.mem_filter.mp member).2, if_neg own]

/-- A record has the size of the struct. -/
theorem entryBytes_length (padding : Vector UInt8 4) (port2 : Int) (entry : ConnEntry) :
    (entryBytes padding port2 entry).length = connEntrySize := by
  rw [entryBytes, List.length_append, Vector.length_toList]
  simp [members, connEntrySize]

/-- The last of the entries that is written under a key. -/
def written (padding : Vector UInt8 4) (port2 : Int) (entries : List ConnEntry)
    (key : List UInt8) : Option (List UInt8) :=
  (entries.reverse.find? fun entry => connKey port2 entry.connIndex = key).map
    (entryBytes padding port2)

private theorem lookup_connWrite {padding : Vector UInt8 4} {port2 : Int} {db : Database}
    {entry : ConnEntry} (short : ∀ data, db.lookup (connKey port2 entry.connIndex) = some data →
      data.length ≤ connEntrySize) (key : List UInt8) :
    (connWrite padding port2 db entry).lookup key =
      if connKey port2 entry.connIndex = key then some (entryBytes padding port2 entry)
      else db.lookup key := by
  rw [connWrite]
  by_cases same : connKey port2 entry.connIndex = key
  · rw [if_pos same, ← same, AList.lookup_insert]
    cases found : db.lookup (connKey port2 entry.connIndex) with
    | none => rw [Option.getD_none, List.drop_nil, List.append_nil]
    | some data =>
        rw [Option.getD_some, List.drop_eq_nil_of_le (short data found), List.append_nil]
  · rw [if_neg same, AList.lookup_insert_ne (Ne.symm same)]

private theorem lookup_writeAll {padding : Vector UInt8 4} {port2 : Int} (range : IsInt port2)
    (entries : List ConnEntry) {db : Database}
    (short : ∀ key data, ofPort2 port2 key = true → db.lookup key = some data →
      data.length ≤ connEntrySize) (key : List UInt8) :
    (entries.foldl (connWrite padding port2) db).lookup key =
      (written padding port2 entries key).or (db.lookup key) := by
  induction entries generalizing db with
  | nil => rfl
  | cons entry entries ih =>
      have first : ∀ key, (connWrite padding port2 db entry).lookup key =
          if connKey port2 entry.connIndex = key then some (entryBytes padding port2 entry)
          else db.lookup key :=
        lookup_connWrite fun data => short _ data (ofPort2_connKey range)
      have stillShort : ∀ key data, ofPort2 port2 key = true →
          (connWrite padding port2 db entry).lookup key = some data →
            data.length ≤ connEntrySize := by
        intro other data own found
        rw [first] at found
        split_ifs at found with same
        · rw [← Option.some.inj found, entryBytes_length]
        · exact short other data own found
      rw [List.foldl_cons, ih stillShort, first, written, written, List.reverse_cons,
        List.find?_append]
      cases entries.reverse.find? fun entry => connKey port2 entry.connIndex = key with
      | some later => rfl
      | none =>
          rw [Option.map_none, Option.none_or, Option.none_or, List.find?_singleton]
          by_cases same : connKey port2 entry.connIndex = key
          · rw [if_pos same, decide_eq_true same]
            rfl
          · rw [if_neg same, decide_eq_false same]
            rfl

/-- A snapshot replaces the records of its pair, whatever they were. -/
theorem lookup_writeSnapshot {padding : Vector UInt8 4} {port2 : Int} (range : IsInt port2)
    (entries : List ConnEntry) (db : Database) (key : List UInt8) :
    (writeSnapshot padding port2 entries db).lookup key =
      if ofPort2 port2 key then written padding port2 entries key else db.lookup key := by
  have gone := lookup_connDeleteForPort2 port2 db
  have short : ∀ key data, ofPort2 port2 key = true →
      (connDeleteForPort2 port2 db).lookup key = some data → data.length ≤ connEntrySize := by
    intro other data own found
    rw [gone, if_pos own] at found
    cases found
  rw [writeSnapshot, lookup_writeAll range entries short, gone]
  by_cases own : ofPort2 port2 key = true
  · rw [if_pos own, if_pos own, Option.or_none]
  · have none : written padding port2 entries key = none := by
      rw [written, Option.map_eq_none_iff, List.find?_eq_none]
      intro entry _ same
      rw [← of_decide_eq_true same] at own
      exact own (ofPort2_connKey range)
    rw [if_neg own, if_neg own, none, Option.none_or]

/-- The callback of `process_drops` keeps the keys of flagged records. -/
theorem dropIndex_eq_some {port2 index : Int} {key data : List UInt8} :
    dropIndex port2 ⟨key, data⟩ = some index ↔
      ofPort2 port2 key = true ∧ DropRequested data ∧ connKey port2 index = key ∧ IsInt index := by
  rw [dropIndex, ofPort2_iff]
  dsimp only
  constructor
  · intro collects
    split_ifs at collects with sizes other flagged
    obtain ⟨eight, big⟩ := not_or.mp sizes
    have eight := not_not.mp eight
    have own := not_not.mp other
    have back : (key.drop 4).length = 4 := by
      rw [List.length_drop]
      omega
    rw [← Option.some.inj collects]
    refine ⟨⟨eight, own⟩, ⟨⟨Nat.not_lt.mp big, flagged.1⟩, flagged.2⟩, ?_,
      (intBytes_intValue back).1⟩
    have whole := connKey_of_values eight
    rwa [own] at whole
  · rintro ⟨⟨eight, own⟩, requested, same, range⟩
    rw [if_neg (by simp [eight, requested.1.1]), if_neg (not_not.mpr own),
      if_pos ⟨requested.1.2, requested.2⟩, ← same, connKey_drop, intValue_intBytes range]

/-- `process_drops` deletes the flagged records of the pair and no others. -/
theorem lookup_deleteDropped {port2 : Int} (db : Database) (key : List UInt8) :
    (deleteDropped port2 db).lookup key =
      if ofPort2 port2 key then (db.lookup key).filter fun data => ¬DropRequested data
      else db.lookup key := by
  have erased : deleteDropped port2 db =
      ((dropIndices port2 db).map (connKey port2)).foldl (fun db key => db.erase key) db := by
    rw [deleteDropped, List.foldl_map]
    rfl
  have collected : key ∈ (dropIndices port2 db).map (connKey port2) ↔
      ofPort2 port2 key = true ∧ ∃ data, db.lookup key = some data ∧ DropRequested data := by
    rw [dropIndices, List.mem_map]
    constructor
    · rintro ⟨index, member, same⟩
      obtain ⟨⟨found, data⟩, present, collects⟩ := List.mem_filterMap.mp member
      obtain ⟨own, requested, isKey, -⟩ := dropIndex_eq_some.mp collects
      rw [← isKey, same] at own present
      exact ⟨own, data, AList.mem_lookup_iff.mpr present, requested⟩
    · rintro ⟨own, data, found, requested⟩
      obtain ⟨eight, pair⟩ := ofPort2_iff.mp own
      have isKey := connKey_of_values eight
      rw [pair] at isKey
      have back : (key.drop 4).length = 4 := by
        rw [List.length_drop]
        omega
      refine ⟨_, List.mem_filterMap.mpr ⟨⟨key, data⟩, AList.mem_lookup_iff.mp found,
        dropIndex_eq_some.mpr ⟨own, requested, isKey, (intBytes_intValue back).1⟩⟩, isKey⟩
  rw [erased, lookup_eraseAll]
  by_cases own : ofPort2 port2 key = true
  · rw [if_pos own]
    cases found : db.lookup key with
    | none => simp only [Option.filter_none, ite_self]
    | some data =>
        by_cases requested : DropRequested data
        · rw [if_pos (collected.mpr ⟨own, data, found, requested⟩),
            Option.filter_some_neg (by simp [requested])]
        · rw [if_neg, Option.filter_some_pos (by simp [requested])]
          rintro member
          obtain ⟨-, other, same, isRequested⟩ := collected.mp member
          rw [found, Option.some_inj] at same
          exact requested (same ▸ isRequested)
  · rw [if_neg own, if_neg fun member => own (collected.mp member).1]

/-- The flags with the drop bit set still fit in 32 bits. -/
theorem flags_lt (data : List UInt8) : (PythonConnEntry.read data).flags ||| 1 < 2 ^ 32 := by
  have small := value_lt (slice 52 4 data)
  have width : (slice 52 4 data).length ≤ 4 := List.length_take_le _ _
  have bound : 256 ^ (slice 52 4 data).length ≤ 256 ^ 4 := Nat.pow_le_pow_right (by omega) width
  have set := or_one (PythonConnEntry.read data).flags
  have same : (PythonConnEntry.read data).flags = value (slice 52 4 data) := rfl
  omega

/-- `_flip_drop_flag` returns for every content of the file, and only sets the flag. -/
theorem flipDropFlag_eq {port2 index : Int} (range : IsInt port2) (indexRange : IsInt index)
    (db : Database) :
    ∃ next pid, flipDropFlag port2 index db = some (next, pid) ∧
      (∀ key, next.lookup key =
        if connKey port2 index = key then
          (db.lookup key).map fun data => if Readable data then flipped data else data
        else db.lookup key) ∧
      pid = ((db.lookup (connKey port2 index)).filter fun data =>
        Readable data ∧ 0 < (PythonConnEntry.read data).pid).map fun data =>
          (PythonConnEntry.read data).pid := by
  have unread : ∀ data : List UInt8, db.lookup (connKey port2 index) = some data →
      ¬Readable data → ∀ key, db.lookup key = if connKey port2 index = key then
        (db.lookup key).map fun data => if Readable data then flipped data else data
        else db.lookup key := by
    intro data found unreadable key
    split_ifs with same
    · rw [← same, found, Option.map_some, if_neg unreadable]
    · rfl
  have key : intBytes port2 ++ intBytes index = connKey port2 index := rfl
  rw [flipDropFlag, packInt_isInt range, packInt_isInt indexRange]
  dsimp only [Option.bind_eq_bind, Option.bind_some]
  rw [key]
  cases found : db.lookup (connKey port2 index) with
  | none =>
      refine ⟨db, none, rfl, fun key => ?_, rfl⟩
      split_ifs with same
      · rw [← same, found]
        rfl
      · rfl
  | some data =>
      dsimp only
      by_cases small : data.length < connEntrySize
      · have unreadable : ¬Readable data := fun readable => absurd small (Nat.not_lt.mpr readable.1)
        rw [if_pos small]
        exact ⟨db, none, rfl, unread data found unreadable, by
          rw [Option.filter_some_neg (by simp [unreadable])]; rfl⟩
      · rw [if_neg small, PythonConnEntry.unpack_eq (Nat.not_lt.mp small), Option.bind_some]
        by_cases magic : (PythonConnEntry.read data).magic = connMagic
        · have readable : Readable data := ⟨Nat.not_lt.mp small, magic⟩
          rw [if_neg (not_not.mpr magic),
            PythonConnEntry.pack_read readable.1 _ (flags_lt data), Option.bind_some]
          refine ⟨_, _, rfl, fun key => ?_, ?_⟩
          · split_ifs with same
            · rw [← same, AList.lookup_insert, found, Option.map_some, if_pos readable]
              rfl
            · rw [AList.lookup_insert_ne (Ne.symm same)]
          · by_cases positive : 0 < (PythonConnEntry.read data).pid
            · rw [Option.filter_some_pos (by simp [readable, positive]), if_pos positive]
              rfl
            · rw [Option.filter_some_neg (by simp [positive]), if_neg positive]
              rfl
        · have unreadable : ¬Readable data := fun readable => magic readable.2
          rw [if_pos magic]
          exact ⟨db, none, rfl, unread data found unreadable, by
            rw [Option.filter_some_neg (by simp [unreadable])]; rfl⟩

end SupportProxy.Connections
