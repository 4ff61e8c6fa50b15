import SupportProxy.Connections.Interleaving

/-! # What the web admin lists

Every record that the processes leave in connections.tdb lies under the key of the pair and the
index that it names itself, in the size of the struct and with the magic. So `list_active` shows
every record of a live connection once, in the order of pairs and indices, and the child of a
pair sees the flags that the web admin sees. -/

namespace SupportProxy.Connections

open ByteLayout Keydb

/-! ## The two sides of the layout -/

/-- A record of the child as it is read, every number cut to its width. -/
def asRead (port2 : Int) (entry : ConnEntry) : PythonConnEntry where
  magic := connMagic
  connectedAt := entry.connectedAt % 2 ^ 64
  lastUpdate := entry.lastUpdate % 2 ^ 64
  port2 := port2
  connIndex := entry.connIndex
  pid := entry.pid % 2 ^ 32
  rxMsgs := entry.rxMsgs % 2 ^ 32
  txMsgs := entry.txMsgs % 2 ^ 32
  peerIpBe := entry.peer.addr % 2 ^ 32
  peerPortBe := entry.peer.port % 2 ^ 16
  transport := entry.transport.code
  isUser := if entry.isUser then 1 else 0
  flags := entry.flags.toNat

private theorem members_widths (port2 : Int) (entry : ConnEntry) :
    (members port2 entry).map List.length = packFormat := by
  simp only [members, List.map_cons, List.map_nil, bytes_length, intBytes_length, packFormat]

private theorem code_lt (transport : ConnTransport) : transport.code < 256 := by
  cases transport <;> decide

/-- What the child writes in C++ is read in Python. -/
theorem unpack_entryBytes {port2 : Int} {entry : ConnEntry} (range : IsInt port2)
    (indexRange : IsInt entry.connIndex) (padding : Vector UInt8 4) :
    PythonConnEntry.unpack (entryBytes padding port2 entry) = some (asRead port2 entry) := by
  have pieces : cut packFormat ((entryBytes padding port2 entry).take connEntrySize) =
      members port2 entry := by
    rw [← entryBytes_length padding port2 entry, List.take_length, entryBytes,
      ← members_widths port2 entry, cut_flatten]
  have code : value (bytes 1 entry.transport.code) = entry.transport.code := by
    rw [value_bytes, Nat.mod_eq_of_lt (by simpa using code_lt entry.transport)]
  have user : value (bytes 1 (if entry.isUser then 1 else 0)) = if entry.isUser then 1 else 0 := by
    cases entry.isUser <;> rfl
  have flags : value (bytes 4 entry.flags.toNat) = entry.flags.toNat := by
    rw [value_bytes, Nat.mod_eq_of_lt (show _ < 256 ^ 4 from entry.flags.isLt)]
  have magic : value (bytes 8 connMagic) = connMagic := by
    rw [value_bytes]
    rfl
  rw [PythonConnEntry.unpack, if_neg (by rw [entryBytes_length]; exact Nat.lt_irrefl _), pieces,
    members]
  simp only [intValue_intBytes range, intValue_intBytes indexRange, code, user, flags, magic]
  simp only [value_bytes]
  rfl

/-- The Python side reads what the C++ side has written. -/
theorem read_entryBytes {port2 : Int} {entry : ConnEntry} (range : IsInt port2)
    (indexRange : IsInt entry.connIndex) (padding : Vector UInt8 4) :
    PythonConnEntry.read (entryBytes padding port2 entry) = asRead port2 entry := by
  have big : connEntrySize ≤ (entryBytes padding port2 entry).length :=
    (entryBytes_length padding port2 entry).ge
  have unpacks := unpack_entryBytes range indexRange padding
  rw [PythonConnEntry.unpack_eq big, Option.some_inj] at unpacks
  exact unpacks

/-- Setting the flag leaves the length of a record. -/
theorem flipped_length {data : List UInt8} (big : connEntrySize ≤ data.length) :
    (flipped data).length = data.length := by
  rw [connEntrySize] at big
  simp only [flipped, List.length_append, List.length_take, bytes_length, List.length_replicate,
    List.length_drop, connEntrySize]
  omega

/-- A flipped record reads the same but for the flag. -/
theorem read_flipped {data : List UInt8} (big : connEntrySize ≤ data.length) :
    PythonConnEntry.read (flipped data) =
      { PythonConnEntry.read data with flags := (PythonConnEntry.read data).flags ||| 1 } := by
  have front : (data.take 52).length = 52 := by
    rw [List.length_take]
    rw [connEntrySize] at big
    omega
  have before : ∀ offset width, offset + width ≤ 52 →
      slice offset width (flipped data) = slice offset width data := by
    intro offset width inside
    have taken : (flipped data).take 52 = data.take 52 := by
      rw [flipped, List.append_assoc, List.append_assoc, List.take_left' front]
    rw [← slice_take (flipped data) inside, taken, slice_take data inside]
  have flags : value (slice 52 4 (flipped data)) = (PythonConnEntry.read data).flags ||| 1 := by
    have here : slice 52 4 (flipped data) = bytes 4 ((PythonConnEntry.read data).flags ||| 1) := by
      have field := slice_append (data.take 52) (bytes 4 ((PythonConnEntry.read data).flags ||| 1))
        (List.replicate 8 0 ++ data.drop connEntrySize)
      rw [front, bytes_length] at field
      rw [flipped, List.append_assoc, List.append_assoc]
      exact field
    rw [here, value_bytes, Nat.mod_eq_of_lt (show _ < 256 ^ 4 from flags_lt data)]
  simp only [PythonConnEntry.read] at flags ⊢
  simp only [before 0 8 (by omega), before 8 8 (by omega), before 16 8 (by omega),
    before 24 4 (by omega), before 28 4 (by omega), before 32 4 (by omega), before 36 4 (by omega),
    before 40 4 (by omega), before 44 4 (by omega), before 48 2 (by omega), before 50 1 (by omega),
    before 51 1 (by omega), flags]

/-! ## Records under their own keys -/

/-- A record of the size of the struct, under the key of the pair and index it names. -/
structure Filed (key data : List UInt8) : Prop where
  size : data.length = connEntrySize
  magic : (PythonConnEntry.read data).magic = connMagic
  port2 : IsInt (PythonConnEntry.read data).port2
  index : 0 ≤ (PythonConnEntry.read data).connIndex ∧
    (PythonConnEntry.read data).connIndex ≤ maxComm2Links
  key : key = connKey (PythonConnEntry.read data).port2 (PythonConnEntry.read data).connIndex

private theorem Filed.indexRange {key data : List UInt8} (filed : Filed key data) :
    IsInt (PythonConnEntry.read data).connIndex := by
  have bounds := filed.index
  rw [maxComm2Links] at bounds
  exact ⟨by omega, by omega⟩

private theorem Filed.readable {key data : List UInt8} (filed : Filed key data) : Readable data :=
  ⟨filed.size.ge, filed.magic⟩

private theorem Filed.flipped {key data : List UInt8} (filed : Filed key data) :
    Filed key (flipped data) := by
  have reads := read_flipped filed.size.ge
  refine ⟨(flipped_length filed.size.ge).trans filed.size, ?_, ?_, ?_, ?_⟩
  · rw [reads]
    exact filed.magic
  · rw [reads]
    exact filed.port2
  · rw [reads]
    exact filed.index
  · rw [reads]
    exact filed.key

private theorem filed_entryBytes {padding : Vector UInt8 4} {port2 : Int} {entry : ConnEntry}
    (range : IsInt port2) (slot : entry.connIndex ≤ maxComm2Links) :
    Filed (connKey port2 entry.connIndex) (entryBytes padding port2 entry) := by
  have indexRange : IsInt entry.connIndex := by
    rw [maxComm2Links] at slot
    exact ⟨by omega, by omega⟩
  have reads := read_entryBytes range indexRange padding
  refine ⟨entryBytes_length padding port2 entry, ?_, ?_, ?_, ?_⟩
  · rw [reads]
    rfl
  · rw [reads]
    exact range
  · rw [reads]
    exact ⟨Int.natCast_nonneg _, Int.ofNat_le.mpr slot⟩
  · rw [reads]
    rfl

/-- Every record of the file is filed. -/
def AllFiled (db : Database) : Prop := ∀ key data, db.lookup key = some data → Filed key data

private theorem AllFiled.apply {transaction : Transaction} {db : Database} (filed : AllFiled db)
    (typed : transaction.Typed) : AllFiled (transaction.apply db) := by
  intro key data found
  rw [Transaction.lookup_apply typed] at found
  split_ifs at found with own
  · cases transaction with
    | snapshot port2 padding entries =>
        obtain ⟨entry, member, rfl⟩ := Option.map_eq_some_iff.mp found
        have named : connKey port2 entry.connIndex = key := by simpa using List.find?_some member
        rw [← named]
        exact filed_entryBytes typed.1
          (typed.2 entry (List.mem_reverse.mp (List.mem_of_find?_eq_some member)))
    | processDrops port2 => exact filed key data (Option.filter_eq_some_iff.mp found).1
    | remove port2 => cases found
    | flip port2 index =>
        rw [Transaction.effect] at found
        split_ifs at found with here
        · obtain ⟨before, present, rfl⟩ := Option.map_eq_some_iff.mp found
          have stood := filed key before present
          rw [if_pos stood.readable]
          exact stood.flipped
        · exact filed key data found
  · exact filed key data found

/-- Whatever the processes do after `conn_recreate_empty`. -/
theorem fileAfter_allFiled {history : List Transaction} (typed : ∀ step ∈ history, step.Typed) :
    AllFiled (fileAfter ∅ history) := by
  induction history with
  | nil =>
      intro key data found
      rw [fileAfter, History.replay_nil, AList.lookup_empty] at found
      cases found
  | cons transaction before ih =>
      exact (ih fun step member => typed step (List.mem_cons_of_mem _ member)).apply
        (typed transaction List.mem_cons_self)

/-! ## The listing -/

private theorem AllFiled.readActive {db : Database} (filed : AllFiled db) {now maxAge : Int}
    {key data : List UInt8} (found : db.lookup key = some data) {entry : PythonConnEntry} :
    readActive now maxAge ⟨key, data⟩ = some entry ↔
      entry = PythonConnEntry.read data ∧ now - entry.lastUpdate ≤ maxAge := by
  have stood := filed key data found
  have eight : key.length = 8 := by
    rw [stood.key, connKey_length]
  rw [Connections.readActive, if_pos ⟨stood.size.ge, eight⟩,
    PythonConnEntry.unpack_eq stood.size.ge, Option.filter_eq_some_iff, Option.some_inj]
  constructor
  · rintro ⟨rfl, fresh⟩
    exact ⟨rfl, (of_decide_eq_true fresh).2⟩
  · rintro ⟨rfl, fresh⟩
    exact ⟨rfl, decide_eq_true ⟨stood.magic, fresh⟩⟩

private theorem AllFiled.mem_listActive {db : Database} (filed : AllFiled db) {now maxAge : Int}
    {entry : PythonConnEntry} :
    entry ∈ listActive now maxAge db ↔
      (∃ data, db.lookup (connKey entry.port2 entry.connIndex) = some data ∧
        PythonConnEntry.read data = entry) ∧ now - entry.lastUpdate ≤ maxAge := by
  rw [listActive, (List.perm_insertionSort _ _).mem_iff, List.mem_filterMap]
  constructor
  · rintro ⟨⟨key, data⟩, member, reads⟩
    have found : db.lookup key = some data := AList.mem_lookup_iff.mpr member
    obtain ⟨rfl, fresh⟩ := (filed.readActive found).mp reads
    exact ⟨⟨data, by rw [← (filed key data found).key, found], rfl⟩, fresh⟩
  · rintro ⟨⟨data, found, rfl⟩, fresh⟩
    exact ⟨⟨_, data⟩, AList.mem_lookup_iff.mp found, (filed.readActive found).mpr ⟨rfl, fresh⟩⟩

/-- The strict order of the pairs `(port2, conn_index)`. -/
def PythonConnEntry.lt (first second : PythonConnEntry) : Prop :=
  first.port2 < second.port2 ∨ first.port2 = second.port2 ∧ first.connIndex < second.connIndex

instance : Std.Total PythonConnEntry.le where
  total first second := by
    rw [PythonConnEntry.le, PythonConnEntry.le]
    omega

instance : IsTrans PythonConnEntry PythonConnEntry.le where
  trans first second third := by
    rw [PythonConnEntry.le, PythonConnEntry.le, PythonConnEntry.le]
    omega

/-- Different records of the file name different pairs and indices. -/
theorem AllFiled.listed_apart {db : Database} (filed : AllFiled db) (now maxAge : Int) :
    (db.entries.filterMap (Connections.readActive now maxAge)).Pairwise fun first second =>
      ¬(first.port2 = second.port2 ∧ first.connIndex = second.connIndex) := by
  have keys : db.entries.Pairwise fun first second => first.1 ≠ second.1 := by
    have nodup := db.nodupKeys
    rw [List.NodupKeys, List.keys, List.nodup_iff_pairwise_ne, List.pairwise_map] at nodup
    exact nodup
  rw [List.pairwise_filterMap]
  refine keys.imp_of_mem ?_
  rintro ⟨key, data⟩ ⟨otherKey, otherData⟩ member otherMember different entry reads other otherReads
  have found : db.lookup key = some data := AList.mem_lookup_iff.mpr member
  have otherFound : db.lookup otherKey = some otherData := AList.mem_lookup_iff.mpr otherMember
  obtain ⟨rfl, -⟩ := (filed.readActive found).mp reads
  obtain ⟨rfl, -⟩ := (filed.readActive otherFound).mp otherReads
  rintro ⟨samePair, sameIndex⟩
  refine different ?_
  dsimp only
  rw [(filed key data found).key, (filed otherKey otherData otherFound).key, samePair, sameIndex]

private theorem AllFiled.listActive_sorted {db : Database} (filed : AllFiled db)
    (now maxAge : Int) :
    (listActive now maxAge db).Pairwise PythonConnEntry.lt := by
  have sorted : (listActive now maxAge db).Pairwise PythonConnEntry.le :=
    List.pairwise_insertionSort _ _
  have apart : (listActive now maxAge db).Pairwise fun first second =>
      ¬(first.port2 = second.port2 ∧ first.connIndex = second.connIndex) := by
    refine (List.Perm.pairwise_iff ?_ (List.perm_insertionSort _ _)).mpr
      (filed.listed_apart now maxAge)
    intro first second different same
    exact different ⟨same.1.symm, same.2.symm⟩
  refine (sorted.and apart).imp ?_
  rintro first second ⟨le, different⟩
  rw [PythonConnEntry.le] at le
  rw [PythonConnEntry.lt]
  omega

/-- The child and the web admin see the same flags. -/
theorem AllFiled.mem_dropIndices {db : Database} (filed : AllFiled db) {port2 index : Int} :
    index ∈ dropIndices port2 db ↔
      ∃ data, db.lookup (connKey port2 index) = some data ∧
        (PythonConnEntry.read data).port2 = port2 ∧ (PythonConnEntry.read data).connIndex = index ∧
          (PythonConnEntry.read data).flags &&& 1 ≠ 0 := by
  rw [dropIndices, List.mem_filterMap]
  constructor
  · rintro ⟨⟨key, data⟩, member, collects⟩
    obtain ⟨own, requested, rfl, range⟩ := dropIndex_eq_some.mp collects
    have found : db.lookup (connKey port2 index) = some data := AList.mem_lookup_iff.mpr member
    have stood := filed _ data found
    have portRange : IsInt port2 := by
      have values := ofPort2_iff.mp own
      rw [← values.2]
      exact (intBytes_intValue (by rw [connKey_take, intBytes_length])).1
    obtain ⟨samePort, sameIndex⟩ :=
      (connKey_inj portRange stood.port2 range stood.indexRange).mp stood.key
    exact ⟨data, found, samePort.symm, sameIndex.symm, requested.2⟩
  · rintro ⟨data, found, samePort, sameIndex, flagged⟩
    have stood := filed _ data found
    have range : IsInt port2 := samePort ▸ stood.port2
    exact ⟨⟨_, data⟩, AList.mem_lookup_iff.mp found, dropIndex_eq_some.mpr
      ⟨ofPort2_connKey range, ⟨stood.readable, flagged⟩, rfl, sameIndex ▸ stood.indexRange⟩⟩

/-- **The listing is exact**, in every interleaving of all processes since the file was emptied:
`list_active` names every pair and index at most once, in their order, and it shows the record
under that key, if it is not older than `max_age_s`; and `process_drops` collects exactly the
indices whose records carry the flag. -/
theorem run_listing {history : List Transaction} (typed : ∀ step ∈ history, step.Typed)
    (now maxAge : Int) :
    let db := fileAfter ∅ history
    (listActive now maxAge db).Pairwise PythonConnEntry.lt ∧
      (∀ entry, entry ∈ listActive now maxAge db ↔
        (∃ data, db.lookup (connKey entry.port2 entry.connIndex) = some data ∧
          PythonConnEntry.unpack data = some entry) ∧ now - entry.lastUpdate ≤ maxAge) ∧
      ∀ port2 index, index ∈ dropIndices port2 db ↔
        ∃ entry data, db.lookup (connKey port2 index) = some data ∧
          PythonConnEntry.unpack data = some entry ∧ entry.port2 = port2 ∧
            entry.connIndex = index ∧ entry.flags &&& 1 ≠ 0 := by
  intro db
  have filed : AllFiled db := fileAfter_allFiled typed
  have unpacks : ∀ key data, db.lookup key = some data →
      PythonConnEntry.unpack data = some (PythonConnEntry.read data) :=
    fun key data found => PythonConnEntry.unpack_eq (filed key data found).size.ge
  refine ⟨filed.listActive_sorted now maxAge, fun entry => ?_, fun port2 index => ?_⟩
  · rw [filed.mem_listActive]
    refine and_congr_left fun _ => exists_congr fun data => and_congr_right fun found => ?_
    rw [unpacks _ data found, Option.some_inj]
  · rw [filed.mem_dropIndices]
    constructor
    · rintro ⟨data, found, samePort, sameIndex, flagged⟩
      exact ⟨_, data, found, unpacks _ data found, samePort, sameIndex, flagged⟩
    · rintro ⟨entry, data, found, reads, samePort, sameIndex, flagged⟩
      rw [unpacks _ data found, Option.some_inj] at reads
      subst reads
      exact ⟨data, found, samePort, sameIndex, flagged⟩

/-- Two pairs write, one record is flagged and one is gone. -/
theorem run_listing_twoPairs :
    (listActive 20 30 (fileAfter ∅ twoPairs)).Pairwise PythonConnEntry.lt ∧
      { asRead 5000 sampleEntry with flags := 1 } ∈ listActive 20 30 (fileAfter ∅ twoPairs) ∧
        0 ∈ dropIndices 5000 (fileAfter ∅ twoPairs) := by
  have found : ((fileAfter ∅ twoPairs).lookup (connKey 5000 0)).bind PythonConnEntry.unpack =
      some { asRead 5000 sampleEntry with flags := 1 } := by decide +kernel
  obtain ⟨data, present, reads⟩ := Option.bind_eq_some_iff.mp found
  obtain ⟨sorted, listed, drops⟩ := run_listing twoPairs_typed 20 30
  exact ⟨sorted, (listed _).mpr ⟨⟨data, present, reads⟩, by decide⟩,
    (drops 5000 0).mpr ⟨_, data, present, reads, rfl, rfl, by decide⟩⟩

end SupportProxy.Connections
