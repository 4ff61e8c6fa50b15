import SupportProxy.Keydb.Readers

/-! # The conversion of old databases

`convert_db` gives the records of 48 bytes, which no reader accepts, the layout of today. It
walks over the keys while it stores, so that it may come to a key more than once. -/

namespace SupportProxy.Keydb

open ByteLayout

/-- `KeyEntry.__init__` -/
def PythonEntry.initial : PythonEntry where
  magic := magicValue
  timestamp := 0
  secretKey := List.replicate 32 0
  port1 := 0
  connections := 0
  count1 := 0
  count2 := 0
  name := []
  flags := 0
  logRetentionDays := .finite false 0 0
  fcSysid := 0
  reserved := List.replicate reservedWords 0
  tail := []

/-- The size of a legacy record, `<QQ32s` -/
def legacySize : Nat := 48

/-- `ke` in `convert_db`, none for an exception. -/
def legacyEntry (port2 : Int) (data : List UInt8) : Option PythonEntry :=
  match cut [8, 8, 32] data with
  | [magic, timestamp, secretKey] =>
      some
        { PythonEntry.initial with
          magic := value magic
          timestamp := value timestamp
          secretKey := secretKey
          port1 := if port2 ≠ 0 then port2 - 1000 else 0 }
  | _ => none

namespace Database

variable (machine : Nat → Nat)

/-- The loop body of `convert_db`, none for an exception. -/
def convertKey (state : Nat × Database) (key : List UInt8) : Option (Nat × Database) :=
  let (count, db) := state
  if key.length ≠ 4 then some (count, db)
  else
    match db.lookup key with
    | none => some (count, db)
    | some data =>
        if data.length = legacySize then do
          let entry ← legacyEntry (portOf key) data
          let next ← db.store machine (portOf key) entry
          return (count + 1, next)
        else some (count, db)

/-- `convert_db`, with the keys that it comes to. -/
def convertDb (keys : List (List UInt8)) (db : Database) : Option (Nat × Database) :=
  keys.foldlM (convertKey machine) (0, db)

end Database

/-- A record that `convert_db` converts. -/
def isLegacy (key data : List UInt8) : Bool := key.length = 4 ∧ data.length = legacySize

/-- The port1 that it is given. -/
def legacyPort1 (key : List UInt8) : Int := if portOf key ≠ 0 then portOf key - 1000 else 0

/-- What becomes of a record: a legacy record gets its port1 and zeros. -/
def upgrade (key data : List UInt8) : List UInt8 :=
  if isLegacy key data then
    data ++ bytes 4 (legacyPort1 key % 2 ^ 32).toNat ++ List.replicate 116 0
  else data

variable {machine : Nat → Nat} {key data : List UInt8}

/-- The members that `KeyEntry.__init__` fills and the conversion leaves, packed. -/
theorem packed_initial (machine : Nat → Nat) (magic timestamp : Nat) (secretKey : List UInt8)
    (port1 : Int) :
    PythonEntry.packed machine { PythonEntry.initial with
        magic := magic, timestamp := timestamp, secretKey := secretKey, port1 := port1 } =
      [packUnsigned 8 magic, packUnsigned 8 timestamp, packBytes 32 secretKey, packInt port1] ++
        [some (List.replicate 4 0), some (List.replicate 4 0), some (List.replicate 4 0),
          some (List.replicate 32 0), some (List.replicate 4 0), some (List.replicate 4 0),
          some (List.replicate 4 0), some (List.replicate 60 0)] := by
  have float : packFloat machine (.finite false 0 0) = some (List.replicate 4 0) := by
    rfl
  have words : packWords ((Padding.fill 0 reservedWords (List.replicate reservedWords 0)).take
      reservedWords) = some (List.replicate 60 0) := by decide
  rw [PythonEntry.packed]
  simp only [PythonEntry.initial, float, words]
  rfl

private theorem legacy_pieces (length : data.length = legacySize) :
    (data.take 8).length = 8 ∧ ((data.drop 8).take 8).length = 8 ∧
      ((data.drop 16).take 32).length = 32 ∧
      data.take 8 ++ ((data.drop 8).take 8 ++ (data.drop 16).take 32) = data := by
  have whole := flatten_cut [8, 8, 32] data
  simp only [cut, List.drop_drop, List.flatten_cons, List.flatten_nil, List.append_nil] at whole
  rw [legacySize] at length
  refine ⟨?_, ?_, ?_, ?_⟩
  · rw [List.length_take, length]
    rfl
  · rw [List.length_take, List.length_drop, length]
    rfl
  · rw [List.length_take, List.length_drop, length]
    rfl
  · exact whole.trans (List.take_of_length_le length.le)

private theorem packInt_legacyPort1 (key : List UInt8) : packInt (legacyPort1 key) =
    if -2 ^ 31 ≤ legacyPort1 key then some (bytes 4 (legacyPort1 key % 2 ^ 32).toNat)
    else none := by
  have below : legacyPort1 key < 2 ^ 31 := by
    have small : portOf key < 2 ^ 31 := by
      have bound := (BitVec.ofNat 32 (value key)).toInt_lt
      rw [portOf]
      exact bound
    rw [legacyPort1]
    split_ifs <;> omega
  rw [packInt]
  exact if_congr (and_iff_left below) rfl rfl

private theorem store_legacy (machine : Nat → Nat) (legacy : isLegacy key data = true) :
    (legacyEntry (portOf key) data).bind (PythonEntry.store machine data) =
      if -2 ^ 31 ≤ legacyPort1 key then some (upgrade key data) else none := by
  have sizes := of_decide_eq_true legacy
  obtain ⟨magic, timestamp, secretKey, whole⟩ := legacy_pieces sizes.2
  have small : ¬ entrySize < data.length := by
    rw [sizes.2, entrySize, legacySize]
    omega
  rw [upgrade, if_pos legacy, legacyEntry, ← legacyPort1]
  simp only [cut, List.drop_drop, Option.bind_some]
  rw [PythonEntry.store, if_neg small, PythonEntry.pack, packed_initial,
    packUnsigned_value magic, packUnsigned_value timestamp, packBytes_same secretKey,
    packInt_legacyPort1]
  by_cases fits : -2 ^ 31 ≤ legacyPort1 key
  · rw [if_pos fits, if_pos fits]
    change some (data.take 8 ++ ((data.drop 8).take 8 ++ ((data.drop 16).take 32 ++
      (bytes 4 _ ++ List.replicate 116 0))) ++ []) = _
    rw [List.append_nil, ← List.append_assoc (List.take 8 (List.drop 8 data)),
      ← List.append_assoc (List.take 8 data), whole, List.append_assoc]
  · rw [if_neg fits, if_neg fits]
    rfl

/-! ## What is read of an upgraded record -/

private theorem upgrade_length (legacy : isLegacy key data = true) :
    (upgrade key data).length = entrySize := by
  have sizes := of_decide_eq_true legacy
  rw [upgrade, if_pos legacy, List.length_append, List.length_append, bytes_length,
    List.length_replicate, sizes.2]
  rfl

private theorem upgrade_front (legacy : isLegacy key data = true) {field : Field}
    (inside : field.offset + field.width ≤ legacySize) :
    field.bytes (upgrade key data) = field.bytes data := by
  have sizes := of_decide_eq_true legacy
  have taken : (extend entrySize data).take legacySize = data := by
    have short : data.length ≤ entrySize := by
      rw [sizes.2, entrySize, legacySize]
      omega
    rw [extend, List.take_of_length_le short, ← sizes.2, List.take_left]
  have alsoTaken : (upgrade key data).take legacySize = data := by
    rw [upgrade, if_pos legacy, List.append_assoc, ← sizes.2, List.take_left]
  rw [Field.bytes, extend_of_length (upgrade_length legacy), ← slice_take _ inside, alsoTaken,
    Field.bytes, ← slice_take (extend entrySize data) inside, taken]

private theorem upgrade_port1 (legacy : isLegacy key data = true)
    (fits : -2 ^ 31 ≤ legacyPort1 key) :
    Field.port1.signed (upgrade key data) = legacyPort1 key := by
  have sizes := of_decide_eq_true legacy
  have packs := packInt_legacyPort1 key
  rw [if_pos fits] at packs
  have part : Field.port1.bytes (upgrade key data) =
      bytes 4 (legacyPort1 key % 2 ^ 32).toNat := by
    have there := slice_append data (bytes 4 (legacyPort1 key % 2 ^ 32).toNat)
      (List.replicate 116 0)
    rw [bytes_length, sizes.2] at there
    rw [Field.bytes, extend_of_length (upgrade_length legacy), upgrade, if_pos legacy,
      List.append_assoc]
    exact there
  rw [Field.signed, Field.unsigned, part]
  exact portOf_packInt packs

private theorem value_zeros (count : Nat) : value (List.replicate count 0) = 0 := by
  induction count with
  | zero => rfl
  | succ count ih => rw [List.replicate_succ, value, ih]; rfl

private theorem upgrade_rest (legacy : isLegacy key data = true) {field : Field}
    (behind : 52 ≤ field.offset) : field.unsigned (upgrade key data) = 0 := by
  have sizes := of_decide_eq_true legacy
  rw [Field.unsigned, Field.bytes, extend_of_length (upgrade_length legacy), upgrade, if_pos legacy,
    slice, List.drop_append, List.drop_eq_nil_of_le, List.nil_append, List.drop_replicate,
    List.take_replicate, value_zeros]
  rw [List.length_append, bytes_length, sizes.2, legacySize]
  omega

namespace Database

variable {db : Database} {count : Nat}

private theorem convertKey_legacy (found : db.lookup key = some data)
    (legacy : isLegacy key data = true) :
    convertKey machine (count, db) key =
      if -2 ^ 31 ≤ legacyPort1 key then some (count + 1, db.insert key (upgrade key data))
      else none := by
  have sizes := of_decide_eq_true legacy
  have stored := store_legacy machine legacy
  rw [convertKey, if_neg (not_not.mpr sizes.1), found]
  dsimp only
  rw [if_pos sizes.2]
  obtain ⟨entry, reads⟩ : ∃ entry, legacyEntry (portOf key) data = some entry := ⟨_, rfl⟩
  rw [reads, Option.bind_some] at stored
  rw [reads, Option.bind_eq_bind, Option.bind_some, store, packInt_portOf sizes.1]
  simp only [Option.bind_eq_bind, Option.bind_some, found, Option.getD_some, stored]
  split_ifs <;> rfl

private theorem convertKey_other
    (others : ∀ data, db.lookup key = some data → isLegacy key data = false) :
    convertKey machine (count, db) key = some (count, db) := by
  rw [convertKey]
  by_cases four : key.length = 4
  · rw [if_neg (not_not.mpr four)]
    cases found : db.lookup key with
    | none => rfl
    | some data =>
        dsimp only
        have short : data.length ≠ legacySize := by
          have other := of_decide_eq_false (others data found)
          exact fun same => other ⟨four, same⟩
        rw [if_neg short]
  · rw [if_pos four]

/-- How many records are still to convert. -/
def legacyCount (db : Database) : Nat := db.entries.countP fun record => isLegacy record.1 record.2

private theorem not_legacy_upgrade (key data : List UInt8) :
    isLegacy key (upgrade key data) = false := by
  rw [upgrade]
  cases legacy : isLegacy key data with
  | true =>
      have sizes := of_decide_eq_true legacy
      rw [if_pos rfl, isLegacy, decide_eq_false_iff_not]
      rintro ⟨-, same⟩
      simp only [List.length_append, bytes_length, List.length_replicate, sizes.2] at same
      omega
  | false => exact legacy

private theorem upgrade_upgrade (key data : List UInt8) :
    upgrade key (upgrade key data) = upgrade key data := by
  rw [upgrade, not_legacy_upgrade]
  rfl

private theorem legacyCount_insert (found : db.lookup key = some data)
    (legacy : isLegacy key data = true) :
    legacyCount (db.insert key (upgrade key data)) + 1 = db.legacyCount := by
  have member : key ∈ db.entries.keys := by
    refine AList.mem_keys.mp (AList.lookup_isSome.mp ?_)
    rw [found, Option.isSome_some]
  obtain ⟨old, front, back, fresh, split, kept⟩ := List.exists_of_kerase member
  have same : old = data := by
    have here : db.lookup key = some old := AList.mem_lookup_iff.mpr (by
      rw [split]
      exact List.mem_append_right _ List.mem_cons_self)
    exact Option.some.inj (here.symm.trans found)
  subst same
  rw [legacyCount, legacyCount, AList.entries_insert, kept, split, List.countP_cons,
    not_legacy_upgrade, List.countP_append, List.countP_append, List.countP_cons, legacy]
  simp only [Bool.false_eq_true, if_false, if_true]
  omega

/-- Each record under one of the keys has been upgraded, and no others. -/
def Upgraded (keys : List (List UInt8)) (db next : Database) : Prop :=
  ∀ key, next.lookup key = if key ∈ keys then (db.lookup key).map (upgrade key) else db.lookup key

private theorem Upgraded.cons_insert {keys : List (List UInt8)} {next : Database}
    (found : db.lookup key = some data)
    (rest : Upgraded keys (db.insert key (upgrade key data)) next) :
    Upgraded (key :: keys) db next := by
  intro other
  rw [rest other]
  by_cases own : other = key
  · subst own
    rw [AList.lookup_insert, if_pos List.mem_cons_self, found, Option.map_some, Option.map_some,
      upgrade_upgrade, ite_self]
  · rw [AList.lookup_insert_ne own]
    simp only [List.mem_cons, own, false_or]

private theorem Upgraded.cons_other {keys : List (List UInt8)} {next : Database}
    (others : ∀ data, db.lookup key = some data → isLegacy key data = false)
    (rest : Upgraded keys db next) : Upgraded (key :: keys) db next := by
  intro other
  rw [rest other]
  by_cases own : other = key
  · subst own
    have same : (db.lookup other).map (upgrade other) = db.lookup other := by
      cases found : db.lookup other with
      | none => rfl
      | some data => rw [Option.map_some, upgrade, others data found, if_neg Bool.false_ne_true]
    rw [same, ite_self, ite_self]
  · simp only [List.mem_cons, own, false_or]

/-- A legacy record whose port1 is no `int`. -/
def Unfit (db : Database) (key : List UInt8) : Prop :=
  ∃ data, db.lookup key = some data ∧ isLegacy key data = true ∧ ¬ -2 ^ 31 ≤ legacyPort1 key

private theorem unfit_insert (found : db.lookup key = some data) (fits : -2 ^ 31 ≤ legacyPort1 key)
    (other : List UInt8) : Unfit (db.insert key (upgrade key data)) other ↔ db.Unfit other := by
  by_cases own : other = key
  · subst own
    refine iff_of_false ?_ fun ⟨_, _, _, unfit⟩ => unfit fits
    rintro ⟨upgraded, stored, legacy, -⟩
    rw [AList.lookup_insert, Option.some_inj] at stored
    rw [← stored, not_legacy_upgrade] at legacy
    cases legacy
  · rw [Unfit, AList.lookup_insert_ne own, Unfit]

private theorem foldlM_convertKey (keys : List (List UInt8)) (count : Nat) (db : Database) :
    (keys.foldlM (convertKey machine) (count, db) = none → ∃ key ∈ keys, db.Unfit key) ∧
      ∀ total next, keys.foldlM (convertKey machine) (count, db) = some (total, next) →
        Upgraded keys db next ∧ total + next.legacyCount = count + db.legacyCount ∧
          ∀ key ∈ keys, ¬ db.Unfit key := by
  induction keys generalizing count db with
  | nil =>
      refine ⟨fun fails => ?_, fun total next same => ?_⟩
      · cases fails
      · cases same
        exact ⟨fun _ => (if_neg List.not_mem_nil).symm, rfl,
          fun _ member => absurd member List.not_mem_nil⟩
  | cons key rest ih =>
      rw [List.foldlM_cons, Option.bind_eq_bind]
      by_cases legacy : ∃ data, db.lookup key = some data ∧ isLegacy key data = true
      · obtain ⟨data, found, legacy⟩ := legacy
        rw [convertKey_legacy found legacy]
        by_cases fits : -2 ^ 31 ≤ legacyPort1 key
        · rw [if_pos fits, Option.bind_some]
          obtain ⟨fails, succeeds⟩ := ih (count + 1) (db.insert key (upgrade key data))
          simp only [unfit_insert found fits] at fails succeeds
          refine ⟨fun none => ?_, fun total next some => ?_⟩
          · obtain ⟨other, member, unfit⟩ := fails none
            exact ⟨other, List.mem_cons_of_mem _ member, unfit⟩
          · obtain ⟨upgraded, counted, fit⟩ := succeeds total next some
            have one := legacyCount_insert found legacy
            refine ⟨upgraded.cons_insert found, by omega, fun other member => ?_⟩
            rcases List.mem_cons.mp member with rfl | behind
            · rintro ⟨_, _, _, unfit⟩
              exact unfit fits
            · exact fit other behind
        · rw [if_neg fits, Option.bind_none]
          refine ⟨fun _ => ⟨key, List.mem_cons_self, data, found, legacy, fits⟩, fun _ _ same => ?_⟩
          cases same
      · have others : ∀ data, db.lookup key = some data → isLegacy key data = false :=
          fun data found => Bool.not_eq_true _ ▸ fun isLegacy => legacy ⟨data, found, isLegacy⟩
        rw [convertKey_other others, Option.bind_some]
        obtain ⟨fails, succeeds⟩ := ih count db
        refine ⟨fun none => ?_, fun total next some => ?_⟩
        · obtain ⟨other, member, unfit⟩ := fails none
          exact ⟨other, List.mem_cons_of_mem _ member, unfit⟩
        · obtain ⟨upgraded, counted, fit⟩ := succeeds total next some
          refine ⟨upgraded.cons_other others, counted, fun other member => ?_⟩
          rcases List.mem_cons.mp member with rfl | behind
          · rintro ⟨data, found, isLegacy, -⟩
            exact legacy ⟨data, found, isLegacy⟩
          · exact fit other behind

/-- What is read of a legacy record once it has been converted: its secret and its timestamp,
the port1 that goes with its port2, and zeros. -/
structure FromLegacy (key data loaded : List UInt8) : Prop where
  timestamp : Field.timestamp.unsigned loaded = Field.timestamp.unsigned data
  secretKey : Field.secretKey.bytes loaded = Field.secretKey.bytes data
  port1 : Field.port1.signed loaded = legacyPort1 key
  rest : ∀ field : Field, 52 ≤ field.offset → field.unsigned loaded = 0

/-- What the readers find in a converted database. -/
structure Converted (db next : Database) : Prop where
  records : ∀ key, next.lookup key = (db.lookup key).map (upgrade key)
  /-- The other records are read as before. -/
  kept : ∀ port2, (∀ key data, packInt port2 = some key → db.lookup key = some data →
    isLegacy key data = false) → next.fetch port2 = db.fetch port2 ∧
      next.loadKey port2 = db.loadKey port2
  /-- A legacy record could not be read, and can be now if it has the magic. -/
  gained : ∀ port2 key data, packInt port2 = some key → db.lookup key = some data →
    isLegacy key data = true → db.loadKey port2 = none ∧
      ((next.loadKey port2).isSome ↔ Field.magic.unsigned data = magicValue) ∧
        ∀ loaded, next.loadKey port2 = some loaded → FromLegacy key data loaded

private theorem converted_of_upgraded {next : Database} (fit : ∀ key, ¬ db.Unfit key)
    (records : ∀ key, next.lookup key = (db.lookup key).map (upgrade key)) : Converted db next := by
  refine ⟨records, fun port2 others => ?_, fun port2 key data packs found legacy => ?_⟩
  · cases packs : packInt port2 with
    | none =>
        rw [fetch, fetch, loadKey, loadKey, packs]
        exact ⟨rfl, rfl⟩
    | some key =>
        have same : next.lookup key = db.lookup key := by
          rw [records key]
          cases found : db.lookup key with
          | none => rfl
          | some data =>
              rw [Option.map_some, upgrade, others key data packs found, if_neg Bool.false_ne_true]
        rw [fetch_of_key packs, fetch_of_key packs, loadKey_of_key packs, loadKey_of_key packs,
          same]
        exact ⟨rfl, rfl⟩
  · have sizes := of_decide_eq_true legacy
    have fits : -2 ^ 31 ≤ legacyPort1 key := by
      by_contra unfit
      exact fit key ⟨data, found, legacy, unfit⟩
    have length := upgrade_length legacy
    have magic : Field.magic.unsigned (upgrade key data) = Field.magic.unsigned data :=
      congrArg value (upgrade_front legacy (by decide))
    rw [loadKey_of_key packs, loadKey_of_key packs, records, found, Option.map_some,
      Option.bind_some, Option.bind_some]
    refine ⟨?_, ?_, fun loaded loads => ?_⟩
    · rw [dbLoadKey, if_pos]
      rw [sizes.2, legacySize, minSize]
      omega
    · have big : minSize ≤ (upgrade key data).length := by
        rw [length, minSize, entrySize]
        omega
      rw [Option.isSome_iff_exists]
      simp only [dbLoadKey_eq_some, Readable, magic, big, true_and, exists_and_left,
        exists_eq', and_true]
    · obtain ⟨-, rfl⟩ := dbLoadKey_eq_some.mp loads
      rw [extend_of_length length]
      exact ⟨congrArg value (upgrade_front legacy (by decide)), upgrade_front legacy (by decide),
        upgrade_port1 legacy fits, fun field behind => upgrade_rest legacy behind⟩

private theorem legacyCount_eq_zero {next : Database} (all : ∀ key, next.lookup key =
    (db.lookup key).map (upgrade key)) : next.legacyCount = 0 := by
  rw [legacyCount, List.countP_eq_zero]
  intro record member
  have found : next.lookup record.1 = some record.2 := AList.mem_lookup_iff.mpr member
  rw [all] at found
  obtain ⟨data, -, same⟩ := Option.map_eq_some_iff.mp found
  rw [← same, not_legacy_upgrade]
  exact Bool.false_ne_true

/-- Nothing is left to convert. -/
theorem convertDb_again {next : Database} (none_left : next.legacyCount = 0)
    (keys : List (List UInt8)) : next.convertDb machine keys = some (0, next) := by
  rw [legacyCount, List.countP_eq_zero] at none_left
  rw [convertDb]
  induction keys with
  | nil => rfl
  | cons key rest ih =>
      have others : ∀ data, next.lookup key = some data → isLegacy key data = false :=
        fun data found => (Bool.not_eq_true _).mp (none_left _ (AList.mem_lookup_iff.mp found))
      rw [List.foldlM_cons, convertKey_other others]
      exact ih

/-- **The conversion upgrades what it should and only that**, in whatever order and however often
it comes to the keys, as long as it comes to each: every legacy record is one that is read now,
with the secret it had, all else reads as before, the count is right, and another conversion
finds nothing to do. It fails just when some port1 would not be an `int`. -/
theorem run_convert (machine : Nat → Nat) (db : Database) {keys : List (List UInt8)}
    (complete : ∀ key ∈ db.keys, key ∈ keys) :
    (db.convertDb machine keys = none ↔ ∃ key, db.Unfit key) ∧
      ∀ count next, db.convertDb machine keys = some (count, next) →
        Converted db next ∧ count = db.legacyCount ∧
          ∀ again, next.convertDb machine again = some (0, next) := by
  obtain ⟨fails, succeeds⟩ := @foldlM_convertKey machine keys 0 db
  have known : ∀ key, db.lookup key ≠ none → key ∈ keys := by
    intro key found
    refine complete key (AList.mem_keys.mp (AList.lookup_isSome.mp ?_))
    exact Option.isSome_iff_ne_none.mpr found
  have all_fit : ∀ count next, db.convertDb machine keys = some (count, next) →
      ∀ key, ¬ db.Unfit key := by
    intro count next converts key unfit
    have member : key ∈ keys := by
      obtain ⟨data, found, -⟩ := unfit
      exact known key (by rw [found]; exact Option.some_ne_none data)
    exact (succeeds count next converts).2.2 key member unfit
  refine ⟨⟨fun none => ?_, ?_⟩, fun count next converts => ?_⟩
  · obtain ⟨key, -, unfit⟩ := fails none
    exact ⟨key, unfit⟩
  · rintro ⟨key, unfit⟩
    cases converts : db.convertDb machine keys with
    | none => rfl
    | some result => exact absurd unfit (all_fit result.1 result.2 converts key)
  · obtain ⟨upgraded, counted, -⟩ := succeeds count next converts
    have records : ∀ key, next.lookup key = (db.lookup key).map (upgrade key) := by
      intro key
      rw [upgraded key]
      by_cases member : key ∈ keys
      · rw [if_pos member]
      · have missing : db.lookup key = none := by
          by_contra found
          exact member (known key found)
        rw [if_neg member, missing, Option.map_none]
    have zero := legacyCount_eq_zero records
    refine ⟨converted_of_upgraded (all_fit count next converts) records, by omega, ?_⟩
    exact convertDb_again zero

/-- An old database with one entry, of the port pair 19002 and 20002. -/
def legacyRecords : Database :=
  AList.insert [0x22, 0x4e, 0, 0] (bytes 8 magicValue ++ bytes 8 7 ++ List.replicate 32 0x61) ∅

/-- One legacy record is converted, and the two other records stay. -/
theorem run_convert_legacyRecords :
    ∃ next, legacyRecords.convertDb id legacyRecords.keys = some (1, next) ∧
      Converted legacyRecords next ∧ next.ports2 = [20002] ∧ next.ports1 = [19002] := by
  have succeeds : (legacyRecords.convertDb id legacyRecords.keys).isSome = true := by
    decide +kernel
  obtain ⟨⟨count, next⟩, converts⟩ := Option.isSome_iff_exists.mp succeeds
  obtain ⟨-, all⟩ := run_convert id legacyRecords fun _ member => member
  obtain ⟨converted, rfl, -⟩ := all count next converts
  have one : legacyRecords.legacyCount = 1 := by decide +kernel
  have ports : (legacyRecords.convertDb id legacyRecords.keys).map
      (fun result => (result.2.ports2, result.2.ports1)) = some ([20002], [19002]) := by
    decide +kernel
  rw [converts, Option.map_some, Option.some_inj, Prod.mk.injEq] at ports
  rw [one] at converts
  exact ⟨next, converts, converted, ports⟩

end Database

end SupportProxy.Keydb
