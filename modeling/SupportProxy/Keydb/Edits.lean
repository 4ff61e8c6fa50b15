import SupportProxy.Keydb.Codec
import SupportProxy.Mavlink.SavedTimestamp

/-! # Single-field updates of a record

Every update of `keydb_lib.py` and of the proxy loads the whole record and stores it again.
`run_edits` says when, over any sequence of them, nothing but the named members changes and
the two implementations read the same values. -/

namespace SupportProxy.Keydb

open ByteLayout

variable {P : Type}

inductive Edit (P : Type)
  | setName (name : List Char)
  | setPass (passphrase : List UInt8)
  | resetTimestamp
  | setPort1 (port1 : Int)
  | setFlag (flagName : String)
  | clearFlag (flagName : String)
  | setLogRetention (days : Binary32.Number)
  | setFcSysid (sysid : Int)
  /-- the counters of a session that closes -/
  | closeCounters (count1 count2 : Nat)
  /-- `save_signing_timestamp` with the memory of the session -/
  | saveSigningTimestamp (now : Nat) (links : Nat → Link P)
  | setupSigning (packet : SetupSigning)

/-- `_flag_bit`, none for an unknown flag. -/
def flagBit : String → Option Nat
  | "admin" => some 1
  | "bidi_sign" => some 2
  | "tlog" => some 4
  | "binlog" => some 8
  | _ => none

/-- `DEFAULT_LOG_RETENTION_DAYS` -/
def defaultLogRetentionDays : Binary32.Number := .finite false 7 0

namespace PythonEntry

variable (sha256 : List UInt8 → SecretKey)

def setName (name : List Char) (entry : PythonEntry) : Option PythonEntry :=
  some { entry with name := name }

def setPass (passphrase : List UInt8) (entry : PythonEntry) : Option PythonEntry :=
  some { entry with secretKey := (sha256 passphrase).toList }

def resetTimestamp (entry : PythonEntry) : Option PythonEntry := some { entry with timestamp := 0 }

def setPort1 (port1 : Int) (entry : PythonEntry) : Option PythonEntry :=
  some { entry with port1 := port1 }

def setFlag (flagName : String) (entry : PythonEntry) : Option PythonEntry :=
  (flagBit flagName).map fun bit =>
    let wasSet := entry.flags &&& bit != 0
    { entry with
      flags := entry.flags ||| bit
      logRetentionDays :=
        if (bit = 4 ∨ bit = 8) ∧ wasSet = false ∧ entry.logRetentionDays.isZero then
          defaultLogRetentionDays
        else entry.logRetentionDays }

def clearFlag (flagName : String) (entry : PythonEntry) : Option PythonEntry :=
  (flagBit flagName).map fun bit => { entry with flags := entry.flags ^^^ (entry.flags &&& bit) }

def setLogRetention (days : Binary32.Number) (entry : PythonEntry) : Option PythonEntry :=
  if days.isNegative then none else some { entry with logRetentionDays := days }

def setFcSysid (sysid : Int) (entry : PythonEntry) : Option PythonEntry :=
  if sysid < 0 ∨ 255 < sysid then none else some { entry with fcSysid := sysid.toNat }

/-- The frame of the mutations: fetch, change, store. -/
def mutate (machine : Nat → Nat) (change : PythonEntry → Option PythonEntry)
    (data : List UInt8) : Option (List UInt8) := do
  let entry ← fetch data
  let changed ← change entry
  store machine data changed

end PythonEntry

/-- The end of `main_loop`. -/
def closeCounters (count1 count2 : Nat) (data : List UInt8) : Option (List UInt8) :=
  if count1 = 0 ∧ count2 = 0 then none
  else do
    let ke ← dbLoadKey data
    let ke := Field.count1.assignNumber (Field.count1.unsigned ke + count1) ke
    let ke := Field.count2.assignNumber (Field.count2.unsigned ke + count2) ke
    let ke := Field.connections.assignNumber (Field.connections.unsigned ke + 1) ke
    return dbSaveKey ke data

/-- `MAVLink::save_signing_timestamp` -/
def saveSigningTimestamp (now : Nat) (links : Nat → Link P) (data : List UInt8) :
    Option (List UInt8) := do
  let key ← dbLoadKey data
  let (timestamp, needSave) := (List.range commNumBuffers).foldl (saveChannel now links)
    (Field.timestamp.unsigned key, false)
  if needSave then return dbSaveKey (Field.timestamp.assignNumber timestamp key) data else none

/-- `MAVLink::handle_setup_signing` -/
def setupSigning (packet : SetupSigning) (data : List UInt8) : Option (List UInt8) := do
  let key ← dbLoadKey data
  let key := Field.timestamp.assignNumber packet.initialTimestamp key
  let key := Field.secretKey.assign packet.secretKey.toList key
  return dbSaveKey key data

namespace Edit

/-- Carried out by `keydb_lib.py`. -/
def isPython : Edit P → Bool
  | .closeCounters _ _ | .saveSigningTimestamp _ _ | .setupSigning _ => false
  | _ => true

/-- The members the update is about. -/
def names : Edit P → List Field
  | .setName _ => [.name]
  | .setPass _ => [.secretKey]
  | .resetTimestamp => [.timestamp]
  | .setPort1 _ => [.port1]
  | .setFlag _ => [.flags, .logRetentionDays]
  | .clearFlag _ => [.flags]
  | .setLogRetention _ => [.logRetentionDays]
  | .setFcSysid _ => [.fcSysid]
  | .closeCounters _ _ => [.connections, .count1, .count2]
  | .saveSigningTimestamp _ _ => [.timestamp]
  | .setupSigning _ => [.timestamp, .secretKey]

variable (machine : Nat → Nat) (sha256 : List UInt8 → SecretKey)

/-- The change of a Python update. -/
def change : Edit P → PythonEntry → Option PythonEntry
  | .setName name => PythonEntry.setName name
  | .setPass passphrase => PythonEntry.setPass sha256 passphrase
  | .resetTimestamp => PythonEntry.resetTimestamp
  | .setPort1 port1 => PythonEntry.setPort1 port1
  | .setFlag flagName => PythonEntry.setFlag flagName
  | .clearFlag flagName => PythonEntry.clearFlag flagName
  | .setLogRetention days => PythonEntry.setLogRetention days
  | .setFcSysid sysid => PythonEntry.setFcSysid sysid
  | _ => fun _ => none

/-- The record that is stored, if one is. -/
def update (edit : Edit P) (data : List UInt8) : Option (List UInt8) :=
  match edit with
  | .closeCounters count1 count2 => Keydb.closeCounters count1 count2 data
  | .saveSigningTimestamp now links => Keydb.saveSigningTimestamp now links data
  | .setupSigning packet => Keydb.setupSigning packet data
  | edit => PythonEntry.mutate machine (edit.change sha256) data

/-- The record after the update, which cancels its transaction if it stores none. -/
def apply (edit : Edit P) (data : List UInt8) : List UInt8 :=
  (edit.update machine sha256 data).getD data

end Edit

/-- A stored record: behind the struct nothing changes, and of the members that are not named
what the codec makes of them. -/
structure Rewrites (codec : Field → List UInt8 → List UInt8) (names : List Field)
    (data stored : List UInt8) : Prop where
  readable : Readable data
  length : stored.length = max entrySize data.length
  tail : stored.drop entrySize = data.drop entrySize
  fields : ∀ field ∈ Field.all, field ∉ names → field.bytes stored = codec field (field.bytes data)

/-- A stored record is an entry again. -/
theorem Rewrites.readable_stored {codec : Field → List UInt8 → List UInt8} {names : List Field}
    {data stored : List UInt8} (rewrites : Rewrites codec names data stored)
    (unnamed : Field.magic ∉ names)
    (kept : codec .magic (Field.magic.bytes data) = Field.magic.bytes data) : Readable stored := by
  refine ⟨?_, ?_⟩
  · rw [rewrites.length, entrySize, minSize]
    omega
  · rw [Field.unsigned, rewrites.fields .magic (by simp [Field.all]) unnamed, kept]
    exact rewrites.readable.2

/-- A change of an entry that keeps the members that are not named. -/
structure Only (machine : Nat → Nat) (names : List Field) (entry changed : PythonEntry) : Prop where
  tail : changed.tail = entry.tail
  fields : ∀ field ∈ Field.all, field ∉ names →
    changed.packedField machine field = entry.packedField machine field

namespace Only

variable {machine : Nat → Nat} {names : List Field} {entry middle changed : PythonEntry}

/-- One argument of `struct.pack` changes. -/
theorem of_set (index : Fin 12) (part : Option (List UInt8)) (tail : changed.tail = entry.tail)
    (packs : changed.packed machine = (entry.packed machine).set index part)
    (named : Field.all.get index ∈ names) : Only machine names entry changed := by
  refine ⟨tail, fun field _ unnamed => ?_⟩
  rw [PythonEntry.packedField, packs, PythonEntry.packedField, lookup_zip_set]
  intro found
  obtain ⟨_, here⟩ := List.getElem?_eq_some_iff.mp found
  rw [← here] at unnamed
  exact unnamed named

private theorem trans (first : Only machine names entry middle)
    (second : Only machine names middle changed) :
    Only machine names entry changed :=
  ⟨second.tail.trans first.tail, fun field member unnamed =>
    (second.fields field member unnamed).trans (first.fields field member unnamed)⟩

end Only

/-- A setter of `keydb_lib.py` rewrites the record up to the fields that it is about. -/
theorem PythonEntry.mutate_rewrites {machine : Nat → Nat} {names : List Field}
    {change : PythonEntry → Option PythonEntry} {data stored : List UInt8}
    (only : ∀ entry changed, change entry = some changed → Only machine names entry changed)
    (stores : mutate machine change data = some stored) :
    Rewrites (repacked machine) names data stored := by
  obtain ⟨entry, fetches, stores⟩ := Option.bind_eq_some_iff.mp stores
  obtain ⟨changed, changes, stores⟩ := Option.bind_eq_some_iff.mp stores
  obtain ⟨readable, unpacks⟩ := fetch_eq_some.mp fetches
  have kept := only entry changed changes
  have entry_tail : entry.tail = data.drop entrySize := by
    have whole := unpack_eq readable.1
    rw [unpacks] at whole
    rw [Option.some.inj whole]
  -- the tail that `store` finds is the one `fetch` found
  have stored_eq : changed.pack machine = some stored := by
    rw [store] at stores
    split_ifs at stores
    · rw [← entry_tail, ← kept.tail] at stores
      exact stores
    · exact stores
  obtain ⟨-, length, tail⟩ := pack_eq_some stored_eq
  rw [kept.tail, entry_tail] at length tail
  refine ⟨readable, ?_, tail, ?_⟩
  · rw [length, List.length_drop]
    omega
  · intro field member unnamed
    have packs := packedField_of_pack stored_eq member
    rw [kept.fields field member unnamed, packedField_of_unpack unpacks member] at packs
    exact (Option.some.inj packs).symm

namespace Edit

variable {machine : Nat → Nat} {sha256 : List UInt8 → SecretKey}

/-- A Python update changes the members it names. -/
theorem change_only (edit : Edit P) {entry changed : PythonEntry}
    (changes : edit.change sha256 entry = some changed) :
    Only machine edit.names entry changed := by
  cases edit with
  | setName name =>
      cases changes
      exact .of_set 7 _ rfl rfl List.mem_cons_self
  | setPass passphrase =>
      cases changes
      exact .of_set 2 _ rfl rfl List.mem_cons_self
  | resetTimestamp =>
      cases changes
      exact .of_set 1 _ rfl rfl List.mem_cons_self
  | setPort1 port1 =>
      cases changes
      exact .of_set 3 _ rfl rfl List.mem_cons_self
  | setFlag flagName =>
      obtain ⟨bit, -, rfl⟩ := Option.map_eq_some_iff.mp changes
      have flags : Only machine [.flags, .logRetentionDays] entry
          { entry with flags := entry.flags ||| bit } := .of_set 8 _ rfl rfl List.mem_cons_self
      exact flags.trans (.of_set 9 _ rfl rfl (List.mem_cons_of_mem _ List.mem_cons_self))
  | clearFlag flagName =>
      obtain ⟨bit, -, rfl⟩ := Option.map_eq_some_iff.mp changes
      exact .of_set 8 _ rfl rfl List.mem_cons_self
  | setLogRetention days =>
      rw [change, PythonEntry.setLogRetention] at changes
      split_ifs at changes
      cases changes
      exact .of_set 9 _ rfl rfl List.mem_cons_self
  | setFcSysid sysid =>
      rw [change, PythonEntry.setFcSysid] at changes
      split_ifs at changes
      cases changes
      exact .of_set 10 _ rfl rfl List.mem_cons_self
  | closeCounters _ _ => cases changes
  | saveSigningTimestamp _ _ => cases changes
  | setupSigning _ => cases changes

end Edit

/-! ## The updates of the proxy -/

section Assign

variable {field : Field} {part key : List UInt8}

/-- Assigning a field leaves the length of a record. -/
theorem Field.assign_length (member : field ∈ all) (length : part.length = field.width)
    (size : key.length = entrySize) : (field.assign part key).length = entrySize := by
  have inside := inside_all field member
  rw [assign, splice_length (by omega), size]

/-- The other members after an assignment. -/
theorem Field.bytes_assign_other (member : field ∈ all) (length : part.length = field.width)
    (size : key.length = entrySize) {other : Field} (otherMember : other ∈ all)
    (different : other ≠ field) : other.bytes (field.assign part key) = other.bytes key := by
  have inside := inside_all field member
  have apart := apart_all other otherMember field member different
  rw [bytes, bytes, extend_of_length (assign_length member length size), extend_of_length size]
  exact slice_splice_other (by omega) (by omega)

/-- The member that is assigned to. -/
theorem Field.bytes_assign_self (member : field ∈ all) (length : part.length = field.width)
    (size : key.length = entrySize) : field.bytes (field.assign part key) = part := by
  have inside := inside_all field member
  rw [bytes, extend_of_length (assign_length member length size), ← length]
  exact slice_splice (by omega)

/-- The members of a saved struct. -/
theorem bytes_dbSaveKey (size : key.length = entrySize) (other : Field) (orig : List UInt8) :
    other.bytes (dbSaveKey key orig) = other.bytes key := by
  have front : extend entrySize (dbSaveKey key orig) = key := by
    rw [dbSaveKey, extend, List.length_append, size, Nat.sub_eq_zero_of_le (Nat.le_add_right _ _),
      List.replicate_zero, List.append_nil, ← size, List.take_left]
  rw [← Field.bytes_extend, front]

end Assign

/-- A struct that has been assigned to in the named members. -/
structure Assigned (names : List Field) (key changed : List UInt8) : Prop where
  size : changed.length = entrySize
  fields : ∀ field ∈ Field.all, field ∉ names → field.bytes changed = field.bytes key

namespace Assigned

variable {names : List Field} {key changed : List UInt8}

private theorem loaded {data : List UInt8} (loads : dbLoadKey data = some key) :
    Assigned names key key := by
  refine ⟨?_, fun _ _ _ => rfl⟩
  rw [← (dbLoadKey_eq_some.mp loads).2, extend_length]

private theorem assign (assigned : Assigned names key changed) {field : Field}
    (member : field ∈ Field.all)
    (named : field ∈ names) {part : List UInt8} (length : part.length = field.width) :
    Assigned names key (field.assign part changed) := by
  refine ⟨Field.assign_length member length assigned.size, fun other otherMember unnamed => ?_⟩
  have different : other ≠ field := by
    rintro rfl
    exact unnamed named
  rw [Field.bytes_assign_other member length assigned.size otherMember different,
    assigned.fields other otherMember unnamed]

private theorem assignNumber (assigned : Assigned names key changed) {field : Field}
    (member : field ∈ Field.all) (named : field ∈ names) (number : Nat) :
    Assigned names key (field.assignNumber number changed) :=
  assigned.assign member named (bytes_length _ _)

/-- It is saved. -/
theorem rewrites (assigned : Assigned names key changed) {data : List UInt8}
    (loads : dbLoadKey data = some key) :
    Rewrites (fun _ part => part) names data (dbSaveKey changed data) := by
  obtain ⟨readable, rfl⟩ := dbLoadKey_eq_some.mp loads
  have size := assigned.size
  refine ⟨readable, ?_, ?_, ?_⟩
  · rw [dbSaveKey, List.length_append, size, List.length_drop]
    omega
  · rw [dbSaveKey, ← size, List.drop_left]
  · intro field member unnamed
    rw [bytes_dbSaveKey size, assigned.fields field member unnamed, Field.bytes_extend]

end Assigned

namespace Edit

variable {machine : Nat → Nat} {sha256 : List UInt8 → SecretKey}

/-- What an update makes of the members it does not name. -/
def codec (machine : Nat → Nat) (edit : Edit P) : Field → List UInt8 → List UInt8 :=
  if edit.isPython then PythonEntry.repacked machine else fun _ part => part

/-- An edit rewrites the record up to the fields that it is about. -/
theorem update_rewrites (edit : Edit P) {data stored : List UInt8}
    (stores : edit.update machine sha256 data = some stored) :
    Rewrites (edit.codec machine) edit.names data stored := by
  cases edit with
  | closeCounters count1 count2 =>
      rw [update, Keydb.closeCounters] at stores
      split_ifs at stores
      obtain ⟨key, loads, stores⟩ := Option.bind_eq_some_iff.mp stores
      rw [← Option.some.inj stores]
      have start : Assigned [.connections, .count1, .count2] key key := .loaded loads
      refine Assigned.rewrites (.assignNumber (.assignNumber (.assignNumber start ?_ ?_ _) ?_ ?_ _)
        ?_ ?_ _) loads <;> simp [Field.all]
  | saveSigningTimestamp now links =>
      obtain ⟨key, loads, stores⟩ := Option.bind_eq_some_iff.mp stores
      dsimp only at stores
      split_ifs at stores
      rw [← Option.some.inj stores]
      have start : Assigned [.timestamp] key key := .loaded loads
      refine Assigned.rewrites (.assignNumber start ?_ ?_ _) loads <;> simp [Field.all]
  | setupSigning packet =>
      obtain ⟨key, loads, stores⟩ := Option.bind_eq_some_iff.mp stores
      rw [← Option.some.inj stores]
      have start : Assigned [.timestamp, .secretKey] key key := .loaded loads
      have length : packet.secretKey.toList.length = Field.secretKey.width :=
        packet.secretKey.length_toList
      refine Assigned.rewrites (.assign (.assignNumber start ?_ ?_ _) ?_ ?_ length) loads <;>
        simp [Field.all]
  | _ => exact PythonEntry.mutate_rewrites (fun _ _ changes => change_only _ changes) stores

private theorem names_subset (edit : Edit P) : edit.names ⊆ Field.all := by
  cases edit <;> simp [names, Field.all]

private theorem magic_unnamed (edit : Edit P) : Field.magic ∉ edit.names := by
  cases edit <;> simp only [names] <;> decide

/-- What an edit stores is readable. -/
theorem update_readable (edit : Edit P) {data stored : List UInt8}
    (stores : edit.update machine sha256 data = some stored) : Readable stored := by
  refine (edit.update_rewrites stores).readable_stored edit.magic_unnamed ?_
  rw [codec]
  cases edit.isPython <;> rfl

/-- A retention that a Python update does not name survives it. -/
def RetentionSurvives (machine : Nat → Nat) (edit : Edit P) (data : List UInt8) : Prop :=
  edit.isPython = true → Field.logRetentionDays ∉ edit.names →
    Survives machine (Field.logRetentionDays.unsigned data)

/-- A Python update preserves the rest of a record just when the name is a text, or is set, and
the retention survives. -/
theorem preserves_update_iff (edit : Edit P) {data stored : List UInt8}
    (stores : edit.update machine sha256 data = some stored) :
    Preserves edit.names data stored ↔
      (edit.isPython = true → Field.name ∉ edit.names →
        Utf8.Valid (Field.name.bytes data)) ∧ edit.RetentionSurvives machine data := by
  have rewrites := edit.update_rewrites stores
  have fields := rewrites.fields
  rw [preserves_iff edit.names_subset rewrites.length, RetentionSurvives]
  rw [codec] at fields
  cases python : edit.isPython with
  | false =>
      rw [python, if_neg Bool.false_ne_true] at fields
      exact iff_of_true ⟨rewrites.tail, fields⟩ ⟨by simp, by simp⟩
  | true =>
      rw [python, if_pos rfl] at fields
      constructor
      · rintro ⟨-, kept⟩
        have each : ∀ field ∈ Field.all, field ∉ edit.names →
            PythonEntry.repacked machine field (field.bytes data) = field.bytes data :=
          fun field member unnamed =>
            (fields field member unnamed).symm.trans (kept field member unnamed)
        refine ⟨fun _ unnamed => ?_, fun _ unnamed => ?_⟩
        · have inAll : Field.name ∈ Field.all := by simp [Field.all]
          exact ((PythonEntry.repacked_eq_iff inAll data).mp (each _ inAll unnamed)).1 rfl
        · have inAll : Field.logRetentionDays ∈ Field.all := by simp [Field.all]
          exact ((PythonEntry.repacked_eq_iff inAll data).mp (each _ inAll unnamed)).2 rfl
      · rintro ⟨name, retention⟩
        refine ⟨rewrites.tail, fun field member unnamed => ?_⟩
        rw [fields field member unnamed]
        refine (PythonEntry.repacked_eq_iff member data).mpr ⟨?_, ?_⟩
        · rintro rfl
          exact name rfl unnamed
        · rintro rfl
          exact retention rfl unnamed

end Edit

section Run

variable (machine : Nat → Nat) (sha256 : List UInt8 → SecretKey) (initial : List UInt8)

/-- The record after a sequence of updates, the last one first. -/
abbrev after (history : List (Edit P)) : List UInt8 :=
  History.replay (Edit.apply machine sha256) initial history

variable {machine sha256 initial} in
private theorem run_readable (readable : Readable initial) (history : List (Edit P)) :
    Readable (after machine sha256 initial history) := by
  induction history with
  | nil => exact readable
  | cons edit before ih =>
      rw [after, History.replay_cons, Edit.apply]
      cases stores : edit.update machine sha256 (after machine sha256 initial before) with
      | none => exact ih
      | some stored => exact edit.update_readable stores

variable {machine sha256} in
/-- One step: with a name that is a text, the rest is preserved just when the retention
survives. -/
theorem step_edits (edit : Edit P) {data : List UInt8}
    (valid : Utf8.Valid (Field.name.bytes data)) :
    (∀ stored, edit.update machine sha256 data = some stored →
        Preserves edit.names data stored) ↔
      ((edit.update machine sha256 data).isSome = true → edit.RetentionSurvives machine data) := by
  cases stores : edit.update machine sha256 data with
  | none => exact iff_of_true (by simp) (by simp)
  | some stored =>
      have preserves := edit.preserves_update_iff stores
      constructor
      · intro kept _
        exact (preserves.mp (kept stored rfl)).2
      · rintro survives _ ⟨rfl⟩
        exact preserves.mpr ⟨fun _ _ => valid, survives rfl⟩

/-- Over any sequence of updates by both implementations, nothing but the members each update
names changes, and both read the same values of every record, just when every name in between
is a text and the retention survives every Python update. -/
theorem run_edits (readable : Readable initial) (history : List (Edit P)) :
    ((∀ earlier, earlier <:+ history → ReadsAlike (after machine sha256 initial earlier)) ∧
      History.Guarded (Edit.apply machine sha256) initial (fun data edit => ∀ stored,
        edit.update machine sha256 data = some stored → Preserves edit.names data stored)
        history) ↔
    (∀ earlier, earlier <:+ history →
        Utf8.Valid (Field.name.bytes (after machine sha256 initial earlier))) ∧
      History.Guarded (Edit.apply machine sha256) initial (fun data edit =>
        (edit.update machine sha256 data).isSome = true → edit.RetentionSurvives machine data)
        history := by
  have reads : ∀ earlier : List (Edit P), ReadsAlike (after machine sha256 initial earlier) ↔
      Utf8.Valid (Field.name.bytes (after machine sha256 initial earlier)) :=
    fun earlier => readsAlike_iff (run_readable readable earlier)
  simp only [reads]
  refine and_congr_right fun valid => ?_
  rw [History.Guarded, History.Guarded, History.obeys_iff_suffix, History.obeys_iff_suffix]
  refine forall_congr' fun edit => forall_congr' fun before => forall_congr' fun suffix => ?_
  exact step_edits edit (valid before ((List.suffix_cons edit before).trans suffix))

end Run

/-- A record with a magic number and nothing else. -/
def blankRecord : List UInt8 := extend entrySize (bytes 8 magicValue)

/-- What a processor makes of a NaN: a quiet one. -/
def quiet (bits : Nat) : Nat := bits ||| 2 ^ 22

/-- A digest that no update below asks for. -/
def unusedDigest (_ : List UInt8) : SecretKey := Vector.replicate 32 0

/-- A name with an accent, a session and a flag. -/
def accentedEdits : List (Edit Unit) :=
  [.setFlag "tlog", .closeCounters 3 4, .setName "Zürich".toList]

/-- Edits of both languages around a name with an accent. -/
theorem run_edits_accented :
    (∀ earlier, earlier <:+ accentedEdits →
        ReadsAlike (after quiet unusedDigest blankRecord earlier)) ∧
      History.Guarded (Edit.apply quiet unusedDigest) blankRecord
        (fun data edit => ∀ stored, edit.update quiet unusedDigest data = some stored →
          Preserves edit.names data stored) accentedEdits := by
  have readable : Readable blankRecord := ⟨by decide +kernel, by decide +kernel⟩
  refine (run_edits quiet unusedDigest blankRecord readable accentedEdits).mpr ⟨?_, ?_⟩
  · intro earlier suffix
    have texts : ∀ earlier ∈ accentedEdits.tails, Utf8.Valid
        (Field.name.bytes (after quiet unusedDigest blankRecord earlier)) := by decide +kernel
    exact texts earlier ((List.mem_tails _ _).mpr suffix)
  · have named : Field.logRetentionDays ∈ Edit.names (.setFlag "tlog" : Edit Unit) := by
      simp [Edit.names]
    refine ⟨?_, ?_, ?_, trivial⟩
    · intro _ _ unnamed
      exact absurd named unnamed
    · intro _ python
      cases python
    · intro _ _ _ nan
      exact absurd nan (by decide +kernel)

/-- A name of 31 letters and an accented one, which is cut within its last letter. -/
def cutName : List UInt8 :=
  after quiet unusedDigest blankRecord
    ([.setName "abcdefghijklmnopqrstuvwxyz01234é".toList] : List (Edit Unit))

/-- Resetting the timestamp then drops the first half of the letter from the name. -/
theorem cutName_dropped :
    Readable cutName ∧ ¬ ReadsAlike cutName ∧
      ∃ stored, Edit.update quiet unusedDigest (.resetTimestamp : Edit Unit) cutName =
        some stored ∧ ¬ Preserves [.timestamp] cutName stored := by
  have readable : Readable cutName := ⟨by decide +kernel, by decide +kernel⟩
  refine ⟨readable, ?_, ?_⟩
  · rw [readsAlike_iff readable]
    decide +kernel
  · have stores : (Edit.update quiet unusedDigest (.resetTimestamp : Edit Unit) cutName).isSome =
      true := by decide +kernel
    obtain ⟨stored, stores⟩ := Option.isSome_iff_exists.mp stores
    refine ⟨stored, stores, fun preserves => ?_⟩
    have kept := preserves.same 95 (by decide)
    have dropped : (Edit.update quiet unusedDigest (.resetTimestamp : Edit Unit) cutName).map
        (fun stored => stored[95]?) = some (some 0) := by decide +kernel
    have before : (widened cutName)[95]? = some 0xC3 := by decide +kernel
    rw [stores, Option.map_some, kept, before] at dropped
    exact absurd dropped (by decide)

end SupportProxy.Keydb
