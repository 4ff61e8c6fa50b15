import SupportProxy.Keydb.Edits
import SupportProxy.Library.Transactions

/-! # Operations on an entry

Everything that writes an entry of keys.tdb: the single-field updates, the forms of the web
admin, and adding and removing the entry. Each runs in a transaction of its own. `run_keys`
says that no update is lost. -/

namespace SupportProxy.Keydb

open ByteLayout

variable {P : Type}

/-- `OwnerEditForm` -/
structure EditForm where
  name : Option (List Char)
  /-- empty to keep the passphrase -/
  newPassphrase : List UInt8
  bidiSign : Bool
  tlogEnabled : Bool
  binlogEnabled : Bool
  logRetentionDays : Option Binary32.Number
  fcSysid : Option Nat
  resetTimestamp : Bool

/-- `AdminEditForm` -/
structure AdminForm extends EditForm where
  port1 : Int
  isAdmin : Bool

/-- `ke.flags |= bit` or `ke.flags &= ~bit` -/
def withFlag (bit : Nat) (on : Bool) (flags : Nat) : Nat :=
  if on then flags ||| bit else flags ^^^ (flags &&& bit)

namespace EditForm

variable (sha256 : List UInt8 → SecretKey) (form : EditForm)

/-- The retention after an edit: of a recording that is first enabled it is not kept forever. -/
def retention (flags : Nat) (entry : PythonEntry) : Binary32.Number :=
  let submitted := form.logRetentionDays.getD entry.logRetentionDays
  let justEnabled := (form.tlogEnabled && flags &&& 4 == 0) ||
    (form.binlogEnabled && flags &&& 8 == 0)
  if justEnabled && submitted.isZero &&
      (form.logRetentionDays.all Binary32.Number.isZero) then defaultLogRetentionDays
  else submitted

/-- The part of `me` and `edit` that the two routes share, from the passphrase on. -/
def submit (entry : PythonEntry) : PythonEntry :=
  let flags := withFlag 2 form.bidiSign entry.flags
  { entry with
    secretKey := if form.newPassphrase = [] then entry.secretKey
      else (sha256 form.newPassphrase).toList
    flags := withFlag 8 form.binlogEnabled (withFlag 4 form.tlogEnabled flags)
    logRetentionDays := form.retention flags entry
    fcSysid := form.fcSysid.getD entry.fcSysid
    timestamp := if form.resetTimestamp then 0 else entry.timestamp }

/-- `me` in `routes_owner.py` -/
def ownerEdit (entry : PythonEntry) : Option PythonEntry :=
  some (form.submit sha256 { entry with name := form.name.getD entry.name })

end EditForm

/-- `edit` in `routes_admin.py`. What it finds in the other entries is the number of admins and
whether the new port is taken. -/
def AdminForm.adminEdit (sha256 : List UInt8 → SecretKey) (form : AdminForm) (admins : Nat)
    (portTaken : Bool) (entry : PythonEntry) : Option PythonEntry :=
  let makingNonAdmin := entry.flags &&& 1 != 0 && !form.isAdmin
  if makingNonAdmin ∧ admins ≤ 1 then none
  else if form.port1 ≠ entry.port1 ∧ portTaken then none
  else
    some (form.submit sha256
      { entry with
        name := form.name.getD []
        port1 := form.port1
        flags := withFlag 1 form.isAdmin entry.flags })

/-- `KeyEntry(port2)` with the arguments of `add_entry`. -/
def PythonEntry.new (sha256 : List UInt8 → SecretKey) (port1 : Int) (name : List Char)
    (passphrase : List UInt8) : PythonEntry where
  magic := magicValue
  timestamp := 0
  secretKey := (sha256 passphrase).toList
  port1 := port1
  connections := 0
  count1 := 0
  count2 := 0
  name := name
  flags := 0
  logRetentionDays := .finite false 0 0
  fcSysid := 0
  reserved := List.replicate reservedWords 0
  tail := []

/-- What is done to an entry, with its own inputs. -/
inductive Operation (P : Type)
  | edit (update : Edit P)
  | ownerEdit (form : EditForm)
  | adminEdit (form : AdminForm) (admins : Nat) (portTaken : Bool)
  | addEntry (port1 : Int) (name : List Char) (passphrase : List UInt8) (portTaken : Bool)
  | removeEntry
  /-- `delete` in `routes_admin.py` -/
  | delete (admins : Nat)

namespace Operation

variable (machine : Nat → Nat) (sha256 : List UInt8 → SecretKey)

/-- The operation on the record of the entry: none if it stores nothing. A removal stores that
there is no record. -/
def run (operation : Operation P) (record : Option (List UInt8)) : Option (Option (List UInt8)) :=
  match operation with
  | .edit update => record.bind fun data => (update.update machine sha256 data).map some
  | .ownerEdit form => record.bind fun data =>
      (PythonEntry.mutate machine (form.ownerEdit sha256) data).map some
  | .adminEdit form admins portTaken => record.bind fun data =>
      (PythonEntry.mutate machine (form.adminEdit sha256 admins portTaken) data).map some
  | .addEntry port1 name passphrase portTaken =>
      -- an entry that is there has its ports taken
      if portTaken || (record.bind PythonEntry.fetch).isSome then none
      else (PythonEntry.store machine (record.getD []) (.new sha256 port1 name passphrase)).map some
  | .removeEntry => (record.bind PythonEntry.fetch).map fun _ => none
  | .delete admins => (record.bind PythonEntry.fetch).bind fun entry =>
      if entry.flags &&& 1 ≠ 0 ∧ admins ≤ 1 then none else some none

/-- The operation removes the entry. -/
def removes : Operation P → Bool
  | .removeEntry | .delete _ => true
  | _ => false

/-- What the operation adds to a counter. -/
def adds (field : Field) : Operation P → Nat
  | .edit (.closeCounters count1 count2) =>
      if field = .count1 then count1
      else if field = .count2 then count2
      else if field = .connections ∧ ¬ (count1 = 0 ∧ count2 = 0) then 1
      else 0
  | _ => 0

end Operation

/-! ## Counters -/

/-- The counters of a session. -/
def counters : List Field := [.connections, .count1, .count2]

/-- What the forms of the web admin are about. -/
def formNames : List Field :=
  [.timestamp, .secretKey, .port1, .name, .flags, .logRetentionDays, .fcSysid]

/-- A form changes none of the other members. -/
theorem Only.of_form {machine : Nat → Nat} {entry changed : PythonEntry}
    (magic : changed.magic = entry.magic) (connections : changed.connections = entry.connections)
    (count1 : changed.count1 = entry.count1) (count2 : changed.count2 = entry.count2)
    (reserved : changed.reserved = entry.reserved) (tail : changed.tail = entry.tail) :
    Only machine formNames entry changed := by
  refine ⟨tail, fun field member unnamed => ?_⟩
  simp only [formNames, List.mem_cons, List.not_mem_nil, or_false, not_or] at unnamed
  obtain ⟨notTimestamp, notKey, notPort, notName, notFlags, notRetention, notSysid⟩ := unnamed
  simp only [Field.all, List.mem_cons, List.not_mem_nil, or_false] at member
  rcases member with rfl | rfl | rfl | rfl | rfl | rfl | rfl | rfl | rfl | rfl | rfl | rfl
  · exact congrArg (packUnsigned 8) magic
  · exact absurd rfl notTimestamp
  · exact absurd rfl notKey
  · exact absurd rfl notPort
  · exact congrArg (packUnsigned 4) connections
  · exact congrArg (packUnsigned 4) count1
  · exact congrArg (packUnsigned 4) count2
  · exact absurd rfl notName
  · exact absurd rfl notFlags
  · exact absurd rfl notRetention
  · exact absurd rfl notSysid
  · exact congrArg (fun words => packWords ((Padding.fill 0 reservedWords words).take
      reservedWords)) reserved

section Forms

variable {machine : Nat → Nat} {sha256 : List UInt8 → SecretKey} {entry changed : PythonEntry}

/-- The owner's form changes no other fields. -/
theorem EditForm.ownerEdit_only {form : EditForm}
    (edits : form.ownerEdit sha256 entry = some changed) :
    Only machine formNames entry changed := by
  cases edits
  exact .of_form rfl rfl rfl rfl rfl rfl

private theorem AdminForm.adminEdit_only {form : AdminForm} {admins : Nat} {portTaken : Bool}
    (edits : form.adminEdit sha256 admins portTaken entry = some changed) :
    Only machine formNames entry changed := by
  rw [adminEdit] at edits
  split_ifs at edits
  cases edits
  exact .of_form rfl rfl rfl rfl rfl rfl

end Forms

/-- A counter is no name and no retention. -/
theorem repacked_counter (machine : Nat → Nat) {field : Field} (counter : field ∈ counters)
    (part : List UInt8) : PythonEntry.repacked machine field part = part := by
  simp only [counters, List.mem_cons, List.not_mem_nil, or_false] at counter
  rcases counter with rfl | rfl | rfl <;> rfl

private theorem counters_subset : counters ⊆ Field.all := by simp [counters, Field.all]

private theorem counters_width {field : Field} (counter : field ∈ counters) : field.width = 4 := by
  simp only [counters, List.mem_cons, List.not_mem_nil, or_false] at counter
  rcases counter with rfl | rfl | rfl <;> rfl

/-- Of a counter that is not named nothing changes. -/
theorem Rewrites.counter {codec : Field → List UInt8 → List UInt8} {names : List Field}
    {data stored : List UInt8} (rewrites : Rewrites codec names data stored) {field : Field}
    (counter : field ∈ counters) (unnamed : field ∉ names)
    (kept : codec field (field.bytes data) = field.bytes data) :
    field.unsigned stored = field.unsigned data % 2 ^ 32 := by
  have member := counters_subset counter
  have small := value_lt (field.bytes data)
  rw [Field.bytes_length member, counters_width counter] at small
  rw [Field.unsigned, rewrites.fields field member unnamed, kept, Field.unsigned,
    Nat.mod_eq_of_lt (by omega)]

/-- The number that is assigned to a counter. -/
theorem unsigned_assignNumber {field : Field} (counter : field ∈ counters) {key : List UInt8}
    (size : key.length = entrySize) (number : Nat) :
    (field.assignNumber number key).length = entrySize ∧
      field.unsigned (field.assignNumber number key) = number % 2 ^ 32 ∧
      ∀ other ∈ counters, other ≠ field →
        other.unsigned (field.assignNumber number key) = other.unsigned key := by
  have member := counters_subset counter
  have length : (bytes field.width number).length = field.width := bytes_length _ _
  refine ⟨Field.assign_length member length size, ?_, fun other otherCounter different => ?_⟩
  · rw [Field.unsigned, Field.assignNumber, Field.bytes_assign_self member length size,
      value_bytes, counters_width counter]
    norm_num
  · rw [Field.unsigned, Field.assignNumber, Field.bytes_assign_other member length size
      (counters_subset otherCounter) different, Field.unsigned]

/-- The counters after a session. -/
theorem closeCounters_counter {count1 count2 : Nat} {data stored : List UInt8}
    (stores : closeCounters count1 count2 data = some stored) {field : Field}
    (counter : field ∈ counters) :
    field.unsigned stored = (field.unsigned data +
      Operation.adds field (.edit (.closeCounters count1 count2) : Operation P)) % 2 ^ 32 := by
  rw [closeCounters] at stores
  split_ifs at stores with idle
  obtain ⟨key, loads, stores⟩ := Option.bind_eq_some_iff.mp stores
  obtain ⟨readable, rfl⟩ := dbLoadKey_eq_some.mp loads
  have one : Field.count1 ∈ counters := by simp [counters]
  have two : Field.count2 ∈ counters := by simp [counters]
  have connected : Field.connections ∈ counters := by simp [counters]
  have size := extend_length entrySize data
  obtain ⟨size1, self1, other1⟩ := unsigned_assignNumber one size
    (Field.count1.unsigned (extend entrySize data) + count1)
  obtain ⟨size2, self2, other2⟩ := unsigned_assignNumber two size1
    (Field.count2.unsigned _ + count2)
  obtain ⟨size3, self3, other3⟩ := unsigned_assignNumber connected size2
    (Field.connections.unsigned _ + 1)
  rw [← Option.some.inj stores, Field.unsigned, bytes_dbSaveKey size3, ← Field.unsigned]
  simp only [counters, List.mem_cons, List.not_mem_nil, or_false] at counter
  rcases counter with rfl | rfl | rfl
  · have adds : Operation.adds .connections
        (.edit (.closeCounters count1 count2) : Operation P) = 1 := if_pos ⟨rfl, idle⟩
    rw [self3, other2 _ connected (by decide), other1 _ connected (by decide),
      Field.unsigned_extend, adds]
  · rw [other3 _ one (by decide), other2 _ one (by decide), self1, Field.unsigned_extend]
    rfl
  · rw [other3 _ two (by decide), self2, other1 _ two (by decide), Field.unsigned_extend]
    rfl

/-- The new value of a counter. -/
theorem Edit.update_counter {machine : Nat → Nat} {sha256 : List UInt8 → SecretKey}
    (edit : Edit P) {data stored : List UInt8}
    (stores : edit.update machine sha256 data = some stored) {field : Field}
    (counter : field ∈ counters) :
    field.unsigned stored =
      (field.unsigned data + Operation.adds field (.edit edit)) % 2 ^ 32 := by
  have rewrites := edit.update_rewrites stores
  have kept : edit.codec machine field (field.bytes data) = field.bytes data := by
    rw [codec]
    cases edit.isPython with
    | false => rfl
    | true => exact repacked_counter machine counter _
  have unchanged := rewrites.counter counter
  cases edit with
  | closeCounters count1 count2 => exact closeCounters_counter stores counter
  | _ =>
      refine unchanged ?_ kept
      simp only [counters, List.mem_cons, List.not_mem_nil, or_false] at counter
      rcases counter with rfl | rfl | rfl <;> simp only [names] <;> decide

namespace Operation

variable {machine : Nat → Nat} {sha256 : List UInt8 → SecretKey}

/-- What an operation leaves of an entry that it does not remove. -/
structure Counts (operation : Operation P) (data stored : List UInt8) : Prop where
  readable : Readable stored
  counter : ∀ field ∈ counters,
    field.unsigned stored = (field.unsigned data + operation.adds field) % 2 ^ 32

/-- A form counts nothing. -/
theorem counts_of_form {operation : Operation P} (silent : ∀ field, operation.adds field = 0)
    {change : PythonEntry → Option PythonEntry} {data stored : List UInt8}
    (only : ∀ entry changed, change entry = some changed → Only machine formNames entry changed)
    (stores : PythonEntry.mutate machine change data = some stored) :
    operation.Counts data stored := by
  have rewrites := PythonEntry.mutate_rewrites only stores
  refine ⟨rewrites.readable_stored (by decide) rfl, fun field counter => ?_⟩
  have unnamed : field ∉ formNames := by
    simp only [counters, List.mem_cons, List.not_mem_nil, or_false] at counter
    rcases counter with rfl | rfl | rfl <;> decide
  rw [silent, Nat.add_zero]
  exact rewrites.counter counter unnamed (repacked_counter machine counter _)

private theorem run_counts {operation : Operation P} (keeps : operation.removes = false)
    {data : List UInt8} (readable : Readable data) {record : Option (List UInt8)}
    (runs : operation.run machine sha256 (some data) = some record) :
    ∃ stored, record = some stored ∧ operation.Counts data stored := by
  cases operation with
  | edit update =>
      obtain ⟨stored, stores, rfl⟩ := Option.map_eq_some_iff.mp runs
      exact ⟨stored, rfl, update.update_readable stores,
        fun field counter => update.update_counter stores counter⟩
  | ownerEdit form =>
      obtain ⟨stored, stores, rfl⟩ := Option.map_eq_some_iff.mp runs
      exact ⟨stored, rfl,
        counts_of_form (fun _ => rfl) (fun _ _ => EditForm.ownerEdit_only) stores⟩
  | adminEdit form admins portTaken =>
      obtain ⟨stored, stores, rfl⟩ := Option.map_eq_some_iff.mp runs
      exact ⟨stored, rfl,
        counts_of_form (fun _ => rfl) (fun _ _ => AdminForm.adminEdit_only) stores⟩
  | addEntry port1 name passphrase portTaken =>
      have there := fetch_eq_some.mpr ⟨readable, PythonEntry.unpack_eq readable.1⟩
      rw [run, Option.bind_some, there, Option.isSome_some, Bool.or_true, if_pos rfl] at runs
      cases runs
  | removeEntry => cases keeps
  | delete admins => cases keeps

/-- An operation that stores nothing counts nothing. -/
theorem adds_of_none {operation : Operation P} {data : List UInt8} (readable : Readable data)
    (idle : operation.run machine sha256 (some data) = none) (field : Field) :
    operation.adds field = 0 := by
  cases operation with
  | edit update =>
      cases update with
      | closeCounters count1 count2 =>
          have loads := dbLoadKey_eq_some.mpr ⟨readable, rfl⟩
          have closes : Keydb.closeCounters count1 count2 data = none :=
            Option.map_eq_none_iff.mp idle
          rw [Keydb.closeCounters, loads] at closes
          split_ifs at closes with zero
          · obtain ⟨rfl, rfl⟩ := zero
            simp only [adds, ite_self, and_self, not_true_eq_false, and_false, if_false]
          · cases closes
      | _ => rfl
  | _ => rfl

/-- The counters after operations that do not remove the entry. -/
theorem replay_counters {data : List UInt8} (readable : Readable data)
    {operations : List (Operation P)}
    (keep : ∀ operation ∈ operations, operation.removes = false) :
    ∃ stored, History.replay (Transactions.apply (run machine sha256)) (some data) operations =
        some stored ∧ Readable stored ∧ ∀ field ∈ counters, field.unsigned stored =
          (field.unsigned data + (operations.map (adds field)).sum) % 2 ^ 32 := by
  induction operations with
  | nil =>
      refine ⟨data, rfl, readable, fun field counter => ?_⟩
      have small := value_lt (field.bytes data)
      rw [Field.bytes_length (counters_subset counter), counters_width counter] at small
      rw [List.map_nil, List.sum_nil, Nat.add_zero, Nat.mod_eq_of_lt]
      exact small
  | cons operation before ih =>
      obtain ⟨stored, left, readable, counted⟩ := ih fun another member =>
        keep another (List.mem_cons_of_mem _ member)
      rw [History.replay_cons, left, Transactions.apply]
      cases runs : operation.run machine sha256 (some stored) with
      | none =>
          refine ⟨stored, rfl, readable, fun field counter => ?_⟩
          rw [List.map_cons, List.sum_cons, adds_of_none readable runs field,
            Nat.zero_add, counted field counter]
      | some record =>
          obtain ⟨next, rfl, counts⟩ := run_counts (keep _ List.mem_cons_self) readable runs
          refine ⟨next, rfl, counts.readable, fun field counter => ?_⟩
          rw [counts.counter field counter, counted field counter, List.map_cons, List.sum_cons,
            Nat.mod_add_mod]
          congr 1
          omega

end Operation

section Run

variable {Client : Type} [DecidableEq Client] (machine : Nat → Nat)
  (sha256 : List UInt8 → SecretKey) (initial : Option (List UInt8))
  (memory : Client → Option (List UInt8))

/-- The entry and its clients, the processes and requests that write it. -/
abbrev keysAfter (history : List (Transactions.Event Client (Operation P))) :
    Transactions.Store Client (Option (List UInt8)) (Operation P) :=
  Transactions.after (Operation.run machine sha256) initial memory history

/-- The operations in the order of their commits, the last one first. -/
abbrev committed (history : List (Transactions.Event Client (Operation P))) : List (Operation P) :=
  Transactions.committed (Operation.run machine sha256) initial memory history

/-- No update is lost. The record is the result of the committed operations one after another,
so while none of them removes the entry each counter has its initial value and all that was
added to it. And every commit stores what its operation makes of the record that its own
transaction began with. -/
theorem run_keys (history : List (Transactions.Event Client (Operation P))) :
    (keysAfter machine sha256 initial memory history).record =
        History.replay (Transactions.apply (Operation.run machine sha256)) initial
          (committed machine sha256 initial memory history) ∧
      (∀ data, initial = some data → Readable data →
        (∀ operation ∈ committed machine sha256 initial memory history,
          operation.removes = false) →
        ∃ stored, (keysAfter machine sha256 initial memory history).record = some stored ∧
          Readable stored ∧ ∀ field ∈ counters, field.unsigned stored = (field.unsigned data +
            ((committed machine sha256 initial memory history).map
              (Operation.adds field)).sum) % 2 ^ 32) ∧
      ∀ client before operation record, (.commit client :: before) <:+ history →
        (keysAfter machine sha256 initial memory before).stage client =
          .written operation record →
        ∃ began, (.start client :: began) <:+ before ∧
          (keysAfter machine sha256 initial memory began).stage client = .waiting operation ∧
          (keysAfter machine sha256 initial memory (.commit client :: before)).record =
            Transactions.apply (Operation.run machine sha256) operation
              (keysAfter machine sha256 initial memory began).record := by
  have serial : (keysAfter machine sha256 initial memory history).record =
      History.replay (Transactions.apply (Operation.run machine sha256)) initial
        (committed machine sha256 initial memory history) := Transactions.run_serial history
  refine ⟨serial, ?_, ?_⟩
  · rintro data rfl readable keep
    rw [serial]
    exact Operation.replay_counters readable keep
  · intro client before operation record _ written
    obtain ⟨began, suffix, waiting, same⟩ :=
      Transactions.run_began (congrArg Transactions.Stage.inside written)
    refine ⟨began, suffix, waiting, ?_⟩
    have sound : (keysAfter machine sha256 initial memory before).Sound
        (Operation.run machine sha256) := Transactions.after_sound before
    have stored := sound.step_record (.commit client)
    rw [Transactions.Store.commits, written] at stored
    rw [keysAfter, Transactions.after, History.replay_cons, same]
    exact stored

end Run

/-- A session closes while its owner, who has had the form for a while, submits it. -/
def closedDuringEdit : List (Transactions.Event Bool (Operation Unit)) :=
  [.commit true, .write true, .load true, .start true, .commit false, .write false, .load false,
    .start true, .start false, .submit true (.edit (.closeCounters 3 4)),
    .submit false (.ownerEdit ⟨some "Zürich".toList, [], true, true, false, none, none, false⟩),
    .read true, .read false]

/-- A connection closes between the load and the store of an edit, and both come through. -/
theorem run_keys_closedDuringEdit :
    ∃ stored, (keysAfter quiet unusedDigest (some blankRecord) (fun _ => none)
        closedDuringEdit).record = some stored ∧
      Field.count1.unsigned stored = 3 ∧ Field.count2.unsigned stored = 4 ∧
        Field.connections.unsigned stored = 1 := by
  have readable : Readable blankRecord := ⟨by decide +kernel, by decide +kernel⟩
  have keep : ∀ operation ∈ committed quiet unusedDigest (some blankRecord) (fun _ => none)
      closedDuringEdit, operation.removes = false := by
    have all : (committed quiet unusedDigest (some blankRecord) (fun _ => none)
      closedDuringEdit).all (fun operation => !operation.removes) = true := by decide +kernel
    simpa using all
  obtain ⟨stored, record, -, counted⟩ :=
    (run_keys quiet unusedDigest (some blankRecord) (fun _ => none) closedDuringEdit).2.1
      blankRecord rfl readable keep
  refine ⟨stored, record, ?_, ?_, ?_⟩
  · rw [counted .count1 (by simp [counters])]
    decide +kernel
  · rw [counted .count2 (by simp [counters])]
    decide +kernel
  · rw [counted .connections (by simp [counters])]
    decide +kernel

end SupportProxy.Keydb
