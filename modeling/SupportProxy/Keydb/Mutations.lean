import SupportProxy.Keydb.Database

/-! # Mutations

What `keydb_lib.py` and the routes of the web admin do to the database, each in a transaction
of its own. -/

namespace SupportProxy.Keydb

variable {P : Type}

/-- `AdminAddForm` -/
structure AddForm where
  port1 : Int
  count : Nat
  port2 : Int
  name : List Char
  passphrase : List UInt8

/-- The plan of `add_entry` in `routes_admin.py`. -/
def AddForm.plan (form : AddForm) : List (Int × Int × List Char) :=
  let count := if form.count = 0 then 1 else form.count
  if count = 1 then [(form.port1, form.port2, form.name)]
  else (List.range count).map fun (i : Nat) =>
    (form.port1 + i, form.port1 + i + 1000, form.name ++ (Nat.repr (i + 1)).toList)

/-- The ports that the web admin lets a plan use. -/
def inWebRange (port : Int) : Bool := 10000 ≤ port && port ≤ 60000

/-- Mutations of `keydb_lib.py` and requests to the web admin. -/
inductive Mutation (P : Type)
  | addEntry (port1 port2 : Int) (name : List Char) (passphrase : List UInt8)
  | removeEntry (port2 : Int)
  /-- a setter -/
  | set (port2 : Int) (edit : Edit P)
  | webAdd (form : AddForm)
  | webEdit (port2 : Int) (form : AdminForm)
  | webDelete (port2 : Int)
  | ownerEdit (port2 : Int) (form : EditForm)

namespace Database

variable (machine : Nat → Nat) (sha256 : List UInt8 → SecretKey)

/-- The loop of `add_entry` in `routes_admin.py`. -/
def addAll (passphrase : List UInt8) : List (Int × Int × List Char) → Database → Option Database
  | [], db => some db
  | (port1, port2, name) :: rest, db =>
      (db.addEntry machine sha256 port1 port2 name passphrase).bind (addAll passphrase rest)

/-- `add_entry` in `routes_admin.py` -/
def webAdd (form : AddForm) (db : Database) : Option Database :=
  if form.plan.all fun ports => inWebRange ports.1 && inWebRange ports.2.1 then
    addAll machine sha256 form.passphrase form.plan db
  else none

/-- The collision check of `edit` in `routes_admin.py`. -/
def portTaken (db : Database) (port1 : Int) (entry : PythonEntry) : Bool :=
  decide (port1 ∈ db.ports1.filter fun port => port ≠ entry.port1) || decide (port1 ∈ db.ports2)

/-- `edit` in `routes_admin.py` for a form that validates. -/
def webEdit (port2 : Int) (form : AdminForm) (db : Database) : Option Database :=
  if 1 ≤ form.port1 ∧ form.port1 ≤ 65535 then
    db.mutate machine (fun entry =>
      form.adminEdit sha256 db.countAdmins (db.portTaken form.port1 entry) entry) port2
  else none

/-- `delete` in `routes_admin.py` -/
def webDelete (port2 : Int) (db : Database) : Option Database :=
  (db.fetch port2).bind fun entry =>
    if entry.isAdmin ∧ db.countAdmins ≤ 1 then none else db.remove port2

/-- The database after a mutation, none if it does not succeed. -/
def mutation (db : Database) : Mutation P → Option Database
  | .addEntry port1 port2 name passphrase => db.addEntry machine sha256 port1 port2 name passphrase
  | .removeEntry port2 => db.removeEntry port2
  | .set port2 edit => db.mutate machine (edit.change sha256) port2
  | .webAdd form => db.webAdd machine sha256 form
  | .webEdit port2 form => db.webEdit machine sha256 port2 form
  | .webDelete port2 => db.webDelete port2
  | .ownerEdit port2 form => db.mutate machine (form.ownerEdit sha256) port2

/-- The database after a mutation, which is left alone if the mutation does not succeed. -/
def apply (mutation : Mutation P) (db : Database) : Database :=
  (db.mutation machine sha256 mutation).getD db

variable {machine sha256} {db next : Database}

/-- A setter keeps the user port, but for `set_port1`. -/
theorem change_port1 {edit : Edit P} {entry changed : PythonEntry}
    (changes : edit.change sha256 entry = some changed) : changed.magic = entry.magic ∧
      ((∃ port1, edit = .setPort1 port1 ∧ changed.port1 = port1) ∨
        (∀ port1, edit ≠ .setPort1 port1) ∧ changed.port1 = entry.port1) := by
  cases edit with
  | setPort1 port1 =>
      cases changes
      exact ⟨rfl, .inl ⟨port1, rfl, rfl⟩⟩
  | setName name =>
      cases changes
      exact ⟨rfl, .inr ⟨by simp, rfl⟩⟩
  | setPass passphrase =>
      cases changes
      exact ⟨rfl, .inr ⟨by simp, rfl⟩⟩
  | resetTimestamp =>
      cases changes
      exact ⟨rfl, .inr ⟨by simp, rfl⟩⟩
  | setFlag flagName =>
      obtain ⟨bit, -, rfl⟩ := Option.map_eq_some_iff.mp changes
      exact ⟨rfl, .inr ⟨by simp, rfl⟩⟩
  | clearFlag flagName =>
      obtain ⟨bit, -, rfl⟩ := Option.map_eq_some_iff.mp changes
      exact ⟨rfl, .inr ⟨by simp, rfl⟩⟩
  | setLogRetention days =>
      rw [Edit.change, PythonEntry.setLogRetention] at changes
      split_ifs at changes
      cases changes
      exact ⟨rfl, .inr ⟨by simp, rfl⟩⟩
  | setFcSysid sysid =>
      rw [Edit.change, PythonEntry.setFcSysid] at changes
      split_ifs at changes
      cases changes
      exact ⟨rfl, .inr ⟨by simp, rfl⟩⟩
  | closeCounters _ _ => cases changes
  | saveSigningTimestamp _ _ => cases changes
  | setupSigning _ => cases changes

/-- What an administrator's edit takes over, and what it refuses. -/
theorem adminEdit_eq_some {form : AdminForm} {admins : Nat} {portTaken : Bool}
    {entry changed : PythonEntry}
    (edits : form.adminEdit sha256 admins portTaken entry = some changed) :
    changed.magic = entry.magic ∧ changed.port1 = form.port1 ∧
      (form.port1 ≠ entry.port1 → portTaken = false) ∧
      (entry.isAdmin → form.isAdmin = false → 1 < admins) := by
  rw [AdminForm.adminEdit] at edits
  split_ifs at edits with last taken
  cases edits
  refine ⟨rfl, rfl, fun different => ?_, fun wasAdmin notAdmin => ?_⟩
  · cases portTaken with
    | false => rfl
    | true => exact absurd ⟨different, rfl⟩ taken
  · rw [not_and, PythonEntry.isAdmin] at *
    rw [wasAdmin, notAdmin] at last
    exact Nat.not_le.mp (last rfl)

/-- A deletion removes an entry that is there and leaves an administrator. -/
theorem webDelete_remove {port2 : Int} (deletes : db.webDelete port2 = some next) :
    ∃ entry, db.fetch port2 = some entry ∧ (entry.isAdmin → 1 < db.countAdmins) ∧
      db.remove port2 = some next := by
  obtain ⟨entry, found, deletes⟩ := Option.bind_eq_some_iff.mp deletes
  split_ifs at deletes with last
  rw [not_and, Nat.not_le] at last
  exact ⟨entry, found, last, deletes⟩

end Database

end SupportProxy.Keydb
