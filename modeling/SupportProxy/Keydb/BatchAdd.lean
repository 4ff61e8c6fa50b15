import SupportProxy.Keydb.Mutations

/-! # Adding a batch of entries

`add_entry` in `routes_admin.py` with the transaction it runs in and what it raises. The
entries of a batch are added one after another, each checked against a database that has the
ones before it. `addRoute_batch` says when the batch is added as it is planned. -/

namespace SupportProxy.Keydb

open ByteLayout

/-- `MAX_ADD_COUNT` -/
def maxAddCount : Nat := 50

/-- What the route reports instead of adding the entries. -/
inductive AddError
  /-- `derived port %d is outside the allowed range` -/
  | outsideRange (port : Int)
  /-- `Entry already exists for port1 %d` -/
  | port1Exists (port1 : Int)
  /-- `Entry already exists for port2 %d` -/
  | port2Exists (port2 : Int)
  /-- any exception but a `CLIError`, which the route lets pass -/
  | exception
deriving DecidableEq

namespace Database

variable (machine : Nat → Nat) (sha256 : List UInt8 → SecretKey)

/-- `add_entry` in `keydb_lib.py` with what it raises. -/
def tryAddEntry (port1 port2 : Int) (name : List Char) (passphrase : List UInt8)
    (db : Database) : Except AddError Database :=
  if port1 ∈ db.ports1 ∨ port1 ∈ db.ports2 then .error (.port1Exists port1)
  else if port2 ∈ db.ports2 ∨ port2 ∈ db.ports1 then .error (.port2Exists port2)
  else
    match db.store machine port2 (.new sha256 port1 name passphrase) with
    | some next => .ok next
    | none => .error .exception

/-- The loop in the `with` block: the database of the transaction when the block is left, and
what is raised then. -/
def addEach (passphrase : List UInt8) :
    List (Int × Int × List Char) → Database → Database × Option AddError
  | [], db => (db, none)
  | (port1, port2, name) :: rest, db =>
      match db.tryAddEntry machine sha256 port1 port2 name passphrase with
      | .error raised => (db, some raised)
      | .ok next => addEach passphrase rest next

end Database

/-- `tdb_transaction`: a commit after the block, a cancel if it raises an exception. -/
def tdbTransaction (block : Database → Database × Option AddError) (db : Database) :
    Database × Option AddError :=
  match block db with
  | (inside, none) => (inside, none)
  | (_, some raised) => (db, some raised)

/-- The ports of a plan in the order of the range check. -/
def planPorts (plan : List (Int × Int × List Char)) : List Int :=
  plan.flatMap fun ports => [ports.1, ports.2.1]

namespace Database

variable (machine : Nat → Nat) (sha256 : List UInt8 → SecretKey)

/-- `add_entry` in `routes_admin.py`: the database after the request, and the error if it adds
nothing. -/
def addRoute (form : AddForm) (db : Database) : Database × Option AddError :=
  match (planPorts form.plan).find? fun port => !inWebRange port with
  | some port => (db, some (.outsideRange port))
  | none => tdbTransaction (addEach machine sha256 form.passphrase form.plan) db

/-- An entry of the database has the port as its port1 or as its port2. -/
def Uses (db : Database) (port : Int) : Prop :=
  ∃ entry ∈ db.listEntries, entry.2.port1 = port ∨ entry.1 = port

/-- Two entries of a plan have no port in common. -/
def Apart (first second : Int × Int × List Char) : Prop :=
  first.1 ≠ second.1 ∧ first.1 ≠ second.2.1 ∧ first.2.1 ≠ second.1 ∧ first.2.1 ≠ second.2.1

/-- The ports of a plan are of type `int`. -/
def Packable (plan : List (Int × Int × List Char)) : Prop :=
  ∀ ports ∈ plan, (-2 ^ 31 ≤ ports.1 ∧ ports.1 < 2 ^ 31) ∧ -2 ^ 31 ≤ ports.2.1 ∧ ports.2.1 < 2 ^ 31

/-- What is left of the database when the entries of a plan are added. -/
structure Extends (passphrase : List UInt8) (plan : List (Int × Int × List Char))
    (db next : Database) (added : List (Int × PythonEntry)) : Prop where
  listed : next.listEntries.Perm (added ++ db.listEntries)
  planned : List.Forall₂ (fun (ports : Int × Int × List Char) (entry : Int × PythonEntry) =>
    entry.1 = ports.2.1 ∧
      (PythonEntry.new sha256 ports.1 ports.2.2 passphrase).StoredAs entry.2) plan added
  records : ∀ key, (∀ ports ∈ plan, packInt ports.2.1 ≠ some key) →
    next.lookup key = db.lookup key

end Database

/-! ## One entry -/

private theorem mapM_isSome {α : Type} {list : List (Option α)}
    (all : ∀ value ∈ list, value.isSome = true) : (list.mapM id).isSome = true := by
  induction list with
  | nil => rfl
  | cons head rest ih =>
      obtain ⟨first, rfl⟩ := Option.isSome_iff_exists.mp (all head List.mem_cons_self)
      obtain ⟨more, packed⟩ := Option.isSome_iff_exists.mp
        (ih fun value member => all value (List.mem_cons_of_mem _ member))
      rw [List.mapM_cons, packed]
      rfl

/-- A new entry is packed if its port1 is an `int`. -/
theorem PythonEntry.new_packed (machine : Nat → Nat) (sha256 : List UInt8 → SecretKey) {port1 : Int}
    (int : -2 ^ 31 ≤ port1 ∧ port1 < 2 ^ 31) (name : List Char) (passphrase tail : List UInt8) :
    (pack machine { new sha256 port1 name passphrase with tail := tail }).isSome = true := by
  rw [pack, Option.isSome_map]
  refine mapM_isSome fun part member => ?_
  have number : (packInt port1).isSome = true := by
    rw [packInt, if_pos int]
    rfl
  simp only [packed, new, List.mem_cons, List.not_mem_nil, or_false] at member
  rcases member with rfl | rfl | rfl | rfl | rfl | rfl | rfl | rfl | rfl | rfl | rfl | rfl
  any_goals rfl
  exact number

namespace Database

variable {machine : Nat → Nat} {sha256 : List UInt8 → SecretKey} {db next : Database}
  {port1 port2 : Int} {name : List Char} {passphrase : List UInt8}

private theorem uses_iff {port : Int} : db.Uses port ↔ port ∈ db.ports1 ∨ port ∈ db.ports2 := by
  rw [Uses, ports1, ports2, List.mem_map, List.mem_map, ← exists_or]
  exact exists_congr fun entry => and_or_left

private theorem store_new (int1 : -2 ^ 31 ≤ port1 ∧ port1 < 2 ^ 31)
    (int2 : -2 ^ 31 ≤ port2 ∧ port2 < 2 ^ 31) :
    (db.store machine port2 (.new sha256 port1 name passphrase)).isSome = true := by
  have packs : packInt port2 = some (bytes 4 (port2 % 2 ^ 32).toNat) := if_pos int2
  have stores : ∀ existing, (PythonEntry.store machine existing
      (.new sha256 port1 name passphrase)).isSome = true := by
    intro existing
    rw [PythonEntry.store]
    split_ifs
    · exact PythonEntry.new_packed machine sha256 int1 name passphrase _
    · exact PythonEntry.new_packed machine sha256 int1 name passphrase []
  obtain ⟨data, stored⟩ := Option.isSome_iff_exists.mp
    (stores ((db.lookup (bytes 4 (port2 % 2 ^ 32).toNat)).getD []))
  rw [store, packs, Option.bind_eq_bind, Option.bind_some, stored]
  rfl

/-- `add_entry` succeeds just when both ports are free. -/
theorem addEntry_isSome (int1 : -2 ^ 31 ≤ port1 ∧ port1 < 2 ^ 31)
    (int2 : -2 ^ 31 ≤ port2 ∧ port2 < 2 ^ 31) :
    (db.addEntry machine sha256 port1 port2 name passphrase).isSome = true ↔
      ¬ db.Uses port1 ∧ ¬ db.Uses port2 := by
  rw [addEntry, uses_iff, uses_iff, or_comm (a := port2 ∈ db.ports1)]
  split_ifs with taken1 taken2
  · exact iff_of_false Bool.false_ne_true fun free => free.1 taken1
  · exact iff_of_false Bool.false_ne_true fun free => free.2 taken2
  · exact iff_of_true (store_new int1 int2) ⟨taken1, taken2⟩

/-- An entry that is added is the only one that is listed besides the entries before. -/
theorem addEntry_lists (adds : db.addEntry machine sha256 port1 port2 name passphrase = some next) :
    ∃ stored, next.listEntries.Perm ((port2, stored) :: db.listEntries) ∧
      (PythonEntry.new sha256 port1 name passphrase).StoredAs stored ∧
        ∀ key, packInt port2 ≠ some key → next.lookup key = db.lookup key := by
  rw [addEntry] at adds
  split_ifs at adds with taken1 taken2
  have absent : ∀ entry, (port2, entry) ∉ db.listEntries := fun entry listed =>
    taken2 (.inl (mem_ports2.mpr ⟨entry, mem_listEntries.mp listed⟩))
  obtain ⟨⟨stored, found, kept⟩, others⟩ := fetch_store adds rfl
  refine ⟨stored, ?_, kept, fun key => lookup_store adds⟩
  refine (List.perm_ext_iff_of_nodup (.of_map _ next.listEntries_nodup)
    (List.nodup_cons.mpr ⟨absent stored, .of_map _ db.listEntries_nodup⟩)).mpr ?_
  rintro ⟨port, entry⟩
  rw [List.mem_cons, mem_listEntries, mem_listEntries, Prod.mk.injEq]
  by_cases own : port = port2
  · subst own
    rw [found, Option.some_inj, ← mem_listEntries, iff_false_intro (absent entry), or_false,
      eq_comm, and_iff_right rfl]
  · rw [others port own, iff_false_intro own, false_and, false_or]

/-- The ports in use after an addition. -/
theorem addEntry_uses (adds : db.addEntry machine sha256 port1 port2 name passphrase = some next)
    {port : Int} : next.Uses port ↔ (port = port1 ∨ port = port2) ∨ db.Uses port := by
  obtain ⟨stored, listed, kept, -⟩ := addEntry_lists adds
  have own : stored.port1 = port1 := kept.port1
  simp only [Uses, listed.mem_iff, List.exists_mem_cons_iff, own, eq_comm (a := port)]

/-! ## A plan -/

private theorem addAll_isSome {plan : List (Int × Int × List Char)} (packable : Packable plan) :
    (addAll machine sha256 passphrase plan db).isSome = true ↔
      (∀ ports ∈ plan, ¬ db.Uses ports.1 ∧ ¬ db.Uses ports.2.1) ∧ plan.Pairwise Apart := by
  induction plan generalizing db with
  | nil => exact iff_of_true rfl ⟨by simp, List.Pairwise.nil⟩
  | cons ports rest ih =>
      obtain ⟨port1, port2, name⟩ := ports
      obtain ⟨int1, int2⟩ := packable _ List.mem_cons_self
      have free : (db.addEntry machine sha256 port1 port2 name passphrase).isSome = true ↔
          ¬ db.Uses port1 ∧ ¬ db.Uses port2 := addEntry_isSome int1 int2
      rw [addAll, List.forall_mem_cons, List.pairwise_cons]
      cases adds : db.addEntry machine sha256 port1 port2 name passphrase with
      | none =>
          rw [adds] at free
          exact iff_of_false Bool.false_ne_true fun both =>
            Bool.false_ne_true (free.mpr both.1.1)
      | some middle =>
          rw [adds] at free
          rw [Option.bind_some,
            ih fun ports member => packable ports (List.mem_cons_of_mem _ member),
            and_iff_right (free.mp rfl)]
          simp only [addEntry_uses adds, Apart, not_or, forall_and]
          tauto

/-- What is listed when the entries of a plan are added. -/
theorem addAll_extends {plan : List (Int × Int × List Char)}
    (adds : addAll machine sha256 passphrase plan db = some next) :
    ∃ added, Extends sha256 passphrase plan db next added := by
  induction plan generalizing db with
  | nil =>
      cases adds
      exact ⟨[], .refl _, .nil, fun _ _ => rfl⟩
  | cons ports rest ih =>
      obtain ⟨port1, port2, name⟩ := ports
      obtain ⟨middle, first, adds⟩ := Option.bind_eq_some_iff.mp adds
      obtain ⟨stored, listed, kept, records⟩ := addEntry_lists first
      obtain ⟨added, grown⟩ := ih adds
      refine ⟨(port2, stored) :: added, ?_, .cons ⟨rfl, kept⟩ grown.planned, fun key away => ?_⟩
      · exact (grown.listed.trans (listed.append_left added)).trans List.perm_middle
      · rw [grown.records key fun ports member => away ports (List.mem_cons_of_mem _ member),
          records key (away _ List.mem_cons_self)]

end Database

/-- The database that is left, none if an error is reported. -/
def completed (after : Database × Option AddError) : Option Database :=
  if after.2 = none then some after.1 else none

/-- What an error says about the plan and the database. -/
def AddError.Names (plan : List (Int × Int × List Char)) (db : Database) : AddError → Prop
  | .outsideRange port => port ∈ planPorts plan ∧ ¬ (10000 ≤ port ∧ port ≤ 60000)
  | .port1Exists port1 => (∃ ports ∈ plan, ports.1 = port1) ∧ db.Uses port1
  | .port2Exists port2 => (∃ ports ∈ plan, ports.2.1 = port2) ∧ db.Uses port2
  | .exception => False

namespace Database

variable {machine : Nat → Nat} {sha256 : List UInt8 → SecretKey} {db next : Database}
  {port1 port2 : Int} {name : List Char} {passphrase : List UInt8}

private theorem addEntry_eq : db.addEntry machine sha256 port1 port2 name passphrase =
    (db.tryAddEntry machine sha256 port1 port2 name passphrase).toOption := by
  rw [addEntry, tryAddEntry]
  split_ifs
  · rfl
  · rfl
  · cases db.store machine port2 (.new sha256 port1 name passphrase) <;> rfl

private theorem addAll_eq (plan : List (Int × Int × List Char)) (db : Database) :
    addAll machine sha256 passphrase plan db =
      completed (addEach machine sha256 passphrase plan db) := by
  induction plan generalizing db with
  | nil => rfl
  | cons ports rest ih =>
      obtain ⟨port1, port2, name⟩ := ports
      rw [addAll, addEach, addEntry_eq]
      cases db.tryAddEntry machine sha256 port1 port2 name passphrase with
      | error raised => rfl
      | ok next => exact ih next

private theorem tdbTransaction_completed (block : Database → Database × Option AddError)
    (db : Database) :
    completed (tdbTransaction block db) = completed (block db) := by
  rw [tdbTransaction]
  obtain ⟨inside, reported⟩ := block db
  cases reported <;> rfl

/-- A transaction that is cancelled leaves the database alone. -/
theorem tdbTransaction_cancelled {block : Database → Database × Option AddError}
    (cancelled : (tdbTransaction block db).2 ≠ none) : (tdbTransaction block db).1 = db := by
  rw [tdbTransaction] at cancelled ⊢
  generalize block db = left at cancelled ⊢
  obtain ⟨inside, reported⟩ := left
  cases reported with
  | none => exact absurd rfl cancelled
  | some raised => rfl

private theorem find_planPorts (plan : List (Int × Int × List Char)) :
    ((planPorts plan).find? fun port => !inWebRange port) = none ↔
      (plan.all fun ports => inWebRange ports.1 && inWebRange ports.2.1) = true := by
  simp only [planPorts, List.find?_eq_none, List.mem_flatMap, List.mem_cons, List.not_mem_nil,
    or_false, List.all_eq_true, Bool.and_eq_true, Bool.not_eq_true', Bool.not_eq_false]
  constructor
  · exact fun all ports member => ⟨all _ ⟨ports, member, .inl rfl⟩, all _ ⟨ports, member, .inr rfl⟩⟩
  · rintro all port ⟨ports, member, rfl | rfl⟩
    · exact (all ports member).1
    · exact (all ports member).2

/-- The route does what the mutation does. -/
theorem webAdd_eq (form : AddForm) (db : Database) :
    db.webAdd machine sha256 form = completed (db.addRoute machine sha256 form) := by
  rw [webAdd, addRoute]
  cases found : (planPorts form.plan).find? fun port => !inWebRange port with
  | some port =>
      rw [if_neg fun all => by rw [(find_planPorts form.plan).mpr all] at found; cases found]
      rfl
  | none =>
      rw [if_pos ((find_planPorts form.plan).mp found), addAll_eq]
      exact (tdbTransaction_completed _ db).symm

/-- With an error nothing is added. -/
theorem addRoute_failed {form : AddForm} (failed : (db.addRoute machine sha256 form).2 ≠ none) :
    (db.addRoute machine sha256 form).1 = db := by
  rw [addRoute] at failed ⊢
  cases found : (planPorts form.plan).find? fun port => !inWebRange port with
  | some port => rfl
  | none =>
      rw [found] at failed
      exact tdbTransaction_cancelled failed

/-- What the loop raises, with the ports of the plan all apart. -/
theorem addEach_raised {plan : List (Int × Int × List Char)} (packable : Packable plan)
    (apart : plan.Pairwise Apart) {raised : AddError}
    (raises : (addEach machine sha256 passphrase plan db).2 = some raised) :
    raised.Names plan db := by
  induction plan generalizing db with
  | nil => cases raises
  | cons ports rest ih =>
      obtain ⟨port1, port2, name⟩ := ports
      obtain ⟨int1, int2⟩ := packable _ List.mem_cons_self
      obtain ⟨away, apart⟩ := List.pairwise_cons.mp apart
      rw [addEach] at raises
      cases tries : db.tryAddEntry machine sha256 port1 port2 name passphrase with
      | error here =>
          rw [tries] at raises
          obtain rfl := Option.some.inj raises
          rw [tryAddEntry] at tries
          split_ifs at tries with taken1 taken2
          · cases tries
            exact ⟨⟨_, List.mem_cons_self, rfl⟩, uses_iff.mpr taken1⟩
          · cases tries
            exact ⟨⟨_, List.mem_cons_self, rfl⟩, uses_iff.mpr taken2.symm⟩
          · have stores :
                (db.store machine port2 (.new sha256 port1 name passphrase)).isSome = true :=
              store_new int1 int2
            obtain ⟨next, stored⟩ := Option.isSome_iff_exists.mp stores
            rw [stored] at tries
            cases tries
      | ok middle =>
          rw [tries] at raises
          have adds : db.addEntry machine sha256 port1 port2 name passphrase = some middle := by
            rw [addEntry_eq, tries]
            rfl
          have named := ih (fun ports member => packable ports (List.mem_cons_of_mem _ member))
            apart raises
          cases raised with
          | outsideRange port => exact ⟨List.mem_append_right _ named.1, named.2⟩
          | port1Exists port =>
              obtain ⟨⟨ports, member, rfl⟩, used⟩ := named
              obtain ⟨first, -, third, -⟩ := away ports member
              refine ⟨⟨ports, List.mem_cons_of_mem _ member, rfl⟩, ?_⟩
              refine ((addEntry_uses adds).mp used).resolve_left ?_
              exact not_or.mpr ⟨first.symm, third.symm⟩
          | port2Exists port =>
              obtain ⟨⟨ports, member, rfl⟩, used⟩ := named
              obtain ⟨-, second, -, fourth⟩ := away ports member
              refine ⟨⟨ports, List.mem_cons_of_mem _ member, rfl⟩, ?_⟩
              refine ((addEntry_uses adds).mp used).resolve_left ?_
              exact not_or.mpr ⟨second.symm, fourth.symm⟩
          | exception => exact named

end Database

/-! ## A batch -/

namespace AddForm

variable (form : AddForm)

/-- The name of an entry of a batch. -/
def numbered (i : Nat) : List Char := form.name ++ (Nat.repr (i + 1)).toList

/-- port1, port2 and name of the entries of a batch. -/
def batch : List (Int × Int × List Char) :=
  (List.range form.count).map fun (i : Nat) =>
    (form.port1 + i, form.port1 + i + 1000, form.numbered i)

/-- Every derived port is in the range, and no entry uses it. -/
def Clear (db : Database) : Prop :=
  ∀ i < form.count, ∀ port, port = form.port1 + i ∨ port = form.port1 + i + 1000 →
    (10000 ≤ port ∧ port ≤ 60000) ∧ ¬ db.Uses port

/-- Every name with its number fits into the 32 bytes of a record. -/
def NamesFit : Prop := ∀ i < form.count, (Utf8.encode (form.numbered i)).length ≤ Field.name.width

/-- Exactly the entries of the batch are added. -/
def Added (db next : Database) : Prop :=
  ∃ added : List (Int × PythonEntry), next.listEntries.Perm (added ++ db.listEntries) ∧
    added.map (fun entry => (entry.2.port1, entry.1, entry.2.name)) = form.batch ∧
      ∀ key, (∀ i < form.count, packInt (form.port1 + i + 1000) ≠ some key) →
        next.lookup key = db.lookup key

variable {form}

private theorem plan_eq (many : 2 ≤ form.count) : form.plan = form.batch := by
  have count : (if form.count = 0 then 1 else form.count) = form.count := if_neg (by omega)
  rw [plan, count, if_neg (by omega)]
  rfl

private theorem forall_batch {motive : Int × Int × List Char → Prop} :
    (∀ ports ∈ form.batch, motive ports) ↔
      ∀ i < form.count, motive (form.port1 + i, form.port1 + i + 1000, form.numbered i) := by
  simp only [batch, List.forall_mem_map, List.mem_range]

/-- The ports of a batch never collide, as they are 1000 apart. -/
theorem batch_apart (few : form.count ≤ maxAddCount) : form.batch.Pairwise Database.Apart := by
  rw [batch, List.pairwise_map]
  refine List.pairwise_lt_range.imp_of_mem fun {i j} first second less => ?_
  rw [List.mem_range] at first second
  rw [maxAddCount] at few
  refine ⟨?_, ?_, ?_, ?_⟩ <;> dsimp only <;> omega

/-- The number ends in a digit, so a name has no trailing zeros. -/
theorem strip_numbered (i : Nat) :
    Padding.strip '\x00' (form.numbered i) = form.numbered i := by
  rw [Padding.strip, List.rdropWhile_eq_self_iff]
  intro nonempty
  have digits : (Nat.repr (i + 1)).toList ≠ [] := by
    rw [Nat.toList_repr]
    exact List.ne_nil_of_length_pos Nat.length_toDigits_pos
  have last : (form.numbered i).getLast nonempty = (Nat.repr (i + 1)).toList.getLast digits :=
    List.getLast_append_of_right_ne_nil _ _ digits
  have digit : ((form.numbered i).getLast nonempty).isDigit = true := by
    rw [last]
    refine Nat.isDigit_of_mem_toDigits (b := 10) (n := i + 1) (by omega) (by omega) ?_
    rw [← Nat.toList_repr]
    exact List.getLast_mem digits
  intro zero
  rw [of_decide_eq_true zero] at digit
  cases digit

end AddForm

namespace Database

variable {machine : Nat → Nat} {sha256 : List UInt8 → SecretKey} {db next : Database}
  {form : AddForm}

private theorem packable_of_range {plan : List (Int × Int × List Char)}
    (range : (plan.all fun ports => inWebRange ports.1 && inWebRange ports.2.1) = true) :
    Packable plan := by
  intro ports member
  have both := List.all_eq_true.mp range ports member
  simp only [inWebRange, Bool.and_eq_true, decide_eq_true_eq] at both
  omega

/-- The ports of a form that is accepted are apart: of one entry, or of a batch. -/
theorem plan_apart (few : form.count ≤ maxAddCount) : form.plan.Pairwise Apart := by
  by_cases many : 2 ≤ form.count
  · rw [AddForm.plan_eq many]
    exact AddForm.batch_apart few
  · have one : (if form.count = 0 then 1 else form.count) = 1 := by split_ifs <;> omega
    rw [AddForm.plan, if_pos one]
    exact List.pairwise_singleton _ _

/-- An error of the route is about a port of the plan: it is outside the range, or an entry that
is there uses it. -/
theorem addRoute_raised (few : form.count ≤ maxAddCount) {raised : AddError}
    (reports : (db.addRoute machine sha256 form).2 = some raised) :
    raised.Names form.plan db := by
  rw [addRoute] at reports
  cases found : (planPorts form.plan).find? fun port => !inWebRange port with
  | some port =>
      rw [found] at reports
      obtain rfl := Option.some.inj reports
      have outside : port < 10000 ∨ 60000 < port := by
        simpa [inWebRange] using List.find?_some found
      exact ⟨List.mem_of_find?_eq_some found, fun inside => by omega⟩
  | none =>
      rw [found] at reports
      have packable := packable_of_range ((find_planPorts form.plan).mp found)
      have raises : (addEach machine sha256 form.passphrase form.plan db).2 = some raised := by
        dsimp only [tdbTransaction] at reports
        generalize addEach machine sha256 form.passphrase form.plan db = left at reports ⊢
        obtain ⟨inside, error⟩ := left
        cases error with
        | none => cases reports
        | some error => exact reports
      exact addEach_raised packable (plan_apart few) raises

/-- The batch is added just when its ports are clear. -/
theorem webAdd_isSome (many : 2 ≤ form.count) (few : form.count ≤ maxAddCount) :
    (db.webAdd machine sha256 form).isSome = true ↔ form.Clear db := by
  have both : ∀ i : Nat, (∀ port, port = form.port1 + i ∨ port = form.port1 + i + 1000 →
      (10000 ≤ port ∧ port ≤ 60000) ∧ ¬ db.Uses port) ↔
      (inWebRange (form.port1 + i) && inWebRange (form.port1 + i + 1000)) = true ∧
        ¬ db.Uses (form.port1 + i) ∧ ¬ db.Uses (form.port1 + i + 1000) := by
    intro i
    simp only [inWebRange, Bool.and_eq_true, decide_eq_true_eq, forall_eq_or_imp, forall_eq]
    tauto
  have clear : form.Clear db ↔
      (form.plan.all fun ports => inWebRange ports.1 && inWebRange ports.2.1) = true ∧
        ∀ ports ∈ form.plan, ¬ db.Uses ports.1 ∧ ¬ db.Uses ports.2.1 := by
    rw [AddForm.plan_eq many, List.all_eq_true, AddForm.forall_batch, AddForm.forall_batch,
      AddForm.Clear]
    simp only [both]
    exact ⟨fun all => ⟨fun i less => (all i less).1, fun i less => (all i less).2⟩,
      fun all i less => ⟨all.1 i less, all.2 i less⟩⟩
  rw [clear, webAdd]
  by_cases range : (form.plan.all fun ports => inWebRange ports.1 && inWebRange ports.2.1) = true
  · rw [if_pos range, addAll_isSome (packable_of_range range), and_iff_left (plan_apart few),
      and_iff_right range]
  · rw [if_neg range]
    exact iff_of_false Bool.false_ne_true fun both => range both.1

/-- The entries that are added have the ports of the plan, and their names as they are read from
the records. -/
theorem Extends.view {passphrase : List UInt8} {plan : List (Int × Int × List Char)}
    {added : List (Int × PythonEntry)}
    (grown : Extends sha256 passphrase plan db next added) :
    added.map (fun entry => (entry.2.port1, entry.1, entry.2.name)) =
      plan.map fun ports => (ports.1, ports.2.1, Utf8.reread Field.name.width ports.2.2) := by
  symm
  rw [← List.forall₂_eq_eq_eq, List.forall₂_map_left_iff, List.forall₂_map_right_iff]
  refine grown.planned.imp fun ports entry => ?_
  rintro ⟨same, kept⟩
  have port1 : entry.2.port1 = ports.1 := kept.port1
  have name : entry.2.name = Utf8.reread Field.name.width ports.2.2 := kept.name
  rw [same, port1, name]

/-- What is added is the batch just when its names fit. -/
theorem added_iff {added : List (Int × PythonEntry)} (many : 2 ≤ form.count)
    (grown : Extends sha256 form.passphrase form.plan db next added) :
    form.Added db next ↔ form.NamesFit := by
  have view := grown.view
  rw [AddForm.plan_eq many] at view
  constructor
  · rintro ⟨others, listed, named, -⟩ i less
    have same : others.Perm added :=
      (List.perm_append_right_iff _).mp (listed.symm.trans grown.listed)
    have views := same.map fun entry => (entry.2.port1, entry.1, entry.2.name)
    rw [named, view] at views
    have planned : (form.port1 + (i : Int), form.port1 + (i : Int) + 1000, form.numbered i) ∈
        form.batch := List.mem_map_of_mem (List.mem_range.mpr less)
    obtain ⟨ports, member, stored⟩ := List.mem_map.mp (views.mem_iff.mp planned)
    obtain ⟨j, -, rfl⟩ := List.mem_map.mp member
    rw [Prod.mk.injEq, Prod.mk.injEq] at stored
    obtain ⟨port1, -, name⟩ := stored
    obtain rfl : j = i := by
      dsimp only at port1
      omega
    exact (Utf8.reread_eq_iff (AddForm.strip_numbered j)).mp name
  · intro fit
    refine ⟨added, grown.listed, ?_, fun key away => grown.records key ?_⟩
    · rw [view]
      refine (List.map_congr_left ?_).trans (List.map_id _)
      refine AddForm.forall_batch.mpr fun i less => ?_
      rw [(Utf8.reread_eq_iff (AddForm.strip_numbered i)).mpr (fit i less)]
      rfl
    · rw [AddForm.plan_eq many]
      exact AddForm.forall_batch.mpr away

/-- A batch of entries is added as a whole or not at all, and it is added just when every derived
port is in the range and unused, whatever the database. What is added has the planned names
unless one of them is cut, which is when it takes more than 32 bytes with its number. -/
theorem addRoute_batch (machine : Nat → Nat) (sha256 : List UInt8 → SecretKey) (form : AddForm)
    (db : Database) (many : 2 ≤ form.count) (few : form.count ≤ maxAddCount) :
    let after := db.addRoute machine sha256 form
    (after.1 = db ∨ form.Added db after.1) ∧ (after.2 = none ↔ form.Clear db) ↔
      (form.Clear db → form.NamesFit) := by
  have adds : (db.webAdd machine sha256 form).isSome = true ↔ form.Clear db :=
    webAdd_isSome many few
  have left : db.webAdd machine sha256 form = completed (db.addRoute machine sha256 form) :=
    webAdd_eq form db
  have failed : (db.addRoute machine sha256 form).2 ≠ none →
      (db.addRoute machine sha256 form).1 = db := addRoute_failed
  rw [completed] at left
  generalize db.addRoute machine sha256 form = after at left failed
  obtain ⟨next, reported⟩ := after
  dsimp only at left failed ⊢
  cases reported with
  | some raised =>
      rw [if_neg (by simp)] at left
      rw [left] at adds
      have blocked : ¬ form.Clear db := fun clear => Bool.false_ne_true (adds.mpr clear)
      exact iff_of_true ⟨.inl (failed (by simp)), iff_of_false (by simp) blocked⟩
        fun clear => absurd clear blocked
  | none =>
      rw [if_pos rfl] at left
      rw [left] at adds
      have clear : form.Clear db := adds.mp rfl
      rw [webAdd] at left
      split_ifs at left
      obtain ⟨added, grown⟩ := addAll_extends left
      have changed : next ≠ db := by
        rintro rfl
        have lengths := grown.listed.length_eq
        have planned := congrArg List.length grown.view
        rw [List.length_append] at lengths
        rw [List.length_map, List.length_map, AddForm.plan_eq many, AddForm.batch,
          List.length_map, List.length_range] at planned
        omega
      rw [or_iff_right changed, added_iff many grown, and_iff_left (iff_of_true rfl clear),
        forall_prop_of_true clear]

/-- Three entries of a partner. -/
def partnerForm : AddForm :=
  { port1 := 15200, count := 3, port2 := 16200, name := "batch".toList,
    passphrase := Utf8.encode "sharedpass".toList }

/-- A batch of three is added under its ports and names. -/
theorem addRoute_batch_partner :
    let after := addRoute quiet unusedDigest partnerForm ∅
    (after.1 = ∅ ∨ partnerForm.Added ∅ after.1) ∧ (after.2 = none ↔ partnerForm.Clear ∅) := by
  have fit : partnerForm.NamesFit := by
    rw [AddForm.NamesFit]
    decide +kernel
  exact (addRoute_batch quiet unusedDigest partnerForm ∅ (by decide) (by decide)).mpr fun _ => fit

/-- Ten entries under a name of 31 characters. -/
def longNameForm : AddForm :=
  { port1 := 15200, count := 10, port2 := 16200, name := List.replicate 31 'a',
    passphrase := Utf8.encode "sharedpass".toList }

/-- The tenth entry has the name of the first one. -/
theorem addRoute_batch_cut :
    let after := addRoute quiet unusedDigest longNameForm ∅
    (after.1.fetch 16209).map PythonEntry.name = some (longNameForm.numbered 0) ∧
      ¬ ((after.1 = ∅ ∨ longNameForm.Added ∅ after.1) ∧
        (after.2 = none ↔ longNameForm.Clear ∅)) := by
  have cut : ((addRoute quiet unusedDigest longNameForm ∅).1.fetch 16209).map PythonEntry.name =
      some (longNameForm.numbered 0) := by decide +kernel
  refine ⟨cut, ?_⟩
  generalize addRoute quiet unusedDigest longNameForm ∅ = after at cut
  rintro ⟨same | ⟨added, listed, named, -⟩, -⟩
  · rw [same] at cut
    cases cut
  · have last : ((15209 : Int), (16209 : Int), longNameForm.numbered 9) ∈ longNameForm.batch := by
      decide +kernel
    rw [← named] at last
    obtain ⟨entry, member, view⟩ := List.mem_map.mp last
    rw [Prod.mk.injEq, Prod.mk.injEq] at view
    obtain ⟨-, port2, name⟩ := view
    have found := mem_listEntries.mp (listed.mem_iff.mpr (List.mem_append_left _ member))
    rw [port2] at found
    rw [found, Option.map_some, name, Option.some_inj] at cut
    exact absurd cut (by decide +kernel)

end Database

end SupportProxy.Keydb
