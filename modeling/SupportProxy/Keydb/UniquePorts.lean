import SupportProxy.Keydb.Mutations

/-! # Unique ports

Every entry has two ports, and the proxy binds both of them modulo 65536. The mutations check
a new port in different ways, or not at all; `run_unique` says when the ports of all entries
stay distinct. -/

namespace SupportProxy.Keydb

variable {P : Type}

/-- The user port of an entry is its port1, the engineer port its port2. -/
inductive Side
  | user | engineer
deriving DecidableEq

namespace Database

variable (machine : Nat → Nat) (sha256 : List UInt8 → SecretKey)

/-- The port of an entry on a side. -/
def portAt (db : Database) (slot : Int × Side) : Option Int :=
  (db.fetch slot.1).map fun entry => match slot.2 with
    | .user => entry.port1
    | .engineer => slot.1

/-- The same port for `bind`. -/
def SamePort (first second : Int) : Prop := first % 65536 = second % 65536

/-- No two of the ports are the same. -/
def Unique (db : Database) : Prop :=
  ∀ first second port other, db.portAt first = some port → db.portAt second = some other →
    SamePort port other → first = second

/-- A port of another number that is the same for `bind`. -/
def Aliased (db : Database) (port : Int) : Prop :=
  ∃ slot other, db.portAt slot = some other ∧ other ≠ port ∧ SamePort other port

/-- What `add_entry` does not check. -/
def AddFits (port1 port2 : Int) (db : Database) : Prop :=
  ¬ SamePort port1 port2 ∧ ¬ db.Aliased port1 ∧ ¬ db.Aliased port2

/-- What `add_entry` does not check for one of the entries of a plan. -/
def PlanFits (passphrase : List UInt8) : List (Int × Int × List Char) → Database → Prop
  | [], _ => True
  | (port1, port2, name) :: rest, db =>
      AddFits port1 port2 db ∧ ∀ next,
        db.addEntry machine sha256 port1 port2 name passphrase = some next →
          PlanFits passphrase rest next

/-- What `set_port1` does not check: that the port is not in use. -/
def SetFits (port2 port1 : Int) (db : Database) : Prop :=
  ∀ slot port, db.portAt slot = some port → slot ≠ (port2, .user) → ¬ SamePort port port1

/-- What `edit` does not check: that the port is not in use under another number. -/
def EditFits (port2 port1 : Int) (db : Database) : Prop :=
  ∀ slot port, db.portAt slot = some port → slot ≠ (port2, .user) → port ≠ port1 →
    ¬ SamePort port port1

/-- What a mutation does not check of the ports it writes. -/
def Fits (db : Database) : Mutation P → Prop
  | .addEntry port1 port2 _ _ => AddFits port1 port2 db
  | .set port2 (.setPort1 port1) => SetFits port2 port1 db
  | .webAdd form => PlanFits machine sha256 form.passphrase form.plan db
  | .webEdit port2 form => EditFits port2 form.port1 db
  | _ => True

variable {machine sha256} {db next : Database}

@[simp] theorem portAt_user {port2 : Int} {entry : PythonEntry}
    (found : db.fetch port2 = some entry) :
    db.portAt (port2, .user) = some entry.port1 := by
  rw [portAt, found]
  rfl

@[simp] theorem portAt_engineer {port2 : Int} {entry : PythonEntry}
    (found : db.fetch port2 = some entry) : db.portAt (port2, .engineer) = some port2 := by
  rw [portAt, found]
  rfl

/-- The database but for the entry of a port2 has unique ports. -/
def UniqueBut (port2 : Int) (db : Database) : Prop :=
  ∀ first second port other, first.1 ≠ port2 → second.1 ≠ port2 → db.portAt first = some port →
    db.portAt second = some other → SamePort port other → first = second

/-- An entry that is stored with its ports. -/
structure Puts (port2 port1 : Int) (db next : Database) : Prop where
  here : ∃ entry, next.fetch port2 = some entry ∧ entry.port1 = port1
  others : ∀ other, other ≠ port2 → next.fetch other = db.fetch other

namespace Puts

variable {port2 port1 : Int} (puts : Puts port2 port1 db next)

include puts

private theorem portAt_here : next.portAt (port2, .user) = some port1 ∧
    next.portAt (port2, .engineer) = some port2 := by
  obtain ⟨entry, found, rfl⟩ := puts.here
  exact ⟨portAt_user found, portAt_engineer found⟩

private theorem portAt_other {slot : Int × Side} (other : slot.1 ≠ port2) :
    next.portAt slot = db.portAt slot := by
  rw [portAt, portAt, puts.others slot.1 other]

/-- The ports of the entry and those of the other entries. -/
theorem portAt_cases {slot : Int × Side} {port : Int} (found : next.portAt slot = some port) :
    slot = (port2, .user) ∧ port = port1 ∨ slot = (port2, .engineer) ∧ port = port2 ∨
      slot.1 ≠ port2 ∧ db.portAt slot = some port := by
  by_cases own : slot.1 = port2
  · obtain ⟨other, side⟩ := slot
    obtain rfl : other = port2 := own
    cases side with
    | user => exact .inl ⟨rfl, Option.some.inj (found.symm.trans puts.portAt_here.1)⟩
    | engineer => exact .inr (.inl ⟨rfl, Option.some.inj (found.symm.trans puts.portAt_here.2)⟩)
  · rw [puts.portAt_other own] at found
    exact .inr (.inr ⟨own, found⟩)

/-- With an entry stored, the ports are unique just when its two ports differ and nobody else
uses them. -/
theorem unique_iff : next.Unique ↔ db.UniqueBut port2 ∧ ¬ SamePort port1 port2 ∧
    ∀ slot port, db.portAt slot = some port → slot.1 ≠ port2 →
      ¬ SamePort port port1 ∧ ¬ SamePort port port2 := by
  obtain ⟨user, engineer⟩ := puts.portAt_here
  constructor
  · intro unique
    refine ⟨fun first second port other firstOther secondOther firstPort secondPort same => ?_,
      fun same => ?_, fun slot port found other => ⟨fun same => other ?_, fun same => other ?_⟩⟩
    · rw [← puts.portAt_other firstOther] at firstPort
      rw [← puts.portAt_other secondOther] at secondPort
      exact unique first second port other firstPort secondPort same
    · cases unique _ _ _ _ user engineer same
    · rw [← puts.portAt_other other] at found
      rw [unique _ _ _ _ found user same]
    · rw [← puts.portAt_other other] at found
      rw [unique _ _ _ _ found engineer same]
  · rintro ⟨but, own, others⟩ first second port other firstPort secondPort same
    obtain ⟨rfl, rfl⟩ | ⟨rfl, rfl⟩ | ⟨firstOther, firstPort⟩ := puts.portAt_cases firstPort <;>
      obtain ⟨rfl, rfl⟩ | ⟨rfl, rfl⟩ | ⟨secondOther, secondPort⟩ := puts.portAt_cases secondPort
    · rfl
    · exact absurd same own
    · exact absurd same.symm (others second other secondPort secondOther).1
    · exact absurd same.symm own
    · rfl
    · exact absurd same.symm (others second other secondPort secondOther).2
    · exact absurd same (others first port firstPort firstOther).1
    · exact absurd same (others first port firstPort firstOther).2
    · exact but first second port other firstOther secondOther firstPort secondPort same

/-- A new entry, with numbers that are not in use. -/
theorem unique_iff_addFits (absent : db.fetch port2 = none)
    (free : ∀ slot port, db.portAt slot = some port → port ≠ port1 ∧ port ≠ port2) :
    next.Unique ↔ db.Unique ∧ AddFits port1 port2 db := by
  have away : ∀ slot port, db.portAt slot = some port → slot.1 ≠ port2 := by
    rintro slot port found rfl
    rw [portAt, absent] at found
    cases found
  rw [puts.unique_iff]
  constructor
  · rintro ⟨but, own, others⟩
    refine ⟨fun first second port other firstPort secondPort => but first second port other
      (away first port firstPort) (away second other secondPort) firstPort secondPort, own, ?_, ?_⟩
    · rintro ⟨slot, port, found, -, same⟩
      exact (others slot port found (away slot port found)).1 same
    · rintro ⟨slot, port, found, -, same⟩
      exact (others slot port found (away slot port found)).2 same
  · rintro ⟨unique, own, user, engineer⟩
    refine ⟨fun first second port other _ _ => unique first second port other, own,
      fun slot port found _ => ⟨fun same => user ?_, fun same => engineer ?_⟩⟩
    · exact ⟨slot, port, found, (free slot port found).1, same⟩
    · exact ⟨slot, port, found, (free slot port found).2, same⟩

/-- An entry that is stored again, of unique ports. -/
theorem unique_iff_setFits (present : (db.fetch port2).isSome) (unique : db.Unique) :
    next.Unique ↔ SetFits port2 port1 db := by
  obtain ⟨entry, found⟩ := Option.isSome_iff_exists.mp present
  have engineer : db.portAt (port2, .engineer) = some port2 := portAt_engineer found
  rw [puts.unique_iff]
  constructor
  · rintro ⟨-, own, others⟩ slot port used notUser same
    by_cases here : slot.1 = port2
    · obtain ⟨other, side⟩ := slot
      obtain rfl : other = port2 := here
      cases side with
      | user => exact notUser rfl
      | engineer =>
          obtain rfl := Option.some.inj (engineer.symm.trans used)
          exact own same.symm
    · exact (others slot port used here).1 same
  · intro fits
    refine ⟨fun first second port other _ _ => unique first second port other, fun same => ?_,
      fun slot port used other => ⟨fits slot port used ?_, fun same => other ?_⟩⟩
    · exact fits (port2, .engineer) port2 engineer (by simp) same.symm
    · rintro rfl
      exact other rfl
    · rw [unique slot (port2, .engineer) port port2 used engineer same]

end Puts

/-! ## The mutations -/

private theorem port_in_use {slot : Int × Side} {port : Int} (found : db.portAt slot = some port) :
    port ∈ db.ports1 ∨ port ∈ db.ports2 := by
  obtain ⟨port2, side⟩ := slot
  obtain ⟨entry, fetches, same⟩ := Option.map_eq_some_iff.mp found
  cases side with
  | user => exact .inl (mem_ports1.mpr ⟨port2, entry, fetches, same⟩)
  | engineer => exact .inr (mem_ports2.mpr ⟨entry, same ▸ fetches⟩)

private theorem puts_of_store {port2 : Int} {entry : PythonEntry}
    (stores : db.store machine port2 entry = some next) (magic : entry.magic = magicValue) :
    Puts port2 entry.port1 db next := by
  obtain ⟨⟨stored, found, kept⟩, others⟩ := fetch_store stores magic
  exact ⟨⟨stored, found, kept.port1⟩, others⟩

private theorem addEntry_unique {port1 port2 : Int} {name : List Char} {passphrase : List UInt8}
    (adds : db.addEntry machine sha256 port1 port2 name passphrase = some next) :
    next.Unique ↔ db.Unique ∧ AddFits port1 port2 db := by
  rw [addEntry] at adds
  split_ifs at adds with taken1 taken2
  have puts := puts_of_store adds rfl
  refine puts.unique_iff_addFits ?_ fun slot port found => ⟨?_, ?_⟩
  · cases found : db.fetch port2 with
    | none => rfl
    | some entry => exact absurd (.inl (mem_ports2.mpr ⟨entry, found⟩)) taken2
  · rintro rfl
    exact taken1 (port_in_use found)
  · rintro rfl
    exact taken2 (port_in_use found).symm

private theorem addAll_unique {passphrase : List UInt8} {plan : List (Int × Int × List Char)}
    (adds : addAll machine sha256 passphrase plan db = some next) :
    next.Unique ↔ db.Unique ∧ PlanFits machine sha256 passphrase plan db := by
  induction plan generalizing db with
  | nil =>
      rw [← Option.some.inj adds, PlanFits, and_true]
  | cons ports rest ih =>
      obtain ⟨port1, port2, name⟩ := ports
      obtain ⟨middle, first, adds⟩ := Option.bind_eq_some_iff.mp adds
      have rest_fits : PlanFits machine sha256 passphrase rest middle ↔ ∀ next,
          db.addEntry machine sha256 port1 port2 name passphrase = some next →
            PlanFits machine sha256 passphrase rest next := by
        rw [first]
        simp
      rw [ih adds, addEntry_unique first, PlanFits, rest_fits, and_assoc]

/-- What a change of an entry stores. -/
theorem puts_of_mutate {change : PythonEntry → Option PythonEntry} {port2 : Int}
    (magic : ∀ entry changed, change entry = some changed → changed.magic = entry.magic)
    (mutates : db.mutate machine change port2 = some next) :
    ∃ entry changed, db.fetch port2 = some entry ∧ change entry = some changed ∧
      Puts port2 changed.port1 db next := by
  obtain ⟨entry, found, mutates⟩ := Option.bind_eq_some_iff.mp mutates
  obtain ⟨changed, changes, stores⟩ := Option.bind_eq_some_iff.mp mutates
  refine ⟨entry, changed, found, changes, puts_of_store stores ?_⟩
  rw [magic entry changed changes, fetch_magic found]

/-- A port that the entry has had. -/
theorem setFits_same (unique : db.Unique) {port2 : Int} {entry : PythonEntry}
    (found : db.fetch port2 = some entry) : SetFits port2 entry.port1 db :=
  fun slot port used notUser same =>
    notUser (unique slot (port2, .user) port entry.port1 used (portAt_user found) same)

private theorem remove_unique (unique : db.Unique) {port2 : Int}
    (removes : db.remove port2 = some next) :
    next.Unique := by
  obtain ⟨gone, others⟩ := fetch_remove removes
  have still : ∀ slot port, next.portAt slot = some port → db.portAt slot = some port := by
    intro slot port found
    by_cases own : slot.1 = port2
    · rw [portAt, own, gone] at found
      cases found
    · rw [portAt, others slot.1 own] at found
      exact found
  intro first second port other firstPort secondPort same
  exact unique first second port other (still first port firstPort)
    (still second other secondPort) same

private theorem set_unique (unique : db.Unique) {port2 : Int} {edit : Edit P}
    (sets : db.mutate machine (edit.change sha256) port2 = some next) :
    next.Unique ↔ db.Fits machine sha256 (.set port2 edit) := by
  obtain ⟨entry, changed, found, changes, puts⟩ :=
    puts_of_mutate (fun _ _ changes => (change_port1 changes).1) sets
  rw [puts.unique_iff_setFits (by rw [found, Option.isSome_some]) unique]
  obtain ⟨-, ⟨port1, rfl, rfl⟩ | ⟨other, same⟩⟩ := change_port1 changes
  · rfl
  · rw [same, iff_true_intro (setFits_same unique found)]
    cases edit with
    | setPort1 port1 => exact absurd rfl (other port1)
    | _ => rfl

private theorem ownerEdit_unique (unique : db.Unique) {port2 : Int} {form : EditForm}
    (edits : db.mutate machine (form.ownerEdit sha256) port2 = some next) : next.Unique := by
  obtain ⟨entry, changed, found, changes, puts⟩ :=
    puts_of_mutate (fun _ _ changes => by cases changes; rfl) edits
  cases changes
  have same := setFits_same unique found
  exact (puts.unique_iff_setFits (by rw [found, Option.isSome_some]) unique).mpr same

private theorem webEdit_unique (unique : db.Unique) {port2 : Int} {form : AdminForm}
    (edits : db.webEdit machine sha256 port2 form = some next) :
    next.Unique ↔ EditFits port2 form.port1 db := by
  rw [webEdit] at edits
  split_ifs at edits
  obtain ⟨entry, found, edits⟩ := Option.bind_eq_some_iff.mp edits
  obtain ⟨changed, changes, stores⟩ := Option.bind_eq_some_iff.mp edits
  obtain ⟨magic, port1, free, -⟩ := adminEdit_eq_some changes
  have puts := puts_of_store stores (magic.trans (fetch_magic found))
  rw [port1] at puts
  rw [puts.unique_iff_setFits (by rw [found, Option.isSome_some]) unique]
  constructor
  · exact fun fits slot port used notUser _ => fits slot port used notUser
  · intro fits slot port used notUser
    by_cases number : port = form.port1
    · subst number
      by_cases own : form.port1 = entry.port1
      · rw [own]
        exact setFits_same unique found slot entry.port1 (own ▸ used) notUser
      · have taken := free own
        rw [portTaken, Bool.or_eq_false_iff, decide_eq_false_iff_not, decide_eq_false_iff_not,
          List.mem_filter] at taken
        obtain inside | inside := port_in_use used
        · exact absurd ⟨inside, by simpa using own⟩ taken.1
        · exact absurd inside taken.2
    · exact fits slot port used notUser number

/-- The ports are unique after a mutation just when it fits. -/
theorem mutation_unique (unique : db.Unique) {mutation : Mutation P}
    (mutates : db.mutation machine sha256 mutation = some next) :
    next.Unique ↔ db.Fits machine sha256 mutation := by
  cases mutation with
  | addEntry port1 port2 name passphrase =>
      rw [addEntry_unique mutates, and_iff_right unique]
      rfl
  | removeEntry port2 =>
      obtain ⟨_, _, removes⟩ := Option.bind_eq_some_iff.mp mutates
      exact iff_of_true (remove_unique unique removes) trivial
  | set port2 edit => exact set_unique unique mutates
  | webAdd form =>
      have adds : db.webAdd machine sha256 form = some next := mutates
      rw [webAdd] at adds
      split_ifs at adds
      rw [addAll_unique adds, and_iff_right unique]
      rfl
  | webEdit port2 form => exact webEdit_unique unique mutates
  | webDelete port2 =>
      obtain ⟨_, _, _, removes⟩ := webDelete_remove mutates
      exact iff_of_true (remove_unique unique removes) trivial
  | ownerEdit port2 form => exact iff_of_true (ownerEdit_unique unique mutates) trivial

section Run

variable (machine sha256)

/-- The database after mutations of the empty one. -/
abbrev after (history : List (Mutation P)) : Database :=
  History.replay (apply machine sha256) ∅ history

private theorem apply_unique (unique : db.Unique) (mutation : Mutation P) :
    (apply machine sha256 mutation db).Unique ↔
      ((db.mutation machine sha256 mutation).isSome → db.Fits machine sha256 mutation) := by
  rw [apply]
  cases mutates : db.mutation machine sha256 mutation with
  | none => exact iff_of_true unique (by simp)
  | some next => simpa using mutation_unique unique mutates

private theorem empty_unique : Database.Unique ∅ := by
  intro first second port other firstPort
  rw [portAt, fetch] at firstPort
  cases packs : packInt first.1 with
  | none =>
      rw [packs] at firstPort
      cases firstPort
  | some key =>
      rw [packs] at firstPort
      cases firstPort

/-- The ports stay unique, through any mutations, just when each of those that succeed fits:
an addition does if its two ports differ and are no aliases of ports in use, `set_port1` if
nobody uses the port, and an edit if its port is no alias of a port in use. -/
theorem run_unique (history : List (Mutation P)) :
    (∀ earlier, earlier <:+ history → (after machine sha256 earlier).Unique) ↔
      History.Guarded (apply machine sha256) ∅ (fun db mutation =>
        (db.mutation machine sha256 mutation).isSome → db.Fits machine sha256 mutation)
        history := by
  induction history with
  | nil =>
      refine iff_of_true (fun earlier suffix => ?_) History.guarded_nil
      rw [List.suffix_nil.mp suffix]
      exact empty_unique
  | cons mutation before ih =>
      have split : (∀ earlier, earlier <:+ mutation :: before →
          (after machine sha256 earlier).Unique) ↔
          (after machine sha256 (mutation :: before)).Unique ∧ ∀ earlier, earlier <:+ before →
            (after machine sha256 earlier).Unique := by
        simp only [List.suffix_cons_iff, or_imp, forall_and, forall_eq]
      rw [split, History.guarded_cons, ← ih]
      refine and_congr_left fun unique => ?_
      exact apply_unique machine sha256 (unique before (List.suffix_refl before)) mutation

end Run

/-- `set_port1` takes the port of another entry. -/
def takenPort : List (Mutation Unit) :=
  [.set 20002 (.setPort1 10001), .addEntry 10002 20002 [] [], .addEntry 10001 20001 [] []]

/-- `add_entry` with one port for both sides, and with a port that `bind` takes for another. -/
def onePort : List (Mutation Unit) := [.addEntry 10001 10001 [] []]

def wrappedPort : List (Mutation Unit) :=
  [.addEntry 75537 20002 [] [], .addEntry 10001 20001 [] []]

/-- Three ways to a port that is in use twice. -/
theorem run_unique_violated :
    ¬ (after quiet unusedDigest takenPort).Unique ∧ ¬ (after quiet unusedDigest onePort).Unique ∧
      ¬ (after quiet unusedDigest wrappedPort).Unique := by
  refine ⟨fun unique => ?_, fun unique => ?_, fun unique => ?_⟩
  · have first : (after quiet unusedDigest takenPort).portAt (20001, .user) = some 10001 := by
      decide +kernel
    have second : (after quiet unusedDigest takenPort).portAt (20002, .user) = some 10001 := by
      decide +kernel
    exact absurd (unique _ _ _ _ first second rfl) (by simp)
  · have first : (after quiet unusedDigest onePort).portAt (10001, .user) = some 10001 := by
      decide +kernel
    have second : (after quiet unusedDigest onePort).portAt (10001, .engineer) = some 10001 := by
      decide +kernel
    exact absurd (unique _ _ _ _ first second rfl) (by simp)
  · have first : (after quiet unusedDigest wrappedPort).portAt (20001, .user) = some 10001 := by
      decide +kernel
    have second : (after quiet unusedDigest wrappedPort).portAt (20002, .user) = some 75537 := by
      decide +kernel
    exact absurd (unique _ _ _ _ first second rfl) (by simp)

end Database

end SupportProxy.Keydb
