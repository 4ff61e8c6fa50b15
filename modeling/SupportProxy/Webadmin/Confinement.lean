import SupportProxy.Webadmin.Admins
import SupportProxy.Webadmin.Sessions

/-! # What a request may change

A request changes the records that it names and no others. One that is not behind
`require_admin` names the record of its session and changes only what `OwnerEditForm` is about. -/

namespace SupportProxy

namespace Keydb

variable {machine : Nat → Nat} {sha256 : List UInt8 → SecretKey}

/-- What `OwnerEditForm` is about. -/
def ownerNames : List Field := [.timestamp, .secretKey, .name, .flags, .logRetentionDays, .fcSysid]

/-- The flags that `OwnerEditForm` is about: `bidi_sign`, `tlog` and `binlog`. -/
def ownerFlagBits : List Nat := [1, 2, 3]

/-- A record after the form of its owner. The members that are not named are packed again as they
were unpacked. -/
structure OwnEdit (machine : Nat → Nat) (data stored : List UInt8) : Prop where
  rewrites : Rewrites (PythonEntry.repacked machine) ownerNames data stored
  flags : ∀ bit, bit ∉ ownerFlagBits →
    (Field.flags.unsigned stored).testBit bit = (Field.flags.unsigned data).testBit bit

private theorem withFlag_testBit {bit flags index : Nat} {on : Bool}
    (other : bit.testBit index = false) :
    (withFlag bit on flags).testBit index = flags.testBit index := by
  rw [withFlag]
  split_ifs
  · rw [Nat.testBit_or, other, Bool.or_false]
  · rw [Nat.testBit_xor, Nat.testBit_and, other, Bool.and_false, Bool.xor_false]

private theorem submit_testBit {form : EditForm} {entry : PythonEntry} {bit : Nat}
    (other : bit ∉ ownerFlagBits) :
    (form.submit sha256 entry).flags.testBit bit = entry.flags.testBit bit := by
  simp only [ownerFlagBits, List.mem_cons, List.not_mem_nil, or_false, not_or] at other
  obtain ⟨notBidi, notTlog, notBinlog⟩ := other
  have power : ∀ exponent, bit ≠ exponent → (2 ^ exponent).testBit bit = false := by
    intro exponent different
    rw [Nat.testBit_two_pow, decide_eq_false different.symm]
  have binlog : Nat.testBit 8 bit = false := power 3 notBinlog
  have tlog : Nat.testBit 4 bit = false := power 2 notTlog
  have bidi : Nat.testBit 2 bit = false := power 1 notBidi
  rw [EditForm.submit]
  dsimp only
  rw [withFlag_testBit binlog, withFlag_testBit tlog, withFlag_testBit bidi]

private theorem ownerEdit_onlyOwn {form : EditForm} {entry changed : PythonEntry}
    (edits : form.ownerEdit sha256 entry = some changed) :
    Only machine ownerNames entry changed := by
  have forms : Only machine _ entry changed := EditForm.ownerEdit_only edits
  refine ⟨forms.tail, fun field member unnamed => ?_⟩
  by_cases port1 : field = .port1
  · cases edits
    rw [port1]
    rfl
  · refine forms.fields field member ?_
    simp only [ownerNames, formNames, List.mem_cons, List.not_mem_nil, or_false, not_or]
      at unnamed ⊢
    tauto

private theorem flags_of_store {existing stored : List UInt8} {entry : PythonEntry}
    (stores : PythonEntry.store machine existing entry = some stored) :
    Field.flags.unsigned stored = entry.flags := by
  have member : Field.flags ∈ Field.all := by simp [Field.all]
  have packed : ∀ packing : PythonEntry, packing.pack machine = some stored →
      Field.flags.unsigned stored = packing.flags :=
    fun packing packs => value_packUnsigned (PythonEntry.packedField_of_pack packs member)
  rw [PythonEntry.store] at stores
  split_ifs at stores
  · exact packed { entry with tail := existing.drop entrySize } stores
  · exact packed entry stores

private theorem ownEdit_of_mutate {form : EditForm} {data stored : List UInt8}
    (stores : PythonEntry.mutate machine (form.ownerEdit sha256) data = some stored) :
    OwnEdit machine data stored := by
  refine ⟨PythonEntry.mutate_rewrites (fun _ _ => ownerEdit_onlyOwn) stores, fun bit other => ?_⟩
  obtain ⟨entry, fetches, stores⟩ := Option.bind_eq_some_iff.mp stores
  obtain ⟨changed, changes, stores⟩ := Option.bind_eq_some_iff.mp stores
  obtain ⟨readable, unpacks⟩ := fetch_eq_some.mp fetches
  rw [PythonEntry.unpack_eq readable.1, Option.some_inj] at unpacks
  have same : entry.flags = Field.flags.unsigned data := by rw [← unpacks]
  cases changes
  rw [flags_of_store stores, submit_testBit other, ← same]

namespace Database

variable {db next : Database} {port2 : Int} {key : List UInt8}

/-- A route that edits one entry rewrites its record and no other. -/
theorem lookup_mutate {change : PythonEntry → Option PythonEntry}
    (mutates : db.mutate machine change port2 = some next) :
    ∃ own data stored, packInt port2 = some own ∧ db.lookup own = some data ∧
      next.lookup own = some stored ∧ PythonEntry.mutate machine change data = some stored ∧
        ∀ other, other ≠ own → next.lookup other = db.lookup other := by
  obtain ⟨entry, found, mutates⟩ := Option.bind_eq_some_iff.mp mutates
  obtain ⟨changed, changes, stores⟩ := Option.bind_eq_some_iff.mp mutates
  obtain ⟨own, packs, found⟩ := Option.bind_eq_some_iff.mp found
  obtain ⟨data, here, found⟩ := Option.bind_eq_some_iff.mp found
  have elsewhere : ∀ other, other ≠ own → next.lookup other = db.lookup other := by
    intro other different
    refine lookup_store stores fun same => different ?_
    exact (Option.some.inj (packs.symm.trans same)).symm
  obtain ⟨again, alsoPacks, stores⟩ := Option.bind_eq_some_iff.mp stores
  obtain ⟨stored, packed, stores⟩ := Option.bind_eq_some_iff.mp stores
  obtain rfl := Option.some.inj (packs.symm.trans alsoPacks)
  rw [here, Option.getD_some] at packed
  refine ⟨own, data, stored, packs, here, ?_, ?_, elsewhere⟩
  · rw [← Option.some.inj stores, AList.lookup_insert]
  · rw [PythonEntry.mutate, found]
    simp only [Option.bind_eq_bind, Option.bind_some, changes, packed]

private theorem lookup_remove (removes : db.remove port2 = some next) :
    ∃ own, packInt port2 = some own ∧
      ∀ other, other ≠ own → next.lookup other = db.lookup other := by
  obtain ⟨own, packs, rfl⟩ := Option.map_eq_some_iff.mp removes
  exact ⟨own, packs, fun other different => AList.lookup_erase_ne different⟩

/-- A batch writes records of its own ports, where there were no entries. -/
theorem lookup_addAll {passphrase : List UInt8} {plan : List (Int × Int × List Char)}
    (adds : addAll machine sha256 passphrase plan db = some next)
    (changed : next.lookup key ≠ db.lookup key) :
    ∃ ports ∈ plan, packInt ports.2.1 = some key ∧ db.fetch ports.2.1 = none := by
  induction plan generalizing db with
  | nil =>
      rw [← Option.some.inj adds] at changed
      exact absurd rfl changed
  | cons ports rest ih =>
      obtain ⟨middle, first, adds⟩ := Option.bind_eq_some_iff.mp adds
      rw [addEntry] at first
      split_ifs at first with taken1 taken2
      by_cases same : middle.lookup key = db.lookup key
      · rw [← same] at changed
        obtain ⟨named, member, packs, fresh⟩ := ih adds changed
        refine ⟨named, List.mem_cons_of_mem _ member, packs, ?_⟩
        rw [fetch_of_key packs] at fresh ⊢
        rw [← same, fresh]
      · refine ⟨ports, List.mem_cons_self, ?_, ?_⟩
        · by_contra other
          exact same (lookup_store first other)
        · cases found : db.fetch ports.2.1 with
          | none => rfl
          | some entry => exact absurd (.inl (mem_ports2.mpr ⟨entry, found⟩)) taken2

end Database

end Keydb

namespace Webadmin

open Keydb

variable {machine : Nat → Nat} {sha256 : List UInt8 → SecretKey}

/-- A request in the session of an owner may change the record under a key. -/
inductive MayChange (machine : Nat → Nat) (owner : Int) (before after : Database)
    (key : List UInt8) : Request → Prop
  /-- `add` makes entries where there were none. -/
  | add {form : AddForm} (port1 port2 : Int) (name : List Char)
      (planned : (port1, port2, name) ∈ form.plan) (packs : packInt port2 = some key)
      (fresh : before.fetch port2 = none) : MayChange machine owner before after key (.add form)
  | edit {port2 : Int} {form : AdminForm} (packs : packInt port2 = some key)
      (entry : (before.fetch port2).isSome = true) :
      MayChange machine owner before after key (.edit port2 form)
  | delete {port2 : Int} (packs : packInt port2 = some key)
      (entry : (before.fetch port2).isSome = true) :
      MayChange machine owner before after key (.delete port2)
  | me {form : EditForm} (data stored : List UInt8) (packs : packInt owner = some key)
      (here : before.lookup key = some data) (later : after.lookup key = some stored)
      (edit : OwnEdit machine data stored) : MayChange machine owner before after key (.me form)

/-- A request changes nothing but what it names. -/
theorem request_confined {db : Database} {owner : Int} (request : Request) {key : List UInt8}
    (changed : (db.apply machine sha256 (request.mutation owner)).lookup key ≠ db.lookup key) :
    MayChange machine owner db (db.apply machine sha256 (request.mutation owner)) key request := by
  rw [Database.apply] at changed ⊢
  cases mutates : db.mutation machine sha256 (request.mutation owner) with
  | none =>
      rw [mutates] at changed
      exact absurd rfl changed
  | some next =>
      rw [mutates, Option.getD_some] at changed
      rw [Option.getD_some]
      cases request with
      | add form =>
          have adds : db.webAdd machine sha256 form = some next := mutates
          rw [Database.webAdd] at adds
          split_ifs at adds
          obtain ⟨⟨port1, port2, name⟩, member, packs, fresh⟩ := Database.lookup_addAll adds changed
          exact .add port1 port2 name member packs fresh
      | edit port2 form =>
          have edits : db.webEdit machine sha256 port2 form = some next := mutates
          rw [Database.webEdit] at edits
          split_ifs at edits
          obtain ⟨entry, found, -⟩ := Option.bind_eq_some_iff.mp edits
          obtain ⟨own, data, stored, packs, -, -, -, others⟩ := Database.lookup_mutate edits
          have same : key = own := by
            by_contra different
            exact changed (others key different)
          exact .edit (same ▸ packs) (by rw [found, Option.isSome_some])
      | delete port2 =>
          obtain ⟨entry, found, -, removes⟩ := Database.webDelete_remove mutates
          obtain ⟨own, packs, others⟩ := Database.lookup_remove removes
          have same : key = own := by
            by_contra different
            exact changed (others key different)
          exact .delete (same ▸ packs) (by rw [found, Option.isSome_some])
      | me form =>
          obtain ⟨own, data, stored, packs, here, later, rewrites, others⟩ :=
            Database.lookup_mutate mutates
          obtain rfl : key = own := by
            by_contra different
            exact changed (others key different)
          exact .me data stored packs here later (ownEdit_of_mutate rewrites)

section Run

variable {Client Worker : Type} [DecidableEq Client] [DecidableEq Worker] {db : Database}

variable (machine sha256 db) in
/-- The event is the route of a request that may change the record under a key. It passed its role
check, as an admin if it is behind `require_admin`. -/
def Permitted (before : List (Event Client Worker)) (event : Event Client Worker)
    (key : List UInt8) : Prop :=
  ∃ worker visit checked, event = .route worker ∧
    (after machine sha256 db before).visits worker = some visit ∧
    MayChange machine visit.session.owner (after machine sha256 db before).db
      (after machine sha256 db (event :: before)).db key visit.request ∧
    .check worker visit.client visit.request :: checked <:+ before ∧
    (after machine sha256 db checked).cookies visit.client = some visit.session ∧
    ((after machine sha256 db checked).db.fetch visit.session.owner).isSome = true ∧
    (visit.request.requiresAdmin = true →
      (after machine sha256 db checked).db.adminAt visit.session.owner = true)

/-- **Nobody but an admin changes what is not their own.** In every run of the web admin, whatever
requests come in between the role check of a request and its route, a record changes only in the
route of a request that names it, from a session that the role check found to be an admin's, or
to be the owner's of the record, of which it then changes only what the owner may. -/
theorem run_confined {history : List (Event Client Worker)}
    (web : ∀ event ∈ history, event.isWeb = true) :
    History.Obeys (fun before event => ∀ key,
      (after machine sha256 db (event :: before)).db.lookup key ≠
        (after machine sha256 db before).db.lookup key →
      Permitted machine sha256 db before event key) history := by
  rw [History.obeys_iff_suffix]
  intro event before suffix key changed
  have webEvent : event.isWeb = true := web event (suffix.subset List.mem_cons_self)
  have stepped : after machine sha256 db (event :: before) =
    (after machine sha256 db before).step machine sha256 event := rfl
  rw [stepped] at changed
  rcases step_web machine sha256 (after machine sha256 db before) webEvent with
    same | ⟨worker, visit, rfl, underWay, applied⟩
  · rw [same] at changed
    exact absurd rfl changed
  · obtain ⟨checked, earlier, cookie, passes⟩ := after_checked underWay
    rw [applied] at changed
    refine ⟨worker, visit, checked, rfl, underWay, ?_, earlier, cookie, ?_,
      fun requires => letsThrough_admin requires passes⟩
    · rw [stepped, applied]
      exact request_confined visit.request changed
    rw [letsThrough] at passes
    split_ifs at passes
    · rw [requireAdmin_some, Database.adminAt] at passes
      obtain ⟨entry, found, -⟩ := (Option.any_eq_true _ _).mp passes
      rw [found, Option.isSome_some]
    · rw [requireLogin_some] at passes
      exact passes

end Run

/-- An owner who turns on the tlog. -/
def recordingForm : EditForm := ⟨none, [], false, true, false, none, none, false⟩

def ownerRequests : List (Event Bool Bool) :=
  [.check false false (.me recordingForm), .login false false 10001 [1]]

/-- The record changes in the route of its owner's form, behind the role check. -/
theorem run_confined_ownerRequests :
    Permitted quiet unusedDigest twoAdmins ownerRequests (.route false) [0x21, 0x4e, 0, 0] := by
  have web : ∀ event ∈ .route false :: ownerRequests, event.isWeb = true := by decide
  have confined := @run_confined quiet unusedDigest Bool Bool _ _ twoAdmins _ web
  refine confined.1 [0x21, 0x4e, 0, 0] ?_
  decide +kernel

end Webadmin

end SupportProxy
