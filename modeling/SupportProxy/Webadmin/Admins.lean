import SupportProxy.Webadmin.Site
import Mathlib.Data.List.Nodup

/-! # Admins

Who carries FLAG_ADMIN. `run_lastAdmin` says that the web admin always leaves an admin, and that
only requests of admins make others admins. `run_demoted` says when a demotion stops the
requests of the demoted admin. -/

namespace SupportProxy

open Keydb

namespace Keydb

variable {machine : Nat → Nat} {sha256 : List UInt8 → SecretKey}

/-! ## FLAG_ADMIN of an entry -/

private theorem isAdmin_iff {entry : PythonEntry} : entry.isAdmin = entry.flags.testBit 0 := by
  rw [PythonEntry.isAdmin, Nat.and_one_is_mod, Nat.testBit_zero]
  cases Nat.mod_two_eq_zero_or_one entry.flags with
  | inl even => simp [even]
  | inr odd => simp [odd]

/-- The flags of the forms other than FLAG_ADMIN. -/
theorem withFlag_testBit_zero {bit flags : Nat} {on : Bool} (other : bit.testBit 0 = false) :
    (withFlag bit on flags).testBit 0 = flags.testBit 0 := by
  rw [withFlag]
  split_ifs
  · rw [Nat.testBit_or, other, Bool.or_false]
  · rw [Nat.testBit_xor, Nat.testBit_and, other, Bool.and_false, Bool.xor_false]

private theorem withFlag_one_testBit_zero {flags : Nat} {on : Bool} :
    (withFlag 1 on flags).testBit 0 = on := by
  have one : Nat.testBit 1 0 = true := rfl
  rw [withFlag]
  cases on with
  | true => rw [if_pos rfl, Nat.testBit_or, one, Bool.or_true]
  | false =>
      rw [if_neg Bool.false_ne_true, Nat.testBit_xor, Nat.testBit_and, one, Bool.and_true,
        Bool.xor_self]

private theorem submit_isAdmin {form : EditForm} {entry : PythonEntry} :
    (form.submit sha256 entry).isAdmin = entry.isAdmin := by
  rw [isAdmin_iff, isAdmin_iff, EditForm.submit]
  dsimp only
  rw [withFlag_testBit_zero rfl, withFlag_testBit_zero rfl, withFlag_testBit_zero rfl]

private theorem adminEdit_isAdmin {form : AdminForm} {admins : Nat} {portTaken : Bool}
    {entry changed : PythonEntry}
    (edits : form.adminEdit sha256 admins portTaken entry = some changed) :
    changed.isAdmin = form.isAdmin := by
  rw [AdminForm.adminEdit] at edits
  split_ifs at edits
  rw [← Option.some.inj edits, submit_isAdmin, isAdmin_iff]
  exact withFlag_one_testBit_zero

namespace Database

variable {db next : Database}

/-- The entry of a port2 is there and carries FLAG_ADMIN. -/
def adminAt (db : Database) (port2 : Int) : Bool := (db.fetch port2).any PythonEntry.isAdmin

private theorem adminAt_eq_true {port2 : Int} :
    db.adminAt port2 = true ↔ ∃ entry, db.fetch port2 = some entry ∧ entry.isAdmin = true := by
  rw [adminAt, Option.any_eq_true]

private theorem countAdmins_pos : 0 < db.countAdmins ↔ ∃ port2, db.adminAt port2 = true := by
  rw [countAdmins, List.countP_pos_iff]
  constructor
  · rintro ⟨⟨port2, entry⟩, listed, admin⟩
    exact ⟨port2, adminAt_eq_true.mpr ⟨entry, mem_listEntries.mp listed, admin⟩⟩
  · rintro ⟨port2, admin⟩
    obtain ⟨entry, found, admin⟩ := adminAt_eq_true.mp admin
    exact ⟨(port2, entry), mem_listEntries.mpr found, admin⟩

/-- Of two admins one has another port2. -/
theorem exists_other_admin (two : 1 < db.countAdmins) (port2 : Int) :
    ∃ other, other ≠ port2 ∧ db.adminAt other = true := by
  by_contra none
  have own : ∀ entry ∈ db.listEntries.filter (fun entry => entry.2.isAdmin), entry.1 = port2 := by
    intro entry member
    obtain ⟨listed, admin⟩ := List.mem_filter.mp member
    by_contra different
    exact none ⟨entry.1, different,
      adminAt_eq_true.mpr ⟨entry.2, mem_listEntries.mp listed, admin⟩⟩
  have nodup : ((db.listEntries.filter fun entry => entry.2.isAdmin).map Prod.fst).Nodup :=
    (db.listEntries_nodup).sublist (List.filter_sublist.map Prod.fst)
  rw [countAdmins, List.countP_eq_length_filter] at two
  generalize db.listEntries.filter (fun entry => entry.2.isAdmin) = admins at own nodup two
  cases admins with
  | nil => cases two
  | cons first rest =>
      cases rest with
      | nil => exact Nat.lt_irrefl 1 two
      | cons second rest =>
          rw [List.map_cons, List.map_cons, List.nodup_cons] at nodup
          have same : first.1 = second.1 := by
            rw [own first List.mem_cons_self,
              own second (List.mem_cons_of_mem _ List.mem_cons_self)]
          exact nodup.1 (same ▸ List.mem_cons_self)

/-! ## FLAG_ADMIN after a mutation -/

private theorem adminAt_store {port2 : Int} {entry : PythonEntry}
    (stores : db.store machine port2 entry = some next) (magic : entry.magic = magicValue) :
    next.adminAt port2 = entry.isAdmin ∧
      ∀ other, other ≠ port2 → next.adminAt other = db.adminAt other := by
  obtain ⟨⟨stored, found, kept⟩, others⟩ := fetch_store stores magic
  refine ⟨?_, fun other different => ?_⟩
  · rw [adminAt, found, Option.any_some, PythonEntry.isAdmin, kept.flags, PythonEntry.isAdmin]
  · rw [adminAt, others other different, adminAt]

private theorem adminAt_addEntry {port1 port2 : Int} {name : List Char} {passphrase : List UInt8}
    (adds : db.addEntry machine sha256 port1 port2 name passphrase = some next) (other : Int) :
    next.adminAt other = db.adminAt other := by
  rw [addEntry] at adds
  split_ifs at adds with taken1 taken2
  obtain ⟨here, others⟩ := adminAt_store adds rfl
  by_cases own : other = port2
  · subst own
    have plain : (PythonEntry.new sha256 port1 name passphrase).isAdmin = false := by
      rw [isAdmin_iff]
      exact Nat.zero_testBit 0
    rw [here, plain, adminAt]
    cases found : db.fetch other with
    | none => rfl
    | some entry => exact absurd (.inl (mem_ports2.mpr ⟨entry, found⟩)) taken2
  · exact others other own

private theorem adminAt_addAll {passphrase : List UInt8} {plan : List (Int × Int × List Char)}
    (adds : addAll machine sha256 passphrase plan db = some next) (other : Int) :
    next.adminAt other = db.adminAt other := by
  induction plan generalizing db with
  | nil => rw [← Option.some.inj adds]
  | cons ports rest ih =>
      obtain ⟨middle, first, adds⟩ := Option.bind_eq_some_iff.mp adds
      rw [ih adds, adminAt_addEntry first]

private theorem adminAt_webAdd {form : AddForm} (adds : db.webAdd machine sha256 form = some next)
    (other : Int) : next.adminAt other = db.adminAt other := by
  rw [webAdd] at adds
  split_ifs at adds
  exact adminAt_addAll adds other

private theorem adminAt_ownerEdit {port2 : Int} {form : EditForm}
    (edits : db.mutate machine (form.ownerEdit sha256) port2 = some next) (other : Int) :
    next.adminAt other = db.adminAt other := by
  obtain ⟨entry, found, edits⟩ := Option.bind_eq_some_iff.mp edits
  obtain ⟨changed, changes, stores⟩ := Option.bind_eq_some_iff.mp edits
  cases changes
  have magic := fetch_magic found
  obtain ⟨here, others⟩ := adminAt_store stores magic
  by_cases own : other = port2
  · subst own
    rw [here, submit_isAdmin, adminAt, found]
    rfl
  · exact others other own

private theorem adminAt_webEdit {port2 : Int} {form : AdminForm}
    (edits : db.webEdit machine sha256 port2 form = some next) :
    next.adminAt port2 = form.isAdmin ∧
      (∀ other, other ≠ port2 → next.adminAt other = db.adminAt other) ∧
      (db.adminAt port2 = true → form.isAdmin = false → 1 < db.countAdmins) := by
  rw [webEdit] at edits
  split_ifs at edits
  obtain ⟨entry, found, edits⟩ := Option.bind_eq_some_iff.mp edits
  obtain ⟨changed, changes, stores⟩ := Option.bind_eq_some_iff.mp edits
  obtain ⟨magic, -, -, last⟩ := adminEdit_eq_some changes
  obtain ⟨here, others⟩ := adminAt_store stores (magic.trans (fetch_magic found))
  refine ⟨here.trans (adminEdit_isAdmin changes), others, fun admin => last ?_⟩
  rw [adminAt, found] at admin
  exact admin

private theorem adminAt_webDelete {port2 : Int} (deletes : db.webDelete port2 = some next) :
    next.adminAt port2 = false ∧
      (∀ other, other ≠ port2 → next.adminAt other = db.adminAt other) ∧
      (db.adminAt port2 = true → 1 < db.countAdmins) := by
  obtain ⟨entry, found, last, removes⟩ := webDelete_remove deletes
  obtain ⟨gone, others⟩ := fetch_remove removes
  refine ⟨?_, fun other different => ?_, fun admin => last ?_⟩
  · rw [adminAt, gone]
    rfl
  · rw [adminAt, others other different, adminAt]
  · rw [adminAt, found] at admin
    exact admin

end Database

end Keydb

namespace Webadmin

variable {machine : Nat → Nat} {sha256 : List UInt8 → SecretKey}

/-! ## The last admin -/

/-- A request leaves an admin. -/
theorem request_leaves_admin {db : Database} {owner : Int} (request : Request)
    (some_ : 0 < db.countAdmins) :
    0 < (db.apply machine sha256 (request.mutation owner)).countAdmins := by
  rw [Database.apply]
  cases mutates : db.mutation machine sha256 (request.mutation owner) with
  | none => exact some_
  | some next =>
      rw [Option.getD_some]
      obtain ⟨port2, admin⟩ := Database.countAdmins_pos.mp some_
      rw [Database.countAdmins_pos]
      cases request with
      | add form => exact ⟨port2, (Database.adminAt_webAdd mutates port2).trans admin⟩
      | me form => exact ⟨port2, (Database.adminAt_ownerEdit mutates port2).trans admin⟩
      | edit edited form =>
          obtain ⟨here, others, last⟩ := Database.adminAt_webEdit mutates
          by_cases own : port2 = edited
          · subst own
            cases keeps : form.isAdmin with
            | true => exact ⟨port2, here.trans keeps⟩
            | false =>
                obtain ⟨other, different, alsoAdmin⟩ :=
                  Database.exists_other_admin (last admin keeps) port2
                exact ⟨other, (others other different).trans alsoAdmin⟩
          · exact ⟨port2, (others port2 own).trans admin⟩
      | delete deleted =>
          obtain ⟨-, others, last⟩ := Database.adminAt_webDelete mutates
          by_cases own : port2 = deleted
          · subst own
            obtain ⟨other, different, alsoAdmin⟩ := Database.exists_other_admin (last admin) port2
            exact ⟨other, (others other different).trans alsoAdmin⟩
          · exact ⟨port2, (others port2 own).trans admin⟩

/-- Only a request behind `require_admin` makes an entry an admin. -/
theorem requiresAdmin_of_grants {db : Database} {owner port2 : Int} {request : Request}
    (before : db.adminAt port2 = false)
    (grants : (db.apply machine sha256 (request.mutation owner)).adminAt port2 = true) :
    request.requiresAdmin = true := by
  cases request with
  | me form =>
      rw [Database.apply] at grants
      cases mutates : db.mutation machine sha256 (Request.mutation owner (.me form)) with
      | none =>
          rw [mutates, Option.getD_none, before] at grants
          cases grants
      | some next =>
          rw [mutates, Option.getD_some, Database.adminAt_ownerEdit mutates, before] at grants
          cases grants
  | _ => rfl

/-- `require_admin` asks for the live entry of the session. -/
theorem requireAdmin_some {db : Database} {session : Session} :
    requireAdmin db (some session) = db.adminAt session.owner := by
  rw [requireAdmin, refreshRole, Database.adminAt]
  cases db.fetch session.owner <;> rfl

/-- Whoever passes a check for administrators is one by then. -/
theorem letsThrough_admin {db : Database} {session : Session} {request : Request}
    (admin : request.requiresAdmin = true)
    (passes : letsThrough request.requiresAdmin db (some session) = true) :
    db.adminAt session.owner = true := by
  rw [admin, letsThrough, if_pos rfl, requireAdmin_some] at passes
  exact passes

/-- An event of the web admin, not of `keydb.py`. -/
def Event.isWeb {Client Worker : Type} : Event Client Worker → Bool
  | .command _ => false
  | _ => true

section Run

variable {Client Worker : Type} [DecidableEq Client] [DecidableEq Worker] {db : Database}

/-- The database after an event of the web admin is that before it or what a request made of
it. -/
theorem step_web (machine : Nat → Nat) (sha256 : List UInt8 → SecretKey)
    (site : Site Client Worker) {event : Event Client Worker} (web : event.isWeb = true) :
    (site.step machine sha256 event).db = site.db ∨
      ∃ worker visit, event = .route worker ∧ site.visits worker = some visit ∧
        (site.step machine sha256 event).db =
          site.db.apply machine sha256 (visit.request.mutation visit.session.owner) := by
  rw [site.step_db, Site.runs.eq_def]
  cases event with
  | command mutation => cases web
  | route worker =>
      dsimp only
      cases underWay : site.visits worker with
      | none => exact .inl rfl
      | some visit => exact .inr ⟨worker, visit, rfl, underWay, rfl⟩
  | _ => exact .inl rfl

/-- The web admin never loses its last admin. And an entry becomes an admin only by a request
that its role check found to be in the session of an admin. -/
theorem run_lastAdmin (admin : 0 < db.countAdmins) {history : List (Event Client Worker)}
    (web : ∀ event ∈ history, event.isWeb = true) :
    0 < (after machine sha256 db history).db.countAdmins ∧
      ∀ event before port2, event :: before <:+ history →
        (after machine sha256 db before).db.adminAt port2 = false →
        (after machine sha256 db (event :: before)).db.adminAt port2 = true →
        ∃ worker visit checked, event = .route worker ∧
          (after machine sha256 db before).visits worker = some visit ∧
          .check worker visit.client visit.request :: checked <:+ before ∧
          (after machine sha256 db checked).db.adminAt visit.session.owner = true := by
  constructor
  · induction history with
    | nil => exact admin
    | cons event before ih =>
        have earlier := ih fun other member => web other (List.mem_cons_of_mem _ member)
        rw [after, History.replay_cons]
        rcases step_web machine sha256 (after machine sha256 db before)
            (web event List.mem_cons_self) with
          same | ⟨worker, visit, -, -, changed⟩
        · rw [same]
          exact earlier
        · rw [changed]
          exact request_leaves_admin visit.request earlier
  · intro event before port2 suffix plain grants
    have webEvent : event.isWeb = true := web event (suffix.subset List.mem_cons_self)
    rw [after, History.replay_cons] at grants
    rcases step_web machine sha256 (after machine sha256 db before) webEvent with
      same | ⟨worker, visit, rfl, underWay, changed⟩
    · rw [same, plain] at grants
      cases grants
    · rw [changed] at grants
      have requires := requiresAdmin_of_grants plain grants
      obtain ⟨checked, earlier, -, passes⟩ := after_checked underWay
      exact ⟨worker, visit, checked, rfl, underWay, earlier, letsThrough_admin requires passes⟩

end Run

/-- Two admins with the ports 10001/20001 and 10002/20002. -/
def twoAdmins : Database :=
  History.replay (Database.apply quiet unusedDigest) ∅
    ([.set 20002 (.setFlag "admin"), .set 20001 (.setFlag "admin"),
      .addEntry 10002 20002 [] [1], .addEntry 10001 20001 [] [1]] : List (Mutation Unit))

/-- An edit that keeps a port1 and grants or revokes FLAG_ADMIN. -/
def adminForm (port1 : Int) (isAdmin : Bool) : AdminForm :=
  ⟨⟨none, [], false, false, false, none, none, false⟩, port1, isAdmin⟩

/-- Two admins that demote each other. -/
def mutualDemotion : List (Event Bool Bool) :=
  [.route true, .route false, .check true true (.edit 20001 (adminForm 10001 false)),
    .check false false (.edit 20002 (adminForm 10002 false)),
    .login true false 20002 [1], .login false false 20001 [1]]

/-- Two administrators demote each other, and one of them is left. -/
theorem run_lastAdmin_mutualDemotion :
    0 < (after quiet unusedDigest twoAdmins mutualDemotion).db.countAdmins ∧
      (after quiet unusedDigest twoAdmins mutualDemotion).db.adminAt 20002 = false := by
  have admin : 0 < twoAdmins.countAdmins := by decide +kernel
  have web : ∀ event ∈ mutualDemotion, event.isWeb = true := by
    intro event member
    simp only [mutualDemotion, List.mem_cons, List.not_mem_nil, or_false] at member
    rcases member with rfl | rfl | rfl | rfl | rfl | rfl <;> rfl
  exact ⟨(run_lastAdmin admin web).1, by decide +kernel⟩

/-! ## Demoted admins -/

section Demotion

variable {Client Worker : Type} [DecidableEq Client] [DecidableEq Worker]
  (machine : Nat → Nat) (sha256 : List UInt8 → SecretKey)

/-- The event takes FLAG_ADMIN from the entry of a port2, or deletes it. -/
def Demotes (site : Site Client Worker) (event : Event Client Worker) (port2 : Int) : Prop :=
  site.db.adminAt port2 = true ∧ (site.step machine sha256 event).db.adminAt port2 = false

/-- No other request of an admin that the event demotes is past its role check. -/
def Unhurried (site : Site Client Worker) (event : Event Client Worker) : Prop :=
  ∀ worker visit, site.visits worker = some visit → event ≠ .route worker →
    visit.request.requiresAdmin = true → ¬ Demotes machine sha256 site event visit.session.owner

/-- The requests of a demoted admin have no effect. -/
def DemotionStops (db : Database) (history : List (Event Client Worker)) : Prop :=
  ∀ worker before visit, .route worker :: before <:+ history →
    (after machine sha256 db before).visits worker = some visit →
    visit.request.requiresAdmin = true →
    (after machine sha256 db before).db.adminAt visit.session.owner = false →
    (after machine sha256 db (.route worker :: before)).db = (after machine sha256 db before).db

variable {machine sha256} {db : Database}

/-- The requests under way behind `require_admin` are those of admins. -/
def Entitled (site : Site Client Worker) : Prop :=
  ∀ worker visit, site.visits worker = some visit → visit.request.requiresAdmin = true →
    site.db.adminAt visit.session.owner = true

private theorem Entitled.step {site : Site Client Worker} (entitled : Entitled site)
    {event : Event Client Worker} (unhurried : Unhurried machine sha256 site event) :
    Entitled (site.step machine sha256 event) := by
  intro worker visit underWay requires
  rcases Site.step_visits _ underWay with ⟨earlier, other⟩ | ⟨rfl, -, passes⟩
  · have admin := entitled worker visit earlier requires
    have keeps := unhurried worker visit earlier other requires
    rw [Demotes, not_and, Bool.not_eq_false] at keeps
    exact keeps admin
  · have same : (site.step machine sha256 (.check worker visit.client visit.request)).db =
        site.db := site.step_db _
    rw [same]
    exact letsThrough_admin requires passes

/-- A demotion stops the requests of the demoted admin, in every run in which no demotion comes
between the role check of a request behind `require_admin` and its route. -/
theorem run_demoted {history : List (Event Client Worker)}
    (unhurried : History.Guarded (Site.step machine sha256) (.opening db)
      (Unhurried machine sha256) history) : DemotionStops machine sha256 db history := by
  intro worker before visit suffix underWay requires demoted
  have entitled : Entitled (after machine sha256 db before) := by
    have guarded := unhurried.of_suffix ((List.suffix_cons _ before).trans suffix)
    refine History.Guarded.invariant guarded ?_ fun site event holds => holds.step
    intro worker visit absent
    cases absent
  rw [entitled worker visit underWay requires] at demoted
  cases demoted

private theorem unhurried_of_idle {site : Site Client Worker}
    (idle : ∀ worker, site.visits worker = none)
    (event : Event Client Worker) : Unhurried machine sha256 site event := by
  intro worker visit underWay
  rw [idle worker] at underWay
  cases underWay

def admitted : List (Event Bool Bool) :=
  [.check false false (.edit 20001 (adminForm 10001 true)), .login false false 20001 [1]]

/-- An admin edits an entry, is demoted, and tries to edit it again. -/
def revoked : List (Event Bool Bool) :=
  .route false :: .check false false (.edit 20001 (adminForm 10001 true)) ::
    .command (.set 20001 (.clearFlag "admin")) :: .route false :: admitted

/-- A demoted administrator's next request is refused. -/
theorem run_demoted_revoked : DemotionStops quiet unusedDigest twoAdmins revoked := by
  have idle : ∀ earlier ∈ [revoked.drop 1, revoked.drop 2, revoked.drop 3, revoked.drop 5,
      revoked.drop 6], ∀ worker,
        ((after quiet unusedDigest twoAdmins earlier).visits worker).isNone = true := by
    decide +kernel
  simp only [List.forall_mem_cons, Option.isNone_iff_eq_none] at idle
  obtain ⟨second, third, fourth, sixth, opening, -⟩ := idle
  have running : Unhurried quiet unusedDigest (after quiet unusedDigest twoAdmins admitted)
      (.route false) := by
    -- the only request under way is the one whose route runs
    intro worker visit underWay other
    cases worker with
    | false => exact absurd rfl other
    | true =>
        have idle : ((after quiet unusedDigest twoAdmins admitted).visits true).isNone = true := by
          decide +kernel
        rw [underWay] at idle
        cases idle
  exact run_demoted ⟨unhurried_of_idle second _, unhurried_of_idle third _,
    unhurried_of_idle fourth _, running, unhurried_of_idle sixth _, unhurried_of_idle opening _,
    trivial⟩

/-- The other way around: the demotion comes behind the role check. -/
def hurried : List (Event Bool Bool) :=
  .route false :: .command (.set 20001 (.clearFlag "admin")) :: admitted

/-- A request past its role check goes through although its sender has been demoted by then. -/
theorem run_demoted_hurried : ¬ DemotionStops quiet unusedDigest twoAdmins hurried := by
  intro stops
  have checked : ((after quiet unusedDigest twoAdmins hurried.tail).visits false).map
      (fun visit => (visit.session.owner, visit.request.requiresAdmin)) = some (20001, true) := by
    decide +kernel
  obtain ⟨visit, underWay, same⟩ := Option.map_eq_some_iff.mp checked
  have demoted : (after quiet unusedDigest twoAdmins hurried.tail).db.adminAt 20001 = false := by
    decide +kernel
  have unchanged := stops false hurried.tail visit (List.suffix_refl _) underWay
    (congrArg Prod.snd same) ((congrArg _ (congrArg Prod.fst same)).trans demoted)
  have again : (after quiet unusedDigest twoAdmins hurried).db.adminAt 20001 = true := by
    decide +kernel
  have lost := congrArg (fun db => db.adminAt 20001) unchanged
  exact Bool.false_ne_true (demoted.symm.trans (lost.symm.trans again))

end Demotion

end Webadmin

end SupportProxy
