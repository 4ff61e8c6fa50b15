import SupportProxy.Keydb.Mutations
import SupportProxy.Library.History

/-! # The web admin

Requests to the web admin and commands of `keydb.py` over one database. A request is let through
by a role check and then runs its route, each in a transaction of its own, so other requests may
come in between. Every event is one transaction. -/

namespace SupportProxy.Webadmin

open Keydb

variable {Client Worker : Type}

/-- A cookie holds the port2 that its login was for. `birth` is not in the cookie: it says how
many entries that port2 had had at the login. -/
structure Session where
  owner : Int
  birth : Nat
deriving DecidableEq

/-- The requests that change the database. -/
inductive Request
  | add (form : AddForm)
  | edit (port2 : Int) (form : AdminForm)
  | delete (port2 : Int)
  | me (form : EditForm)

/-- Behind `require_admin`. -/
def Request.requiresAdmin : Request → Bool
  | .me _ => false
  | _ => true

/-- The transaction of the route, in the session of an owner. -/
def Request.mutation (owner : Int) : Request → Mutation Unit
  | .add form => .webAdd form
  | .edit port2 form => .webEdit port2 form
  | .delete port2 => .webDelete port2
  | .me form => .ownerEdit owner form

/-- A request that has been let through. -/
structure Visit (Client : Type) where
  client : Client
  session : Session
  request : Request

/-- Clients are all that can hold a cookie: browsers, responses under way to them, and whoever
has kept a copy. -/
structure Site (Client Worker : Type) where
  db : Database
  cookies : Client → Option Session
  visits : Worker → Option (Visit Client)
  /-- how many entries a port2 has had -/
  births : Int → Nat

inductive Event (Client Worker : Type)
  | login (client : Client) (blocked : Bool) (port : Int) (passphrase : List UInt8)
  | logout (client : Client)
  /-- the cookie of one client comes to another -/
  | copy (source target : Client)
  /-- a page, behind `require_admin` or `require_login` -/
  | page (client : Client) (admin : Bool)
  /-- the role check of a request -/
  | check (worker : Worker) (client : Client) (request : Request)
  /-- the route of a request -/
  | route (worker : Worker)
  /-- a command of `keydb.py` -/
  | command (mutation : Mutation Unit)

/-! ## Sessions and roles -/

/-- `_refresh_role`: the session it leaves, and the live entry. -/
def refreshRole (db : Database) : Option Session → Option Session × Option PythonEntry
  | none => (none, none)
  | some session =>
      match db.fetch session.owner with
      | none => (none, none)
      | some entry => (some session, some entry)

/-- `require_login` lets a request through. -/
def requireLogin (db : Database) (session : Option Session) : Bool :=
  session.isSome && (refreshRole db session).2.isSome

/-- `require_admin` lets a request through. -/
def requireAdmin (db : Database) (session : Option Session) : Bool :=
  (refreshRole db session).2.any PythonEntry.isAdmin

/-- The guard of a route. -/
def letsThrough (admin : Bool) (db : Database) (session : Option Session) : Bool :=
  if admin then requireAdmin db session else requireLogin db session

/-- `KeyEntry.passphrase_matches` -/
def passphraseMatches (sha256 : List UInt8 → SecretKey) (entry : PythonEntry)
    (passphrase : List UInt8) : Bool := decide (entry.secretKey = (sha256 passphrase).toList)

/-- The entry that `login` accepts. -/
def loginPort (sha256 : List UInt8 → SecretKey) (db : Database) (blocked : Bool) (port : Int)
    (passphrase : List UInt8) : Option Int :=
  if 1 ≤ port ∧ port ≤ 65535 ∧ passphrase ≠ [] ∧ blocked = false then
    ((db.findByPort port).filter fun found => passphraseMatches sha256 found.2 passphrase).map
      Prod.fst
  else none

/-- An entry is born where there was none. -/
def born (before next : Database) (births : Int → Nat) (port2 : Int) : Nat :=
  if (before.fetch port2).isNone && (next.fetch port2).isSome then births port2 + 1
  else births port2

/-! ## Steps -/

section Step

variable [DecidableEq Client] [DecidableEq Worker]
  (machine : Nat → Nat) (sha256 : List UInt8 → SecretKey)

namespace Site

variable (site : Site Client Worker)

def setCookie (client : Client) (session : Option Session) : Site Client Worker :=
  { site with cookies := Function.update site.cookies client session }

def setVisit (worker : Worker) (visit : Option (Visit Client)) : Site Client Worker :=
  { site with visits := Function.update site.visits worker visit }

/-- A committed database. -/
def commit (next : Database) : Site Client Worker :=
  { site with db := next, births := born site.db next site.births }

/-- The role check of a request, which drops the session of an entry that is gone. -/
def checkRole (client : Client) : Site Client Worker :=
  site.setCookie client (refreshRole site.db (site.cookies client)).1

/-- The route of a request that has been let through. Who deletes the own entry is logged out. -/
def runRoute (worker : Worker) (visit : Visit Client) : Site Client Worker :=
  let site' := site.setVisit worker none
  match site.db.mutation machine sha256 (visit.request.mutation visit.session.owner) with
  | none => site'
  | some next =>
      let left := site'.commit next
      match visit.request with
      | .delete port2 =>
          if port2 = visit.session.owner then left.setCookie visit.client none else left
      | _ => left

def step (event : Event Client Worker) (site : Site Client Worker) : Site Client Worker :=
  match event with
  | .login client blocked port passphrase =>
      match loginPort sha256 site.db blocked port passphrase with
      | some port2 => site.setCookie client (some ⟨port2, site.births port2⟩)
      | none => site
  | .logout client => site.setCookie client none
  | .copy source target => site.setCookie target (site.cookies source)
  | .page client _ => site.checkRole client
  | .check worker client request =>
      match site.visits worker, site.cookies client with
      | none, some session =>
          if letsThrough request.requiresAdmin site.db (some session) then
            (site.checkRole client).setVisit worker (some ⟨client, session, request⟩)
          else site.checkRole client
      | _, _ => site
  | .route worker =>
      match site.visits worker with
      | some visit => site.runRoute machine sha256 worker visit
      | none => site
  | .command mutation => site.commit (site.db.apply machine sha256 mutation)

variable {machine sha256}

/-- The mutation that an event runs. -/
def runs (event : Event Client Worker) : Option (Mutation Unit) :=
  match event with
  | .route worker =>
      (site.visits worker).map fun visit => visit.request.mutation visit.session.owner
  | .command mutation => some mutation
  | _ => none

@[simp] theorem runRoute_db (worker : Worker) (visit : Visit Client) :
    (site.runRoute machine sha256 worker visit).db =
      site.db.apply machine sha256 (visit.request.mutation visit.session.owner) := by
  rw [runRoute, Database.apply]
  cases site.db.mutation machine sha256 (visit.request.mutation visit.session.owner) with
  | none => rfl
  | some next =>
      cases visit.request with
      | delete port2 =>
          dsimp only
          split_ifs <;> rfl
      | _ => rfl

@[simp] theorem runRoute_visits (worker : Worker) (visit : Visit Client) :
    (site.runRoute machine sha256 worker visit).visits =
      Function.update site.visits worker none := by
  rw [runRoute]
  cases site.db.mutation machine sha256 (visit.request.mutation visit.session.owner) with
  | none => rfl
  | some next =>
      cases visit.request with
      | delete port2 =>
          dsimp only
          split_ifs <;> rfl
      | _ => rfl

/-- The database changes by the mutation of the event. -/
theorem step_db (event : Event Client Worker) :
    (site.step machine sha256 event).db =
      ((site.runs event).map fun mutation => site.db.apply machine sha256 mutation).getD
        site.db := by
  rw [step.eq_def, runs.eq_def]
  cases event with
  | login client blocked port passphrase =>
      dsimp only
      split <;> rfl
  | logout client => rfl
  | copy source target => rfl
  | page client admin => rfl
  | check worker client request =>
      dsimp only
      split
      · split <;> rfl
      · rfl
  | route worker =>
      dsimp only
      cases site.visits worker with
      | none => rfl
      | some visit => exact site.runRoute_db worker visit
  | command mutation => rfl

/-- A request is under way since its role check. -/
theorem step_visits {event : Event Client Worker} {worker : Worker} {visit : Visit Client}
    (underWay : (site.step machine sha256 event).visits worker = some visit) :
    site.visits worker = some visit ∧ event ≠ .route worker ∨
      event = .check worker visit.client visit.request ∧
        site.cookies visit.client = some visit.session ∧
        letsThrough visit.request.requiresAdmin site.db (some visit.session) := by
  rw [step.eq_def] at underWay
  cases event with
  | login client blocked port passphrase =>
      dsimp only at underWay
      split at underWay <;> exact .inl ⟨underWay, by simp⟩
  | logout client => exact .inl ⟨underWay, by simp⟩
  | copy source target => exact .inl ⟨underWay, by simp⟩
  | page client admin => exact .inl ⟨underWay, by simp⟩
  | check other client request =>
      dsimp only at underWay
      split at underWay
      · rename_i session idle cookie
        split at underWay
        · rename_i passes
          by_cases own : worker = other
          · subst own
            have taken : ((site.checkRole client).setVisit worker
                (some ⟨client, session, request⟩)).visits worker = _ := Function.update_self ..
            rw [taken] at underWay
            cases underWay
            exact .inr ⟨rfl, cookie, passes⟩
          · have kept : ((site.checkRole client).setVisit other
                (some ⟨client, session, request⟩)).visits worker = _ :=
              Function.update_of_ne own ..
            rw [kept] at underWay
            exact .inl ⟨underWay, by simp⟩
        · exact .inl ⟨underWay, by simp⟩
      · exact .inl ⟨underWay, by simp⟩
  | route other =>
      dsimp only at underWay
      cases runs : site.visits other with
      | none =>
          rw [runs] at underWay
          refine .inl ⟨underWay, fun same => ?_⟩
          rw [Event.route.inj same, underWay] at runs
          cases runs
      | some run =>
          rw [runs] at underWay
          dsimp only at underWay
          rw [runRoute_visits] at underWay
          by_cases own : worker = other
          · subst own
            rw [Function.update_self] at underWay
            cases underWay
          · rw [Function.update_of_ne own] at underWay
            exact .inl ⟨underWay, fun same => own (Event.route.inj same).symm⟩
  | command mutation => exact .inl ⟨underWay, by simp⟩

end Site

/-- Before the first login. -/
def Site.opening (db : Database) : Site Client Worker :=
  ⟨db, fun _ => none, fun _ => none, fun _ => 0⟩

/-- The site after a history, which the database was in before. -/
abbrev after (db : Database) (history : List (Event Client Worker)) : Site Client Worker :=
  History.replay (Site.step machine sha256) (.opening db) history

variable {machine sha256} {db : Database}

/-- A request under way has passed its role check. -/
theorem after_checked {history : List (Event Client Worker)} {worker : Worker}
    {visit : Visit Client}
    (underWay : (after machine sha256 db history).visits worker = some visit) :
    ∃ checked, .check worker visit.client visit.request :: checked <:+ history ∧
      (after machine sha256 db checked).cookies visit.client = some visit.session ∧
      letsThrough visit.request.requiresAdmin (after machine sha256 db checked).db
        (some visit.session) := by
  induction history with
  | nil => cases underWay
  | cons event before ih =>
      rcases Site.step_visits _ underWay with ⟨earlier, -⟩ | ⟨rfl, cookie, passes⟩
      · obtain ⟨checked, suffix, rest⟩ := ih earlier
        exact ⟨checked, suffix.trans (List.suffix_cons event before), rest⟩
      · exact ⟨before, List.suffix_refl _, cookie, passes⟩

end Step

end SupportProxy.Webadmin
