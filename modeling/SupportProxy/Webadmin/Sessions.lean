import SupportProxy.Webadmin.Site

/-! # Sessions

A cookie holds a port2 and nothing of the entry whose passphrase its login proved. `run_sessions`
says when the sessions that are let through are those of the entries that are stored. -/

namespace SupportProxy.Webadmin

open Keydb

variable {Client Worker : Type} [DecidableEq Client] [DecidableEq Worker]
  (machine : Nat → Nat) (sha256 : List UInt8 → SecretKey)

/-- The sessions that a guard lets through are of the entry that is stored. -/
def Belongs (site : Site Client Worker) : Prop :=
  ∀ client session admin, site.cookies client = some session →
    letsThrough admin site.db (some session) = true → session.birth = site.births session.owner

/-- The event adds an entry. -/
def Bears (site : Site Client Worker) (event : Event Client Worker) (port2 : Int) : Prop :=
  site.db.fetch port2 = none ∧ (site.step machine sha256 event).db.fetch port2 ≠ none

/-- Nobody holds a session of a port2 that the event adds an entry for. -/
def Unclaimed (site : Site Client Worker) (event : Event Client Worker) : Prop :=
  ∀ client session, site.cookies client = some session →
    ¬ Bears machine sha256 site event session.owner

/-- A login has proved the passphrase of the entry that the session is of. -/
def Proved (db : Database) (history : List (Event Client Worker)) (session : Session) : Prop :=
  ∃ client blocked port passphrase earlier entry,
    .login client blocked port passphrase :: earlier <:+ history ∧
      (after machine sha256 db earlier).db.fetch session.owner = some entry ∧
      passphraseMatches sha256 entry passphrase = true ∧
      session.birth = (after machine sha256 db earlier).births session.owner

variable {machine sha256}

/-! ## What the guards and the login look at -/

/-- `require_login` asks for the live entry of the session. -/
theorem requireLogin_some {db : Database} {session : Session} :
    requireLogin db (some session) = (db.fetch session.owner).isSome := by
  rw [requireLogin, refreshRole]
  cases db.fetch session.owner <;> rfl

private theorem findByPort_fetch {db : Database} {port port2 : Int} {entry : PythonEntry}
    (found : db.findByPort port = some (port2, entry)) : db.fetch port2 = some entry := by
  rw [Database.findByPort] at found
  split at found
  · rename_i fetched here
    cases found
    exact here
  · exact Database.mem_listEntries.mp (List.mem_of_find?_eq_some found)

private theorem loginPort_proves {db : Database} {blocked : Bool} {port port2 : Int}
    {passphrase : List UInt8} (accepts : loginPort sha256 db blocked port passphrase = some port2) :
    ∃ entry, db.fetch port2 = some entry ∧ passphraseMatches sha256 entry passphrase = true := by
  rw [loginPort] at accepts
  split_ifs at accepts
  obtain ⟨⟨found, entry⟩, filtered, rfl⟩ := Option.map_eq_some_iff.mp accepts
  obtain ⟨finds, same⟩ := Option.filter_eq_some_iff.mp filtered
  exact ⟨entry, findByPort_fetch finds, same⟩

/-! ## Steps -/

private theorem born_self (db : Database) (births : Int → Nat) : born db db births = births := by
  funext port2
  rw [born]
  cases db.fetch port2 <;> rfl

namespace Site

variable {site : Site Client Worker}

private theorem runRoute_births (worker : Worker) (visit : Visit Client) :
    (site.runRoute machine sha256 worker visit).births =
      born site.db (site.runRoute machine sha256 worker visit).db site.births := by
  rw [runRoute]
  cases site.db.mutation machine sha256 (visit.request.mutation visit.session.owner) with
  | none => exact (born_self ..).symm
  | some next =>
      cases visit.request with
      | delete deleted =>
          dsimp only
          split_ifs <;> rfl
      | _ => rfl

private theorem step_births (event : Event Client Worker) :
    (site.step machine sha256 event).births =
      born site.db (site.step machine sha256 event).db site.births := by
  have same := (born_self site.db site.births).symm
  rw [step.eq_def]
  cases event with
  | login client blocked port passphrase =>
      dsimp only
      split <;> exact same
  | logout client => exact same
  | copy source target => exact same
  | page client admin => exact same
  | check worker client request =>
      dsimp only
      split
      · split <;> exact same
      · exact same
  | route worker =>
      dsimp only
      split
      · exact runRoute_births ..
      · exact same
  | command mutation => rfl

private theorem births_of_not_bears {event : Event Client Worker} {port2 : Int}
    (bears : ¬ Bears machine sha256 site event port2) :
    (site.step machine sha256 event).births port2 = site.births port2 := by
  rw [step_births]
  refine if_neg fun both => bears ?_
  rw [Bool.and_eq_true, Option.isNone_iff_eq_none, Option.isSome_iff_ne_none] at both
  exact both

private theorem births_of_bears {event : Event Client Worker} {port2 : Int}
    (bears : Bears machine sha256 site event port2) :
    (site.step machine sha256 event).births port2 = site.births port2 + 1 := by
  rw [step_births]
  refine if_pos ?_
  rw [Bool.and_eq_true, Option.isNone_iff_eq_none, Option.isSome_iff_ne_none]
  exact bears

/-- A session that somebody holds has been held before, or comes from a login. -/
theorem step_cookies {event : Event Client Worker} {client : Client} {session : Session}
    (held : (site.step machine sha256 event).cookies client = some session) :
    (∃ other, site.cookies other = some session) ∨
      ∃ blocked port passphrase, event = .login client blocked port passphrase ∧
        loginPort sha256 site.db blocked port passphrase = some session.owner ∧
        session.birth = site.births session.owner := by
  have set : ∀ {before : Site Client Worker} {other : Client} {cookie : Option Session},
      (before.setCookie other cookie).cookies client = some session →
        before.cookies client = some session ∨ (client = other ∧ cookie = some session) := by
    intro before other cookie updated
    by_cases own : client = other
    · subst own
      have taken : (before.setCookie client cookie).cookies client = cookie :=
        Function.update_self ..
      exact .inr ⟨rfl, taken.symm.trans updated⟩
    · have kept : (before.setCookie other cookie).cookies client = before.cookies client :=
        Function.update_of_ne own ..
      exact .inl (kept.symm.trans updated)
  have refreshed : ∀ {other : Client}, (site.checkRole other).cookies client = some session →
      ∃ other, site.cookies other = some session := by
    intro other checked
    rcases set checked with kept | ⟨rfl, fresh⟩
    · exact ⟨client, kept⟩
    · refine ⟨client, ?_⟩
      cases cookie : site.cookies client with
      | none =>
          rw [cookie] at fresh
          cases fresh
      | some own =>
          rw [cookie, refreshRole] at fresh
          cases found : site.db.fetch own.owner with
          | none =>
              rw [found] at fresh
              cases fresh
          | some entry =>
              rw [found] at fresh
              exact fresh
  rw [step.eq_def] at held
  cases event with
  | login other blocked port passphrase =>
      dsimp only at held
      split at held
      · rename_i port2 accepts
        rcases set held with kept | ⟨rfl, fresh⟩
        · exact .inl ⟨client, kept⟩
        · cases fresh
          exact .inr ⟨blocked, port, passphrase, rfl, accepts, rfl⟩
      · exact .inl ⟨client, held⟩
  | logout other =>
      rcases set held with kept | ⟨-, absurd⟩
      · exact .inl ⟨client, kept⟩
      · cases absurd
  | copy source target =>
      rcases set held with kept | ⟨-, copied⟩
      · exact .inl ⟨client, kept⟩
      · exact .inl ⟨source, copied⟩
  | page other admin => exact .inl (refreshed held)
  | check worker other request =>
      dsimp only at held
      split at held
      · split at held
        · exact .inl (refreshed held)
        · exact .inl (refreshed held)
      · exact .inl ⟨client, held⟩
  | route worker =>
      dsimp only at held
      cases underWay : site.visits worker with
      | none =>
          rw [underWay] at held
          exact .inl ⟨client, held⟩
      | some visit =>
          rw [underWay] at held
          dsimp only at held
          rw [runRoute] at held
          split at held
          · exact .inl ⟨client, held⟩
          · split at held
            · split at held
              · rcases set held with kept | ⟨-, absurd⟩
                · exact .inl ⟨client, kept⟩
                · cases absurd
              · exact .inl ⟨client, held⟩
            · exact .inl ⟨client, held⟩
  | command mutation => exact .inl ⟨client, held⟩

end Site

/-- An event that adds an entry leaves the cookies alone. -/
theorem Site.cookies_of_bears {site : Site Client Worker} {event : Event Client Worker}
    {port2 : Int} (bears : Bears machine sha256 site event port2) :
    (site.step machine sha256 event).cookies = site.cookies := by
  obtain ⟨absent, present⟩ := bears
  rw [site.step_db, runs.eq_def] at present
  rw [step.eq_def]
  cases event with
  | command mutation => rfl
  | route worker =>
      dsimp only at present ⊢
      cases underWay : site.visits worker with
      | none => rfl
      | some visit =>
          rw [underWay, Option.map_some, Option.map_some, Option.getD_some, Database.apply]
            at present
          dsimp only
          rw [runRoute]
          cases mutates : site.db.mutation machine sha256
              (visit.request.mutation visit.session.owner) with
          | none => rfl
          | some next =>
              rw [mutates, Option.getD_some] at present
              cases requested : visit.request with
              | delete deleted =>
                  -- a removal adds nothing
                  rw [requested] at mutates
                  obtain ⟨_, _, _, removes⟩ := Database.webDelete_remove mutates
                  obtain ⟨gone, others⟩ := Database.fetch_remove removes
                  by_cases own : port2 = deleted
                  · rw [own, gone] at present
                    exact absurd rfl present
                  · rw [others port2 own] at present
                    exact absurd absent present
              | _ => rfl
  | _ => exact absurd absent present

/-! ## Runs -/

section Run

variable {db : Database}

/-- Every session comes from a login that proved the passphrase of its entry. -/
theorem after_proved {history : List (Event Client Worker)} {client : Client} {session : Session}
    (held : (after machine sha256 db history).cookies client = some session) :
    Proved machine sha256 db history session := by
  induction history generalizing client with
  | nil => cases held
  | cons event before ih =>
      rcases Site.step_cookies held with ⟨other, earlier⟩ |
        ⟨blocked, port, passphrase, rfl, accepts, birth⟩
      · obtain ⟨holder, blocked, port, passphrase, login, entry, suffix, rest⟩ := ih earlier
        exact ⟨holder, blocked, port, passphrase, login, entry,
          suffix.trans (List.suffix_cons event before), rest⟩
      · obtain ⟨entry, found, proves⟩ := loginPort_proves accepts
        exact ⟨client, blocked, port, passphrase, before, entry, List.suffix_refl _, found, proves,
          birth⟩

/-- Everybody's session is of the entry that its port2 had last. -/
def Current (site : Site Client Worker) : Prop :=
  ∀ client session, site.cookies client = some session → session.birth = site.births session.owner

omit [DecidableEq Client] [DecidableEq Worker] in
private theorem Current.belongs {site : Site Client Worker} (current : Current site) :
    Belongs site :=
  fun client session _ held _ => current client session held

private theorem Current.step {site : Site Client Worker} (current : Current site)
    {event : Event Client Worker} (unclaimed : Unclaimed machine sha256 site event) :
    Current (site.step machine sha256 event) := by
  intro client session held
  rcases Site.step_cookies held with ⟨other, earlier⟩ |
    ⟨blocked, port, passphrase, rfl, accepts, birth⟩
  · rw [Site.births_of_not_bears (unclaimed other session earlier)]
    exact current other session earlier
  · have same : (site.step machine sha256 (.login client blocked port passphrase)).db = site.db :=
      site.step_db _
    rw [Site.births_of_not_bears, birth]
    rintro ⟨absent, present⟩
    rw [same] at present
    exact present absent

private theorem current_of_guarded {history : List (Event Client Worker)}
    (guarded : History.Guarded (Site.step machine sha256) (.opening db) (Unclaimed machine sha256)
      history) : Current (after machine sha256 db history) := by
  have start : Current (.opening db : Site Client Worker) :=
    fun client session held => by cases held
  exact guarded.invariant start fun site event holds => holds.step

/-- If the sessions belong to the stored entries after an event, then it was unclaimed. -/
theorem Current.unclaimed {site : Site Client Worker} (current : Current site)
    {event : Event Client Worker} (belongs : Belongs (site.step machine sha256 event)) :
    Unclaimed machine sha256 site event := by
  intro client session held bears
  have kept : (site.step machine sha256 event).cookies client = some session := by
    rw [Site.cookies_of_bears bears]
    exact held
  have passes : letsThrough false (site.step machine sha256 event).db (some session) = true := by
    rw [letsThrough, if_neg Bool.false_ne_true, requireLogin_some, Option.isSome_iff_ne_none]
    exact bears.2
  have birth := belongs client session false kept passes
  rw [Site.births_of_bears bears, current client session held] at birth
  exact Nat.succ_ne_self _ birth.symm

/-- Every session comes from a login that proved the passphrase of the entry it is of. And the
sessions that are let through are of the entries that are stored, all the time, just when no
entry is added for a port2 that somebody holds a session of. -/
theorem run_sessions (history : List (Event Client Worker)) :
    (∀ client session, (after machine sha256 db history).cookies client = some session →
        Proved machine sha256 db history session) ∧
      ((∀ earlier, earlier <:+ history → Belongs (after machine sha256 db earlier)) ↔
        History.Guarded (Site.step machine sha256) (.opening db) (Unclaimed machine sha256)
          history) := by
  refine ⟨fun client session held => after_proved held, fun belongs => ?_,
    fun unclaimed earlier suffix => ?_⟩
  · induction history with
    | nil => exact History.guarded_nil
    | cons event before ih =>
        have guarded := ih fun earlier suffix =>
          belongs earlier (suffix.trans (List.suffix_cons event before))
        have current := current_of_guarded guarded
        exact ⟨current.unclaimed (belongs (event :: before) (List.suffix_refl _)), guarded⟩
  · have guarded := unclaimed.of_suffix suffix
    exact (current_of_guarded guarded).belongs

end Run

/-- An entry is deleted and another one added under its port2. -/
def readded : List (Event Bool Bool) :=
  [.command (.addEntry 10001 20001 [] [2]), .command (.removeEntry 20001),
    .login false false 20001 [1], .command (.addEntry 10001 20001 [] [1])]

/-- A digest that tells the two passphrases apart. -/
def firstByte (passphrase : List UInt8) : SecretKey := Vector.replicate 32 (passphrase.headD 0)

/-- An entry is deleted and added again, and a cookie for the old one is taken for the new one. -/
theorem run_sessions_readded :
    loginPort firstByte (after quiet firstByte ∅ readded).db false 20001 [1] = none ∧
      ¬ Belongs (after quiet firstByte ∅ readded) := by
  refine ⟨by decide +kernel, fun belongs => ?_⟩
  have held : (after quiet firstByte ∅ readded).cookies false = some ⟨20001, 1⟩ := by
    decide +kernel
  have births : (after quiet firstByte ∅ readded).births 20001 = 2 := by decide +kernel
  have passes :
      letsThrough false (after quiet firstByte ∅ readded).db (some ⟨20001, 1⟩) = true := by
    decide +kernel
  have same := belongs false ⟨20001, 1⟩ false held passes
  rw [births] at same
  cases same

end SupportProxy.Webadmin
