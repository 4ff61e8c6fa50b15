import SupportProxy.Library.History
import Mathlib.Algebra.Order.Ring.Int
import Mathlib.Logic.Function.Basic

/-! # The login throttle

`throttle.py` and the way `login` of `auth.py` uses it. The threads of the web process run
their requests step by step: `is_blocked`, the check of the passphrase, `record_failure` and
`record_success` are steps of their own, and so are the readings of the clock in front of the
lock. Times are in microseconds. -/

namespace SupportProxy.Webadmin.Throttle

/-- `WINDOW_SECONDS` -/
def windowSeconds : Int := 60 * 1000000

/-- `MAX_FAILURES_PER_WINDOW` -/
def maxFailuresPerWindow : Nat := 10

/-- `_failures` -/
abbrev Failures := String → Option (List Int)

/-- `_prune` -/
def prune (tsList : List Int) (now : Int) : List Int :=
  tsList.filter fun t => decide (now - windowSeconds ≤ t)

/-- `_prune(_failures.get(ip, []), now)` -/
def Failures.recent (failures : Failures) (ip : String) (now : Int) : List Int :=
  prune ((failures ip).getD []) now

/-- `is_blocked`, with what it read from the clock -/
def isBlocked (failures : Failures) (ip : String) (now : Int) : Bool × Failures :=
  if ip = "" then (false, failures)
  else (decide (maxFailuresPerWindow ≤ (failures.recent ip now).length),
    Function.update failures ip (some (failures.recent ip now)))

/-- `record_failure`, with what it read from the clock -/
def recordFailure (failures : Failures) (ip : String) (now : Int) : Failures :=
  if ip = "" then failures
  else Function.update failures ip (some (failures.recent ip now ++ [now]))

/-- `record_success` -/
def recordSuccess (failures : Failures) (ip : String) : Failures :=
  if ip = "" then failures else Function.update failures ip none

/-- How far a login request has come. The time of the check is noted and read by no step. -/
inductive Phase
  | submitted
  | asking (now : Int)
  | admitted
  | wrong (checkedAt : Int)
  | recording (checkedAt now : Int)
  | right
  | finished
deriving DecidableEq

structure Attempt where
  ip : String
  phase : Phase
deriving DecidableEq

/-- The web process, with a log of what its requests did and when. -/
structure Server where
  clock : Int
  failures : Failures
  attempts : List Attempt
  wrongChecks : List (String × Int)
  recorded : List (String × Int)
  successes : List (String × Int)

/-- A step of the web process: time passes, a request comes in, or the thread of a request
goes on; `right` is what the check says when it is one. -/
inductive Step
  | elapse (time : Nat)
  | submit (ip : String)
  | run (id : Nat) (right : Bool)

namespace Server

def initial : Server := ⟨0, fun _ => none, [], [], [], []⟩

/-- The request goes on to a phase. -/
def move (server : Server) (id : Nat) (ip : String) (phase : Phase) : Server :=
  { server with attempts := server.attempts.set id ⟨ip, phase⟩ }

/-- The next step of `login` for a request. -/
def advance (server : Server) (id : Nat) (ip : String) (right : Bool) : Phase → Server
  | .submitted => server.move id ip (.asking server.clock)
  | .asking now =>
      { server.move id ip (if (isBlocked server.failures ip now).1 then .finished else .admitted)
        with failures := (isBlocked server.failures ip now).2 }
  | .admitted =>
      if right then server.move id ip .right
      else { server.move id ip (.wrong server.clock) with
        wrongChecks := (ip, server.clock) :: server.wrongChecks }
  | .wrong checkedAt => server.move id ip (.recording checkedAt server.clock)
  | .recording _ now =>
      { server.move id ip .finished with
        failures := recordFailure server.failures ip now
        recorded := (ip, now) :: server.recorded }
  | .right =>
      { server.move id ip .finished with
        failures := recordSuccess server.failures ip
        successes := (ip, server.clock) :: server.successes }
  | .finished => server

def apply : Step → Server → Server
  | .elapse time, server => { server with clock := server.clock + time }
  | .submit ip, server => { server with attempts := server.attempts ++ [⟨ip, .submitted⟩] }
  | .run id right, server =>
      match server.attempts[id]? with
      | none => server
      | some attempt => server.advance id attempt.ip right attempt.phase

/-- The server after a run, the newest step first. -/
def after (steps : List Step) : Server := History.replay apply initial steps

end Server

/-- Past `is_blocked`, and neither recorded nor found right. -/
def InFlight (ip : String) (attempt : Attempt) : Bool :=
  decide (attempt.ip = ip) &&
    match attempt.phase with
    | .admitted => true
    | .wrong _ => true
    | .recording _ _ => true
    | _ => false

/-- The wrong passphrases checked for an address in a window. -/
def Server.checkedIn (server : Server) (ip : String) (start stop : Int) : Nat :=
  server.wrongChecks.countP fun check =>
    decide (check.1 = ip ∧ start ≤ check.2 ∧ check.2 ≤ stop)

/-- No login of the address succeeds in the window. -/
def Server.Quiet (server : Server) (ip : String) (start stop : Int) : Prop :=
  ∀ success ∈ server.successes, ¬(success.1 = ip ∧ start ≤ success.2 ∧ success.2 ≤ stop)

instance (server : Server) (ip : String) (start stop : Int) :
    Decidable (server.Quiet ip start stop) :=
  inferInstanceAs (Decidable (∀ success ∈ server.successes, _))

/-- What a request of the address is about to ask `is_blocked`. -/
def Attempt.asks (ip : String) : Attempt → Option Int
  | ⟨other, .asking now⟩ => if other = ip then some now else none
  | _ => none

/-- `is_blocked` lets a request through only with less than the maximum of failures counted
and requests in flight together. -/
def Orderly (ip : String) (server : Server) : Step → Prop
  | .run id _ => ∀ now ∈ server.attempts[id]?.bind (Attempt.asks ip),
      (isBlocked server.failures ip now).1 = false →
        (server.failures.recent ip now).length + server.attempts.countP (InFlight ip) <
          maxFailuresPerWindow
  | _ => True

instance (ip : String) (server : Server) : (step : Step) → Decidable (Orderly ip server step)
  | .elapse _ => isTrue trivial
  | .submit _ => isTrue trivial
  | .run id _ =>
      inferInstanceAs (Decidable (∀ now ∈ server.attempts[id]?.bind (Attempt.asks ip),
        (isBlocked server.failures ip now).1 = false →
          (server.failures.recent ip now).length + server.attempts.countP (InFlight ip) <
            maxFailuresPerWindow))

/-- Checked and wrong since `start`, and not recorded. -/
def Pending (ip : String) (start : Int) (attempt : Attempt) : Bool :=
  decide (attempt.ip = ip) &&
    match attempt.phase with
    | .wrong checkedAt => decide (start ≤ checkedAt)
    | .recording checkedAt _ => decide (start ≤ checkedAt)
    | _ => false

/-- The failures counted from `start` on. -/
def Failures.since (failures : Failures) (ip : String) (start : Int) : Nat :=
  ((failures ip).getD []).countP fun t => decide (start ≤ t)

/-- What a phase remembers lies in the past. -/
def Phase.Timely (clock : Int) : Phase → Prop
  | .asking now => now ≤ clock
  | .wrong checkedAt => checkedAt ≤ clock
  | .recording checkedAt now => checkedAt ≤ now ∧ now ≤ clock
  | _ => True

section Counting

variable {α : Type*} {items : List α} {index : Nat} {old : α}

private theorem countP_set_add (held : items[index]? = some old) (new : α) (p : α → Bool) :
    (items.set index new).countP p + (if p old then 1 else 0) =
      items.countP p + (if p new then 1 else 0) := by
  obtain ⟨inside, rfl⟩ := List.getElem?_eq_some_iff.mp held
  have counts : (if p items[index] then 1 else 0) ≤ items.countP p :=
    List.boole_getElem_le_countP inside
  rw [List.countP_set inside]
  omega

/-- A new item that counts as much as the old one. -/
theorem countP_set_same (held : items[index]? = some old) {new : α} {p : α → Bool}
    (same : p new = p old) : (items.set index new).countP p = items.countP p := by
  have counts := countP_set_add held new p
  rw [same] at counts
  exact Nat.add_right_cancel counts

end Counting

namespace Failures

variable {failures : Failures} {ip : String} {now start : Int}

/-- Nothing is pruned of a window that is still open. -/
theorem countP_prune (tsList : List Int) (opens : now - windowSeconds ≤ start) :
    (prune tsList now).countP (fun t => decide (start ≤ t)) =
      tsList.countP fun t => decide (start ≤ t) := by
  rw [prune, List.countP_filter]
  refine List.countP_congr fun t _ => ?_
  simp only [Bool.and_eq_true, decide_eq_true_eq, and_iff_left_iff_imp]
  exact opens.trans

private theorem since_isBlocked (opens : now - windowSeconds ≤ start) (other : String) :
    (isBlocked failures other now).2.since ip start = failures.since ip start := by
  rw [isBlocked]
  by_cases unnamed : other = ""
  · rw [if_pos unnamed]
  · rw [if_neg unnamed, since, since]
    dsimp only
    by_cases same : ip = other
    · subst same
      rw [Function.update_self, Option.getD_some, recent, countP_prune _ opens]
    · rw [Function.update_of_ne same]

private theorem since_recordFailure (named : ip ≠ "") (opens : now - windowSeconds ≤ start) :
    (recordFailure failures ip now).since ip start =
      failures.since ip start + if start ≤ now then 1 else 0 := by
  rw [recordFailure, if_neg named, since, Function.update_self, Option.getD_some,
    List.countP_append, recent, countP_prune _ opens, since, List.countP_singleton]
  simp only [decide_eq_true_eq]

private theorem since_recordFailure_other {other : String} (different : ip ≠ other) :
    (recordFailure failures other now).since ip start = failures.since ip start := by
  rw [recordFailure]
  by_cases unnamed : other = ""
  · rw [if_pos unnamed]
  · rw [if_neg unnamed, since, Function.update_of_ne different, since]

private theorem since_recordSuccess_le (other : String) :
    (recordSuccess failures other).since ip start ≤ failures.since ip start := by
  rw [recordSuccess]
  by_cases unnamed : other = ""
  · rw [if_pos unnamed]
  · rw [if_neg unnamed, since, since]
    by_cases same : ip = other
    · subst same
      rw [Function.update_self]
      exact Nat.zero_le _
    · rw [Function.update_of_ne same]

private theorem since_recordSuccess_other {other : String} (different : ip ≠ other) :
    (recordSuccess failures other).since ip start = failures.since ip start := by
  rw [recordSuccess]
  by_cases unnamed : other = ""
  · rw [if_pos unnamed]
  · rw [if_neg unnamed, since, Function.update_of_ne different, since]

/-- What `is_blocked` counts. -/
theorem since_le_recent (opens : now - windowSeconds ≤ start) :
    failures.since ip start ≤ (failures.recent ip now).length := by
  rw [since, ← countP_prune _ opens]
  exact List.countP_le_length

end Failures

/-- What holds of an address in every orderly run. `potential` and `covered` are about the
windows that are still open. -/
structure Throttled (ip : String) (server : Server) : Prop where
  timely : ∀ attempt ∈ server.attempts, attempt.phase.Timely server.clock
  checked : ∀ check ∈ server.wrongChecks, check.2 ≤ server.clock
  potential : ∀ start, server.clock ≤ start + windowSeconds →
    server.failures.since ip start + server.attempts.countP (InFlight ip) ≤ maxFailuresPerWindow
  covered : ∀ start stop, server.clock ≤ stop → stop ≤ start + windowSeconds →
    server.Quiet ip start stop → server.checkedIn ip start stop ≤
      server.failures.since ip start + server.attempts.countP (Pending ip start)
  bounded : ∀ start stop, stop ≤ start + windowSeconds → server.Quiet ip start stop →
    server.checkedIn ip start stop ≤ maxFailuresPerWindow

variable {ip : String} {server : Server}

private theorem pending_le_inFlight (start : Int) (attempts : List Attempt) :
    attempts.countP (Pending ip start) ≤ attempts.countP (InFlight ip) := by
  refine List.countP_mono_left fun attempt _ pending => ?_
  obtain ⟨other, phase⟩ := attempt
  rw [Pending, Bool.and_eq_true] at pending
  rw [InFlight, Bool.and_eq_true]
  cases phase with
  | wrong checkedAt => exact ⟨pending.1, rfl⟩
  | recording checkedAt now => exact ⟨pending.1, rfl⟩
  | _ => exact absurd pending.2 Bool.false_ne_true

/-- The bound follows for the open windows, and the others do not change. -/
theorem Throttled.of_covered {next : Server} (before : Throttled ip server)
    (timely : ∀ attempt ∈ next.attempts, attempt.phase.Timely next.clock)
    (checked : ∀ check ∈ next.wrongChecks, check.2 ≤ next.clock)
    (potential : ∀ start, next.clock ≤ start + windowSeconds →
      next.failures.since ip start + next.attempts.countP (InFlight ip) ≤ maxFailuresPerWindow)
    (covered : ∀ start stop, next.clock ≤ stop → stop ≤ start + windowSeconds →
      next.Quiet ip start stop → next.checkedIn ip start stop ≤
        next.failures.since ip start + next.attempts.countP (Pending ip start))
    (closed : ∀ start stop, stop < next.clock →
      next.checkedIn ip start stop = server.checkedIn ip start stop)
    (successes : server.successes ⊆ next.successes) : Throttled ip next where
  timely := timely
  checked := checked
  potential := potential
  covered := covered
  bounded := by
    intro start stop within quiet
    by_cases opens : next.clock ≤ stop
    · have bound := potential start (opens.trans within)
      have cover := covered start stop opens within quiet
      have fewer := @pending_le_inFlight ip start next.attempts
      omega
    · rw [closed start stop (not_le.mp opens)]
      exact before.bounded start stop within fun success member => quiet success (successes member)

private theorem timely_set {clock : Int} {attempts : List Attempt} {id : Nat} {new : Attempt}
    (timely : ∀ attempt ∈ attempts, attempt.phase.Timely clock) (own : new.phase.Timely clock) :
    ∀ attempt ∈ attempts.set id new, attempt.phase.Timely clock := by
  intro attempt member
  rcases List.mem_or_eq_of_mem_set member with earlier | rfl
  · exact timely attempt earlier
  · exact own

/-- A request goes on to a phase that counts as much, and nothing else happens. -/
theorem Throttled.moved (before : Throttled ip server) {id : Nat} {other : String}
    {old phase : Phase} (held : server.attempts[id]? = some ⟨other, old⟩)
    (timely : phase.Timely server.clock)
    (inFlight : InFlight ip ⟨other, phase⟩ = InFlight ip ⟨other, old⟩)
    (pending : ∀ start, Pending ip start ⟨other, phase⟩ = Pending ip start ⟨other, old⟩) :
    Throttled ip (server.move id other phase) := by
  have flights : (server.attempts.set id ⟨other, phase⟩).countP (InFlight ip) =
      server.attempts.countP (InFlight ip) := countP_set_same held inFlight
  have pendings : ∀ start, (server.attempts.set id ⟨other, phase⟩).countP (Pending ip start) =
      server.attempts.countP (Pending ip start) := fun start => countP_set_same held (pending start)
  refine before.of_covered ?_ before.checked ?_ ?_ (fun _ _ _ => rfl) (List.Subset.refl _)
  · exact timely_set before.timely timely
  · intro start opens
    rw [Server.move, flights]
    exact before.potential start opens
  · intro start stop opens within quiet
    rw [Server.move, pendings]
    exact before.covered start stop opens within quiet

private theorem Phase.Timely.later {phase : Phase} {clock later : Int} (timely : phase.Timely clock)
    (order : clock ≤ later) : phase.Timely later := by
  cases phase with
  | asking now => exact timely.trans order
  | wrong checkedAt => exact timely.trans order
  | recording checkedAt now => exact ⟨timely.1, timely.2.trans order⟩
  | _ => trivial

private theorem Throttled.elapse (before : Throttled ip server) (time : Nat) :
    Throttled ip (Server.apply (.elapse time) server) := by
  have later : server.clock ≤ server.clock + time := by omega
  refine before.of_covered ?_ ?_ ?_ ?_ (fun _ _ _ => rfl) (List.Subset.refl _)
  · exact fun attempt member => (before.timely attempt member).later later
  · exact fun check member => (before.checked check member).trans later
  · exact fun start opens => before.potential start (later.trans opens)
  · exact fun start stop opens => before.covered start stop (later.trans opens)

private theorem Throttled.submit (before : Throttled ip server) (other : String) :
    Throttled ip (Server.apply (.submit other) server) := by
  have flights : (server.attempts ++ [Attempt.mk other .submitted]).countP (InFlight ip) =
      server.attempts.countP (InFlight ip) := by
    rw [List.countP_append, List.countP_singleton, InFlight, Bool.and_false]
    rfl
  have pendings : ∀ start,
      (server.attempts ++ [Attempt.mk other .submitted]).countP (Pending ip start) =
      server.attempts.countP (Pending ip start) := by
    intro start
    rw [List.countP_append, List.countP_singleton, Pending, Bool.and_false]
    rfl
  refine before.of_covered ?_ before.checked ?_ ?_ (fun _ _ _ => rfl) (List.Subset.refl _)
  · intro attempt member
    rcases List.mem_append.mp member with earlier | new
    · exact before.timely attempt earlier
    · rw [List.mem_singleton.mp new]
      trivial
  · intro start opens
    rw [Server.apply, flights]
    exact before.potential start opens
  · intro start stop opens within quiet
    rw [Server.apply, pendings]
    exact before.covered start stop opens within quiet

/-- `is_blocked` prunes what no open window counts; the guard is what leaves room for one
more request in flight. -/
theorem Throttled.asked (before : Throttled ip server) (named : ip ≠ "") {id : Nat}
    {other : String} {now : Int} (held : server.attempts[id]? = some ⟨other, .asking now⟩)
    (right : Bool) (orderly : Orderly ip server (.run id right)) :
    Throttled ip (server.advance id other right (.asking now)) := by
  have past : now ≤ server.clock := before.timely _ (List.mem_of_getElem? held)
  have opens : ∀ start, server.clock ≤ start + windowSeconds → now - windowSeconds ≤ start := by
    intro start opens
    omega
  have since : ∀ start, server.clock ≤ start + windowSeconds →
      (isBlocked server.failures other now).2.since ip start = server.failures.since ip start :=
    fun start isOpen => Failures.since_isBlocked (opens start isOpen) other
  rw [Server.advance]
  generalize phased : (if (isBlocked server.failures other now).1 then Phase.finished
    else Phase.admitted) = phase
  have timely : phase.Timely server.clock := by
    rw [← phased]
    split_ifs <;> trivial
  have pendings : ∀ start, (server.attempts.set id ⟨other, phase⟩).countP (Pending ip start) =
      server.attempts.countP (Pending ip start) := by
    intro start
    have none : Pending ip start ⟨other, phase⟩ = Pending ip start ⟨other, .asking now⟩ := by
      rw [← phased]
      split_ifs <;> rfl
    exact countP_set_same held none
  refine before.of_covered (timely_set before.timely timely) before.checked ?_ ?_
    (fun _ _ _ => rfl) (List.Subset.refl _)
  · intro start isOpen
    dsimp only [Server.move]
    rw [since start isOpen]
    have counts := countP_set_add held ⟨other, phase⟩ (InFlight ip)
    have room := before.potential start isOpen
    have asking : InFlight ip ⟨other, .asking now⟩ = false := by rw [InFlight, Bool.and_false]
    rw [asking, if_neg Bool.false_ne_true, Nat.add_zero] at counts
    rw [counts]
    by_cases taken : InFlight ip ⟨other, phase⟩ = true
    · rw [if_pos taken]
      rw [InFlight, Bool.and_eq_true, decide_eq_true_iff] at taken
      obtain ⟨same, admitted⟩ := taken
      dsimp only at same admitted
      subst same
      have passed : (isBlocked server.failures other now).1 = false := by
        by_contra blocked
        rw [if_pos (Bool.not_eq_false _ ▸ blocked)] at phased
        rw [← phased] at admitted
        exact Bool.false_ne_true admitted
      have asks : now ∈ server.attempts[id]?.bind (Attempt.asks other) := by
        rw [held, Option.bind_some, Attempt.asks, if_pos rfl]
        rfl
      have guard := orderly now asks passed
      have few : server.failures.since other start ≤
          (server.failures.recent other now).length :=
        Failures.since_le_recent (opens start isOpen)
      omega
    · rw [if_neg taken]
      exact room
  · intro start stop isOpen within quiet
    dsimp only [Server.move]
    rw [since start (isOpen.trans within), pendings]
    exact before.covered start stop isOpen within quiet

/-- The check of the passphrase. -/
theorem Throttled.judged (before : Throttled ip server) {id : Nat} {other : String}
    (held : server.attempts[id]? = some ⟨other, .admitted⟩) (right : Bool) :
    Throttled ip (server.advance id other right .admitted) := by
  rw [Server.advance]
  cases right with
  | true =>
      rw [if_pos rfl]
      have flights := countP_set_add held ⟨other, .right⟩ (InFlight ip)
      have found : InFlight ip ⟨other, .right⟩ = false := by rw [InFlight, Bool.and_false]
      rw [found, if_neg Bool.false_ne_true, Nat.add_zero] at flights
      have pendings : ∀ start, (server.attempts.set id ⟨other, .right⟩).countP (Pending ip start) =
          server.attempts.countP (Pending ip start) := fun start => countP_set_same held rfl
      refine before.of_covered (timely_set before.timely trivial) before.checked ?_ ?_
        (fun _ _ _ => rfl) (List.Subset.refl _)
      · intro start opens
        have room := before.potential start opens
        dsimp only [Server.move]
        omega
      · intro start stop opens within quiet
        dsimp only [Server.move]
        rw [pendings]
        exact before.covered start stop opens within quiet
  | false =>
      rw [if_neg Bool.false_ne_true]
      have flights : (server.attempts.set id ⟨other, .wrong server.clock⟩).countP (InFlight ip) =
          server.attempts.countP (InFlight ip) := countP_set_same held rfl
      refine before.of_covered (timely_set before.timely le_rfl) ?_ ?_ ?_ ?_ (List.Subset.refl _)
      · intro check member
        rcases List.mem_cons.mp member with rfl | earlier
        · exact le_rfl
        · exact before.checked check earlier
      · intro start opens
        dsimp only [Server.move]
        rw [flights]
        exact before.potential start opens
      · intro start stop opens within quiet
        have isOpen : server.clock ≤ stop := opens
        have cover := before.covered start stop isOpen within quiet
        have pendings := countP_set_add held ⟨other, .wrong server.clock⟩ (Pending ip start)
        have admitted : Pending ip start ⟨other, .admitted⟩ = false := by
          rw [Pending, Bool.and_false]
        rw [admitted, if_neg Bool.false_ne_true, Nat.add_zero] at pendings
        dsimp only [Server.move]
        rw [pendings, Server.checkedIn, List.countP_cons]
        rw [Server.checkedIn] at cover
        have counted : (if decide (other = ip ∧ start ≤ server.clock ∧
            server.clock ≤ stop) = true then 1 else 0) ≤
              if Pending ip start ⟨other, .wrong server.clock⟩ = true then 1 else 0 := by
          rw [Pending]
          by_cases same : other = ip
          · by_cases inside : start ≤ server.clock
            · simp only [same, inside, isOpen, and_self, decide_true, Bool.and_self, ↓reduceIte,
                le_refl]
            · simp only [inside, false_and, and_false, decide_false, Bool.false_eq_true,
                ↓reduceIte, Nat.zero_le]
          · simp only [same, false_and, decide_false, Bool.false_eq_true, ↓reduceIte, Nat.zero_le]
        dsimp only
        omega
      · intro start stop closed
        rw [Server.checkedIn, List.countP_cons_of_neg]
        · rfl
        · rw [decide_eq_true_iff]
          rintro ⟨-, -, inside⟩
          exact absurd inside (not_le.mpr closed)

/-- `record_failure` counts what was pending. -/
theorem Throttled.noted (before : Throttled ip server) (named : ip ≠ "") {id : Nat}
    {other : String} {checkedAt now : Int}
    (held : server.attempts[id]? = some ⟨other, .recording checkedAt now⟩) (right : Bool) :
    Throttled ip (server.advance id other right (.recording checkedAt now)) := by
  obtain ⟨order, past⟩ : checkedAt ≤ now ∧ now ≤ server.clock :=
    before.timely _ (List.mem_of_getElem? held)
  rw [Server.advance]
  have flights := countP_set_add held ⟨other, .finished⟩ (InFlight ip)
  have pendings := fun start => countP_set_add held ⟨other, .finished⟩ (Pending ip start)
  have gone : InFlight ip ⟨other, .finished⟩ = false := by rw [InFlight, Bool.and_false]
  have settled : ∀ start, Pending ip start ⟨other, .finished⟩ = false := by
    intro start
    rw [Pending, Bool.and_false]
  rw [gone, if_neg Bool.false_ne_true, Nat.add_zero] at flights
  simp only [settled, Bool.false_eq_true, ↓reduceIte, Nat.add_zero] at pendings
  -- what the window counts, before and after
  have since : ∀ start, server.clock ≤ start + windowSeconds →
      (recordFailure server.failures other now).since ip start =
        server.failures.since ip start + if other = ip ∧ start ≤ now then 1 else 0 := by
    intro start opens
    by_cases same : other = ip
    · subst same
      rw [Failures.since_recordFailure named (by omega)]
      simp only [true_and]
    · rw [Failures.since_recordFailure_other (Ne.symm same)]
      simp only [same, false_and, ↓reduceIte, Nat.add_zero]
  refine before.of_covered (timely_set before.timely trivial) before.checked ?_ ?_
    (fun _ _ _ => rfl) (List.Subset.refl _)
  · intro start opens
    have room := before.potential start opens
    dsimp only [Server.move]
    rw [since start opens]
    by_cases same : other = ip
    · have flying : InFlight ip ⟨other, .recording checkedAt now⟩ = true := by
        rw [InFlight, same, decide_eq_true rfl, Bool.and_true]
      rw [flying, if_pos rfl] at flights
      split_ifs <;> omega
    · rw [if_neg fun both => same both.1]
      omega
  · intro start stop opens within quiet
    have cover := before.covered start stop opens within quiet
    have owed := pendings start
    dsimp only [Server.move]
    rw [since start (opens.trans within)]
    have counted : (if Pending ip start ⟨other, .recording checkedAt now⟩ = true then 1 else 0) ≤
        if other = ip ∧ start ≤ now then 1 else 0 := by
      by_cases pending : Pending ip start ⟨other, .recording checkedAt now⟩ = true
      · rw [Pending, Bool.and_eq_true, decide_eq_true_iff, decide_eq_true_iff] at pending
        rw [if_pos (show other = ip ∧ start ≤ now from ⟨pending.1, pending.2.trans order⟩)]
        split_ifs <;> omega
      · rw [if_neg pending]
        exact Nat.zero_le _
    have same : Server.checkedIn { server.move id other .finished with
        failures := recordFailure server.failures other now
        recorded := (other, now) :: server.recorded } ip start stop =
          server.checkedIn ip start stop := rfl
    rw [Server.move] at same
    rw [same]
    omega

/-- `record_success` ends every window in which something was checked. -/
theorem Throttled.won (before : Throttled ip server) {id : Nat} {other : String}
    (held : server.attempts[id]? = some ⟨other, .right⟩) (right : Bool) :
    Throttled ip (server.advance id other right .right) := by
  rw [Server.advance]
  have flights : (server.attempts.set id ⟨other, .finished⟩).countP (InFlight ip) =
      server.attempts.countP (InFlight ip) := countP_set_same held rfl
  have pendings : ∀ start, (server.attempts.set id ⟨other, .finished⟩).countP (Pending ip start) =
      server.attempts.countP (Pending ip start) := fun start => countP_set_same held rfl
  refine before.of_covered (timely_set before.timely trivial) before.checked ?_ ?_
    (fun _ _ _ => rfl) (List.subset_cons_self _ _)
  · intro start opens
    have room := before.potential start opens
    have fewer : (recordSuccess server.failures other).since ip start ≤
      server.failures.since ip start := Failures.since_recordSuccess_le other
    dsimp only [Server.move]
    rw [flights]
    omega
  · intro start stop opens within quiet
    dsimp only [Server.move]
    rw [pendings]
    by_cases same : other = ip
    · have early : server.clock < start := by
        by_contra late
        exact quiet (other, server.clock) List.mem_cons_self ⟨same, not_lt.mp late, opens⟩
      have none : server.checkedIn ip start stop = 0 := by
        rw [Server.checkedIn, List.countP_eq_zero]
        intro check member
        rw [decide_eq_true_iff]
        rintro ⟨-, later, -⟩
        have := before.checked check member
        omega
      exact none.trans_le (Nat.zero_le _)
    · rw [Failures.since_recordSuccess_other (Ne.symm same)]
      exact before.covered start stop opens within fun success member =>
        quiet success (List.mem_cons_of_mem _ member)

private theorem throttled_initial : Throttled ip Server.initial where
  timely := fun _ member => (List.not_mem_nil member).elim
  checked := fun _ member => (List.not_mem_nil member).elim
  potential := fun _ _ => Nat.zero_le _
  covered := fun _ _ _ _ _ => le_rfl
  bounded := fun _ _ _ _ => Nat.zero_le _

private theorem Throttled.step (before : Throttled ip server) (named : ip ≠ "") {step : Step}
    (orderly : Orderly ip server step) : Throttled ip (Server.apply step server) := by
  cases step with
  | elapse time => exact before.elapse time
  | submit other => exact before.submit other
  | run id right =>
      rw [Server.apply]
      cases held : server.attempts[id]? with
      | none => exact before
      | some attempt =>
          obtain ⟨other, phase⟩ := attempt
          dsimp only
          cases phase with
          | submitted => exact before.moved held le_rfl rfl fun _ => rfl
          | asking now => exact before.asked named held right orderly
          | admitted => exact before.judged held right
          | wrong checkedAt =>
              have past : checkedAt ≤ server.clock := before.timely _ (List.mem_of_getElem? held)
              exact before.moved held ⟨past, le_rfl⟩ rfl fun _ => rfl
          | recording checkedAt now => exact before.noted named held right
          | right => exact before.won held right
          | finished => exact before

/-- What is counted for an address was recorded for it. -/
def Logged (ip : String) (server : Server) : Prop :=
  ∀ t ∈ (server.failures ip).getD [], (ip, t) ∈ server.recorded

private theorem Logged.pruned {failures : Failures} {recorded : List (String × Int)}
    (logged : ∀ t ∈ (failures ip).getD [], (ip, t) ∈ recorded) (now : Int) :
    ∀ t ∈ failures.recent ip now, (ip, t) ∈ recorded :=
  fun t member => logged t (List.mem_of_mem_filter member)

private theorem Logged.step (before : Logged ip server) (step : Step) :
    Logged ip (Server.apply step server) := by
  cases step with
  | elapse time => exact before
  | submit other => exact before
  | run id right =>
      rw [Server.apply]
      cases held : server.attempts[id]? with
      | none => exact before
      | some attempt =>
          obtain ⟨other, phase⟩ := attempt
          dsimp only
          cases phase with
          | submitted => exact before
          | wrong checkedAt => exact before
          | finished => exact before
          | admitted =>
              rw [Server.advance]
              split_ifs <;> exact before
          | asking now =>
              intro t member
              rw [Server.advance, isBlocked] at member
              by_cases unnamed : other = ""
              · rw [if_pos unnamed] at member
                exact before t member
              · rw [if_neg unnamed] at member
                dsimp only at member
                by_cases same : ip = other
                · subst same
                  rw [Function.update_self, Option.getD_some] at member
                  exact Logged.pruned before now t member
                · rw [Function.update_of_ne same] at member
                  exact before t member
          | recording checkedAt now =>
              intro t member
              rw [Server.advance, recordFailure] at member
              by_cases unnamed : other = ""
              · rw [if_pos unnamed] at member
                exact List.mem_cons_of_mem _ (before t member)
              · rw [if_neg unnamed] at member
                dsimp only at member
                by_cases same : ip = other
                · subst same
                  rw [Function.update_self, Option.getD_some] at member
                  rcases List.mem_append.mp member with earlier | new
                  · exact List.mem_cons_of_mem _ (Logged.pruned before now t earlier)
                  · rw [List.mem_singleton.mp new]
                    exact List.mem_cons_self
                · rw [Function.update_of_ne same] at member
                  exact List.mem_cons_of_mem _ (before t member)
          | right =>
              intro t member
              rw [Server.advance, recordSuccess] at member
              by_cases unnamed : other = ""
              · rw [if_pos unnamed] at member
                exact before t member
              · rw [if_neg unnamed] at member
                dsimp only at member
                by_cases same : ip = other
                · subst same
                  rw [Function.update_self] at member
                  exact (List.not_mem_nil member).elim
                · rw [Function.update_of_ne same] at member
                  exact before t member

/-- An address all of whose recorded failures are older than the window is let through. -/
theorem Logged.released (logged : Logged ip server) {now : Int}
    (old : ∀ failure ∈ server.recorded, failure.1 = ip → failure.2 < now - windowSeconds) :
    (isBlocked server.failures ip now).1 = false := by
  rw [isBlocked]
  by_cases unnamed : ip = ""
  · rw [if_pos unnamed]
  · have none : server.failures.recent ip now = [] := by
      rw [Failures.recent, prune, List.filter_eq_nil_iff]
      intro t member
      rw [decide_eq_true_iff, not_le]
      exact old (ip, t) (logged t member) rfl
    rw [if_neg unnamed, none]
    rfl

/-! ## Logins one after the other -/

/-- A request of the address that still has something to do. -/
def Unfinished (ip : String) (attempt : Attempt) : Bool :=
  decide (attempt.ip = ip) && attempt.phase != .finished

/-- A request of the address comes in only when all earlier ones are finished. -/
def Sequential (ip : String) (server : Server) : Step → Prop
  | .submit other => other = ip → server.attempts.countP (Unfinished ip) = 0
  | _ => True

instance (ip : String) (server : Server) : (step : Step) → Decidable (Sequential ip server step)
  | .elapse _ => isTrue trivial
  | .submit other =>
      inferInstanceAs (Decidable (other = ip → server.attempts.countP (Unfinished ip) = 0))
  | .run _ _ => isTrue trivial

private theorem unfinished_advance {id : Nat} {other : String} {phase : Phase}
    (held : server.attempts[id]? = some ⟨other, phase⟩) (right : Bool) :
    (server.advance id other right phase).attempts.countP (Unfinished ip) ≤
      server.attempts.countP (Unfinished ip) := by
  by_cases done : phase = .finished
  · subst done
    exact le_rfl
  · have moves : ∃ next, (server.advance id other right phase).attempts =
        server.attempts.set id ⟨other, next⟩ := by
      cases phase with
      | admitted => cases right <;> exact ⟨_, rfl⟩
      | finished => exact absurd rfl done
      | _ => exact ⟨_, rfl⟩
    obtain ⟨next, same⟩ := moves
    have counts := countP_set_add held ⟨other, next⟩ (Unfinished ip)
    have fewer : Unfinished ip ⟨other, next⟩ = true → Unfinished ip ⟨other, phase⟩ = true := by
      intro unfinished
      rw [Unfinished, Bool.and_eq_true] at unfinished ⊢
      exact ⟨unfinished.1, bne_iff_ne.mpr done⟩
    rw [same]
    by_cases old : Unfinished ip ⟨other, phase⟩ = true
    · rw [if_pos old] at counts
      split_ifs at counts <;> omega
    · rw [if_neg old, if_neg fun new => old (fewer new)] at counts
      exact counts.le

/-- One request of the address at a time. -/
theorem unfinished_step {step : Step} (single : server.attempts.countP (Unfinished ip) ≤ 1)
    (sequential : Sequential ip server step) :
    (Server.apply step server).attempts.countP (Unfinished ip) ≤ 1 := by
  cases step with
  | elapse time => exact single
  | submit other =>
      rw [Server.apply, List.countP_append, List.countP_singleton]
      by_cases own : other = ip
      · rw [sequential own]
        split_ifs <;> omega
      · rw [Unfinished, decide_eq_false own, Bool.false_and, if_neg Bool.false_ne_true]
        exact single
  | run id right =>
      rw [Server.apply]
      cases held : server.attempts[id]? with
      | none => exact single
      | some attempt => exact (unfinished_advance held right).trans single

/-- While a request asks, no other one of the address is in flight. -/
theorem Sequential.orderly (single : server.attempts.countP (Unfinished ip) ≤ 1)
    (named : ip ≠ "") (step : Step) : Orderly ip server step := by
  cases step with
  | elapse time => trivial
  | submit other => trivial
  | run id right =>
      intro now asks admitted
      obtain ⟨attempt, held, asking⟩ := Option.bind_eq_some_iff.mp asks
      obtain ⟨other, phase⟩ := attempt
      have asker : other = ip ∧ phase = .asking now := by
        cases phase with
        | asking time =>
            rw [Attempt.asks] at asking
            split_ifs at asking with own
            exact ⟨own, congrArg Phase.asking (Option.some.inj asking)⟩
        | _ => cases asking
      obtain ⟨rfl, rfl⟩ := asker
      have others := countP_set_add held ⟨other, .finished⟩ (Unfinished other)
      have own : Unfinished other ⟨other, .asking now⟩ = true := by
        rw [Unfinished, decide_eq_true rfl]
        rfl
      have gone : Unfinished other ⟨other, .finished⟩ = false := by
        rw [Unfinished, bne_self_eq_false, Bool.and_false]
      rw [own, gone, if_pos rfl, if_neg Bool.false_ne_true] at others
      have flights : (server.attempts.set id ⟨other, .finished⟩).countP (InFlight other) =
          server.attempts.countP (InFlight other) :=
        countP_set_same held (by rw [InFlight, InFlight])
      have fewer : (server.attempts.set id ⟨other, .finished⟩).countP (InFlight other) ≤
          (server.attempts.set id ⟨other, .finished⟩).countP (Unfinished other) := by
        refine List.countP_mono_left fun attempt _ flying => ?_
        rw [InFlight, Bool.and_eq_true] at flying
        rw [Unfinished, Bool.and_eq_true, bne_iff_ne]
        refine ⟨flying.1, fun done => ?_⟩
        rw [done] at flying
        exact absurd flying.2 Bool.false_ne_true
      rw [isBlocked, if_neg named, decide_eq_false_iff_not] at admitted
      omega

/-- Logins of an address that do not overlap are orderly. -/
theorem sequential_orderly (named : ip ≠ "") {steps : List Step}
    (sequential : History.Guarded Server.apply Server.initial (Sequential ip) steps) :
    History.Guarded Server.apply Server.initial (Orderly ip) steps := by
  induction steps with
  | nil => trivial
  | cons step before ih =>
      have single : (Server.after before).attempts.countP (Unfinished ip) ≤ 1 :=
        History.Guarded.invariant sequential.2 (Nat.zero_le 1) fun _ _ => unfinished_step
      exact ⟨Sequential.orderly single named step, ih sequential.2⟩

/-! ## Every run -/

/-- **The throttle bounds the guesses** of every address in every window without a success,
in every run in which a request is let through only with less than the maximum of failures
counted and requests in flight together, as in every run in which the logins of the address do not
overlap; and it releases an address whose failures are old in every run. -/
theorem run_throttle {ip : String} (named : ip ≠ "") (steps : List Step) :
    (History.Guarded Server.apply Server.initial (Orderly ip) steps →
      ∀ start stop, stop ≤ start + windowSeconds → (Server.after steps).Quiet ip start stop →
        (Server.after steps).checkedIn ip start stop ≤ maxFailuresPerWindow) ∧
      (History.Guarded Server.apply Server.initial (Sequential ip) steps →
        History.Guarded Server.apply Server.initial (Orderly ip) steps) ∧
      ∀ now, (∀ failure ∈ (Server.after steps).recorded, failure.1 = ip →
        failure.2 < now - windowSeconds) →
          (isBlocked (Server.after steps).failures ip now).1 = false := by
  refine ⟨?_, sequential_orderly named, ?_⟩
  · intro orderly
    have throttled : Throttled ip (Server.after steps) :=
      orderly.invariant throttled_initial fun _ _ before guard => before.step named guard
    exact throttled.bounded
  · have logged : Logged ip (Server.after steps) := by
      induction steps with
      | nil => exact fun t member => (List.not_mem_nil member).elim
      | cons step before ih => exact ih.step step
    exact fun now old => logged.released old

/-- A request with a wrong passphrase and its sleep, the newest step first. -/
def wrongAttempt (id : Nat) : List Step :=
  .elapse 500000 :: List.replicate 5 (.run id false) ++ [.submit "192.0.2.7"]

/-- Wrong passphrases, one request after the other. -/
def guesses : Nat → List Step
  | 0 => []
  | count + 1 => wrongAttempt count ++ guesses count

/-- Two wrong passphrases one after the other, and then two at once. -/
def twoAtOnce : List Step :=
  [.run 3 false, .run 2 false, .run 3 false, .run 2 false, .run 3 false, .run 2 false,
    .submit "192.0.2.7", .submit "192.0.2.7"] ++ guesses 2

/-- Two guesses one after the other, and then two at once. -/
theorem run_throttle_guesses :
    (Server.after (guesses 2)).checkedIn "192.0.2.7" 0 windowSeconds = 2 ∧
      (Server.after (guesses 2)).checkedIn "192.0.2.7" 0 windowSeconds ≤ maxFailuresPerWindow ∧
      (Server.after twoAtOnce).checkedIn "192.0.2.7" 0 windowSeconds = 4 ∧
      (Server.after twoAtOnce).checkedIn "192.0.2.7" 0 windowSeconds ≤ maxFailuresPerWindow := by
  obtain ⟨sequentialBound, orderly, -⟩ := @run_throttle "192.0.2.7" (by decide) (guesses 2)
  obtain ⟨overlappingBound, -⟩ := @run_throttle "192.0.2.7" (by decide) twoAtOnce
  refine ⟨by decide, ?_, by decide, ?_⟩
  · exact sequentialBound (orderly (by decide)) 0 windowSeconds (by decide) (by decide)
  · exact overlappingBound (by decide +kernel) 0 windowSeconds (by decide) (by decide)

/-- Nine wrong passphrases, and two requests that are let through before either is recorded. -/
def overlapping : List Step :=
  [.run 10 false, .run 9 false, .run 10 false, .run 9 false, .run 10 false, .run 9 false,
    .submit "192.0.2.7", .submit "192.0.2.7"] ++ guesses 9

/-- Eleven wrong passphrases are checked within five seconds. -/
theorem run_throttle_overlapping :
    (Server.after overlapping).successes = [] ∧
      (Server.after overlapping).checkedIn "192.0.2.7" 0 windowSeconds =
        maxFailuresPerWindow + 1 := by
  decide +kernel

end SupportProxy.Webadmin.Throttle
