import SupportProxy.Library.History
import Mathlib.Logic.Function.Basic

/-! # Serialised transactions

Clients work on one record, each in transactions of its own: it takes up an operation, starts
a transaction when no other is open, loads the record into its memory, computes the new record
from its memory, and commits. In between it may read the record at any time, and what it had
in memory before its transaction may be old. `run_serial` says that the record is always the
result of the committed operations in the order of their commits, and `run_began` that each
of them was applied to the record its own transaction began with. -/

namespace Transactions

variable {Client Record Operation : Type*}

/-- How far a client is. -/
inductive Stage (Record Operation : Type*)
  | idle
  | waiting (operation : Operation)
  | started (operation : Operation)
  | loaded (operation : Operation)
  | written (operation : Operation) (record : Record)

/-- The operation of an open transaction. -/
def Stage.inside : Stage Record Operation → Option Operation
  | .started operation | .loaded operation | .written operation _ => some operation
  | _ => none

/-- The record and the clients. The holder is the one that has a transaction open. -/
structure Store (Client Record Operation : Type*) where
  record : Record
  holder : Option Client
  memory : Client → Record
  stage : Client → Stage Record Operation

inductive Event (Client Operation : Type*)
  /-- a copy made outside of a transaction -/
  | read (client : Client)
  | submit (client : Client) (operation : Operation)
  | start (client : Client)
  | load (client : Client)
  | write (client : Client)
  | commit (client : Client)
  | cancel (client : Client)

variable [DecidableEq Client] (run : Operation → Record → Option Record)

namespace Store

variable (client : Client) (store : Store Client Record Operation)

def enter (stage : Stage Record Operation) : Store Client Record Operation :=
  { store with stage := Function.update store.stage client stage }

/-- The end of a transaction. -/
def leave : Store Client Record Operation :=
  { store.enter client .idle with holder := none }

def remember : Store Client Record Operation :=
  { store with memory := Function.update store.memory client store.record }

/-- An operation that stores nothing is cancelled. -/
def step (event : Event Client Operation) (store : Store Client Record Operation) :
    Store Client Record Operation :=
  match event with
  | .read client => store.remember client
  | .submit client operation =>
      match store.stage client with
      | .idle => store.enter client (.waiting operation)
      | _ => store
  | .start client =>
      match store.stage client, store.holder with
      | .waiting operation, none =>
          { store.enter client (.started operation) with holder := some client }
      | _, _ => store
  | .load client =>
      match store.stage client with
      | .started operation => (store.remember client).enter client (.loaded operation)
      | _ => store
  | .write client =>
      match store.stage client with
      | .loaded operation =>
          match run operation (store.memory client) with
          | some record => store.enter client (.written operation record)
          | none => store.leave client
      | _ => store
  | .commit client =>
      match store.stage client with
      | .written _ record => { store.leave client with record := record }
      | _ => store
  | .cancel client =>
      match (store.stage client).inside with
      | some _ => store.leave client
      | none => store

/-- The holder alone has a transaction open, and works on the record as it is. -/
structure Sound (store : Store Client Record Operation) : Prop where
  held : ∀ client operation, (store.stage client).inside = some operation →
    store.holder = some client
  fresh : ∀ client operation, store.stage client = .loaded operation →
    store.memory client = store.record
  computed : ∀ client operation record, store.stage client = .written operation record →
    run operation store.record = some record

variable {run} {client store}

namespace Sound

/-- Loading the record for later keeps the store sound. -/
theorem remember (sound : Sound run store) (client : Client) :
    Sound run (store.remember client) := by
  refine ⟨sound.held, ?_, sound.computed⟩
  intro other operation loaded
  by_cases own : other = client
  · subst own
    exact Function.update_self ..
  · exact (Function.update_of_ne own ..).trans (sound.fresh other operation loaded)

/-- Entering a stage keeps the store sound, where the stage is true of the record. -/
theorem enter (sound : Sound run store) {stage : Stage Record Operation}
    (held : ∀ operation, stage.inside = some operation → store.holder = some client)
    (fresh : ∀ operation, stage = .loaded operation → store.memory client = store.record)
    (computed : ∀ operation record, stage = .written operation record →
      run operation store.record = some record) : Sound run (store.enter client stage) := by
  have own : (store.enter client stage).stage client = stage := Function.update_self ..
  have others : ∀ other, other ≠ client →
      (store.enter client stage).stage other = store.stage other :=
    fun other different => Function.update_of_ne different ..
  constructor
  · intro other operation inside
    by_cases same : other = client
    · subst same
      rw [own] at inside
      exact held operation inside
    · rw [others other same] at inside
      exact sound.held other operation inside
  · intro other operation loaded
    by_cases same : other = client
    · subst same
      rw [own] at loaded
      exact fresh operation loaded
    · rw [others other same] at loaded
      exact sound.fresh other operation loaded
  · intro other operation record written
    by_cases same : other = client
    · subst same
      rw [own] at written
      exact computed operation record written
    · rw [others other same] at written
      exact sound.computed other operation record written

omit [DecidableEq Client] in
/-- Without a holder no transaction is open. -/
theorem closed (sound : Sound run store) (free : store.holder = none) (client : Client) :
    (store.stage client).inside = none := by
  by_contra open_
  obtain ⟨operation, inside⟩ := Option.ne_none_iff_exists'.mp open_
  have held := sound.held client operation inside
  rw [free] at held
  cases held

omit [DecidableEq Client] in
/-- When no transaction is open, anything may become of the record and its holder. -/
theorem of_closed {store : Store Client Record Operation}
    (closed : ∀ client, (store.stage client).inside = none) : Sound run store := by
  constructor
  · intro client operation inside
    rw [closed client] at inside
    cases inside
  · intro client operation loaded
    have inside := closed client
    rw [loaded] at inside
    cases inside
  · intro client operation record written
    have inside := closed client
    rw [written] at inside
    cases inside

/-- After the end of its transaction none is open. -/
theorem leave_closed (sound : Sound run store) {operation : Operation}
    (inside : (store.stage client).inside = some operation) (other : Client) :
    ((store.leave client).stage other).inside = none := by
  by_cases own : other = client
  · subst own
    have reset : (store.leave other).stage other = .idle := Function.update_self ..
    exact congrArg Stage.inside reset
  · have kept : (store.leave client).stage other = store.stage other :=
      Function.update_of_ne own _ _
    rw [kept]
    by_contra open_
    obtain ⟨another, alsoInside⟩ := Option.ne_none_iff_exists'.mp open_
    have held :=
      (sound.held other another alsoInside).symm.trans (sound.held client operation inside)
    exact own (Option.some.inj held)

/-- Every step keeps the store sound. -/
theorem step (sound : Sound run store) (event : Event Client Operation) :
    Sound run (store.step run event) := by
  rw [Store.step.eq_def]
  cases event with
  | read client => exact sound.remember client
  | submit client operation =>
      dsimp only
      split
      · refine sound.enter (fun _ inside => ?_) (fun _ started => ?_) fun _ _ written => ?_
        · cases inside
        · cases started
        · cases written
      · exact sound
  | start client =>
      dsimp only
      split
      · rename_i operation waiting free
        have taken : Sound run { store with holder := some client } :=
          of_closed fun other => sound.closed free other
        exact taken.enter (fun _ _ => rfl) (by simp) (by simp)
      · exact sound
  | load client =>
      dsimp only
      split
      · rename_i operation started
        have held : store.holder = some client :=
          sound.held client operation (congrArg Stage.inside started)
        refine (sound.remember client).enter (fun _ _ => held) (fun _ _ => ?_) (by simp)
        exact Function.update_self ..
      · exact sound
  | write client =>
      dsimp only
      split
      · rename_i operation loaded
        have held : store.holder = some client :=
          sound.held client operation (congrArg Stage.inside loaded)
        split
        · rename_i record computed
          rw [sound.fresh client operation loaded] at computed
          refine sound.enter (fun _ _ => held) (by simp) ?_
          rintro _ _ ⟨rfl⟩
          exact computed
        · exact of_closed (sound.leave_closed (congrArg Stage.inside loaded))
      · exact sound
  | commit client =>
      dsimp only
      split
      · rename_i operation record written
        exact of_closed (sound.leave_closed (congrArg Stage.inside written))
      · exact sound
  | cancel client =>
      dsimp only
      split
      · rename_i operation inside
        exact of_closed (sound.leave_closed inside)
      · exact sound

end Sound

end Store

variable (initial : Record) (memory : Client → Record)

/-- Clients that have nothing to do yet. -/
def Store.opening : Store Client Record Operation :=
  ⟨initial, none, memory, fun _ => .idle⟩

abbrev after (history : List (Event Client Operation)) : Store Client Record Operation :=
  History.replay (Store.step run) (Store.opening initial memory) history

/-- The operation a step commits. -/
def Store.commits (store : Store Client Record Operation) :
    Event Client Operation → Option Operation
  | .commit client =>
      match store.stage client with
      | .written operation _ => some operation
      | _ => none
  | _ => none

/-- The operations committed in a history, the last one first. -/
def committed : List (Event Client Operation) → List Operation
  | [] => []
  | event :: before =>
      ((after run initial memory before).commits event).toList ++ committed before

/-- An operation on the record; one that stores nothing leaves it alone. -/
def apply (operation : Operation) (record : Record) : Record :=
  (run operation record).getD record

variable {run initial memory}

/-- The store is sound after every history. -/
theorem after_sound (history : List (Event Client Operation)) :
    (after run initial memory history).Sound run := by
  induction history with
  | nil => exact Store.Sound.of_closed fun _ => rfl
  | cons event before ih => exact ih.step event

/-- A step changes the record by committing an operation on it. -/
theorem Store.Sound.step_record {store : Store Client Record Operation} (sound : store.Sound run)
    (event : Event Client Operation) :
    (store.step run event).record =
      ((store.commits event).map fun operation => apply run operation store.record).getD
        store.record := by
  rw [Store.step.eq_def]
  cases event with
  | read client => rfl
  | submit client operation =>
      dsimp only
      split <;> rfl
  | start client =>
      dsimp only
      split <;> rfl
  | load client =>
      dsimp only
      split <;> rfl
  | write client =>
      dsimp only
      split
      · split <;> rfl
      · rfl
  | commit client =>
      rw [Store.commits]
      dsimp only
      split
      · rename_i operation record written
        have computed := sound.computed client operation record written
        rw [Option.map_some, Option.getD_some, apply, computed]
        rfl
      · rfl
  | cancel client =>
      dsimp only
      split <;> rfl

/-- The record is the result of the committed operations, one after another in the order of
their commits. -/
theorem run_serial (history : List (Event Client Operation)) :
    (after run initial memory history).record =
      History.replay (apply run) initial (committed run initial memory history) := by
  induction history with
  | nil => rfl
  | cons event before ih =>
      have sound : (after run initial memory before).Sound run := after_sound before
      have changed := sound.step_record event
      rw [after, History.replay_cons, changed, ih, committed]
      cases (after run initial memory before).commits event <;> rfl

/-- Where a client is after one of them has gone on to a stage. -/
theorem Store.inside_enter {store : Store Client Record Operation} {client other : Client}
    {stage : Stage Record Operation} {operation : Operation}
    (inside : ((store.enter client stage).stage other).inside = some operation) :
    (other = client ∧ stage.inside = some operation) ∨
      (other ≠ client ∧ (store.stage other).inside = some operation) := by
  by_cases own : other = client
  · subst own
    have entered : (store.enter other stage).stage other = stage := Function.update_self ..
    rw [entered] at inside
    exact .inl ⟨rfl, inside⟩
  · have kept : (store.enter client stage).stage other = store.stage other :=
      Function.update_of_ne own _ _
    rw [kept] at inside
    exact .inr ⟨own, inside⟩

/-- A transaction is open since its start. -/
theorem Store.step_inside {store : Store Client Record Operation} {event : Event Client Operation}
    {client : Client} {operation : Operation}
    (inside : ((store.step run event).stage client).inside = some operation) :
    (store.stage client).inside = some operation ∨
      (event = .start client ∧ store.stage client = .waiting operation) := by
  rw [Store.step.eq_def] at inside
  cases event with
  | read other => exact .inl inside
  | submit other another =>
      dsimp only at inside
      split at inside
      · rcases Store.inside_enter inside with ⟨-, waiting⟩ | ⟨-, kept⟩
        · cases waiting
        · exact .inl kept
      · exact .inl inside
  | start other =>
      dsimp only at inside
      split at inside
      · rename_i another waiting free
        rcases Store.inside_enter inside with ⟨rfl, started⟩ | ⟨-, kept⟩
        · rw [Option.some.inj started] at waiting
          exact .inr ⟨rfl, waiting⟩
        · exact .inl kept
      · exact .inl inside
  | load other =>
      dsimp only at inside
      split at inside
      · rename_i another started
        rcases Store.inside_enter inside with ⟨rfl, loaded⟩ | ⟨-, kept⟩
        · rw [started]
          exact .inl loaded
        · exact .inl kept
      · exact .inl inside
  | write other =>
      dsimp only at inside
      split at inside
      · rename_i another loaded
        split at inside
        · rcases Store.inside_enter inside with ⟨rfl, written⟩ | ⟨-, kept⟩
          · rw [loaded]
            exact .inl written
          · exact .inl kept
        · rcases Store.inside_enter inside with ⟨-, idle⟩ | ⟨-, kept⟩
          · cases idle
          · exact .inl kept
      · exact .inl inside
  | commit other =>
      dsimp only at inside
      split at inside
      · rcases Store.inside_enter inside with ⟨-, idle⟩ | ⟨-, kept⟩
        · cases idle
        · exact .inl kept
      · exact .inl inside
  | cancel other =>
      dsimp only at inside
      split at inside
      · rcases Store.inside_enter inside with ⟨-, idle⟩ | ⟨-, kept⟩
        · cases idle
        · exact .inl kept
      · exact .inl inside

/-- Nothing is committed while a transaction stays open. -/
theorem Store.Sound.record_inside {store : Store Client Record Operation}
    (sound : store.Sound run) {event : Event Client Operation} {client : Client}
    {operation : Operation}
    (inside : ((store.step run event).stage client).inside = some operation) :
    (store.step run event).record = store.record := by
  have changed := sound.step_record event
  cases commits : store.commits event with
  | none =>
      rw [commits] at changed
      exact changed
  | some another =>
      rw [Store.commits.eq_def] at commits
      split at commits
      · rename_i other
        split at commits
        · rename_i another record written
          have held := sound.held other another (congrArg Stage.inside written)
          rw [Store.step.eq_def] at inside
          dsimp only at inside
          rw [written] at inside
          rcases Store.inside_enter inside with ⟨-, idle⟩ | ⟨different, kept⟩
          · cases idle
          · have alsoHeld := (sound.held client operation kept).symm.trans held
            exact absurd (Option.some.inj alsoHeld) different
        · cases commits
      · cases commits

/-- A transaction began with the record as it still is, whatever was in memory before. -/
theorem run_began {history : List (Event Client Operation)} {client : Client}
    {operation : Operation}
    (inside : ((after run initial memory history).stage client).inside = some operation) :
    ∃ began, (.start client :: began) <:+ history ∧
      (after run initial memory began).stage client = .waiting operation ∧
      (after run initial memory began).record = (after run initial memory history).record := by
  induction history with
  | nil => cases inside
  | cons event before ih =>
      have sound : (after run initial memory before).Sound run := after_sound before
      have same := sound.record_inside inside
      rcases Store.step_inside inside with alreadyInside | ⟨rfl, waiting⟩
      · obtain ⟨began, suffix, waited, record⟩ := ih alreadyInside
        exact ⟨began, suffix.trans (List.suffix_cons event before), waited,
          record.trans same.symm⟩
      · exact ⟨before, List.suffix_refl _, waiting, same.symm⟩

end Transactions
