import Mathlib.Data.List.Infix

/-! # Histories with the newest event first

A history lists the events of a run, the newest one first, so that the tail of a
history is the history the newest event happened in. `Obeys` says that every
event followed a rule about its own past, and `replay` is the state a history
leaves. An invariant of `replay` may use the rule at every step. -/

namespace History

variable {ε σ : Type*}

/-- Every event of the history obeys the rule at the history before it. -/
def Obeys (rule : List ε → ε → Prop) : List ε → Prop
  | [] => True
  | event :: before => rule before event ∧ Obeys rule before

variable {rule : List ε → ε → Prop} {history : List ε}

@[simp] theorem obeys_nil : Obeys rule [] := trivial

@[simp] theorem obeys_cons {event : ε} {before : List ε} :
    Obeys rule (event :: before) ↔ rule before event ∧ Obeys rule before := Iff.rfl

instance Obeys.decidable [∀ before event, Decidable (rule before event)] :
    (history : List ε) → Decidable (Obeys rule history)
  | [] => isTrue trivial
  | event :: before =>
      have := Obeys.decidable before
      inferInstanceAs (Decidable (rule before event ∧ Obeys rule before))

/-- An earlier history obeys too. -/
theorem Obeys.of_suffix {earlier : List ε} (obeys : Obeys rule history)
    (suffix : earlier <:+ history) : Obeys rule earlier := by
  obtain ⟨later, rfl⟩ := suffix
  induction later with
  | nil => exact obeys
  | cons event later ih => exact ih obeys.2

/-- The rule holds at each event of an obeying history. -/
theorem obeys_iff_suffix :
    Obeys rule history ↔ ∀ event before, (event :: before) <:+ history → rule before event := by
  constructor
  · intro obeys event before suffix
    exact (obeys.of_suffix suffix).1
  · intro every
    induction history with
    | nil => trivial
    | cons event before ih =>
        exact ⟨every event before (List.suffix_refl _), ih fun other earlier suffix =>
          every other earlier (suffix.trans (List.suffix_cons event before))⟩

/-- A member of a history happened at some point of it. -/
theorem exists_suffix_of_mem {event : ε} (member : event ∈ history) :
    ∃ before, (event :: before) <:+ history := by
  obtain ⟨later, before, rfl⟩ := List.append_of_mem member
  exact ⟨before, later, rfl⟩

/-- A weaker rule is obeyed too. -/
theorem Obeys.imp {other : List ε → ε → Prop} (obeys : Obeys rule history)
    (implied : ∀ before event, rule before event → other before event) : Obeys other history := by
  induction history with
  | nil => trivial
  | cons event before ih => exact ⟨implied before event obeys.1, ih obeys.2⟩

/-- Two rules are obeyed together or not at all. -/
theorem obeys_and {other : List ε → ε → Prop} :
    Obeys (fun before event => rule before event ∧ other before event) history ↔
      Obeys rule history ∧ Obeys other history := by
  induction history with
  | nil => simp only [obeys_nil, and_self]
  | cons event before ih =>
      simp only [obeys_cons, ih]
      exact and_and_and_comm

section Replay

variable (apply : ε → σ → σ) (initial : σ)

/-- The state a history leaves. -/
def replay (history : List ε) : σ := history.foldr apply initial

@[simp] theorem replay_nil : replay apply initial [] = initial := rfl

@[simp] theorem replay_cons (event : ε) (before : List ε) :
    replay apply initial (event :: before) = apply event (replay apply initial before) := rfl

/-- The state that two pieces of a history leave. -/
theorem replay_append (later before : List ε) :
    replay apply initial (later ++ before) = replay apply (replay apply initial before) later :=
  List.foldr_append

/-- Every event was admitted by the guard in the state it happened in. -/
def Guarded (guard : σ → ε → Prop) : List ε → Prop :=
  Obeys fun before event => guard (replay apply initial before) event

variable {apply initial}

instance Guarded.decidable {guard : σ → ε → Prop} [∀ state event, Decidable (guard state event)]
    (history : List ε) : Decidable (Guarded apply initial guard history) :=
  inferInstanceAs (Decidable (Obeys _ history))

@[simp] theorem guarded_nil {guard : σ → ε → Prop} : Guarded apply initial guard [] := trivial

@[simp] theorem guarded_cons {guard : σ → ε → Prop} {event : ε} {before : List ε} :
    Guarded apply initial guard (event :: before) ↔
      guard (replay apply initial before) event ∧ Guarded apply initial guard before := Iff.rfl

/-- Two guards hold together or not at all. -/
theorem guarded_and {guard other : σ → ε → Prop} :
    Guarded apply initial (fun state event => guard state event ∧ other state event) history ↔
      Guarded apply initial guard history ∧ Guarded apply initial other history :=
  obeys_and

/-- A history may go on with events that the guard admits in every state. -/
theorem Guarded.append {guard : σ → ε → Prop} {later : List ε}
    (guarded : Guarded apply initial guard history)
    (free : ∀ event ∈ later, ∀ state, guard state event) :
    Guarded apply initial guard (later ++ history) := by
  induction later with
  | nil => exact guarded
  | cons event later ih =>
      refine ⟨free event List.mem_cons_self _, ih fun other member => ?_⟩
      exact free other (List.mem_cons_of_mem _ member)

/-- What holds at the start and is kept by every admitted event holds after
every guarded history. -/
theorem Guarded.invariant {guard : σ → ε → Prop} {holds : σ → Prop}
    (guarded : Guarded apply initial guard history) (start : holds initial)
    (step : ∀ state event, holds state → guard state event → holds (apply event state)) :
    holds (replay apply initial history) := by
  induction history with
  | nil => exact start
  | cons event before ih => exact step _ event (ih guarded.2) guarded.1

end Replay

end History
