import Mathlib.Logic.Function.Basic

/-! # Numbers and their owners

A table of small numbers, as of open files, and the owners that hold them. A number that is given
out is not open before, so that in a sound table no two owners hold one number, and a number is
only closed on behalf of the owner that holds it. -/

/-- Which numbers are open, which each owner holds, and what has been closed: the number, on whose
behalf, and who held what. -/
structure HandleTable (ι : Type*) where
  isOpen : Nat → Bool
  held : ι → Option Nat
  closes : List (Nat × ι × (ι → Option Nat))

namespace HandleTable

variable {ι : Type*} [DecidableEq ι] {table : HandleTable ι} {owner : ι} {number : Nat}

/-- A number is given to an owner. -/
def take (owner : ι) (number : Nat) (table : HandleTable ι) : HandleTable ι :=
  { table with
    isOpen := Function.update table.isOpen number true
    held := Function.update table.held owner (some number) }

/-- A number is closed on behalf of an owner that may go on holding it. -/
def shut (owner : ι) (number : Nat) (table : HandleTable ι) : HandleTable ι :=
  { table with
    isOpen := Function.update table.isOpen number false
    closes := (number, owner, table.held) :: table.closes }

/-- An owner closes the number it holds and forgets it. -/
def release (owner : ι) (table : HandleTable ι) : HandleTable ι :=
  match table.held owner with
  | none => table
  | some number =>
      { table.shut owner number with held := Function.update table.held owner none }

/-- Whatever is held is open and held once, and was closed for its owner only. -/
structure Sound (table : HandleTable ι) : Prop where
  live : ∀ owner number, table.held owner = some number → table.isOpen number = true
  distinct : ∀ first second number, table.held first = some number →
    table.held second = some number → first = second
  owned : ∀ number owner held, (number, owner, held) ∈ table.closes →
    ∀ other : ι, held other = some number → other = owner

/-- The numbers below some bound are open, and nobody holds one. -/
def unheld (bound : Nat) : HandleTable ι :=
  ⟨fun number => decide (number < bound), fun _ => none, []⟩

omit [DecidableEq ι] in
/-- Nothing is held at the start, by nobody twice. -/
theorem unheld_sound (bound : Nat) : (unheld bound : HandleTable ι).Sound := by
  constructor
  all_goals
    intros
    contradiction

/-- Every owner but one holds what is open, nobody else holds its number. -/
structure Apart (owner : ι) (number : Nat) (table : HandleTable ι) : Prop where
  live : ∀ other value, other ≠ owner → table.held other = some value → table.isOpen value = true
  distinct : ∀ first second value, table.held first = some value →
    table.held second = some value → first = second
  mine : table.held owner = some number
  owned : ∀ number owner held, (number, owner, held) ∈ table.closes →
    ∀ other : ι, held other = some number → other = owner

/-- A fresh number may be taken. -/
theorem Sound.take (sound : table.Sound) (owner : ι) (fresh : table.isOpen number = false) :
    (table.take owner number).Sound := by
  have unheld : ∀ other, table.held other ≠ some number := by
    intro other holds
    exact Bool.false_ne_true (fresh.symm.trans (sound.live other number holds))
  refine ⟨fun other value holds => ?_, fun first second value holds also => ?_, sound.owned⟩
  · change Function.update table.held owner (some number) other = some value at holds
    change Function.update table.isOpen number true value = true
    by_cases same : value = number
    · rw [same, Function.update_self]
    · rw [Function.update_of_ne same]
      by_cases own : other = owner
      · rw [own, Function.update_self] at holds
        exact (same (Option.some.inj holds).symm).elim
      · rw [Function.update_of_ne own] at holds
        exact sound.live other value holds
  · change Function.update table.held owner (some number) first = some value at holds
    change Function.update table.held owner (some number) second = some value at also
    by_cases own : first = owner
    · by_cases alsoOwn : second = owner
      · rw [own, alsoOwn]
      · rw [own, Function.update_self] at holds
        rw [Function.update_of_ne alsoOwn, ← Option.some.inj holds] at also
        exact (unheld second also).elim
    · rw [Function.update_of_ne own] at holds
      by_cases alsoOwn : second = owner
      · rw [alsoOwn, Function.update_self] at also
        rw [← Option.some.inj also] at holds
        exact (unheld first holds).elim
      · rw [Function.update_of_ne alsoOwn] at also
        exact sound.distinct first second value holds also

omit [DecidableEq ι] in
/-- An owner's number is closed under it. -/
theorem Sound.shut (sound : table.Sound) (holds : table.held owner = some number) :
    Apart owner number (table.shut owner number) := by
  refine ⟨fun other value different own => ?_, sound.distinct, holds, ?_⟩
  · change Function.update table.isOpen number false value = true
    have apart : value ≠ number := by
      intro same
      rw [same] at own
      exact different (sound.distinct other owner number own holds)
    rw [Function.update_of_ne apart]
    exact sound.live other value own
  · intro value closer held member other also
    rcases List.mem_cons.mp member with same | old
    · rw [Prod.mk.injEq, Prod.mk.injEq] at same
      obtain ⟨rfl, rfl, rfl⟩ := same
      exact sound.distinct other closer value also holds
    · exact sound.owned value closer held old other also

/-- The owner lets go of a number that may be closed already. -/
theorem Apart.release (apart : Apart owner number table) : (table.release owner).Sound := by
  have mine := apart.mine
  rw [HandleTable.release, mine]
  have kept : ∀ other value, Function.update table.held owner none other = some value →
      other ≠ owner ∧ table.held other = some value := by
    intro other value holds
    by_cases own : other = owner
    · rw [own, Function.update_self] at holds
      exact (Option.some_ne_none value holds.symm).elim
    · rw [Function.update_of_ne own] at holds
      exact ⟨own, holds⟩
  refine ⟨fun other value holds => ?_, fun first second value holds also => ?_, ?_⟩
  · obtain ⟨different, own⟩ := kept other value holds
    change Function.update table.isOpen number false value = true
    have distinct : value ≠ number := by
      intro same
      rw [same] at own
      exact different (apart.distinct other owner number own mine)
    rw [Function.update_of_ne distinct]
    exact apart.live other value different own
  · exact apart.distinct first second value (kept first value holds).2 (kept second value also).2
  · intro value closer held member other also
    rcases List.mem_cons.mp member with same | old
    · rw [Prod.mk.injEq, Prod.mk.injEq] at same
      obtain ⟨rfl, rfl, rfl⟩ := same
      exact apart.distinct other closer value also mine
    · exact apart.owned value closer held old other also

/-- What is held may be released. -/
theorem Sound.release (sound : table.Sound) (owner : ι) : (table.release owner).Sound := by
  cases holds : table.held owner with
  | none =>
      rw [HandleTable.release, holds]
      exact sound
  | some number =>
      have apart : Apart owner number table :=
        ⟨fun other value _ => sound.live other value, sound.distinct, holds, sound.owned⟩
      exact apart.release

/-- Nothing is opened by closing. -/
theorem release_isOpen (owner : ι) (closed : table.isOpen number = false) :
    (table.release owner).isOpen number = false := by
  rw [release]
  cases table.held owner with
  | none => exact closed
  | some value =>
      change Function.update table.isOpen value false number = false
      by_cases same : number = value
      · rw [same, Function.update_self]
      · rw [Function.update_of_ne same]
        exact closed

@[simp] theorem take_held (owner other : ι) (number : Nat) (table : HandleTable ι) :
    (table.take owner number).held other =
      if other = owner then some number else table.held other :=
  Function.update_apply ..

@[simp] theorem release_held (owner other : ι) (table : HandleTable ι) :
    (table.release owner).held other = if other = owner then none else table.held other := by
  rw [release]
  cases holds : table.held owner with
  | none =>
      by_cases own : other = owner
      · rw [own, if_pos rfl]
        exact holds
      · rw [if_neg own]
  | some number => exact Function.update_apply ..

end HandleTable
