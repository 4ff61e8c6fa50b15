import Mathlib.Data.List.Basic
import Mathlib.Tactic.Common

/-! # Self-delimiting records

A sequence of records without markers between them. The beginning of a record tells its
length, so a walker finds the next record only where the one before was read in full. -/

namespace Records

variable {α : Type*}

/-- Cut records off the front as long as one is whole. `size` is the length of the record at
the head, where enough of it is there to tell. -/
def walkFrom (size : List α → Option Nat) : Nat → List α → List (List α)
  | 0, _ => []
  | fuel + 1, data =>
      match size data with
      | none => []
      | some length =>
          if length = 0 ∨ data.length < length then []
          else data.take length :: walkFrom size fuel (data.drop length)

/-- The records at the front of the data. -/
def walk (size : List α → Option Nat) (data : List α) : List (List α) :=
  walkFrom size data.length data

/-- What follows does not change a length once it is known. -/
def Settled (size : List α → Option Nat) : Prop :=
  ∀ data rest length, size data = some length → size (data ++ rest) = some length

/-- A record of its own length. -/
def Whole (size : List α → Option Nat) (record : List α) : Prop :=
  record ≠ [] ∧ size record = some record.length

variable {size : List α → Option Nat}

/-- A beginning of a record is no record. -/
theorem walk_prefix (settled : Settled size) {record front : List α} (whole : Whole size record)
    (isPrefix : front <+: record) (shorter : front ≠ record) : walk size front = [] := by
  obtain ⟨rest, split⟩ := isPrefix
  have rest_pos : 0 < rest.length := by
    refine List.length_pos_iff.mpr fun empty => shorter ?_
    rw [← split, empty, List.append_nil]
  rw [walk]
  cases count : front.length with
  | zero => rfl
  | succ fuel =>
      rw [walkFrom]
      cases known : size front with
      | none => rfl
      | some length =>
          have same := settled front rest length known
          rw [split, whole.2, ← split, List.length_append] at same
          have := Option.some.inj same
          exact if_pos (.inr (by omega))

/-- Where the walker finds nothing, more fuel does not help. -/
theorem walkFrom_stops {tail : List α} (stops : walk size tail = []) {fuel : Nat}
    (long : tail.length ≤ fuel) : walkFrom size fuel tail = [] := by
  cases fuel with
  | zero => rfl
  | succ fuel =>
      rw [walk] at stops
      rw [walkFrom]
      cases count : tail.length with
      | zero =>
          cases size tail with
          | none => rfl
          | some length => exact if_pos (by omega)
      | succ more =>
          rw [count, walkFrom] at stops
          cases known : size tail with
          | none => rfl
          | some length =>
              rw [known] at stops
              dsimp only at stops ⊢
              rw [count] at stops
              split_ifs at stops ⊢ with short
              rfl

/-- Whole records are cut off the front one by one, with enough fuel and a tail that holds none. -/
theorem walkFrom_flatten (settled : Settled size) {tail : List α} (stops : walk size tail = [])
    {records : List (List α)} (whole : ∀ record ∈ records, Whole size record) (fuel : Nat)
    (long : (records.flatten ++ tail).length ≤ fuel) :
    walkFrom size fuel (records.flatten ++ tail) = records := by
  induction records generalizing fuel with
  | nil => exact walkFrom_stops stops long
  | cons record rest ih =>
      obtain ⟨nonempty, sized⟩ := whole record List.mem_cons_self
      have positive := List.length_pos_iff.mpr nonempty
      have known := settled record (rest.flatten ++ tail) _ sized
      have total : (record ++ (rest.flatten ++ tail)).length =
          record.length + (rest.flatten ++ tail).length := List.length_append
      rw [List.flatten_cons, List.append_assoc] at long ⊢
      cases fuel with
      | zero => omega
      | succ fuel =>
          rw [walkFrom, known]
          dsimp only
          rw [if_neg (by omega), List.take_left, List.drop_left]
          exact congrArg _ (ih (fun other member => whole other (List.mem_cons_of_mem _ member))
            fuel (by omega))

/-- The walker finds the records, and stops at a beginning of another. -/
theorem walk_flatten (settled : Settled size) {records : List (List α)} {tail : List α}
    (whole : ∀ record ∈ records, Whole size record) (stops : walk size tail = []) :
    walk size (records.flatten ++ tail) = records :=
  walkFrom_flatten settled stops whole _ (Nat.le_refl _)

end Records
