import Mathlib.Algebra.Order.Field.Power
import Mathlib.Algebra.Order.Ring.Rat
import Mathlib.Data.Nat.Log
import Mathlib.Tactic.Ring

/-! # Single precision numbers

The bits of an IEEE 754 binary32, the number they stand for in a wider format, and the bits
that such a number is rounded to. -/

namespace Binary32

/-- A number of a wider format, such as a binary64. A NaN has a payload that is not a number. -/
inductive Number
  /-- `mantissa * 2 ^ exponent` with a sign -/
  | finite (negative : Bool) (mantissa : Nat) (exponent : Int)
  | infinite (negative : Bool)
  | nan (payload : Nat)
deriving DecidableEq

def Number.isZero : Number → Bool
  | .finite _ mantissa _ => mantissa == 0
  | _ => false

/-- The number is below zero. -/
def Number.isNegative : Number → Bool
  | .finite negative mantissa _ => negative && mantissa != 0
  | .infinite negative => negative
  | .nan _ => false

/-- The rational number, none for an infinite one and a NaN. -/
def Number.value : Number → Option ℚ
  | .finite negative mantissa exponent =>
      some ((if negative then -(mantissa : ℚ) else mantissa) * 2 ^ exponent)
  | _ => none

/-- `factor * number < bound` for integers, false for a NaN. -/
def Number.scaledLt (factor : Nat) (bound : Int) : Number → Bool
  | .finite negative mantissa exponent =>
      let scaled : Int := (if negative then -(mantissa : Int) else mantissa) * factor
      match exponent with
      | .ofNat shift => decide (scaled * 2 ^ shift < bound)
      | .negSucc shift => decide (scaled < bound * 2 ^ (shift + 1))
  | .infinite negative => negative
  | .nan _ => false

/-- The test for a finite number is the one of the real numbers. -/
theorem Number.scaledLt_finite (factor : Nat) (bound : Int) (negative : Bool) (mantissa : Nat)
    (exponent : Int) :
    (Number.finite negative mantissa exponent).scaledLt factor bound = true ↔
      (if negative then -(mantissa : ℚ) else mantissa) * 2 ^ exponent * factor < bound := by
  rw [scaledLt.eq_def]
  dsimp only
  have signed : ((if negative then -(mantissa : Int) else mantissa : Int) : ℚ) =
      if negative then -(mantissa : ℚ) else mantissa := by
    cases negative <;> simp
  rw [← signed]
  generalize (if negative then -(mantissa : Int) else mantissa : Int) = signedMantissa
  cases exponent with
  | ofNat shift =>
      dsimp only
      rw [decide_eq_true_iff, ← Int.cast_lt (R := ℚ), Int.ofNat_eq_natCast, zpow_natCast]
      push_cast
      rw [mul_right_comm]
  | negSucc shift =>
      dsimp only
      have positive : (0 : ℚ) < 2 ^ (shift + 1) := pow_pos zero_lt_two _
      rw [decide_eq_true_iff, ← Int.cast_lt (R := ℚ), zpow_negSucc, ← div_eq_mul_inv,
        div_mul_eq_mul_div, div_lt_iff₀ positive]
      push_cast
      rfl

def signBit (negative : Bool) : Nat := if negative then 2 ^ 31 else 0

/-- The number of a bit pattern. The payload of a NaN is the pattern itself. -/
def decode (bits : Nat) : Number :=
  let negative := decide (2 ^ 31 ≤ bits)
  let exponent : Nat := bits / 2 ^ 23 % 256
  let fraction : Nat := bits % 2 ^ 23
  if exponent = 255 then if fraction = 0 then .infinite negative else .nan bits
  else if exponent = 0 then .finite negative fraction (-149)
  else .finite negative (2 ^ 23 + fraction) (exponent - 150)

/-- `mantissa * 2 ^ shift` to the nearest integer, to the even one of two. -/
def roundShift (mantissa : Nat) : Int → Nat
  | .ofNat shift => mantissa * 2 ^ shift
  | .negSucc shift =>
      let unit := 2 ^ (shift + 1)
      let quotient := mantissa / unit
      let rest := mantissa % unit
      if unit < 2 * rest ∨ (unit = 2 * rest ∧ quotient % 2 = 1) then quotient + 1 else quotient

/-- The bits of the nearest single precision number, none for a finite number that is too
large. What becomes of the payload of a NaN is left to the machine. -/
def encode (machine : Nat → Nat) : Number → Option Nat
  | .finite negative mantissa exponent =>
      -- the exponent field of a normal number less one, or zero for a subnormal number
      let scale := if mantissa = 0 then 0 else (Nat.log 2 mantissa + exponent + 126).toNat
      let bits := scale * 2 ^ 23 + roundShift mantissa (exponent + 149 - scale)
      if bits < 255 * 2 ^ 23 then some (signBit negative + bits) else none
  | .infinite negative => some (signBit negative + 255 * 2 ^ 23)
  | .nan payload => some (machine payload)

/-- The bit pattern of a NaN. -/
def IsNan (bits : Nat) : Prop := 255 * 2 ^ 23 < bits % 2 ^ 31

instance (bits : Nat) : Decidable (IsNan bits) := inferInstanceAs (Decidable (_ < _))

variable (machine : Nat → Nat)

/-- The sign bit and the other bits make up the word. -/
theorem signBit_add {bits : Nat} (small : bits < 2 ^ 32) :
    signBit (decide (2 ^ 31 ≤ bits)) + bits % 2 ^ 31 = bits := by
  rw [signBit]
  by_cases negative : 2 ^ 31 ≤ bits
  · rw [if_pos (decide_eq_true negative)]
    omega
  · rw [if_neg (by simpa using negative)]
    omega

/-- The word of a subnormal number. -/
theorem encode_subnormal (negative : Bool) {fraction : Nat} (small : fraction < 2 ^ 23) :
    encode machine (.finite negative fraction (-149)) = some (signBit negative + fraction) := by
  have scale :
      (if fraction = 0 then 0 else (Nat.log 2 fraction + (-149) + 126 : Int).toNat) = 0 := by
    by_cases zero : fraction = 0
    · rw [if_pos zero]
    · rw [if_neg zero]
      have log := Nat.log_lt_of_lt_pow zero small
      omega
  have exact : roundShift fraction (-149 + 149 - (0 : Nat)) = fraction := Nat.mul_one fraction
  rw [encode.eq_def]
  dsimp only
  rw [scale, exact, Nat.zero_mul, Nat.zero_add, if_pos (by omega)]

/-- The word of a normal number. -/
theorem encode_normal (negative : Bool) {exponent fraction : Nat} (small : fraction < 2 ^ 23)
    (positive : 0 < exponent) (below : exponent < 255) :
    encode machine (.finite negative (2 ^ 23 + fraction) (exponent - 150)) =
      some (signBit negative + (exponent * 2 ^ 23 + fraction)) := by
  have nonzero : 2 ^ 23 + fraction ≠ 0 := by omega
  have log : Nat.log 2 (2 ^ 23 + fraction) = 23 :=
    Nat.log_eq_of_pow_le_of_lt_pow (by omega) (by omega)
  have scale : (if 2 ^ 23 + fraction = 0 then 0
      else (Nat.log 2 (2 ^ 23 + fraction) + (exponent - 150) + 126 : Int).toNat) =
        exponent - 1 := by
    rw [if_neg nonzero, log]
    omega
  have shift : (exponent - 150 + 149 - (exponent - 1 : Nat) : Int) = (0 : Nat) := by
    omega
  have exact : roundShift (2 ^ 23 + fraction) (exponent - 150 + 149 - (exponent - 1 : Nat)) =
      2 ^ 23 + fraction := by
    rw [shift]
    exact Nat.mul_one _
  have bits : (exponent - 1) * 2 ^ 23 + (2 ^ 23 + fraction) = exponent * 2 ^ 23 + fraction := by
    omega
  rw [encode.eq_def]
  dsimp only
  rw [scale, exact, bits, if_pos (by omega)]

/-- A single precision number that is not a NaN is kept. -/
theorem encode_decode {bits : Nat} (small : bits < 2 ^ 32) (number : ¬ IsNan bits) :
    encode machine (decode bits) = some bits := by
  have sign := signBit_add small
  have fraction : bits % 2 ^ 23 < 2 ^ 23 := Nat.mod_lt _ (Nat.two_pow_pos 23)
  rw [IsNan] at number
  rw [decode]
  split_ifs with ones zero subnormal
  · rw [encode.eq_def]
    dsimp only
    rw [Option.some_inj]
    omega
  · omega
  · rw [encode_subnormal machine _ fraction, Option.some_inj]
    omega
  · rw [encode_normal machine _ fraction (by omega) (by omega), Option.some_inj]
    omega

/-- A NaN comes back as the machine leaves it. -/
theorem encode_decode_nan {bits : Nat} (nan : IsNan bits) :
    encode machine (decode bits) = some (machine bits) := by
  rw [IsNan] at nan
  rw [decode]
  rw [if_pos (by omega), if_neg (by omega)]
  rfl

end Binary32
