import Mathlib.Algebra.Group.Nat.Defs
import Mathlib.Data.Nat.Log
import Mathlib.Tactic.Common

/-!
# Numbers of the binary64 format

A number as a sign, a significand and a power of two, the integer it stands
for, and the number nearest to an integer.  Rounding is to the nearest with
ties to the even significand; what is too large becomes infinite.
-/

namespace AerialRescue.Lib.Binary64

/-- A number of the format that is not `NaN`. -/
inductive Double where
  | finite (negative : Bool) (significand : Nat) (exponent : Int)
  | infinite (negative : Bool)
deriving DecidableEq

/-- A magnitude with its sign. -/
def signed (negative : Bool) (magnitude : Nat) : Int :=
  if negative then -(magnitude : Int) else magnitude

@[simp]
theorem signed_natAbs (negative : Bool) (magnitude : Nat) :
    (signed negative magnitude).natAbs = magnitude := by
  cases negative <;> simp [signed]

/-- The integer that a number stands for, if it stands for one. -/
def Double.integer? : Double → Option Int
  | .infinite _ => none
  | .finite negative significand (.ofNat exponent) =>
      some (signed negative (significand * 2 ^ exponent))
  | .finite negative significand (.negSucc exponent) =>
      if significand % 2 ^ (exponent + 1) = 0 then
        some (signed negative (significand / 2 ^ (exponent + 1)))
      else none

/-- The significand of an integer once its last `shift` bits are rounded. -/
def roundedSignificand (magnitude shift : Nat) : Nat :=
  let quotient := magnitude / 2 ^ shift
  let remainder := magnitude % 2 ^ shift
  if 2 ^ shift < 2 * remainder ∨
      2 ^ shift = 2 * remainder ∧ quotient % 2 = 1 then
    quotient + 1
  else quotient

/-- The number nearest to an integer. -/
def ofInteger (negative : Bool) (magnitude : Nat) : Double :=
  let shift := magnitude.log2 - 52
  let significand := roundedSignificand magnitude shift
  if 1024 ≤ (significand * 2 ^ shift).log2 then .infinite negative
  else .finite negative significand shift

theorem quotient_le_rounded (magnitude shift : Nat) :
    magnitude / 2 ^ shift ≤ roundedSignificand magnitude shift := by
  unfold roundedSignificand
  dsimp only
  split
  · exact Nat.le_succ _
  · exact Nat.le_refl _

theorem roundedSignificand_zero (magnitude : Nat) :
    roundedSignificand magnitude 0 = magnitude := by
  unfold roundedSignificand
  simp only [Nat.pow_zero, Nat.div_one, Nat.mod_one]
  rw [if_neg (by omega)]

/-- An integer of at most 53 bits is a number of the format. -/
theorem integer?_ofInteger {negative : Bool} {magnitude : Nat}
    (small : magnitude < 2 ^ 53) :
    (ofInteger negative magnitude).integer? =
      some (signed negative magnitude) := by
  have bits : magnitude.log2 < 53 := by
    by_cases zero : magnitude = 0
    · rw [zero]
      decide
    · exact (Nat.log2_lt zero).2 small
  have shift : magnitude.log2 - 52 = 0 := by omega
  unfold ofInteger
  dsimp only
  rw [shift, roundedSignificand_zero, Nat.pow_zero, Nat.mul_one,
    if_neg (by omega)]
  change some (signed negative (magnitude * 2 ^ 0)) = _
  rw [Nat.pow_zero, Nat.mul_one]

/-- A larger integer rounds to nothing smaller than `2 ^ 53`. -/
theorem le_of_integer?_ofInteger {negative : Bool} {magnitude : Nat}
    {value : Int} (large : 2 ^ 53 ≤ magnitude)
    (rounded : (ofInteger negative magnitude).integer? = some value) :
    2 ^ 53 ≤ value.natAbs := by
  have positive : magnitude ≠ 0 := by
    rintro rfl
    exact absurd large (by decide)
  have bits : 53 ≤ magnitude.log2 := (Nat.le_log2 positive).2 large
  have split : magnitude.log2 = 52 + (magnitude.log2 - 52) := by omega
  have quotient :
      2 ^ 52 ≤ magnitude / 2 ^ (magnitude.log2 - 52) := by
    rw [Nat.le_div_iff_mul_le (Nat.pow_pos (by decide)), ← Nat.pow_add,
      ← split]
    exact Nat.log2_self_le positive
  have shifted : 2 ^ 1 ≤ 2 ^ (magnitude.log2 - 52) :=
    Nat.pow_le_pow_right (by decide) (by omega)
  have product := Nat.mul_le_mul
    (quotient.trans (quotient_le_rounded magnitude _)) shifted
  unfold ofInteger at rounded
  dsimp only at rounded
  split at rounded
  · cases rounded
  · change some (signed negative _) = _ at rounded
    rw [← Option.some.inj rounded, signed_natAbs]
    exact product

end AerialRescue.Lib.Binary64
