/-
# Finite doubles and their decimal texts

A finite IEEE 754 double is a sign, a significand below `2 ^ 53` and an
exponent; its magnitude is a dyadic rational, and zero has both signs.  Of the
two formatters here, `toFixed` is `Number.prototype.toFixed` of ECMAScript and
`format` is `{:.f}` of Rust.  Both print the exact magnitude rounded to `f`
digits; `toFixed` rounds a tie up and prints the sign of a number below zero,
`format` rounds a tie to even and prints the sign bit.

A double is a tie at the `f`-th digit when it is an odd multiple of
`1 / 2 ^ (f + 1)`, and then `5 ^ f`, which is `1` modulo `4`, decides the parity
of the integer below it (`tie_iff`).  So the formatters agree except at negative
zero and at `m / 2 ^ (f + 1)` with `m` equal to `1` modulo `4`
(`toFixed_eq_format_iff`).
-/

import SentinelMesh.Lib.Decimal
import Mathlib.Algebra.Order.Field.Power
import Mathlib.Tactic.Ring
import Mathlib.Tactic.FieldSimp
import Mathlib.Tactic.Positivity

namespace Lib

/-- A finite double. -/
structure Double where
  negative : Bool
  significand : ℕ
  exponent : ℤ
  significand_lt : significand < 2 ^ 53
  exponent_ge : -1074 ≤ exponent
  exponent_le : exponent ≤ 971
  /-- A number that is not subnormal has the leading bit. -/
  normalised : exponent = -1074 ∨ 2 ^ 52 ≤ significand
  deriving DecidableEq

namespace Double

/-- The absolute value. -/
def magnitude (x : Double) : ℚ := x.significand * 2 ^ x.exponent

/-- The number itself; both zeros are `0`. -/
def value (x : Double) : ℚ := if x.negative then -x.magnitude else x.magnitude

/-- Negative zero. -/
def isNegZero (x : Double) : Bool := x.negative && decide (x.significand = 0)

/-- `x.toFixed(f)`: sign apart, the nearest integer number of units of the last
digit, the larger one of two; `numberToString` takes over from `10 ^ 21` on. -/
def toFixed (numberToString : ℚ → String) (x : Double) (f : ℕ) : String :=
  signedText (decide (x.value < 0)) <|
    if 10 ^ 21 ≤ x.magnitude then numberToString x.magnitude
    else fixedText f (round (x.magnitude * 10 ^ f)).toNat

/-- `format!("{:.f}", x)`: the sign bit, the nearest integer number of units of
the last digit, ties to even. -/
def format (x : Double) (f : ℕ) : String :=
  signedText x.negative (fixedText f (roundHalfEven (x.magnitude * 10 ^ f)).toNat)

theorem magnitude_nonneg (x : Double) : 0 ≤ x.magnitude := by
  unfold magnitude
  positivity

theorem magnitude_eq_zero_iff {x : Double} : x.magnitude = 0 ↔ x.significand = 0 := by
  unfold magnitude
  simp [zpow_ne_zero]

/-- A number is below zero when its sign bit is set and it is not zero. -/
theorem value_neg_iff {x : Double} : x.value < 0 ↔ x.negative = true ∧ x.significand ≠ 0 := by
  have hnonneg := x.magnitude_nonneg
  unfold value
  cases x.negative with
  | false => simpa using hnonneg
  | true => simp [hnonneg.lt_iff_ne', magnitude_eq_zero_iff]

/-- The signs printed differ at negative zero. -/
theorem sign_eq_iff {x : Double} : decide (x.value < 0) = x.negative ↔ x.isNegZero = false := by
  rw [Bool.eq_iff_iff, decide_eq_true_iff, value_neg_iff]
  unfold isNegZero
  cases x.negative <;> simp

/-- The magnitude is an integer over a power of two. -/
theorem exists_magnitude_eq (x : Double) : ∃ s k : ℕ, x.magnitude * 2 ^ k = s := by
  unfold magnitude
  rcases Int.le_total 0 x.exponent with h | h
  · obtain ⟨e, he⟩ := Int.eq_ofNat_of_zero_le h
    refine ⟨x.significand * 2 ^ e, 0, ?_⟩
    rw [he]
    push_cast
    simp
  · obtain ⟨e, he⟩ := Int.eq_ofNat_of_zero_le (Int.neg_nonneg_of_nonpos h)
    refine ⟨x.significand, e, ?_⟩
    have he : x.exponent = -(e : ℤ) := by omega
    rw [he, zpow_neg, zpow_natCast, mul_assoc, inv_mul_cancel₀ (by positivity), mul_one]

/-- Powers of five are `1` modulo `4`. -/
theorem five_pow_mod_four (f : ℕ) : 5 ^ f % 4 = 1 := by
  rw [Nat.pow_mod]
  simp

/-- **Where a double is a tie above an even integer.** -/
theorem tie_iff (x : Double) (f : ℕ) :
    (Int.fract (x.magnitude * 10 ^ f) = 1 / 2 ∧ Even ⌊x.magnitude * 10 ^ f⌋) ↔
      ∃ k : ℕ, x.magnitude = (4 * k + 1) / 2 ^ (f + 1) := by
  have hpow : (10 : ℚ) ^ f = 2 ^ f * 5 ^ f := by rw [← mul_pow]; norm_num
  constructor
  · rintro ⟨hfract, hEven⟩
    obtain ⟨n, hn⟩ := hEven
    have hfloor := Int.floor_add_fract (x.magnitude * 10 ^ f)
    have hn0 : 0 ≤ n := by
      have := Int.floor_nonneg.2 (mul_nonneg x.magnitude_nonneg (by positivity : (0 : ℚ) ≤ 10 ^ f))
      omega
    obtain ⟨n, rfl⟩ := Int.eq_ofNat_of_zero_le hn0
    rw [hfract, hn] at hfloor
    push_cast at hfloor
    obtain ⟨s, k, hs⟩ := x.exists_magnitude_eq
    -- cleared of denominators: `5 ^ f` divides the odd number above
    have hclear : (s : ℚ) * 2 ^ (f + 1) * 5 ^ f = (4 * n + 1) * 2 ^ k := by
      rw [← hs]
      calc x.magnitude * 2 ^ k * 2 ^ (f + 1) * 5 ^ f
          = 2 * (x.magnitude * 10 ^ f) * 2 ^ k := by rw [hpow]; ring
        _ = (4 * n + 1) * 2 ^ k := by rw [← hfloor]; ring
    have hclear : s * 2 ^ (f + 1) * 5 ^ f = (4 * n + 1) * 2 ^ k := by exact_mod_cast hclear
    have hdvd : 5 ^ f ∣ 4 * n + 1 := by
      refine (Nat.Coprime.pow f k (by decide : Nat.Coprime 5 2)).dvd_of_dvd_mul_right ?_
      exact ⟨s * 2 ^ (f + 1), by rw [← hclear, Nat.mul_comm]⟩
    obtain ⟨m, hm⟩ := hdvd
    -- the quotient is `1` modulo `4` as well
    have hmod : m % 4 = 1 := by
      have h := congrArg (· % 4) hm
      rw [Nat.mul_mod, five_pow_mod_four] at h
      omega
    refine ⟨m / 4, ?_⟩
    have hm4 : 4 * (m / 4) + 1 = m := by omega
    have hm4 : (4 * ((m / 4 : ℕ) : ℚ) + 1) = m := by exact_mod_cast hm4
    have hm : (4 * n + 1 : ℚ) = 5 ^ f * m := by exact_mod_cast hm
    rw [hm4, eq_div_iff (by positivity)]
    have h5 : (5 : ℚ) ^ f ≠ 0 := by positivity
    refine mul_left_cancel₀ h5 ?_
    rw [← hm]
    calc (5 : ℚ) ^ f * (x.magnitude * 2 ^ (f + 1)) = 2 * (x.magnitude * 10 ^ f) := by
          rw [hpow]; ring
      _ = 4 * n + 1 := by rw [← hfloor]; ring
  · rintro ⟨k, hk⟩
    obtain ⟨c, hc⟩ : ∃ c : ℕ, 5 ^ f = 4 * c + 1 :=
      ⟨5 ^ f / 4, by have := five_pow_mod_four f; omega⟩
    have hc : (5 : ℚ) ^ f = 4 * c + 1 := by exact_mod_cast hc
    have hval : x.magnitude * 10 ^ f = ((2 * (4 * k * c + k + c) : ℤ) : ℚ) + 1 / 2 := by
      rw [hk, hpow, pow_succ, hc]
      field_simp
      push_cast
      ring
    have hfloor : ⌊x.magnitude * 10 ^ f⌋ = 2 * (4 * k * c + k + c : ℤ) := by
      rw [hval, Int.floor_eq_iff]
      constructor <;> linarith
    refine ⟨?_, ?_⟩
    · unfold Int.fract
      rw [hfloor, hval]
      ring
    · rw [hfloor]
      exact even_two_mul _

/-- **The two formatters agree** except at negative zero and at the ties above
an even integer. -/
theorem toFixed_eq_format_iff (numberToString : ℚ → String) {x : Double} (f : ℕ)
    (hx : x.magnitude < 10 ^ 21) :
    x.toFixed numberToString f = x.format f ↔
      x.isNegZero = false ∧ ∀ k : ℕ, x.magnitude ≠ (4 * k + 1) / 2 ^ (f + 1) := by
  have hscaled : 0 ≤ x.magnitude * 10 ^ f := mul_nonneg x.magnitude_nonneg (by positivity)
  have hround : (round (x.magnitude * 10 ^ f)).toNat = (roundHalfEven (x.magnitude * 10 ^ f)).toNat ↔
      ∀ k : ℕ, x.magnitude ≠ (4 * k + 1) / 2 ^ (f + 1) := by
    rw [← not_exists, ← tie_iff, ← round_eq_roundHalfEven_iff]
    have h₁ := round_nonneg hscaled
    have h₂ := roundHalfEven_nonneg hscaled
    omega
  unfold toFixed format
  rw [if_neg hx.not_ge, signedText_inj, sign_eq_iff, hround]

end Double
end Lib
