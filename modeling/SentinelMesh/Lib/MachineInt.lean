/-
# Machine integers as integers

A signed machine integer of `w` bits is an integer in `[-2^(w-1), 2^(w-1))`,
and an operation that overflows wraps around.  `wrap w` is that reduction, the
balanced residue modulo `2^w`; `wrap_of_mem` says that it does nothing to a
value already in range.
-/

import Mathlib.Data.Int.Basic
import Mathlib.Tactic.Positivity
import Mathlib.Tactic.Ring

namespace Lib

/-- The value a signed integer of `w` bits holds after computing `x`. -/
def wrap (w : ℕ) (x : ℤ) : ℤ := x.bmod (2 ^ w)

/-- The values of a signed integer of `w + 1` bits. -/
def InRange (w : ℕ) (x : ℤ) : Prop := -2 ^ w ≤ x ∧ x < 2 ^ w

instance (w : ℕ) (x : ℤ) : Decidable (InRange w x) := inferInstanceAs (Decidable (_ ∧ _))

theorem wrap_of_mem {w : ℕ} {x : ℤ} (h : InRange w x) : wrap (w + 1) x = x := by
  obtain ⟨h₁, h₂⟩ := h
  have hp : ((2 ^ (w + 1) : ℕ) : ℤ) = 2 * 2 ^ w := by push_cast; ring
  exact Int.bmod_eq_of_le_mul_two (by rw [hp]; omega) (by rw [hp]; omega)

/-- A full turn does nothing. -/
theorem wrap_sub_two_pow (w : ℕ) (x : ℤ) : wrap w (x - 2 ^ w) = wrap w x := by
  have h := Int.sub_bmod_right x (2 ^ w)
  push_cast at h
  exact h

theorem wrap_mem (w : ℕ) (x : ℤ) : InRange w (wrap (w + 1) x) := by
  have hp : ((2 ^ (w + 1) : ℕ) : ℤ) = 2 * 2 ^ w := by push_cast; ring
  have hpos : 0 < 2 ^ (w + 1) := by positivity
  have h₁ := Int.le_bmod (x := x) hpos
  have h₂ := Int.bmod_lt (x := x) hpos
  rw [hp] at h₁ h₂
  unfold InRange wrap
  omega

end Lib
