/-
# Decimal texts with a fixed number of digits

Two things a formatter of numbers does with a nonnegative rational: it rounds it
to an integer number of units of the last digit, and it writes that integer with
a point before the last `f` digits.

Of the rounding, `round` of Mathlib is nearest with ties upwards, and
`roundHalfEven` is nearest with ties to the even integer.  They differ exactly
at ties above an even integer (`round_eq_roundHalfEven_iff`).  Of the text,
`fixedText_inj` is that it determines the integer, and `mem_fixedText` which
characters it is made of.
-/

import Mathlib.Algebra.Order.Round
import Mathlib.Data.Rat.Floor
import Mathlib.Tactic.Linarith

namespace Lib

section Rounding

variable {K : Type*} [Field K] [LinearOrder K] [IsStrictOrderedRing K] [FloorRing K]

/-- Nearest integer, ties to even. -/
def roundHalfEven (q : K) : ℤ :=
  if Int.fract q < 1 / 2 then ⌊q⌋
  else if 1 / 2 < Int.fract q then ⌊q⌋ + 1
  else if Even ⌊q⌋ then ⌊q⌋ else ⌊q⌋ + 1

/-- Rounding moves a number by at most one half. -/
theorem abs_sub_roundHalfEven_le (q : K) : |q - roundHalfEven q| ≤ 1 / 2 := by
  have hfloor := Int.self_sub_floor q
  have hfract := Int.fract_lt_one q
  have hnonneg := Int.fract_nonneg q
  unfold roundHalfEven
  rw [abs_le]
  split_ifs <;> push_cast <;> constructor <;> linarith

/-- `round` is the floor below one half, and the next integer from there on. -/
theorem round_eq_ite (q : K) : round q = if Int.fract q < 1 / 2 then ⌊q⌋ else ⌊q⌋ + 1 := by
  unfold round
  by_cases h : Int.fract q < 1 / 2
  · rw [if_pos h, if_pos (by linarith)]
  · have hpos : 0 < Int.fract q := by linarith
    rw [if_neg h, if_neg (by linarith), Int.ceil_eq_iff]
    have hq := Int.floor_add_fract q
    have hlt := Int.fract_lt_one q
    push_cast
    constructor <;> linarith

/-- **The two roundings differ at ties above an even integer only.** -/
theorem round_eq_roundHalfEven_iff (q : K) :
    round q = roundHalfEven q ↔ ¬(Int.fract q = 1 / 2 ∧ Even ⌊q⌋) := by
  rw [round_eq_ite]
  unfold roundHalfEven
  rcases lt_trichotomy (Int.fract q) (1 / 2) with h | h | h
  · rw [if_pos h, if_pos h]
    exact iff_of_true rfl fun htie => h.ne htie.1
  · rw [if_neg h.not_lt, if_neg h.not_lt, if_neg h.not_gt]
    split_ifs with heven <;> simp [h, heven]
  · rw [if_neg h.not_gt, if_neg h.not_gt, if_pos h]
    exact iff_of_true rfl fun htie => h.ne' htie.1

omit [IsStrictOrderedRing K] in
theorem roundHalfEven_nonneg {q : K} (hq : 0 ≤ q) : 0 ≤ roundHalfEven q := by
  have hfloor := Int.floor_nonneg.2 hq
  unfold roundHalfEven
  split_ifs <;> omega

theorem round_nonneg {q : K} (hq : 0 ≤ q) : 0 ≤ round q := by
  have hfloor := Int.floor_nonneg.2 hq
  rw [round_eq_ite]
  split_ifs <;> omega

end Rounding

/-- The decimal digits of `n`, with zeros in front up to `w` of them. -/
def paddedDigits (w n : ℕ) : List Char := (Nat.toDigits 10 n).leftpad w '0'

/-- `n` units of the `f`-th digit after the point, for `0 < f`. -/
def fixedText (f n : ℕ) : String :=
  let m := paddedDigits (f + 1) n
  String.ofList (m.take (m.length - f)) ++ "." ++ String.ofList (m.drop (m.length - f))

theorem isDigit_of_mem_paddedDigits {w n : ℕ} {c : Char} (h : c ∈ paddedDigits w n) :
    c.isDigit = true := by
  rcases List.mem_append.1 h with h | h
  · rw [(List.mem_replicate.1 h).2]
    rfl
  · exact Nat.isDigit_of_mem_toDigits (by omega) (by omega) h

/-- The digits determine the number. -/
theorem paddedDigits_inj {w n n' : ℕ} (h : paddedDigits w n = paddedDigits w n') : n = n' := by
  have hval : ∀ m, Nat.ofDigitChars 10 (paddedDigits w m) 0 = m := by
    intro m
    unfold paddedDigits List.leftpad
    rw [Nat.ofDigitChars_append, Nat.ofDigitChars_replicate_zero]
    simp
  rw [← hval n, h, hval]

theorem toList_fixedText (f n : ℕ) :
    let m := paddedDigits (f + 1) n
    (fixedText f n).toList = m.take (m.length - f) ++ '.' :: m.drop (m.length - f) := by
  simp [fixedText]

/-- A fixed text is made of digits and the point. -/
theorem mem_fixedText {f n : ℕ} {c : Char} (h : c ∈ (fixedText f n).toList) :
    c.isDigit = true ∨ c = '.' := by
  rw [toList_fixedText] at h
  rcases List.mem_append.1 h with h | h
  · exact Or.inl (isDigit_of_mem_paddedDigits (List.mem_of_mem_take h))
  · rcases List.mem_cons.1 h with rfl | h
    · exact Or.inr rfl
    · exact Or.inl (isDigit_of_mem_paddedDigits (List.mem_of_mem_drop h))

/-- **A fixed text determines its number.** -/
theorem fixedText_inj {f n n' : ℕ} (h : fixedText f n = fixedText f n') : n = n' := by
  -- without the point, the text is the padded digits
  have hdigits : ∀ m, (fixedText f m).toList.filter Char.isDigit = paddedDigits (f + 1) m := by
    intro m
    rw [toList_fixedText]
    rw [List.filter_append, List.filter_cons_of_neg (by decide), ← List.filter_append,
      List.take_append_drop, List.filter_eq_self]
    intro c hc
    exact isDigit_of_mem_paddedDigits hc
  refine paddedDigits_inj (w := f + 1) ?_
  rw [← hdigits n, h, hdigits]

/-- A sign in front of a fixed text. -/
def signedText (negative : Bool) (s : String) : String := (if negative then "-" else "") ++ s

theorem mem_signedText {b : Bool} {f n : ℕ} {c : Char}
    (h : c ∈ (signedText b (fixedText f n)).toList) : c.isDigit = true ∨ c = '.' ∨ c = '-' := by
  unfold signedText at h
  rw [String.toList_append] at h
  rcases List.mem_append.1 h with h | h
  · cases b
    · simp at h
    · exact Or.inr (Or.inr (by simpa using h))
  · exact (mem_fixedText h).imp_right Or.inl

/-- **A signed text determines its sign and its number.** -/
theorem signedText_inj {b b' : Bool} {f n n' : ℕ} :
    signedText b (fixedText f n) = signedText b' (fixedText f n') ↔ b = b' ∧ n = n' := by
  constructor
  · intro h
    have hminus : ∀ m, '-' ∉ (fixedText f m).toList := by
      intro m hm
      rcases mem_fixedText hm with h | h
      · exact absurd h (by decide)
      · exact absurd h (by decide)
    have hsign : ∀ (b : Bool) (m : ℕ), '-' ∈ (signedText b (fixedText f m)).toList ↔ b = true := by
      intro b m
      cases b <;> simp [signedText, hminus]
    have hb : b = b' := by rw [Bool.eq_iff_iff, ← hsign b n, h, hsign]
    subst hb
    refine ⟨rfl, fixedText_inj (f := f) ?_⟩
    have hlist := congrArg String.toList h
    unfold signedText at hlist
    rw [String.toList_append, String.toList_append] at hlist
    exact String.toList_inj.1 (List.append_cancel_left hlist)
  · rintro ⟨rfl, rfl⟩
    rfl

end Lib
