/-
# The laws of the decay curve

`trust/decay.rs` (`effective_score`) and `reports/service.rs` (`compute_tier`),
read as a curve: in the days, in the accuracy and in the earned score.

All four branches of `effective_score` say one thing.  A share of the distance
between the earned score and the floor is lost (`decayShare`): nothing within
the grace days, all of it where the horizon is zero, and in between the clamped
quotient of the source.  `effectiveScore_eq` is that reading, and each law is
then a law of the share followed by the rounding, which is monotone and fixes
the integers (`roundHalfAway_mono`, `roundHalfAway_intCast`).

The order on tiers is the order of their thresholds, so `computeTier` is
monotone and carries the laws over to the tier (`computeTier_mono`).
-/

import Mathlib.Algebra.Order.Floor.Ring
import Mathlib.Data.Int.ConditionallyCompleteOrder
import Mathlib.Order.Monotone.Defs
import Mathlib.Tactic.Linarith
import Mathlib.Tactic.NormNum
import SentinelMesh.Lib.MachineInt
import SentinelMesh.Reports.Consensus
import SentinelMesh.Trust.Decay

namespace SentinelMesh

open Lib

/-! ### Rounding -/

/-- An integer is rounded to itself. -/
@[simp] theorem roundHalfAway_intCast (n : ℤ) : roundHalfAway (n : ℚ) = n := by
  unfold roundHalfAway
  have hhalf : ⌊(1 : ℚ) / 2⌋ = 0 := by norm_num
  split
  · rw [Int.floor_intCast_add, hhalf, add_zero]
  · rw [← Int.cast_neg, Int.floor_intCast_add, hhalf, add_zero, neg_neg]

/-- Rounding keeps the order, also across zero where it changes direction. -/
theorem roundHalfAway_mono : Monotone roundHalfAway := by
  intro p q hpq
  unfold roundHalfAway
  split
  · rename_i hp
    rw [if_pos (hp.trans hpq)]
    exact Int.floor_mono (by linarith)
  · rename_i hp
    split
    · rename_i hq
      have h₁ : (0 : ℤ) ≤ ⌊-p + 1 / 2⌋ := Int.floor_nonneg.mpr (by linarith)
      have h₂ : (0 : ℤ) ≤ ⌊q + 1 / 2⌋ := Int.floor_nonneg.mpr (by linarith)
      omega
    · exact neg_le_neg (Int.floor_mono (by linarith))

/-! ### The share that is lost -/

/-- The share of `earned - floor` that is gone after so many days. -/
def decayShare (days_since_verified : ℤ) (accuracy : ℚ) (grace_days horizon_days : ℕ) : ℚ :=
  if days_since_verified ≤ grace_days then 0
  else
    let days_over : ℚ := (days_since_verified - grace_days : ℤ)
    let effective_horizon : ℚ := horizon_days * (1 + max 0 (min 1 accuracy))
    if effective_horizon ≤ 0 then 1 else max 0 (min 1 (days_over / effective_horizon))

variable {earned floor days : ℤ} {accuracy : ℚ} {grace horizon : ℕ}

/-- The horizon in days, once the accuracy has stretched it. -/
def effectiveHorizon (accuracy : ℚ) (horizon : ℕ) : ℚ := horizon * (1 + max 0 (min 1 accuracy))

theorem effectiveHorizon_mono (horizon : ℕ) :
    Monotone fun accuracy => effectiveHorizon accuracy horizon := fun _ _ h =>
  mul_le_mul_of_nonneg_left (add_le_add_right (max_le_max_left _ (min_le_min_left _ h)) _)
    (Nat.cast_nonneg _)

/-- Within the grace days nothing is lost. -/
theorem decayShare_of_le (h : days ≤ grace) : decayShare days accuracy grace horizon = 0 :=
  if_pos h

/-- Past them, with a horizon of zero, everything is. -/
theorem decayShare_of_horizon (h : grace < days) (hh : effectiveHorizon accuracy horizon ≤ 0) :
    decayShare days accuracy grace horizon = 1 := by
  unfold decayShare
  rw [if_neg h.not_ge]
  exact if_pos hh

/-- And with a positive one the quotient, clamped. -/
theorem decayShare_of_lt (h : grace < days) (hh : 0 < effectiveHorizon accuracy horizon) :
    decayShare days accuracy grace horizon =
      max 0 (min 1 ((days - grace : ℤ) / effectiveHorizon accuracy horizon)) := by
  unfold decayShare
  rw [if_neg h.not_ge]
  exact if_neg hh.not_ge

theorem decayShare_nonneg (days : ℤ) (accuracy : ℚ) (grace horizon : ℕ) :
    0 ≤ decayShare days accuracy grace horizon := by
  rcases le_or_gt days grace with h | h
  · rw [decayShare_of_le h]
  · rcases le_or_gt (effectiveHorizon accuracy horizon) 0 with hh | hh
    · rw [decayShare_of_horizon h hh]
      exact zero_le_one
    · rw [decayShare_of_lt h hh]
      exact le_max_left _ _

theorem decayShare_le_one (days : ℤ) (accuracy : ℚ) (grace horizon : ℕ) :
    decayShare days accuracy grace horizon ≤ 1 := by
  rcases le_or_gt days grace with h | h
  · rw [decayShare_of_le h]
    exact zero_le_one
  · rcases le_or_gt (effectiveHorizon accuracy horizon) 0 with hh | hh
    · rw [decayShare_of_horizon h hh]
    · rw [decayShare_of_lt h hh]
      exact max_le zero_le_one (min_le_left _ _)

/-- More days lose no less. -/
theorem decayShare_mono_days (accuracy : ℚ) (grace horizon : ℕ) :
    Monotone fun days => decayShare days accuracy grace horizon := by
  intro d e hde
  show decayShare d accuracy grace horizon ≤ decayShare e accuracy grace horizon
  rcases le_or_gt d grace with hd | hd
  · rw [decayShare_of_le hd]
    exact decayShare_nonneg _ _ _ _
  · have he : (grace : ℤ) < e := hd.trans_le hde
    rcases le_or_gt (effectiveHorizon accuracy horizon) 0 with hh | hh
    · rw [decayShare_of_horizon hd hh, decayShare_of_horizon he hh]
    · rw [decayShare_of_lt hd hh, decayShare_of_lt he hh]
      have hover : ((d - grace : ℤ) : ℚ) ≤ (e - grace : ℤ) := by exact_mod_cast sub_le_sub_right hde _
      exact max_le_max_left _ (min_le_min_left _ (div_le_div_of_nonneg_right hover hh.le))

/-- A better accuracy loses no more. -/
theorem decayShare_anti_accuracy (days : ℤ) (grace horizon : ℕ) :
    Antitone fun accuracy => decayShare days accuracy grace horizon := by
  intro a b hab
  show decayShare days b grace horizon ≤ decayShare days a grace horizon
  have hmono : effectiveHorizon a horizon ≤ effectiveHorizon b horizon :=
    effectiveHorizon_mono horizon hab
  rcases le_or_gt days grace with h | h
  · rw [decayShare_of_le h, decayShare_of_le h]
  · rcases le_or_gt (effectiveHorizon a horizon) 0 with ha | ha
    · rw [decayShare_of_horizon h ha]
      exact decayShare_le_one _ _ _ _
    · rw [decayShare_of_lt h ha, decayShare_of_lt h (ha.trans_le hmono)]
      have hover : (0 : ℚ) ≤ (days - grace : ℤ) := by exact_mod_cast sub_nonneg.mpr h.le
      exact max_le_max_left _ (min_le_min_left _ (div_le_div_of_nonneg_left hover ha hmono))

/-- At the end of the horizon everything is lost. -/
theorem decayShare_of_past (h : grace < days)
    (hpast : effectiveHorizon accuracy horizon ≤ (days - grace : ℤ)) :
    decayShare days accuracy grace horizon = 1 := by
  rcases le_or_gt (effectiveHorizon accuracy horizon) 0 with hh | hh
  · exact decayShare_of_horizon h hh
  · rw [decayShare_of_lt h hh, min_eq_left ((one_le_div hh).mpr hpast), max_eq_right zero_le_one]

/-! ### The score -/

/-- The score before rounding, when a share of the distance to the floor is
lost. -/
def decayed (earned floor : ℤ) (share : ℚ) : ℚ := earned - share * (earned - floor)

/-- What is left lies between the floor and the earned score. -/
theorem decayed_mem {share : ℚ} (h : floor ≤ earned) (h₀ : 0 ≤ share) (h₁ : share ≤ 1) :
    (floor : ℚ) ≤ decayed earned floor share ∧ decayed earned floor share ≤ earned := by
  have hle : (0 : ℚ) ≤ earned - floor := sub_nonneg.mpr (by exact_mod_cast h)
  have hpos : 0 ≤ share * (earned - floor) := mul_nonneg h₀ hle
  have hall : share * (earned - floor) ≤ earned - floor := mul_le_of_le_one_left hle h₁
  unfold decayed
  constructor <;> linarith

/-- Losing more leaves less. -/
theorem decayed_anti {share share' : ℚ} (h : floor ≤ earned) (hs : share ≤ share') :
    decayed earned floor share' ≤ decayed earned floor share := by
  have hle : (0 : ℚ) ≤ earned - floor := sub_nonneg.mpr (by exact_mod_cast h)
  exact sub_le_sub_left (mul_le_mul_of_nonneg_right hs hle) _

/-- Having earned more leaves more. -/
theorem decayed_mono {earned' : ℤ} {share : ℚ} (h : earned ≤ earned') (h₁ : share ≤ 1) :
    decayed earned floor share ≤ decayed earned' floor share := by
  have hle : (earned : ℚ) ≤ earned' := by exact_mod_cast h
  have hkeep : (1 - share) * earned ≤ (1 - share) * earned' :=
    mul_le_mul_of_nonneg_left hle (sub_nonneg.mpr h₁)
  unfold decayed
  linarith

/-- **One formula for the four branches.**  Above the floor the score is the
earned one less the share that is lost, rounded. -/
theorem effectiveScore_eq (h : floor < earned) (days : ℤ) (accuracy : ℚ) (grace horizon : ℕ) :
    effectiveScore earned days accuracy grace horizon floor =
      roundHalfAway (decayed earned floor (decayShare days accuracy grace horizon)) := by
  unfold effectiveScore decayed
  rw [if_neg h.not_ge]
  split
  · rename_i hd
    rw [decayShare_of_le hd, zero_mul, sub_zero, roundHalfAway_intCast]
  · rename_i hd
    rcases le_or_gt (effectiveHorizon accuracy horizon) 0 with hh | hh
    · rw [decayShare_of_horizon (not_le.mp hd) hh, one_mul, sub_sub_cancel, roundHalfAway_intCast]
      exact if_pos hh
    · rw [decayShare_of_lt (not_le.mp hd) hh]
      exact if_neg hh.not_ge

/-- At the floor or below it nothing decays. -/
theorem effectiveScore_of_floor (h : earned ≤ floor) (days : ℤ) (accuracy : ℚ)
    (grace horizon : ℕ) : effectiveScore earned days accuracy grace horizon floor = earned :=
  if_pos h

/-- Nor within the grace days. -/
theorem effectiveScore_of_grace (h : days ≤ grace) :
    effectiveScore earned days accuracy grace horizon floor = earned := by
  rcases le_or_gt earned floor with he | he
  · exact effectiveScore_of_floor he _ _ _ _
  · rw [effectiveScore_eq he, decayShare_of_le h, decayed, zero_mul, sub_zero,
      roundHalfAway_intCast]

/-- Above the floor the score stays between the floor and the earned one. -/
theorem effectiveScore_mem (h : floor < earned) (days : ℤ) (accuracy : ℚ) (grace horizon : ℕ) :
    floor ≤ effectiveScore earned days accuracy grace horizon floor ∧
      effectiveScore earned days accuracy grace horizon floor ≤ earned := by
  obtain ⟨hlo, hhi⟩ := decayed_mem h.le (decayShare_nonneg days accuracy grace horizon)
    (decayShare_le_one days accuracy grace horizon)
  rw [effectiveScore_eq h]
  constructor
  · simpa using roundHalfAway_mono hlo
  · simpa using roundHalfAway_mono hhi

/-- So it is never above the earned score. -/
theorem effectiveScore_le (earned days : ℤ) (accuracy : ℚ) (grace horizon : ℕ) (floor : ℤ) :
    effectiveScore earned days accuracy grace horizon floor ≤ earned := by
  rcases le_or_gt earned floor with h | h
  · rw [effectiveScore_of_floor h]
  · exact (effectiveScore_mem h _ _ _ _).2

/-- The score never grows while the user is away. -/
theorem effectiveScore_anti_days (earned : ℤ) (accuracy : ℚ) (grace horizon : ℕ) (floor : ℤ) :
    Antitone fun days => effectiveScore earned days accuracy grace horizon floor := by
  intro d e hde
  show effectiveScore earned e accuracy grace horizon floor ≤
    effectiveScore earned d accuracy grace horizon floor
  rcases le_or_gt earned floor with h | h
  · rw [effectiveScore_of_floor h, effectiveScore_of_floor h]
  · rw [effectiveScore_eq h, effectiveScore_eq h]
    exact roundHalfAway_mono (decayed_anti h.le (decayShare_mono_days accuracy grace horizon hde))

/-- It is no lower for who has been more accurate. -/
theorem effectiveScore_mono_accuracy (earned days : ℤ) (grace horizon : ℕ) (floor : ℤ) :
    Monotone fun accuracy => effectiveScore earned days accuracy grace horizon floor := by
  intro a b hab
  show effectiveScore earned days a grace horizon floor ≤
    effectiveScore earned days b grace horizon floor
  rcases le_or_gt earned floor with h | h
  · rw [effectiveScore_of_floor h, effectiveScore_of_floor h]
  · rw [effectiveScore_eq h, effectiveScore_eq h]
    exact roundHalfAway_mono (decayed_anti h.le (decayShare_anti_accuracy days grace horizon hab))

/-- It is no lower for who has earned more. -/
theorem effectiveScore_mono_earned (days : ℤ) (accuracy : ℚ) (grace horizon : ℕ) (floor : ℤ) :
    Monotone fun earned => effectiveScore earned days accuracy grace horizon floor := by
  intro m n hmn
  show effectiveScore m days accuracy grace horizon floor ≤
    effectiveScore n days accuracy grace horizon floor
  rcases le_or_gt n floor with hn | hn
  · rw [effectiveScore_of_floor hn, effectiveScore_of_floor (hmn.trans hn)]
    exact hmn
  · rcases le_or_gt m floor with hm | hm
    -- the smaller one is not decayed at all, and the floor holds the larger one above it
    · rw [effectiveScore_of_floor hm]
      exact hm.trans (effectiveScore_mem hn _ _ _ _).1
    · rw [effectiveScore_eq hm, effectiveScore_eq hn]
      exact roundHalfAway_mono (decayed_mono hmn (decayShare_le_one _ _ _ _))

/-- After the horizon, stretched by the accuracy, the score is the floor. -/
theorem effectiveScore_of_past (h : floor < earned) (hd : grace < days) (h₀ : 0 ≤ accuracy)
    (h₁ : accuracy ≤ 1) (hpast : (horizon : ℚ) * (1 + accuracy) ≤ (days - grace : ℤ)) :
    effectiveScore earned days accuracy grace horizon floor = floor := by
  have heff : effectiveHorizon accuracy horizon = horizon * (1 + accuracy) := by
    rw [effectiveHorizon, min_eq_right h₁, max_eq_right h₀]
  rw [effectiveScore_eq h, decayShare_of_past hd (heff.trans_le hpast), decayed, one_mul,
    sub_sub_cancel, roundHalfAway_intCast]

/-! ### The tier -/

/-- The tiers in the order of their thresholds. -/
def Tier.level : Tier → ℕ
  | .newcomer => 0
  | .trusted => 1
  | .veteran => 2
  | .sentinel => 3

instance : Preorder Tier := Preorder.lift Tier.level

/-- A higher score is worth no lower tier. -/
theorem computeTier_mono : Monotone computeTier := by
  intro m n hmn
  show (computeTier m).level ≤ (computeTier n).level
  unfold computeTier
  split_ifs <;> first | omega | decide

/-- **The laws of the decay curve.**  At the floor or below it, and within the
grace days, the score is the earned one.  Otherwise it lies between the floor
and the earned score, and is the floor once the stretched horizon is over.  It
falls with the days and grows with the accuracy and with the earned score, and
so does the tier, which is never above the tier of the earned score. -/
theorem effectiveScore_laws (earned days : ℤ) (accuracy : ℚ) (grace horizon : ℕ) (floor : ℤ)
    (h₀ : 0 ≤ accuracy) (h₁ : accuracy ≤ 1) :
    (earned ≤ floor ∨ days ≤ grace →
      effectiveScore earned days accuracy grace horizon floor = earned) ∧
    (¬ (earned ≤ floor ∨ days ≤ grace) →
      floor ≤ effectiveScore earned days accuracy grace horizon floor ∧
      effectiveScore earned days accuracy grace horizon floor ≤ earned ∧
      ((horizon : ℚ) * (1 + accuracy) ≤ (days - grace : ℤ) →
        effectiveScore earned days accuracy grace horizon floor = floor)) ∧
    (Antitone fun d => effectiveScore earned d accuracy grace horizon floor) ∧
    (Monotone fun a => effectiveScore earned days a grace horizon floor) ∧
    (Monotone fun e => effectiveScore e days accuracy grace horizon floor) ∧
    computeTier (effectiveScore earned days accuracy grace horizon floor) ≤ computeTier earned ∧
    (Antitone fun d => computeTier (effectiveScore earned d accuracy grace horizon floor)) ∧
    (Monotone fun a => computeTier (effectiveScore earned days a grace horizon floor)) ∧
    (Monotone fun e => computeTier (effectiveScore e days accuracy grace horizon floor)) := by
  have hdays := effectiveScore_anti_days earned accuracy grace horizon floor
  have haccuracy := effectiveScore_mono_accuracy earned days grace horizon floor
  have hearned := effectiveScore_mono_earned days accuracy grace horizon floor
  refine ⟨?_, ?_, hdays, haccuracy, hearned, ?_, computeTier_mono.comp_antitone hdays,
    computeTier_mono.comp haccuracy, computeTier_mono.comp hearned⟩
  · rintro (h | h)
    · exact effectiveScore_of_floor h _ _ _ _
    · exact effectiveScore_of_grace h
  · intro h
    obtain ⟨hf, hd⟩ := not_or.mp h
    obtain ⟨hlo, hhi⟩ := effectiveScore_mem (not_le.mp hf) days accuracy grace horizon
    exact ⟨hlo, hhi, effectiveScore_of_past (not_le.mp hf) (not_le.mp hd) h₀ h₁⟩
  · exact computeTier_mono (effectiveScore_le _ _ _ _ _ _)

/-- The extreme of the source's own tests: four thousand million points apart,
and long past the horizon. -/
theorem effectiveScore_laws_extreme :
    effectiveScore 2000000000 9999 0 90 180 (-2000000000) = -2000000000 :=
  ((effectiveScore_laws 2000000000 9999 0 90 180 (-2000000000) le_rfl zero_le_one).2.1
    (by decide)).2.2 (by norm_num)

end SentinelMesh
