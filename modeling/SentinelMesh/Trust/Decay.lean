/-
# The reputation decay curve

`trust/decay.rs` (`accuracy_ratio`, `effective_score`), over exact rationals
instead of `f64`.

Within `grace_days` of the last verified contribution the effective score is
the earned one.  Past it the score falls linearly toward `floor`, over
`horizon_days` at accuracy `0` and up to twice as long at accuracy `1`, and is
rounded half away from zero as `f64::round` does.
-/

import Mathlib.Data.Rat.Floor

namespace SentinelMesh

/-- `accuracy_ratio`: accurate over total, clamped to `[0, 1]`; `0` when there
are no reports. -/
def accuracyRatio (accurate total : ℤ) : ℚ :=
  if total ≤ 0 then 0 else max 0 (min 1 ((accurate : ℚ) / total))

/-- `f64::round`: to nearest, halves away from zero. -/
def roundHalfAway (q : ℚ) : ℤ := if 0 ≤ q then ⌊q + 1 / 2⌋ else -⌊-q + 1 / 2⌋

/-- `effective_score`. -/
def effectiveScore (earned days_since_verified : ℤ) (accuracy : ℚ) (grace_days horizon_days : ℕ)
    (floor : ℤ) : ℤ :=
  if earned ≤ floor then earned
  else if days_since_verified ≤ grace_days then earned
  else
    let days_over : ℚ := (days_since_verified - grace_days : ℤ)
    let effective_horizon : ℚ := horizon_days * (1 + max 0 (min 1 accuracy))
    if effective_horizon ≤ 0 then floor
    else
      let frac := max 0 (min 1 (days_over / effective_horizon))
      roundHalfAway (earned - frac * (earned - floor))

end SentinelMesh
