/-
# Snapping to the cells of a grid

A line is cut into cells of one size, the first of them at an offset, and a point
is moved to the centre of its cell (`snap`).  It moves by half a cell at most
(`abs_snap_sub_le`), and a centre stays where it is (`snap_snap`).

The centre may lie beyond a bound that the point keeps.  `snap_le_iff` and
`le_snap_iff` say when it does not, by the point alone: the point lies before the
end of the last cell whose centre keeps the bound, or from the beginning of the
first one on.
-/

import Mathlib.Algebra.Order.Floor.Ring
import Mathlib.Tactic.Linarith
import Mathlib.Tactic.Ring

namespace Lib

variable {F : Type*} [Field F] [LinearOrder F] [IsStrictOrderedRing F] [FloorRing F]

/-- What the numeral two rests on. -/
local instance atLeastTwo_half : Nat.AtLeastTwo 2 := ⟨le_rfl⟩

/-- The number of the cell of a point. -/
def cell (step offset x : F) : ℤ := ⌊x / step - offset⌋

/-- The centre of a cell. -/
def centre (step offset : F) (k : ℤ) : F := (k + offset + 1 / 2) * step

/-- The centre of the cell of a point. -/
def snap (step offset x : F) : F := centre step offset (cell step offset x)

/-- The end of the last cell whose centre is at most `hi`. -/
def lastEdge (step offset hi : F) : F := (⌊hi / step - offset - 1 / 2⌋ + 1 + offset) * step

/-- The beginning of the first cell whose centre is at least `lo`. -/
def firstEdge (step offset lo : F) : F := (⌈lo / step - offset - 1 / 2⌉ + offset) * step

variable {step : F}

/-- **A point moves by half a cell at most.** -/
theorem abs_snap_sub_le (h : 0 < step) (offset x : F) : |snap step offset x - x| ≤ step / 2 := by
  have hlo : (cell step offset x : F) ≤ x / step - offset := Int.floor_le _
  have hhi : x / step - offset < cell step offset x + 1 := Int.lt_floor_add_one _
  have hx : x = x / step * step := (div_mul_cancel₀ x h.ne').symm
  have hdiff : snap step offset x - x =
      (cell step offset x + offset + 1 / 2 - x / step) * step := by
    rw [sub_mul, ← hx]
    rfl
  have hhalf : |cell step offset x + offset + 1 / 2 - x / step| ≤ 1 / 2 := by
    rw [abs_le]
    constructor <;> linarith
  calc |snap step offset x - x|
      = |cell step offset x + offset + 1 / 2 - x / step| * step := by
        rw [hdiff, abs_mul, abs_of_pos h]
    _ ≤ 1 / 2 * step := mul_le_mul_of_nonneg_right hhalf h.le
    _ = step / 2 := by ring

/-- A centre lies in its own cell. -/
theorem cell_centre (h : 0 < step) (offset : F) (k : ℤ) :
    cell step offset (centre step offset k) = k := by
  unfold cell centre
  rw [mul_div_cancel_right₀ _ h.ne', Int.floor_eq_iff]
  constructor <;> linarith

/-- **A centre stays where it is.** -/
theorem snap_snap (h : 0 < step) (offset x : F) :
    snap step offset (snap step offset x) = snap step offset x :=
  congrArg (centre step offset) (cell_centre h offset _)

/-- **The centre keeps an upper bound** exactly where the point lies before the
end of the last cell whose centre does. -/
theorem snap_le_iff (h : 0 < step) (offset x hi : F) :
    snap step offset x ≤ hi ↔ x < lastEdge step offset hi := by
  have hcentre : snap step offset x ≤ hi ↔ (cell step offset x : F) ≤ hi / step - offset - 1 / 2 := by
    unfold snap centre
    rw [← le_div_iff₀ h, sub_sub, le_sub_iff_add_le, add_assoc]
  have hedge : x < lastEdge step offset hi ↔
      x / step - offset < ((⌊hi / step - offset - 1 / 2⌋ + 1 : ℤ) : F) := by
    unfold lastEdge
    rw [← div_lt_iff₀ h, sub_lt_iff_lt_add]
    push_cast
    rfl
  rw [hcentre, hedge, ← Int.le_floor, ← Int.floor_lt, Int.lt_add_one_iff]
  rfl

/-- **And a lower bound** exactly where the point lies from the beginning of the
first such cell on. -/
theorem le_snap_iff (h : 0 < step) (offset x lo : F) :
    lo ≤ snap step offset x ↔ firstEdge step offset lo ≤ x := by
  have hcentre : lo ≤ snap step offset x ↔ lo / step - offset - 1 / 2 ≤ (cell step offset x : F) := by
    unfold snap centre
    rw [← div_le_iff₀ h, sub_sub, sub_le_iff_le_add, add_assoc]
  have hedge : firstEdge step offset lo ≤ x ↔
      ((⌈lo / step - offset - 1 / 2⌉ : ℤ) : F) ≤ x / step - offset := by
    unfold firstEdge
    rw [← le_div_iff₀ h, le_sub_iff_add_le]
  rw [hcentre, hedge, ← Int.ceil_le, ← Int.le_floor]
  rfl

end Lib
