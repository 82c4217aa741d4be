/-
# Weights in groups, and weighted means

Items of a list have weights, and a key says which group an item is in.  `groupSum` is the
weight of a group; `sum_groupSum` is that the groups together weigh what the items do, and
`groupSum_scaled` that weights which are scaled group by group scale the groups.

`mul_sum_le` and `sum_le_mul` bound a weighted sum of values, so that a weighted mean lies
between bounds of the values.  `shares_le_iff` is about a cap: weights that are cut off at a
part `c` of their total are at most that part of what is left if and only if none was cut off.
-/

import Mathlib.Algebra.BigOperators.Group.List.Basic
import Mathlib.Algebra.Order.BigOperators.Group.List
import Mathlib.Algebra.Order.Field.Basic
import Mathlib.Tactic.Linarith

namespace Lib

variable {ι κ K : Type}

section Groups

variable [DecidableEq κ] [AddCommMonoid K]

/-- The weight of the items whose key is `k`. -/
def groupSum (key : ι → κ) (w : ι → K) (xs : List ι) (k : κ) : K :=
  ((xs.filter fun x => decide (key x = k)).map w).sum

theorem groupSum_cons (key : ι → κ) (w : ι → K) (x : ι) (xs : List ι) (k : κ) :
    groupSum key w (x :: xs) k = (if key x = k then w x else 0) + groupSum key w xs k := by
  unfold groupSum
  by_cases hk : key x = k
  · rw [List.filter_cons_of_pos (by exact decide_eq_true hk), if_pos hk, List.map_cons,
      List.sum_cons]
  · rw [List.filter_cons_of_neg (by simpa using hk), if_neg hk, zero_add]

/-- The items in another order. -/
theorem groupSum_perm (key : ι → κ) (w : ι → K) {xs ys : List ι} (h : xs.Perm ys) (k : κ) :
    groupSum key w xs k = groupSum key w ys k :=
  ((h.filter _).map w).sum_eq

/-- A sum over distinct keys of what one of them alone has. -/
theorem sum_single {ks : List κ} (hnodup : ks.Nodup) {k : κ} (hk : k ∈ ks) (v : K) :
    (ks.map fun k' => if k = k' then v else 0).sum = v := by
  induction ks with
  | nil => cases hk
  | cons k' ks ih =>
      rw [List.nodup_cons] at hnodup
      rw [List.map_cons, List.sum_cons]
      rcases List.mem_cons.1 hk with rfl | hk'
      · have hrest : ks.map (fun k' => if k = k' then v else 0) = ks.map fun _ => 0 := by
          refine List.map_congr_left fun k' hk' => if_neg ?_
          rintro rfl
          exact hnodup.1 hk'
        rw [if_pos rfl, hrest, List.map_const', List.sum_replicate, nsmul_zero, add_zero]
      · have hne : k ≠ k' := by
          rintro rfl
          exact hnodup.1 hk'
        rw [if_neg hne, zero_add]
        exact ih hnodup.2 hk'

/-- **The groups together weigh what the items do.** -/
theorem sum_groupSum (key : ι → κ) (w : ι → K) {ks : List κ} (hnodup : ks.Nodup) (xs : List ι)
    (hkeys : ∀ x ∈ xs, key x ∈ ks) : (ks.map (groupSum key w xs)).sum = (xs.map w).sum := by
  induction xs with
  | nil =>
      have hzero : groupSum key w [] = fun _ => 0 := rfl
      rw [hzero, List.map_const', List.sum_replicate, nsmul_zero]
      rfl
  | cons x xs ih =>
      obtain ⟨hx, hxs⟩ := List.forall_mem_cons.1 hkeys
      have hcons : groupSum key w (x :: xs) =
          fun k => (if key x = k then w x else 0) + groupSum key w xs k :=
        funext (groupSum_cons key w x xs)
      rw [hcons, List.sum_map_add, sum_single hnodup hx, ih hxs, List.map_cons, List.sum_cons]

end Groups

/-- Weights that are scaled by a factor of their group. -/
theorem groupSum_scaled [DecidableEq κ] [Semiring K] (key : ι → κ) (w : ι → K) (s : κ → K)
    (xs : List ι) (k : κ) :
    groupSum key (fun x => w x * s (key x)) xs k = groupSum key w xs k * s k := by
  induction xs with
  | nil => exact (zero_mul _).symm
  | cons x xs ih =>
      rw [groupSum_cons, groupSum_cons, ih, add_mul]
      by_cases hk : key x = k
      · rw [if_pos hk, if_pos hk, hk]
      · rw [if_neg hk, if_neg hk, zero_mul]

section Ordered

variable [Field K] [LinearOrder K] [IsStrictOrderedRing K]

/-- A sum of positive numbers is positive, unless it is empty. -/
theorem sum_map_pos {w : ι → K} {xs : List ι} (hw : ∀ x ∈ xs, 0 < w x) (hne : xs ≠ []) :
    0 < (xs.map w).sum := by
  refine List.sum_pos _ (fun y hy => ?_) (mt List.map_eq_nil_iff.1 hne)
  obtain ⟨x, hx, rfl⟩ := List.mem_map.1 hy
  exact hw x hx

/-- A group that an item of positive weights is in. -/
theorem groupSum_pos [DecidableEq κ] (key : ι → κ) {w : ι → K} {xs : List ι}
    (hw : ∀ x ∈ xs, 0 < w x) {x : ι} (hx : x ∈ xs) : 0 < groupSum key w xs (key x) := by
  have hmem : x ∈ xs.filter fun y => decide (key y = key x) :=
    List.mem_filter.2 ⟨hx, decide_eq_true rfl⟩
  exact sum_map_pos (fun y hy => hw y (List.mem_filter.1 hy).1) (List.ne_nil_of_mem hmem)

/-! ### Means -/

/-- A lower bound of the values bounds the weighted sum. -/
theorem mul_sum_le {w v : ι → K} {xs : List ι} {lo : K} (hw : ∀ x ∈ xs, 0 ≤ w x)
    (hlo : ∀ x ∈ xs, lo ≤ v x) : lo * (xs.map w).sum ≤ (xs.map fun x => w x * v x).sum := by
  induction xs with
  | nil => exact le_of_eq (mul_zero lo)
  | cons x xs ih =>
      obtain ⟨hwx, hwxs⟩ := List.forall_mem_cons.1 hw
      obtain ⟨hlox, hloxs⟩ := List.forall_mem_cons.1 hlo
      have hrest := ih hwxs hloxs
      have hone : lo * w x ≤ w x * v x := by
        rw [mul_comm]
        exact mul_le_mul_of_nonneg_left hlox hwx
      rw [List.map_cons, List.map_cons, List.sum_cons, List.sum_cons, mul_add]
      exact add_le_add hone hrest

/-- An upper bound of the values bounds the weighted sum. -/
theorem sum_le_mul {w v : ι → K} {xs : List ι} {hi : K} (hw : ∀ x ∈ xs, 0 ≤ w x)
    (hhi : ∀ x ∈ xs, v x ≤ hi) : (xs.map fun x => w x * v x).sum ≤ hi * (xs.map w).sum := by
  induction xs with
  | nil => exact le_of_eq (mul_zero hi).symm
  | cons x xs ih =>
      obtain ⟨hwx, hwxs⟩ := List.forall_mem_cons.1 hw
      obtain ⟨hhix, hhixs⟩ := List.forall_mem_cons.1 hhi
      have hrest := ih hwxs hhixs
      have hone : w x * v x ≤ hi * w x := by
        rw [mul_comm hi]
        exact mul_le_mul_of_nonneg_left hhix hwx
      rw [List.map_cons, List.map_cons, List.sum_cons, List.sum_cons, mul_add]
      exact add_le_add hone hrest

/-! ### Caps -/

/-- **A cap at a part of the total** keeps every share within that part of what is left if and
only if it cuts nothing off. -/
theorem shares_le_iff (t : κ → K) (ks : List κ) {c : K} (hc : 0 < c) :
    (∀ k ∈ ks, min (t k) (c * (ks.map t).sum) ≤
        c * (ks.map fun k => min (t k) (c * (ks.map t).sum)).sum) ↔
      ∀ k ∈ ks, t k ≤ c * (ks.map t).sum := by
  have hle : ∀ k ∈ ks, min (t k) (c * (ks.map t).sum) ≤ t k := fun k _ => min_le_left _ _
  constructor
  · intro h k hk
    by_contra hlt
    rw [not_le] at hlt
    have hcut : min (t k) (c * (ks.map t).sum) = c * (ks.map t).sum := min_eq_right hlt.le
    -- what was cut off of `k` is missing in the sum
    have hless : (ks.map fun k => min (t k) (c * (ks.map t).sum)).sum < (ks.map t).sum :=
      List.sum_lt_sum _ _ hle ⟨k, hk, hcut.trans_lt hlt⟩
    have hshare := h k hk
    rw [hcut] at hshare
    exact absurd (le_of_mul_le_mul_left hshare hc) (not_le.2 hless)
  · intro h k hk
    have huncut : (ks.map fun k => min (t k) (c * (ks.map t).sum)) = ks.map t :=
      List.map_congr_left fun k hk => min_eq_left (h k hk)
    rw [huncut, min_eq_left (h k hk)]
    exact h k hk

end Ordered

end Lib
