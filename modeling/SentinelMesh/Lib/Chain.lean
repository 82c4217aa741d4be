/-
# Chains on a timeline that grows

Points may have a time.  Two are near if their times differ by less than a gap, and linked if a chain
of near points leads from one to the other: what clustering by gaps puts together.

A timeline grows by points that are not before any other.  Then no two points that were there become
linked (`linked_of_adds`): where a chain goes through the new points, what it comes from and what it
goes to are both less than a gap before them, and so near themselves.
-/

import Mathlib.Algebra.Order.Group.Unbundled.Int
import Mathlib.Logic.Relation

namespace Lib
namespace Chain

variable {ι : Type*} {time time' : ι → Option ℤ} {gap now : ℤ} {a b : ι}

/-- Two points whose times differ by less than the gap. -/
def Near (time : ι → Option ℤ) (gap : ℤ) (a b : ι) : Prop :=
  ∃ x y, time a = some x ∧ time b = some y ∧ x < y + gap ∧ y < x + gap

/-- Two points with a chain between them. -/
def Linked (time : ι → Option ℤ) (gap : ℤ) : ι → ι → Prop := Relation.ReflTransGen (Near time gap)

theorem Near.symm (h : Near time gap a b) : Near time gap b a := by
  obtain ⟨x, y, ha, hb, hxy, hyx⟩ := h
  exact ⟨y, x, hb, ha, hyx, hxy⟩

theorem Linked.symm (h : Linked time gap a b) : Linked time gap b a := by
  induction h with
  | refl => exact .refl
  | tail _ hnear ih => exact .head hnear.symm ih

/-- A point without a time is linked to no other. -/
theorem Linked.eq_of_none (ha : time a = none) (h : Linked time gap a b) : a = b := by
  rcases Relation.ReflTransGen.cases_head h with rfl | ⟨_, ⟨x, _, hx, _⟩, _⟩
  · rfl
  · rw [ha] at hx
    cases hx

/-- Every new point is of one time, and no point is after it. -/
structure Adds (time time' : ι → Option ℤ) (now : ℤ) : Prop where
  old : ∀ a x, time a = some x → time' a = some x ∧ x ≤ now
  new : ∀ a x, time a = none → time' a = some x → x = now

/-- **New points link no old ones.** -/
theorem linked_of_adds (h : Adds time time' now) (ha : time' a = time a) (hb : time' b = time b)
    (hlinked : Linked time' gap a b) : Linked time gap a b := by
  -- A chain that stops at a new point has left the old ones less than a gap before it.
  have hchain : ∀ z, Linked time' gap a z → (time' z = time z → Linked time gap a z) ∧
      (time' z ≠ time z → ∃ y t, Linked time gap a y ∧ time y = some t ∧ now < t + gap) := by
    intro z hz
    induction hz with
    | refl => exact ⟨fun _ => .refl, fun hne => absurd ha hne⟩
    | @tail y z _ hnear ih =>
        obtain ⟨t, u, ht, hu, htu, hut⟩ := hnear
        have hold : ∀ v x, time' v = some x → time' v = time v → time v = some x ∧ x ≤ now := by
          intro v x hx hsame
          rw [hsame] at hx
          exact ⟨hx, (h.old v x hx).2⟩
        have hnew : ∀ v x, time' v = some x → time' v ≠ time v → x = now := by
          intro v x hx hne
          cases hv : time v with
          | none => exact h.new v x hv hx
          | some x' => exact absurd ((h.old v x' hv).1.trans hv.symm) hne
        by_cases hy : time' y = time y
        · have hlinked := ih.1 hy
          obtain ⟨hty, htnow⟩ := hold y t ht hy
          refine ⟨fun hz => ?_, fun hz => ?_⟩
          · obtain ⟨huz, -⟩ := hold z u hu hz
            exact hlinked.tail ⟨t, u, hty, huz, htu, hut⟩
          · obtain rfl := hnew z u hu hz
            exact ⟨y, t, hlinked, hty, hut⟩
        · obtain ⟨y', t', hlinked, hy', hlate⟩ := ih.2 hy
          obtain rfl := hnew y t ht hy
          refine ⟨fun hz => ?_, fun _ => ⟨y', t', hlinked, hy', hlate⟩⟩
          obtain ⟨huz, hunow⟩ := hold z u hu hz
          have htnow := (h.old y' t' hy').2
          exact hlinked.tail ⟨t', u, hy', huz, by omega, by omega⟩
  exact (hchain b hlinked).1 hb

end Chain
end Lib
