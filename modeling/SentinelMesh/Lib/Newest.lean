/-
# A store that keeps the newest

A store has at most one item under each key.  An update is put where the store has no item of its
key; else the store compares its time with that of the item there, and keeps that or merges the
update into it.  Items of other keys stay, or are dropped.

The comparison `before` need not be the order of the times.  `newest_iff` is that the items are
always those of the newest updates exactly if each update is compared with the newest before it as
the order says, and an update whose item has been dropped is not older than one that came before;
`newest_iff_of_kept` is the same of a store that drops nothing.
-/

import SentinelMesh.Lib.Run
import Mathlib.Order.Lattice

namespace Lib

/-- A store of items under keys that updates are put into.  `isOf i u` is that the item is what the
update made it, and `before` what the store takes for the order of times. -/
structure Keeper (σ υ κ ι T : Type) [LinearOrder T] where
  step : σ → υ → σ
  item : σ → κ → Option ι
  key : υ → κ
  time : υ → T
  isOf : ι → υ → Prop
  before : T → T → Prop
  before_irrefl : ∀ t, ¬ before t t
  /-- An item says of which time it is. -/
  time_eq : ∀ {i u v}, isOf i u → isOf i v → time u = time v
  put : ∀ {s u}, item s (key u) = none → ∃ i, item (step s u) (key u) = some i ∧ isOf i u
  keep : ∀ {s u v i}, item s (key u) = some i → isOf i v → before (time u) (time v) →
    item (step s u) (key u) = some i
  merge : ∀ {s u v i}, item s (key u) = some i → isOf i v → ¬ before (time u) (time v) →
    ∃ i', item (step s u) (key u) = some i' ∧ isOf i' u
  other : ∀ {s u k}, k ≠ key u → item (step s u) k = item s k ∨ item (step s u) k = none

namespace Keeper

variable {σ υ κ ι T : Type} [LinearOrder T] (S : Keeper σ υ κ ι T)

/-- No update of the key is newer. -/
def IsNewest (h : List υ) (k : κ) (u : υ) : Prop :=
  u ∈ h ∧ S.key u = k ∧ ∀ v ∈ h, S.key v = k → S.time v ≤ S.time u

/-- Each item is that of the newest of the updates of its key. -/
def Newest (h : List υ) (s : σ) : Prop :=
  ∀ k i, S.item s k = some i → ∃ u, S.IsNewest h k u ∧ S.isOf i u

/-- The store compares an update with one that came before it as the order of the times says. -/
def Agrees (u v : υ) : Prop := S.before (S.time u) (S.time v) ↔ S.time u < S.time v

/-- After the updates `h`, the next one is compared rightly with the newest of its key; or, where
the store has nothing to compare it with, none of them is newer. -/
def InOrder (h : List υ) (s : σ) (u : υ) : Prop :=
  if (S.item s (S.key u)).isSome then ∀ v, S.IsNewest h (S.key u) v → S.Agrees u v
  else ∀ v ∈ h, S.key v = S.key u → S.time v ≤ S.time u

/-- Each of the updates is in order after those before it. -/
def AllInOrder (s : σ) (us : List υ) : Prop :=
  ∀ vs u ws, us = vs ++ u :: ws → S.InOrder vs (run S.step s vs) u

variable {S} {h : List υ} {s : σ} {u v : υ} {k : κ}

/-- An update that is not older than the newest is the newest. -/
theorem isNewest_concat (hle : ∀ v ∈ h, S.key v = S.key u → S.time v ≤ S.time u) :
    S.IsNewest (h ++ [u]) (S.key u) u := by
  refine ⟨by simp, rfl, fun v hv hkey => ?_⟩
  rcases List.mem_append.1 hv with hv | hv
  · exact hle v hv hkey
  · rw [List.mem_singleton.1 hv]

/-- An update that is older, or of another key, leaves the newest. -/
theorem IsNewest.concat (hv : S.IsNewest h k v) (hle : S.key u = k → S.time u ≤ S.time v) :
    S.IsNewest (h ++ [u]) k v := by
  obtain ⟨hmem, hkey, hmax⟩ := hv
  refine ⟨List.mem_append_left _ hmem, hkey, fun w hw hwkey => ?_⟩
  rcases List.mem_append.1 hw with hw | hw
  · exact hmax w hw hwkey
  · obtain rfl := List.mem_singleton.1 hw
    exact hle hwkey

/-- **An update in order keeps the newest.** -/
theorem newest_step (hnew : S.Newest h s) (horder : S.InOrder h s u) :
    S.Newest (h ++ [u]) (S.step s u) := by
  intro k i hi
  unfold InOrder at horder
  by_cases hk : k = S.key u
  · subst hk
    cases hitem : S.item s (S.key u) with
    | none =>
        obtain ⟨i', hi', hof⟩ := S.put hitem
        obtain rfl := Option.some.inj (hi.symm.trans hi')
        rw [hitem, if_neg (by simp)] at horder
        exact ⟨u, isNewest_concat horder, hof⟩
    | some j =>
        obtain ⟨v, hv, hof⟩ := hnew _ _ hitem
        rw [hitem, if_pos (by simp)] at horder
        have hagrees := horder v hv
        by_cases holder : S.before (S.time u) (S.time v)
        · obtain rfl := Option.some.inj (hi.symm.trans (S.keep hitem hof holder))
          exact ⟨v, hv.concat fun _ => (hagrees.1 holder).le, hof⟩
        · obtain ⟨i', hi', hof'⟩ := S.merge hitem hof holder
          obtain rfl := Option.some.inj (hi.symm.trans hi')
          have hle : S.time v ≤ S.time u := not_lt.1 fun hlt => holder (hagrees.2 hlt)
          exact ⟨u, isNewest_concat fun w hw hkey => (hv.2.2 w hw hkey).trans hle, hof'⟩
  · have hsame : S.item s k = some i := by
      rcases S.other (s := s) hk with hsame | hnone
      · rw [← hsame, hi]
      · exact nomatch hi.symm.trans hnone
    obtain ⟨v, hv, hof⟩ := hnew k i hsame
    exact ⟨v, hv.concat fun hkey => absurd hkey.symm hk, hof⟩

/-- **An update out of order loses the newest.** -/
theorem inOrder_of_newest (hnew : S.Newest h s) (hafter : S.Newest (h ++ [u]) (S.step s u)) :
    S.InOrder h s u := by
  have hmem : u ∈ h ++ [u] := by simp
  unfold InOrder
  cases hitem : S.item s (S.key u) with
  | none =>
      rw [if_neg (by simp)]
      intro v hv hkey
      obtain ⟨i, hi, hof⟩ := S.put hitem
      obtain ⟨w, hw, hofw⟩ := hafter _ _ hi
      rw [S.time_eq hof hofw]
      exact hw.2.2 v (List.mem_append_left _ hv) hkey
  | some i =>
      rw [if_pos (by simp)]
      intro v hv
      obtain ⟨v', hv', hof⟩ := hnew _ _ hitem
      have htime : S.time v = S.time v' :=
        le_antisymm (hv'.2.2 v hv.1 hv.2.1) (hv.2.2 v' hv'.1 hv'.2.1)
      unfold Agrees
      rw [htime]
      constructor
      · intro holder
        obtain ⟨w, hw, hofw⟩ := hafter _ _ (S.keep hitem hof holder)
        have hle : S.time u ≤ S.time v' := S.time_eq hofw hof ▸ hw.2.2 u hmem rfl
        refine lt_of_le_of_ne hle fun heq => S.before_irrefl (S.time v') ?_
        rwa [heq] at holder
      · intro hlt
        by_contra holder
        obtain ⟨i', hi', hofu⟩ := S.merge hitem hof holder
        obtain ⟨w, hw, hofw⟩ := hafter _ _ hi'
        have hle : S.time v' ≤ S.time u :=
          S.time_eq hofw hofu ▸ hw.2.2 v' (List.mem_append_left _ hv'.1) hv'.2.1
        exact hlt.not_ge hle

/-- **When the newest is kept.**  From a store without items, the items are those of the newest
updates at every point of a run exactly if every update is in order. -/
theorem newest_iff (hempty : ∀ k, S.item s k = none) (us : List υ) :
    (∀ vs ws, us = vs ++ ws → S.Newest vs (run S.step s vs)) ↔ S.AllInOrder s us := by
  constructor
  · intro hnew vs u ws hus
    have hbefore := hnew vs (u :: ws) hus
    have hafter := hnew (vs ++ [u]) ws (by rw [hus, List.append_assoc, List.singleton_append])
    rw [run_concat] at hafter
    exact inOrder_of_newest hbefore hafter
  · intro horder vs
    induction vs using List.reverseRecOn with
    | nil =>
        intro ws _ k i hi
        exact nomatch (hempty k).symm.trans hi
    | append_singleton vs u ih =>
        intro ws hus
        have hus' : us = vs ++ u :: ws := by rw [hus, List.append_assoc, List.singleton_append]
        rw [run_concat]
        exact newest_step (ih (u :: ws) hus') (horder vs u ws hus')

/-- **When the newest is kept** by a store that drops nothing. -/
theorem newest_iff_of_kept (hempty : ∀ k, S.item s k = none)
    (hkept : ∀ {vs v}, v ∈ vs → (S.item (run S.step s vs) (S.key v)).isSome) (us : List υ) :
    (∀ vs ws, us = vs ++ ws → S.Newest vs (run S.step s vs)) ↔
      ∀ vs u ws, us = vs ++ u :: ws → ∀ v, S.IsNewest vs (S.key u) v → S.Agrees u v := by
  rw [newest_iff hempty]
  refine forall₄_congr fun vs u ws _ => ?_
  unfold InOrder
  split_ifs with hitem
  · exact Iff.rfl
  · have hnot : ∀ v ∈ vs, S.key v ≠ S.key u := fun v hv hkey => hitem (hkey ▸ hkept hv)
    exact ⟨fun _ v hv => absurd hv.2.1 (hnot v hv.1), fun _ v hv hkey => absurd hkey (hnot v hv)⟩

end Keeper
end Lib
