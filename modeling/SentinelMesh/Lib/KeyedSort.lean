/-
# Sorting by a key

A list whose keys ascend strictly is known from what is in it (`Ascending.ext`).  A merge sort
compares an element only with those after it, so a comparison that is right about elements of
different keys sorts a list without a key twice (`ascending_mergeSort`), whatever it says of an
element and itself.
-/

import Mathlib.Data.List.Nodup
import Mathlib.Data.List.Sort

namespace Lib

variable {α κ : Type*}

/-! ### What a merge sort compares -/

/-- A merge compares the elements of one list with those of the other. -/
theorem merge_congr {r s : α → α → Bool} {xs ys : List α}
    (h : ∀ x ∈ xs, ∀ y ∈ ys, r x y = s x y) : xs.merge ys r = xs.merge ys s := by
  induction xs generalizing ys with
  | nil => rw [List.nil_merge, List.nil_merge]
  | cons x xs ihx =>
      induction ys with
      | nil => rw [List.merge_right, List.merge_right]
      | cons y ys ihy =>
          have hxy : r x y = s x y := h x List.mem_cons_self y List.mem_cons_self
          have htail : xs.merge (y :: ys) r = xs.merge (y :: ys) s :=
            ihx fun x' hx' => h x' (List.mem_cons_of_mem x hx')
          have hrest : (x :: xs).merge ys r = (x :: xs).merge ys s :=
            ihy fun x' hx' y' hy' => h x' hx' y' (List.mem_cons_of_mem y hy')
          rw [List.cons_merge_cons, List.cons_merge_cons, hxy, htail, hrest]

/-- **A merge sort compares an element with those after it.** -/
theorem mergeSort_congr {r s : α → α → Bool} {l : List α}
    (h : l.Pairwise fun a b => r a b = s a b) : l.mergeSort r = l.mergeSort s := by
  induction l, r using List.mergeSort.induct with
  | case1 r => rw [List.mergeSort_nil, List.mergeSort_nil]
  | case2 r a => rw [List.mergeSort_singleton, List.mergeSort_singleton]
  | case3 a b xs r lr _ _ ihl ihr =>
      have hsplit : lr.1.1 ++ lr.2.1 = a :: b :: xs :=
        List.MergeSort.Internal.splitInTwo_fst_append_splitInTwo_snd _
      rw [← hsplit, List.pairwise_append] at h
      obtain ⟨hl, hr, hcross⟩ := h
      rw [List.mergeSort, List.mergeSort]
      change (lr.1.1.mergeSort r).merge (lr.2.1.mergeSort r) r =
        (lr.1.1.mergeSort s).merge (lr.2.1.mergeSort s) s
      rw [ihl hl, ihr hr]
      exact merge_congr fun x hx y hy =>
        hcross x (List.mem_mergeSort.1 hx) y (List.mem_mergeSort.1 hy)

/-! ### Ascending lists -/

variable [LinearOrder κ] (key : α → κ)

/-- The keys ascend strictly. -/
def Ascending (l : List α) : Prop := l.Pairwise fun a b => key a < key b

variable {key}

/-- **An ascending list is known from what is in it.** -/
theorem Ascending.ext {l l' : List α} (h : Ascending key l) (h' : Ascending key l')
    (hmem : ∀ a, a ∈ l ↔ a ∈ l') : l = l' := by
  have hirrefl : Std.Irrefl fun a b : α => key a < key b := ⟨fun a => lt_irrefl (key a)⟩
  have hantisymm : Std.Antisymm fun a b : α => key a < key b :=
    ⟨fun _ _ hab hba => absurd hba hab.asymm⟩
  exact List.Pairwise.eq_of_mem_iff h h' hmem

/-- **A comparison that is right about different keys sorts a list without a key twice.** -/
theorem ascending_mergeSort {r : α → α → Bool}
    (hr : ∀ a b, key a ≠ key b → r a b = decide (key a ≤ key b)) {l : List α}
    (hnodup : (l.map key).Nodup) : Ascending key (l.mergeSort r) := by
  have hne : l.Pairwise fun a b => key a ≠ key b := List.pairwise_map.1 hnodup
  have hsame : l.mergeSort r = l.mergeSort fun a b => decide (key a ≤ key b) :=
    mergeSort_congr (hne.imp fun {a b} hab => hr a b hab)
  have hle : (l.mergeSort fun a b => decide (key a ≤ key b)).Pairwise
      fun a b => decide (key a ≤ key b) = true :=
    List.pairwise_mergeSort
      (fun a b c hab hbc => decide_eq_true ((of_decide_eq_true hab).trans (of_decide_eq_true hbc)))
      (fun a b => by
        rw [Bool.or_eq_true, decide_eq_true_eq, decide_eq_true_eq]
        exact le_total (key a) (key b)) l
  have hdistinct : (l.mergeSort fun a b => decide (key a ≤ key b)).Pairwise
      fun a b => key a ≠ key b :=
    List.pairwise_map.1 (((List.mergeSort_perm l _).map key).nodup_iff.2 hnodup)
  rw [hsame]
  exact (hle.and hdistinct).imp fun {a b} hab => lt_of_le_of_ne (of_decide_eq_true hab.1) hab.2

end Lib
