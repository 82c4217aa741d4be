/-
# Groups of a list

The elements of a list by a key, in a table that is filled one element at a time: a key that is new gets
a row at the end, one that is there a longer row.  Each element is in one group (`perm_groups`), and the
group of a key is what the list has under it, in order (`find?_groups`).  What is counted under each of
some keys is counted under any of them (`sum_countP`).
-/

import Mathlib.Algebra.GroupWithZero.Nat
import Mathlib.Data.List.Induction
import Mathlib.Data.List.Perm.Basic
import SentinelMesh.Lib.Table

namespace Lib
namespace Groups

variable {α κ : Type} [DecidableEq κ]

/-- The table with one more element. -/
def add (key : α → κ) (t : Table κ (List α)) (x : α) : Table κ (List α) :=
  t.upsert (key x) [x] (· ++ [x])

/-- The groups of a list. -/
def groups (key : α → κ) (xs : List α) : Table κ (List α) := xs.foldl (add key) Table.empty

theorem groups_concat (key : α → κ) (xs : List α) (x : α) :
    groups key (xs ++ [x]) = add key (groups key xs) x :=
  List.foldl_append

/-- One more element is one more in one group. -/
theorem perm_add (key : α → κ) (t : Table κ (List α)) (x : α) :
    ((add key t x).rows.flatMap Prod.snd).Perm (t.rows.flatMap Prod.snd ++ [x]) := by
  unfold add Table.upsert
  cases hrow : t.find? (key x) with
  | none =>
      dsimp only
      rw [Table.rows_insert _ hrow, List.flatMap_append, List.flatMap_singleton]
  | some ys =>
      dsimp only
      obtain ⟨before, after, hrows⟩ := List.append_of_mem (Table.find?_eq_some_iff.1 hrow)
      have hnodup := t.nodup
      rw [hrows, List.map_append, List.map_cons, List.nodup_append] at hnodup
      obtain ⟨-, hafter, hbefore⟩ := hnodup
      -- no other row has the key
      have hothers : ∀ rs : List (κ × List α), (∀ r ∈ rs, r.1 ≠ key x) →
          rs.map (fun r => if r.1 = key x then (r.1, r.2 ++ [x]) else r) = rs := by
        intro rs hrs
        exact (List.map_congr_left fun r hr => if_neg (hrs r hr)).trans (List.map_id rs)
      have hmodified : (t.modify (key x) (· ++ [x])).rows = before ++ (key x, ys ++ [x]) :: after := by
        unfold Table.modify
        dsimp only
        rw [hrows, List.map_append, List.map_cons, if_pos rfl]
        have hsecond : ∀ r ∈ after, r.1 ≠ key x := by
          intro r hr heq
          have hkey := List.mem_map_of_mem (f := Prod.fst) hr
          rw [heq] at hkey
          exact (List.nodup_cons.1 hafter).1 hkey
        rw [hothers after hsecond,
          hothers before fun r hr => hbefore r.1 (List.mem_map_of_mem hr) (key x) List.mem_cons_self]
      rw [hmodified, hrows]
      simp only [List.flatMap_append, List.flatMap_cons, List.append_assoc]
      refine List.Perm.append_left _ (List.Perm.append_left _ ?_)
      exact List.perm_append_comm

/-- **Each element is in one group.** -/
theorem perm_groups (key : α → κ) (xs : List α) :
    ((groups key xs).rows.flatMap Prod.snd).Perm xs := by
  induction xs using List.reverseRecOn with
  | nil => exact List.Perm.nil
  | append_singleton xs x ih =>
      rw [groups_concat]
      exact (perm_add key _ x).trans (ih.append_right [x])

/-- **The group of a key**: what the list has under it, if there is any. -/
theorem find?_groups (key : α → κ) (xs : List α) (k : κ) :
    (groups key xs).find? k =
      if xs.filter (fun x => decide (key x = k)) = [] then none
      else some (xs.filter fun x => decide (key x = k)) := by
  induction xs using List.reverseRecOn with
  | nil => rfl
  | append_singleton xs x ih =>
      rw [groups_concat]
      unfold add
      rw [Table.find?_upsert, List.filter_append]
      by_cases hk : k = key x
      · subst hk
        rw [if_pos rfl, ih, List.filter_cons_of_pos (by simp), List.filter_nil]
        by_cases hempty : xs.filter (fun y => decide (key y = key x)) = []
        · rw [if_pos hempty, hempty]
          simp
        · rw [if_neg hempty, if_neg (by simp)]
          rfl
      · rw [if_neg hk, ih, List.filter_cons_of_neg (by simpa using Ne.symm hk), List.filter_nil,
          List.append_nil]

/-- Two elements are in one group exactly if they have one key. -/
theorem mem_row_iff {key : α → κ} {xs : List α} {r : κ × List α} (hr : r ∈ (groups key xs).rows) {x : α} :
    x ∈ r.2 ↔ x ∈ xs ∧ key x = r.1 := by
  have hfind := find?_groups key xs r.1
  rw [Table.find?_eq_some_iff.2 hr] at hfind
  split_ifs at hfind
  rw [Option.some.inj hfind, List.mem_filter, decide_eq_true_iff]

theorem row_ne_nil {key : α → κ} {xs : List α} {r : κ × List α} (hr : r ∈ (groups key xs).rows) :
    r.2 ≠ [] := by
  have hfind := find?_groups key xs r.1
  rw [Table.find?_eq_some_iff.2 hr] at hfind
  split_ifs at hfind with hempty
  rw [Option.some.inj hfind]
  exact hempty

omit [DecidableEq κ] in
/-- At most one key of a duplicate-free list is such. -/
theorem sum_one {ks : List κ} (hks : ks.Nodup) {p : κ → Bool}
    (h : ∀ k k', p k = true → p k' = true → k = k') :
    (ks.map fun k => if p k = true then 1 else 0).sum = if ks.any p = true then 1 else 0 := by
  induction ks with
  | nil => rfl
  | cons k ks ih =>
      rw [List.nodup_cons] at hks
      rw [List.map_cons, List.sum_cons, ih hks.2, List.any_cons]
      by_cases hk : p k = true
      · have hrest : ks.any p = false := by
          rw [List.any_eq_false]
          intro k' hk' hp
          exact hks.1 (h k k' hk hp ▸ hk')
        simp [hk, hrest]
      · simp [hk]

omit [DecidableEq κ] in
/-- **Counts add up over keys**, where nothing has two of them. -/
theorem sum_countP {ks : List κ} (hks : ks.Nodup) {p : κ → α → Bool} {xs : List α}
    (h : ∀ x ∈ xs, ∀ k k', p k x = true → p k' x = true → k = k') :
    (ks.map fun k => xs.countP (p k)).sum = xs.countP fun x => ks.any fun k => p k x := by
  induction xs with
  | nil => simp
  | cons x xs ih =>
      rw [List.forall_mem_cons] at h
      simp only [List.countP_cons, List.sum_map_add, ih h.2, sum_one hks h.1]

end Groups
end Lib
