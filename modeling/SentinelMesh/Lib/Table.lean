/-
# Tables with a key

A table is a list of rows, each a key and the values of its other columns, in
which no key occurs twice: the uniqueness constraint of the key is a field of
the table and not a hypothesis of what is proved about it.

The operations are the statements a relational program makes on one table:
`find?` is `SELECT ... WHERE key = k`, `insert` is
`INSERT ... ON CONFLICT DO NOTHING`, `upsert` is
`INSERT ... ON CONFLICT DO UPDATE`, `modify` is `UPDATE ... WHERE key = k`,
`modifyEach` is a loop of updates, `map` is `UPDATE` of every row, `filter` keeps the rows that
`DELETE ... WHERE NOT p` keeps, and `count` and `sum` are aggregates.  Each has
one lemma per question a caller asks: which row a key has afterwards
(`find?_insert`, `find?_upsert`, `find?_modify`, `find?_filter`) and how an
aggregate moved (`sum_insert`, `sum_modify`, `count_insert`, `count_modify`).
-/

import Mathlib.Algebra.BigOperators.Group.List.Basic
import Mathlib.Data.List.Nodup
import Mathlib.Tactic.SplitIfs

namespace Lib

/-- Rows under a key, no key twice. -/
structure Table (κ ν : Type*) where
  rows : List (κ × ν)
  nodup : (rows.map Prod.fst).Nodup

namespace Table

variable {κ ν M : Type*}

@[ext] theorem ext {s t : Table κ ν} (h : s.rows = t.rows) : s = t := by
  cases s; cases t; cases h; rfl

instance [DecidableEq κ] [DecidableEq ν] : DecidableEq (Table κ ν) := fun s t =>
  decidable_of_iff (s.rows = t.rows) ⟨ext, fun h => h ▸ rfl⟩

/-- The table without rows. -/
def empty : Table κ ν := ⟨[], List.nodup_nil⟩

instance : Inhabited (Table κ ν) := ⟨empty⟩

/-- The number of rows that satisfy `p`. -/
def count (t : Table κ ν) (p : κ → ν → Bool) : ℕ := t.rows.countP fun r => p r.1 r.2

/-- The sum of `g` over the rows. -/
def sum [AddCommMonoid M] (t : Table κ ν) (g : κ → ν → M) : M :=
  (t.rows.map fun r => g r.1 r.2).sum

/-- The rows that satisfy `p`. -/
def filter (t : Table κ ν) (p : κ → ν → Bool) : Table κ ν :=
  ⟨t.rows.filter fun r => p r.1 r.2, t.nodup.sublist (List.filter_sublist.map _)⟩

/-- The table with `f` applied to every row. -/
def map (t : Table κ ν) (f : κ → ν → ν) : Table κ ν where
  rows := t.rows.map fun r => (r.1, f r.1 r.2)
  nodup := by
    rw [List.map_map]
    exact t.nodup

variable [DecidableEq κ]

/-- The row of the key `k`. -/
def find? (t : Table κ ν) (k : κ) : Option ν := t.rows.lookup k

/-- The table with `f` applied to the row of the key `k`. -/
def modify (t : Table κ ν) (k : κ) (f : ν → ν) : Table κ ν where
  rows := t.rows.map fun r => if r.1 = k then (r.1, f r.2) else r
  nodup := by
    rw [List.map_map, show Prod.fst ∘ (fun r : κ × ν => if r.1 = k then (r.1, f r.2) else r) =
      Prod.fst from funext fun r => by simp only [Function.comp]; split <;> rfl]
    exact t.nodup

/-- One modification after the other: `f a` on the row of the key of `a`, for every
`a` of the list. -/
def modifyEach {α : Type*} (t : Table κ ν) (as : List α) (key : α → κ) (f : α → ν → ν) :
    Table κ ν :=
  as.foldl (fun t a => t.modify (key a) (f a)) t

/-- The table with the row `v` under the key `k`, unless the key has one. -/
def insert (t : Table κ ν) (k : κ) (v : ν) : Table κ ν :=
  if h : k ∈ t.rows.map Prod.fst then t
  else ⟨t.rows ++ [(k, v)], by
    rw [List.map_append, List.nodup_append]
    exact ⟨t.nodup, List.nodup_singleton _, fun a ha b hb hab => h (by
      obtain rfl : b = k := by simpa using hb
      exact hab ▸ ha)⟩⟩

/-- The table with the row `v` under the key `k`, or with `f` applied to the row the
key has. -/
def upsert (t : Table κ ν) (k : κ) (v : ν) (f : ν → ν) : Table κ ν := match t.find? k with
  | none => t.insert k v
  | some _ => t.modify k f

@[simp] theorem find?_empty (k : κ) : (empty : Table κ ν).find? k = none := rfl

omit [DecidableEq κ] in
@[simp] theorem rows_empty : (empty : Table κ ν).rows = [] := rfl

/-- A key has at most the rows of the list. -/
theorem find?_eq_some_iff {t : Table κ ν} {k : κ} {v : ν} :
    t.find? k = some v ↔ (k, v) ∈ t.rows := by
  obtain ⟨rows, hnd⟩ := t
  unfold find?
  dsimp only
  induction rows with
  | nil => simp
  | cons r rows ih =>
      obtain ⟨k', v'⟩ := r
      rw [List.map_cons, List.nodup_cons] at hnd
      by_cases hk : k = k'
      · subst hk
        have hno : (k, v) ∉ rows := fun h => hnd.1 (List.mem_map.2 ⟨(k, v), h, rfl⟩)
        simp [hno, eq_comm]
      · have hb : (k == k') = false := by simpa using hk
        simp [List.lookup_cons, hb, hk, ih hnd.2]

theorem find?_eq_none_iff {t : Table κ ν} {k : κ} :
    t.find? k = none ↔ k ∉ t.rows.map Prod.fst := by
  constructor
  · intro h hk
    obtain ⟨⟨k', v⟩, hr, rfl⟩ := List.mem_map.1 hk
    rw [find?_eq_some_iff.2 hr] at h
    cases h
  · intro h
    cases hf : t.find? k with
    | none => rfl
    | some v => exact absurd (List.mem_map_of_mem (find?_eq_some_iff.1 hf)) h

theorem rows_insert {t : Table κ ν} {k : κ} (v : ν) (h : t.find? k = none) :
    (t.insert k v).rows = t.rows ++ [(k, v)] := by
  unfold insert
  rw [dif_neg (find?_eq_none_iff.1 h)]

theorem insert_of_find? {t : Table κ ν} {k : κ} (v : ν) {w : ν} (h : t.find? k = some w) :
    t.insert k v = t := by
  unfold insert
  rw [dif_pos (List.mem_map_of_mem (find?_eq_some_iff.1 h))]

/-- After an insertion the key has its old row, or the new one if it had none. -/
@[simp] theorem find?_insert (t : Table κ ν) (k k' : κ) (v : ν) :
    (t.insert k v).find? k' = if k' = k then some ((t.find? k).getD v) else t.find? k' := by
  cases hk : t.find? k with
  | some w =>
      rw [insert_of_find? v hk]
      split_ifs with h
      · rw [h, hk]; rfl
      · rfl
  | none =>
      refine Option.ext fun w => ?_
      rw [find?_eq_some_iff, rows_insert v hk, List.mem_append, ← find?_eq_some_iff]
      split_ifs with h
      · subst h
        simp [hk, eq_comm]
      · simp [h]

/-- A modification changes the row of its key and no other. -/
@[simp] theorem find?_modify (t : Table κ ν) (k k' : κ) (f : ν → ν) :
    (t.modify k f).find? k' = if k' = k then (t.find? k).map f else t.find? k' := by
  refine Option.ext fun w => ?_
  rw [find?_eq_some_iff]
  simp only [modify, List.mem_map]
  split_ifs with h
  · subst h
    rw [Option.map_eq_some_iff]
    constructor
    · rintro ⟨⟨k₀, v₀⟩, hr, he⟩
      by_cases hk : k₀ = k'
      · subst hk
        simp only [if_true, Prod.mk.injEq, true_and] at he
        exact ⟨v₀, find?_eq_some_iff.2 hr, he⟩
      · rw [if_neg hk] at he
        exact absurd (congrArg Prod.fst he) hk
    · rintro ⟨v₀, hv, rfl⟩
      exact ⟨(k', v₀), find?_eq_some_iff.1 hv, by simp⟩
  · rw [find?_eq_some_iff]
    constructor
    · rintro ⟨⟨k₀, v₀⟩, hr, he⟩
      by_cases hk : k₀ = k
      · simp only [hk, if_true, Prod.mk.injEq] at he
        exact absurd he.1.symm h
      · simp only [hk, if_false, Prod.mk.injEq] at he
        obtain ⟨rfl, rfl⟩ := he
        exact hr
    · intro hr
      exact ⟨(k', w), hr, by simp [h]⟩

/-- An upsert changes the row of its key and no other. -/
@[simp] theorem find?_upsert (t : Table κ ν) (k k' : κ) (v : ν) (f : ν → ν) :
    (t.upsert k v f).find? k' = if k' = k then some ((t.find? k).elim v f) else t.find? k' := by
  unfold upsert
  cases hk : t.find? k with
  | none =>
      dsimp only
      rw [find?_insert, hk]
      rfl
  | some w =>
      dsimp only
      rw [find?_modify, hk]
      rfl

/-- The table with the row `v` under the key `k`, whatever row the key has. -/
def put (t : Table κ ν) (k : κ) (v : ν) : Table κ ν := t.upsert k v fun _ => v

@[simp] theorem find?_put (t : Table κ ν) (k k' : κ) (v : ν) :
    (t.put k v).find? k' = if k' = k then some v else t.find? k' := by
  unfold put
  rw [find?_upsert]
  cases t.find? k <;> rfl

/-- The table with the rows of `own` in place of those with the same keys. -/
def overlay (t own : Table κ ν) : Table κ ν := own.rows.foldl (fun t r => t.put r.1 r.2) t

@[simp] theorem find?_overlay (t own : Table κ ν) (k : κ) :
    (t.overlay own).find? k = (own.find? k).or (t.find? k) := by
  obtain ⟨rows, hnodup⟩ := own
  unfold overlay find?
  dsimp only
  induction rows generalizing t with
  | nil => rfl
  | cons r rows ih =>
      rw [List.map_cons, List.nodup_cons] at hnodup
      rw [List.foldl_cons]
      refine (ih (t.put r.1 r.2) hnodup.2).trans ?_
      rw [show List.lookup k (t.put r.1 r.2).rows = _ from find?_put t r.1 k r.2, List.lookup_cons]
      by_cases hk : k = r.1
      · subst hk
        have hno : List.lookup r.1 rows = none := by
          rw [List.lookup_eq_none_iff]
          intro q hq
          simp only [bne_iff_ne, ne_eq]
          rintro heq
          exact hnodup.1 (heq ▸ List.mem_map_of_mem hq)
        rw [hno, if_pos rfl, beq_self_eq_true]
        rfl
      · rw [if_neg hk, beq_false_of_ne hk]
        rfl

/-- A modification depends on what it does to the row of its key alone. -/
theorem modify_congr {t : Table κ ν} {k : κ} {f g : ν → ν}
    (h : ∀ v, t.find? k = some v → f v = g v) : t.modify k f = t.modify k g := by
  refine ext (List.map_congr_left fun r hr => ?_)
  split_ifs with hk
  · rw [h r.2 (find?_eq_some_iff.2 (hk ▸ hr))]
  · rfl

theorem modify_modify (t : Table κ ν) (k : κ) (f g : ν → ν) :
    (t.modify k f).modify k g = t.modify k fun v => g (f v) := by
  refine ext ?_
  simp only [modify, List.map_map]
  refine List.map_congr_left fun r _ => ?_
  by_cases hk : r.1 = k <;> simp [hk]

/-- A modification that leaves the row of its key as it is changes nothing. -/
theorem modify_eq_self {t : Table κ ν} {k : κ} {f : ν → ν}
    (h : ∀ v, t.find? k = some v → f v = v) : t.modify k f = t := by
  refine ext ((List.map_congr_left fun r hr => ?_).trans (List.map_id _))
  split_ifs with hk
  · rw [h r.2 (find?_eq_some_iff.2 (hk ▸ hr))]
    rfl
  · rfl

theorem modify_of_find? {t : Table κ ν} {k : κ} (f : ν → ν) (h : t.find? k = none) :
    t.modify k f = t :=
  modify_eq_self fun v hv => by
    rw [h] at hv
    cases hv

@[simp] theorem find?_filter (t : Table κ ν) (p : κ → ν → Bool) (k : κ) :
    (t.filter p).find? k = (t.find? k).filter (p k) := by
  refine Option.ext fun w => ?_
  rw [find?_eq_some_iff, Option.filter_eq_some_iff, find?_eq_some_iff]
  simp [filter]

/-- A row goes through the modifications of its key, in order. -/
@[simp] theorem find?_map (t : Table κ ν) (f : κ → ν → ν) (k : κ) :
    (t.map f).find? k = (t.find? k).map (f k) := by
  cases hk : t.find? k with
  | none =>
      rw [find?_eq_none_iff] at hk
      rw [Option.map_none, find?_eq_none_iff]
      unfold map
      rw [List.map_map]
      exact hk
  | some v =>
      rw [find?_eq_some_iff] at hk
      rw [Option.map_some, find?_eq_some_iff]
      exact List.mem_map.2 ⟨(k, v), hk, rfl⟩

omit [DecidableEq κ] in
theorem rows_map (t : Table κ ν) (f : κ → ν → ν) :
    (t.map f).rows = t.rows.map fun r => (r.1, f r.1 r.2) := rfl

omit [DecidableEq κ] in
theorem map_map (t : Table κ ν) (f g : κ → ν → ν) :
    (t.map f).map g = t.map fun k v => g k (f k v) := by
  ext1
  rw [rows_map, rows_map, rows_map, List.map_map]
  rfl

theorem map_insert (t : Table κ ν) (k : κ) (v : ν) (f : κ → ν → ν) :
    (t.insert k v).map f = (t.map f).insert k (f k v) := by
  cases hfind : t.find? k with
  | some w =>
      have hmap : (t.map f).find? k = some (f k w) := by rw [find?_map, hfind, Option.map_some]
      rw [insert_of_find? v hfind, insert_of_find? _ hmap]
  | none =>
      have hmap : (t.map f).find? k = none := by rw [find?_map, hfind, Option.map_none]
      ext1
      rw [rows_insert _ hmap, rows_map, rows_insert v hfind, List.map_append, rows_map]
      rfl

theorem find?_modifyEach {α : Type*} (t : Table κ ν) (as : List α) (key : α → κ) (f : α → ν → ν)
    (k : κ) : (t.modifyEach as key f).find? k =
      (t.find? k).map fun v => (as.filter fun a => decide (key a = k)).foldl (fun v a => f a v) v := by
  unfold modifyEach
  induction as generalizing t with
  | nil => simp
  | cons a as ih =>
      rw [List.foldl_cons, ih, find?_modify]
      by_cases hk : key a = k
      · rw [if_pos hk.symm, hk, Option.map_map, List.filter_cons_of_pos (by simpa using hk)]
        rfl
      · rw [if_neg fun h => hk h.symm, List.filter_cons_of_neg (by simpa using hk)]

/-- A key has at most one row. -/
theorem count_key_le_one (t : Table κ ν) (k : κ) : t.count (fun k' _ => decide (k' = k)) ≤ 1 := by
  have h := List.nodup_iff_count_le_one.1 t.nodup k
  rw [List.count, List.countP_map] at h
  exact h

omit [DecidableEq κ] in
/-- A count of keys looks at the keys alone. -/
theorem count_eq_countP_keys (t : Table κ ν) (p : κ → Bool) :
    t.count (fun k _ => p k) = (t.rows.map Prod.fst).countP p := by
  unfold count
  rw [List.countP_map]
  rfl

omit [DecidableEq κ] in
theorem count_filter_le (t : Table κ ν) (p q : κ → ν → Bool) : (t.filter q).count p ≤ t.count p :=
  List.Sublist.countP_le List.filter_sublist

theorem keys_modify (t : Table κ ν) (k : κ) (f : ν → ν) :
    (t.modify k f).rows.map Prod.fst = t.rows.map Prod.fst := by
  unfold modify
  rw [List.map_map]
  refine List.map_congr_left fun r _ => ?_
  simp only [Function.comp]
  split <;> rfl

theorem keys_modifyEach {α : Type*} (t : Table κ ν) (as : List α) (key : α → κ)
    (f : α → ν → ν) : (t.modifyEach as key f).rows.map Prod.fst = t.rows.map Prod.fst := by
  unfold modifyEach
  induction as generalizing t with
  | nil => rfl
  | cons a as ih => rw [List.foldl_cons, ih, keys_modify]

section Aggregates

variable [AddCommMonoid M]

omit [DecidableEq κ] in
theorem count_eq_sum (t : Table κ ν) (p : κ → ν → Bool) :
    t.count p = t.sum fun k v => if p k v then 1 else 0 := by
  unfold count sum
  induction t.rows with
  | nil => rfl
  | cons r rows ih => rw [List.countP_cons, ih, List.map_cons, List.sum_cons, add_comm]

theorem sum_insert {t : Table κ ν} {k : κ} (h : t.find? k = none) (v : ν) (g : κ → ν → M) :
    (t.insert k v).sum g = t.sum g + g k v := by
  unfold sum
  rw [rows_insert v h]
  simp

theorem count_insert {t : Table κ ν} {k : κ} (h : t.find? k = none) (v : ν) (p : κ → ν → Bool) :
    (t.insert k v).count p = t.count p + if p k v then 1 else 0 := by
  rw [count_eq_sum, count_eq_sum, sum_insert h]

/-- A modification moves a sum by the difference of one term, also when the
summand changes with it at that key. -/
theorem sum_modify {t : Table κ ν} {k : κ} {v : ν} (h : t.find? k = some v) (f : ν → ν)
    {g e : κ → ν → M} (hg : ∀ k' v', k' ≠ k → e k' v' = g k' v') :
    (t.modify k f).sum e + g k v = t.sum g + e k (f v) := by
  obtain ⟨rows, hnd⟩ := t
  rw [find?_eq_some_iff] at h
  simp only [sum, modify] at h ⊢
  induction rows with
  | nil => simp at h
  | cons r rows ih =>
      rw [List.map_cons, List.nodup_cons] at hnd
      rcases List.mem_cons.1 h with rfl | h
      · -- the row is the first one, and no later row has its key
        have hne : ∀ r ∈ rows, r.1 ≠ k := fun r hr he => hnd.1 (List.mem_map.2 ⟨r, hr, he⟩)
        have hrest : rows.map (fun r => if r.1 = k then (r.1, f r.2) else r) = rows :=
          (List.map_congr_left fun r hr => if_neg (hne r hr)).trans (List.map_id rows)
        have hsum : rows.map (fun r => e r.1 r.2) = rows.map fun r => g r.1 r.2 :=
          List.map_congr_left fun r hr => hg r.1 r.2 (hne r hr)
        simp only [List.map_cons, if_true, hrest, hsum, List.sum_cons]
        ac_rfl
      · have hne : r.1 ≠ k := fun he => hnd.1 (List.mem_map.2 ⟨(k, v), h, he.symm⟩)
        simp only [List.map_cons, hne, if_false, List.sum_cons]
        rw [add_assoc, ih hnd.2 h, add_assoc, hg _ _ hne]

theorem count_modify {t : Table κ ν} {k : κ} {v : ν} (h : t.find? k = some v) (f : ν → ν)
    {p q : κ → ν → Bool} (hp : ∀ k' v', k' ≠ k → q k' v' = p k' v') :
    (t.modify k f).count q + (if p k v then 1 else 0) =
      t.count p + if q k (f v) then 1 else 0 := by
  rw [count_eq_sum, count_eq_sum]
  refine sum_modify (g := fun k v => if p k v then 1 else 0) (e := fun k v => if q k v then 1 else 0)
    h f fun k' v' hne => ?_
  rw [hp k' v' hne]

/-- An upsert adds at most one row. -/
theorem count_upsert_le (t : Table κ ν) (k : κ) (v : ν) (f : ν → ν) {p : κ → ν → Bool}
    (hp : ∀ w, p k w = p k (f w)) :
    (t.upsert k v f).count p ≤ t.count p + if p k v then 1 else 0 := by
  unfold upsert
  cases hk : t.find? k with
  | none =>
      dsimp only
      exact Nat.le_of_eq (count_insert hk v p)
  | some w =>
      have h := count_modify hk f (p := p) (q := p) fun _ _ _ => rfl
      rw [hp w] at h
      dsimp only
      omega

theorem count_congr {t : Table κ ν} {p q : κ → ν → Bool}
    (h : ∀ k v, t.find? k = some v → p k v = q k v) : t.count p = t.count q :=
  List.countP_congr fun r hr => by rw [h r.1 r.2 (find?_eq_some_iff.2 hr)]

end Aggregates

end Table
end Lib
