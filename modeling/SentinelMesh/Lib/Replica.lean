/-
# A copy of a keyed collection

One side holds a table and the other a copy of what it has under each key.  The copy is
brought up to date by lists of items, each of which has a key and a value: of two items with
one key the later counts (`latest`), and `collect` is the table a list makes.

A list of all items is a new table.  `diff` is what such a list adds, changes and lacks
against a table, and `Delta.patch` what a difference does to a copy.  `patch_diff` is that
the copy then is the new table, for a list without two items of one key; a difference that
is empty need not be sent (`patch_of_isEmpty`).
-/

import SentinelMesh.Lib.Table
import Mathlib.Data.List.Induction

namespace Lib
namespace Replica

variable {κ ε δ : Type*} [DecidableEq κ] (key : ε → κ) (val : ε → δ)

/-- The value of the last item with a key. -/
def latest (l : List ε) (k : κ) : Option δ := (l.reverse.find? fun e => decide (key e = k)).map val

/-- The table of a list. -/
def collect (l : List ε) : Table κ δ := l.foldl (fun t e => t.put (key e) (val e)) Table.empty

/-- A difference: new items, keys that are gone, and changed items. -/
structure Delta (κ ε : Type*) where
  added : List ε
  removed : List κ
  updated : List ε
  deriving DecidableEq

/-- What a list adds to a table, lacks, and changes. -/
def diff [DecidableEq δ] (known : Table κ δ) (l : List ε) : Delta κ ε where
  added := l.filter fun e => (known.find? (key e)).isNone
  removed := (known.rows.map Prod.fst).filter fun k => decide (k ∉ l.map key)
  updated := l.filter fun e => (known.find? (key e)).any fun old => decide (old ≠ val e)

/-- The copy after a difference. -/
def Delta.patch (d : Delta κ ε) (view : κ → Option δ) (k : κ) : Option δ :=
  (latest key val (d.added ++ d.updated) k).or (if k ∈ d.removed then none else view k)

/-- Nothing is new, gone or changed. -/
def Delta.isEmpty (d : Delta κ ε) : Bool :=
  d.added.isEmpty && d.removed.isEmpty && d.updated.isEmpty

/-- Replacing the first item with a key, by one with that key, changes what has the key. -/
theorem find?_replaceF (l : List ε) (e : ε) (k : κ) :
    (l.replaceF fun e' => if key e' = key e then some e else none).find?
        (fun e' => decide (key e' = k)) =
      if key e = k then (l.find? fun e' => decide (key e' = k)).map fun _ => e
      else l.find? fun e' => decide (key e' = k) := by
  induction l with
  | nil => simp
  | cons item items ih =>
    rw [List.replaceF_cons]
    by_cases hitem : key item = key e
    · rw [if_pos hitem]
      by_cases hk : key e = k
      · simp [hk, hitem]
      · simp [hk, hitem]
    · rw [if_neg hitem]
      dsimp only
      rw [List.find?_cons, ih]
      by_cases hk : key e = k
      · have hne : ¬ key item = k := fun h => hitem (h.trans hk.symm)
        simp [hk, hne]
      · by_cases hthis : key item = k
        · simp [hk, hthis]
        · simp [hk, hthis]

/-- And changes no key. -/
theorem map_key_replaceF (l : List ε) (e : ε) :
    (l.replaceF fun e' => if key e' = key e then some e else none).map key = l.map key := by
  induction l with
  | nil => rfl
  | cons item items ih =>
    rw [List.replaceF_cons]
    by_cases hitem : key item = key e
    · rw [if_pos hitem, List.map_cons, List.map_cons, hitem]
    · rw [if_neg hitem]
      dsimp only
      rw [List.map_cons, List.map_cons, ih]

@[simp] theorem latest_nil (k : κ) : latest key val [] k = none := rfl

theorem latest_concat (l : List ε) (e : ε) (k : κ) :
    latest key val (l ++ [e]) k = if key e = k then some (val e) else latest key val l k := by
  unfold latest
  rw [List.reverse_append, List.reverse_singleton, List.singleton_append, List.find?_cons]
  by_cases hk : key e = k
  · simp [hk]
  · simp [hk]

@[simp] theorem latest_singleton (e : ε) (k : κ) :
    latest key val [e] k = if key e = k then some (val e) else none :=
  latest_concat key val [] e k

theorem latest_append (l l' : List ε) (k : κ) :
    latest key val (l ++ l') k = (latest key val l' k).or (latest key val l k) := by
  induction l' using List.reverseRecOn with
  | nil => rw [List.append_nil, latest_nil, Option.none_or]
  | append_singleton l' e ih =>
    rw [← List.append_assoc, latest_concat, latest_concat, ih]
    split <;> rfl

/-- A value of the last item is the value of what it is. -/
theorem latest_map {γ : Type*} (f : δ → γ) (l : List ε) (k : κ) :
    latest key (f ∘ val) l k = (latest key val l k).map f := by
  unfold latest
  rw [Option.map_map]

/-- A key has a value exactly if an item has the key. -/
theorem isSome_latest {l : List ε} {k : κ} : (latest key val l k).isSome ↔ k ∈ l.map key := by
  unfold latest
  rw [Option.isSome_map, List.find?_isSome, List.mem_map]
  simp

theorem latest_eq_none {l : List ε} {k : κ} : latest key val l k = none ↔ k ∉ l.map key := by
  rw [← isSome_latest key val, Option.not_isSome_iff_eq_none]

/-- The value of a key is that of an item with it. -/
theorem exists_of_latest {l : List ε} {k : κ} {v : δ} (h : latest key val l k = some v) :
    ∃ e ∈ l, key e = k ∧ val e = v := by
  obtain ⟨e, he, hval⟩ := Option.map_eq_some_iff.1 h
  refine ⟨e, List.mem_reverse.1 (List.mem_of_find?_eq_some he), ?_, hval⟩
  simpa using List.find?_some he

/-- Without two items of one key, each item is the last of its key. -/
theorem latest_of_mem {l : List ε} (hl : (l.map key).Nodup) {e : ε} (he : e ∈ l) :
    latest key val l (key e) = some (val e) := by
  obtain ⟨v, hv⟩ := Option.isSome_iff_exists.1
    ((isSome_latest key val).2 (List.mem_map_of_mem he : key e ∈ l.map key))
  obtain ⟨e', he', hkey, hval⟩ := exists_of_latest key val hv
  rw [hv, ← hval, List.inj_on_of_nodup_map hl he' he hkey]

/-- **The table of a list has the last item of each key.** -/
theorem find?_collect (l : List ε) (k : κ) : (collect key val l).find? k = latest key val l k := by
  unfold collect
  induction l using List.reverseRecOn with
  | nil => rfl
  | append_singleton l e ih =>
    rw [List.foldl_append, latest_concat]
    simp only [List.foldl_cons, List.foldl_nil, Table.find?_put, ih, eq_comm]

/-- The keys of a difference are keys of the list. -/
theorem latest_diff_of_notMem [DecidableEq δ] {γ : Type*} (f : ε → γ) (known : Table κ δ)
    {l : List ε} {k : κ} (hk : k ∉ l.map key) :
    latest key f ((diff key val known l).added ++ (diff key val known l).updated) k = none := by
  rw [latest_eq_none]
  intro hmem
  obtain ⟨e, he, rfl⟩ := List.mem_map.1 hmem
  refine hk (List.mem_map_of_mem ?_)
  rcases List.mem_append.1 he with he | he
  · exact (List.mem_filter.1 he).1
  · exact (List.mem_filter.1 he).1

/-- **What a difference brings**: the items that are not known with their values. -/
theorem latest_diff [DecidableEq δ] {γ : Type*} (f : ε → γ) (known : Table κ δ) {l : List ε}
    (hl : (l.map key).Nodup) {e : ε} (he : e ∈ l) :
    latest key f ((diff key val known l).added ++ (diff key val known l).updated) (key e) =
      if known.find? (key e) = some (val e) then none else some (f e) := by
  have hsame : ∀ e' ∈ l, key e' = key e → e' = e := fun e' he' hkey =>
    List.inj_on_of_nodup_map hl he' he hkey
  cases hlatest : latest key f
      ((diff key val known l).added ++ (diff key val known l).updated) (key e) with
  | some v =>
    obtain ⟨e', he', hkey, rfl⟩ := exists_of_latest key f hlatest
    rcases List.mem_append.1 he' with he' | he'
    · obtain ⟨hmem, hnew⟩ := List.mem_filter.1 he'
      obtain rfl := hsame e' hmem hkey
      rw [if_neg]
      intro hknown
      rw [hknown] at hnew
      cases hnew
    · obtain ⟨hmem, hchanged⟩ := List.mem_filter.1 he'
      obtain rfl := hsame e' hmem hkey
      rw [if_neg]
      intro hknown
      rw [hknown] at hchanged
      simp at hchanged
  | none =>
    have hnot := (latest_eq_none key f).1 hlatest
    rw [if_pos]
    cases hfind : known.find? (key e) with
    | none =>
      refine absurd (List.mem_map_of_mem (List.mem_append_left _ ?_)) hnot
      exact List.mem_filter.2 ⟨he, by rw [hfind]; rfl⟩
    | some old =>
      by_contra hne
      refine absurd (List.mem_map_of_mem (List.mem_append_right _ ?_)) hnot
      refine List.mem_filter.2 ⟨he, ?_⟩
      rw [hfind]
      simpa using fun h => hne (by rw [h])

/-- **A copy that is patched with the difference is the new table.** -/
theorem patch_diff [DecidableEq δ] {known : Table κ δ} {l : List ε} (hl : (l.map key).Nodup)
    {view : κ → Option δ} (hview : ∀ k, view k = known.find? k) (k : κ) :
    (diff key val known l).patch key val view k = (collect key val l).find? k := by
  rw [find?_collect]
  unfold Delta.patch
  by_cases hk : k ∈ l.map key
  · obtain ⟨e, he, rfl⟩ := List.mem_map.1 hk
    rw [latest_diff key val val known hl he, latest_of_mem key val hl he]
    split_ifs with hknown hremoved
    · exact absurd hk (of_decide_eq_true (List.mem_filter.1 hremoved).2)
    · rw [hview, hknown, Option.none_or]
    · rfl
    · rfl
  · rw [latest_diff_of_notMem key val val known hk, (latest_eq_none key val).2 hk, Option.none_or]
    split_ifs with hremoved
    · rfl
    · rw [hview, Table.find?_eq_none_iff]
      intro hknown
      exact hremoved (List.mem_filter.2 ⟨hknown, decide_eq_true hk⟩)

/-- **An empty difference changes nothing.** -/
theorem patch_of_isEmpty {d : Delta κ ε} (h : d.isEmpty = true) (view : κ → Option δ) :
    d.patch key val view = view := by
  unfold Delta.isEmpty at h
  simp only [Bool.and_eq_true, List.isEmpty_iff] at h
  obtain ⟨⟨hadded, hremoved⟩, hupdated⟩ := h
  funext k
  unfold Delta.patch
  rw [hadded, hremoved, hupdated]
  rfl

end Replica
end Lib
