/-
# A journal of what has been applied

Entries are applied to a state one after the other, and each leaves a mark, in the order in which
that was done.  A pass goes through a list of them: an entry whose mark is there is left alone, one
whose key is that of another mark is refused, and any other is applied.  At what is refused, or
cannot be applied, the pass ends.

A journal is sound if its state is what the entries lead to, each of them once, and every pass keeps
it so (`sound_pass`), also one that is cut off.  Passes over beginnings of one list apply a beginning
of it (`prefix_pass`), and one that is not cut off applies all of it, if all of it can be applied
(`pass_eq`).
-/

import Mathlib.Data.List.Nodup

namespace Lib

/-- Entries that have been applied, in order, and what they were applied to. -/
structure Journal (ε σ : Type*) where
  entries : List ε
  state : σ

namespace Journal

variable {ε μ κ σ : Type*} (mark : ε → μ) (key : μ → κ) (apply : ε → σ → Option σ)

/-- An entry is applied and noted. -/
def note (e : ε) (j : Journal ε σ) : Option (Journal ε σ) :=
  (apply e j.state).map fun s => ⟨j.entries ++ [e], s⟩

/-- The state after the entries. -/
def replay (es : List ε) (s : σ) : Option σ := es.foldlM (fun s e => apply e s) s

theorem replay_append (es fs : List ε) (s : σ) :
    replay apply (es ++ fs) s = (replay apply es s).bind (replay apply fs) := by
  unfold replay
  rw [List.foldlM_append]
  rfl

theorem replay_concat (es : List ε) (e : ε) (s : σ) :
    replay apply (es ++ [e]) s = (replay apply es s).bind (apply e) := by
  rw [replay_append]
  congr 1
  funext s'
  unfold replay
  simp

/-- The state is what the entries lead to, and no two have marks of one key. -/
structure Sound (s₀ : σ) (j : Journal ε σ) : Prop where
  replay : replay apply j.entries s₀ = some j.state
  nodup : (j.entries.map fun e => key (mark e)).Nodup

variable [DecidableEq μ] [DecidableEq κ]

/-- A pass comes to an entry. -/
def visit (e : ε) (j : Journal ε σ) : Option (Journal ε σ) :=
  if mark e ∈ j.entries.map mark then some j
  else if key (mark e) ∈ j.entries.map fun e => key (mark e) then none
  else j.note apply e

/-- A pass, and whether it came to the end. -/
def pass : List ε → Journal ε σ → Journal ε σ × Bool
  | [], j => (j, true)
  | e :: es, j => match visit mark key apply e j with
    | none => (j, false)
    | some j' => pass es j'

variable {mark key apply} {s₀ : σ} {e : ε} {es : List ε} {j j' : Journal ε σ}

/-- **What becomes of a journal** where a pass comes to an entry and goes on. -/
theorem visit_eq_some (h : visit mark key apply e j = some j') :
    (mark e ∈ j.entries.map mark ∧ j' = j) ∨
      ((key (mark e) ∉ j.entries.map fun e => key (mark e)) ∧ j'.entries = j.entries ++ [e] ∧
        apply e j.state = some j'.state) := by
  unfold visit at h
  split_ifs at h with hmark hkey
  · exact .inl ⟨hmark, (Option.some.inj h).symm⟩
  · obtain ⟨s, hs, rfl⟩ := Option.map_eq_some_iff.1 h
    exact .inr ⟨hkey, rfl, hs⟩

theorem mark_mem_of_visit (h : visit mark key apply e j = some j') :
    mark e ∈ j'.entries.map mark := by
  rcases visit_eq_some h with ⟨hmark, rfl⟩ | ⟨-, hentries, -⟩
  · exact hmark
  · rw [hentries]
    exact List.mem_map_of_mem List.mem_concat_self

theorem sound_visit (hj : Sound mark key apply s₀ j) (h : visit mark key apply e j = some j') :
    Sound mark key apply s₀ j' := by
  rcases visit_eq_some h with ⟨-, rfl⟩ | ⟨hkey, hentries, happly⟩
  · exact hj
  · constructor
    · rw [hentries, replay_concat, hj.replay]
      exact happly
    · rw [hentries, List.map_append, List.nodup_append]
      refine ⟨hj.nodup, List.nodup_singleton _, fun k hk k' hk' heq => hkey ?_⟩
      rw [List.map_singleton, List.mem_singleton] at hk'
      rw [← hk', ← heq]
      exact hk

/-- **The rule of a pass**: what every entry keeps, the pass keeps, cut off or not. -/
theorem pass_induction {P : Journal ε σ → Prop}
    (hvisit : ∀ e ∈ es, ∀ j j', P j → visit mark key apply e j = some j' → P j') (h₀ : P j) :
    P (pass mark key apply es j).1 := by
  induction es generalizing j with
  | nil => exact h₀
  | cons e es ih =>
      rw [pass]
      cases h : visit mark key apply e j with
      | none => exact h₀
      | some j' =>
          exact ih (fun e' he' => hvisit e' (List.mem_cons_of_mem _ he'))
            (hvisit e List.mem_cons_self j j' h₀ h)

theorem sound_pass (es : List ε) (hj : Sound mark key apply s₀ j) :
    Sound mark key apply s₀ (pass mark key apply es j).1 :=
  pass_induction (fun _ _ _ _ hj h => sound_visit hj h) hj

/-- What is noted stays noted, in its place. -/
theorem prefix_entries (es : List ε) : j.entries <+: (pass mark key apply es j).1.entries := by
  refine pass_induction (P := fun j' => j.entries <+: j'.entries) (fun e _ j₁ j₂ hj h => ?_)
    (List.prefix_refl _)
  rcases visit_eq_some h with ⟨-, rfl⟩ | ⟨-, hentries, -⟩
  · exact hj
  · rw [hentries]
    exact hj.trans (List.prefix_append _ _)

/-- Where a pass comes to the end, all is noted. -/
theorem subset_of_pass (h : (pass mark key apply es j).2 = true) :
    es.map mark ⊆ (pass mark key apply es j).1.entries.map mark := by
  induction es generalizing j with
  | nil => exact List.nil_subset _
  | cons e es ih =>
      rw [pass] at h ⊢
      cases hvisit : visit mark key apply e j with
      | none => rw [hvisit] at h; cases h
      | some j' =>
          rw [hvisit] at h
          refine List.cons_subset.2 ⟨?_, ih h⟩
          exact ((prefix_entries es).map mark).subset (mark_mem_of_visit hvisit)

/-- An entry that is noted is passed by. -/
theorem pass_of_mem (h : ∀ e ∈ es, mark e ∈ j.entries.map mark) :
    pass mark key apply es j = (j, true) := by
  induction es generalizing j with
  | nil => rfl
  | cons e es ih =>
      rw [List.forall_mem_cons] at h
      rw [pass, visit, if_pos h.1]
      exact ih h.2

theorem pass_append (es fs : List ε) (j : Journal ε σ) :
    pass mark key apply (es ++ fs) j =
      if (pass mark key apply es j).2 then pass mark key apply fs (pass mark key apply es j).1
      else pass mark key apply es j := by
  induction es generalizing j with
  | nil => rfl
  | cons e es ih =>
      rw [List.cons_append, pass, pass]
      cases visit mark key apply e j with
      | none => rfl
      | some j' => exact ih j'

/-! ### Passes over beginnings of one list -/

/-- **Passes over beginnings of one list apply a beginning of it.** -/
theorem prefix_pass (hes : (es.map fun e => key (mark e)).Nodup) (hj : j.entries <+: es) (n : ℕ) :
    (pass mark key apply (es.take n) j).1.entries <+: es := by
  induction n with
  | zero => exact hj
  | succ n ih =>
      rw [List.take_add_one, pass_append]
      split_ifs with hend
      · cases hn : es[n]? with
        | none => exact ih
        | some e =>
            rw [Option.toList_some, pass]
            cases hvisit : visit mark key apply e (pass mark key apply (es.take n) j).1 with
            | none => exact ih
            | some j' =>
                dsimp only [pass]
                rcases visit_eq_some hvisit with ⟨-, rfl⟩ | ⟨hkey, hentries, -⟩
                · exact ih
                -- all before `e` is noted and `e` is not, so what is noted is what is before `e`
                obtain ⟨hlt, hget⟩ := List.getElem?_eq_some_iff.1 hn
                have hall := subset_of_pass hend
                generalize pass mark key apply (es.take n) j = r at *
                obtain ⟨rest, hrest⟩ := ih
                have hle : r.1.entries.length ≤ n := by
                  by_contra hlong
                  have hmem : e ∈ r.1.entries := by
                    rw [← hget, List.getElem_of_eq hrest.symm, List.getElem_append_left (by omega)]
                    exact List.getElem_mem _
                  exact hkey (List.mem_map_of_mem (f := fun e => key (mark e)) hmem)
                have hge : n ≤ r.1.entries.length := by
                  have hmarks : (es.map mark).Nodup := by
                    rw [← Function.comp_def key, ← List.map_map] at hes
                    exact List.Nodup.of_map key hes
                  have hnodup : ((es.take n).map mark).Nodup :=
                    hmarks.sublist ((List.take_sublist _ _).map mark)
                  have hcard := hnodup.length_le_of_subset hall
                  rwa [List.length_map, List.length_map, List.length_take_of_le (Nat.le_of_lt hlt)] at hcard
                have htake : r.1.entries = es.take n := by
                  rw [← hrest, List.take_left' (by omega)]
                have hnext : es.take n ++ [e] = es.take (n + 1) := by
                  rw [List.take_add_one, hn]
                  rfl
                rw [hentries, htake, hnext]
                exact List.take_prefix _ _
      · exact ih

/-- A pass over what comes next applies it, if it can be applied. -/
theorem pass_of_replay {done rest : List ε} {now s : σ}
    (hkeys : ((done ++ rest).map fun e => key (mark e)).Nodup)
    (hs : replay apply rest now = some s) :
    pass mark key apply rest ⟨done, now⟩ = (⟨done ++ rest, s⟩, true) := by
  induction rest generalizing done now with
  | nil =>
      rw [List.append_nil, pass]
      exact congrArg (fun s => (Journal.mk done s, true)) (Option.some.inj hs)
  | cons e rest ih =>
      have hkey : key (mark e) ∉ done.map fun e => key (mark e) := by
        rw [List.map_append, List.nodup_append] at hkeys
        exact fun hmem => hkeys.2.2 _ hmem _ (by simp) rfl
      have hmark : mark e ∉ done.map mark := by
        intro hmem
        obtain ⟨e', he', heq⟩ := List.mem_map.1 hmem
        exact hkey (List.mem_map.2 ⟨e', he', congrArg key heq⟩)
      rw [← List.singleton_append, replay_append] at hs
      obtain ⟨now', happly, hrest⟩ := Option.bind_eq_some_iff.1 hs
      have hvisit : visit mark key apply e ⟨done, now⟩ = some ⟨done ++ [e], now'⟩ := by
        have hone : apply e now = some now' := by
          rw [← happly]
          unfold replay
          simp
        rw [visit, if_neg hmark, if_neg hkey, note, hone]
        rfl
      rw [List.append_cons] at hkeys ⊢
      rw [pass, hvisit]
      exact ih hkeys hrest

/-- **A pass that is not cut off applies all**, if all can be applied. -/
theorem pass_eq (hes : (es.map fun e => key (mark e)).Nodup) (hj : Sound mark key apply s₀ j)
    (hpre : j.entries <+: es) {s : σ} (hs : replay apply es s₀ = some s) :
    pass mark key apply es j = (⟨es, s⟩, true) := by
  obtain ⟨rest, rfl⟩ := hpre
  rw [replay_append, hj.replay] at hs
  rw [pass_append, pass_of_mem fun e he => List.mem_map_of_mem he, if_pos rfl]
  exact pass_of_replay hes hs

end Journal
end Lib
