/-
# Since

`Since Q P` says of the events of a run, in order, that one of them was such and that all after it were
of another kind: the past-time operator of temporal logic.  It is what an unbroken state looks like in
the history.  A state that begins with an event of kind `P` and is kept by events of kind `Q` holds at
the end of a run exactly if `Since Q P` does of its events (`run_iff_since`), or if it held at the start
and all of them keep it (`run_iff_since_or`); and one that may also end in other ways holds at most there
(`since_of_run`).
-/

import SentinelMesh.Lib.Run

namespace Lib

variable {ε : Type*} {P Q : ε → Prop} {es : List ε}

/-- Some element is `P`, and all that come after it are `Q`. -/
def Since (Q P : ε → Prop) (es : List ε) : Prop :=
  ∃ before e after, es = before ++ e :: after ∧ P e ∧ ∀ x ∈ after, Q x

@[simp] theorem not_since_nil : ¬ Since Q P ([] : List ε) := by
  rintro ⟨before, e, after, hes, -⟩
  simp at hes

/-- **One more element.**  It is `P` itself, or it keeps what was so before it. -/
theorem since_concat {x : ε} : Since Q P (es ++ [x]) ↔ P x ∨ Since Q P es ∧ Q x := by
  constructor
  · rintro ⟨before, e, after, hes, hP, hQ⟩
    rcases List.eq_nil_or_concat after with rfl | ⟨after, y, rfl⟩
    · obtain ⟨-, rfl⟩ := List.append_singleton_inj.1 hes
      exact Or.inl hP
    · rw [List.concat_eq_append] at hes hQ
      rw [← List.cons_append, ← List.append_assoc] at hes
      obtain ⟨rfl, rfl⟩ := List.append_singleton_inj.1 hes
      rw [List.forall_mem_append] at hQ
      exact Or.inr ⟨⟨before, e, after, rfl, hP, hQ.1⟩, hQ.2 x (List.mem_singleton_self x)⟩
  · rintro (hP | ⟨⟨before, e, after, rfl, hP, hQ⟩, hx⟩)
    · exact ⟨es, x, [], rfl, hP, by simp⟩
    · refine ⟨before, e, after ++ [x], by rw [List.append_assoc, List.cons_append], hP, ?_⟩
      rw [List.forall_mem_append]
      exact ⟨hQ, by simpa using hx⟩

/-- **The last of its kind is one element**: what is known of it in two ways is known of the same. -/
theorem exists_of_since {W P' : ε → Prop} (hP : ∀ e, P e → W e) (hP' : ∀ e, P' e → W e)
    (h : Since (fun e => ¬ W e) P es) (h' : Since (fun e => ¬ W e) P' es) : ∃ e ∈ es, P e ∧ P' e := by
  induction es using List.reverseRecOn with
  | nil => exact absurd h not_since_nil
  | append_singleton es x ih =>
      rw [since_concat] at h h'
      rcases h with hx | ⟨hold, hquiet⟩
      · rcases h' with hx' | ⟨-, hquiet⟩
        · exact ⟨x, List.mem_append_right _ (List.mem_singleton_self x), hx, hx'⟩
        · exact absurd (hP x hx) hquiet
      · rcases h' with hx' | ⟨hold', -⟩
        · exact absurd (hP' x hx') hquiet
        · obtain ⟨e, he, hboth⟩ := ih hold hold'
          exact ⟨e, List.mem_append_left _ he, hboth⟩

section Runs

variable {σ α : Type*} {step : σ → α → σ} {R : σ → Prop} {P Q : Event σ α → Prop} {s : σ}

/-- **What is begun and kept by events holds since it began**, or since the start. -/
theorem run_iff_since_or {as : List α}
    (h : ∀ e ∈ events step s as, R e.post ↔ P e ∨ R e.pre ∧ Q e) :
    R (run step s as) ↔ Since Q P (events step s as) ∨ R s ∧ ∀ e ∈ events step s as, Q e := by
  induction as using List.reverseRecOn with
  | nil => simp
  | append_singleton as a ih =>
      rw [forall_events_append] at h
      have hlast := h.2 ⟨run step s as, a, step (run step s as) a⟩ (by simp)
      rw [run_concat, events_concat, since_concat, List.forall_mem_append, List.forall_mem_singleton]
      refine hlast.trans ?_
      rw [ih h.1, or_and_right, or_assoc, and_assoc]

theorem run_iff_since (h₀ : ¬ R s) {as : List α}
    (h : ∀ e ∈ events step s as, R e.post ↔ P e ∨ R e.pre ∧ Q e) :
    R (run step s as) ↔ Since Q P (events step s as) :=
  (run_iff_since_or h).trans (or_iff_left fun hs => h₀ hs.1)

/-- The same where the input alone says of which kind an event is. -/
theorem run_iff_since_inputs {P Q : α → Prop} {as : List α}
    (h : ∀ s a, R (step s a) ↔ P a ∨ R s ∧ Q a) :
    R (run step s as) ↔ Since Q P as ∨ R s ∧ ∀ a ∈ as, Q a := by
  induction as using List.reverseRecOn with
  | nil => simp
  | append_singleton as a ih =>
      rw [run_concat, since_concat, List.forall_mem_append, List.forall_mem_singleton]
      refine (h _ a).trans ?_
      rw [ih, or_and_right, or_assoc, and_assoc]

/-- The same for a state that may also end in other ways. -/
theorem since_of_run (h₀ : ¬ R s) {as : List α}
    (h : ∀ e ∈ events step s as, R e.post → P e ∨ R e.pre ∧ Q e) (hR : R (run step s as)) :
    Since Q P (events step s as) := by
  induction as using List.reverseRecOn with
  | nil => exact absurd hR h₀
  | append_singleton as a ih =>
      rw [forall_events_append] at h
      rw [run_concat] at hR
      rw [events_concat, since_concat]
      rcases h.2 ⟨run step s as, a, step (run step s as) a⟩ (by simp) hR with hP | ⟨hpre, hQ⟩
      · exact Or.inl hP
      · exact Or.inr ⟨ih h.1 hpre, hQ⟩

end Runs

end Lib
