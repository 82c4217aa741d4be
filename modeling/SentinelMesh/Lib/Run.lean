/-
# Runs of a system, one action at a time

A system is a total function `step : σ → α → σ`: the state after an action, an
action that is refused leaving the state as it was.  Everything that happens
between two actions is in the list of actions, so a statement about
`run step s as` for every `as` is a statement about every interleaving.

`events step s as` keeps what each action was executed on, so that properties
of the way (how often a thing happened, what held when it did) are properties
of a list.  `run_induction` is the invariant rule, `run_induction_of` the same
under a condition on the steps taken, `events_induction_of` the same at the
events of the run, `run_events_induction` the same for a relation between the
state and the events before it, and `mem_events` finds the moment of an event
inside the list of actions.
-/

import Mathlib.Data.List.Induction

namespace Lib

variable {σ α : Type*} (step : σ → α → σ)

/-- The state after the actions `as`, executed from the left. -/
def run (s : σ) (as : List α) : σ := as.foldl step s

/-- One executed action: the state before it, the action, the state after it. -/
structure Event (σ α : Type*) where
  pre : σ
  act : α
  post : σ

/-- The executed actions of a run, in order. -/
def events : σ → List α → List (Event σ α)
  | _, [] => []
  | s, a :: as => ⟨s, a, step s a⟩ :: events (step s a) as

@[simp] theorem run_nil (s : σ) : run step s [] = s := rfl

@[simp] theorem run_cons (s : σ) (a : α) (as : List α) :
    run step s (a :: as) = run step (step s a) as := rfl

theorem run_append (s : σ) (as bs : List α) :
    run step s (as ++ bs) = run step (run step s as) bs :=
  List.foldl_append

theorem run_concat (s : σ) (as : List α) (a : α) :
    run step s (as ++ [a]) = step (run step s as) a :=
  run_append step s as [a]

@[simp] theorem events_nil (s : σ) : events step s [] = [] := rfl

@[simp] theorem events_cons (s : σ) (a : α) (as : List α) :
    events step s (a :: as) = ⟨s, a, step s a⟩ :: events step (step s a) as := rfl

theorem events_append (s : σ) (as bs : List α) :
    events step s (as ++ bs) = events step s as ++ events step (run step s as) bs := by
  induction as generalizing s with
  | nil => rfl
  | cons a as ih => simp [ih]

theorem events_concat (s : σ) (as : List α) (a : α) :
    events step s (as ++ [a]) =
      events step s as ++ [⟨run step s as, a, step (run step s as) a⟩] :=
  events_append step s as [a]

variable {step}

/-- What holds of all events of a run holds of those of its beginning and of those of the rest. -/
theorem forall_events_append {P : Event σ α → Prop} {s : σ} {as bs : List α} :
    (∀ e ∈ events step s (as ++ bs), P e) ↔
      (∀ e ∈ events step s as, P e) ∧ ∀ e ∈ events step (run step s as) bs, P e := by
  rw [events_append, List.forall_mem_append]

/-- **An event has a moment.**  It executes an action of the list on the state
the actions before it lead to. -/
theorem mem_events {s : σ} {as : List α} {e : Event σ α} (he : e ∈ events step s as) :
    ∃ bs cs, as = bs ++ e.act :: cs ∧ e.pre = run step s bs ∧ e.post = step e.pre e.act := by
  induction as generalizing s with
  | nil => simp at he
  | cons a as ih =>
      rcases List.mem_cons.1 he with rfl | he
      · exact ⟨[], as, rfl, rfl, rfl⟩
      · obtain ⟨bs, cs, has, hpre, hpost⟩ := ih he
        exact ⟨a :: bs, cs, by rw [has, List.cons_append], hpre, hpost⟩

/-- **The invariant rule, under a condition on the steps.**  What holds at the
start and is kept by every step that meets `G` holds after every run whose
steps all meet `G`. -/
theorem run_induction_of {P : σ → Prop} {G : σ → α → Prop} {s : σ} {as : List α} (h₀ : P s)
    (hstep : ∀ s a, P s → G s a → P (step s a)) (hG : ∀ e ∈ events step s as, G e.pre e.act) :
    P (run step s as) := by
  induction as generalizing s with
  | nil => exact h₀
  | cons a as ih =>
      rw [events_cons, List.forall_mem_cons] at hG
      exact ih (hstep s a h₀ hG.1) hG.2

/-- **The invariant rule, at the events of a run.**  Under a condition on the steps, an
invariant holds before each of them. -/
theorem events_induction_of {P : σ → Prop} {G : σ → α → Prop} {s : σ} {as : List α} (h₀ : P s)
    (hstep : ∀ s a, P s → G s a → P (step s a)) (hG : ∀ e ∈ events step s as, G e.pre e.act)
    {e : Event σ α} (he : e ∈ events step s as) : P e.pre ∧ e.post = step e.pre e.act := by
  obtain ⟨bs, cs, has, hpre, hpost⟩ := mem_events he
  refine ⟨?_, hpost⟩
  rw [hpre]
  refine run_induction_of h₀ hstep fun e' he' => hG e' ?_
  rw [has, events_append]
  exact List.mem_append_left _ he'

/-- **A condition that is checked on the way.**  Where an invariant that the condition keeps makes a
check the condition, the steps of a run that all pass the check meet the condition. -/
theorem events_of_check {P : σ → Prop} {G : σ → α → Prop} (check : σ → α → Prop) {s : σ}
    {as : List α} (h₀ : P s) (hstep : ∀ s a, P s → G s a → P (step s a))
    (hcheck : ∀ s a, P s → check s a → G s a)
    (h : ∀ e ∈ events step s as, check e.pre e.act) : ∀ e ∈ events step s as, G e.pre e.act := by
  induction as generalizing s with
  | nil => simp
  | cons a as ih =>
      rw [events_cons, List.forall_mem_cons] at h ⊢
      have hG := hcheck s a h₀ h.1
      exact ⟨hG, ih (hstep s a h₀ hG) h.2⟩

/-- **The invariant rule, with the way behind it.**  What relates a state to the
events that led there is proved by adding one event at the end. -/
theorem run_events_induction {P : σ → List (Event σ α) → Prop} {s : σ} (h₀ : P s [])
    (hstep : ∀ s es a, P s es → P (step s a) (es ++ [⟨s, a, step s a⟩])) (as : List α) :
    P (run step s as) (events step s as) := by
  induction as using List.reverseRecOn with
  | nil => exact h₀
  | append_singleton as a ih =>
      rw [run_concat, events_concat]
      exact hstep _ _ a ih

/-- **Runs under a map** that takes the steps of one system to those of another. -/
theorem run_map {τ : Type} {f : σ → τ} {step' : τ → α → τ}
    (hf : ∀ s a, f (step s a) = step' (f s) a) (s : σ) (as : List α) :
    f (run step s as) = run step' (f s) as := by
  induction as generalizing s with
  | nil => rfl
  | cons a as ih => rw [run_cons, run_cons, ih, hf]

/-- What the steps of the other run meet, the steps of this one meet where they are mapped to. -/
theorem events_map {τ : Type} {f : σ → τ} {step' : τ → α → τ}
    (hf : ∀ s a, f (step s a) = step' (f s) a) {G : τ → α → Prop} {s : σ} {as : List α}
    (hG : ∀ e ∈ events step' (f s) as, G e.pre e.act) :
    ∀ e ∈ events step s as, G (f e.pre) e.act := by
  induction as generalizing s with
  | nil => simp
  | cons a as ih =>
      rw [events_cons, List.forall_mem_cons] at hG ⊢
      refine ⟨hG.1, ih ?_⟩
      rw [hf]
      exact hG.2

/-- **The invariant rule.**  What holds at the start and is kept by every step
holds after every run. -/
theorem run_induction {P : σ → Prop} {s : σ} (h₀ : P s) (hstep : ∀ s a, P s → P (step s a))
    (as : List α) : P (run step s as) :=
  run_induction_of (G := fun _ _ => True) h₀ (fun s a h _ => hstep s a h) fun _ _ => trivial

end Lib
