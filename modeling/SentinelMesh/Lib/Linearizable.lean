/-
# Linearizability

Calls over a shared store are *linearizable* if what they have returned is what they return one after
the other, in an order in which a call that had ended before another was made comes first
(`Linearizes`).

A call is run on its own by its own program (`System.alone`), so nothing is stated twice: the
sequential behaviour is that of the same code without the others.  The order is kept in a history,
where a call is entered, run on a store of its own, at the moment it takes effect; `linearizes` says
what is left to show of a discipline with such a history.
-/

import SentinelMesh.Lib.Async
import Mathlib.Data.List.Nodup

namespace Lib

namespace Task

variable {Op : Type} {Res : Op → Type} {σ α β : Type}

/-- A task that is run on its own; `none` where it is blocked. -/
def alone (perform : (op : Op) → σ → Option (Res op × σ)) : Task Op Res α → σ → Option (α × σ)
  | done a, s => some (a, s)
  | call op k, s => (perform op s).bind fun o => alone perform (k o.1) o.2

/-- A sequence on its own: the second after the first. -/
theorem alone_bind (perform : (op : Op) → σ → Option (Res op × σ)) (t : Task Op Res α)
    (f : α → Task Op Res β) (s : σ) :
    (t >>= f).alone perform s = (t.alone perform s).bind fun o => (f o.1).alone perform o.2 := by
  induction t generalizing s with
  | done a => rfl
  | call op k ih =>
      change ((perform op s).bind fun o => (k o.1 >>= f).alone perform o.2) = _
      rw [alone, Option.bind_assoc]
      exact congrArg _ (funext fun o => ih o.1 o.2)

/-- A task that is followed by nothing. -/
theorem alone_done (perform : (op : Op) → σ → Option (Res op × σ)) (t : Task Op Res α) (s : σ) :
    (t >>= done).alone perform s = t.alone perform s := by
  rw [alone_bind]
  cases t.alone perform s <;> rfl

/-- Every operation the task may come to is of a kind. -/
def Each (P : Op → Prop) : Task Op Res α → Prop
  | done _ => True
  | call op k => P op ∧ ∀ r, Each P (k r)

theorem Each.bind {P : Op → Prop} {t : Task Op Res α} {f : α → Task Op Res β} (h : Each P t)
    (hf : ∀ a, Each P (f a)) : Each P (t >>= f) := by
  induction t with
  | done a => exact hf a
  | call op k ih => exact ⟨h.1, fun r => ih r (h.2 r)⟩

/-- Where the operations of a task do the same, so does the task. -/
theorem alone_congr {P : Op → Prop} {perform perform' : (op : Op) → σ → Option (Res op × σ)}
    (hop : ∀ op, P op → ∀ s, perform op s = perform' op s) {t : Task Op Res α} (h : Each P t) (s : σ) :
    t.alone perform s = t.alone perform' s := by
  induction t generalizing s with
  | done a => rfl
  | call op k ih =>
      rw [alone, alone, hop op h.1 s]
      exact congrArg _ (funext fun o => ih o.1 (h.2 o.1) o.2)

/-- **A part of the store.**  A task on its own does to the part it works on what it does where there
is nothing else. -/
theorem alone_embed {Op' : Type} {Res' : Op' → Type} {τ : Type} {f : Op → Op'}
    {g : ∀ op, Res' (f op) → Res op} {perform : (op : Op) → σ → Option (Res op × σ)}
    {perform' : (op : Op') → τ → Option (Res' op × τ)} (part : τ → σ) (put : σ → τ → τ)
    (hpart : ∀ s t, part (put s t) = s) (hput : ∀ s s' t, put s' (put s t) = put s' t)
    (hself : ∀ t, put (part t) t = t)
    (hperform : ∀ op t, (perform' (f op) t).map (fun o => (g op o.1, o.2)) =
      (perform op (part t)).map fun o => (o.1, put o.2 t)) (t : Task Op Res α) (s : τ) :
    (t.embed f g).alone perform' s = (t.alone perform (part s)).map fun o => (o.1, put o.2 s) := by
  induction t generalizing s with
  | done a => exact congrArg (fun s => some (a, s)) (hself s).symm
  | call op k ih =>
      have hop := hperform op s
      change ((perform' (f op) s).bind fun o => ((k (g op o.1)).embed f g).alone perform' o.2) = _
      rw [alone]
      cases hp : perform op (part s) with
      | none =>
          rw [hp, Option.map_none, Option.map_eq_none_iff] at hop
          rw [hop]
          rfl
      | some o =>
          rw [hp, Option.map_some] at hop
          obtain ⟨o', ho', heq⟩ := Option.map_eq_some_iff.1 hop
          obtain ⟨hr, hs⟩ := Prod.mk.inj heq
          rw [ho', Option.bind_some, Option.bind_some, hr, ih, hs, hpart]
          exact congrArg (fun h => Option.map h ((k o.1).alone perform o.2))
            (funext fun o₂ => congrArg (Prod.mk o₂.1) (hput _ _ _))

end Task

namespace Async

variable {σ κ Op : Type} {Res : Op → Type} {χ α γ : Type}

/-- Calls in an order, with what they return. -/
abbrev Order (κ α : Type) := List (ℕ × κ × α)

/-- The threads of an order. -/
def Order.threads (order : Order κ α) : List ℕ := order.map Prod.fst

/-- A call of thread `n` on its own, where the environment decides `x`. -/
def System.alone (sys : System σ κ Op Res χ α) (x : χ) (n : ℕ) (c : κ) (s : σ) : Option (α × σ) :=
  (sys.body c).alone (fun op s => sys.perform n c op x s) s

/-- One call after the other takes one store to the other, each returning what the order says. -/
def System.Sequentially (sys : System σ κ Op Res χ α) (x : χ) : σ → Order κ α → σ → Prop
  | s, [], s' => s' = s
  | s, (n, c, a) :: order, s' =>
    ∃ s₁, sys.alone x n c s = some (a, s₁) ∧ sys.Sequentially x s₁ order s'

theorem sequentially_concat {sys : System σ κ Op Res χ α} {x : χ} {s s' s'' : σ} {order : Order κ α}
    {n : ℕ} {c : κ} {a : α} (h : sys.Sequentially x s order s')
    (halone : sys.alone x n c s' = some (a, s'')) :
    sys.Sequentially x s (order ++ [(n, c, a)]) s'' := by
  induction order generalizing s with
  | nil =>
      have hs : s' = s := h
      subst hs
      exact ⟨s'', halone, rfl⟩
  | cons e order ih =>
      obtain ⟨s₁, he, hrest⟩ := h
      exact ⟨s₁, he, ih hrest⟩

/-- One thread comes before the other: it is among the first, and the other is not. -/
def Order.Precedes (order : Order κ α) (m n : ℕ) : Prop :=
  ∃ first last : Order κ α, order = first ++ last ∧ m ∈ first.threads ∧ n ∉ first.threads

/-- **An order of the calls of a run** from a store: they are those that have ended, each once; one
after the other they return what they have returned, and leave another store; and a call that had
ended when another was made comes first. -/
structure Linearizes (sys : System σ κ Op Res χ α) (x : χ) (s : σ) (as : List (Act κ χ))
    (order : Order κ α) (s' : σ) : Prop where
  calls : ∀ n c a, (n, c, a) ∈ order ↔ (run (step sys) (Pool.init s) as).ended n c a
  once : order.threads.Nodup
  sequential : sys.Sequentially x s order s'
  realTime : ∀ bs cs, as = bs ++ cs → ∀ m c a n, (run (step sys) (Pool.init s) bs).ended m c a →
    (run (step sys) (Pool.init s) bs).threads[n]? = none → order.Precedes m n

/-- The calls that have taken effect, in order, and the store they have taken effect on. -/
structure Line (σ κ α : Type) where
  abs : σ
  order : Order κ α := []

/-- The line is that of calls one after the other, each once. -/
structure Line.Legal (sys : System σ κ Op Res χ α) (x : χ) (s : σ) (l : Line σ κ α) : Prop where
  sequential : sys.Sequentially x s l.order l.abs
  once : l.order.threads.Nodup

/-- A call of thread `n` takes effect. -/
def Line.effect (sys : System σ κ Op Res χ α) (x : χ) (n : ℕ) (c : κ) (l : Line σ κ α) :
    Line σ κ α :=
  match sys.alone x n c l.abs with
  | some (a, s) => { abs := s, order := l.order ++ [(n, c, a)] }
  | none => l

theorem effect_of_alone {sys : System σ κ Op Res χ α} {x : χ} {n : ℕ} {c : κ} {l : Line σ κ α}
    {a : α} {s : σ} (h : sys.alone x n c l.abs = some (a, s)) :
    l.effect sys x n c = { abs := s, order := l.order ++ [(n, c, a)] } := by
  unfold Line.effect
  rw [h]

theorem Line.Legal.effect {sys : System σ κ Op Res χ α} {x : χ} {s : σ} {l : Line σ κ α} {n : ℕ}
    {c : κ} (h : l.Legal sys x s) (hnew : n ∉ l.order.threads) : (l.effect sys x n c).Legal sys x s := by
  cases halone : sys.alone x n c l.abs with
  | none =>
      rw [Line.effect, halone]
      exact h
  | some o =>
      rw [effect_of_alone halone]
      refine ⟨sequentially_concat h.sequential halone, ?_⟩
      rw [Order.threads, List.map_append]
      refine List.nodup_append.2 ⟨h.once, List.nodup_singleton n, fun m hm k hk heq => ?_⟩
      have hk : k = n := List.mem_singleton.1 hk
      rw [heq, hk] at hm
      exact hnew hm

/-- An order in two parts takes the store through what the first part leaves. -/
theorem sequentially_append {sys : System σ κ Op Res χ α} {x : χ} {s s' : σ} {xs ys : Order κ α} :
    sys.Sequentially x s (xs ++ ys) s' ↔
      ∃ s₁, sys.Sequentially x s xs s₁ ∧ sys.Sequentially x s₁ ys s' := by
  induction xs generalizing s with
  | nil => exact ⟨fun h => ⟨s, rfl, h⟩, fun ⟨s₁, heq, h⟩ => heq ▸ h⟩
  | cons e xs ih =>
      constructor
      · rintro ⟨s₂, halone, hrest⟩
        obtain ⟨s₁, hxs, hys⟩ := ih.1 hrest
        exact ⟨s₁, ⟨s₂, halone, hxs⟩, hys⟩
      · rintro ⟨s₁, ⟨s₂, halone, hxs⟩, hys⟩
        exact ⟨s₂, halone, ih.2 ⟨s₁, hxs, hys⟩⟩

/-- A thread that is in an order before a call is not in it after the call. -/
theorem not_mem_both {order xs ys : Order κ α} {e : ℕ × κ × α} (h : order.threads.Nodup)
    (hsplit : order = xs ++ e :: ys) {m : ℕ} (hxs : m ∈ Order.threads xs) :
    m ∉ Order.threads ys := by
  intro hys
  rw [hsplit, Order.threads, List.map_append, List.map_cons] at h
  exact (List.nodup_append.1 h).2.2 m hxs m (List.mem_cons_of_mem _ hys) rfl

/-- **What comes after a call had not ended when it was made.** -/
theorem Linearizes.later {sys : System σ κ Op Res χ α} {x : χ} {s s' : σ} {as bs cs : List (Act κ χ)}
    {order : Order κ α} (h : Linearizes sys x s as order s') (has : as = bs ++ cs) {n : ℕ} {c : κ}
    {a : α} (hmem : (n, c, a) ∈ order) (hn : (run (step sys) (Pool.init s) bs).threads[n]? = none) :
    ∃ xs ys : Order κ α, order = xs ++ (n, c, a) :: ys ∧ ∀ m c' a', (m, c', a') ∈ ys →
      ∀ c'' a'', ¬ (run (step sys) (Pool.init s) bs).ended m c'' a'' := by
  obtain ⟨xs, ys, hsplit⟩ := List.append_of_mem hmem
  refine ⟨xs, ys, hsplit, fun m c' a' hm c'' a'' hended => ?_⟩
  obtain ⟨first, last, horder, hfirst, hnot⟩ := h.realTime bs cs has m c'' a'' n hended hn
  have hm' : m ∈ Order.threads ys := List.mem_map_of_mem hm
  rcases List.append_eq_append_iff.1 (hsplit.symm.trans horder) with
    ⟨mid, hfirst', hys⟩ | ⟨mid, hxs, -⟩
  · cases mid with
    | nil =>
        have hmxs : m ∈ Order.threads xs := by
          rw [hfirst', List.append_nil] at hfirst
          exact hfirst
        exact not_mem_both h.once hsplit hmxs hm'
    | cons e mid =>
        obtain ⟨rfl, -⟩ := List.cons.inj hys
        refine hnot ?_
        rw [hfirst', Order.threads, List.map_append, List.map_cons]
        exact List.mem_append_right _ List.mem_cons_self
  · have hmxs : m ∈ Order.threads xs := by
      rw [hxs, Order.threads, List.map_append]
      exact List.mem_append_left _ hfirst
    exact not_mem_both h.once hsplit hmxs hm'

/-- A thread is in an order once. -/
theorem eq_of_mem_order {order : Order κ α} (h : order.threads.Nodup) {n : ℕ} {c c' : κ} {a a' : α}
    (hmem : (n, c, a) ∈ order) (hmem' : (n, c', a') ∈ order) : c = c' ∧ a = a' :=
  Prod.mk.inj (Prod.mk.inj (List.inj_on_of_nodup_map h hmem hmem' rfl)).2

variable {record : ℕ → κ → Op → χ → σ → γ → γ}

theorem ended_forget (p : Pool (σ × γ) κ Op Res α) (n : ℕ) (c : κ) (a : α) :
    p.forget.ended n c a ↔ p.ended n c a := by
  unfold Pool.ended
  rw [getElem?_forget]
  constructor
  · rintro ⟨t, ht, hcall, htask⟩
    obtain ⟨t', ht', rfl⟩ := Option.map_eq_some_iff.1 ht
    exact ⟨t', ht', hcall, htask⟩
  · rintro ⟨t, ht, hcall, htask⟩
    exact ⟨t.forget, Option.map_eq_some_iff.2 ⟨t, ht, rfl⟩, hcall, htask⟩

theorem settled_forget (p : Pool (σ × γ) κ Op Res α) : p.forget.Settled ↔ p.Settled := by
  refine ⟨fun h t ht => h t.forget (List.mem_map_of_mem ht), fun h t ht => ?_⟩
  obtain ⟨t', ht', rfl⟩ := List.mem_map.1 ht
  exact h t' ht'

/-- **Linearizability from a line.**  Where the history keeps a legal line that is only extended, a
call that has not begun is not in it, and one that has ended is in it with what it returned, the line
of a settled pool is an order of its calls. -/
theorem linearizes {sys : System σ κ Op Res χ α} {x : χ} {s : σ} {g : γ} (line : γ → Line σ κ α)
    {d : Discipline (σ × γ) κ Op χ} {Q : ℕ → κ × σ × γ → α → σ × γ → Prop}
    (hlegal : ∀ s', d.Inv s' → (line s'.2).Legal sys x s)
    (hgrows : ∀ n s₁ s₂, d.Rely n s₁ s₂ → (line s₁.2).order <+: (line s₂.2).order)
    (hfresh : ∀ n s', d.Local n none s' → n ∉ (line s'.2).order.threads)
    (hshown : ∀ n i a s', Q n i a s' → (n, i.1, a) ∈ (line s'.2).order)
    (hstart : d.Starts (sys.withHistory record) Q)
    (hinit : Sound d (sys.withHistory record) Q (Pool.init (s, g))) {as : List (Act κ χ)}
    (hmeets : ∀ e ∈ events (step (sys.withHistory record)) (Pool.init (s, g)) as,
      MeetsAt d.Cond e.pre e.act)
    (hsettled : (run (step (sys.withHistory record)) (Pool.init (s, g)) as).Settled) :
    Linearizes sys x s as
      (line (run (step (sys.withHistory record)) (Pool.init (s, g)) as).store.2).order
      (line (run (step (sys.withHistory record)) (Pool.init (s, g)) as).store.2).abs := by
  have hsound := sound_run hstart hinit hmeets
  have hforget : ∀ bs, run (step sys) (Pool.init s) bs =
      (run (step (sys.withHistory record)) (Pool.init (s, g)) bs).forget := fun bs =>
    (forget_run sys (Pool.init (s, g)) bs).symm
  obtain ⟨hsequential, honce⟩ := hlegal _ hsound.inv
  have hended : ∀ n c a, (run (step (sys.withHistory record)) (Pool.init (s, g)) as).ended n c a →
      (n, c, a) ∈ (line (run (step (sys.withHistory record)) (Pool.init (s, g)) as).store.2).order := by
    rintro n c a ⟨t, ht, rfl, htask⟩
    exact hshown _ _ _ _ (hsound.ended ht htask)
  refine ⟨fun n c a => ?_, honce, hsequential, fun bs cs has m c a n hm hn => ?_⟩
  · rw [hforget, ended_forget]
    refine ⟨fun hmem => ?_, hended n c a⟩
    cases ht : (run (step (sys.withHistory record)) (Pool.init (s, g)) as).threads[n]? with
    | none =>
        have hnot := hfresh n _ (hsound.fresh n (List.getElem?_eq_none_iff.1 ht))
        exact absurd (List.mem_map_of_mem hmem) hnot
    | some t =>
        obtain ⟨a', ha'⟩ := hsettled t (List.mem_of_getElem? ht)
        obtain ⟨hcall, rfl⟩ := eq_of_mem_order honce (hended n t.call a' ⟨t, ht, rfl, ha'⟩) hmem
        exact ⟨t, ht, hcall, ha'⟩
  · subst has
    obtain ⟨hbs, hcs⟩ := forall_events_append.1 hmeets
    have hthen := sound_run hstart hinit hbs
    rw [hforget, ended_forget] at hm
    rw [hforget, getElem?_forget, Option.map_eq_none_iff] at hn
    obtain ⟨t, ht, rfl, htask⟩ := hm
    have hgrown : (line (run (step (sys.withHistory record)) (Pool.init (s, g)) bs).store.2).order <+:
        (line (run (step (sys.withHistory record)) (Pool.init (s, g)) (bs ++ cs)).store.2).order := by
      rw [run_append]
      exact stable_run hstart (P := fun s' =>
          (line (run (step (sys.withHistory record)) (Pool.init (s, g)) bs).store.2).order <+:
            (line s'.2).order)
        (fun n s₁ s₂ hrely h => h.trans (hgrows n s₁ s₂ hrely)) hthen (List.prefix_refl _) hcs
    obtain ⟨last, hlast⟩ := hgrown
    exact ⟨_, last, hlast.symm, List.mem_map_of_mem (hshown _ _ _ _ (hthen.ended ht htask)),
      hfresh n _ (hthen.fresh n (List.getElem?_eq_none_iff.1 hn))⟩

end Async
end Lib
