/-
# Asynchronous calls over a shared store

A *task* is a program that stops at each operation on what it shares with others and goes on with
the answer: the text of an `async` function between two of its awaits is one step.  A *pool* is a
store and the calls that were made, each with the task it has come to; any of them may be
resumed at any moment, so a statement about every list of actions is a statement about every
interleaving.  What the environment decides (a failure, a time, a random value) is an argument of
the action, and an operation that is blocked leaves everything as it was.

The rule is that of rely and guarantee.  `Safe n` says of a task that, as long as the others change
the store only in the way thread `n` counts on, each of its own operations keeps the invariant, does
to the store what every other thread counts on, and it ends with what is to be shown.  It is defined
along the task, so a task is proved safe operation by operation, a sequence from its parts
(`Safe.bind`), a loop by induction on what it loops over; and `sound_run` puts the threads
together: if every call is safe where it begins, then all are safe after every run whose steps meet
the condition.

Where the store does not show what an invariant speaks of (who has done what), it is kept in a
*history* beside the store, which no task reads: `withHistory` adds one, and `forget_run` says that
nothing else changes.
-/

import SentinelMesh.Lib.Run
import Mathlib.Tactic.SplitIfs

namespace Lib

/-- A program that calls operations and goes on with their answers. -/
inductive Task (Op : Type) (Res : Op → Type) (α : Type) : Type
  | done (a : α)
  | call (op : Op) (k : Res op → Task Op Res α)

namespace Task

variable {Op : Type} {Res : Op → Type} {α β γ : Type}

/-- One task after the other. -/
def bind : Task Op Res α → (α → Task Op Res β) → Task Op Res β
  | done a, f => f a
  | call op k, f => call op fun r => (k r).bind f

instance : Monad (Task Op Res) where
  pure := done
  bind := bind

/-- One operation. -/
def await (op : Op) : Task Op Res (Res op) := call op done

/-- The task has ended with a value. -/
def result : Task Op Res α → Option α
  | done a => some a
  | call _ _ => none

/-- The operation a task waits for. -/
def next : Task Op Res α → Option Op
  | done _ => none
  | call op _ => some op

@[simp] theorem pure_eq (a : α) : (pure a : Task Op Res α) = done a := rfl

@[simp] theorem done_bind (a : α) (f : α → Task Op Res β) : (done a >>= f) = f a := rfl

@[simp] theorem call_bind (op : Op) (k : Res op → Task Op Res α) (f : α → Task Op Res β) :
    (call op k >>= f) = call op fun r => k r >>= f := rfl

@[simp] theorem await_bind (op : Op) (f : Res op → Task Op Res β) :
    (await op >>= f) = call op f := rfl

theorem bind_assoc (t : Task Op Res α) (f : α → Task Op Res β) (g : β → Task Op Res γ) :
    (t >>= f) >>= g = t >>= fun a => f a >>= g := by
  induction t with
  | done a => rfl
  | call op k ih => exact congrArg (call op) (funext ih)

@[simp] theorem result_done (a : α) : (done a : Task Op Res α).result = some a := rfl

theorem result_eq_some {t : Task Op Res α} {a : α} : t.result = some a ↔ t = done a := by
  cases t with
  | done b => simp [result]
  | call op k => simp [result]

/-- Whatever the operations answer, the task ends with `Q`. -/
def Gives {χ σ : Type} (perform : (op : Op) → χ → σ → Option (Res op × σ)) (Q : α → Prop) :
    Task Op Res α → Prop
  | done a => Q a
  | call op k => ∀ x s r s', perform op x s = some (r, s') → Gives perform Q (k r)

theorem Gives.bind {χ σ : Type} {perform : (op : Op) → χ → σ → Option (Res op × σ)}
    {P : α → Prop} {Q : β → Prop} {t : Task Op Res α} {f : α → Task Op Res β}
    (h : Gives perform P t) (hf : ∀ a, P a → Gives perform Q (f a)) :
    Gives perform Q (t >>= f) := by
  induction t with
  | done a => exact hf a h
  | call op k ih => exact fun x s r s' hperform => ih r (h x s r s' hperform)

/-- A task whose operations are carried out as operations of another kind, which may fail. -/
def lift {Op' : Type} {Res' : Op' → Type} (f : Op → Op') (g : ∀ op, Res' (f op) → Option (Res op)) :
    Task Op Res α → Task Op' Res' (Option α)
  | done a => done (some a)
  | call op k => call (f op) fun r => match g op r with
    | some r => lift f g (k r)
    | none => done none

/-- A task whose operations are some of those of another kind. -/
def embed {Op' : Type} {Res' : Op' → Type} (f : Op → Op') (g : ∀ op, Res' (f op) → Res op) :
    Task Op Res α → Task Op' Res' α
  | done a => done a
  | call op k => call (f op) fun r => embed f g (k (g op r))

/-- Carried out twice over. -/
theorem embed_lift {Op' Op'' : Type} {Res' : Op' → Type} {Res'' : Op'' → Type} (f : Op → Op')
    (g : ∀ op, Res' (f op) → Option (Res op)) (f' : Op' → Op'') (g' : ∀ op, Res'' (f' op) → Res' op)
    (t : Task Op Res α) : (t.lift f g).embed f' g' =
      t.lift (fun op => f' (f op)) fun op r => g op (g' (f op) r) := by
  induction t with
  | done a => rfl
  | call op k ih =>
      rw [lift, embed, lift]
      refine congrArg (call (f' (f op))) (funext fun r => ?_)
      cases g op (g' (f op) r) with
      | none => rfl
      | some r => exact ih r

/-! ### Operations that may fail -/

/-- What becomes of an operation. -/
inductive Fate
  | succeeds
  | fails
  deriving DecidableEq

/-- An operation that may fail: then what is left of the task is given up. -/
def attempt {Ans : Op → Type} (op : Op) : OptionT (Task Op fun op => Option (Ans op)) (Ans op) :=
  OptionT.mk (await op)

/-- What an operation does that may fail: where it does, nothing. -/
def attempted {Ans : Op → Type} {σ : Type} (answer : (op : Op) → σ → Ans op × σ) (op : Op) :
    Fate → σ → Option (Option (Ans op) × σ)
  | .succeeds, s => some (some (answer op s).1, (answer op s).2)
  | .fails, s => some (none, s)

/-- A failed operation changes nothing, and one that succeeds does what it does. -/
theorem attempted_cases {Ans : Op → Type} {σ : Type} {answer : (op : Op) → σ → Ans op × σ} {op : Op}
    {x : Fate} {s s' : σ} {r : Option (Ans op)} (h : attempted answer op x s = some (r, s')) :
    (x = .fails ∧ r = none ∧ s' = s) ∨
      (x = .succeeds ∧ r = some (answer op s).1 ∧ s' = (answer op s).2) := by
  cases x with
  | succeeds =>
      obtain ⟨rfl, rfl⟩ := Prod.mk.inj (Option.some.inj h)
      exact Or.inr ⟨rfl, rfl, rfl⟩
  | fails =>
      obtain ⟨rfl, rfl⟩ := Prod.mk.inj (Option.some.inj h)
      exact Or.inl ⟨rfl, rfl, rfl⟩

end Task

namespace Async

/-- What the calls do, and what the operations do, of which thread and in which call: `none` is an
operation that is blocked. -/
structure System (σ κ Op : Type) (Res : Op → Type) (χ α : Type) where
  body : κ → Task Op Res α
  perform : ℕ → κ → (op : Op) → χ → σ → Option (Res op × σ)

/-- A call that was made: the store it began in and what is left of it. -/
structure Thread (σ κ Op : Type) (Res : Op → Type) (α : Type) where
  call : κ
  began : σ
  task : Task Op Res α

/-- A store and the calls that were made. -/
structure Pool (σ κ Op : Type) (Res : Op → Type) (α : Type) where
  store : σ
  threads : List (Thread σ κ Op Res α)

/-- What can happen: a call is made, or one goes on. -/
inductive Act (κ χ : Type)
  | start (c : κ)
  | resume (n : ℕ) (x : χ)

variable {σ κ Op : Type} {Res : Op → Type} {χ α β γ : Type}

/-- A store without calls. -/
def Pool.init (s : σ) : Pool σ κ Op Res α := { store := s, threads := [] }

/-- The next operation of a thread. -/
def Pool.resume (sys : System σ κ Op Res χ α) (p : Pool σ κ Op Res α) (n : ℕ) (x : χ) :
    Pool σ κ Op Res α :=
  match p.threads[n]? with
  | some { call, began, task := .call op k } =>
    match sys.perform n call op x p.store with
    | some (r, s) => { store := s, threads := p.threads.set n { call, began, task := k r } }
    | none => p
  | _ => p

/-- One action. -/
def step (sys : System σ κ Op Res χ α) (p : Pool σ κ Op Res α) : Act κ χ → Pool σ κ Op Res α
  | .start c =>
    { p with threads := p.threads ++ [{ call := c, began := p.store, task := sys.body c }] }
  | .resume n x => p.resume sys n x

/-- A thread that has ended, and with what. -/
def Pool.ended (p : Pool σ κ Op Res α) (n : ℕ) (c : κ) (a : α) : Prop :=
  ∃ t, p.threads[n]? = some t ∧ t.call = c ∧ t.task = .done a

/-- A thread that has not ended. -/
def Pool.running (p : Pool σ κ Op Res α) (n : ℕ) (c : κ) : Prop :=
  ∃ t, p.threads[n]? = some t ∧ t.call = c ∧ ∀ a, t.task ≠ .done a

/-- The call of a thread and the operation it waits for. -/
def Pool.next (p : Pool σ κ Op Res α) (n : ℕ) : Option (κ × Op) :=
  p.threads[n]?.bind fun t => t.task.next.map (t.call, ·)

/-- Every call has ended. -/
def Pool.Settled (p : Pool σ κ Op Res α) : Prop := ∀ t ∈ p.threads, ∃ a, t.task = .done a

instance (p : Pool σ κ Op Res α) : Decidable p.Settled :=
  decidable_of_iff (∀ t ∈ p.threads, t.task.result.isSome = true) (forall₂_congr fun _ _ =>
    Option.isSome_iff_exists.trans (exists_congr fun _ => Task.result_eq_some))

theorem settled_init (s : σ) : (Pool.init s : Pool σ κ Op Res α).Settled :=
  fun _ ht => absurd ht List.not_mem_nil

/-- What going on with a thread does: nothing, or one operation of that thread. -/
theorem resume_cases (sys : System σ κ Op Res χ α) (p : Pool σ κ Op Res α) (n : ℕ) (x : χ) :
    p.resume sys n x = p ∨
      ∃ t op k r s, p.threads[n]? = some t ∧ t.task = .call op k ∧
        sys.perform n t.call op x p.store = some (r, s) ∧
        p.resume sys n x = { store := s, threads := p.threads.set n { t with task := k r } } := by
  unfold Pool.resume
  split
  · rename_i c b op k hthread
    split
    · rename_i r s hperform
      exact Or.inr ⟨_, op, k, r, s, hthread, rfl, hperform, rfl⟩
    · exact Or.inl rfl
  · exact Or.inl rfl

theorem next_of_call {p : Pool σ κ Op Res α} {n : ℕ} {t : Thread σ κ Op Res α} {op : Op}
    {k : Res op → Task Op Res α} (ht : p.threads[n]? = some t) (htask : t.task = .call op k) :
    (t.call, op) ∈ p.next n := by
  rw [Pool.next, ht, Option.bind_some, htask]
  rfl

theorem getElem?_start {ts : List (Thread σ κ Op Res α)} {t t' : Thread σ κ Op Res α} {n : ℕ}
    (h : (ts ++ [t])[n]? = some t') : ts[n]? = some t' ∨ (n = ts.length ∧ t' = t) := by
  rw [List.getElem?_append] at h
  split_ifs at h with hlt
  · exact Or.inl h
  · rw [List.getElem?_singleton] at h
    split_ifs at h with hzero
    exact Or.inr ⟨by omega, (Option.some.inj h).symm⟩

theorem getElem?_resumed {ts : List (Thread σ κ Op Res α)} {t t' : Thread σ κ Op Res α} {m n : ℕ}
    (h : (ts.set n t)[m]? = some t') : (m = n ∧ t' = t) ∨ (m ≠ n ∧ ts[m]? = some t') := by
  rw [List.getElem?_set] at h
  split_ifs at h with heq hlt
  · exact Or.inl ⟨heq.symm, (Option.some.inj h).symm⟩
  · exact Or.inr ⟨Ne.symm heq, h⟩

theorem lt_length_of_getElem? {ts : List (Thread σ κ Op Res α)} {t : Thread σ κ Op Res α} {n : ℕ}
    (h : ts[n]? = some t) : n < ts.length :=
  (List.getElem?_eq_some_iff.1 h).1

/-- **What ends a call** is its last operation, or it has none. -/
theorem ended_step {sys : System σ κ Op Res χ α} {p : Pool σ κ Op Res α} {a : Act κ χ} {n : ℕ}
    {c : κ} {b : α} (h : (step sys p a).ended n c b) (hnot : ¬ p.ended n c b) :
    (a = .start c ∧ sys.body c = .done b) ∨ ∃ op x r, a = .resume n x ∧ (c, op) ∈ p.next n ∧
      sys.perform n c op x p.store = some (r, (step sys p a).store) := by
  obtain ⟨t, ht, rfl, hdone⟩ := h
  cases a with
  | start c =>
      rcases getElem?_start ht with ht | ⟨-, rfl⟩
      · exact absurd ⟨t, ht, rfl, hdone⟩ hnot
      · exact Or.inl ⟨rfl, hdone⟩
  | resume m x =>
      change (p.resume sys m x).threads[n]? = some t at ht
      rcases resume_cases sys p m x with hsame | ⟨t', op, k, r, s, ht', htask, hperform, hresume⟩
      · rw [hsame] at ht
        exact absurd ⟨t, ht, rfl, hdone⟩ hnot
      · change _ ∨ ∃ op x' r, Act.resume m x = .resume n x' ∧ (t.call, op) ∈ p.next n ∧
          sys.perform n t.call op x' p.store = some (r, (p.resume sys m x).store)
        rw [hresume] at ht ⊢
        rcases getElem?_resumed ht with ⟨rfl, rfl⟩ | ⟨-, ht⟩
        · have hnext : (t'.call, op) ∈ p.next n := next_of_call ht' htask
          exact Or.inr ⟨op, x, r, rfl, hnext, hperform⟩
        · exact absurd ⟨t, ht, rfl, hdone⟩ hnot

/-! ### Rely and guarantee -/

/-- The condition, for the step an action takes: on its thread, its call, its operation, what the
environment decides and the store. -/
def MeetsAt (cond : ℕ → κ → Op → χ → σ → Prop) (p : Pool σ κ Op Res α) : Act κ χ → Prop
  | .start _ => True
  | .resume n x => ∀ i ∈ p.next n, cond n i.1 i.2 x p.store

/-- A condition that is the same for all threads. -/
abbrev Meets (cond : κ → Op → χ → σ → Prop) (p : Pool σ κ Op Res α) (a : Act κ χ) : Prop :=
  MeetsAt (fun _ => cond) p a

instance (cond : ℕ → κ → Op → χ → σ → Prop) [∀ n c op x s, Decidable (cond n c op x s)]
    (p : Pool σ κ Op Res α) (a : Act κ χ) : Decidable (MeetsAt cond p a) :=
  match a with
  | .start _ => isTrue trivial
  | .resume n x => inferInstanceAs (Decidable (∀ i ∈ p.next n, cond n i.1 i.2 x p.store))

/-- How threads use a store: what always holds of it, what each thread counts on about the changes
the others make, the condition the steps are to meet, and what is known of a thread all along,
by its call and the store it began in; of one that has not begun, by `none`. -/
structure Discipline (σ κ Op χ : Type) where
  Inv : σ → Prop
  Rely : ℕ → σ → σ → Prop
  Cond : ℕ → κ → Op → χ → σ → Prop
  Local : ℕ → Option (κ × σ) → σ → Prop
  refl : ∀ n s, Rely n s s
  trans : ∀ n s s' s'', Rely n s s' → Rely n s' s'' → Rely n s s''
  stays : ∀ n i s s', Rely n s s' → Local n i s → Local n i s'

/-- The step of a thread keeps the invariant and what is known of the thread, and is one the others
count on. -/
structure Discipline.Guarantees (d : Discipline σ κ Op χ) (n : ℕ) (i : κ × σ) (s s' : σ) : Prop where
  inv : d.Inv s'
  others : ∀ m, m ≠ n → d.Rely m s s'
  own : d.Local n (some i) s'

/-- What is left of thread `n` keeps to the discipline and ends with `Q`, whatever the others do. -/
def Safe (d : Discipline σ κ Op χ) (perform : ℕ → κ → (op : Op) → χ → σ → Option (Res op × σ))
    (n : ℕ) (i : κ × σ) (Q : α → σ → Prop) : Task Op Res α → σ → Prop
  | .done a, s => ∀ s', d.Inv s' → d.Local n (some i) s' → d.Rely n s s' → Q a s'
  | .call op k, s => ∀ s₁, d.Inv s₁ → d.Local n (some i) s₁ → d.Rely n s s₁ → ∀ x r s₂,
      d.Cond n i.1 op x s₁ → perform n i.1 op x s₁ = some (r, s₂) →
        d.Guarantees n i s₁ s₂ ∧ Safe d perform n i Q (k r) s₂

variable {d : Discipline σ κ Op χ} {perform : ℕ → κ → (op : Op) → χ → σ → Option (Res op × σ)}
  {n : ℕ} {i : κ × σ} {Q : α → σ → Prop}

/-- A step in two parts. -/
theorem Discipline.Guarantees.trans {s s' s'' : σ} (h : d.Guarantees n i s s')
    (h' : d.Guarantees n i s' s'') : d.Guarantees n i s s'' :=
  { inv := h'.inv
    others := fun m hm => d.trans m _ _ _ (h.others m hm) (h'.others m hm)
    own := h'.own }

/-- What the others do leaves a thread safe. -/
theorem Safe.rely {t : Task Op Res α} {s s' : σ} (h : Safe d perform n i Q t s)
    (hrely : d.Rely n s s') : Safe d perform n i Q t s' := by
  cases t with
  | done a => exact fun s'' hinv hown hrely' => h s'' hinv hown (d.trans n _ _ _ hrely hrely')
  | call op k => exact fun s₁ hinv hown hrely' => h s₁ hinv hown (d.trans n _ _ _ hrely hrely')

/-- A weaker end is easier to reach. -/
theorem Safe.mono {P : α → σ → Prop} {t : Task Op Res α} {s : σ} (h : Safe d perform n i P t s)
    (hPQ : ∀ a s, d.Inv s → P a s → Q a s) : Safe d perform n i Q t s := by
  induction t generalizing s with
  | done a => exact fun s' hinv hown hrely => hPQ a s' hinv (h s' hinv hown hrely)
  | call op k ih =>
      intro s₁ hinv hown hrely x r s₂ hcond hperform
      obtain ⟨hguar, hnext⟩ := h s₁ hinv hown hrely x r s₂ hcond hperform
      exact ⟨hguar, ih r hnext⟩

/-- **A sequence is safe if its parts are**: the second wherever the first may end. -/
theorem Safe.bind {P : β → σ → Prop} {t : Task Op Res β} {f : β → Task Op Res α} {s : σ}
    (hinv : d.Inv s) (hown : d.Local n (some i) s) (h : Safe d perform n i P t s)
    (hf : ∀ b s, d.Inv s → d.Local n (some i) s → P b s → Safe d perform n i Q (f b) s) :
    Safe d perform n i Q (t >>= f) s := by
  induction t generalizing s with
  | done b => exact hf b s hinv hown (h s hinv hown (d.refl n s))
  | call op k ih =>
      intro s₁ hinv₁ hown₁ hrely x r s₂ hcond hperform
      obtain ⟨hguar, hnext⟩ := h s₁ hinv₁ hown₁ hrely x r s₂ hcond hperform
      exact ⟨hguar, ih r hguar.inv hguar.own hnext⟩

/-- **A sequence that may fail is safe if its parts are**, and if it may end where the first part
fails. -/
theorem Safe.bindOption {P : β → σ → Prop} {Q : Option α → σ → Prop}
    {t : OptionT (Task Op Res) β} {f : β → OptionT (Task Op Res) α} {s : σ} (hinv : d.Inv s)
    (hown : d.Local n (some i) s)
    (h : Safe d perform n i (fun b s => match b with | some b => P b s | none => Q none s) t.run s)
    (hstable : ∀ s s', d.Inv s' → d.Rely n s s' → Q none s → Q none s')
    (hf : ∀ b s, d.Inv s → d.Local n (some i) s → P b s → Safe d perform n i Q (f b).run s) :
    Safe d perform n i Q (t >>= f).run s := by
  refine Safe.bind hinv hown h fun b s hinv hown hb => ?_
  cases b with
  | some b => exact hf b s hinv hown hb
  | none => exact fun s' hinv' _ hrely => hstable s s' hinv' hrely hb

/-- A task that has ended is safe if its end is stable. -/
theorem safe_done {a : α} {s : σ} (h : Q a s)
    (hstable : ∀ s', d.Inv s' → d.Rely n s s' → Q a s → Q a s') :
    Safe d perform n i Q (.done a) s :=
  fun s' hinv _ hrely => hstable s' hinv hrely h

/-- **A task of operations that may fail** does what it gives, where they are carried out and the
condition lets none of them fail. -/
theorem safe_lift {Op₀ χ₀ σ₀ : Type} {Res₀ : Op₀ → Type} {f : Op₀ → Op}
    {g : ∀ op, Res (f op) → Option (Res₀ op)} (proj : σ → σ₀)
    {perform₀ : (op : Op₀) → χ₀ → σ₀ → Option (Res₀ op × σ₀)} (P : σ → Prop) {Q : β → Prop}
    (hstable : ∀ s s', d.Rely n s s' → P s → P s')
    (hop : ∀ op x s r s', d.Inv s → d.Local n (some i) s → P s → d.Cond n i.1 (f op) x s →
      perform n i.1 (f op) x s = some (r, s') → d.Guarantees n i s s' ∧ P s' ∧
        ∃ x₀ r₀, g op r = some r₀ ∧ perform₀ op x₀ (proj s) = some (r₀, proj s'))
    {t : Task Op₀ Res₀ β} {s : σ} (hp : P s) (h : t.Gives perform₀ Q) :
    Safe d perform n i (fun b s => P s ∧ ∃ a, b = some a ∧ Q a) (t.lift f g) s := by
  induction t generalizing s with
  | done a => exact safe_done ⟨hp, a, rfl, h⟩ fun s' _ hrely h => ⟨hstable _ _ hrely h.1, h.2⟩
  | call op k ih =>
      rw [Task.lift]
      intro s₁ hinv hown hrely x r s₂ hcond hperform
      obtain ⟨hguar, hp', x₀, r₀, hr, hperform₀⟩ :=
        hop op x s₁ r s₂ hinv hown (hstable _ _ hrely hp) hcond hperform
      refine ⟨hguar, ?_⟩
      simp only [hr]
      exact ih r₀ hp' (h x₀ _ r₀ _ hperform₀)

/-- **A task of operations that may fail** keeps what each of them keeps. -/
theorem safe_lift_keeps {Op₀ : Type} {Res₀ : Op₀ → Type} {f : Op₀ → Op}
    {g : ∀ op, Res (f op) → Option (Res₀ op)} (P : σ → Prop)
    (hstable : ∀ s s', d.Rely n s s' → P s → P s')
    (hop : ∀ op x s r s', d.Inv s → d.Local n (some i) s → P s →
      perform n i.1 (f op) x s = some (r, s') → d.Guarantees n i s s' ∧ P s') (t : Task Op₀ Res₀ β) {s : σ} (hp : P s) :
    Safe d perform n i (fun _ => P) (t.lift f g) s := by
  induction t generalizing s with
  | done a => exact safe_done hp fun s' _ => hstable s s'
  | call op k ih =>
      rw [Task.lift]
      intro s₁ hinv hown hrely x r s₂ _ hperform
      obtain ⟨hguar, hp'⟩ := hop op x s₁ r s₂ hinv hown (hstable s s₁ hrely hp) hperform
      refine ⟨hguar, ?_⟩
      cases hr : g op r with
      | none =>
          simp only [hr]
          exact safe_done hp' fun s' _ hrely' h => hstable s₂ s' hrely' h
      | some r =>
          simp only [hr]
          exact ih r hp'

/-! ### Parts that may fail -/

/-- A part of thread `n` that begins where `P` holds keeps to the discipline and, where it succeeds,
ends with `Q`. -/
def Does (d : Discipline σ κ Op χ)
    (perform : ℕ → κ → (op : Op) → χ → σ → Option (Res op × σ)) (n : ℕ) (i : κ × σ) (P : σ → Prop)
    (t : OptionT (Task Op Res) α) (Q : α → σ → Prop) : Prop :=
  ∀ s, d.Inv s → d.Local n (some i) s → P s →
    Safe d perform n i (fun b s => ∀ a, b = some a → Q a s) t.run s

/-- A part that does nothing. -/
theorem does_pure {P : σ → Prop} {Q : α → σ → Prop} {a : α} (h : ∀ s, d.Inv s → P s → Q a s)
    (hstable : ∀ s s', d.Rely n s s' → Q a s → Q a s') :
    Does d perform n i P (pure a : OptionT (Task Op Res) α) Q :=
  fun s hinv _ hp s' _ _ hrely _ hb => Option.some.inj hb ▸ hstable s s' hrely (h s hinv hp)

/-- A part that fails unless there is a value. -/
theorem does_option {P : σ → Prop} {Q : α → σ → Prop} {o : Option α}
    (h : ∀ a s, o = some a → d.Inv s → P s → Q a s)
    (hstable : ∀ a s s', d.Rely n s s' → Q a s → Q a s') :
    Does d perform n i P (OptionT.mk (pure o) : OptionT (Task Op Res) α) Q :=
  fun s hinv _ hp s' _ _ hrely a ha => hstable a s s' hrely (h a s ha hinv hp)

/-- **One part after the other.** -/
theorem Does.bind {P : σ → Prop} {Q : β → σ → Prop} {R : α → σ → Prop}
    {t : OptionT (Task Op Res) β} {f : β → OptionT (Task Op Res) α}
    (h : Does d perform n i P t Q) (hf : ∀ b, Does d perform n i (Q b) (f b) R) :
    Does d perform n i P (t >>= f) R := by
  intro s hinv hown hp
  refine Safe.bind hinv hown (h s hinv hown hp) fun b s hinv hown hb => ?_
  cases b with
  | some b => exact hf b s hinv hown (hb b rfl)
  | none => exact fun _ _ _ _ _ ha => nomatch ha

/-- What holds before may be more, and what is shown of the end less. -/
theorem Does.mono {P P' : σ → Prop} {Q Q' : α → σ → Prop} {t : OptionT (Task Op Res) α}
    (h : Does d perform n i P t Q) (hP : ∀ s, d.Inv s → P' s → P s)
    (hQ : ∀ a s, d.Inv s → Q a s → Q' a s) : Does d perform n i P' t Q' :=
  fun s hinv hown hp => (h s hinv hown (hP s hinv hp)).mono fun _ s hinv hb a ha => hQ a s hinv (hb a ha)

/-- **One operation that may fail**: it keeps to the discipline wherever it is carried out. -/
theorem does_attempt {Ans : Op → Type} {op : Op}
    {perform : ℕ → κ → (op : Op) → χ → σ → Option (Option (Ans op) × σ)} {P : σ → Prop}
    {Q : Ans op → σ → Prop} (hP : ∀ s s', d.Rely n s s' → P s → P s')
    (hQ : ∀ a s s', d.Rely n s s' → Q a s → Q a s')
    (hop : ∀ s x r s', d.Inv s → d.Local n (some i) s → P s → perform n i.1 op x s = some (r, s') →
      d.Guarantees n i s s' ∧ ∀ a, r = some a → Q a s') :
    Does d perform n i P (Task.attempt op) Q := by
  intro s hinv hown hp s₁ hinv₁ hown₁ hrely x r s₂ hcond hperform
  obtain ⟨hguar, hend⟩ := hop s₁ x r s₂ hinv₁ hown₁ (hP s s₁ hrely hp) hperform
  exact ⟨hguar, fun s₃ _ _ hrely' a ha => hQ a s₂ s₃ hrely' (hend a ha)⟩

variable (sys : System σ κ Op Res χ α) (d) (Q : ℕ → κ × σ → α → σ → Prop)

/-- Every call is safe where it begins. -/
def Discipline.Starts : Prop :=
  ∀ n c s, d.Inv s → d.Local n none s →
    d.Local n (some (c, s)) s ∧ Safe d sys.perform n (c, s) (Q n (c, s)) (sys.body c) s

/-- A pool whose store keeps the invariant and whose threads are safe. -/
structure Sound (p : Pool σ κ Op Res α) : Prop where
  inv : d.Inv p.store
  fresh : ∀ n, p.threads.length ≤ n → d.Local n none p.store
  own : ∀ n t, p.threads[n]? = some t → d.Local n (some (t.call, t.began)) p.store
  safe : ∀ n t, p.threads[n]? = some t →
    Safe d sys.perform n (t.call, t.began) (Q n (t.call, t.began)) t.task p.store

variable {sys d Q}

theorem sound_init {s : σ} (h : d.Inv s) (hfresh : ∀ n, d.Local n none s) :
    Sound d sys Q (Pool.init s) :=
  { inv := h
    fresh := fun n _ => hfresh n
    own := fun _ _ ht => nomatch ht
    safe := fun _ _ ht => nomatch ht }

/-- **A call that is safe where it begins** keeps a pool sound. -/
theorem sound_start {p : Pool σ κ Op Res α} (h : Sound d sys Q p) {c : κ}
    (hown : d.Local p.threads.length (some (c, p.store)) p.store)
    (hsafe : Safe d sys.perform p.threads.length (c, p.store) (Q p.threads.length (c, p.store))
      (sys.body c) p.store) : Sound d sys Q (step sys p (.start c)) := by
  refine ⟨h.inv, fun n hn => h.fresh n ?_, fun n t ht => ?_, fun n t ht => ?_⟩
  · rw [step, List.length_append] at hn
    omega
  · rcases getElem?_start ht with ht | ⟨rfl, rfl⟩
    · exact h.own n t ht
    · exact hown
  · rcases getElem?_start ht with ht | ⟨rfl, rfl⟩
    · exact h.safe n t ht
    · exact hsafe

/-- **A call that goes on** keeps a pool sound, and changes the store as every thread but one counts
on. -/
theorem sound_resume {p : Pool σ κ Op Res α} (h : Sound d sys Q p) {n : ℕ} {x : χ}
    (hmeets : MeetsAt d.Cond p (.resume n x)) :
    Sound d sys Q (p.resume sys n x) ∧
      ∃ n', ∀ m, m ≠ n' → d.Rely m p.store (p.resume sys n x).store := by
  rcases resume_cases sys p n x with hsame | ⟨t, op, k, r, s, ht, htask, hperform, hresume⟩
  · rw [hsame]
    exact ⟨h, 0, fun m _ => d.refl m p.store⟩
  · have hsafe := h.safe n t ht
    rw [htask] at hsafe
    obtain ⟨hguar, hnext⟩ := hsafe p.store h.inv (h.own n t ht) (d.refl n p.store) x r s
      (hmeets _ (next_of_call ht htask)) hperform
    rw [hresume]
    refine ⟨⟨hguar.inv, fun m hm => ?_, fun m t' ht' => ?_, fun m t' ht' => ?_⟩, n, hguar.others⟩
    · have hlt := lt_length_of_getElem? ht
      rw [List.length_set] at hm
      exact d.stays m _ _ _ (hguar.others m (by omega)) (h.fresh m hm)
    · rcases getElem?_resumed ht' with ⟨rfl, rfl⟩ | ⟨hne, ht'⟩
      · exact hguar.own
      · exact d.stays m _ _ _ (hguar.others m hne) (h.own m t' ht')
    · rcases getElem?_resumed ht' with ⟨rfl, rfl⟩ | ⟨hne, ht'⟩
      · exact hnext
      · exact (h.safe m t' ht').rely (hguar.others m hne)

/-- **One action keeps a pool sound**, and changes the store as every thread but one counts on. -/
theorem sound_step (hstart : d.Starts sys Q) {p : Pool σ κ Op Res α} (h : Sound d sys Q p)
    {a : Act κ χ} (hmeets : MeetsAt d.Cond p a) :
    Sound d sys Q (step sys p a) ∧ ∃ n, ∀ m, m ≠ n → d.Rely m p.store (step sys p a).store := by
  cases a with
  | start c =>
      obtain ⟨hown, hsafe⟩ := hstart p.threads.length c p.store h.inv (h.fresh _ (Nat.le_refl _))
      exact ⟨sound_start h hown hsafe, 0, fun m _ => d.refl m p.store⟩
  | resume n x => exact sound_resume h hmeets

/-- **The rule of rely and guarantee.**  If every call is safe wherever it may begin, then after
every run whose steps meet the condition the invariant holds and all calls are safe. -/
theorem sound_run (hstart : d.Starts sys Q) {p : Pool σ κ Op Res α} (h : Sound d sys Q p)
    {as : List (Act κ χ)} (hmeets : ∀ e ∈ events (step sys) p as, MeetsAt d.Cond e.pre e.act) :
    Sound d sys Q (run (step sys) p as) :=
  run_induction_of (P := Sound d sys Q) h (fun _ _ hp ha => (sound_step hstart hp ha).1) hmeets

/-- What a call that has ended has shown. -/
theorem Sound.ended {p : Pool σ κ Op Res α} (h : Sound d sys Q p) {n : ℕ}
    {t : Thread σ κ Op Res α} {a : α} (ht : p.threads[n]? = some t) (ha : t.task = .done a) :
    Q n (t.call, t.began) a p.store := by
  have hsafe := h.safe n t ht
  rw [ha] at hsafe
  exact hsafe p.store h.inv (h.own n t ht) (d.refl n p.store)

/-- **What every thread counts on stays**: a property of the store that no change undoes. -/
theorem stable_run (hstart : d.Starts sys Q) {P : σ → Prop}
    (hstable : ∀ n s s', d.Rely n s s' → P s → P s') {p : Pool σ κ Op Res α} (h : Sound d sys Q p)
    (hp : P p.store) {as : List (Act κ χ)}
    (hmeets : ∀ e ∈ events (step sys) p as, MeetsAt d.Cond e.pre e.act) :
    P (run (step sys) p as).store := by
  have hboth : Sound d sys Q (run (step sys) p as) ∧ P (run (step sys) p as).store := by
    refine run_induction_of (P := fun p => Sound d sys Q p ∧ P p.store) ⟨h, hp⟩ ?_ hmeets
    intro p a ⟨hsound, hP⟩ ha
    obtain ⟨hnext, n, hrely⟩ := sound_step hstart hsound ha
    exact ⟨hnext, hstable (n + 1) _ _ (hrely (n + 1) (Nat.succ_ne_self n)) hP⟩
  exact hboth.2

/-! ### When a call began -/

/-- The call of a thread after an action: the one it had, or the one that was made. -/
theorem thread_step {p : Pool σ κ Op Res α} {a : Act κ χ} {n : ℕ} {t : Thread σ κ Op Res α}
    (ht : (step sys p a).threads[n]? = some t) :
    (∃ t₀, p.threads[n]? = some t₀ ∧ t₀.call = t.call ∧ t₀.began = t.began) ∨
      (n = p.threads.length ∧ a = .start t.call ∧ t.began = p.store) := by
  cases a with
  | start c =>
      rcases getElem?_start ht with ht | ⟨rfl, rfl⟩
      · exact Or.inl ⟨t, ht, rfl, rfl⟩
      · exact Or.inr ⟨rfl, rfl, rfl⟩
  | resume m x =>
      change (p.resume sys m x).threads[n]? = some t at ht
      rcases resume_cases sys p m x with hsame | ⟨t', op, k, r, s, ht', htask, hperform, hresume⟩
      · rw [hsame] at ht
        exact Or.inl ⟨t, ht, rfl, rfl⟩
      · rw [hresume] at ht
        rcases getElem?_resumed ht with ⟨rfl, rfl⟩ | ⟨-, ht⟩
        · exact Or.inl ⟨t', ht', rfl, rfl⟩
        · exact Or.inl ⟨t, ht, rfl, rfl⟩

/-- **A thread that was not there before began on the way**, in the store of that moment. -/
theorem began_of_run {p : Pool σ κ Op Res α} {as : List (Act κ χ)} {n : ℕ}
    {t : Thread σ κ Op Res α} (ht : (run (step sys) p as).threads[n]? = some t)
    (hnew : p.threads[n]? = none) :
    ∃ bs cs, as = bs ++ .start t.call :: cs ∧ t.began = (run (step sys) p bs).store := by
  induction as using List.reverseRecOn generalizing t with
  | nil =>
      rw [run_nil, hnew] at ht
      cases ht
  | append_singleton as a ih =>
      rw [run_concat] at ht
      rcases thread_step ht with ⟨t₀, ht₀, hcall, hbegan⟩ | ⟨-, rfl, hbegan⟩
      · obtain ⟨bs, cs, rfl, hstore⟩ := ih ht₀
        refine ⟨bs, cs ++ [a], ?_, hbegan ▸ hstore⟩
        rw [hcall, List.append_assoc, List.cons_append]
      · exact ⟨as, [], rfl, hbegan⟩

/-- **What is known of every thread**, by its call, the store it began in and what is left of it: it
holds where a call begins, and its own operations and those of the others keep it. -/
theorem threads_run {P : κ → σ → Task Op Res α → σ → Prop} (hbegin : ∀ c s, P c s (sys.body c) s)
    (hown : ∀ n c b op k x s r s', P c b (.call op k) s → sys.perform n c op x s = some (r, s') →
      P c b (k r) s')
    (hothers : ∀ n c c' b t op x s r s', P c b t s → sys.perform n c' op x s = some (r, s') →
      P c b t s') {p : Pool σ κ Op Res α}
    (h : ∀ (n : ℕ) (t : Thread σ κ Op Res α), p.threads[n]? = some t →
      P t.call t.began t.task p.store) (as : List (Act κ χ)) :
    ∀ (n : ℕ) (t : Thread σ κ Op Res α), (run (step sys) p as).threads[n]? = some t →
      P t.call t.began t.task (run (step sys) p as).store := by
  refine run_induction (P := fun q : Pool σ κ Op Res α =>
    ∀ (n : ℕ) (t : Thread σ κ Op Res α), q.threads[n]? = some t → P t.call t.began t.task q.store) h
    (fun q a hq n t ht => ?_) as
  cases a with
  | start c =>
      rcases getElem?_start ht with ht | ⟨rfl, rfl⟩
      · exact hq n t ht
      · exact hbegin c q.store
  | resume m x =>
      change (q.resume sys m x).threads[n]? = some t at ht
      change P t.call t.began t.task (q.resume sys m x).store
      rcases resume_cases sys q m x with hsame | ⟨u, op, k, r, s, hu, htask, hperform, hresume⟩
      · rw [hsame] at ht ⊢
        exact hq n t ht
      · rw [hresume] at ht ⊢
        rcases getElem?_resumed ht with ⟨rfl, rfl⟩ | ⟨-, ht⟩
        · have hprev : P u.call u.began u.task q.store := hq n u hu
          rw [htask] at hprev
          exact hown n u.call u.began op k x q.store r s hprev hperform
        · exact hothers m t.call u.call t.began t.task op x q.store r s (hq n t ht) hperform

/-- **A thread stays**, and so does its call. -/
theorem call_stays {p : Pool σ κ Op Res α} {n : ℕ} {t : Thread σ κ Op Res α}
    (ht : p.threads[n]? = some t) (as : List (Act κ χ)) :
    ∃ t', (run (step sys) p as).threads[n]? = some t' ∧ t'.call = t.call := by
  refine run_induction (P := fun q : Pool σ κ Op Res α =>
    ∃ t', q.threads[n]? = some t' ∧ t'.call = t.call) ⟨t, ht, rfl⟩ (fun q a hq => ?_) as
  obtain ⟨t', ht', hcall⟩ := hq
  have hlt := lt_length_of_getElem? ht'
  cases a with
  | start c => exact ⟨t', (List.getElem?_append_left hlt).trans ht', hcall⟩
  | resume m x =>
      change ∃ t', (q.resume sys m x).threads[n]? = some t' ∧ t'.call = t.call
      rcases resume_cases sys q m x with hsame | ⟨u, op, k, r, s, hu, -, -, hresume⟩
      · rw [hsame]
        exact ⟨t', ht', hcall⟩
      · rw [hresume]
        by_cases hm : m = n
        · subst hm
          obtain rfl : u = t' := Option.some.inj (hu.symm.trans ht')
          exact ⟨_, List.getElem?_set_self hlt, hcall⟩
        · exact ⟨t', (List.getElem?_set_ne hm).trans ht', hcall⟩

/-- **What stays holds where later calls begin.** -/
theorem stable_began (hstart : d.Starts sys Q) {P : σ → Prop}
    (hstable : ∀ n s s', d.Rely n s s' → P s → P s') {p : Pool σ κ Op Res α} (h : Sound d sys Q p)
    (hp : P p.store) {as : List (Act κ χ)}
    (hmeets : ∀ e ∈ events (step sys) p as, MeetsAt d.Cond e.pre e.act) {n : ℕ}
    {t : Thread σ κ Op Res α} (ht : (run (step sys) p as).threads[n]? = some t)
    (hnew : p.threads[n]? = none) : P t.began := by
  obtain ⟨bs, cs, rfl, hbegan⟩ := began_of_run ht hnew
  rw [hbegan]
  exact stable_run hstart hstable h hp (forall_events_append.1 hmeets).1

/-! ### Histories -/

/-- A record beside the store of what the calls have done, which they do not read. -/
def System.withHistory (sys : System σ κ Op Res χ α)
    (record : ℕ → κ → Op → χ → σ → γ → γ) : System (σ × γ) κ Op Res χ α where
  body := sys.body
  perform n c op x s :=
    (sys.perform n c op x s.1).map fun o => (o.1, o.2, record n c op x s.1 s.2)

/-- **What is recorded of an operation that may fail**: it fails, or it does what it does. -/
theorem history_cases {Ans : Op → Type} {answer : (op : Op) → σ → Ans op × σ}
    {body : κ → Task Op (fun op => Option (Ans op)) α} {record : ℕ → κ → Op → Task.Fate → σ → γ → γ}
    {n : ℕ} {c : κ} {op : Op} {x : Task.Fate} {s s' : σ × γ} {r : Option (Ans op)}
    (h : (System.withHistory { body, perform := fun _ _ => Task.attempted answer } record).perform
      n c op x s = some (r, s')) :
    (x = .fails ∧ r = none ∧ s' = (s.1, record n c op x s.1 s.2)) ∨
      (x = .succeeds ∧ r = some (answer op s.1).1 ∧
        s' = ((answer op s.1).2, record n c op x s.1 s.2)) := by
  obtain ⟨⟨r', s''⟩, hperform, heq⟩ := Option.map_eq_some_iff.1 h
  obtain ⟨rfl, rfl⟩ := Prod.mk.inj heq
  rcases Task.attempted_cases hperform with ⟨hx, hr, rfl⟩ | ⟨hx, hr, rfl⟩
  · exact Or.inl ⟨hx, hr, rfl⟩
  · exact Or.inr ⟨hx, hr, rfl⟩

/-- A thread without the history. -/
def Thread.forget (t : Thread (σ × γ) κ Op Res α) : Thread σ κ Op Res α :=
  { call := t.call, began := t.began.1, task := t.task }

/-- A pool without the history. -/
def Pool.forget (p : Pool (σ × γ) κ Op Res α) : Pool σ κ Op Res α :=
  { store := p.store.1, threads := p.threads.map Thread.forget }

variable {record : ℕ → κ → Op → χ → σ → γ → γ}

theorem getElem?_forget (p : Pool (σ × γ) κ Op Res α) (n : ℕ) :
    p.forget.threads[n]? = p.threads[n]?.map Thread.forget :=
  List.getElem?_map

theorem next_forget (p : Pool (σ × γ) κ Op Res α) (n : ℕ) : p.forget.next n = p.next n := by
  rw [Pool.next, Pool.next, getElem?_forget]
  cases p.threads[n]? <;> rfl

/-- **A history changes nothing else.** -/
theorem forget_step (sys : System σ κ Op Res χ α) (p : Pool (σ × γ) κ Op Res α) (a : Act κ χ) :
    (step (sys.withHistory record) p a).forget = step sys p.forget a := by
  cases a with
  | start c => simp [step, Pool.forget, Thread.forget, System.withHistory]
  | resume n x =>
      change (p.resume (sys.withHistory record) n x).forget = p.forget.resume sys n x
      unfold Pool.resume
      rw [getElem?_forget]
      cases ht : p.threads[n]? with
      | none => rfl
      | some t =>
          obtain ⟨c, b, task⟩ := t
          cases task with
          | done a => rfl
          | call op k =>
              have hperform : (sys.withHistory record).perform n c op x p.store =
                  (sys.perform n c op x p.store.1).map fun o =>
                    (o.1, o.2, record n c op x p.store.1 p.store.2) := rfl
              simp only [Option.map_some, Thread.forget, hperform]
              change _ = match sys.perform n c op x p.store.1 with
                | some (r, s) => _
                | none => _
              cases sys.perform n c op x p.store.1 with
              | none => rfl
              | some o => simp [Pool.forget, Thread.forget, List.map_set]

theorem forget_run (sys : System σ κ Op Res χ α) (p : Pool (σ × γ) κ Op Res α)
    (as : List (Act κ χ)) :
    (run (step (sys.withHistory record)) p as).forget = run (step sys) p.forget as :=
  run_map (forget_step sys) p as

/-- A condition that does not speak of the history is met with it as without. -/
theorem meets_forget {cond : ℕ → κ → Op → χ → σ → Prop} {p : Pool (σ × γ) κ Op Res α}
    {a : Act κ χ} : MeetsAt (fun n c op x s => cond n c op x s.1) p a ↔ MeetsAt cond p.forget a := by
  cases a with
  | start c => exact Iff.rfl
  | resume n x =>
      change (∀ i ∈ p.next n, cond n i.1 i.2 x p.store.1) ↔
        ∀ i ∈ p.forget.next n, cond n i.1 i.2 x p.store.1
      rw [next_forget]

/-- **The rule, with a history.**  A run of the calls whose steps meet the condition is one of a
sound pool with a history. -/
theorem sound_history {d : Discipline (σ × γ) κ Op χ} {Q : ℕ → κ × σ × γ → α → σ × γ → Prop}
    {cond : ℕ → κ → Op → χ → σ → Prop} (hcond : d.Cond = fun n c op x s => cond n c op x s.1)
    (hstart : d.Starts (sys.withHistory record) Q) {p : Pool (σ × γ) κ Op Res α}
    (h : Sound d (sys.withHistory record) Q p) {as : List (Act κ χ)}
    (hmeets : ∀ e ∈ events (step sys) p.forget as, MeetsAt cond e.pre e.act) :
    Sound d (sys.withHistory record) Q (run (step (sys.withHistory record)) p as) := by
  refine sound_run hstart h fun e he => ?_
  rw [hcond]
  exact meets_forget.2 (events_map (forget_step sys) hmeets e he)

end Async
end Lib
