/-
# Transactions that roll back

A transaction is a program on a state that may fail: `StateT σ (Except ε)`.
Its statements run on a working copy, and `commit` either installs the copy or,
when a statement failed, keeps the state the transaction began with.

`run_bind_eq_ok` takes a successful transaction apart at a `>>=`; with it and
the lemmas for the single statements, the result of a transaction is computed
by rewriting, one statement at a time.
-/

import Mathlib.Logic.Basic

namespace Lib

/-- A program on a state `σ` that returns a value or fails with an `ε`. -/
abbrev Txn (σ ε : Type) := StateT σ (Except ε)

namespace Txn

variable {σ ε α β : Type}

/-- A statement that must hold, failing with `e` otherwise. -/
def require (b : Bool) (e : ε) : Txn σ ε Unit := if b then pure () else throw e

/-- A fetch of a row that must exist, failing with `e` otherwise. -/
def fetch (o : Option α) (e : ε) : Txn σ ε α := match o with
  | some a => pure a
  | none => throw e

/-- A computation that does not look at the state. -/
def ofExcept (x : Except ε α) : Txn σ ε α := match x with
  | .ok a => pure a
  | .error e => throw e

/-- Run a transaction: its state if it succeeds, the old state if it fails. -/
def commit (t : Txn σ ε α) (s : σ) : σ × Except ε α := match t.run s with
  | .ok (a, s') => (s', .ok a)
  | .error e => (s, .error e)

/-- **A failed transaction changes nothing.** -/
theorem commit_of_error {t : Txn σ ε α} {s : σ} {e : ε} (h : (t.commit s).2 = .error e) :
    (t.commit s).1 = s := by
  unfold commit at h ⊢
  split at h
  · cases h
  · rfl

theorem commit_eq_ok_iff {t : Txn σ ε α} {s s' : σ} {a : α} :
    t.commit s = (s', .ok a) ↔ t.run s = .ok (a, s') := by
  unfold commit
  split
  · rename_i a' s'' h
    rw [h]
    simp [Prod.ext_iff, and_comm]
  · rename_i e h
    rw [h]
    simp

/-- The state a transaction leaves is the old one, or that of a successful run. -/
theorem commit_fst (t : Txn σ ε α) (s : σ) :
    (t.commit s).1 = s ∨ ∃ a, t.run s = .ok (a, (t.commit s).1) := by
  unfold commit
  split
  · rename_i a s' h
    exact Or.inr ⟨a, h⟩
  · exact Or.inl rfl

/-- A sequence succeeds when its first part does and the rest does after it. -/
theorem run_bind_eq_ok {x : Txn σ ε α} {f : α → Txn σ ε β} {s s' : σ} {b : β} :
    (x >>= f).run s = .ok (b, s') ↔ ∃ a t, x.run s = .ok (a, t) ∧ (f a).run t = .ok (b, s') := by
  rw [StateT.run_bind]
  constructor
  · intro h
    cases hx : x.run s with
    | error e => rw [hx] at h; cases h
    | ok p => rw [hx] at h; exact ⟨p.1, p.2, rfl, h⟩
  · rintro ⟨a, t, hx, hf⟩
    rw [hx]
    exact hf

/-- A sequence fails where its first part does, or the rest after it. -/
theorem run_bind_eq_error {x : Txn σ ε α} {f : α → Txn σ ε β} {s : σ} {e : ε} :
    (x >>= f).run s = .error e ↔
      x.run s = .error e ∨ ∃ a t, x.run s = .ok (a, t) ∧ (f a).run t = .error e := by
  rw [StateT.run_bind]
  cases hx : x.run s with
  | error e' =>
      constructor
      · intro h
        cases h
        exact Or.inl rfl
      · rintro (h | ⟨a, t, h, _⟩)
        · cases h
          rfl
        · cases h
  | ok p =>
      constructor
      · intro h
        exact Or.inr ⟨p.1, p.2, rfl, h⟩
      · rintro (h | ⟨a, t, h, hf⟩)
        · cases h
        · cases h
          exact hf

theorem run_require_eq_error {b : Bool} {e e' : ε} {s : σ}
    (h : (require b e : Txn σ ε Unit).run s = .error e') : b = false ∧ e' = e := by
  unfold require at h
  cases b with
  | true => cases h
  | false => cases h; exact ⟨rfl, rfl⟩

@[simp] theorem run_pure_eq_ok {a b : α} {s s' : σ} :
    (pure a : Txn σ ε α).run s = .ok (b, s') ↔ a = b ∧ s = s' := by
  constructor
  · intro h
    cases h
    exact ⟨rfl, rfl⟩
  · rintro ⟨rfl, rfl⟩
    rfl

@[simp] theorem run_throw_eq_ok {e : ε} {b : α} {s s' : σ} :
    (throw e : Txn σ ε α).run s = .ok (b, s') ↔ False := by
  constructor
  · intro h
    cases h
  · exact False.elim

@[simp] theorem run_get_eq_ok {s s' t : σ} :
    (get : Txn σ ε σ).run s = .ok (t, s') ↔ s = t ∧ s = s' :=
  run_pure_eq_ok (ε := ε)

@[simp] theorem run_modify_eq_ok {f : σ → σ} {s s' : σ} {u : PUnit} :
    (modify f : Txn σ ε PUnit).run s = .ok (u, s') ↔ f s = s' := by
  constructor
  · intro h
    cases h
    rfl
  · rintro rfl
    rfl

@[simp] theorem run_require_eq_ok {b : Bool} {e : ε} {s s' : σ} {u : Unit} :
    (require b e : Txn σ ε Unit).run s = .ok (u, s') ↔ b = true ∧ s = s' := by
  unfold require
  cases b with
  | true => rw [if_pos rfl, run_pure_eq_ok]; simp
  | false => rw [if_neg Bool.false_ne_true, run_throw_eq_ok]; simp

@[simp] theorem run_fetch_eq_ok {o : Option α} {e : ε} {s s' : σ} {a : α} :
    (fetch o e : Txn σ ε α).run s = .ok (a, s') ↔ o = some a ∧ s = s' := by
  unfold fetch
  cases o with
  | some a' => rw [run_pure_eq_ok, Option.some.injEq]
  | none => rw [run_throw_eq_ok]; simp

@[simp] theorem run_ofExcept_eq_ok {x : Except ε α} {s s' : σ} {a : α} :
    (ofExcept x : Txn σ ε α).run s = .ok (a, s') ↔ x = .ok a ∧ s = s' := by
  unfold ofExcept
  cases x with
  | ok a' => rw [run_pure_eq_ok, Except.ok.injEq]
  | error e => rw [run_throw_eq_ok]; simp

end Txn
end Lib
