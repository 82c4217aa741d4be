/-
# Programs that throw and keep what they wrote

A program on a state that returns or throws, and leaves a state in either case: an
asynchronous function over a store whose writes are not undone by an exception.
`recover` is a `catch` that answers with a value.

`bind_of_ok` and `bind_of_error` compute a sequence from its first part, `recover_of_ok`
and `recover_of_error` a `catch` from what it guards.
-/

namespace Lib

/-- A program on a state `σ` that returns an `α` or throws an `ε`. -/
def Prog (σ ε α : Type) : Type := σ → Except ε α × σ

namespace Prog

variable {σ ε α β : Type}

instance : Monad (Prog σ ε) where
  pure a := fun s => (.ok a, s)
  bind x f := fun s => match x s with
    | (.ok a, t) => f a t
    | (.error e, t) => (.error e, t)

/-- Throw. -/
def fail (e : ε) : Prog σ ε α := fun s => (.error e, s)

/-- Read the state. -/
def read (f : σ → α) : Prog σ ε α := fun s => (.ok (f s), s)

/-- Write the state. -/
def write (f : σ → σ) : Prog σ ε Unit := fun s => (.ok (), f s)

/-- Answer with a value where the program throws. -/
def recover (x : Prog σ ε α) (a : α) : Prog σ ε α := fun s => match x s with
  | (.ok b, t) => (.ok b, t)
  | (.error _, t) => (.ok a, t)

theorem bind_of_ok {x : Prog σ ε α} {f : α → Prog σ ε β} {s t : σ} {a : α} (h : x s = (.ok a, t)) :
    (x >>= f) s = f a t := by
  change (match x s with | (.ok a, t) => f a t | (.error e, t) => (.error e, t)) = _
  rw [h]

theorem bind_of_error {x : Prog σ ε α} {f : α → Prog σ ε β} {s t : σ} {e : ε}
    (h : x s = (.error e, t)) : (x >>= f) s = (.error e, t) := by
  change (match x s with | (.ok a, t) => f a t | (.error e, t) => (.error e, t)) = _
  rw [h]

theorem recover_of_ok {x : Prog σ ε α} {a b : α} {s t : σ} (h : x s = (.ok b, t)) :
    x.recover a s = (.ok b, t) := by
  unfold recover
  rw [h]

theorem recover_of_error {x : Prog σ ε α} {a : α} {e : ε} {s t : σ} (h : x s = (.error e, t)) :
    x.recover a s = (.ok a, t) := by
  unfold recover
  rw [h]

end Prog
end Lib
