/-
# Keys that expire

A store of keys with the instants at which they expire, over any ordered type of
instants.  `setNx` is `SET key value NX EX ttl`: it sets a key that is not held
and says whether it did; nothing else removes a key before its time.

`setNx_eq_true_iff` says when a key is set, `mem_keys_setNx` what the store then
has, and `holds_of_mem` that an unexpired entry keeps its key: a key set with an
expiry of at least `t` is not set again before `t`.
-/

import Mathlib.Algebra.Order.Ring.Defs

namespace Lib

/-- Keys and the instants at which they expire. -/
structure Expiring (κ K : Type*) where
  keys : List (κ × K) := []

namespace Expiring

variable {κ K : Type*} [DecidableEq κ] [LinearOrder K]

/-- The key is held at the instant `now`. -/
def holds (s : Expiring κ K) (now : K) (k : κ) : Bool :=
  s.keys.any fun r => decide (r.1 = k ∧ now < r.2)

/-- `SET k .. NX EX ttl` at the instant `now`. -/
def setNx [Add K] (s : Expiring κ K) (now : K) (k : κ) (ttl : K) : Expiring κ K × Bool :=
  if s.holds now k then (s, false) else (⟨(k, now + ttl) :: s.keys⟩, true)

theorem holds_iff {s : Expiring κ K} {now : K} {k : κ} :
    s.holds now k = true ↔ ∃ exp, (k, exp) ∈ s.keys ∧ now < exp := by
  unfold holds
  rw [List.any_eq_true]
  constructor
  · rintro ⟨⟨k', exp⟩, hr, h⟩
    obtain ⟨rfl, hlt⟩ := of_decide_eq_true h
    exact ⟨exp, hr, hlt⟩
  · rintro ⟨exp, hr, hlt⟩
    exact ⟨(k, exp), hr, decide_eq_true ⟨rfl, hlt⟩⟩

/-- An unexpired entry keeps its key. -/
theorem holds_of_mem {s : Expiring κ K} {now exp : K} {k : κ} (h : (k, exp) ∈ s.keys)
    (hlt : now < exp) : s.holds now k = true :=
  holds_iff.2 ⟨exp, h, hlt⟩

variable [Add K]

/-- A key is set when it is not held. -/
theorem setNx_eq_true_iff {s : Expiring κ K} {now ttl : K} {k : κ} :
    (s.setNx now k ttl).2 = true ↔ s.holds now k = false := by
  unfold setNx
  cases s.holds now k <;> simp

theorem mem_keys_setNx {s : Expiring κ K} {now ttl : K} {k : κ} {r : κ × K} :
    r ∈ (s.setNx now k ttl).1.keys ↔
      r ∈ s.keys ∨ (r = (k, now + ttl) ∧ (s.setNx now k ttl).2 = true) := by
  unfold setNx
  cases s.holds now k with
  | true => simp
  | false => simp [or_comm]

end Expiring
end Lib
