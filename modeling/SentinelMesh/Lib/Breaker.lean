/-
# A breaker that closes again

Attempts that fail are counted, and one that succeeds takes the count back.  At a threshold attempts
are held back for a while, from the end of the attempt that reached it; the first one after that counts
from nothing.

So attempts are held back exactly while that time has not passed since the last attempt, if the failures
in a row up to that one are a multiple of the threshold (`admits_run_iff`).  And within such a time no
more attempts are made than the threshold, unless one of them succeeds (`length_made_le`).
-/

import SentinelMesh.Lib.Run
import Mathlib.Algebra.Order.Group.Defs
import Mathlib.Data.Nat.Basic
import Mathlib.Order.Basic
import Mathlib.Tactic.Abel

namespace Lib

/-- The failures that are counted, and when the threshold was reached. -/
structure Breaker (K : Type*) where
  failures : ℕ := 0
  since : K

namespace Breaker

/-- An attempt that may be made: when it would begin and end, and whether it would succeed. -/
structure Attempt (K : Type*) where
  now : K
  done : K
  ok : Bool
  deriving DecidableEq

variable {K : Type*} [AddCommGroup K] [LinearOrder K]
variable (threshold : ℕ) (window : K)

/-- An attempt is made. -/
def Admits (b : Breaker K) (now : K) : Prop := b.failures < threshold ∨ window ≤ now - b.since

instance (b : Breaker K) (now : K) : Decidable (Admits threshold window b now) :=
  inferInstanceAs (Decidable (_ ∨ _))

/-- What an attempt leaves. -/
def record (b : Breaker K) (a : Attempt K) : Breaker K :=
  let failures := if threshold ≤ b.failures then 0 else b.failures
  if a.ok then { b with failures := 0 }
  else
    { failures := failures + 1
      since := if failures + 1 = threshold then a.done else b.since }

/-- An attempt, if it is made. -/
def step (b : Breaker K) (a : Attempt K) : Breaker K :=
  if Admits threshold window b a.now then record threshold b a else b

/-- The attempts that are made. -/
def made : Breaker K → List (Attempt K) → List (Attempt K)
  | _, [] => []
  | b, a :: as =>
    if Admits threshold window b a.now then a :: made (step threshold window b a) as
    else made (step threshold window b a) as

/-- The failures in a row at the end. -/
def streak (as : List (Attempt K)) : ℕ := (as.reverse.takeWhile fun a => !a.ok).length

/-- What is counted of failures in a row. -/
def level : ℕ → ℕ
  | 0 => 0
  | n + 1 => (if threshold ≤ level n then 0 else level n) + 1

variable {threshold window} {b : Breaker K} {a : Attempt K} {as : List (Attempt K)} {x : K}

theorem made_cons : made threshold window b (a :: as) =
    (if Admits threshold window b a.now then [a] else []) ++
      made threshold window (step threshold window b a) as := by
  rw [made]
  split_ifs <;> rfl

theorem made_concat : made threshold window b (as ++ [a]) = made threshold window b as ++
    if Admits threshold window (run (step threshold window) b as) a.now then [a] else [] := by
  induction as generalizing b with
  | nil => rw [List.nil_append, made_cons, run_nil, made, made, List.append_nil, List.nil_append]
  | cons a' as ih => rw [List.cons_append, made_cons, made_cons, run_cons, ih, List.append_assoc]

omit [AddCommGroup K] [LinearOrder K] in
theorem streak_concat : streak (as ++ [a]) = if a.ok then 0 else streak as + 1 := by
  unfold streak
  rw [List.reverse_append, List.reverse_singleton, List.singleton_append, List.takeWhile_cons]
  cases a.ok <;> simp

/-! ### When attempts are held back -/

/-- What is counted is what is left of the failures, and the threshold counts as left. -/
theorem level_spec (hpos : 0 < threshold) (n : ℕ) :
    ∃ k, n = threshold * k + level threshold n ∧ level threshold n ≤ threshold ∧
      (n ≠ 0 → 0 < level threshold n) := by
  induction n with
  | zero => exact ⟨0, by simp [level], by simp [level], fun h => absurd rfl h⟩
  | succ n ih =>
      obtain ⟨k, hn, hle, -⟩ := ih
      unfold level
      split_ifs with hfull
      · refine ⟨k + 1, ?_, by omega, fun _ => by omega⟩
        have hk : threshold * (k + 1) = threshold * k + threshold := Nat.mul_succ threshold k
        omega
      · exact ⟨k, by omega, by omega, fun _ => by omega⟩

/-- The threshold is reached at its multiples. -/
theorem threshold_le_level_iff (hpos : 0 < threshold) (n : ℕ) :
    threshold ≤ level threshold n ↔ n ≠ 0 ∧ threshold ∣ n := by
  obtain ⟨k, hn, hle, hlevel⟩ := level_spec hpos n
  constructor
  · intro hfull
    refine ⟨fun hzero => ?_, k + 1, ?_⟩
    · rw [hzero, level] at hfull
      omega
    · have hk : threshold * (k + 1) = threshold * k + threshold := Nat.mul_succ threshold k
      omega
  · rintro ⟨hne, hdvd⟩
    rw [hn] at hdvd
    exact Nat.le_of_dvd (hlevel hne) ((Nat.dvd_add_right (dvd_mul_right threshold k)).1 hdvd)

/-- What a breaker counts, beside the attempts that were made. -/
theorem run_spec {window : K} (hpos : 0 < threshold) (hb : b.failures = 0) (as : List (Attempt K)) :
    (run (step threshold window) b as).failures = level threshold (streak (made threshold window b as)) ∧
      (threshold ≤ (run (step threshold window) b as).failures →
        ∃ last, (made threshold window b as).getLast? = some last ∧
          (run (step threshold window) b as).since = last.done) := by
  induction as using List.reverseRecOn with
  | nil =>
      rw [run_nil, hb]
      exact ⟨by simp [made, streak, level], fun hle => absurd hle (by omega)⟩
  | append_singleton as a ih =>
      obtain ⟨hfailures, hsince⟩ := ih
      rw [run_concat, made_concat]
      generalize run (step threshold window) b as = b' at hfailures hsince ⊢
      unfold step
      split_ifs with hadmits
      · rw [streak_concat, List.getLast?_concat]
        unfold record
        cases a.ok with
        | true => exact ⟨rfl, fun hle => absurd hle (by simpa using hpos.ne')⟩
        | false =>
            simp only [Bool.false_eq_true, if_false, level, ← hfailures, true_and]
            refine fun hle => ⟨a, rfl, if_pos ?_⟩
            split_ifs at hle ⊢
            · omega
            · omega
      · rw [List.append_nil]
        exact ⟨hfailures, hsince⟩

/-- **When an attempt is made**: unless the failures in a row are a multiple of the threshold and the
last one ended too short a time before. -/
theorem admits_run_iff (hpos : 0 < threshold) (hb : b.failures = 0) (as : List (Attempt K)) (now : K) :
    Admits threshold window (run (step threshold window) b as) now ↔
      ¬∃ last, (made threshold window b as).getLast? = some last ∧
        streak (made threshold window b as) ≠ 0 ∧
        threshold ∣ streak (made threshold window b as) ∧ now - last.done < window := by
  obtain ⟨hfailures, hsince⟩ := run_spec hpos hb as
  unfold Admits
  rw [← not_iff_not, not_not, not_or, not_lt, not_le, hfailures, threshold_le_level_iff hpos]
  constructor
  · rintro ⟨⟨hne, hdvd⟩, hnow⟩
    obtain ⟨last, hlast, hdone⟩ := hsince (hfailures ▸ (threshold_le_level_iff hpos _).2 ⟨hne, hdvd⟩)
    exact ⟨last, hlast, hne, hdvd, hdone ▸ hnow⟩
  · rintro ⟨last, hlast, hne, hdvd, hnow⟩
    obtain ⟨last', hlast', hdone⟩ := hsince (hfailures ▸ (threshold_le_level_iff hpos _).2 ⟨hne, hdvd⟩)
    obtain rfl := Option.some.inj (hlast.symm.trans hlast')
    exact ⟨⟨hne, hdvd⟩, hdone ▸ hnow⟩

/-! ### How often attempts are made -/

/-- How many attempts are left within the window from `x` on. -/
def allowance (threshold : ℕ) (b : Breaker K) (x : K) : ℕ :=
  if b.failures < threshold then threshold - b.failures
  else if x ≤ b.since then 0 else threshold

omit [AddCommGroup K] in
theorem allowance_le (b : Breaker K) (x : K) : allowance threshold b x ≤ threshold := by
  unfold allowance
  split_ifs <;> omega

variable [IsOrderedAddMonoid K]

/-- **No more attempts than the threshold** are made within the window, if they all fail. -/
theorem length_made_le (hpos : 0 < threshold) (b : Breaker K)
    (has : ∀ a ∈ as, x ≤ a.now ∧ a.now - x < window ∧ a.now ≤ a.done)
    (hfail : ∀ a ∈ as, a.ok = false) :
    (made threshold window b as).length ≤ allowance threshold b x := by
  induction as generalizing b with
  | nil => exact Nat.zero_le _
  | cons a as ih =>
      rw [List.forall_mem_cons] at has hfail
      obtain ⟨⟨hx, hwindow, hdone⟩, has⟩ := has
      have hrest := ih (step threshold window b a) has hfail.2
      rw [made_cons, List.length_append]
      split_ifs with hadmits
      · have hstep : step threshold window b a = record threshold b a := if_pos hadmits
        rw [hstep] at hrest ⊢
        have hsince : x ≤ a.done := hx.trans hdone
        -- a breaker that has closed in the window lets no attempt through
        have hold : ¬b.failures < threshold → ¬x ≤ b.since := by
          intro hfull hle
          refine absurd (hadmits.resolve_left hfull) (not_le.2 ?_)
          exact (sub_le_sub_left hle a.now).trans_lt hwindow
        refine (Nat.add_le_add_left hrest 1).trans ?_
        unfold allowance record
        simp only [hfail.1, Bool.false_eq_true, if_false]
        by_cases hfull : b.failures < threshold
        · rw [if_neg (by omega : ¬threshold ≤ b.failures), if_pos hfull]
          by_cases hnext : b.failures + 1 < threshold
          · rw [if_pos hnext]
            omega
          · rw [if_neg hnext, if_pos (by omega : b.failures + 1 = threshold), if_pos hsince]
            omega
        · rw [if_pos (by omega : threshold ≤ b.failures), if_neg hfull, if_neg (hold hfull), Nat.zero_add]
          by_cases hnext : 1 < threshold
          · rw [if_pos hnext]
            omega
          · rw [if_neg hnext, if_pos (by omega : 1 = threshold), if_pos hsince]
            omega
      · have hstep : step threshold window b a = b := if_neg hadmits
        rw [hstep] at hrest ⊢
        simpa using hrest

end Breaker
end Lib
