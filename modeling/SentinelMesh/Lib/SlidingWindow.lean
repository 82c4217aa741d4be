/-
# Instants inside a moving window

A list of instants keeps within a sliding window of length `w` when no interval
`[t, t + w)` holds more than `limit` of them (`Sliding`).  The intervals are
arbitrary, but for instants in order the bound has only to be looked at when an
instant is added: `Sliding.snoc` keeps it when fewer than `limit`
of the earlier ones are less than `w` old, and `not_sliding_burst` breaks it
with a burst when there is one such instant that nothing counts any more.
-/

import Mathlib.Algebra.Order.Monoid.Defs
import Mathlib.Algebra.Order.Monoid.Unbundled.Basic
import Mathlib.Data.List.Count
import Mathlib.Tactic.Common

namespace Lib

variable {T : Type*} [AddCommMonoid T] [LinearOrder T]

/-- How many of the instants lie in `[t, t + w)`. -/
def inWindow (w t : T) (ts : List T) : ℕ := ts.countP fun a => decide (t ≤ a ∧ a < t + w)

/-- How many of the instants are less than `w` old at the instant `now`. -/
def recent (w now : T) (ts : List T) : ℕ := ts.countP fun a => decide (now < a + w)

/-- No interval of length `w` holds more than `limit` of the instants. -/
def Sliding (limit : ℕ) (w : T) (ts : List T) : Prop := ∀ t, inWindow w t ts ≤ limit

variable {limit : ℕ} {w now : T} {ts us : List T}

theorem sliding_nil : Sliding limit w ([] : List T) := fun _ => Nat.zero_le _

@[simp] theorem inWindow_append (w t : T) (ts us : List T) :
    inWindow w t (ts ++ us) = inWindow w t ts + inWindow w t us := List.countP_append

/-- Instants that are all inside are all counted. -/
theorem inWindow_eq_length {t : T} (h : ∀ a ∈ ts, t ≤ a ∧ a < t + w) :
    inWindow w t ts = ts.length :=
  List.countP_eq_length.mpr fun a ha => decide_eq_true (h a ha)

/-- One instant inside is counted. -/
theorem inWindow_pos {t a : T} (ha : a ∈ ts) (h : t ≤ a ∧ a < t + w) : 0 < inWindow w t ts :=
  List.countP_pos_iff.mpr ⟨a, ha, decide_eq_true h⟩

/-- No instant is recent exactly when each is `w` old. -/
theorem recent_eq_zero : recent w now ts = 0 ↔ ∀ a ∈ ts, a + w ≤ now := by
  unfold recent
  rw [List.countP_eq_zero]
  simp

/-- An interval that reaches past `now` holds no more of the instants than are
recent. -/
theorem inWindow_le_recent [IsOrderedAddMonoid T] {t : T} (h : now < t + w) : inWindow w t ts ≤ recent w now ts := by
  refine List.countP_mono_left fun a _ ha => ?_
  have ht : t ≤ a := (of_decide_eq_true ha).1
  exact decide_eq_true (h.trans_le (add_le_add_left ht w))

/-- **The bound is kept when few are recent.**  An interval that holds `now`
holds, of the instants before it, only recent ones. -/
theorem Sliding.snoc [IsOrderedAddMonoid T] (h : Sliding limit w ts) (hr : recent w now ts < limit) :
    Sliding limit w (ts ++ [now]) := by
  intro t
  rw [inWindow_append]
  by_cases hnow : t ≤ now ∧ now < t + w
  · have hts : inWindow w t ts < limit := (inWindow_le_recent hnow.2).trans_lt hr
    have hone : inWindow w t [now] ≤ 1 := List.countP_le_length
    exact (Nat.add_le_add_left hone _).trans hts
  · have hzero : inWindow w t [now] = 0 := by
      rw [inWindow, List.countP_eq_zero]
      intro a ha
      rw [List.mem_singleton.mp ha]
      simpa using hnow
    rw [hzero, Nat.add_zero]
    exact h t

/-- A full burst at `now` breaks the bound when one earlier instant is recent. -/
theorem not_sliding_burst {a : T} (ha : a ∈ ts) (hle : a ≤ now) (hrecent : now < a + w) :
    ¬ Sliding limit w (ts ++ List.replicate limit now) := by
  intro h
  have hw : a < a + w := hle.trans_lt hrecent
  have hone : 0 < inWindow w a ts := inWindow_pos ha ⟨le_rfl, hw⟩
  have hburst : inWindow w a (List.replicate limit now) = limit := by
    rw [inWindow_eq_length, List.length_replicate]
    intro b hb
    rw [List.eq_of_mem_replicate hb]
    exact ⟨hle, hrecent⟩
  have hall := h a
  rw [inWindow_append, hburst] at hall
  omega

end Lib
