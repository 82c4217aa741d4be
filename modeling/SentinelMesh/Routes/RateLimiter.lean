/-
# The rate limiter of the submission routes

`RateLimiter` of `routes/reports.rs`: for each key a count and the instant at
which its window was opened, in a map that `check` reads and writes in one step.
Instants are whole units of the monotonic clock, and `duration_since` is zero
where it would be negative, as subtraction is here.

A window is opened by a call, not by the clock, and the call that opens the next
one starts counting at one.  What was admitted in the old window is then no
longer counted, also when it is less than a window old: the call forgets it
(`Forgets`).  `counted_of_mindful` says that nothing else goes wrong: a run in
which no call forgets keeps within the sliding window the module's heading
announces.  And a call that forgets cannot be afforded: after it a burst at the
same instant exceeds the limit (`check_sliding_iff`).
-/

import Mathlib.Algebra.Order.Ring.Nat
import Mathlib.Logic.Function.Basic
import SentinelMesh.Lib.SlidingWindow

namespace SentinelMesh

open Lib

/-- `RateLimiter`: the buckets, the limit and the length of the window. -/
structure RateLimiter where
  entries : String → Option (ℕ × ℕ)
  max : ℕ
  window : ℕ

namespace RateLimiter

/-- `RateLimiter::new`. -/
def new (max window : ℕ) : RateLimiter := ⟨fun _ => none, max, window⟩

/-- The map with an entry written. -/
def set (rl : RateLimiter) (key : String) (entry : ℕ × ℕ) : RateLimiter :=
  { rl with entries := Function.update rl.entries key (some entry) }

@[simp] theorem max_set (rl : RateLimiter) (key : String) (entry : ℕ × ℕ) :
    (rl.set key entry).max = rl.max := rfl

@[simp] theorem window_set (rl : RateLimiter) (key : String) (entry : ℕ × ℕ) :
    (rl.set key entry).window = rl.window := rfl

@[simp] theorem entries_set_self (rl : RateLimiter) (key : String) (entry : ℕ × ℕ) :
    (rl.set key entry).entries key = some entry := Function.update_self ..

theorem entries_set_of_ne (rl : RateLimiter) {key k : String} (h : k ≠ key) (entry : ℕ × ℕ) :
    (rl.set key entry).entries k = rl.entries k := Function.update_of_ne h ..

/-- `check` at the instant `now`: whether the call is admitted, and the map it
leaves. -/
def check (rl : RateLimiter) (key : String) (now : ℕ) : Bool × RateLimiter :=
  let entry := (rl.entries key).getD (0, now)
  if now - entry.2 ≥ rl.window then (true, rl.set key (1, now))
  else if entry.1 < rl.max then (true, rl.set key (entry.1 + 1, entry.2))
  else (false, rl.set key entry)

variable {rl : RateLimiter} {key k : String} {now count start : ℕ}

/-- **What a call does**, with the entry it finds. -/
theorem check_cases (h : (rl.entries key).getD (0, now) = (count, start)) :
    (rl.window ≤ now - start ∧ rl.check key now = (true, rl.set key (1, now))) ∨
    (now - start < rl.window ∧ count < rl.max ∧
      rl.check key now = (true, rl.set key (count + 1, start))) ∨
    (now - start < rl.window ∧ rl.max ≤ count ∧
      rl.check key now = (false, rl.set key (count, start))) := by
  unfold check
  rw [h]
  rcases le_or_gt rl.window (now - start) with hw | hw
  · exact Or.inl ⟨hw, if_pos hw⟩
  · rcases lt_or_ge count rl.max with hc | hc
    · exact Or.inr (Or.inl ⟨hw, hc, (if_neg hw.not_ge).trans (if_pos hc)⟩)
    · exact Or.inr (Or.inr ⟨hw, hc, (if_neg hw.not_ge).trans (if_neg hc.not_gt)⟩)

/-- A call writes one entry, and no other field. -/
theorem check_snd (rl : RateLimiter) (key : String) (now : ℕ) :
    ∃ entry, (rl.check key now).2 = rl.set key entry := by
  obtain ⟨_, h⟩ | ⟨_, _, h⟩ | ⟨_, _, h⟩ := @check_cases rl key now _ _ rfl
  all_goals exact ⟨_, congrArg Prod.snd h⟩

@[simp] theorem max_check (rl : RateLimiter) (key : String) (now : ℕ) :
    (rl.check key now).2.max = rl.max := by
  obtain ⟨entry, h⟩ := check_snd rl key now
  rw [h, max_set]

@[simp] theorem window_check (rl : RateLimiter) (key : String) (now : ℕ) :
    (rl.check key now).2.window = rl.window := by
  obtain ⟨entry, h⟩ := check_snd rl key now
  rw [h, window_set]

/-- The other keys' entries are left alone. -/
theorem entries_check_of_ne (h : k ≠ key) :
    (rl.check key now).2.entries k = rl.entries k := by
  obtain ⟨entry, hset⟩ := check_snd rl key now
  rw [hset, entries_set_of_ne _ h]

/-! ### Runs of calls -/

/-- One call, of a run that is watched for one key: what was admitted on the
key is noted with its instant. -/
def watch (key : String) (s : RateLimiter × List ℕ) (call : String × ℕ) : RateLimiter × List ℕ :=
  ((s.1.check call.1 call.2).2,
    if (s.1.check call.1 call.2).1 = true ∧ call.1 = key then s.2 ++ [call.2] else s.2)

/-- A run of calls. -/
def run (key : String) (s : RateLimiter × List ℕ) (calls : List (String × ℕ)) :
    RateLimiter × List ℕ := calls.foldl (watch key) s

/-- The instants at which calls on the key were admitted, in a run of a new
limiter. -/
def admitted (max window : ℕ) (key : String) (calls : List (String × ℕ)) : List ℕ :=
  (run key (new max window, []) calls).2

/-- A call at `now` opens a new window while a call that was admitted is less
than a window old. -/
def Forgets (key : String) (s : RateLimiter × List ℕ) (now : ℕ) : Prop :=
  (∃ e ∈ s.1.entries key, s.1.window ≤ now - e.2) ∧ ∃ a ∈ s.2, now < a + s.1.window

instance (key : String) (s : RateLimiter × List ℕ) (now : ℕ) : Decidable (Forgets key s now) :=
  inferInstanceAs (Decidable (_ ∧ _))

/-- No call on the key forgets. -/
def Mindful (key : String) : RateLimiter × List ℕ → List (String × ℕ) → Prop
  | _, [] => True
  | s, call :: calls => (call.1 = key → ¬ Forgets key s call.2) ∧ Mindful key (watch key s call) calls

instance decidableMindful (key : String) :
    ∀ (s : RateLimiter × List ℕ) (calls : List (String × ℕ)), Decidable (Mindful key s calls)
  | _, [] => isTrue trivial
  | s, call :: calls =>
    have := decidableMindful key (watch key s call) calls
    inferInstanceAs (Decidable ((_ → _) ∧ _))

/-- What a run in which no call forgets has reached at the instant `now`: the
bound, and an entry that counts all that is recent. -/
structure Counted (key : String) (s : RateLimiter × List ℕ) (now : ℕ) : Prop where
  sliding : Sliding s.1.max s.1.window s.2
  past : ∀ a ∈ s.2, a ≤ now
  unseen : s.1.entries key = none → s.2 = []
  entry : ∀ count start, s.1.entries key = some (count, start) →
    start ≤ now ∧ s.2.countP (fun a => decide (start ≤ a)) = count ∧
      ∀ a ∈ s.2, a < start → a + s.1.window ≤ start

variable {s : RateLimiter × List ℕ} {call : String × ℕ} {calls : List (String × ℕ)}
  {max window later : ℕ}

@[simp] theorem max_watch (key : String) (s : RateLimiter × List ℕ) (call : String × ℕ) :
    (watch key s call).1.max = s.1.max := max_check ..

@[simp] theorem window_watch (key : String) (s : RateLimiter × List ℕ) (call : String × ℕ) :
    (watch key s call).1.window = s.1.window := window_check ..

theorem run_append (key : String) (s : RateLimiter × List ℕ) (calls more : List (String × ℕ)) :
    run key s (calls ++ more) = run key (run key s calls) more := List.foldl_append

/-- Nothing has been admitted by a new limiter. -/
theorem counted_new (max window : ℕ) (key : String) : Counted key (new max window, []) 0 :=
  ⟨sliding_nil, fun _ h => absurd h List.not_mem_nil, fun _ => rfl, fun _ _ h => nomatch h⟩

/-- Time alone changes nothing. -/
theorem Counted.mono (h : Counted key s now) (hle : now ≤ later) : Counted key s later :=
  ⟨h.sliding, fun a ha => (h.past a ha).trans hle, h.unseen, fun count start he => by
    obtain ⟨hs, hcount, hold⟩ := h.entry count start he
    exact ⟨hs.trans hle, hcount, hold⟩⟩

/-- A call on another key is not seen. -/
theorem watch_of_ne (h : call.1 ≠ key) :
    (watch key s call).2 = s.2 ∧ (watch key s call).1.entries key = s.1.entries key :=
  ⟨if_neg fun hc => h hc.2, entries_check_of_ne h.symm⟩

theorem Counted.of_ne (h : Counted key s now) (hne : call.1 ≠ key) :
    Counted key (watch key s call) now := by
  obtain ⟨hlog, hentry⟩ := watch_of_ne (s := s) hne
  refine ⟨?_, ?_, ?_, ?_⟩
  · rw [hlog, max_watch, window_watch]
    exact h.sliding
  · rw [hlog]
    exact h.past
  · rw [hlog, hentry]
    exact h.unseen
  · rw [hlog, hentry, window_watch]
    exact h.entry

/-- A call on the key that is admitted, with the entry it leaves. -/
theorem watch_of_admitted {entry : ℕ × ℕ}
    (h : s.1.check key now = (true, s.1.set key entry)) :
    watch key s (key, now) = (s.1.set key entry, s.2 ++ [now]) := by
  unfold watch
  rw [h]
  exact congrArg (Prod.mk _) (if_pos ⟨rfl, rfl⟩)

/-- A call on the key that is refused. -/
theorem watch_of_refused {entry : ℕ × ℕ}
    (h : s.1.check key now = (false, s.1.set key entry)) :
    watch key s (key, now) = (s.1.set key entry, s.2) := by
  unfold watch
  rw [h]
  exact congrArg (Prod.mk _) (if_neg fun hc => nomatch hc.1)

/-- A call is admitted while few are recent, into a window that counts what it
should. -/
theorem Counted.admit (h : Counted key s now) (hrecent : recent s.1.window now s.2 < s.1.max)
    (hstart : start ≤ now) (hcount : s.2.countP (fun a => decide (start ≤ a)) = count)
    (hold : ∀ a ∈ s.2, a < start → a + s.1.window ≤ start) :
    Counted key (s.1.set key (count + 1, start), s.2 ++ [now]) now where
  sliding := h.sliding.snoc hrecent
  past := by
    intro a ha
    rcases List.mem_append.mp ha with ha | ha
    · exact h.past a ha
    · exact (List.mem_singleton.mp ha).le
  unseen := by
    intro hn
    rw [entries_set_self] at hn
    cases hn
  entry := by
    intro c b he
    rw [entries_set_self, Option.some.injEq, Prod.mk.injEq] at he
    obtain ⟨rfl, rfl⟩ := he
    refine ⟨hstart, ?_, ?_⟩
    · rw [List.countP_append, hcount, List.countP_singleton, if_pos (decide_eq_true hstart)]
    · intro a ha hlt
      rcases List.mem_append.mp ha with ha | ha
      · exact hold a ha hlt
      · exact absurd (List.mem_singleton.mp ha ▸ hlt) hstart.not_gt

/-- **One call on the key**, when it does not forget.  Inside a window the bucket
counts all that is recent, and where a window is opened nothing is. -/
theorem Counted.step (h : Counted key s now) (hmax : 1 ≤ s.1.max) (hw : 0 < s.1.window)
    (hf : ¬ Forgets key s now) : Counted key (watch key s (key, now)) now := by
  cases hentry : s.1.entries key with
  | none =>
    have hlog : s.2 = [] := h.unseen hentry
    have hget : (s.1.entries key).getD (0, now) = (0, now) := by rw [hentry]; rfl
    obtain ⟨hreset, _⟩ | ⟨_, _, hcheck⟩ | ⟨_, hfull, _⟩ := check_cases hget
    · omega
    · rw [watch_of_admitted hcheck]
      refine h.admit ?_ le_rfl ?_ ?_ <;> rw [hlog]
      · exact hmax
      · rfl
      · exact fun a ha => absurd ha List.not_mem_nil
    · omega
  | some entry =>
    obtain ⟨count, start⟩ := entry
    obtain ⟨hstart, hcount, hold⟩ := h.entry count start hentry
    have hget : (s.1.entries key).getD (0, now) = (count, start) := by rw [hentry]; rfl
    obtain ⟨hreset, hcheck⟩ | ⟨hopen, hroom, hcheck⟩ | ⟨_, _, hcheck⟩ := check_cases hget
    · -- the call opens a window, and does not forget: nothing is recent
      have hnone : ∀ a ∈ s.2, a + s.1.window ≤ now := by
        intro a ha
        by_contra hlt
        exact hf ⟨⟨(count, start), hentry, hreset⟩, a, ha, not_le.mp hlt⟩
      rw [watch_of_admitted hcheck]
      refine h.admit ?_ le_rfl ?_ fun a ha _ => hnone a ha
      · rw [recent_eq_zero.mpr hnone]
        exact hmax
      · rw [List.countP_eq_zero]
        intro a ha hge
        have hge := of_decide_eq_true hge
        have hle := hnone a ha
        omega
    · -- the window is open, and what was admitted before it is not recent
      rw [watch_of_admitted hcheck]
      refine h.admit ?_ hstart hcount hold
      refine lt_of_le_of_lt ?_ (hcount.trans_lt hroom)
      refine List.countP_mono_left fun a ha hrec => decide_eq_true ?_
      have hrec := of_decide_eq_true hrec
      by_contra hlt
      have hle := hold a ha (not_le.mp hlt)
      omega
    · rw [watch_of_refused hcheck]
      refine ⟨h.sliding, h.past, ?_, ?_⟩
      · intro hn
        rw [entries_set_self] at hn
        cases hn
      · intro c b he
        rw [entries_set_self, Option.some.injEq, Prod.mk.injEq] at he
        obtain ⟨rfl, rfl⟩ := he
        exact ⟨hstart, hcount, hold⟩

/-- A whole run in which no call forgets, from a state that counts. -/
theorem Counted.run (h : Counted key s now) (hmax : 1 ≤ s.1.max) (hw : 0 < s.1.window)
    (hord : calls.Pairwise fun a b => a.2 ≤ b.2) (hnow : ∀ c ∈ calls, now ≤ c.2)
    (hlater : ∀ c ∈ calls, c.2 ≤ later) (hle : now ≤ later) (hm : Mindful key s calls) :
    Counted key (run key s calls) later := by
  induction calls generalizing s now with
  | nil => exact h.mono hle
  | cons call calls ih =>
    obtain ⟨hfirst, hrest⟩ := List.pairwise_cons.mp hord
    obtain ⟨hf, hm⟩ := hm
    have hcall : Counted key s call.2 := h.mono (hnow call List.mem_cons_self)
    have hstep : Counted key (watch key s call) call.2 := by
      by_cases hk : call.1 = key
      · obtain ⟨k, t⟩ := call
        cases hk
        exact hcall.step hmax hw (hf rfl)
      · exact hcall.of_ne hk
    exact ih hstep (by rwa [max_watch]) (by rwa [window_watch]) hrest hfirst
      (fun c hc => hlater c (List.mem_cons_of_mem _ hc)) (hlater call List.mem_cons_self) hm

/-! ### A burst at one instant -/

/-- The window of the key is open. -/
def Open (key : String) (rl : RateLimiter) (now : ℕ) : Prop :=
  ∃ count start, rl.entries key = some (count, start) ∧ now - start < rl.window

/-- A call on the key finds its window open or opens one. -/
theorem open_watch (key : String) (s : RateLimiter × List ℕ) (hw : 0 < s.1.window) :
    Open key (watch key s (key, now)).1 now := by
  obtain ⟨⟨count, start⟩, hget⟩ : ∃ e, (s.1.entries key).getD (0, now) = e := ⟨_, rfl⟩
  have hclose : now - now < s.1.window := by omega
  obtain ⟨_, hcheck⟩ | ⟨hopen, _, hcheck⟩ | ⟨hopen, _, hcheck⟩ := check_cases hget
  · rw [watch_of_admitted hcheck]
    exact ⟨1, now, entries_set_self .., hclose⟩
  · rw [watch_of_admitted hcheck]
    exact ⟨_, start, entries_set_self .., hopen⟩
  · rw [watch_of_refused hcheck]
    exact ⟨_, start, entries_set_self .., hopen⟩

/-- In an open window nothing is forgotten. -/
theorem not_forgets_of_open (h : Open key s.1 now) : ¬ Forgets key s now := by
  rintro ⟨⟨⟨count, start⟩, hentry, hreset⟩, _⟩
  obtain ⟨count', start', hentry', hopen⟩ := h
  rw [Option.mem_def.mp hentry, Option.some.injEq, Prod.mk.injEq] at hentry'
  obtain ⟨rfl, rfl⟩ := hentry'
  omega

/-- So of a burst only the first call can forget. -/
theorem mindful_burst (hw : 0 < s.1.window) (hf : ¬ Forgets key s now) (n : ℕ) :
    Mindful key s (List.replicate n (key, now)) := by
  induction n generalizing s with
  | zero => exact trivial
  | succ n ih =>
    exact ⟨fun _ => hf, ih (by rwa [window_watch]) (not_forgets_of_open (open_watch key s hw))⟩

/-- A burst that fits into the open window is admitted whole. -/
theorem run_burst (hentry : s.1.entries key = some (count, start))
    (hopen : now - start < s.1.window) {n : ℕ} (hfit : count + n ≤ s.1.max) :
    (run key s (List.replicate n (key, now))).2 = s.2 ++ List.replicate n now := by
  induction n generalizing s count with
  | zero => exact (List.append_nil _).symm
  | succ n ih =>
    have hget : (s.1.entries key).getD (0, now) = (count, start) := by rw [hentry]; rfl
    obtain ⟨hreset, _⟩ | ⟨_, _, hcheck⟩ | ⟨_, hfull, _⟩ := check_cases hget
    · omega
    · have hrest := ih (s := (s.1.set key (count + 1, start), s.2 ++ [now]))
        (entries_set_self ..) hopen (by rw [max_set]; omega)
      rw [List.replicate_succ, List.replicate_succ]
      show (run key (watch key s (key, now)) (List.replicate n (key, now))).2 = _
      rw [watch_of_admitted hcheck, hrest, List.append_assoc, List.singleton_append]
    · omega

/-- **A call that forgets cannot be afforded.**  It opens a window with room for
a full burst, and what it forgot is still in the interval. -/
theorem not_sliding_of_forgets (hmax : 1 ≤ s.1.max) (hw : 0 < s.1.window)
    (hpast : ∀ a ∈ s.2, a ≤ now) (hf : Forgets key s now) :
    ¬ Sliding s.1.max s.1.window (run key s (List.replicate s.1.max (key, now))).2 := by
  obtain ⟨⟨⟨count, start⟩, hentry, hreset⟩, a, ha, hrecent⟩ := hf
  have hreset : s.1.window ≤ now - start := hreset
  have hget : (s.1.entries key).getD (0, now) = (count, start) := by
    rw [Option.mem_def.mp hentry]
    rfl
  obtain ⟨_, hcheck⟩ | ⟨hopen, _⟩ | ⟨hopen, _⟩ := check_cases hget
  · obtain ⟨m, hm⟩ : ∃ m, s.1.max = m + 1 := ⟨s.1.max - 1, by omega⟩
    have hburst := run_burst (s := (s.1.set key (1, now), s.2 ++ [now])) (n := m)
      (entries_set_self ..) (show now - now < s.1.window by omega)
      (show 1 + m ≤ s.1.max by omega)
    have hall : (run key s (List.replicate s.1.max (key, now))).2 =
        s.2 ++ List.replicate s.1.max now := by
      rw [hm, List.replicate_succ, List.replicate_succ]
      show (run key (watch key s (key, now)) (List.replicate m (key, now))).2 = _
      rw [watch_of_admitted hcheck, hburst, List.append_assoc, List.singleton_append]
    rw [hall]
    exact not_sliding_burst ha (hpast a ha) hrecent
  · omega
  · omega

/-! ### The sliding window -/

theorem max_run (key : String) (s : RateLimiter × List ℕ) (calls : List (String × ℕ)) :
    (run key s calls).1.max = s.1.max := by
  induction calls generalizing s with
  | nil => rfl
  | cons call calls ih => exact (ih _).trans (max_watch ..)

theorem window_run (key : String) (s : RateLimiter × List ℕ) (calls : List (String × ℕ)) :
    (run key s calls).1.window = s.1.window := by
  induction calls generalizing s with
  | nil => rfl
  | cons call calls ih => exact (ih _).trans (window_watch ..)

/-- A run in which no call forgets, of a new limiter. -/
theorem counted_of_mindful (hmax : 1 ≤ max) (hw : 0 < window)
    (hord : calls.Pairwise fun a b => a.2 ≤ b.2) (hnow : ∀ c ∈ calls, c.2 ≤ now)
    (hm : Mindful key (new max window, []) calls) :
    Counted key (run key (new max window, []) calls) now :=
  (counted_new max window key).run hmax hw hord (fun _ _ => Nat.zero_le _) hnow (Nat.zero_le _) hm

/-- **When the limiter is a sliding window.**  In a run in which no call on the
key opens a window less than a window after a call that was admitted, no interval
as long as the window holds more than `max` of the admitted calls.  And for the
next call the condition is exact: the bound survives every burst at the next
instant if and only if the call there does not forget. -/
theorem check_sliding_iff (hmax : 1 ≤ max) (hw : 0 < window)
    (hord : calls.Pairwise fun a b => a.2 ≤ b.2) (hnow : ∀ c ∈ calls, c.2 ≤ now)
    (hm : Mindful key (new max window, []) calls) :
    Sliding max window (admitted max window key calls) ∧
    ((∀ n, Sliding max window (admitted max window key (calls ++ List.replicate n (key, now)))) ↔
      ¬ Forgets key (run key (new max window, []) calls) now) := by
  have hcounted : Counted key (run key (new max window, []) calls) now :=
    counted_of_mindful hmax hw hord hnow hm
  have hsmax : (run key (new max window, []) calls).1.max = max := max_run ..
  have hswin : (run key (new max window, []) calls).1.window = window := window_run ..
  have hsliding := hcounted.sliding
  rw [hsmax, hswin] at hsliding
  refine ⟨hsliding, fun h hf => ?_, fun hf n => ?_⟩
  · have hbroken := not_sliding_of_forgets (by rwa [hsmax]) (by rwa [hswin]) hcounted.past hf
    rw [hsmax, hswin, ← run_append] at hbroken
    exact hbroken (h max)
  · have hburst : Counted key
        (run key (run key (new max window, []) calls) (List.replicate n (key, now))) now :=
      hcounted.run (by rwa [hsmax]) (by rwa [hswin])
        (List.pairwise_replicate.mpr (Or.inr le_rfl))
        (fun c hc => (List.eq_of_mem_replicate hc) ▸ le_rfl)
        (fun c hc => (List.eq_of_mem_replicate hc) ▸ le_rfl) le_rfl
        (mindful_burst (by rwa [hswin]) hf n)
    have hslides := hburst.sliding
    rw [max_run, window_run, hsmax, hswin, ← run_append] at hslides
    exact hslides

/-- The limiter of the unit tests with three calls in its last second and three
when the next window opens: all six are admitted, five of them within two
seconds. -/
theorem check_sliding_burst :
    admitted 3 60 "key1" [("key1", 0), ("key1", 59), ("key1", 59), ("key1", 60), ("key1", 60),
        ("key1", 60)] = [0, 59, 59, 60, 60, 60] ∧
      ¬ ∀ (max window : ℕ) (key : String) (calls : List (String × ℕ)), 1 ≤ max → 0 < window →
        (calls.Pairwise fun a b => a.2 ≤ b.2) →
        Sliding max window (admitted max window key calls) := by
  have hall : admitted 3 60 "key1" [("key1", 0), ("key1", 59), ("key1", 59), ("key1", 60),
      ("key1", 60), ("key1", 60)] = [0, 59, 59, 60, 60, 60] := by decide
  refine ⟨hall, fun h => ?_⟩
  have hfive := h 3 60 "key1" [("key1", 0), ("key1", 59), ("key1", 59), ("key1", 60), ("key1", 60),
    ("key1", 60)] (by decide) (by decide) (by decide) 59
  rw [hall] at hfive
  exact absurd hfive (by decide)

/-- The run of the unit test that lets the window pass: nothing is forgotten. -/
theorem check_sliding_iff_after_window :
    Sliding 1 1 (admitted 1 1 "key2" [("key2", 0), ("key2", 0), ("key2", 5)]) :=
  (@check_sliding_iff "key2" 5 _ 1 1 (by decide) (by decide) (by decide) (by decide)
    (by decide)).1

end RateLimiter
end SentinelMesh
