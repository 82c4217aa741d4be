/-
# Two buckets and a short circuit

The first check of `post_report`, `vote` (`routes/reports.rs`) and `post_vouch`
(`routes/vouches.rs`),

    if !rl.check(&pk_key) && !rl.check(&format!("ip:{ip}"))

on the rate limiter of `Routes.RateLimiter`.  A comment in `post_report` says
that both buckets are debited on entry.  A request is refused exactly when both
are exhausted (`submit_eq_false_iff`), but `&&` asks the second only when the
first refuses, and a bucket that refuses is not debited: no admitted request is
charged to both (`not_debited`).  So a sequence of requests is charged
as the comment says only where nothing of it is admitted (`charged_iff`).
-/

import SentinelMesh.Routes.RateLimiter
import SentinelMesh.Routes.Reports
import SentinelMesh.Routes.Submit
import SentinelMesh.Routes.Vouches

namespace SentinelMesh
namespace RateLimiter

variable {rl : RateLimiter} {key k : String} {now : ℕ} {max window : ℕ}

/-- The entry that `check` finds at the instant `now`. -/
def bucket (rl : RateLimiter) (key : String) (now : ℕ) : ℕ × ℕ := (rl.entries key).getD (0, now)

/-- What the bucket has been debited. -/
def count (rl : RateLimiter) (key : String) : ℕ := ((rl.entries key).map Prod.fst).getD 0

/-- The bucket's window is open and has no capacity left. -/
def Exhausted (rl : RateLimiter) (key : String) (now : ℕ) : Prop :=
  now - (rl.bucket key now).2 < rl.window ∧ rl.max ≤ (rl.bucket key now).1

instance (rl : RateLimiter) (key : String) (now : ℕ) : Decidable (rl.Exhausted key now) :=
  inferInstanceAs (Decidable (_ ∧ _))

/-- A call is refused exactly when its bucket is exhausted. -/
theorem check_eq_false_iff : (rl.check key now).1 = false ↔ rl.Exhausted key now := by
  obtain ⟨hw, h⟩ | ⟨_, hc, h⟩ | ⟨hw, hc, h⟩ := @check_cases rl key now _ _ rfl
  · rw [h]
    exact ⟨fun hf => (nomatch hf), fun he => absurd he.1 hw.not_gt⟩
  · rw [h]
    exact ⟨fun hf => (nomatch hf), fun he => absurd he.2 hc.not_ge⟩
  · rw [h]
    exact ⟨fun _ => ⟨hw, hc⟩, fun _ => rfl⟩

/-- A bucket that refuses is not debited. -/
theorem check_of_exhausted (hmax : 1 ≤ rl.max) (h : rl.Exhausted key now) :
    rl.check key now = (false, rl) := by
  cases hentry : rl.entries key with
  | none =>
    have hzero : rl.bucket key now = (0, now) := by rw [bucket, hentry]; rfl
    have hfull := h.2
    rw [hzero] at hfull
    exact absurd hmax (by omega)
  | some entry =>
    have hget : (rl.entries key).getD (0, now) = entry := by rw [hentry]; rfl
    have hsame : rl.set key entry = rl := by
      unfold set
      rw [← hentry, Function.update_eq_self]
    obtain ⟨hw, hc⟩ := h
    rw [bucket, hget] at hw hc
    obtain ⟨hreset, _⟩ | ⟨_, hroom, _⟩ | ⟨_, _, hcheck⟩ := check_cases hget
    · exact absurd hw hreset.not_gt
    · exact absurd hroom hc.not_gt
    · rw [hcheck]
      exact congrArg (Prod.mk false) hsame

theorem count_set_self (rl : RateLimiter) (key : String) (entry : ℕ × ℕ) :
    (rl.set key entry).count key = entry.1 := by
  rw [count, entries_set_self]
  rfl

theorem count_check_of_ne (h : k ≠ key) : (rl.check key now).2.count k = rl.count k := by
  rw [count, entries_check_of_ne h, count]

theorem exhausted_check_of_ne {later : ℕ} (h : k ≠ key) :
    (rl.check key now).2.Exhausted k later ↔ rl.Exhausted k later := by
  unfold Exhausted bucket
  rw [entries_check_of_ne h, max_check, window_check]

/-- What a limiter is after some calls. -/
def calls (rl : RateLimiter) (earlier : List (String × ℕ)) : RateLimiter :=
  earlier.foldl (fun rl c => (rl.check c.1 c.2).2) rl

/-- No bucket is debited past the limit. -/
theorem count_check_le (hmax : 1 ≤ rl.max) (h : ∀ k, rl.count k ≤ rl.max) (k : String) :
    (rl.check key now).2.count k ≤ rl.max := by
  by_cases hk : k = key
  · subst hk
    have hfind : (rl.bucket k now).1 = rl.count k := by
      unfold bucket count
      cases rl.entries k <;> rfl
    obtain ⟨_, hc⟩ | ⟨_, hroom, hc⟩ | ⟨_, _, hc⟩ := @check_cases rl k now _ _ rfl
    · rw [hc, count_set_self]
      exact hmax
    · rw [hc, count_set_self]
      exact hroom
    · rw [hc, count_set_self]
      exact hfind.trans_le (h k)
  · rw [count_check_of_ne hk]
    exact h k

@[simp] theorem max_calls (rl : RateLimiter) (earlier : List (String × ℕ)) :
    (rl.calls earlier).max = rl.max := by
  induction earlier generalizing rl with
  | nil => rfl
  | cons c earlier ih => exact (ih _).trans (max_check ..)

theorem count_calls_le (hmax : 1 ≤ rl.max) (h : ∀ k, rl.count k ≤ rl.max)
    (earlier : List (String × ℕ)) (k : String) : (rl.calls earlier).count k ≤ rl.max := by
  induction earlier generalizing rl with
  | nil => exact h k
  | cons c earlier ih =>
    have hstep : ∀ k, (rl.check c.1 c.2).2.count k ≤ (rl.check c.1 c.2).2.max := by
      intro k
      rw [max_check]
      exact count_check_le hmax h k
    exact (ih (by rwa [max_check]) hstep).trans (max_check ..).le

end RateLimiter

open RateLimiter

/-! ### The three routes -/

/-- The routes whose first check is the two buckets. -/
inductive Endpoint
  | postReport
  | vote
  | postVouch
  deriving DecidableEq, Repr

/-- The key of the pubkey's bucket. -/
def Endpoint.pkKey : Endpoint → Pubkey → String
  | postReport, pubkey => "report:" ++ pubkey
  | vote, pubkey => "vote:" ++ pubkey
  | postVouch, pubkey => "vouch:" ++ pubkey

/-- The key of the address's bucket, the same text in the three. -/
def ipKey (ip : String) : String := "ip:" ++ ip

/-- The limiter each route is given, with nanoseconds as instants. -/
def Endpoint.limiter : Endpoint → RateLimiter
  | postReport => new 10 (3600 * 10 ^ 9)
  | vote => new 30 (60 * 10 ^ 9)
  | postVouch => new 20 (3600 * 10 ^ 9)

/-- The two buckets of a request are two. -/
theorem Endpoint.ipKey_ne_pkKey (e : Endpoint) (pubkey : Pubkey) (ip : String) :
    ipKey ip ≠ e.pkKey pubkey := by
  intro h
  have hl := congrArg String.toList h
  cases e <;> simp [Endpoint.pkKey, ipKey] at hl

/-- A request to a route: its pubkey, and the instants at which the first and the
second bucket are asked. -/
structure Submission where
  pubkey : Pubkey
  pkAt : ℕ
  ipAt : ℕ
  deriving DecidableEq, Repr

/-- The two checks: whether the request is admitted, and the limiter after it. -/
def submit (e : Endpoint) (ip : String) (rl : RateLimiter) (a : Submission) : Bool × RateLimiter :=
  match rl.check (e.pkKey a.pubkey) a.pkAt with
  | (true, rl) => (true, rl)
  | (false, rl) => rl.check (ipKey ip) a.ipAt

variable {e : Endpoint} {ip : String} {rl : RateLimiter} {a : Submission} {attempts : List Submission}

/-- The pubkey's bucket has room: it alone is debited. -/
theorem submit_of_room (h : ¬ rl.Exhausted (e.pkKey a.pubkey) a.pkAt) :
    submit e ip rl a = (true, (rl.check (e.pkKey a.pubkey) a.pkAt).2) := by
  have hadmit : (rl.check (e.pkKey a.pubkey) a.pkAt).1 = true := by
    rw [← Bool.not_eq_false]
    exact fun hf => h (check_eq_false_iff.mp hf)
  unfold submit
  split
  · rename_i hc
    rw [hc]
  · rename_i hc
    rw [hc] at hadmit
    cases hadmit

/-- The pubkey's bucket is exhausted: the address's is asked, and the pubkey's is
left as it is. -/
theorem submit_of_exhausted (hmax : 1 ≤ rl.max) (h : rl.Exhausted (e.pkKey a.pubkey) a.pkAt) :
    submit e ip rl a = rl.check (ipKey ip) a.ipAt := by
  unfold submit
  rw [check_of_exhausted hmax h]

/-- **A request is refused exactly when both buckets are exhausted.** -/
theorem submit_eq_false_iff :
    (submit e ip rl a).1 = false ↔
      rl.Exhausted (e.pkKey a.pubkey) a.pkAt ∧ rl.Exhausted (ipKey ip) a.ipAt := by
  unfold submit
  split
  · rename_i hc
    have hroom : (rl.check (e.pkKey a.pubkey) a.pkAt).1 ≠ false := by
      rw [hc]
      exact fun h => nomatch h
    exact ⟨fun hf => (nomatch hf), fun he => absurd (check_eq_false_iff.mpr he.1) hroom⟩
  · rename_i rl' hc
    have hfull : rl.Exhausted (e.pkKey a.pubkey) a.pkAt := check_eq_false_iff.mp (by rw [hc])
    have hrl : (rl.check (e.pkKey a.pubkey) a.pkAt).2 = rl' := by rw [hc]
    rw [check_eq_false_iff, ← hrl, exhausted_check_of_ne (e.ipKey_ne_pkKey a.pubkey ip)]
    exact ⟨fun h => ⟨hfull, h⟩, And.right⟩

/-- A refused request debits nothing. -/
theorem submit_of_refused (hmax : 1 ≤ rl.max) (h : (submit e ip rl a).1 = false) :
    submit e ip rl a = (false, rl) := by
  obtain ⟨hpk, hip⟩ := submit_eq_false_iff.mp h
  rw [submit_of_exhausted hmax hpk, check_of_exhausted hmax hip]

/-- Both buckets of the request are debited. -/
def Debited (e : Endpoint) (ip : String) (rl : RateLimiter) (a : Submission) : Prop :=
  (submit e ip rl a).2.count (e.pkKey a.pubkey) = rl.count (e.pkKey a.pubkey) + 1 ∧
    (submit e ip rl a).2.count (ipKey ip) = rl.count (ipKey ip) + 1

instance (e : Endpoint) (ip : String) (rl : RateLimiter) (a : Submission) :
    Decidable (Debited e ip rl a) := inferInstanceAs (Decidable (_ ∧ _))

/-- **No request is charged to both buckets.**  The one that is asked first is
debited only when it admits, and then the other is not asked. -/
theorem not_debited (hmax : 1 ≤ rl.max) : ¬ Debited e ip rl a := by
  rintro ⟨hpk, hip⟩
  by_cases hroom : rl.Exhausted (e.pkKey a.pubkey) a.pkAt
  · rw [submit_of_exhausted hmax hroom, count_check_of_ne (e.ipKey_ne_pkKey a.pubkey ip).symm] at hpk
    omega
  · rw [submit_of_room hroom, count_check_of_ne (e.ipKey_ne_pkKey a.pubkey ip)] at hip
    omega

/-! ### Sequences of requests from one address -/

/-- The limiter after a sequence of requests from the address, and how many of
them were admitted. -/
def submits (e : Endpoint) (ip : String) (rl : RateLimiter) : List Submission → RateLimiter × ℕ
  | [] => (rl, 0)
  | a :: attempts =>
    let rest := submits e ip (submit e ip rl a).2 attempts
    (rest.1, rest.2 + (submit e ip rl a).1.toNat)

/-- Every request of the sequence is charged to both buckets if it is admitted,
and refused exactly when both are exhausted. -/
def EachCharged (e : Endpoint) (ip : String) : RateLimiter → List Submission → Prop
  | _, [] => True
  | rl, a :: attempts =>
    ((submit e ip rl a).1 = true → Debited e ip rl a) ∧
    ((submit e ip rl a).1 = false ↔
      rl.Exhausted (e.pkKey a.pubkey) a.pkAt ∧ rl.Exhausted (ipKey ip) a.ipAt) ∧
    EachCharged e ip (submit e ip rl a).2 attempts

/-- The limits as the comment has them: each request is charged, and the count
recorded for the address is the number of requests admitted from it, up to the
limit. -/
def Charged (e : Endpoint) (ip : String) (rl : RateLimiter) (attempts : List Submission) : Prop :=
  EachCharged e ip rl attempts ∧
    (submits e ip rl attempts).1.count (ipKey ip) =
      min rl.max (rl.count (ipKey ip) + (submits e ip rl attempts).2)

/-- Each request is charged exactly where none is admitted. -/
theorem eachCharged_iff (hmax : 1 ≤ rl.max) :
    EachCharged e ip rl attempts ↔
      ∀ a ∈ attempts, rl.Exhausted (e.pkKey a.pubkey) a.pkAt ∧ rl.Exhausted (ipKey ip) a.ipAt := by
  induction attempts with
  | nil => exact ⟨fun _ _ h => absurd h List.not_mem_nil, fun _ => trivial⟩
  | cons a attempts ih =>
    rw [List.forall_mem_cons]
    constructor
    · rintro ⟨hboth, _, hrest⟩
      have hno : (submit e ip rl a).1 = false := by
        rw [← Bool.not_eq_true]
        exact fun hadmit => not_debited hmax (hboth hadmit)
      rw [submit_of_refused hmax hno] at hrest
      exact ⟨submit_eq_false_iff.mp hno, ih.mp hrest⟩
    · rintro ⟨hfull, hall⟩
      have hno : (submit e ip rl a).1 = false := submit_eq_false_iff.mpr hfull
      refine ⟨fun hadmit => ?_, submit_eq_false_iff, ?_⟩
      · rw [hno] at hadmit
        cases hadmit
      · rw [submit_of_refused hmax hno]
        exact ih.mpr hall

/-- Requests that find both buckets exhausted leave the limiter as it is. -/
theorem submits_of_exhausted (hmax : 1 ≤ rl.max)
    (h : ∀ a ∈ attempts, rl.Exhausted (e.pkKey a.pubkey) a.pkAt ∧
      rl.Exhausted (ipKey ip) a.ipAt) : submits e ip rl attempts = (rl, 0) := by
  induction attempts with
  | nil => rfl
  | cons a attempts ih =>
    obtain ⟨hfull, hall⟩ := List.forall_mem_cons.mp h
    have hno := submit_of_refused hmax (submit_eq_false_iff.mpr hfull)
    unfold submits
    rw [hno, ih hall]
    rfl

/-- **When the submission limits charge as they say.**  On a limiter after any
calls, a sequence of requests from one address is charged to both buckets exactly
when each of them finds both exhausted, so that none is admitted. -/
theorem charged_iff (e : Endpoint) (ip : String) {max : ℕ} (hmax : 1 ≤ max) (window : ℕ)
    (earlier : List (String × ℕ)) (attempts : List Submission) :
    Charged e ip ((new max window).calls earlier) attempts ↔
      ∀ a ∈ attempts,
        ((new max window).calls earlier).Exhausted (e.pkKey a.pubkey) a.pkAt ∧
        ((new max window).calls earlier).Exhausted (ipKey ip) a.ipAt := by
  have hm : 1 ≤ ((new max window).calls earlier).max := by rwa [max_calls]
  have hle : ((new max window).calls earlier).count (ipKey ip) ≤
      ((new max window).calls earlier).max := by
    rw [max_calls]
    exact @count_calls_le (new max window) hmax (fun _ => Nat.zero_le _) earlier _
  constructor
  · exact fun h => (eachCharged_iff hm).mp h.1
  · intro h
    refine ⟨(eachCharged_iff hm).mpr h, ?_⟩
    rw [submits_of_exhausted hm h, Nat.add_zero, min_eq_right hle]

/-- One report: it is admitted, and nothing is recorded for its address. -/
theorem charged_one_report :
    (submit .postReport "203.0.113.7" Endpoint.postReport.limiter ⟨"a", 0, 0⟩).1 = true ∧
      (submit .postReport "203.0.113.7" Endpoint.postReport.limiter ⟨"a", 0, 0⟩).2.count
        (ipKey "203.0.113.7") = 0 ∧
      ¬ Charged .postReport "203.0.113.7" Endpoint.postReport.limiter [⟨"a", 0, 0⟩] :=
  ⟨by decide, by decide, fun h => absurd h.2 (by decide)⟩

/-- Refused by a limiter of one call with both buckets exhausted: charged as the
comment has it. -/
theorem charged_iff_refused :
    Charged .vote "203.0.113.7" ((new 1 60).calls [("vote:a", 0), ("ip:203.0.113.7", 0)])
      [⟨"a", 1, 1⟩, ⟨"a", 2, 2⟩] :=
  (charged_iff .vote "203.0.113.7" le_rfl 60 _ _).mpr (by decide)

/-! ### A fresh pubkey each time -/

/-! ### The routes -/

end SentinelMesh
