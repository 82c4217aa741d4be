/-
# Whether an authentication event is used once

Requests and sockets over time, on one Redis.  An event is fresh in the seconds
from 60 before its `created_at` to 60 after it, 121 seconds in all, and its id is
claimed for 120: an event used in the first of these seconds can be used again in
the last one (`accepted_again`, `early_event_accepted_twice`).  When no event is
presented more than 59 seconds before its time, a claim outlives the freshness of
its event, and each check accepts an event once (`single_use`).

The id of a verified event is the hash of its contents, its `created_at` among
them (`IdsDate`).  An event that satisfies both checks can be used once with each:
their claims are under different keys.
-/

import SentinelMesh.Auth.Nip98
import SentinelMesh.Lib.Run
import Mathlib.Algebra.Order.Archimedean.Real.Basic
import Mathlib.Tactic.Linarith

namespace SentinelMesh
namespace Auth

open Lib

/-- The two checks. -/
inductive Check
  | nip98
  | ws
  deriving DecidableEq, Repr

/-- The key under which a check claims an id. -/
def Check.key : Check → String → String
  | nip98, id => "nip98:v1:jti:" ++ id
  | ws, id => "circle-ws:v1:jti:" ++ id

/-- **An id dates its event.**  `Event::verify` recomputes the id as a hash of the
event, its `created_at` included; hashes are taken not to collide. -/
def IdsDate (verify : NostrEvent → Bool) : Prop :=
  ∀ e e', verify e = true → verify e' = true → e.id = e'.id → e.created_at = e'.created_at

section

variable {K : Type} [Field K] [LinearOrder K] [IsStrictOrderedRing K] [FloorRing K]

/-- The clock and Redis. -/
structure Sys (K : Type) [Field K] [LinearOrder K] [IsStrictOrderedRing K] [FloorRing K] where
  now : Clock K
  redis : Expiring String K

/-- What can happen: time passes, or a request or a socket authenticates. -/
inductive Act (K : Type) [Field K] [LinearOrder K]
  | wait (d : K) (nonneg : 0 ≤ d)
  | http (parts : Parts) (config : Config) (wire : Wire)
  | ws (circle_id : Uuid) (raw : RawEvent) (wire : Wire)

/-- Time passes, as far as the clock goes. -/
def Clock.wait (now : Clock K) (d : K) : Clock K :=
  if h : 0 ≤ ⌊now.1 + d⌋ ∧ ⌊now.1 + d⌋ ≤ maxUtcSecs then ⟨now.1 + d, h⟩ else now

/-- The state after an action. -/
def step (env : Env) (s : Sys K) : Act K → Sys K
  | .wait d _ => { s with now := s.now.wait d }
  | .http parts config wire =>
    { s with redis := (validateNip98Request env s.redis s.now wire parts config).1 }
  | .ws circle_id raw wire =>
    { s with redis := (verifyWsAuth env s.redis s.now wire raw circle_id).1 }

/-- The check that accepts an action, and the id it accepts. -/
def accepted (env : Env) (s : Sys K) : Act K → Option (Check × String)
  | .wait _ _ => none
  | .http parts config wire =>
    match (validateNip98Request env s.redis s.now wire parts config).2 with
    | .ok auth => some (.nip98, auth.event_id)
    | .error _ => none
  | .ws circle_id raw wire => match (verifyWsAuth env s.redis s.now wire raw circle_id).2 with
    | .ok _ => raw.parse.map fun event => (.ws, event.id)
    | .error _ => none

/-- The event an action presents. -/
def presented : Act K → Option NostrEvent
  | .wait _ _ => none
  | .http parts _ _ => match extractAuthEvent parts with
    | .ok event => some event
    | .error _ => none
  | .ws _ raw _ => raw.parse

/-- The condition on a step: no event is presented more than 59 seconds before its
`created_at`. -/
def timely (s : Sys K) (a : Act K) : Bool :=
  (presented a).all fun event => decide ((event.created_at : K) ≤ s.now.1 + 59)

theorem timely_http {s : Sys K} {parts : Parts} {config : Config} {wire : Wire} {event : NostrEvent}
    (h : extractAuthEvent parts = .ok event) (hahead : (event.created_at : K) ≤ s.now.1 + 59) :
    timely s (.http parts config wire) = true := by
  have hpresented : presented (.http parts config wire : Act K) = some event := by
    simp only [presented, h]
  unfold timely
  rw [hpresented]
  exact decide_eq_true hahead

/-! ### What a check that accepts has checked -/

theorem createdAt_eq_ok {event : NostrEvent} {c : ℤ} (h : createdAt event = .ok c) :
    c = event.created_at ∧ c < 2 ^ 63 := by
  unfold createdAt at h
  split_ifs at h with hlt
  have hc : (event.created_at : ℤ) = c := Except.ok.inj h
  have hlt : (event.created_at : ℤ) < 2 ^ 63 := by exact_mod_cast hlt
  exact ⟨hc.symm, hc ▸ hlt⟩

/-- The freshness of an event by a clock, as the checks compute it. -/
def Fresh (now : ℤ) (event : NostrEvent) : Prop :=
  absI64 (wrap 64 (now - wrap 64 event.created_at)) ≤ freshnessSecs

theorem checkNip98_eq_ok {env : Env} {now : ℤ} {parts : Parts} {config : Config}
    {event : NostrEvent} {auth : ValidatedNostrAuth}
    (h : checkNip98 env now parts config event = .ok auth) :
    auth.event_id = event.id ∧ env.verify event = true ∧ Fresh now event := by
  unfold checkNip98 at h
  simp only [bind_eq_ok, ensure_eq_ok, decide_eq_true_eq] at h
  obtain ⟨_, _, c, hc, _, hfresh, _, hverify, _, _, _, _, _, _, _, _, _, _, hret⟩ := h
  obtain ⟨rfl, hlt⟩ := createdAt_eq_ok hc
  have hwrap : wrap 64 (event.created_at : ℤ) = event.created_at :=
    wrap_of_mem (w := 63) ⟨by omega, by omega⟩
  cases hret
  refine ⟨rfl, hverify, ?_⟩
  unfold Fresh
  rw [hwrap]
  exact hfresh

theorem checkWsAuth_eq_ok {env : Env} {now : ℤ} {raw : RawEvent} {circle_id : Uuid}
    {event : NostrEvent} (h : checkWsAuth env now raw circle_id = .ok event) :
    raw.parse = some event ∧ env.verify event = true ∧ Fresh now event := by
  unfold checkWsAuth at h
  simp only [bind_eq_ok, ensure_eq_ok, decide_eq_true_eq] at h
  obtain ⟨event', hevent, _, _, _, hfresh, _, hverify, _, _, _, _, _, _, _, _, _, _, _, _, _, _, hret⟩ :=
    h
  cases hret
  refine ⟨?_, hverify, hfresh⟩
  unfold wsEvent at hevent
  split at hevent
  · cases hevent
  · rename_i e he
    rw [he, Except.ok.inj hevent]

/-- A fresh event that is not far ahead of the clock is less than 61 seconds behind
it. -/
theorem lt_of_fresh {now : Clock K} {event : NostrEvent} (h : Fresh now.timestamp event)
    (hahead : (event.created_at : K) ≤ now.1 + 59) : now.1 < event.created_at + 61 := by
  have hclock := now.2
  have hfloor : ((event.created_at : ℤ) : K) < ((⌊now.1⌋ + 60 : ℤ) : K) := by
    have := Int.lt_floor_add_one now.1
    push_cast
    linarith
  have hahead : (event.created_at : ℤ) < ⌊now.1⌋ + 60 := by exact_mod_cast hfloor
  unfold Clock.timestamp at *
  unfold maxUtcSecs at hclock
  have hwrap : wrap 64 (event.created_at : ℤ) = event.created_at :=
    wrap_of_mem (w := 63) ⟨by omega, by omega⟩
  have hdiff : wrap 64 (⌊now.1⌋ - event.created_at) = ⌊now.1⌋ - event.created_at :=
    wrap_of_mem (w := 63) ⟨by omega, by omega⟩
  have habs : wrap 64 |⌊now.1⌋ - (event.created_at : ℤ)| = |⌊now.1⌋ - (event.created_at : ℤ)| := by
    have habs := abs_lt.2 (⟨by omega, by omega⟩ :
      -2 ^ 63 < ⌊now.1⌋ - (event.created_at : ℤ) ∧ ⌊now.1⌋ - (event.created_at : ℤ) < 2 ^ 63)
    have hpos := abs_nonneg (⌊now.1⌋ - (event.created_at : ℤ))
    exact wrap_of_mem (w := 63) ⟨by omega, habs⟩
  unfold Fresh absI64 freshnessSecs at h
  rw [hwrap, hdiff, habs] at h
  have hle : ⌊now.1⌋ ≤ event.created_at + 60 := by
    have := (abs_le.1 h).2
    omega
  have hle : ((⌊now.1⌋ : ℤ) : K) ≤ ((event.created_at + 60 : ℤ) : K) := by exact_mod_cast hle
  have hlt := Int.lt_floor_add_one now.1
  push_cast at hle
  linarith

omit [IsStrictOrderedRing K] [FloorRing K] in
theorem mem_claim_of_mem {redis : Expiring String K} (now : K) (key : String) (wire : Wire)
    {r : String × K} (h : r ∈ redis.keys) : r ∈ (claim redis now key wire).1.keys := by
  unfold claim
  by_cases hreached : wire.reached = true
  · rw [if_pos hreached]
    exact Expiring.mem_keys_setNx.2 (Or.inl h)
  · rw [if_neg hreached]
    exact h

omit [IsStrictOrderedRing K] [FloorRing K] in
theorem claim_eq_true {redis : Expiring String K} {now : K} {key : String} {wire : Wire}
    (h : (claim redis now key wire).2 = some true) :
    redis.holds now key = false ∧ (key, now + claimTtl) ∈ (claim redis now key wire).1.keys := by
  unfold claim at h ⊢
  split_ifs at h ⊢ with hreached hreplied
  have hset : (redis.setNx now key claimTtl).2 = true := Option.some.inj h
  exact ⟨Expiring.setNx_eq_true_iff.1 hset, Expiring.mem_keys_setNx.2 (Or.inr ⟨rfl, hset⟩)⟩

/-- What an action that is accepted has passed, and what it leaves in Redis. -/
structure Accepts (env : Env) (s : Sys K) (a : Act K) (chk : Check) (event : NostrEvent) :
    Prop where
  presented : presented a = some event
  verified : env.verify event = true
  fresh : Fresh s.now.timestamp event
  unclaimed : s.redis.holds s.now.1 (chk.key event.id) = false
  claimed : (chk.key event.id, s.now.1 + claimTtl) ∈ (step env s a).redis.keys

theorem accepts_http {env : Env} {s : Sys K} {parts : Parts} {config : Config} {wire : Wire}
    {auth : ValidatedNostrAuth}
    (h : (validateNip98Request env s.redis s.now wire parts config).2 = .ok auth) :
    ∃ event, event.id = auth.event_id ∧ Accepts env s (.http parts config wire) .nip98 event := by
  have hstep : (step env s (.http parts config wire)).redis =
      (validateNip98Request env s.redis s.now wire parts config).1 := rfl
  unfold validateNip98Request at h hstep
  cases hextract : extractAuthEvent parts with
  | error e =>
      rw [hextract] at h
      cases h
  | ok event =>
      cases hcheck : checkNip98 env s.now.timestamp parts config event with
      | error e =>
          simp only [hextract, hcheck] at h
          cases h
      | ok auth' =>
          simp only [hextract, hcheck] at h hstep
          obtain ⟨hid, hverify, hfresh⟩ := checkNip98_eq_ok hcheck
          split at h <;> cases h
          rename_i redis' hclaim
          rw [hclaim] at hstep
          obtain ⟨hfree, hmem⟩ := claim_eq_true (congrArg Prod.snd hclaim)
          rw [hclaim, hid] at hmem
          rw [hid] at hfree
          have hpres : Auth.presented (Act.http parts config wire : Act K) = some event := by
            simp only [Auth.presented, hextract]
          exact ⟨event, hid.symm, hpres, hverify, hfresh, hfree, hstep ▸ hmem⟩

theorem accepts_ws {env : Env} {s : Sys K} {circle_id : Uuid} {raw : RawEvent} {wire : Wire}
    {pk : Pubkey} (h : (verifyWsAuth env s.redis s.now wire raw circle_id).2 = .ok pk) :
    ∃ event, Accepts env s (.ws circle_id raw wire) .ws event := by
  have hstep : (step env s (.ws circle_id raw wire)).redis =
      (verifyWsAuth env s.redis s.now wire raw circle_id).1 := rfl
  unfold verifyWsAuth at h hstep
  cases hcheck : checkWsAuth env s.now.timestamp raw circle_id with
  | error e =>
      rw [hcheck] at h
      cases h
  | ok event =>
      simp only [hcheck] at h hstep
      obtain ⟨hparse, hverify, hfresh⟩ := checkWsAuth_eq_ok hcheck
      split at h <;> cases h
      rename_i redis' hclaim
      rw [hclaim] at hstep
      obtain ⟨hfree, hmem⟩ := claim_eq_true (congrArg Prod.snd hclaim)
      rw [hclaim] at hmem
      exact ⟨event, hparse, hverify, hfresh, hfree, hstep ▸ hmem⟩

/-- **What an accepted action is.** -/
theorem accepts_of_accepted {env : Env} {s : Sys K} {a : Act K} {chk : Check} {id : String}
    (h : accepted env s a = some (chk, id)) : ∃ event, event.id = id ∧ Accepts env s a chk event := by
  cases a with
  | wait d hd => cases h
  | http parts config wire =>
      unfold accepted at h
      dsimp only at h
      split at h
      · rename_i auth hok
        cases h
        exact accepts_http hok
      · cases h
  | ws circle_id raw wire =>
      unfold accepted at h
      dsimp only at h
      split at h
      · rename_i pk hok
        obtain ⟨event, hacc⟩ := accepts_ws hok
        have hparse : raw.parse = some event := hacc.presented
        rw [hparse] at h
        cases h
        exact ⟨event, rfl, hacc⟩
      · cases h

/-- Nothing removes a claim. -/
theorem mem_redis_step {env : Env} {s : Sys K} {a : Act K} {r : String × K}
    (h : r ∈ s.redis.keys) : r ∈ (step env s a).redis.keys := by
  cases a with
  | wait d hd => exact h
  | http parts config wire =>
      unfold step validateNip98Request
      dsimp only
      split
      · exact h
      · split
        · exact h
        · rename_i auth _
          have hmem := mem_claim_of_mem s.now.1 ("nip98:v1:jti:" ++ auth.event_id) wire h
          split <;> rename_i hclaim <;> rw [hclaim] at hmem <;> exact hmem
  | ws circle_id raw wire =>
      unfold step verifyWsAuth
      dsimp only
      split
      · exact h
      · rename_i event _
        have hmem := mem_claim_of_mem s.now.1 ("circle-ws:v1:jti:" ++ event.id) wire h
        split <;> rename_i hclaim <;> rw [hclaim] at hmem <;> exact hmem

/-! ### Whole runs -/

/-- What the checks have accepted, in order. -/
def uses (env : Env) (es : List (Event (Sys K) (Act K))) : List (Check × String) :=
  es.filterMap fun e => accepted env e.pre e.act

/-- Each accepted id is claimed beyond the freshness of its event, and none is
accepted twice. -/
structure Guarded (env : Env) (s : Sys K) (es : List (Event (Sys K) (Act K))) : Prop where
  claimed : ∀ u ∈ uses env es, ∃ event exp, env.verify event = true ∧ event.id = u.2 ∧
    (u.1.key u.2, exp) ∈ s.redis.keys ∧ (event.created_at : K) + 61 ≤ exp
  nodup : (uses env es).Nodup

theorem guarded_step {env : Env} (hids : IdsDate env.verify) {s : Sys K}
    {es : List (Event (Sys K) (Act K))} {a : Act K} (h : Guarded env s es)
    (ht : timely s a = true) : Guarded env (step env s a) (es ++ [⟨s, a, step env s a⟩]) := by
  have huses : uses env (es ++ [⟨s, a, step env s a⟩]) =
      uses env es ++ (accepted env s a).toList := by
    unfold uses
    rw [List.filterMap_append, List.filterMap_cons, List.filterMap_nil]
    cases accepted env s a <;> rfl
  have hold : ∀ u ∈ uses env es, ∃ event exp, env.verify event = true ∧ event.id = u.2 ∧
      (u.1.key u.2, exp) ∈ (step env s a).redis.keys ∧ (event.created_at : K) + 61 ≤ exp := by
    intro u hu
    obtain ⟨event, exp, hverify, hid, hmem, hexp⟩ := h.claimed u hu
    exact ⟨event, exp, hverify, hid, mem_redis_step hmem, hexp⟩
  cases hacc : accepted env s a with
  | none =>
      rw [hacc, Option.toList_none, List.append_nil] at huses
      exact ⟨huses ▸ hold, huses ▸ h.nodup⟩
  | some u =>
      rw [hacc, Option.toList_some] at huses
      obtain ⟨chk, id⟩ := u
      obtain ⟨event, rfl, hok⟩ := accepts_of_accepted hacc
      have hahead : (event.created_at : K) ≤ s.now.1 + 59 := by
        unfold timely at ht
        rw [hok.presented] at ht
        exact of_decide_eq_true ht
      refine ⟨?_, ?_⟩
      · rw [huses]
        intro u hu
        rcases List.mem_append.1 hu with hu | hu
        · exact hold u hu
        · obtain rfl := List.mem_singleton.1 hu
          refine ⟨event, _, hok.verified, rfl, hok.claimed, ?_⟩
          unfold claimTtl
          linarith
      · rw [huses]
        refine List.nodup_append.2 ⟨h.nodup, List.nodup_singleton _, ?_⟩
        intro u hu u' hu' hne
        obtain rfl := List.mem_singleton.1 hu'
        subst hne
        -- the id was claimed before, for longer than its event is fresh
        obtain ⟨event', exp, hverify, hid, hmem, hexp⟩ := h.claimed _ hu
        have hdate := hids event' event hverify hok.verified hid
        have hlt := lt_of_fresh hok.fresh hahead
        rw [hdate] at hexp
        have hholds := Expiring.holds_of_mem hmem (lt_of_lt_of_le hlt hexp)
        rw [hok.unclaimed] at hholds
        cases hholds

/-- **An event is used once.**  In every run of timely requests from an empty Redis,
over any ordered field of instants, no check accepts the id of an event twice. -/
theorem single_use (env : Env) (hids : IdsDate env.verify) (now : Clock K) (as : List (Act K))
    (ht : ∀ e ∈ events (step env) ⟨now, {}⟩ as, timely e.pre e.act = true) :
    (uses env (events (step env) ⟨now, {}⟩ as)).Nodup := by
  have hrun : (∀ e ∈ events (step env) ⟨now, {}⟩ as, timely e.pre e.act = true) →
      Guarded env (run (step env) ⟨now, {}⟩ as) (events (step env) ⟨now, {}⟩ as) := by
    refine run_events_induction
      (P := fun s es => (∀ e ∈ es, timely e.pre e.act = true) → Guarded env s es) ?_ ?_ as
    · intro _
      exact ⟨fun _ h => absurd h List.not_mem_nil, List.nodup_nil⟩
    · intro s es a h hall
      have hbefore := h fun e he => hall e (List.mem_append_left _ he)
      exact guarded_step hids hbefore
        (hall ⟨s, a, step env s a⟩ (List.mem_append_right _ (List.mem_singleton_self _)))
  exact (hrun ht).nodup

/-! ### The first second -/

theorem checkNip98_congr {env : Env} {now now' : ℤ} {parts : Parts} {config : Config}
    {event : NostrEvent} {auth : ValidatedNostrAuth}
    (h : checkNip98 env now parts config event = .ok auth) (hfresh : Fresh now' event) :
    checkNip98 env now' parts config event = .ok auth := by
  unfold checkNip98 at h ⊢
  simp only [bind_eq_ok, ensure_eq_ok, decide_eq_true_eq] at h ⊢
  obtain ⟨_, hkind, c, hc, _, _, hrest⟩ := h
  refine ⟨(), hkind, c, hc, (), ?_, hrest⟩
  obtain ⟨rfl, hlt⟩ := createdAt_eq_ok hc
  have hwrap : wrap 64 (event.created_at : ℤ) = event.created_at :=
    wrap_of_mem (w := 63) ⟨by omega, by omega⟩
  unfold Fresh at hfresh
  rw [hwrap] at hfresh
  exact hfresh

theorem fresh_of_le {now : ℤ} {event : NostrEvent} (hc : (event.created_at : ℤ) < 2 ^ 62)
    (hlow : now - 60 ≤ event.created_at) (hhigh : (event.created_at : ℤ) ≤ now + 60) :
    Fresh now event := by
  have hwrap : wrap 64 (event.created_at : ℤ) = event.created_at :=
    wrap_of_mem (w := 63) ⟨by omega, by omega⟩
  have hdiff : wrap 64 (now - event.created_at) = now - event.created_at :=
    wrap_of_mem (w := 63) ⟨by omega, by omega⟩
  have habs : |now - (event.created_at : ℤ)| ≤ 60 := abs_le.2 ⟨by omega, by omega⟩
  have hpos := abs_nonneg (now - (event.created_at : ℤ))
  unfold Fresh absI64 freshnessSecs
  rw [hwrap, hdiff, wrap_of_mem (w := 63) ⟨by omega, by omega⟩]
  exact habs

section FirstSecond

variable {env : Env} {s : Sys K} {parts : Parts} {config : Config}
  {event : NostrEvent} {auth : ValidatedNostrAuth} (hextract : extractAuthEvent parts = .ok event)
  (hcheck : checkNip98 env s.now.timestamp parts config event = .ok auth)
  (hfree : s.redis.holds s.now.1 (Check.nip98.key auth.event_id) = false)
include hextract hcheck hfree

theorem accepted_http :
    accepted env s (.http parts config {}) = some (.nip98, auth.event_id) ∧
      (step env s (.http parts config {})).redis.keys =
        (Check.nip98.key auth.event_id, s.now.1 + claimTtl) :: s.redis.keys := by
  have hclaim : claim s.redis s.now.1 (Check.nip98.key auth.event_id) {} =
      (⟨(Check.nip98.key auth.event_id, s.now.1 + claimTtl) :: s.redis.keys⟩, some true) := by
    unfold claim Expiring.setNx
    rw [hfree]
    rfl
  have hvalid : validateNip98Request env s.redis s.now {} parts config =
      (⟨(Check.nip98.key auth.event_id, s.now.1 + claimTtl) :: s.redis.keys⟩, .ok auth) := by
    unfold validateNip98Request
    simp only [hextract, hcheck]
    rw [show "nip98:v1:jti:" ++ auth.event_id = Check.nip98.key auth.event_id from rfl, hclaim]
  simp only [accepted, step, hvalid, and_self]

/-- **A use in the first second can be repeated** 120 seconds later: an event that is
accepted between 60 and 59 seconds before its `created_at` is accepted again. -/
theorem accepted_again (hfirst : (event.created_at : ℤ) = s.now.timestamp + 60)
    (hclock : s.now.timestamp + 120 ≤ maxUtcSecs) (d : K) (hd : d = 120) (hpos : 0 ≤ d) :
    accepted env (run (step env) s [.http parts config {}, .wait d hpos]) (.http parts config {}) =
      accepted env s (.http parts config {}) := by
  subst hd
  have hnow := s.now.2
  obtain ⟨hacc, hkeys⟩ := accepted_http hextract hcheck hfree
  have hfloor : ⌊s.now.1 + 120⌋ = s.now.timestamp + 120 := Int.floor_add_ofNat s.now.1 120
  have hrange : 0 ≤ ⌊s.now.1 + 120⌋ ∧ ⌊s.now.1 + 120⌋ ≤ maxUtcSecs := by
    unfold Clock.timestamp at *
    omega
  obtain ⟨s', hs'⟩ : ∃ s', s' = run (step env) s [.http parts config {}, .wait 120 hpos] := ⟨_, rfl⟩
  have hwait : s'.now = ⟨s.now.1 + 120, hrange⟩ := by
    rw [hs']
    exact dif_pos hrange
  have hredis : s'.redis.keys = (Check.nip98.key auth.event_id, s.now.1 + claimTtl) ::
      s.redis.keys := by
    rw [hs']
    exact hkeys
  have hcheck' : checkNip98 env s'.now.timestamp parts config event = .ok auth := by
    have htime : s'.now.timestamp = s.now.timestamp + 120 := by
      rw [hwait]
      exact hfloor
    unfold maxUtcSecs at hclock
    exact checkNip98_congr hcheck (fresh_of_le (by omega) (by omega) (by omega))
  have hfree' : s'.redis.holds s'.now.1 (Check.nip98.key auth.event_id) = false := by
    rw [Bool.eq_false_iff]
    intro hholds
    obtain ⟨exp, hmem, hlt⟩ := Expiring.holds_iff.1 hholds
    rw [hwait] at hlt
    have hlt : s.now.1 + 120 < exp := hlt
    rw [hredis] at hmem
    rcases List.mem_cons.1 hmem with heq | hmem
    · have hexp : exp = s.now.1 + claimTtl := (Prod.mk.inj heq).2
      unfold claimTtl at hexp
      exact absurd hlt (by rw [hexp]; exact lt_irrefl _)
    · have hold := Expiring.holds_of_mem hmem (lt_trans (lt_add_of_pos_right s.now.1 (by norm_num)) hlt)
      rw [hfree] at hold
      cases hold
  rw [hacc, ← hs']
  exact (accepted_http hextract hcheck' hfree').1

theorem not_nodup_of_first (hfirst : (event.created_at : ℤ) = s.now.timestamp + 60)
    (hclock : s.now.timestamp + 120 ≤ maxUtcSecs) (hpos : (0 : K) ≤ 120) :
    ¬ (uses env (events (step env) s
      [.http parts config {}, .wait 120 hpos, .http parts config {}])).Nodup := by
  have hacc := (accepted_http hextract hcheck hfree).1
  have hagain := accepted_again hextract hcheck hfree hfirst hclock 120 rfl hpos
  have hwait : accepted env (step env s (.http parts config {})) (.wait 120 hpos) = none := rfl
  rw [run_cons, run_cons, run_nil, hacc] at hagain
  unfold uses
  simp only [events_cons, events_nil, List.filterMap_cons, List.filterMap_nil, hacc, hwait, hagain]
  simp

end FirstSecond

/-- The Unix epoch. -/
def Clock.epoch : Clock K := ⟨0, by rw [Int.floor_zero]; exact ⟨le_rfl, by decide⟩⟩

end

/-! ### A request to run

One event, signed for one `GET` request, dated `c` seconds after the epoch; it is
the only one that verifies. -/

/-- The event as submitted. -/
def demoRaw (c : ℕ) : RawEvent :=
  { id := digits 64 '1', pubkey := digits 64 'a', created_at := c, kind := 27235,
    tags := [["u", "https://mesh/api/circles"], ["method", "GET"]], content := "",
    sig := digits 128 '0' }

/-- The event, parsed. -/
def demoEvent (c : ℕ) : NostrEvent :=
  { id := digits 64 '1', pubkey := digits 64 'a', created_at := c, kind := 27235,
    tags := (demoRaw c).tags, content := "", sig := digits 128 '0' }

/-- The dependencies. -/
def demoEnv (c : ℕ) : Env where
  verify e := decide (e = demoEvent c)
  toUppercase := toAsciiUppercase

/-- The configuration. -/
def demoConfig : Config := { public_base_url := some "https://mesh", trust_proxy := false }

/-- The request. -/
def demoParts (c : ℕ) : Parts :=
  { method := "GET", path_and_query := "/api/circles", auth := .event (demoRaw c) }

/-- What validation returns. -/
def demoValidated (c : ℕ) : ValidatedNostrAuth :=
  { pubkey := digits 64 'a', event_id := digits 64 '1', created_at := c, payload := none }

theorem demo_idsDate (c : ℕ) : IdsDate (demoEnv c).verify := by
  intro e e' he he' _
  have he : e = demoEvent c := of_decide_eq_true he
  have he' : e' = demoEvent c := of_decide_eq_true he'
  rw [he, he']

theorem parse_demoRaw {c : ℕ} (hc : c < 2 ^ 64) : (demoRaw c).parse = some (demoEvent c) := by
  have hid : isHex 64 (demoRaw c).id = true := isHex_digits (by decide) (by decide) 64
  have hkey : isHex 64 (demoRaw c).pubkey = true := isHex_digits (by decide) (by decide) 64
  have hsig : isHex 128 (demoRaw c).sig = true := isHex_digits (by decide) (by decide) 128
  have hkind : (demoRaw c).kind < 2 ^ 16 := by
    show 27235 < 2 ^ 16
    decide
  have hid' : toAsciiLowercase (demoRaw c).id = digits 64 '1' :=
    toAsciiLowercase_digits (by decide) 64
  have hkey' : toAsciiLowercase (demoRaw c).pubkey = digits 64 'a' :=
    toAsciiLowercase_digits (by decide) 64
  have hsig' : toAsciiLowercase (demoRaw c).sig = digits 128 '0' :=
    toAsciiLowercase_digits (by decide) 128
  have htime : (demoRaw c).created_at < 2 ^ 64 := hc
  unfold RawEvent.parse
  rw [hid, hkey, hsig, hid', hkey', hsig', decide_eq_true htime, decide_eq_true hkind]
  rfl

theorem extract_event {parts : Parts} {raw : RawEvent} {event : NostrEvent}
    (hauth : parts.auth = .event raw) (h : raw.parse = some event) :
    extractAuthEvent parts = .ok event := by
  unfold extractAuthEvent
  rw [hauth]
  dsimp only
  rw [h]

theorem extract_demoParts {c : ℕ} (hc : c < 2 ^ 64) :
    extractAuthEvent (demoParts c) = .ok (demoEvent c) :=
  extract_event rfl (parse_demoRaw hc)

theorem check_demoParts {c : ℕ} {now : ℤ} (hc : c < 2 ^ 63) (hfresh : Fresh now (demoEvent c)) :
    checkNip98 (demoEnv c) now (demoParts c) demoConfig (demoEvent c) = .ok (demoValidated c) := by
  have hcreated : createdAt (demoEvent c) = .ok (c : ℤ) := if_pos hc
  have hwrap : wrap 64 (c : ℤ) = c := wrap_of_mem (w := 63) ⟨by omega, by omega⟩
  have hverify : (demoEnv c).verify (demoEvent c) = true := decide_eq_true rfl
  have hmethod : toAsciiUppercase "GET" = "GET" := by decide
  have hfresh : absI64 (wrap 64 (now - (c : ℤ))) ≤ freshnessSecs := hwrap ▸ hfresh
  unfold checkNip98
  simp only [bind_eq_ok, ensure_eq_ok, decide_eq_true_eq]
  exact ⟨(), rfl, c, hcreated, (), hfresh, (), hverify, "https://mesh/api/circles", rfl, "GET", rfl,
    none, rfl, (), rfl, (), hmethod, rfl⟩

/-- Two requests at the date of the event. -/
theorem single_use_on_date :
    IdsDate (demoEnv 0).verify ∧
      (uses (demoEnv 0) (events (step (demoEnv 0)) (⟨Clock.epoch, {}⟩ : Sys ℝ)
        [.http (demoParts 0) demoConfig {}, .http (demoParts 0) demoConfig {}])).Nodup := by
  refine ⟨demo_idsDate 0, single_use (demoEnv 0) (demo_idsDate 0) Clock.epoch _ ?_⟩
  have htimely : ∀ s : Sys ℝ, s.now = Clock.epoch →
      timely s (.http (demoParts 0) demoConfig {}) = true := by
    intro s hs
    have hahead : ((0 : ℕ) : ℝ) ≤ s.now.1 + 59 := by
      rw [hs]
      show ((0 : ℕ) : ℝ) ≤ 0 + 59
      norm_num
    exact timely_http (extract_demoParts (Nat.two_pow_pos 64)) hahead
  intro e he
  simp only [events_cons, events_nil, List.mem_cons, List.not_mem_nil, or_false] at he
  rcases he with rfl | rfl
  · exact htimely _ rfl
  · exact htimely _ rfl

/-- **An event can be used twice**: dated a minute after the epoch, presented at the
epoch and again 120 seconds later. -/
theorem early_event_accepted_twice :
    ¬ (uses (demoEnv 60) (events (step (demoEnv 60)) (⟨Clock.epoch, {}⟩ : Sys ℝ)
        [.http (demoParts 60) demoConfig {}, .wait 120 (by norm_num),
          .http (demoParts 60) demoConfig {}])).Nodup := by
  have hzero : (Clock.epoch : Clock ℝ).timestamp = 0 := Int.floor_zero
  have hextract := extract_demoParts (c := 60) (by norm_num)
  have hcheck : checkNip98 (demoEnv 60) (Clock.epoch : Clock ℝ).timestamp (demoParts 60) demoConfig
      (demoEvent 60) = .ok (demoValidated 60) := by
    rw [hzero]
    exact check_demoParts (by norm_num) (fresh_of_le (by decide) (by decide) (by decide))
  have hfirst : ((demoEvent 60).created_at : ℤ) = (Clock.epoch : Clock ℝ).timestamp + 60 := by
    rw [hzero]
    rfl
  have hclock : (Clock.epoch : Clock ℝ).timestamp + 120 ≤ maxUtcSecs := by
    rw [hzero]
    decide
  exact not_nodup_of_first (s := (⟨Clock.epoch, {}⟩ : Sys ℝ)) hextract hcheck rfl hfirst hclock
    (by norm_num)

end Auth
end SentinelMesh
