/-
# Requests that are let in

`signNip98AuthEvent` and `signLocalNip98AuthEvent` of `services/nostrService.ts`, which sign a request,
and `validate_nip98_request` of the gateway, which reads what they sign.

Every check of the gateway but the last is one of the request and the clock (`checkNip98_iff`); what
Redis answers is what the requests before have claimed (`holds_run_iff`).  So whether a request is let
in is said by the request, the clock and the history alone (`validated_iff`), and for one that the app
has signed it comes down to the address, the method, the time and to whether the same event was used
(`signed_validated_iff`).
-/

import SentinelMesh.Auth.Freshness

namespace SentinelMesh
namespace Auth

open Lib

/-! ### What is signed -/

/-- The `tags` of `signNip98AuthEvent` and of `signLocalNip98AuthEvent`: a hash is left out where there
is none, and where it is empty. -/
def nip98Tags (url method nonce : String) (payloadHash : Option String) : List (List String) :=
  let tags := [["u", url], ["method", method], ["nonce", nonce]]
  match payloadHash with
  | none => tags
  | some hash => if hash = "" then tags else tags ++ [["payload", hash]]

/-- What a signer returns for the event of a request, made at the second `now`: the event, which
parses and verifies. -/
structure Signed (env : Env) (url method nonce : String) (payloadHash : Option String) (now : ℕ)
    (raw : RawEvent) (event : NostrEvent) : Prop where
  kind : raw.kind = authKind
  created_at : raw.created_at = now
  tags : raw.tags = nip98Tags url method nonce payloadHash
  content : raw.content = ""
  parses : raw.parse = some event
  verifies : env.verify event = true

/-! ### What is checked -/

section Checks

variable {env : Env} {now : ℤ} {parts : Parts} {config : Config} {event : NostrEvent}
  {auth : ValidatedNostrAuth}

/-- What a request must show at the second `now`: an event of the kind, made within a minute and
signed, for this address and this method, with at most one hash of a body. -/
structure Shows (env : Env) (now : ℤ) (parts : Parts) (config : Config) (event : NostrEvent)
    (payload : Option String) : Prop where
  kind : event.kind = authKind
  near : |now - event.created_at| ≤ 60
  verified : env.verify event = true
  url : tagValues event "u" = [canonicalUrl parts config]
  method : ∃ method, tagValues event "method" = [method] ∧ env.toUppercase method = parts.method
  payload : tagValues event "payload" = payload.toList

theorem onlyTag_eq_ok {name value : String} {missing duplicate : AuthError} :
    onlyTag event name missing duplicate = .ok value ↔ tagValues event name = [value] := by
  unfold onlyTag
  cases tagValues event name with
  | nil => simp
  | cons v vs => cases vs <;> simp

theorem optionalTag_eq_ok {name : String} {value : Option String} {duplicate : AuthError} :
    optionalTag event name duplicate = .ok value ↔ tagValues event name = value.toList := by
  unfold optionalTag
  cases value with
  | none =>
      cases tagValues event name with
      | nil => simp
      | cons v vs => cases vs <;> simp
  | some value =>
      cases tagValues event name with
      | nil => simp
      | cons v vs => cases vs <;> simp

/-- The distance that is computed is the distance. -/
theorem near_iff_le (hnow : 0 ≤ now ∧ now ≤ maxUtcSecs) {c : ℕ} (hc : (c : ℤ) < 2 ^ 63) :
    absI64 (wrap 64 (now - c)) ≤ freshnessSecs ↔ |now - c| ≤ 60 := by
  unfold maxUtcSecs at hnow
  have hwrap : wrap 64 (c : ℤ) = c := wrap_of_mem (w := 63) ⟨by omega, by omega⟩
  have hnow' : 0 ≤ now ∧ now < 2 ^ 63 := ⟨hnow.1, by omega⟩
  have hc' : c < 2 ^ 64 := by omega
  have hdistance := distance_le_iff hnow' hc'
  rw [hwrap] at hdistance
  unfold freshnessSecs
  rw [hdistance]
  constructor
  · rintro (hle | hfar | hfar)
    · exact hle
    · omega
    · omega
  · exact Or.inl

/-- **The checks of a request.** -/
theorem checkNip98_iff (hnow : 0 ≤ now ∧ now ≤ maxUtcSecs) :
    checkNip98 env now parts config event = .ok auth ↔
      auth = ⟨event.pubkey, event.id, event.created_at, auth.payload⟩ ∧
        Shows env now parts config event auth.payload := by
  unfold checkNip98
  simp only [bind_eq_ok, ensure_eq_ok, decide_eq_true_eq, onlyTag_eq_ok, optionalTag_eq_ok]
  constructor
  · rintro ⟨_, hkind, c, hc, _, hnear, _, hverify, u, hu, method, hmethod, payload, hpayload, _, rfl, _,
      hupper, hret⟩
    obtain ⟨rfl, hlt⟩ := createdAt_eq_ok hc
    obtain rfl := Except.ok.inj hret
    exact ⟨rfl, hkind, (near_iff_le hnow hlt).1 hnear, hverify, hu, ⟨method, hmethod, hupper⟩, hpayload⟩
  · rintro ⟨hauth, hkind, hnear, hverify, hu, ⟨method, hmethod, hupper⟩, hpayload⟩
    have hlt : (event.created_at : ℤ) < 2 ^ 63 := by
      have hle := (abs_le.1 hnear).1
      unfold maxUtcSecs at hnow
      omega
    refine ⟨(), hkind, event.created_at, ?_, (), (near_iff_le hnow hlt).2 hnear, (), hverify, _, hu, method,
      hmethod, auth.payload, hpayload, (), rfl, (), hupper, ?_⟩
    · exact if_pos (by exact_mod_cast hlt)
    · rw [hauth]
      rfl

theorem extractAuthEvent_eq_ok :
    extractAuthEvent parts = .ok event ↔ ∃ raw, parts.auth = .event raw ∧ raw.parse = some event := by
  unfold extractAuthEvent
  split <;> rename_i hauth
  · simp [hauth]
  · simp [hauth]
  · simp [hauth]
  · rename_i raw
    rw [hauth]
    cases hparse : raw.parse with
    | none => simp [hparse]
    | some event' => simp [hparse]

end Checks

/-! ### What Redis holds -/

variable {K : Type} [Field K] [LinearOrder K] [IsStrictOrderedRing K] [FloorRing K]

/-- A request claims the id: it shows what it must, Redis gets the command, and no claim on the id is
in force. -/
def ClaimsId (env : Env) (id : String) (e : Event (Sys K) (Act K)) : Prop :=
  ∃ parts config wire event payload, e.act = .http parts config wire ∧
    extractAuthEvent parts = .ok event ∧ event.id = id ∧
    Shows env e.pre.now.timestamp parts config event payload ∧ wire.reached = true ∧
    e.pre.redis.holds e.pre.now.1 (Check.nip98.key id) = false

variable {env : Env} {s : Sys K} {id : String}

theorem checkNip98_at (now : Clock K) {parts : Parts} {config : Config} {event : NostrEvent}
    {auth : ValidatedNostrAuth} : checkNip98 env now.timestamp parts config event = .ok auth ↔
      auth = ⟨event.pubkey, event.id, event.created_at, auth.payload⟩ ∧
        Shows env now.timestamp parts config event auth.payload :=
  checkNip98_iff now.2

/-- The keys of the two checks have different beginnings. -/
theorem nip98_key_ne_ws_key (id id' : String) : Check.nip98.key id ≠ Check.ws.key id' := by
  intro heq
  have hlist := congrArg String.toList heq
  simp only [Check.key, String.toList_append] at hlist
  exact absurd (congrArg List.head? hlist) (by simp)

theorem nip98_key_inj {id id' : String} (h : Check.nip98.key id = Check.nip98.key id') : id = id' := by
  have hlist := congrArg String.toList h
  simp only [Check.key, String.toList_append, List.append_cancel_left_eq] at hlist
  exact String.toList_injective hlist

omit [IsStrictOrderedRing K] [FloorRing K] in
/-- What a command leaves in Redis. -/
theorem mem_keys_claim {redis : Expiring String K} {now : K} {key : String} {wire : Wire} {r : String × K} :
    r ∈ (claim redis now key wire).1.keys ↔
      r ∈ redis.keys ∨ r = (key, now + claimTtl) ∧ wire.reached = true ∧ redis.holds now key = false := by
  unfold claim
  by_cases hreached : wire.reached = true
  · rw [if_pos hreached]
    simp only [hreached, true_and]
    rw [Expiring.mem_keys_setNx, Expiring.setNx_eq_true_iff]
  · rw [if_neg hreached]
    simp [hreached]

/-- A request that passes its checks leaves its claim. -/
theorem keys_of_checked {redis : Expiring String K} {now : Clock K} {wire : Wire} {parts : Parts}
    {config : Config} {event : NostrEvent} {auth : ValidatedNostrAuth}
    (hextract : extractAuthEvent parts = .ok event)
    (hcheck : checkNip98 env now.timestamp parts config event = .ok auth) :
    (validateNip98Request env redis now wire parts config).1 =
      (claim redis now.1 (Check.nip98.key auth.event_id) wire).1 := by
  unfold validateNip98Request
  simp only [hextract, hcheck]
  rw [show "nip98:v1:jti:" ++ auth.event_id = Check.nip98.key auth.event_id from rfl]
  split <;> rename_i hclaim <;> exact (congrArg Prod.fst hclaim).symm

/-- So does a socket, under its own key. -/
theorem keys_of_checkedWs {redis : Expiring String K} {now : Clock K} {wire : Wire} {raw : RawEvent}
    {circle_id : Uuid} {event : NostrEvent}
    (hcheck : checkWsAuth env now.timestamp raw circle_id = .ok event) :
    (verifyWsAuth env redis now wire raw circle_id).1 =
      (claim redis now.1 (Check.ws.key event.id) wire).1 := by
  unfold verifyWsAuth
  simp only [hcheck]
  rw [show "circle-ws:v1:jti:" ++ event.id = Check.ws.key event.id from rfl]
  split <;> rename_i hclaim <;> exact (congrArg Prod.fst hclaim).symm

/-- **One action more.** -/
theorem mem_keys_step {a : Act K} {exp : K} :
    (Check.nip98.key id, exp) ∈ (step env s a).redis.keys ↔
      (Check.nip98.key id, exp) ∈ s.redis.keys ∨
        ClaimsId env id ⟨s, a, step env s a⟩ ∧ exp = s.now.1 + claimTtl := by
  cases a with
  | wait d hd =>
      refine (or_iff_left ?_).symm
      rintro ⟨⟨parts, config, wire, event, payload, hact, -⟩, -⟩
      cases hact
  | ws circle_id raw wire =>
      have hno : ¬ (ClaimsId env id ⟨s, .ws circle_id raw wire, step env s (.ws circle_id raw wire)⟩ ∧
          exp = s.now.1 + claimTtl) := by
        rintro ⟨⟨parts, config, wire', event, payload, hact, -⟩, -⟩
        cases hact
      rw [or_iff_left hno]
      unfold step
      dsimp only
      cases hcheck : checkWsAuth env s.now.timestamp raw circle_id with
      | error e =>
          unfold verifyWsAuth
          simp only [hcheck]
      | ok event =>
          rw [keys_of_checkedWs hcheck, mem_keys_claim, or_iff_left]
          rintro ⟨heq, -⟩
          exact nip98_key_ne_ws_key id event.id (Prod.mk.inj heq).1
  | http parts config wire =>
      have hclaims : ClaimsId env id ⟨s, .http parts config wire, step env s (.http parts config wire)⟩ ↔
          ∃ event payload, extractAuthEvent parts = .ok event ∧ event.id = id ∧
            Shows env s.now.timestamp parts config event payload ∧ wire.reached = true ∧
            s.redis.holds s.now.1 (Check.nip98.key id) = false := by
        constructor
        · rintro ⟨parts', config', wire', event, payload, hact, hclaims⟩
          obtain ⟨rfl, rfl, rfl⟩ := Act.http.inj hact
          exact ⟨event, payload, hclaims⟩
        · rintro ⟨event, payload, hclaims⟩
          exact ⟨parts, config, wire, event, payload, rfl, hclaims⟩
      rw [hclaims]
      unfold step
      dsimp only
      cases hextract : extractAuthEvent parts with
      | error e =>
          unfold validateNip98Request
          simp [hextract]
      | ok event =>
          cases hcheck : checkNip98 env s.now.timestamp parts config event with
          | error e =>
              have hno : ∀ payload, ¬ Shows env s.now.timestamp parts config event payload := by
                intro payload hshows
                have hok : checkNip98 env s.now.timestamp parts config event =
                    .ok ⟨event.pubkey, event.id, event.created_at, payload⟩ :=
                  (checkNip98_at s.now).2 ⟨rfl, hshows⟩
                rw [hcheck] at hok
                cases hok
              unfold validateNip98Request
              simp [hextract, hcheck, hno]
          | ok auth =>
              obtain ⟨hauth, hshows⟩ := (checkNip98_at s.now).1 hcheck
              have hid : auth.event_id = event.id := by rw [hauth]
              rw [keys_of_checked hextract hcheck, mem_keys_claim, hid]
              refine or_congr_right ⟨?_, ?_⟩
              · rintro ⟨heq, hreached, hfree⟩
                obtain ⟨hkey, rfl⟩ := Prod.mk.inj heq
                obtain rfl := nip98_key_inj hkey
                exact ⟨⟨event, auth.payload, rfl, rfl, hshows, hreached, hfree⟩, rfl⟩
              · rintro ⟨⟨event', payload, hevent, rfl, -, hreached, hfree⟩, rfl⟩
                obtain rfl := Except.ok.inj hevent
                exact ⟨rfl, hreached, hfree⟩

/-- **What is held is what was claimed** in the last two minutes. -/
theorem holds_run_iff (start : Clock K) (as : List (Act K)) (now : K) :
    (run (step env) ⟨start, {}⟩ as).redis.holds now (Check.nip98.key id) = true ↔
      ∃ e ∈ events (step env) ⟨start, {}⟩ as, ClaimsId env id e ∧ now < e.pre.now.1 + claimTtl := by
  have hmem : ∀ exp, (Check.nip98.key id, exp) ∈ (run (step env) ⟨start, {}⟩ as).redis.keys ↔
      ∃ e ∈ events (step env) ⟨start, {}⟩ as, ClaimsId env id e ∧ exp = e.pre.now.1 + claimTtl := by
    intro exp
    refine run_events_induction (s := ⟨start, {}⟩) (P := fun s es => (Check.nip98.key id, exp) ∈ s.redis.keys ↔
      ∃ e ∈ es, ClaimsId env id e ∧ exp = e.pre.now.1 + claimTtl) (by simp) (fun s es a ih => ?_) as
    rw [mem_keys_step, ih]
    simp only [List.mem_append, List.mem_singleton, or_and_right, exists_or, exists_eq_left]
  rw [Expiring.holds_iff]
  simp only [hmem]
  constructor
  · rintro ⟨exp, ⟨e, he, hclaims, rfl⟩, hlt⟩
    exact ⟨e, he, hclaims, hlt⟩
  · rintro ⟨e, he, hclaims, hlt⟩
    exact ⟨_, ⟨e, he, hclaims, rfl⟩, hlt⟩

/-- An id is free if it was not claimed in the last two minutes. -/
theorem free_run_iff (start : Clock K) (as : List (Act K)) (now : K) :
    (run (step env) ⟨start, {}⟩ as).redis.holds now (Check.nip98.key id) = false ↔
      ∀ e ∈ events (step env) ⟨start, {}⟩ as, ClaimsId env id e → e.pre.now.1 + claimTtl ≤ now := by
  rw [← Bool.not_eq_true, holds_run_iff]
  simp only [not_exists, not_and, not_lt]

/-! ### Who is let in -/

omit [IsStrictOrderedRing K] [FloorRing K] in
/-- What Redis answers. -/
theorem claim_eq_some_iff {redis : Expiring String K} {now : K} {key : String} {wire : Wire} {set : Bool} :
    (claim redis now key wire).2 = some set ↔
      wire.reached = true ∧ wire.replied = true ∧ redis.holds now key = !set := by
  unfold claim Expiring.setNx
  cases wire.reached <;> cases wire.replied <;> cases redis.holds now key <;> cases set <;> simp

/-- A request that passes its checks is let in if Redis answers that its event is new. -/
theorem answer_of_checked {wire : Wire} {parts : Parts} {config : Config} {event : NostrEvent}
    {auth auth' : ValidatedNostrAuth} (hextract : extractAuthEvent parts = .ok event)
    (hcheck : checkNip98 env s.now.timestamp parts config event = .ok auth) :
    (validateNip98Request env s.redis s.now wire parts config).2 = .ok auth' ↔
      auth = auth' ∧ (claim s.redis s.now.1 (Check.nip98.key auth.event_id) wire).2 = some true := by
  unfold validateNip98Request
  simp only [hextract, hcheck]
  rw [show "nip98:v1:jti:" ++ auth.event_id = Check.nip98.key auth.event_id from rfl]
  split <;> rename_i hclaim <;> simp [hclaim]

theorem validateNip98Request_eq_ok {wire : Wire} {parts : Parts} {config : Config}
    {auth : ValidatedNostrAuth} :
    (validateNip98Request env s.redis s.now wire parts config).2 = .ok auth ↔
      ∃ event, extractAuthEvent parts = .ok event ∧
        auth = ⟨event.pubkey, event.id, event.created_at, auth.payload⟩ ∧
        Shows env s.now.timestamp parts config event auth.payload ∧
        wire.reached = true ∧ wire.replied = true ∧
        s.redis.holds s.now.1 (Check.nip98.key event.id) = false := by
  cases hextract : extractAuthEvent parts with
  | error e =>
      unfold validateNip98Request
      simp [hextract]
  | ok event =>
      simp only [Except.ok.injEq, exists_eq_left']
      rw [← and_assoc, ← checkNip98_at]
      cases hcheck : checkNip98 env s.now.timestamp parts config event with
      | error e =>
          unfold validateNip98Request
          simp [hextract, hcheck]
      | ok auth' =>
          have hid : auth'.event_id = event.id := by rw [((checkNip98_at s.now).1 hcheck).1]
          rw [answer_of_checked hextract hcheck, claim_eq_some_iff, hid, Except.ok.injEq]
          rfl

/-- **Who is let in**, after any requests and sockets of anyone.  A request is let in exactly if its
header has an event that shows what it must for this address and method, Redis answers, and no request
has claimed the id of the event in the last two minutes; then it is let in as the key that signed the
event, with the hash that was signed.  A socket claims under a key of its own, so one that was shown the
same event does not keep the request out. -/
theorem validated_iff (env : Env) (start : Clock K) (as : List (Act K)) (parts : Parts) (config : Config)
    (wire : Wire) (auth : ValidatedNostrAuth) :
    let s := run (step env) ⟨start, {}⟩ as
    (validateNip98Request env s.redis s.now wire parts config).2 = .ok auth ↔
      ∃ raw event, parts.auth = .event raw ∧ raw.parse = some event ∧
        auth = ⟨event.pubkey, event.id, event.created_at, auth.payload⟩ ∧
        Shows env s.now.timestamp parts config event auth.payload ∧
        wire.reached = true ∧ wire.replied = true ∧
        ∀ e ∈ events (step env) ⟨start, {}⟩ as, ClaimsId env event.id e →
          e.pre.now.1 + claimTtl ≤ s.now.1 := by
  intro s
  rw [validateNip98Request_eq_ok]
  simp only [extractAuthEvent_eq_ok, s, free_run_iff]
  constructor
  · rintro ⟨event, ⟨raw, hraw, hparse⟩, hrest⟩
    exact ⟨raw, event, hraw, hparse, hrest⟩
  · rintro ⟨raw, event, hraw, hparse, hrest⟩
    exact ⟨event, ⟨raw, hraw, hparse⟩, hrest⟩

theorem claimTtl_nonneg : (0 : ℝ) ≤ claimTtl := (by norm_num : (0 : ℝ) ≤ 120)

/-- A request, and the two minutes its claim lives. -/
noncomputable def demoUsed (parts : Parts) : List (Act ℝ) :=
  [.http parts demoConfig {}, .wait claimTtl claimTtl_nonneg]

/-- Then it is two minutes past the epoch. -/
theorem now_demoUsed (env : Env) (parts : Parts) :
    (run (step env) ⟨Clock.epoch, {}⟩ (demoUsed parts)).now.1 = 120 := by
  have hsecs : 0 ≤ ⌊(0 : ℝ) + 120⌋ ∧ ⌊(0 : ℝ) + 120⌋ ≤ maxUtcSecs := by
    rw [zero_add, show (120 : ℝ) = ((120 : ℤ) : ℝ) by norm_num, Int.floor_intCast]
    decide
  have hwait : ((Clock.epoch : Clock ℝ).wait 120).1 = 0 + 120 := by
    unfold Clock.wait
    exact congrArg Subtype.val (dif_pos hsecs)
  exact hwait.trans (zero_add _)

/-- What the request has claimed is free again. -/
theorem free_demoUsed (env : Env) (parts : Parts) (id : String) :
    ∀ e ∈ events (step env) ⟨Clock.epoch, {}⟩ (demoUsed parts), ClaimsId env id e →
      e.pre.now.1 + claimTtl ≤ (run (step env) ⟨Clock.epoch, {}⟩ (demoUsed parts)).now.1 := by
  intro e he hclaims
  rw [now_demoUsed]
  rcases List.mem_cons.1 he with rfl | he
  · exact (zero_add (120 : ℝ)).le
  · obtain rfl := List.mem_singleton.1 he
    obtain ⟨parts', config, wire, event, payload, hact, -⟩ := hclaims
    cases hact

/-- Two minutes after the epoch. -/
theorem timestamp_demoUsed (env : Env) (parts : Parts) :
    (run (step env) ⟨Clock.epoch, {}⟩ (demoUsed parts)).now.timestamp = 120 := by
  unfold Clock.timestamp
  rw [now_demoUsed, show (120 : ℝ) = ((120 : ℤ) : ℝ) by norm_num, Int.floor_intCast]

/-- An event that was used at the epoch is let in again when the claim has gone. -/
theorem validated_iff_demo :
    let s := run (step (demoEnv 60)) ⟨(Clock.epoch : Clock ℝ), {}⟩ (demoUsed (demoParts 60))
    (validateNip98Request (demoEnv 60) s.redis s.now {} (demoParts 60) demoConfig).2 =
      .ok (demoValidated 60) := by
  have hchecked : checkNip98 (demoEnv 60) 120 (demoParts 60) demoConfig (demoEvent 60) =
      .ok (demoValidated 60) :=
    check_demoParts (by norm_num) (fresh_of_le (by decide) (by decide) (by decide))
  rw [← timestamp_demoUsed (demoEnv 60) (demoParts 60)] at hchecked
  exact (validated_iff (demoEnv 60) (Clock.epoch : Clock ℝ) (demoUsed (demoParts 60)) (demoParts 60)
    demoConfig {} _).2 ⟨demoRaw 60, demoEvent 60, rfl, parse_demoRaw (by norm_num), rfl,
      ((checkNip98_at _).1 hchecked).2, rfl, rfl, free_demoUsed _ _ _⟩

/-! ### What is signed is let in -/

section Tags

variable {url method nonce : String} {payloadHash : Option String} {event : NostrEvent}

theorem toList_inj {α : Type} {x y : Option α} (h : x.toList = y.toList) : x = y := by
  cases x <;> cases y <;> simp_all

/-- The tags of the app have one address and one method, and the hash if there is one. -/
theorem tagValues_nip98Tags (htags : event.tags = nip98Tags url method nonce payloadHash) :
    tagValues event "u" = [url] ∧ tagValues event "method" = [method] ∧
      tagValues event "payload" = (payloadHash.filter (· ≠ "")).toList := by
  unfold tagValues
  rw [htags]
  unfold nip98Tags
  cases payloadHash with
  | none => simp
  | some hash => by_cases hempty : hash = "" <;> simp [hempty, Option.filter]

theorem parse_tags {raw : RawEvent} (h : raw.parse = some event) :
    event.tags = raw.tags ∧ event.kind = raw.kind ∧ event.created_at = raw.created_at := by
  unfold RawEvent.parse at h
  split_ifs at h
  obtain rfl := Option.some.inj h
  exact ⟨rfl, rfl, rfl⟩

end Tags

/-- **What the app signs is let in**, after any requests and sockets of anyone, exactly if it is sent
where and how it says, within a minute, and Redis answers and has not seen it; and then with the key
that signed it and the hash that the app has put in. -/
theorem signed_validated_iff (env : Env) (start : Clock K) (as : List (Act K)) {parts : Parts}
    (config : Config) (wire : Wire) {url method nonce : String} {payloadHash : Option String} {c : ℕ}
    {raw : RawEvent} {event : NostrEvent}
    (hsigned : Signed env url method nonce payloadHash c raw event) (hauth : parts.auth = .event raw)
    (auth : ValidatedNostrAuth) :
    let s := run (step env) ⟨start, {}⟩ as
    (validateNip98Request env s.redis s.now wire parts config).2 = .ok auth ↔
      auth = ⟨event.pubkey, event.id, c, payloadHash.filter (· ≠ "")⟩ ∧
        url = canonicalUrl parts config ∧ env.toUppercase method = parts.method ∧
        |s.now.timestamp - c| ≤ 60 ∧ wire.reached = true ∧ wire.replied = true ∧
        ∀ e ∈ events (step env) ⟨start, {}⟩ as, ClaimsId env event.id e →
          e.pre.now.1 + claimTtl ≤ s.now.1 := by
  intro s
  obtain ⟨htags, hkind, hcreated⟩ := parse_tags hsigned.parses
  rw [hsigned.tags] at htags
  rw [hsigned.kind] at hkind
  rw [hsigned.created_at] at hcreated
  obtain ⟨hu, hmethod, hpayload⟩ := tagValues_nip98Tags htags
  rw [validateNip98Request_eq_ok]
  constructor
  · rintro ⟨event', hextract, hauth', hshows, hreached, hreplied, hfree⟩
    obtain ⟨raw', hraw, hparse⟩ := extractAuthEvent_eq_ok.1 hextract
    obtain rfl := AuthHeader.event.inj (hauth.symm.trans hraw)
    obtain rfl := Option.some.inj (hsigned.parses.symm.trans hparse)
    obtain ⟨-, hnear, -, hurl, ⟨method', hmethod', hupper⟩, hhash⟩ := hshows
    rw [hu] at hurl
    rw [hmethod] at hmethod'
    rw [hpayload] at hhash
    obtain rfl := List.singleton_inj.1 hmethod'
    rw [hcreated] at hauth' hnear
    refine ⟨?_, List.singleton_inj.1 hurl, hupper, hnear, hreached, hreplied,
      (free_run_iff start as _).1 hfree⟩
    rw [hauth', toList_inj hhash]
  · rintro ⟨rfl, hurl, hupper, hnear, hreached, hreplied, hfree⟩
    refine ⟨event, extractAuthEvent_eq_ok.2 ⟨raw, hauth, hsigned.parses⟩, by rw [hcreated], ?_, hreached,
      hreplied, (free_run_iff start as _).2 hfree⟩
    exact ⟨hkind, by rw [hcreated]; exact hnear, hsigned.verifies, by rw [hu, hurl],
      ⟨method, hmethod, hupper⟩, hpayload⟩

/-- The event of `demoRaw`, as the app signs it. -/
def demoSignedRaw : RawEvent :=
  { demoRaw 60 with tags := nip98Tags "https://mesh/api/circles" "GET" "nonce" none }

/-- The event, parsed. -/
def demoSignedEvent : NostrEvent := { demoEvent 60 with tags := demoSignedRaw.tags }

/-- The dependencies: it is the only event that verifies. -/
def demoSignedEnv : Env where
  verify e := decide (e = demoSignedEvent)
  toUppercase := toAsciiUppercase

theorem demo_signed :
    Signed demoSignedEnv "https://mesh/api/circles" "GET" "nonce" none 60 demoSignedRaw demoSignedEvent := by
  have hparse : demoSignedRaw.parse = some demoSignedEvent := by
    have hdemo := parse_demoRaw (c := 60) (by norm_num)
    unfold RawEvent.parse at hdemo
    split_ifs at hdemo with hvalid
    unfold demoSignedEvent
    rw [← Option.some.inj hdemo]
    exact if_pos hvalid
  exact ⟨rfl, rfl, rfl, rfl, hparse, by simp [demoSignedEnv]⟩

/-- The request that the app signs with it. -/
def demoSignedParts : Parts := { demoParts 60 with auth := .event demoSignedRaw }

/-- It is let in a minute after its date, where it was used a minute before it. -/
theorem signed_validated_iff_demo :
    let s := run (step demoSignedEnv) ⟨(Clock.epoch : Clock ℝ), {}⟩ (demoUsed demoSignedParts)
    (validateNip98Request demoSignedEnv s.redis s.now {} demoSignedParts demoConfig).2 =
      .ok ⟨digits 64 'a', digits 64 '1', 60, none⟩ := by
  have hmethod : toAsciiUppercase "GET" = "GET" := by decide
  refine (signed_validated_iff demoSignedEnv (Clock.epoch : Clock ℝ) (demoUsed demoSignedParts)
    demoConfig {} demo_signed rfl _).2 ⟨rfl, rfl, hmethod, ?_, rfl, rfl, free_demoUsed _ _ _⟩
  rw [timestamp_demoUsed]
  decide

end Auth
end SentinelMesh
