/-
# Whose a push endpoint is

`subscribe` and `unsubscribe` of `routes/push.rs` with the table `push_subscriptions`: one row an
endpoint, bound to the key the request is signed with.  A subscription for an endpoint that has a row
replaces it if the key is the same, and is refused with `409` otherwise; a row goes with a request of
its own key alone, and its id is never given to another (`gen_random_uuid()`).

Any keys send any requests in any order, and a statement may fail or its answer be lost.  What holds of
the table is said by its history: the row of an endpoint is that of the last subscription that its key
asked for, since which the key has not taken it back, whatever others have asked for
(`holder_run_iff`).
-/

import SentinelMesh.Circles.Routes
import SentinelMesh.Lib.Since
import SentinelMesh.Nlp.Schema
import SentinelMesh.Routes.RelayHooks

namespace SentinelMesh
namespace Routes
namespace Push

open Lib
open Circles (NostrAuth Request)
open Nlp (PushPreferences Severity)
open RelayHooks (Fault dbError)

/-! ### Requests -/

/-- `PushSubscriptionKeys`. -/
structure PushSubscriptionKeys where
  p256dh : String
  auth : String
  deriving DecidableEq

/-- `PushSubscriptionJson`. -/
structure PushSubscriptionJson where
  endpoint : String
  keys : PushSubscriptionKeys
  deriving DecidableEq

/-- `SubscribeRequest`. -/
structure SubscribeRequest where
  subscription : PushSubscriptionJson
  min_severity : String
  center_lat : ℚ
  center_lng : ℚ
  radius_km : ℚ
  deriving DecidableEq

/-- `UnsubscribeRequest`. -/
structure UnsubscribeRequest where
  endpoint : String
  deriving DecidableEq

/-- A row of `push_subscriptions` under its id; the centre as a `geography` is that of the
preferences. -/
structure Subscription where
  nostr_pubkey : Pubkey
  endpoint : String
  p256dh : String
  auth : String
  preferences : PushPreferences
  updated_at : Timestamp
  deriving DecidableEq

/-- `push_subscriptions`. -/
abbrev Subscriptions := Table Uuid Subscription

/-- `verify_payload_binding`. -/
def verifyPayloadBinding (auth : NostrAuth) (bodyHash : String) : Except AppError Unit :=
  ensure (decide (auth.payload = some bodyHash)) .unauthorized

/-- What both routes ask of an endpoint. -/
def validEndpoint (endpoint : String) : Bool :=
  decide (endpoint.utf8ByteSize ≤ 2048) && "https://".toList.isPrefixOf endpoint.toList

/-- `validate_subscription`, and the severity that is named. -/
def validateSubscription (req : SubscribeRequest) : Except AppError Severity := do
  let invalid := AppError.badRequest "invalid push subscription preferences"
  ensure (validEndpoint req.subscription.endpoint) invalid
  let p256dh := req.subscription.keys.p256dh.utf8ByteSize
  ensure (decide (p256dh ≠ 0 ∧ p256dh ≤ 512)) invalid
  let auth := req.subscription.keys.auth.utf8ByteSize
  ensure (decide (auth ≠ 0 ∧ auth ≤ 256)) invalid
  match Severity.parse req.min_severity with
  | none => .error invalid
  | some severity => do
    ensure (decide (-90 ≤ req.center_lat ∧ req.center_lat ≤ 90)) invalid
    ensure (decide (-180 ≤ req.center_lng ∧ req.center_lng ≤ 180)) invalid
    ensure (decide (1 ≤ req.radius_km ∧ req.radius_km ≤ 100)) invalid
    pure severity

/-- The row that a request asks for. -/
def subscriptionRow (key : Pubkey) (req : SubscribeRequest) (min_severity : Severity)
    (now : Timestamp) : Subscription where
  nostr_pubkey := key
  endpoint := req.subscription.endpoint
  p256dh := req.subscription.keys.p256dh
  auth := req.subscription.keys.auth
  preferences := ⟨min_severity, req.center_lat, req.center_lng, req.radius_km⟩
  updated_at := now

/-- `subscribe` before its statement. -/
def checkSubscribe (now : Timestamp) (req : Request SubscribeRequest) : Except AppError Subscription := do
  verifyPayloadBinding req.auth req.bodyHash
  match req.body with
  | none => .error (.badRequest "invalid push subscription")
  | some body => do
    let min_severity ← validateSubscription body
    pure (subscriptionRow req.auth.pubkey body min_severity now)

/-- `unsubscribe` before its statement: the endpoint. -/
def checkUnsubscribe (req : Request UnsubscribeRequest) : Except AppError String := do
  verifyPayloadBinding req.auth req.bodyHash
  match req.body with
  | none => .error (.badRequest "invalid unsubscribe request")
  | some body => do
    ensure (validEndpoint body.endpoint) (.badRequest "invalid push endpoint")
    pure body.endpoint

/-! ### Statements -/

/-- The row of an endpoint, with its id. -/
def ofEndpoint (t : Subscriptions) (endpoint : String) : Option (Uuid × Subscription) :=
  t.rows.find? fun r => decide (r.2.endpoint = endpoint)

/-- The row of an endpoint. -/
def holder (t : Subscriptions) (endpoint : String) : Option Subscription :=
  (ofEndpoint t endpoint).map Prod.snd

/-- `INSERT ... ON CONFLICT (endpoint) DO UPDATE ... WHERE push_subscriptions.nostr_pubkey =
EXCLUDED.nostr_pubkey`, and the rows it affected. -/
def upsert (id : Uuid) (row : Subscription) (t : Subscriptions) : Subscriptions × ℕ :=
  match ofEndpoint t row.endpoint with
  | none => (t.insert id row, 1)
  | some (i, old) =>
    if old.nostr_pubkey = row.nostr_pubkey then (t.modify i fun _ => row, 1) else (t, 0)

/-- `DELETE ... WHERE endpoint = $1 AND nostr_pubkey = $2`. -/
def release (endpoint : String) (key : Pubkey) (t : Subscriptions) : Subscriptions :=
  t.filter fun _ row => decide ¬(row.endpoint = endpoint ∧ row.nostr_pubkey = key)

/-- The answer to a subscription whose endpoint has a row of another key. -/
def heldByAnother : AppError := .conflict "push endpoint belongs to another identity"

/-- `subscribe`, whose row has the id `id` if it is new. -/
def subscribe (id : Uuid) (now : Timestamp) (req : Request SubscribeRequest) (fault : Fault)
    (t : Subscriptions) : Except AppError Unit × Subscriptions :=
  match checkSubscribe now req with
  | .error e => (.error e, t)
  | .ok row => match fault with
    | .refused => (.error dbError, t)
    | .lost => (.error dbError, (upsert id row t).1)
    | .fine =>
      let (t', affected) := upsert id row t
      (if affected = 0 then .error heldByAnother else .ok (), t')

/-- `unsubscribe`. -/
def unsubscribe (req : Request UnsubscribeRequest) (fault : Fault) (t : Subscriptions) :
    Except AppError Unit × Subscriptions :=
  match checkUnsubscribe req with
  | .error e => (.error e, t)
  | .ok endpoint => match fault with
    | .refused => (.error dbError, t)
    | .lost => (.error dbError, release endpoint req.auth.pubkey t)
    | .fine => (.ok (), release endpoint req.auth.pubkey t)

/-! ### Requests in a row -/

/-- The table, and the ids that were given. -/
structure Store where
  rows : Subscriptions := Table.empty
  issued : List Uuid := []

/-- A request, as it arrives at the statement of its route. -/
inductive Call
  | subscribe (id : Uuid) (now : Timestamp) (req : Request SubscribeRequest) (fault : Fault)
  | unsubscribe (req : Request UnsubscribeRequest) (fault : Fault)
  deriving DecidableEq

/-- What a request is answered, and what is stored then.  An id is given once. -/
def act (s : Store) : Call → Except AppError Unit × Store
  | .subscribe id now req fault =>
    if id ∈ s.issued then (.error dbError, s)
    else
      let (answer, rows) := subscribe id now req fault s.rows
      (answer, { rows := rows, issued := id :: s.issued })
  | .unsubscribe req fault =>
    let (answer, rows) := unsubscribe req fault s.rows
    (answer, { s with rows := rows })

/-- One request. -/
def step (s : Store) (call : Call) : Store := (act s call).2

/-- The row that the statement of a call is executed with. -/
def asked (s : Store) : Call → Option Subscription
  | .subscribe id now req fault =>
    if id ∈ s.issued ∨ fault = .refused then none else (checkSubscribe now req).toOption
  | .unsubscribe _ _ => none

/-- The endpoint that the statement of a call takes back, and the key. -/
def takenBack : Call → Option (String × Pubkey)
  | .subscribe _ _ _ _ => none
  | .unsubscribe req fault =>
    if fault = .refused then none
    else (checkUnsubscribe req).toOption.map fun endpoint => (endpoint, req.auth.pubkey)

/-- No other key has the endpoint of the row. -/
def Free (t : Subscriptions) (row : Subscription) : Prop :=
  ∀ old, holder t row.endpoint = some old → old.nostr_pubkey = row.nostr_pubkey

/-! ### One row an endpoint -/

/-- The ids are given ones, and an endpoint has one row. -/
structure Store.Sound (s : Store) : Prop where
  issued : ∀ id row, s.rows.find? id = some row → id ∈ s.issued
  unique : ∀ i j row row', s.rows.find? i = some row → s.rows.find? j = some row' →
    row.endpoint = row'.endpoint → i = j

variable {s : Store} {t : Subscriptions} {id : Uuid} {row old : Subscription} {endpoint : String}
  {call : Call}

theorem find?_of_ofEndpoint {i : Uuid} (h : ofEndpoint t endpoint = some (i, row)) :
    t.find? i = some row ∧ row.endpoint = endpoint := by
  unfold ofEndpoint at h
  exact ⟨Table.find?_eq_some_iff.2 (List.mem_of_find?_eq_some h),
    by simpa using List.find?_some h⟩

theorem ofEndpoint_eq_none_iff :
    ofEndpoint t endpoint = none ↔ ∀ i row, t.find? i = some row → row.endpoint ≠ endpoint := by
  unfold ofEndpoint
  rw [List.find?_eq_none]
  constructor
  · intro h i row hrow
    simpa using h (i, row) (Table.find?_eq_some_iff.1 hrow)
  · rintro h ⟨i, row⟩ hr
    simpa using h i row (Table.find?_eq_some_iff.2 hr)

theorem Store.Sound.holder_eq_some_iff (hs : s.Sound) :
    holder s.rows endpoint = some row ↔ ∃ i, s.rows.find? i = some row ∧ row.endpoint = endpoint := by
  unfold holder
  rw [Option.map_eq_some_iff]
  constructor
  · rintro ⟨⟨i, row⟩, hrow, rfl⟩
    exact ⟨i, find?_of_ofEndpoint hrow⟩
  · rintro ⟨i, hrow, rfl⟩
    cases hof : ofEndpoint s.rows row.endpoint with
    | none => exact absurd rfl (ofEndpoint_eq_none_iff.1 hof i row hrow)
    | some r =>
        obtain ⟨j, row'⟩ := r
        obtain ⟨hrow', hendpoint⟩ := find?_of_ofEndpoint hof
        obtain rfl := hs.unique i j row row' hrow hrow' hendpoint.symm
        exact ⟨(i, row'), rfl, Option.some.inj (hrow'.symm.trans hrow)⟩

/-! ### What a statement does -/

/-- What the statement of `subscribe` can do to the table. -/
inductive Upserted (t : Subscriptions) (id : Uuid) (row : Subscription) (t' : Subscriptions) : Prop
  /-- The endpoint had no row. -/
  | inserted (hnew : ∀ i old, t.find? i = some old → old.endpoint ≠ row.endpoint)
      (hput : ∀ j, t'.find? j = if j = id then some row else t.find? j)
  /-- It had one of the same key. -/
  | replaced (i : Uuid) (old : Subscription) (hold : t.find? i = some old)
      (hendpoint : old.endpoint = row.endpoint) (hkey : old.nostr_pubkey = row.nostr_pubkey)
      (hput : ∀ j, t'.find? j = if j = i then some row else t.find? j)
  /-- It had one of another. -/
  | kept (i : Uuid) (old : Subscription) (hold : t.find? i = some old)
      (hendpoint : old.endpoint = row.endpoint) (hkey : old.nostr_pubkey ≠ row.nostr_pubkey)
      (hrows : t' = t)

theorem upserted (hid : t.find? id = none) : Upserted t id row (upsert id row t).1 := by
  unfold upsert
  cases hof : ofEndpoint t row.endpoint with
  | none =>
      refine .inserted (ofEndpoint_eq_none_iff.1 hof) fun j => ?_
      rw [Table.find?_insert, hid]
      rfl
  | some r =>
      obtain ⟨i, old⟩ := r
      obtain ⟨hold, hendpoint⟩ := find?_of_ofEndpoint hof
      dsimp only
      split_ifs with hkey
      · refine .replaced i old hold hendpoint hkey fun j => ?_
        rw [Table.find?_modify, hold]
        rfl
      · exact .kept i old hold hendpoint hkey rfl

theorem find?_release {key : Pubkey} {i : Uuid} :
    (release endpoint key t).find? i = some row ↔
      t.find? i = some row ∧ ¬(row.endpoint = endpoint ∧ row.nostr_pubkey = key) := by
  unfold release
  rw [Table.find?_filter, Option.filter_eq_some_iff, decide_eq_true_iff]

/-- **What a request can do to the table.** -/
inductive Changed (s : Store) (call : Call) (s' : Store) : Prop
  | idle (hasked : asked s call = none) (htaken : takenBack call = none) (hrows : s'.rows = s.rows)
      (hissued : s.issued ⊆ s'.issued)
  | subscribed (id : Uuid) (row : Subscription) (hasked : asked s call = some row)
      (htaken : takenBack call = none) (hid : id ∉ s.issued)
      (hrows : Upserted s.rows id row s'.rows) (hissued : s'.issued = id :: s.issued)
  | unsubscribed (endpoint : String) (key : Pubkey) (hasked : asked s call = none)
      (htaken : takenBack call = some (endpoint, key))
      (hrows : s'.rows = release endpoint key s.rows) (hissued : s'.issued = s.issued)

theorem changed (hs : s.Sound) (call : Call) : Changed s call (step s call) := by
  cases call with
  | subscribe id now req fault =>
      unfold step act
      by_cases hid : id ∈ s.issued
      · simp only [if_pos hid]
        exact .idle (if_pos (Or.inl hid)) rfl rfl (List.Subset.refl _)
      · have hnone : s.rows.find? id = none := by
          cases hrow : s.rows.find? id with
          | none => rfl
          | some row => exact absurd (hs.issued id row hrow) hid
        have hput : ∀ row, Upserted s.rows id row (upsert id row s.rows).1 := fun _ => upserted hnone
        simp only [if_neg hid, subscribe]
        cases hcheck : checkSubscribe now req with
        | error e =>
            exact .idle (by simp [asked, hcheck, Except.toOption]) rfl rfl (List.subset_cons_self _ _)
        | ok row =>
            cases fault with
            | refused =>
                exact .idle (by simp [asked]) rfl rfl (List.subset_cons_self _ _)
            | fine =>
                exact .subscribed id row (by simp [asked, hid, hcheck, Except.toOption]) rfl hid
                  (hput row) rfl
            | lost =>
                exact .subscribed id row (by simp [asked, hid, hcheck, Except.toOption]) rfl hid
                  (hput row) rfl
  | unsubscribe req fault =>
      unfold step act
      simp only [unsubscribe]
      cases hcheck : checkUnsubscribe req with
      | error e =>
          exact .idle rfl (by simp [takenBack, hcheck, Except.toOption]) rfl (List.Subset.refl _)
      | ok endpoint =>
          cases fault with
          | refused => exact .idle rfl (by simp [takenBack]) rfl (List.Subset.refl _)
          | fine =>
              exact .unsubscribed endpoint req.auth.pubkey rfl
                (by simp [takenBack, hcheck, Except.toOption]) rfl rfl
          | lost =>
              exact .unsubscribed endpoint req.auth.pubkey rfl
                (by simp [takenBack, hcheck, Except.toOption]) rfl rfl

/-- **A row that stays keeps its endpoint and its key.** -/
theorem find?_step (hs : s.Sound) {i : Uuid} (hi : i ∈ s.issued)
    (hrow : (step s call).rows.find? i = some row) :
    ∃ old, s.rows.find? i = some old ∧ old.endpoint = row.endpoint ∧
      old.nostr_pubkey = row.nostr_pubkey := by
  have hchanged := changed hs call
  generalize step s call = s' at hchanged hrow
  cases hchanged with
  | idle _ _ hrows _ => exact ⟨row, by rw [← hrows]; exact hrow, rfl, rfl⟩
  | subscribed id new _ _ hid hrows _ =>
      rcases hrows with ⟨-, hput⟩ | ⟨j, old, hold, hendpoint, hkey, hput⟩ | ⟨j, old, hold, -, -, hrows⟩
      · rw [hput, if_neg (by rintro rfl; exact hid hi)] at hrow
        exact ⟨row, hrow, rfl, rfl⟩
      · rw [hput] at hrow
        split_ifs at hrow with hij
        · subst hij
          obtain rfl := Option.some.inj hrow
          exact ⟨old, hold, hendpoint, hkey⟩
        · exact ⟨row, hrow, rfl, rfl⟩
      · rw [hrows] at hrow
        exact ⟨row, hrow, rfl, rfl⟩
  | unsubscribed endpoint key _ _ hrows _ =>
      rw [hrows, find?_release] at hrow
      exact ⟨row, hrow.1, rfl, rfl⟩

theorem sound_empty : Store.Sound {} := ⟨by simp, by simp⟩

theorem Store.Sound.step (hs : s.Sound) (call : Call) : (step s call).Sound := by
  have hchanged := changed hs call
  generalize Push.step s call = s' at hchanged
  cases hchanged with
  | idle _ _ hrows hissued =>
      constructor
      · intro id row hrow
        rw [hrows] at hrow
        exact hissued (hs.issued id row hrow)
      · rw [hrows]
        exact hs.unique
  | unsubscribed endpoint key _ _ hrows hissued =>
      constructor
      · intro id row hrow
        rw [hrows, find?_release] at hrow
        rw [hissued]
        exact hs.issued id row hrow.1
      · intro i j row row' hrow hrow'
        rw [hrows, find?_release] at hrow hrow'
        exact hs.unique i j row row' hrow.1 hrow'.1
  | subscribed id new _ _ hid hrows hissued =>
      constructor
      · intro j row hrow
        rw [hissued]
        rcases hrows with ⟨-, hput⟩ | ⟨i, old, hold, -, -, hput⟩ | ⟨i, old, hold, -, -, hrows⟩
        · rw [hput] at hrow
          split_ifs at hrow with hj
          · exact hj ▸ List.mem_cons_self
          · exact List.mem_cons_of_mem _ (hs.issued j row hrow)
        · rw [hput] at hrow
          split_ifs at hrow with hj
          · exact List.mem_cons_of_mem _ (hj ▸ hs.issued i old hold)
          · exact List.mem_cons_of_mem _ (hs.issued j row hrow)
        · rw [hrows] at hrow
          exact List.mem_cons_of_mem _ (hs.issued j row hrow)
      · intro j k row row' hrow hrow' heq
        rcases hrows with ⟨hnew, hput⟩ | ⟨i, old, hold, hendpoint, -, hput⟩ | ⟨i, old, hold, -, -, hrows⟩
        · rw [hput] at hrow hrow'
          split_ifs at hrow hrow' with hj hk hk
          · exact hj.trans hk.symm
          · obtain rfl := Option.some.inj hrow
            exact absurd heq.symm (hnew k row' hrow')
          · obtain rfl := Option.some.inj hrow'
            exact absurd heq (hnew j row hrow)
          · exact hs.unique j k row row' hrow hrow' heq
        · rw [hput] at hrow hrow'
          split_ifs at hrow hrow' with hj hk hk
          · exact hj.trans hk.symm
          · obtain rfl := Option.some.inj hrow
            exact hj.trans (hs.unique i k old row' hold hrow' (hendpoint.trans heq))
          · obtain rfl := Option.some.inj hrow'
            exact (hs.unique j i row old hrow hold (heq.trans hendpoint.symm)).trans hk.symm
          · exact hs.unique j k row row' hrow hrow' heq
        · rw [hrows] at hrow hrow'
          exact hs.unique j k row row' hrow hrow' heq

/-! ### Runs -/

/-- A subscription is written. -/
def Written (row : Subscription) (e : Event Store Call) : Prop :=
  asked e.pre e.act = some row ∧ Free e.pre.rows row

/-- Its key does not ask for the endpoint again, and does not take it back. -/
def Undisturbed (row : Subscription) (e : Event Store Call) : Prop :=
  (∀ row', asked e.pre e.act = some row' → row'.endpoint = row.endpoint →
    row'.nostr_pubkey ≠ row.nostr_pubkey) ∧
  takenBack e.act ≠ some (row.endpoint, row.nostr_pubkey)

/-- What an upsert leaves under an endpoint. -/
theorem held_upserted_iff (hs : s.Sound) {new : Subscription} {rows' : Subscriptions}
    (hid : id ∉ s.issued) (hrows : Upserted s.rows id new rows') :
    (∃ i, rows'.find? i = some row ∧ row.endpoint = row.endpoint) ↔
      (some new = some row ∧ Free s.rows row) ∨
        (∃ i, s.rows.find? i = some row ∧ row.endpoint = row.endpoint) ∧
          (∀ row', some new = some row' → row'.endpoint = row.endpoint →
            row'.nostr_pubkey ≠ row.nostr_pubkey) ∧
          none ≠ some (row.endpoint, row.nostr_pubkey) := by
  rw [show Free s.rows row ↔ _ from
    forall_congr' fun old => imp_congr hs.holder_eq_some_iff Iff.rfl]
  cases hrows with
  | inserted hnew hput =>
      constructor
      · rintro ⟨j, hrow, -⟩
        rw [hput] at hrow
        split_ifs at hrow with hj
        · refine Or.inl ⟨hrow, ?_⟩
          rintro old ⟨k, hold, heq⟩
          obtain rfl := Option.some.inj hrow
          exact absurd heq (hnew k old hold)
        · refine Or.inr ⟨⟨j, hrow, rfl⟩, fun row' hrow' heq => ?_, by simp⟩
          obtain rfl := Option.some.inj hrow'
          exact absurd heq.symm (hnew j row hrow)
      · rintro (⟨hrow, -⟩ | ⟨⟨j, hrow, -⟩, -, -⟩)
        · exact ⟨id, by rw [hput, if_pos rfl, hrow], rfl⟩
        · refine ⟨j, ?_, rfl⟩
          rw [hput, if_neg (by rintro rfl; exact hid (hs.issued _ _ hrow)), hrow]
  | replaced i old hold hendpoint hkey hput =>
      constructor
      · rintro ⟨j, hrow, -⟩
        rw [hput] at hrow
        split_ifs at hrow with hj
        · refine Or.inl ⟨hrow, ?_⟩
          rintro old' ⟨k, hold', heq⟩
          obtain rfl := Option.some.inj hrow
          obtain rfl := hs.unique i k old old' hold hold' (hendpoint.trans heq.symm)
          rw [Option.some.inj (hold'.symm.trans hold), hkey]
        · refine Or.inr ⟨⟨j, hrow, rfl⟩, fun row' hrow' heq => ?_, by simp⟩
          obtain rfl := Option.some.inj hrow'
          exact absurd (hs.unique j i row old hrow hold (heq.symm.trans hendpoint.symm)) hj
      · rintro (⟨hrow, -⟩ | ⟨⟨j, hrow, -⟩, hothers, -⟩)
        · exact ⟨i, by rw [hput, if_pos rfl, hrow], rfl⟩
        · refine ⟨j, ?_, rfl⟩
          rw [hput, if_neg, hrow]
          rintro rfl
          obtain rfl := Option.some.inj (hold.symm.trans hrow)
          exact hothers new rfl hendpoint.symm hkey.symm
  | kept i old hold hendpoint hkey hrows =>
      rw [hrows]
      constructor
      · rintro ⟨j, hrow, -⟩
        refine Or.inr ⟨⟨j, hrow, rfl⟩, fun row' hrow' heq => ?_, by simp⟩
        obtain rfl := Option.some.inj hrow'
        obtain rfl := hs.unique j i row old hrow hold (heq.symm.trans hendpoint.symm)
        obtain rfl := Option.some.inj (hrow.symm.trans hold)
        exact Ne.symm hkey
      · rintro (⟨hrow, hfree⟩ | ⟨⟨j, hrow, -⟩, -, -⟩)
        · obtain rfl := Option.some.inj hrow
          exact absurd (hfree old ⟨i, hold, hendpoint⟩) hkey
        · exact ⟨j, hrow, rfl⟩

/-- **One request more.**  The row of an endpoint is the one that is written, or the one it had, if its
key left it alone: what others ask for is no matter. -/
theorem holder_step_iff (hs : s.Sound) :
    holder (step s call).rows row.endpoint = some row ↔
      (asked s call = some row ∧ Free s.rows row) ∨
        holder s.rows row.endpoint = some row ∧
          (∀ row', asked s call = some row' → row'.endpoint = row.endpoint →
            row'.nostr_pubkey ≠ row.nostr_pubkey) ∧
          takenBack call ≠ some (row.endpoint, row.nostr_pubkey) := by
  rw [(hs.step call).holder_eq_some_iff, hs.holder_eq_some_iff]
  have hchanged := changed hs call
  generalize step s call = s' at hchanged
  cases hchanged with
  | idle hasked htaken hrows _ => simp [hasked, htaken, hrows]
  | unsubscribed endpoint key hasked htaken hrows _ =>
      rw [hasked, htaken, hrows]
      constructor
      · rintro ⟨i, hrow, -⟩
        obtain ⟨hrow, hkept⟩ := find?_release.1 hrow
        refine Or.inr ⟨⟨i, hrow, rfl⟩, by simp, fun heq => hkept ?_⟩
        obtain ⟨rfl, rfl⟩ := Prod.mk.inj (Option.some.inj heq)
        exact ⟨rfl, rfl⟩
      · rintro (⟨hno, -⟩ | ⟨⟨i, hrow, -⟩, -, hkept⟩)
        · cases hno
        · refine ⟨i, find?_release.2 ⟨hrow, ?_⟩, rfl⟩
          rintro ⟨rfl, rfl⟩
          exact hkept rfl
  | subscribed id new hasked htaken hid hrows _ =>
      rw [hasked, htaken]
      exact held_upserted_iff hs hid hrows

/-- **The history of an endpoint.** -/
theorem holder_run_since (calls : List Call) (row : Subscription) :
    holder (run step {} calls).rows row.endpoint = some row ↔
      Since (Undisturbed row) (Written row) (events step {} calls) := by
  refine run_iff_since (R := fun s : Store => holder s.rows row.endpoint = some row)
    (by simp [holder, ofEndpoint]) fun e he => ?_
  obtain ⟨hsound, hpost⟩ := events_induction_of (P := Store.Sound) (G := fun _ _ => True) sound_empty
    (fun s a hs _ => hs.step a) (fun _ _ => trivial) he
  rw [hpost]
  exact holder_step_iff hsound

/-- A request that is executed is refused exactly where the endpoint has a row of another key. -/
theorem answer_eq_heldByAnother_iff {id : Uuid} {now : Timestamp} {req : Request SubscribeRequest}
    (hasked : asked s (.subscribe id now req .fine) = some row) :
    (act s (.subscribe id now req .fine)).1 = .error heldByAnother ↔ ¬ Free s.rows row := by
  have hid : id ∉ s.issued := by
    intro hid
    simp [asked, hid] at hasked
  have hcheck : checkSubscribe now req = .ok row := by
    rw [asked, if_neg (by simp [hid])] at hasked
    cases hcheck : checkSubscribe now req with
    | error e => rw [hcheck] at hasked; cases hasked
    | ok row' => rw [hcheck] at hasked; rw [Option.some.inj hasked]
  have haffected : (upsert id row s.rows).2 = 0 ↔ ¬ Free s.rows row := by
    unfold upsert Free holder
    cases hof : ofEndpoint s.rows row.endpoint with
    | none => simp
    | some r =>
        obtain ⟨i, old⟩ := r
        by_cases hkey : old.nostr_pubkey = row.nostr_pubkey <;> simp [hkey]
  rw [← haffected]
  unfold act
  simp only [if_neg hid, subscribe, hcheck]
  split_ifs with hzero <;> simp [hzero]

/-- **Whose an endpoint is**, after any requests of any keys.  It has the row of the last subscription
that its key asked for and has not taken back, whatever others have asked for; and a subscription that
is in order is refused exactly where another key has asked for the endpoint so. -/
theorem holder_run_iff (calls : List Call) :
    (∀ row, holder (run step {} calls).rows row.endpoint = some row ↔
        Since (Undisturbed row) (Written row) (events step {} calls)) ∧
      ∀ id now req row, asked (run step {} calls) (.subscribe id now req .fine) = some row →
        ((act (run step {} calls) (.subscribe id now req .fine)).1 = .error heldByAnother ↔
          ∃ old, old.endpoint = row.endpoint ∧ old.nostr_pubkey ≠ row.nostr_pubkey ∧
            Since (Undisturbed old) (Written old) (events step {} calls)) := by
  refine ⟨holder_run_since calls, fun id now req row hasked => ?_⟩
  have hsound : (run step {} calls).Sound := run_induction sound_empty (fun _ a hs => hs.step a) calls
  rw [answer_eq_heldByAnother_iff hasked]
  unfold Free
  simp only [not_forall, exists_prop]
  constructor
  · rintro ⟨old, hold, hkey⟩
    obtain ⟨i, -, hendpoint⟩ := hsound.holder_eq_some_iff.1 hold
    exact ⟨old, hendpoint, hkey, (holder_run_since calls old).1 (by rw [hendpoint]; exact hold)⟩
  · rintro ⟨old, hendpoint, hkey, hsince⟩
    exact ⟨old, by rw [← hendpoint]; exact (holder_run_since calls old).2 hsince, hkey⟩

end Push
end Routes
end SentinelMesh
