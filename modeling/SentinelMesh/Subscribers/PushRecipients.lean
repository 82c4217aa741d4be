/-
# Whom a push reaches

The tables of subscriptions and of both push outboxes together: `routes/push.rs` writes the first,
`inbox_webhook` of `routes/relay_hooks.rs` and `enqueue_push_deliveries` of `nlp_synthesis_worker.rs`
insert deliveries for the rows that they select there, and the workers join a delivery with the row of
its subscription when they claim it, as it is at that time.  A delivery goes with its subscription
(`ON DELETE CASCADE`).

An endpoint may have changed hands between the two.  It has not: whoever a message was for when its
delivery was inserted has had the endpoint ever since (`chat_recipient`), and so has whoever asked to
be alerted to an event (`alert_recipient`).
-/

import SentinelMesh.Nlp.Synthesis
import SentinelMesh.Routes.Push
import SentinelMesh.Subscribers.PushOutbox

namespace SentinelMesh
namespace Subscribers
namespace PushRecipients

open Lib Routes.Push
open RelayHooks (dedupeKey payloadJson)

/-- What is used of other software: `ST_DWithin`, and how a payload is written as JSON. -/
structure Env where
  nlp : Nlp.Env
  payloadText : Nlp.PushPayload → String

/-- An outbox of the gateway. -/
abbrev Outbox (α : Type) := Outbox.System Uuid α Uuid

/-- The subscriptions, `dm_enabled` of `chat_notification_preferences`, and the two outboxes. -/
structure Sys where
  store : Store := {}
  dm_enabled : Table Pubkey Bool := Table.empty
  alerts : Outbox PushDelivery := Outbox.System.init
  chats : Outbox ChatPushDelivery := Outbox.System.init

/-- A column of a table. -/
def column {κ ν μ : Type} (f : ν → μ) (t : Table κ ν) : Table κ μ where
  rows := t.rows.map fun r => (r.1, f r.2)
  nodup := by
    rw [List.map_map]
    exact t.nodup

/-- The subscriptions as `inbox_webhook` reads them. -/
def Sys.relayDb (s : Sys) : RelayHooks.Db where
  relay_webhook_receipts := Table.empty
  push_subscriptions := column Subscription.nostr_pubkey s.store.rows
  dm_enabled := s.dm_enabled
  chat_push_deliveries := Table.empty

/-- The subscriptions as `enqueue_push_deliveries` reads them. -/
def Sys.nlpDb (s : Sys) : Nlp.Db where
  subscriptions := column (fun row => some row.preferences) s.store.rows

/-- `INSERT INTO ... SELECT`, a row for each subscription, under the id that it is given. -/
def enqueueAll {α κ : Type} [DecidableEq κ] (cfg : Outbox.Config) (key : α → κ) (ids : Uuid → Uuid)
    (content : Uuid → α) (subscriptions : List Uuid) (o : Outbox α) : Outbox α :=
  subscriptions.foldl (fun o sub => Outbox.step cfg key o (.enqueue (ids sub) (content sub))) o

/-- The deliveries of subscriptions that are gone go with them. -/
def cascade {α : Type} (sub : α → Uuid) (subscriptions : Subscriptions) (o : Outbox α) : Outbox α :=
  { o with rows := o.rows.filter fun _ row => (subscriptions.find? (sub row.content)).isSome }

/-- What happens: a request to `/subscribe`, a change of preferences, the insertion of the deliveries
of a message or of an event, and what the workers and the clock do with an outbox. -/
inductive Act
  | route (call : Call)
  | prefer (pubkey : Pubkey) (dm_enabled : Bool)
  | hook (event : String) (recipient : Pubkey) (ids : Uuid → Uuid)
  | confirm (event_id : Uuid) (row : Nlp.SafetyEvent) (ids : Uuid → Uuid)
  | alert (a : Outbox.Action Uuid PushDelivery Uuid)
  | chat (a : Outbox.Action Uuid ChatPushDelivery Uuid)

/-- What a worker or the clock does; rows are inserted by `enqueueAll` alone. -/
def work {α κ : Type} [DecidableEq κ] (cfg : Outbox.Config) (key : α → κ) (o : Outbox α) :
    Outbox.Action Uuid α Uuid → Outbox α
  | .enqueue _ _ => o
  | a => Outbox.step cfg key o a

/-- One action. -/
def step (env : Env) (s : Sys) : Act → Sys
  | .route call =>
    let store := Routes.Push.step s.store call
    { s with
      store := store
      alerts := cascade PushDelivery.subscription_id store.rows s.alerts
      chats := cascade ChatPushDelivery.subscription_id store.rows s.chats }
  | .prefer pubkey enabled =>
    { s with dm_enabled := s.dm_enabled.upsert pubkey enabled fun _ => enabled }
  | .hook event recipient ids =>
    { s with
      chats := enqueueAll ChatPushWorker.config ChatPushDelivery.key ids
        (fun sub => ⟨sub, dedupeKey event sub, payloadJson⟩) (s.relayDb.targets recipient) s.chats }
  | .confirm event_id row ids =>
    { s with
      alerts := enqueueAll PushOutboxWorker.config PushDelivery.key ids
        (fun sub => ⟨event_id, sub, env.payloadText (Nlp.pushPayload event_id row)⟩)
        (s.nlpDb.targets env.nlp row) s.alerts }
  | .alert a => { s with alerts := work PushOutboxWorker.config PushDelivery.key s.alerts a }
  | .chat a => { s with chats := work ChatPushWorker.config ChatPushDelivery.key s.chats a }

/-- What a claim returns of a row: where to send what, with which keys. -/
structure Delivery where
  id : Uuid
  endpoint : String
  p256dh : String
  auth : String
  payload : String
  deriving DecidableEq

/-- `RETURNING d.id, s.endpoint, s.p256dh, s.auth, d.payload` of a claim at an instant. -/
def claimed {α : Type} (cfg : Outbox.Config) (sub : α → Uuid) (payload : α → String)
    (subscriptions : Subscriptions) (o : Outbox α) (now : ℤ) (skip : Uuid → Bool) : List Delivery :=
  (Outbox.selected cfg now skip o.rows).filterMap fun id => do
    let row ← o.rows.find? id
    let s ← subscriptions.find? (sub row.content)
    pure ⟨id, s.endpoint, s.p256dh, s.auth, payload row.content⟩

/-! ### Rows and their contents -/

section Rows

variable {α κ : Type} [DecidableEq κ] {cfg : Outbox.Config} {key : α → κ} {o : Outbox α} {id : Uuid}
  {row : Outbox.Row α Uuid}

theorem find?_column {ν μ : Type} (f : ν → μ) (t : Table Uuid ν) (k : Uuid) :
    (column f t).find? k = (t.find? k).map f := by
  refine Option.ext fun w => ?_
  rw [Table.find?_eq_some_iff, Option.map_eq_some_iff]
  unfold column
  simp only [List.mem_map, Prod.mk.injEq]
  constructor
  · rintro ⟨⟨k', v⟩, hr, rfl, rfl⟩
    exact ⟨v, Table.find?_eq_some_iff.2 hr, rfl⟩
  · rintro ⟨v, hv, rfl⟩
    exact ⟨(k, v), Table.find?_eq_some_iff.1 hv, rfl, rfl⟩

/-- A row has the content it had, or is inserted with it. -/
theorem content_step (a : Outbox.Action Uuid α Uuid)
    (hrow : (Outbox.step cfg key o a).rows.find? id = some row) :
    (∃ old, o.rows.find? id = some old ∧ old.content = row.content) ∨
      a = .enqueue id row.content := by
  have hstep := Outbox.rowStep cfg key o a id
  rw [hrow] at hstep
  cases hstep with
  | kept hpost _ => exact Or.inl ⟨row, hpost.symm, rfl⟩
  | enqueued content hact _ _ hpost =>
      obtain rfl := Option.some.inj hpost
      exact Or.inr hact
  | deleted _ hpost => cases hpost
  | claimed old w ago skip answered _ _ hpre _ hpost =>
      obtain rfl := Option.some.inj hpost
      exact Or.inl ⟨old, hpre, rfl⟩
  | marked old w result ago _ _ hpre _ hpost =>
      obtain rfl := Option.some.inj hpost
      refine Or.inl ⟨old, hpre, ?_⟩
      cases result <;> rfl

theorem content_work (a : Outbox.Action Uuid α Uuid) (hrow : (work cfg key o a).rows.find? id = some row) :
    ∃ old, o.rows.find? id = some old ∧ old.content = row.content := by
  cases a with
  | enqueue _ _ => exact ⟨row, hrow, rfl⟩
  | tick d => exact (content_step _ hrow).resolve_right (by simp)
  | delete i => exact (content_step _ hrow).resolve_right (by simp)
  | claim w ago skip answered => exact (content_step _ hrow).resolve_right (by simp)
  | mark w i result ago reached => exact (content_step _ hrow).resolve_right (by simp)
  | crash w => exact (content_step _ hrow).resolve_right (by simp)

theorem content_enqueueAll {ids : Uuid → Uuid} {content : Uuid → α} {subscriptions : List Uuid}
    (hrow : (enqueueAll cfg key ids content subscriptions o).rows.find? id = some row) :
    (∃ old, o.rows.find? id = some old ∧ old.content = row.content) ∨
      ∃ sub ∈ subscriptions, row.content = content sub := by
  unfold enqueueAll at hrow
  induction subscriptions generalizing o with
  | nil => exact Or.inl ⟨row, hrow, rfl⟩
  | cons sub subscriptions ih =>
      rcases ih hrow with ⟨old, hold, hcontent⟩ | ⟨sub', hsub', hcontent⟩
      · rcases content_step _ hold with ⟨older, holder, holderContent⟩ | hact
        · exact Or.inl ⟨older, holder, holderContent.trans hcontent⟩
        · obtain ⟨-, hsame⟩ := Outbox.Action.enqueue.inj hact
          exact Or.inr ⟨sub, List.mem_cons_self, hcontent.symm.trans hsame.symm⟩
      · exact Or.inr ⟨sub', List.mem_cons_of_mem _ hsub', hcontent⟩

theorem find?_cascade {sub : α → Uuid} {subscriptions : Subscriptions} :
    (cascade sub subscriptions o).rows.find? id = some row ↔
      o.rows.find? id = some row ∧ (subscriptions.find? (sub row.content)).isSome = true := by
  unfold cascade
  rw [Table.find?_filter, Option.filter_eq_some_iff]

end Rows

/-! ### Deliveries and their subscriptions -/

/-- Every delivery is of a subscription that is there. -/
structure Sys.Sound (s : Sys) : Prop where
  store : s.store.Sound
  alerts : ∀ id row, s.alerts.rows.find? id = some row →
    (s.store.rows.find? row.content.subscription_id).isSome = true
  chats : ∀ id row, s.chats.rows.find? id = some row →
    (s.store.rows.find? row.content.subscription_id).isSome = true

variable {env : Env} {s : Sys}

theorem mem_relayDb_targets {recipient : Pubkey} {sub : Uuid} :
    sub ∈ s.relayDb.targets recipient ↔
      (∃ row, s.store.rows.find? sub = some row ∧ row.nostr_pubkey = recipient) ∧
        (s.dm_enabled.find? recipient).getD true = true := by
  have hkey : ∀ key, (sub, key) ∈ s.relayDb.push_subscriptions.rows ↔
      ∃ row, s.store.rows.find? sub = some row ∧ row.nostr_pubkey = key := fun key => by
    rw [← Table.find?_eq_some_iff, show s.relayDb.push_subscriptions.find? sub = _ from
      find?_column _ _ _, Option.map_eq_some_iff]
  unfold RelayHooks.Db.targets
  simp only [List.mem_map, List.mem_filter, Bool.and_eq_true, decide_eq_true_eq]
  constructor
  · rintro ⟨⟨sub, key⟩, ⟨hmem, rfl, hwants⟩, rfl⟩
    exact ⟨(hkey _).1 hmem, hwants⟩
  · rintro ⟨hrow, hwants⟩
    exact ⟨(sub, recipient), ⟨(hkey _).2 hrow, rfl, hwants⟩, rfl⟩

theorem mem_nlpDb_targets {event : Nlp.SafetyEvent} {sub : Uuid} :
    sub ∈ s.nlpDb.targets env.nlp event ↔
      ∃ row, s.store.rows.find? sub = some row ∧ row.preferences.selects env.nlp event = true := by
  have hpreferences : s.nlpDb.subscriptions.find? sub =
      (s.store.rows.find? sub).map fun row => some row.preferences := find?_column _ _ _
  unfold Nlp.Db.targets
  rw [List.mem_map]
  constructor
  · rintro ⟨⟨sub, preferences⟩, hmem, rfl⟩
    rw [← Table.find?_eq_some_iff, Table.find?_filter, Option.filter_eq_some_iff] at hmem
    obtain ⟨row, hrow, rfl⟩ := Option.map_eq_some_iff.1 (hpreferences.symm.trans hmem.1)
    exact ⟨row, hrow, hmem.2⟩
  · rintro ⟨row, hrow, hselects⟩
    refine ⟨(sub, some row.preferences), ?_, rfl⟩
    rw [← Table.find?_eq_some_iff, Table.find?_filter, Option.filter_eq_some_iff, hpreferences, hrow]
    exact ⟨rfl, hselects⟩

theorem sound_init : Sys.Sound {} :=
  ⟨sound_empty, by simp [Outbox.System.init], by simp [Outbox.System.init]⟩

/-- The deliveries of an action that leaves the subscriptions alone. -/
theorem isSome_of_content {α : Type} {sub : α → Uuid} {o o' : Outbox α} {t : Subscriptions}
    (ho : ∀ id row, o.rows.find? id = some row → (t.find? (sub row.content)).isSome = true)
    (h : ∀ id row, o'.rows.find? id = some row →
      (∃ old, o.rows.find? id = some old ∧ old.content = row.content) ∨
        (t.find? (sub row.content)).isSome = true) :
    ∀ id row, o'.rows.find? id = some row → (t.find? (sub row.content)).isSome = true := by
  intro id row hrow
  rcases h id row hrow with ⟨old, hold, hcontent⟩ | hsome
  · rw [← hcontent]
    exact ho id old hold
  · exact hsome

theorem Sys.Sound.step (hs : s.Sound) (a : Act) : (step env s a).Sound := by
  cases a with
  | route call =>
      exact ⟨hs.store.step call, fun id row hrow => (find?_cascade.1 hrow).2,
        fun id row hrow => (find?_cascade.1 hrow).2⟩
  | prefer pubkey enabled => exact ⟨hs.store, hs.alerts, hs.chats⟩
  | hook event recipient ids =>
      refine ⟨hs.store, hs.alerts, isSome_of_content hs.chats fun id row hrow => ?_⟩
      refine (content_enqueueAll hrow).imp_right ?_
      rintro ⟨sub, hsub, hcontent⟩
      obtain ⟨⟨subscription, hfind, -⟩, -⟩ := mem_relayDb_targets.1 hsub
      rw [hcontent]
      exact Option.isSome_iff_exists.2 ⟨subscription, hfind⟩
  | confirm event_id event ids =>
      refine ⟨hs.store, isSome_of_content hs.alerts fun id row hrow => ?_, hs.chats⟩
      refine (content_enqueueAll hrow).imp_right ?_
      rintro ⟨sub, hsub, hcontent⟩
      obtain ⟨subscription, hfind, -⟩ := mem_nlpDb_targets.1 hsub
      rw [hcontent]
      exact Option.isSome_iff_exists.2 ⟨subscription, hfind⟩
  | alert a =>
      exact ⟨hs.store, isSome_of_content hs.alerts fun id row hrow => Or.inl (content_work a hrow), hs.chats⟩
  | chat a =>
      exact ⟨hs.store, hs.alerts, isSome_of_content hs.chats fun id row hrow => Or.inl (content_work a hrow)⟩

/-- **A subscription that a delivery is of has been there**: before an action it had the endpoint and
the key that it has after it. -/
theorem find?_store_step (hs : s.Sound) {i : Uuid} (hi : (s.store.rows.find? i).isSome = true) (a : Act)
    {row : Subscription} (hrow : (step env s a).store.rows.find? i = some row) :
    ∃ old, s.store.rows.find? i = some old ∧ old.endpoint = row.endpoint ∧
      old.nostr_pubkey = row.nostr_pubkey := by
  obtain ⟨old, hold⟩ := Option.isSome_iff_exists.1 hi
  cases a with
  | route call => exact find?_step hs.store (hs.store.issued i old hold) hrow
  | prefer pubkey enabled => exact ⟨row, hrow, rfl, rfl⟩
  | hook event recipient ids => exact ⟨row, hrow, rfl, rfl⟩
  | confirm event_id event ids => exact ⟨row, hrow, rfl, rfl⟩
  | alert a => exact ⟨row, hrow, rfl, rfl⟩
  | chat a => exact ⟨row, hrow, rfl, rfl⟩

/-- The key has the endpoint. -/
def Has (key : Pubkey) (endpoint : String) (s : Sys) : Prop :=
  ∃ row, holder s.store.rows endpoint = some row ∧ row.nostr_pubkey = key

/-- **Since a delivery was inserted, its endpoint has been the key's that it was inserted for.**  The
outbox is any part of the state whose rows keep their content, and come in steps of one kind. -/
theorem since_inserted {α : Type} (o : Sys → Outbox α) {sub : α → Uuid}
    (Inserted : α → Event Sys Act → Prop) (hempty : ∀ id, (o {}).rows.find? id = none)
    (hsub : ∀ s : Sys, s.Sound → ∀ id row, (o s).rows.find? id = some row →
      (s.store.rows.find? (sub row.content)).isSome = true)
    (hkeeps : ∀ s : Sys, s.Sound → ∀ a id row, (o (step env s a)).rows.find? id = some row →
      (∃ old, (o s).rows.find? id = some old ∧ old.content = row.content) ∨
        Inserted row.content ⟨s, a, step env s a⟩)
    {as : List Act} {id : Uuid} {row : Outbox.Row α Uuid} {subscription : Subscription}
    (hrow : (o (run (step env) {} as)).rows.find? id = some row)
    (hsubscription : (run (step env) {} as).store.rows.find? (sub row.content) = some subscription) :
    Since (fun e => Has subscription.nostr_pubkey subscription.endpoint e.post)
      (fun e => e.pre.Sound ∧ Inserted row.content e ∧
        ∃ held, e.post.store.rows.find? (sub row.content) = some held ∧
          held.endpoint = subscription.endpoint ∧ held.nostr_pubkey = subscription.nostr_pubkey)
      (events (step env) {} as) := by
  -- what holds since then: the delivery is there, and its subscription has the endpoint and the key
  let R : Sys → Prop := fun s =>
    (∃ row', (o s).rows.find? id = some row' ∧ row'.content = row.content) ∧
      ∃ held, s.store.rows.find? (sub row.content) = some held ∧
        held.endpoint = subscription.endpoint ∧ held.nostr_pubkey = subscription.nostr_pubkey
  refine since_of_run (R := R) ?_ (fun e he => ?_) ⟨⟨row, hrow, rfl⟩, subscription, hsubscription, rfl, rfl⟩
  · rintro ⟨⟨row', hrow', -⟩, -⟩
    rw [hempty] at hrow'
    cases hrow'
  · obtain ⟨hsound, hpost⟩ := events_induction_of (P := Sys.Sound) (G := fun _ _ => True) sound_init
      (fun s a hs _ => hs.step a) (fun _ _ => trivial) he
    obtain ⟨pre, a, post⟩ := e
    obtain rfl : post = step env pre a := hpost
    rintro ⟨⟨row', hrow', hcontent⟩, held, hheld, hendpoint, hkey⟩
    rcases hkeeps pre hsound a id row' hrow' with ⟨old, hold, holdContent⟩ | hinserted
    · have hsome := hsub pre hsound id old hold
      rw [holdContent, hcontent] at hsome
      obtain ⟨before, hbefore, hendpoint', hkey'⟩ := find?_store_step hsound hsome a hheld
      refine Or.inr ⟨⟨⟨old, hold, holdContent.trans hcontent⟩, before, hbefore,
        hendpoint'.trans hendpoint, hkey'.trans hkey⟩, held, ?_, hkey⟩
      exact (hsound.step a).store.holder_eq_some_iff.2 ⟨_, hheld, hendpoint⟩
    · exact Or.inl ⟨hsound, hcontent ▸ hinserted, held, hheld, hendpoint, hkey⟩

/-! ### Recipients -/

/-- What a claim returns is of a delivery and of the row that its subscription has now. -/
theorem of_mem_claimed {α : Type} {cfg : Outbox.Config} {sub : α → Uuid} {payload : α → String}
    {subscriptions : Subscriptions} {o : Outbox α} {now : ℤ} {skip : Uuid → Bool} {d : Delivery}
    (hd : d ∈ claimed cfg sub payload subscriptions o now skip) :
    ∃ row subscription, o.rows.find? d.id = some row ∧
      subscriptions.find? (sub row.content) = some subscription ∧
      d = ⟨d.id, subscription.endpoint, subscription.p256dh, subscription.auth, payload row.content⟩ := by
  unfold claimed at hd
  obtain ⟨id, -, hid⟩ := List.mem_filterMap.1 hd
  obtain ⟨row, hrow, hid⟩ := Option.bind_eq_some_iff.1 hid
  obtain ⟨subscription, hsubscription, hid⟩ := Option.bind_eq_some_iff.1 hid
  obtain rfl := Option.some.inj hid
  exact ⟨row, subscription, hrow, hsubscription, rfl⟩

theorem sound_run (env : Env) (as : List Act) : (run (step env) {} as).Sound :=
  run_induction sound_init (fun _ a hs => hs.step a) as

/-- **A notice of a message reaches its recipient alone.**  Whenever a worker claims a delivery of the
chat outbox, it sends it, without a word of the message, to an endpoint that is now the recipient's,
with the keys of the recipient's last subscription; and it has been the recipient's ever since the
message came in, when the recipient did not decline such notices. -/
theorem chat_recipient (env : Env) (as : List Act) (now : ℤ) (skip : Uuid → Bool) {d : Delivery}
    (hd : d ∈ claimed ChatPushWorker.config ChatPushDelivery.subscription_id ChatPushDelivery.payload
      (run (step env) {} as).store.rows (run (step env) {} as).chats now skip) :
    d.payload = payloadJson ∧ ∃ row, holder (run (step env) {} as).store.rows d.endpoint = some row ∧
      d.p256dh = row.p256dh ∧ d.auth = row.auth ∧ ∃ event,
        Since (fun e => Has row.nostr_pubkey d.endpoint e.post)
          (fun e => (∃ ids, e.act = .hook event row.nostr_pubkey ids) ∧
            Has row.nostr_pubkey d.endpoint e.pre ∧
            (e.pre.dm_enabled.find? row.nostr_pubkey).getD true = true)
          (events (step env) {} as) := by
  obtain ⟨row, subscription, hrow, hsubscription, hd⟩ := of_mem_claimed hd
  have hsound := sound_run env as
  -- what an insertion into the outbox knows of its row
  let Inserted : ChatPushDelivery → Event Sys Act → Prop := fun content e =>
    ∃ event recipient ids, e.act = .hook event recipient ids ∧ e.post.store = e.pre.store ∧
      content.subscription_id ∈ e.pre.relayDb.targets recipient ∧
      content = ⟨content.subscription_id, dedupeKey event content.subscription_id, payloadJson⟩
  have hkeeps : ∀ s : Sys, s.Sound → ∀ a id row, (step env s a).chats.rows.find? id = some row →
      (∃ old, s.chats.rows.find? id = some old ∧ old.content = row.content) ∨
        Inserted row.content ⟨s, a, step env s a⟩ := by
    intro s _ a id row hrow
    cases a with
    | route call => exact Or.inl ⟨row, (find?_cascade.1 hrow).1, rfl⟩
    | prefer pubkey enabled => exact Or.inl ⟨row, hrow, rfl⟩
    | confirm event_id event ids => exact Or.inl ⟨row, hrow, rfl⟩
    | alert a => exact Or.inl ⟨row, hrow, rfl⟩
    | chat a => exact Or.inl (content_work a hrow)
    | hook event recipient ids =>
        refine (content_enqueueAll hrow).imp_right ?_
        rintro ⟨sub, hsub, hcontent⟩
        refine ⟨event, recipient, ids, rfl, rfl, ?_⟩
        rw [hcontent]
        exact ⟨hsub, rfl⟩
  have hsince := since_inserted Sys.chats Inserted (fun _ => rfl)
    (fun s hs => hs.chats) hkeeps hrow hsubscription
  obtain ⟨before, e, after, hes, ⟨hpre, ⟨event, recipient, ids, hact, hstore, htarget, hcontent⟩, held,
    hheld, hendpoint, hkey⟩, hafter⟩ := hsince
  obtain ⟨⟨row', hrow', hrecipient⟩, hwants⟩ := mem_relayDb_targets.1 htarget
  rw [hstore, hrow'] at hheld
  obtain rfl := Option.some.inj hheld
  rw [hd, hcontent]
  refine ⟨rfl, subscription, hsound.store.holder_eq_some_iff.2 ⟨_, hsubscription, rfl⟩, rfl, rfl, event,
    before, e, after, hes, ⟨⟨ids, ?_⟩, ⟨row', ?_, hkey⟩, ?_⟩, hafter⟩
  · rw [hact, ← hrecipient, hkey]
  · exact hpre.store.holder_eq_some_iff.2 ⟨_, hrow', hendpoint⟩
  · rw [← hkey, hrecipient]
    exact hwants

/-- A subscription, and a message for its key. -/
def demoActs : List Act :=
  [.route (.subscribe "s" 0
      ⟨⟨"alice", some "hash"⟩, "hash", some ⟨⟨"https://push", ⟨"key", "auth"⟩⟩, "LOW", 0, 0, 1⟩⟩ .fine),
    .hook "message" "alice" fun sub => sub]

def demoEnv : Env := ⟨⟨fun _ _ => ("", ""), fun _ _ _ => true⟩, fun payload => payload.title⟩

theorem chat_recipient_demo : ∃ event,
    Since (fun e => Has "alice" "https://push" e.post)
      (fun e => (∃ ids, e.act = .hook event "alice" ids) ∧ Has "alice" "https://push" e.pre ∧
        (e.pre.dm_enabled.find? "alice").getD true = true)
      (events (step demoEnv) {} demoActs) := by
  obtain ⟨-, row, hrow, -, -, event, hsince⟩ := chat_recipient demoEnv demoActs 0 (fun _ => false)
    (d := ⟨"s", "https://push", "key", "auth", payloadJson⟩) (by decide +kernel)
  have hholder : (holder (run (step demoEnv) {} demoActs).store.rows "https://push").map
      Subscription.nostr_pubkey = some "alice" := by
    decide +kernel
  rw [hrow, Option.map_some, Option.some.injEq] at hholder
  rw [hholder] at hsince
  exact ⟨event, hsince⟩

/-- **An alert reaches who asked for it.**  Whenever a worker claims a delivery of the alert outbox, it
sends what is to be said of an event to an endpoint, with the keys of the last subscription of the key
whose it is now; and the key has had the endpoint ever since the event was confirmed, when it asked to
be told of events as severe, and as near. -/
theorem alert_recipient (env : Env) (as : List Act) (now : ℤ) (skip : Uuid → Bool) {d : Delivery}
    (hd : d ∈ claimed PushOutboxWorker.config PushDelivery.subscription_id PushDelivery.payload
      (run (step env) {} as).store.rows (run (step env) {} as).alerts now skip) :
    ∃ row, holder (run (step env) {} as).store.rows d.endpoint = some row ∧ d.p256dh = row.p256dh ∧
      d.auth = row.auth ∧ ∃ event_id event, d.payload = env.payloadText (Nlp.pushPayload event_id event) ∧
        Since (fun e => Has row.nostr_pubkey d.endpoint e.post)
          (fun e => (∃ ids, e.act = .confirm event_id event ids) ∧
            ∃ asked, holder e.pre.store.rows d.endpoint = some asked ∧
              asked.nostr_pubkey = row.nostr_pubkey ∧
              asked.preferences.selects env.nlp event = true)
          (events (step env) {} as) := by
  obtain ⟨row, subscription, hrow, hsubscription, hd⟩ := of_mem_claimed hd
  have hsound := sound_run env as
  -- what an insertion into the outbox knows of its row
  let Inserted : PushDelivery → Event Sys Act → Prop := fun content e =>
    ∃ event_id event ids, e.act = .confirm event_id event ids ∧ e.post.store = e.pre.store ∧
      content.subscription_id ∈ e.pre.nlpDb.targets env.nlp event ∧
      content = ⟨event_id, content.subscription_id, env.payloadText (Nlp.pushPayload event_id event)⟩
  have hkeeps : ∀ s : Sys, s.Sound → ∀ a id row, (step env s a).alerts.rows.find? id = some row →
      (∃ old, s.alerts.rows.find? id = some old ∧ old.content = row.content) ∨
        Inserted row.content ⟨s, a, step env s a⟩ := by
    intro s _ a id row hrow
    cases a with
    | route call => exact Or.inl ⟨row, (find?_cascade.1 hrow).1, rfl⟩
    | prefer pubkey enabled => exact Or.inl ⟨row, hrow, rfl⟩
    | hook event recipient ids => exact Or.inl ⟨row, hrow, rfl⟩
    | chat a => exact Or.inl ⟨row, hrow, rfl⟩
    | alert a => exact Or.inl (content_work a hrow)
    | confirm event_id event ids =>
        refine (content_enqueueAll hrow).imp_right ?_
        rintro ⟨sub, hsub, hcontent⟩
        refine ⟨event_id, event, ids, rfl, rfl, ?_⟩
        rw [hcontent]
        exact ⟨hsub, rfl⟩
  have hsince := since_inserted Sys.alerts Inserted (fun _ => rfl)
    (fun s hs => hs.alerts) hkeeps hrow hsubscription
  obtain ⟨before, e, after, hes, ⟨hpre, ⟨event_id, event, ids, hact, hstore, htarget, hcontent⟩, held,
    hheld, hendpoint, hkey⟩, hafter⟩ := hsince
  obtain ⟨row', hrow', hselects⟩ := mem_nlpDb_targets.1 htarget
  rw [hstore, hrow'] at hheld
  obtain rfl := Option.some.inj hheld
  rw [hd, hcontent]
  refine ⟨subscription, hsound.store.holder_eq_some_iff.2 ⟨_, hsubscription, rfl⟩, rfl, rfl, event_id, event,
    rfl, before, e, after, hes, ⟨⟨ids, hact⟩, row', ?_, hkey, hselects⟩, hafter⟩
  exact hpre.store.holder_eq_some_iff.2 ⟨_, hrow', hendpoint⟩

/-- An event that is confirmed where `demoActs` has subscribed. -/
def demoEvent : Nlp.SafetyEvent where
  event_type := "FIRE"
  severity := .high
  title := "Fire"
  lat := 0
  lng := 0
  started_at := 0
  summary := none
  place_name := none
  county := none
  created_at := 0

theorem alert_recipient_demo : ∃ event_id event,
    Since (fun e => Has "alice" "https://push" e.post)
      (fun e => (∃ ids, e.act = .confirm event_id event ids) ∧
        ∃ asked, holder e.pre.store.rows "https://push" = some asked ∧ asked.nostr_pubkey = "alice" ∧
          asked.preferences.selects demoEnv.nlp event = true)
      (events (step demoEnv) {} (demoActs ++ [.confirm "event" demoEvent fun sub => sub])) := by
  obtain ⟨row, hrow, -, -, event_id, event, -, hsince⟩ := alert_recipient demoEnv
    (demoActs ++ [.confirm "event" demoEvent fun sub => sub]) 0 (fun _ => false)
    (d := ⟨"s", "https://push", "key", "auth", "Fire"⟩) (by decide +kernel)
  have hholder : (holder (run (step demoEnv) {}
      (demoActs ++ [.confirm "event" demoEvent fun sub => sub])).store.rows "https://push").map
      Subscription.nostr_pubkey = some "alice" := by
    decide +kernel
  rw [hrow, Option.map_some, Option.some.injEq] at hholder
  rw [hholder] at hsince
  exact ⟨event_id, event, hsince⟩

end PushRecipients
end Subscribers
end SentinelMesh
