/-
# Relay webhooks

`inbox_webhook` of `routes/relay_hooks.rs` and what it writes: a receipt under the id of
the relay event, then the chat deliveries to the recipient's subscriptions.  The
two are statements of their own, each committed by itself; a call whose receipt
is not new answers at once.

HMAC-SHA256 and the JSON parser are parameters.  A statement fails without effect
(`refused`) or after it (`lost`: the answer does not arrive); a handler that is
dropped between its two statements, when its client is gone or its process
ends, is a call whose second statement is refused.  Calls overlap, and subscriptions
and preferences change between any two statements.

For a relay event that has no receipt yet, take any run in which a call for it
answers `200` and, in the end, none is under way.  Its deliveries exist exactly when
no step *interrupted* the event, failing after the receipt was in
(`webhook_survives_iff`).  Once there is a receipt and nothing under way, calls add nothing
(`settled_run`).
-/

import SentinelMesh.Lib.Run
import SentinelMesh.Subscribers.PushOutbox

namespace SentinelMesh
namespace RelayHooks

open Lib

/-! ### The request -/

/-- `WEBHOOK_KIND_GIFT_WRAP`. -/
def webhookKindGiftWrap : ℕ := 1059

/-- `WEBHOOK_TIMESTAMP_TOLERANCE_SECS`. -/
def webhookTimestampToleranceSecs : ℤ := 300

/-- The JSON body; `kind` is an `u16`. -/
structure InboxWebhookBody where
  outer_event_id : String
  recipient_p : Pubkey
  kind : ℕ
  deriving DecidableEq, Repr

/-- A request: its headers as far as they are read, `none` where one is missing or not
visible ASCII, and the bytes of its body. -/
structure Request where
  signature : Option String
  timestamp : Option String
  source : Option String
  delivery : Option String
  body : List UInt8
  deriving DecidableEq

/-- The configuration, and the libraries the handler calls. -/
structure Env where
  relay_webhook_secret : Option String
  relay_webhook_allowed_source : Option String
  chat_push_enabled : Bool
  /-- HMAC-SHA256 of a message under a key. -/
  hmac : String → List UInt8 → List ℕ
  /-- `serde_json::from_slice`. -/
  parse : List UInt8 → Option InboxWebhookBody

/-- The value of a hex digit of either case. -/
def hexValue (c : Char) : Option ℕ :=
  if c.isDigit then some (c.toNat - '0'.toNat)
  else if 'a' ≤ c ∧ c ≤ 'f' then some (c.toNat - 'a'.toNat + 10)
  else if 'A' ≤ c ∧ c ≤ 'F' then some (c.toNat - 'A'.toNat + 10)
  else none

/-- `hex::decode`. -/
def decodeHex : List Char → Option (List ℕ)
  | [] => some []
  | [_] => none
  | c :: d :: cs => do
    let hi ← hexValue c
    let lo ← hexValue d
    let rest ← decodeHex cs
    pure ((16 * hi + lo) :: rest)

/-- `verify_hmac`. -/
def verifyHmac (env : Env) (secret : String) (body : List UInt8) (signature_header : String) :
    Bool :=
  (("sha256=".toList.isPrefixOf? signature_header.toList).bind decodeHex).any fun expected =>
    decide (env.hmac secret body = expected)

/-- `str::parse::<i64>`: an optional sign, then at least one digit, in range. -/
def parseI64 (s : String) : Option ℤ :=
  let digits := match s.toList with
    | '-' :: cs => cs
    | '+' :: cs => cs
    | cs => cs
  let n : ℤ := Nat.ofDigitChars 10 digits 0
  let value := if s.toList.head? = some '-' then -n else n
  if digits ≠ [] ∧ digits.all Char.isDigit ∧ -2 ^ 63 ≤ value ∧ value < 2 ^ 63 then some value
  else none

/-- `validate_body`. -/
def validateBody (body : InboxWebhookBody) : Bool :=
  decide (body.kind = webhookKindGiftWrap) && isHex 64 body.outer_event_id
    && isHex 64 body.recipient_p

/-- A webhook: the relay's delivery id, and the body. -/
structure Hook where
  delivery_id : String
  body : InboxWebhookBody
  deriving DecidableEq, Repr

/-- What `inbox_webhook` checks before the database. -/
def check (env : Env) (now : Timestamp) (req : Request) : Except AppError Hook :=
  match env.relay_webhook_secret with
  | none => .error .unavailable
  | some secret => do
    ensure (verifyHmac env secret req.body (req.signature.getD "")) .unauthorized
    ensure ((req.timestamp.bind parseI64).any fun ts =>
      decide (absI64 (wrap 64 (seconds now - ts)) ≤ webhookTimestampToleranceSecs)) .unauthorized
    ensure (env.relay_webhook_allowed_source.all fun allowed =>
      decide (req.source.getD "" = allowed)) .unauthorized
    let delivery_id := req.delivery.getD ""
    ensure (decide (delivery_id ≠ "" ∧ delivery_id.utf8ByteSize ≤ 256))
      (.badRequest "missing relay delivery id")
    match env.parse req.body with
    | none => .error (.badRequest "invalid webhook payload")
    | some payload => do
      ensure (validateBody payload) (.badRequest "invalid webhook payload")
      pure ⟨delivery_id, payload⟩

/-! ### The statements -/

/-- A row of `relay_webhook_receipts`, under its `delivery_id`. -/
structure Receipt where
  relay_event_id : String
  recipient_pubkey : Pubkey
  kind : ℕ
  deriving DecidableEq, Repr

/-- The tables: the receipts, the subscriptions with their owner, the `dm_enabled` of
`chat_notification_preferences`, and `chat_push_deliveries` under the `dedupe_key`. -/
structure Db where
  relay_webhook_receipts : Table String Receipt
  push_subscriptions : Table Uuid Pubkey
  dm_enabled : Table Pubkey Bool
  chat_push_deliveries : Table String Subscribers.ChatPushDelivery
  deriving DecidableEq

/-- Some receipt is of the relay event. -/
def Db.received (db : Db) (event : String) : Bool :=
  db.relay_webhook_receipts.rows.any fun r => decide (r.2.relay_event_id = event)

/-- `INSERT INTO relay_webhook_receipts ... ON CONFLICT (relay_event_id) DO NOTHING`, and
whether it inserted.  A conflict on the primary key is an error. -/
def insertReceipt (hook : Hook) (db : Db) : Except AppError (Bool × Db) :=
  if db.received hook.body.outer_event_id then .ok (false, db)
  else if (db.relay_webhook_receipts.find? hook.delivery_id).isSome then
    .error (.internal "duplicate key value violates unique constraint relay_webhook_receipts_pkey")
  else
    .ok (true, { db with
      relay_webhook_receipts := db.relay_webhook_receipts.insert hook.delivery_id
        ⟨hook.body.outer_event_id, hook.body.recipient_p, hook.body.kind⟩ })

/-- `$2 || ':' || s.id`. -/
def dedupeKey (event : String) (subscription_id : Uuid) : String :=
  event ++ ":" ++ subscription_id

/-- The subscriptions the `SELECT` yields. -/
def Db.targets (db : Db) (recipient : Pubkey) : List Uuid :=
  (db.push_subscriptions.rows.filter fun r =>
    decide (r.2 = recipient) && (db.dm_enabled.find? r.2).getD true).map Prod.fst

/-- The payload of every chat delivery. -/
def payloadJson : String := "\x7b\"title\":\"New encrypted message\"\x7d"

/-- One row of the `INSERT INTO chat_push_deliveries ... ON CONFLICT (dedupe_key) DO NOTHING`. -/
def addDelivery (event : String) (t : Table String Subscribers.ChatPushDelivery) (sub : Uuid) :
    Table String Subscribers.ChatPushDelivery :=
  t.insert (dedupeKey event sub) ⟨sub, dedupeKey event sub, payloadJson⟩

/-- The second statement of `inbox_webhook`. -/
def enqueue (hook : Hook) (db : Db) : Db :=
  { db with
    chat_push_deliveries := (db.targets hook.body.recipient_p).foldl
      (addDelivery hook.body.outer_event_id) db.chat_push_deliveries }

/-! ### Calls that overlap -/

/-- How a statement goes. -/
inductive Fault
  /-- It takes effect and is answered. -/
  | fine
  /-- It has no effect, and the call sees an error. -/
  | refused
  /-- It takes effect, and the call sees an error. -/
  | lost
  deriving DecidableEq, Repr

/-- The tables and the calls between their two statements, under a number of their own. -/
structure Sys where
  db : Db
  pending : Table ℕ Hook
  next : ℕ

/-- What happens: a call up to its first statement, the second statement of a call, and
what other routes do to subscriptions and preferences. -/
inductive Act
  | receive (now : Timestamp) (req : Request) (fault : Fault)
  | resume (n : ℕ) (fault : Fault)
  | subscribe (id : Uuid) (pubkey : Pubkey)
  | unsubscribe (id : Uuid)
  | prefer (pubkey : Pubkey) (dm_enabled : Bool)
  deriving DecidableEq

/-- Empty tables and no calls. -/
def Sys.init : Sys := ⟨⟨Table.empty, Table.empty, Table.empty, Table.empty⟩, Table.empty, 0⟩

/-- The response of a call: the webhook it answers with `200`, or an error. -/
abbrev Answer := Except AppError Hook

/-- `sqlx::Error` as the handler returns it. -/
def dbError : AppError := .internal "database"

/-- The first part of a call that passed the checks. -/
def receiveHook (env : Env) (s : Sys) (hook : Hook) (fault : Fault) : Sys × Option Answer :=
  match insertReceipt hook s.db, fault with
  | .error e, _ => (s, some (.error e))
  | .ok _, .refused => (s, some (.error dbError))
  | .ok (_, db), .lost => ({ s with db := db }, some (.error dbError))
  | .ok (inserted, db), .fine =>
    if inserted && env.chat_push_enabled then
      ({ db := db, pending := s.pending.insert s.next hook, next := s.next + 1 }, none)
    else ({ s with db := db }, some (.ok hook))

/-- One action, and the response it gives. -/
def act (env : Env) (s : Sys) : Act → Sys × Option Answer
  | .receive now req fault => match check env now req with
    | .error e => (s, some (.error e))
    | .ok hook => receiveHook env s hook fault
  | .resume n fault => match s.pending.find? n with
    | none => (s, none)
    | some hook =>
      let pending := s.pending.filter fun m _ => decide (m ≠ n)
      match fault with
      | .refused => ({ s with pending := pending }, some (.error dbError))
      | .lost => ({ s with db := enqueue hook s.db, pending := pending }, some (.error dbError))
      | .fine => ({ s with db := enqueue hook s.db, pending := pending }, some (.ok hook))
  | .subscribe id pubkey =>
    ({ s with db := { s.db with
        push_subscriptions := s.db.push_subscriptions.insert id pubkey } }, none)
  | .unsubscribe id =>
    -- the deliveries of a subscription are deleted with it
    ({ s with db := { s.db with
        push_subscriptions := s.db.push_subscriptions.filter fun id' _ => decide (id' ≠ id)
        chat_push_deliveries := s.db.chat_push_deliveries.filter fun _ d =>
          decide (d.subscription_id ≠ id) } }, none)
  | .prefer pubkey enabled =>
    ({ s with db := { s.db with
        dm_enabled := s.db.dm_enabled.upsert pubkey enabled fun _ => enabled } }, none)

/-- The state after an action. -/
def step (env : Env) (s : Sys) (a : Act) : Sys := (act env s a).1

/-- The step fails a call for the relay event after its receipt was inserted: the answer of
the insertion is lost, or the deliveries are refused. -/
def interrupts (env : Env) (event : String) (s : Sys) : Act → Bool
  | .receive now req .lost => match check env now req with
    | .error _ => false
    | .ok hook => decide (hook.body.outer_event_id = event) && !s.db.received event &&
      (s.db.relay_webhook_receipts.find? hook.delivery_id).isNone
  | .resume n .refused =>
    (s.pending.find? n).any fun hook => decide (hook.body.outer_event_id = event)
  | _ => false

/-- The delivery of the event to a subscription. -/
def Db.delivered (db : Db) (event : String) (sub : Uuid) : Bool :=
  (db.chat_push_deliveries.find? (dedupeKey event sub)).isSome

/-! ### Keys and rows -/

variable {env : Env} {s : Sys} {a : Act} {db : Db} {event event' : String} {sub sub' : Uuid}

theorem separator_notMem_of_isHex {n : ℕ} {t : String} (h : isHex n t = true) : ':' ∉ t.toList := by
  intro hmem
  have hall := (Bool.and_eq_true_iff.1 h).2
  exact absurd (List.all_eq_true.1 hall ':' hmem) (by decide)

/-- Keys of relay events can be told apart. -/
theorem dedupeKey_inj (h : isHex 64 event = true) (h' : isHex 64 event' = true) :
    dedupeKey event sub = dedupeKey event' sub' ↔ event = event' ∧ sub = sub' := by
  have hcolon : ":" = String.singleton ':' := rfl
  unfold dedupeKey
  rw [String.append_assoc, String.append_assoc, hcolon]
  exact field_inj (separator_notMem_of_isHex h) (separator_notMem_of_isHex h')

theorem received_iff : db.received event = true ↔
    ∃ id r, db.relay_webhook_receipts.find? id = some r ∧ r.relay_event_id = event := by
  unfold Db.received
  rw [List.any_eq_true]
  constructor
  · rintro ⟨⟨id, r⟩, hr, he⟩
    exact ⟨id, r, Table.find?_eq_some_iff.2 hr, by simpa using he⟩
  · rintro ⟨id, r, hr, he⟩
    exact ⟨(id, r), Table.find?_eq_some_iff.1 hr, by simpa using he⟩

/-- What an insertion of a receipt found and left. -/
theorem insertReceipt_eq_ok {hook : Hook} {db' : Db} {inserted : Bool}
    (h : insertReceipt hook db = .ok (inserted, db')) :
    (inserted = false ∧ db' = db ∧ db.received hook.body.outer_event_id = true) ∨
    (inserted = true ∧ db.received hook.body.outer_event_id = false ∧
      db.relay_webhook_receipts.find? hook.delivery_id = none ∧
      db'.push_subscriptions = db.push_subscriptions ∧ db'.dm_enabled = db.dm_enabled ∧
      db'.chat_push_deliveries = db.chat_push_deliveries ∧
      ∀ event, db'.received event = true ↔
        db.received event = true ∨ event = hook.body.outer_event_id) := by
  unfold insertReceipt at h
  split at h
  · rename_i hrec
    cases h
    exact Or.inl ⟨rfl, rfl, hrec⟩
  · rename_i hrec
    split at h
    · cases h
    · rename_i hpk
      cases h
      have hnone : db.relay_webhook_receipts.find? hook.delivery_id = none := by simpa using hpk
      refine Or.inr ⟨rfl, by simpa using hrec, hnone, rfl, rfl, rfl, fun event => ?_⟩
      simp only [received_iff, Table.find?_insert, hnone, Option.getD_none]
      constructor
      · rintro ⟨id, r, hr, he⟩
        split at hr
        · obtain rfl := Option.some.inj hr
          exact Or.inr he.symm
        · exact Or.inl ⟨id, r, hr, he⟩
      · rintro (⟨id, r, hr, he⟩ | rfl)
        · refine ⟨id, r, ?_, he⟩
          rw [if_neg, hr]
          rintro rfl
          rw [hnone] at hr
          cases hr
        · exact ⟨hook.delivery_id, _, if_pos rfl, rfl⟩

/-- What the insertion of a new receipt found and left. -/
theorem insertReceipt_eq_true {hook : Hook} {db' : Db}
    (h : insertReceipt hook db = .ok (true, db')) :
    db.received hook.body.outer_event_id = false ∧
      db'.chat_push_deliveries = db.chat_push_deliveries ∧
      ∀ event, db'.received event = true ↔
        db.received event = true ∨ event = hook.body.outer_event_id := by
  obtain ⟨hfalse, _, _⟩ | ⟨_, hfresh, _, _, _, hrows, hrec⟩ := insertReceipt_eq_ok h
  · cases hfalse
  · exact ⟨hfresh, hrows, hrec⟩

/-- The rows of a table after deliveries were added. -/
theorem find?_addDelivery {t : Table String Subscribers.ChatPushDelivery} {subs : List Uuid}
    {key : String} {d : Subscribers.ChatPushDelivery}
    (h : (subs.foldl (addDelivery event) t).find? key = some d) :
    t.find? key = some d ∨ d.subscription_id ∈ subs ∧ key = dedupeKey event d.subscription_id := by
  induction subs generalizing t with
  | nil => exact Or.inl h
  | cons sub subs ih =>
      rw [List.foldl_cons] at h
      rcases ih h with h | ⟨hmem, hkey⟩
      · unfold addDelivery at h
        rw [Table.find?_insert] at h
        split at h
        · rename_i hkey
          cases ht : t.find? (dedupeKey event sub) with
          | some d' =>
              rw [ht] at h
              exact Or.inl (by rw [hkey, ht]; exact h)
          | none =>
              rw [ht] at h
              obtain rfl := Option.some.inj h
              exact Or.inr ⟨List.mem_cons_self, hkey⟩
        · exact Or.inl h
      · exact Or.inr ⟨List.mem_cons_of_mem _ hmem, hkey⟩

/-- Which keys have a row after deliveries were added. -/
theorem isSome_addDelivery (t : Table String Subscribers.ChatPushDelivery) (subs : List Uuid)
    (key : String) : ((subs.foldl (addDelivery event) t).find? key).isSome = true ↔
      (t.find? key).isSome = true ∨ ∃ sub ∈ subs, key = dedupeKey event sub := by
  induction subs generalizing t with
  | nil => simp
  | cons sub subs ih =>
      rw [List.foldl_cons, ih]
      unfold addDelivery
      rw [Table.find?_insert]
      split
      · rename_i hkey
        simp [hkey]
      · rename_i hkey
        simp [hkey]

/-- **Enqueuing delivers to the targets**, and delivers no other event. -/
theorem delivered_enqueue {hook : Hook} (h : isHex 64 hook.body.outer_event_id = true)
    (h' : isHex 64 event = true) : (enqueue hook db).delivered event sub = true ↔
      db.delivered event sub = true ∨
        event = hook.body.outer_event_id ∧ sub ∈ db.targets hook.body.recipient_p := by
  unfold Db.delivered enqueue
  rw [isSome_addDelivery]
  refine or_congr_right ?_
  constructor
  · rintro ⟨sub', hsub', hkey⟩
    obtain ⟨rfl, rfl⟩ := (dedupeKey_inj h' h).1 hkey
    exact ⟨rfl, hsub'⟩
  · rintro ⟨rfl, hsub⟩
    exact ⟨sub, hsub, rfl⟩

/-- A webhook that passed the checks names a valid event. -/
theorem check_eq_ok {now : Timestamp} {req : Request} {hook : Hook}
    (h : check env now req = .ok hook) : isHex 64 hook.body.outer_event_id = true := by
  unfold check at h
  split at h
  · cases h
  · obtain ⟨_, _, h⟩ := bind_eq_ok.1 h
    obtain ⟨_, _, h⟩ := bind_eq_ok.1 h
    obtain ⟨_, _, h⟩ := bind_eq_ok.1 h
    obtain ⟨_, _, h⟩ := bind_eq_ok.1 h
    split at h
    · cases h
    · obtain ⟨_, hv, h⟩ := bind_eq_ok.1 h
      cases h
      have hvalid := ensure_eq_ok.1 hv
      unfold validateBody at hvalid
      simp only [Bool.and_eq_true] at hvalid
      exact hvalid.1.2

/-! ### What a step can do -/

/-- What an action leaves, and what it answers. -/
inductive Effect (env : Env) (s : Sys) (a : Act) (s' : Sys) (answer : Option Answer) : Prop
  | kept (hs : s' = s) (hint : ∀ event, interrupts env event s a = false)
      (hok : ∀ hook, answer = some (.ok hook) → isHex 64 hook.body.outer_event_id = true ∧
        s.db.received hook.body.outer_event_id = true)
  | inserted (now : Timestamp) (req : Request) (fault : Fault) (hook : Hook) (db : Db)
      (hact : a = .receive now req fault) (hfault : fault ≠ .refused)
      (hcheck : check env now req = .ok hook)
      (hins : insertReceipt hook s.db = .ok (true, db))
      (hs : s' = if fault = .fine ∧ env.chat_push_enabled = true then
          { db := db, pending := s.pending.insert s.next hook, next := s.next + 1 }
        else { s with db := db })
      (hint : ∀ event, interrupts env event s a = true ↔
        fault = .lost ∧ hook.body.outer_event_id = event)
      (hok : ∀ hook', answer = some (.ok hook') → hook' = hook)
  | resumed (n : ℕ) (fault : Fault) (hook : Hook) (hpending : s.pending.find? n = some hook)
      (hs : s' = { s with
        db := if fault = .refused then s.db else enqueue hook s.db
        pending := s.pending.filter fun m _ => decide (m ≠ n) })
      (hint : ∀ event, interrupts env event s a = true ↔
        fault = .refused ∧ hook.body.outer_event_id = event)
      (hok : ∀ hook', answer = some (.ok hook') → hook' = hook)
  | changed (db : Db) (hs : s' = { s with db := db })
      (hreceipts : db.relay_webhook_receipts = s.db.relay_webhook_receipts)
      (hrows : ∀ key d, db.chat_push_deliveries.find? key = some d ↔
        s.db.chat_push_deliveries.find? key = some d ∧
          ∀ id, a = .unsubscribe id → d.subscription_id ≠ id)
      (hint : ∀ event, interrupts env event s a = false) (hok : answer = none)

theorem step_of_act {p : Sys × Option Answer} (h : act env s a = p) : step env s a = p.1 :=
  congrArg Prod.fst h

/-- A call that passes the checks comes to its first statement. -/
theorem act_receive {now : Timestamp} {req : Request} {fault : Fault} {hook : Hook}
    (hcheck : check env now req = .ok hook) :
    act env s (.receive now req fault) = receiveHook env s hook fault := by
  simp only [act, hcheck]

theorem effect_receive (env : Env) (s : Sys) (now : Timestamp) (req : Request) (fault : Fault) :
    Effect env s (.receive now req fault) (act env s (.receive now req fault)).1
      (act env s (.receive now req fault)).2 := by
  cases hcheck : check env now req with
  | error e =>
      simp only [act, hcheck]
      refine .kept rfl (fun event => ?_) (by simp)
      cases fault <;> simp [interrupts, hcheck]
  | ok hook =>
      have hhex := check_eq_ok hcheck
      simp only [act_receive hcheck, receiveHook]
      cases hins : insertReceipt hook s.db with
      | error e =>
          refine .kept rfl (fun event => ?_) (by simp)
          cases fault with
          | fine => rfl
          | refused => rfl
          | lost =>
              have hpk : (s.db.relay_webhook_receipts.find? hook.delivery_id).isSome = true := by
                unfold insertReceipt at hins
                split at hins
                · cases hins
                · split at hins
                  · assumption
                  · cases hins
              obtain ⟨r, hr⟩ := Option.isSome_iff_exists.1 hpk
              simp [interrupts, hcheck, hr]
      | ok p =>
          obtain ⟨inserted, db⟩ := p
          rcases insertReceipt_eq_ok hins with ⟨rfl, rfl, hrec⟩ | ⟨rfl, hrec, hpk, -⟩
          · refine .kept ?_ (fun event => ?_) ?_
            · cases fault <;> rfl
            · cases fault with
              | fine => rfl
              | refused => rfl
              | lost =>
                  by_cases he : hook.body.outer_event_id = event
                  · subst he
                    simp [interrupts, hcheck, hrec]
                  · simp [interrupts, hcheck, he]
            · intro hook' h
              cases fault <;> simp at h
              subst h
              exact ⟨hhex, hrec⟩
          · cases fault with
            | refused => exact .kept rfl (fun _ => rfl) (by simp)
            | lost =>
                refine .inserted now req .lost hook db rfl (by simp) hcheck hins (by simp)
                  (fun event => ?_) (by simp)
                by_cases he : hook.body.outer_event_id = event
                · subst he
                  simp [interrupts, hcheck, hrec, hpk]
                · simp [interrupts, hcheck, he]
            | fine =>
                refine .inserted now req .fine hook db rfl (by simp) hcheck hins ?_ (by simp [interrupts]) ?_
                · cases env.chat_push_enabled <;> simp
                · cases env.chat_push_enabled <;> simp [eq_comm]

/-- **Every action is a step of one of these kinds.** -/
theorem effect (env : Env) (s : Sys) (a : Act) : Effect env s a (act env s a).1 (act env s a).2 := by
  cases a with
  | receive now req fault => exact effect_receive env s now req fault
  | resume n fault =>
      cases hn : s.pending.find? n with
      | none =>
          simp only [act, hn]
          refine .kept rfl (fun event => ?_) (by simp)
          cases fault <;> simp [interrupts, hn]
      | some hook =>
          simp only [act, hn]
          refine .resumed n fault hook hn ?_ (fun event => ?_) ?_
          · cases fault <;> rfl
          · cases fault <;> simp [interrupts, hn]
          · cases fault <;> simp [eq_comm]
  | subscribe id pubkey =>
      exact .changed _ rfl rfl (fun key d => by simp) (fun _ => rfl) rfl
  | unsubscribe id =>
      refine .changed _ rfl rfl (fun key d => ?_) (fun _ => rfl) rfl
      simp [Option.filter_eq_some_iff]
  | prefer pubkey enabled =>
      exact .changed _ rfl rfl (fun key d => by simp) (fun _ => rfl) rfl

/-! ### The invariant -/

/-- What holds after every run: a call under way has its receipt, is the only one of its event,
and no delivery of the event exists yet. -/
structure Inv (s : Sys) : Prop where
  numbered : ∀ n hook, s.pending.find? n = some hook → n < s.next
  valid : ∀ n hook, s.pending.find? n = some hook →
    isHex 64 hook.body.outer_event_id = true ∧ s.db.received hook.body.outer_event_id = true
  unique : ∀ n m hook hook', s.pending.find? n = some hook → s.pending.find? m = some hook' →
    hook.body.outer_event_id = hook'.body.outer_event_id → n = m
  rows : ∀ key d, s.db.chat_push_deliveries.find? key = some d →
    ∃ event, isHex 64 event = true ∧ key = dedupeKey event d.subscription_id ∧
      s.db.received event = true ∧
      ∀ n hook, s.pending.find? n = some hook → hook.body.outer_event_id ≠ event

theorem inv_init : Inv Sys.init where
  numbered := by simp [Sys.init]
  valid := by simp [Sys.init]
  unique := by simp [Sys.init]
  rows := by simp [Sys.init]

/-- A call that is left was there. -/
theorem find?_filter_ne {t : Table ℕ Hook} {n m : ℕ} {hook : Hook} :
    (t.filter fun m _ => decide (m ≠ n)).find? m = some hook ↔
      t.find? m = some hook ∧ m ≠ n := by
  simp [Option.filter_eq_some_iff]

/-- No call is under way for an event without a receipt. -/
theorem Inv.event_ne (hi : Inv s) (hfresh : s.db.received event = false) {n : ℕ} {hook : Hook}
    (hn : s.pending.find? n = some hook) : hook.body.outer_event_id ≠ event := by
  rintro rfl
  rw [(hi.valid n hook hn).2] at hfresh
  cases hfresh

/-- A new call has a number of its own. -/
theorem Inv.find?_insert (hi : Inv s) {hook hook' : Hook} {n : ℕ} :
    (s.pending.insert s.next hook).find? n = some hook' ↔
      n = s.next ∧ hook' = hook ∨ s.pending.find? n = some hook' := by
  have hnext : s.pending.find? s.next = none := by
    refine Option.eq_none_iff_forall_ne_some.2 fun hook' hn => ?_
    exact absurd (hi.numbered _ _ hn) (lt_irrefl _)
  rw [Table.find?_insert, hnext]
  split
  · rename_i hn
    simp [hn, hnext, eq_comm]
  · rename_i hn
    simp [hn]

/-- A database with no fewer receipts and no more deliveries keeps the invariant. -/
theorem Inv.changed (hi : Inv s) {db : Db}
    (hrec : ∀ event, s.db.received event = true → db.received event = true)
    (hrows : ∀ key d, db.chat_push_deliveries.find? key = some d →
      s.db.chat_push_deliveries.find? key = some d) : Inv { s with db := db } where
  numbered := hi.numbered
  valid n hook hn := ⟨(hi.valid n hook hn).1, hrec _ (hi.valid n hook hn).2⟩
  unique := hi.unique
  rows key d hd := by
    obtain ⟨event, hhex, hkey, hold, hnone⟩ := hi.rows key d (hrows key d hd)
    exact ⟨event, hhex, hkey, hrec event hold, hnone⟩

/-- The call that inserted the receipt of an event keeps the invariant. -/
theorem Inv.started (hi : Inv s) {hook : Hook} {db : Db}
    (hhex : isHex 64 hook.body.outer_event_id = true)
    (hins : insertReceipt hook s.db = .ok (true, db)) :
    Inv { db := db, pending := s.pending.insert s.next hook, next := s.next + 1 } := by
  obtain ⟨hfresh, hrows, hrec⟩ := insertReceipt_eq_true hins
  refine ⟨fun n hook' hn => ?_, fun n hook' hn => ?_, fun n m h₁ h₂ hn hm he => ?_,
    fun key d hd => ?_⟩
  · rcases hi.find?_insert.1 hn with ⟨rfl, _⟩ | hn
    · exact Nat.lt_succ_self _
    · exact Nat.lt_succ_of_lt (hi.numbered n hook' hn)
  · rcases hi.find?_insert.1 hn with ⟨_, rfl⟩ | hn
    · exact ⟨hhex, (hrec _).2 (Or.inr rfl)⟩
    · exact ⟨(hi.valid n hook' hn).1, (hrec _).2 (Or.inl (hi.valid n hook' hn).2)⟩
  · rcases hi.find?_insert.1 hn with ⟨rfl, rfl⟩ | hold <;>
      rcases hi.find?_insert.1 hm with ⟨rfl, rfl⟩ | hold'
    · rfl
    · exact absurd he.symm (hi.event_ne hfresh hold')
    · exact absurd he (hi.event_ne hfresh hold)
    · exact hi.unique n m h₁ h₂ hold hold' he
  · simp only [hrows] at hd
    obtain ⟨event, hhex, hkey, hold, hnone⟩ := hi.rows key d hd
    refine ⟨event, hhex, hkey, (hrec _).2 (Or.inl hold), fun n hook' hn he => ?_⟩
    rcases hi.find?_insert.1 hn with ⟨_, rfl⟩ | hn
    · rw [he, hold] at hfresh
      cases hfresh
    · exact hnone n hook' hn he

/-- The call that ends keeps the invariant: the deliveries it adds are of its event, of which
no other call is under way. -/
theorem Inv.resumed (hi : Inv s) {n : ℕ} {hook : Hook} (hn : s.pending.find? n = some hook)
    {db : Db} (hrec : ∀ event, db.received event = s.db.received event)
    (hrows : ∀ key d, db.chat_push_deliveries.find? key = some d →
      s.db.chat_push_deliveries.find? key = some d ∨
        key = dedupeKey hook.body.outer_event_id d.subscription_id) :
    Inv { s with db := db, pending := s.pending.filter fun m _ => decide (m ≠ n) } := by
  refine ⟨fun m hook' hm => ?_, fun m hook' hm => ?_, fun m m' h₁ h₂ hm hm' he => ?_,
    fun key d hd => ?_⟩
  · exact hi.numbered m hook' (find?_filter_ne.1 hm).1
  · simp only [hrec]
    exact hi.valid m hook' (find?_filter_ne.1 hm).1
  · exact hi.unique m m' h₁ h₂ (find?_filter_ne.1 hm).1 (find?_filter_ne.1 hm').1 he
  · simp only [hrec]
    rcases hrows key d hd with hd | hkey
    · obtain ⟨event, hhex, hkey, hrow, hnone⟩ := hi.rows key d hd
      exact ⟨event, hhex, hkey, hrow, fun m hook' hm => hnone m hook' (find?_filter_ne.1 hm).1⟩
    · obtain ⟨hhex, hrow⟩ := hi.valid n hook hn
      refine ⟨_, hhex, hkey, hrow, fun m hook' hm he => ?_⟩
      obtain ⟨hm, hne⟩ := find?_filter_ne.1 hm
      exact hne (hi.unique m n hook' hook hm hn he)

/-- **One step keeps the invariant.** -/
theorem Inv.step (hi : Inv s) (env : Env) (a : Act) : Inv (step env s a) := by
  unfold RelayHooks.step
  cases effect env s a with
  | kept hs _ _ => rwa [hs]
  | changed db hs hreceipts hrows _ _ =>
      rw [hs]
      refine hi.changed (fun event hrec => ?_) fun key d hd => ((hrows key d).1 hd).1
      unfold Db.received at hrec ⊢
      rwa [hreceipts]
  | inserted now req fault hook db _ _ hcheck hins hs _ _ =>
      obtain ⟨_, hrows, hrec⟩ := insertReceipt_eq_true hins
      rw [hs]
      split
      · exact hi.started (check_eq_ok hcheck) hins
      · exact hi.changed (fun event hold => (hrec event).2 (Or.inl hold)) fun key d hd => hrows ▸ hd
  | resumed n fault hook hn hs _ _ =>
      rw [hs]
      refine hi.resumed hn (fun event => by split <;> rfl) fun key d hd => ?_
      split at hd
      · exact Or.inl hd
      · exact (find?_addDelivery hd).imp_right And.right

/-! ### The life of an event -/

/-- An unfailed call for the recipient would create the delivery to the subscription. -/
def Wanted (env : Env) (db : Db) (recipient : Pubkey) (sub : Uuid) : Prop :=
  env.chat_push_enabled = true ∧ sub ∈ db.targets recipient

instance (env : Env) (db : Db) (recipient : Pubkey) (sub : Uuid) :
    Decidable (Wanted env db recipient sub) := by
  unfold Wanted
  infer_instance

/-- A call for the event is under way. -/
def Sys.underWay (s : Sys) (event : String) : Prop :=
  ∃ n hook, s.pending.find? n = some hook ∧ hook.body.outer_event_id = event

/-- The action is no call for the event with another recipient. -/
def SameRecipient (env : Env) (event : String) (recipient : Pubkey) (a : Act) : Prop :=
  ∀ now req fault hook, a = .receive now req fault → check env now req = .ok hook →
    hook.body.outer_event_id = event → hook.body.recipient_p = recipient

/-- Where an event is in its life, and what has become of its delivery to a subscription;
`quiet` says that nothing interrupted it. -/
inductive Stage (event : String) (recipient : Pubkey) (sub : Uuid) (s : Sys) (quiet : Prop) : Prop
  | fresh (hrec : s.db.received event = false) (hquiet : quiet)
  | underWay (n : ℕ) (hook : Hook) (hn : s.pending.find? n = some hook)
      (he : hook.body.outer_event_id = event) (hr : hook.body.recipient_p = recipient)
      (hquiet : quiet)
  | settled (hrec : s.db.received event = true) (hnone : ¬ s.underWay event)
      (hiff : s.db.delivered event sub = true ↔ quiet)

/-- A delivery that exists is one of an event that has its receipt and no call under way. -/
theorem Inv.of_delivered (hi : Inv s) (hhex : isHex 64 event = true)
    (h : s.db.delivered event sub = true) :
    s.db.received event = true ∧ ¬ s.underWay event ∧ ∃ d,
      s.db.chat_push_deliveries.find? (dedupeKey event sub) = some d ∧ d.subscription_id = sub := by
  obtain ⟨d, hd⟩ := Option.isSome_iff_exists.1 h
  obtain ⟨event', hhex', hkey, hrec, hnone⟩ := hi.rows _ d hd
  obtain ⟨rfl, rfl⟩ := (dedupeKey_inj hhex hhex').1 hkey
  exact ⟨hrec, fun ⟨n, hook, hn, he⟩ => hnone n hook hn he, d, hd, rfl⟩

/-- The subscription is there while it is wanted. -/
theorem mem_of_wanted {recipient : Pubkey} (h : Wanted env db recipient sub) :
    db.push_subscriptions.find? sub = some recipient := by
  obtain ⟨r, hr, rfl⟩ := List.mem_map.1 h.2
  obtain ⟨hmem, hp⟩ := List.mem_filter.1 hr
  have he : r.2 = recipient := by
    simpa using (Bool.and_eq_true_iff.1 hp).1
  exact he ▸ Table.find?_eq_some_iff.2 hmem

variable {recipient : Pubkey} {quiet : Prop}

/-- What leaves the receipt, the calls and the delivery of an event leaves it where it is. -/
theorem Stage.frame {s' : Sys} (h : Stage event recipient sub s quiet)
    (hrec : s'.db.received event = s.db.received event)
    (hpending : ∀ n hook, hook.body.outer_event_id = event →
      (s'.pending.find? n = some hook ↔ s.pending.find? n = some hook))
    (hdel : s'.db.delivered event sub = true ↔ s.db.delivered event sub = true) :
    Stage event recipient sub s' quiet := by
  cases h with
  | fresh hold hquiet => exact .fresh (hrec.trans hold) hquiet
  | underWay n hook hn he hr hquiet => exact .underWay n hook ((hpending n hook he).2 hn) he hr hquiet
  | settled hold hnone hiff =>
      refine .settled (hrec.trans hold) ?_ (hdel.trans hiff)
      rintro ⟨n, hook, hn, he⟩
      exact hnone ⟨n, hook, (hpending n hook he).1 hn, he⟩

/-- What other routes change leaves an event where it is. -/
theorem stage_changed {db : Db} (hi : Inv s) (hhex : isHex 64 event = true)
    (hw' : Wanted env (act env s a).1.db recipient sub) (hs : (act env s a).1 = { s with db := db })
    (hreceipts : db.relay_webhook_receipts = s.db.relay_webhook_receipts)
    (hrows : ∀ key d, db.chat_push_deliveries.find? key = some d ↔
      s.db.chat_push_deliveries.find? key = some d ∧
        ∀ id, a = .unsubscribe id → d.subscription_id ≠ id)
    (h : Stage event recipient sub s quiet) :
    Stage event recipient sub (act env s a).1 quiet := by
  have hdel : db.delivered event sub = true ↔ s.db.delivered event sub = true := by
    unfold Db.delivered
    simp only [Option.isSome_iff_exists, hrows]
    constructor
    · rintro ⟨d, hd, _⟩
      exact ⟨d, hd⟩
    · rintro ⟨d, hd⟩
      refine ⟨d, hd, fun id hact hid => ?_⟩
      -- the subscription was not deleted, since it is still wanted
      obtain ⟨_, _, d', hd', hsub⟩ := hi.of_delivered hhex (Option.isSome_iff_exists.2 ⟨d, hd⟩)
      obtain rfl := Option.some.inj (hd.symm.trans hd')
      have hsome := mem_of_wanted hw'
      subst hact
      simp [act, ← hid, hsub] at hsome
  rw [hs]
  refine h.frame ?_ (fun _ _ _ => Iff.rfl) hdel
  unfold Db.received
  dsimp only
  rw [hreceipts]

/-- A receipt begins the life of its event: a call is under way, or it failed. -/
theorem stage_received {db : Db} {fault : Fault} {hook : Hook} (hi : Inv s)
    (hhex : isHex 64 hook.body.outer_event_id = true) (hw : Wanted env s.db hook.body.recipient_p sub)
    (hfault : fault ≠ .refused) (hins : insertReceipt hook s.db = .ok (true, db))
    (h : Stage hook.body.outer_event_id hook.body.recipient_p sub s quiet) :
    Stage hook.body.outer_event_id hook.body.recipient_p sub
      (if fault = .fine ∧ env.chat_push_enabled = true then
        { db := db, pending := s.pending.insert s.next hook, next := s.next + 1 }
      else { s with db := db }) (quiet ∧ fault ≠ .lost) := by
  obtain ⟨hfresh, hrows, hrec⟩ := insertReceipt_eq_true hins
  cases h with
  | fresh _ hquiet =>
      cases fault with
      | refused => exact absurd rfl hfault
      | fine =>
          rw [if_pos ⟨rfl, hw.1⟩]
          exact .underWay s.next hook (hi.find?_insert.2 (Or.inl ⟨rfl, rfl⟩)) rfl rfl
            ⟨hquiet, by simp⟩
      | lost =>
          rw [if_neg (by simp)]
          refine .settled ((hrec _).2 (Or.inr rfl)) ?_ (iff_of_false (fun hd => ?_) fun hq => hq.2 rfl)
          · rintro ⟨n, hook', hn, he⟩
            exact hi.event_ne hfresh hn he
          · unfold Db.delivered at hd
            rw [hrows] at hd
            rw [(hi.of_delivered hhex hd).1] at hfresh
            cases hfresh
  | underWay n hook' hn he _ _ => exact absurd he (hi.event_ne hfresh hn)
  | settled hold _ _ =>
      rw [hfresh] at hold
      cases hold

/-- A receipt does nothing to another event. -/
theorem stage_other {db : Db} {fault : Fault} {hook : Hook} (hi : Inv s)
    (hins : insertReceipt hook s.db = .ok (true, db)) (he : hook.body.outer_event_id ≠ event)
    (h : Stage event recipient sub s quiet) :
    Stage event recipient sub
      (if fault = .fine ∧ env.chat_push_enabled = true then
        { db := db, pending := s.pending.insert s.next hook, next := s.next + 1 }
      else { s with db := db }) quiet := by
  obtain ⟨_, hrows, hrec⟩ := insertReceipt_eq_true hins
  have hrec' : db.received event = s.db.received event := by
    rw [Bool.eq_iff_iff, hrec]
    simp [Ne.symm he]
  have hdel : db.delivered event sub = true ↔ s.db.delivered event sub = true := by
    unfold Db.delivered
    rw [hrows]
  split
  · refine h.frame hrec' (fun n hook' he' => ?_) hdel
    rw [hi.find?_insert, or_iff_right]
    rintro ⟨_, rfl⟩
    exact he he'
  · exact h.frame hrec' (fun _ _ _ => Iff.rfl) hdel

/-- The insertion of a receipt, in the life of any event. -/
theorem stage_inserted {db : Db} {now : Timestamp} {req : Request} {fault : Fault} {hook : Hook}
    (hi : Inv s) (hhex : isHex 64 event = true) (hw : Wanted env s.db recipient sub)
    (hsame : SameRecipient env event recipient a) (hact : a = .receive now req fault)
    (hfault : fault ≠ .refused) (hcheck : check env now req = .ok hook)
    (hins : insertReceipt hook s.db = .ok (true, db))
    (hs : (act env s a).1 = if fault = .fine ∧ env.chat_push_enabled = true then
        { db := db, pending := s.pending.insert s.next hook, next := s.next + 1 }
      else { s with db := db })
    (hint : ∀ event, interrupts env event s a = true ↔
      fault = .lost ∧ hook.body.outer_event_id = event)
    (h : Stage event recipient sub s quiet) :
    Stage event recipient sub (act env s a).1 (quiet ∧ interrupts env event s a = false) := by
  rw [hs, ← Bool.not_eq_true, hint]
  by_cases he : hook.body.outer_event_id = event
  · subst he
    obtain rfl := hsame now req fault hook hact hcheck rfl
    simpa using stage_received hi hhex hw hfault hins h
  · simpa [he] using stage_other hi hins he h

/-- The second statement of a call settles its event. -/
theorem stage_ended {n : ℕ} {fault : Fault} {hook : Hook} (hi : Inv s)
    (hw : Wanted env s.db recipient sub) (hn : s.pending.find? n = some hook)
    (h : Stage hook.body.outer_event_id recipient sub s quiet) :
    Stage hook.body.outer_event_id recipient sub
      { s with
        db := if fault = .refused then s.db else enqueue hook s.db
        pending := s.pending.filter fun m _ => decide (m ≠ n) } (quiet ∧ fault ≠ .refused) := by
  obtain ⟨hhook, hrec⟩ := hi.valid n hook hn
  cases h with
  | fresh hold _ =>
      rw [hrec] at hold
      cases hold
  | settled _ hold _ => exact absurd ⟨n, hook, hn, rfl⟩ hold
  | underWay m hook' hm he' hr hquiet =>
      obtain rfl := hi.unique n m hook hook' hn hm he'.symm
      obtain rfl := Option.some.inj (hn.symm.trans hm)
      refine .settled ?_ ?_ ?_
      · dsimp only
        split <;> exact hrec
      · rintro ⟨m, hook', hm, he⟩
        obtain ⟨hm, hne⟩ := find?_filter_ne.1 hm
        exact hne (hi.unique m n hook' hook hm hn he)
      · dsimp only
        split
        · rename_i hf
          refine iff_of_false (fun hd => ?_) fun hq => hq.2 hf
          exact (hi.of_delivered hhook hd).2.1 ⟨n, hook, hn, rfl⟩
        · rename_i hf
          have hmem := hw.2
          rw [← hr] at hmem
          rw [delivered_enqueue hhook hhook]
          exact iff_of_true (Or.inr ⟨rfl, hmem⟩) ⟨hquiet, hf⟩

/-- The second statement of a call, in the life of any event. -/
theorem stage_resumed {n : ℕ} {fault : Fault} {hook : Hook} (hi : Inv s)
    (hhex : isHex 64 event = true) (hw : Wanted env s.db recipient sub)
    (hn : s.pending.find? n = some hook)
    (hs : (act env s a).1 = { s with
      db := if fault = .refused then s.db else enqueue hook s.db
      pending := s.pending.filter fun m _ => decide (m ≠ n) })
    (hint : ∀ event, interrupts env event s a = true ↔
      fault = .refused ∧ hook.body.outer_event_id = event)
    (h : Stage event recipient sub s quiet) :
    Stage event recipient sub (act env s a).1 (quiet ∧ interrupts env event s a = false) := by
  rw [hs, ← Bool.not_eq_true, hint]
  by_cases he : hook.body.outer_event_id = event
  · subst he
    simpa using stage_ended hi hw hn h
  · -- the call of another event
    have hframe : Stage event recipient sub
        { s with
          db := if fault = .refused then s.db else enqueue hook s.db
          pending := s.pending.filter fun m _ => decide (m ≠ n) } quiet := by
      refine h.frame ?_ (fun m hook' he' => ?_) ?_
      · dsimp only
        split <;> rfl
      · refine find?_filter_ne.trans (and_iff_left_of_imp fun hm => ?_)
        rintro rfl
        obtain rfl := Option.some.inj (hn.symm.trans hm)
        exact he he'
      · dsimp only
        split
        · rfl
        · rw [delivered_enqueue (hi.valid n hook hn).1 hhex]
          simp [Ne.symm he]
    simpa [he] using hframe

/-- **One step in the life of an event.** -/
theorem stage_step (hi : Inv s) (hhex : isHex 64 event = true)
    (hw : Wanted env s.db recipient sub) (hw' : Wanted env (step env s a).db recipient sub)
    (hsame : SameRecipient env event recipient a) (h : Stage event recipient sub s quiet) :
    Stage event recipient sub (step env s a) (quiet ∧ interrupts env event s a = false) := by
  unfold step at hw' ⊢
  cases effect env s a with
  | kept hs hint _ =>
      rw [hs, hint]
      simpa using h
  | changed db hs hreceipts hrows hint _ =>
      rw [hint]
      simpa using stage_changed hi hhex hw' hs hreceipts hrows h
  | inserted now req fault hook db hact hfault hcheck hins hs hint _ =>
      exact stage_inserted hi hhex hw hsame hact hfault hcheck hins hs hint h
  | resumed n fault hook hn hs hint _ => exact stage_resumed hi hhex hw hn hs hint h

/-! ### Runs -/

/-- **The invariant holds after every run.** -/
theorem inv_run (env : Env) (as : List Act) : Inv (run (step env) Sys.init as) :=
  run_induction inv_init (fun _ a hi => hi.step env a) as

/-- Receipts stay. -/
theorem received_step (env : Env) (a : Act) (h : s.db.received event = true) :
    (step env s a).db.received event = true := by
  unfold step
  cases effect env s a with
  | kept hs _ _ => rwa [hs]
  | changed db hs hreceipts _ _ _ =>
      rw [hs]
      unfold Db.received at h ⊢
      rwa [hreceipts]
  | inserted now req fault hook db _ _ _ hins hs _ _ =>
      obtain ⟨_, _, hrec⟩ := insertReceipt_eq_true hins
      rw [hs]
      split <;> exact (hrec event).2 (Or.inl h)
  | resumed n fault hook _ hs _ _ =>
      rw [hs]
      dsimp only
      split <;> exact h

theorem received_run (env : Env) (as : List Act) (h : s.db.received event = true) :
    (run (step env) s as).db.received event = true :=
  run_induction (P := fun s : Sys => s.db.received event = true) h
    (fun _ a h => received_step env a h) as

/-- The step answers a call for the event with `200`. -/
def Answered (env : Env) (event : String) (e : Event Sys Act) : Prop :=
  ∃ hook, (act env e.pre e.act).2 = some (.ok hook) ∧ hook.body.outer_event_id = event

/-- An event that is answered has its receipt. -/
theorem received_of_answered (hi : Inv s) {hook : Hook} (h : (act env s a).2 = some (.ok hook)) :
    isHex 64 hook.body.outer_event_id = true ∧
      (step env s a).db.received hook.body.outer_event_id = true := by
  cases effect env s a with
  | kept hs _ hok =>
      obtain ⟨hhex, hrec⟩ := hok hook h
      exact ⟨hhex, received_step env a hrec⟩
  | changed _ _ _ _ _ hok =>
      rw [hok] at h
      cases h
  | inserted now req fault hook' db _ _ hcheck hins hs _ hok =>
      obtain rfl := hok hook h
      obtain ⟨_, _, hrec⟩ := insertReceipt_eq_true hins
      refine ⟨check_eq_ok hcheck, ?_⟩
      unfold step
      rw [hs]
      split <;> exact (hrec _).2 (Or.inr rfl)
  | resumed n fault hook' hn _ _ hok =>
      obtain rfl := hok hook h
      obtain ⟨hhex, hrec⟩ := hi.valid n hook hn
      exact ⟨hhex, received_step env a hrec⟩

/-- **The life of an event over a run.** -/
theorem stage_run (hi : Inv s) (hhex : isHex 64 event = true)
    (hfresh : s.db.received event = false) (as : List Act)
    (hsame : ∀ a ∈ as, SameRecipient env event recipient a)
    (hw : ∀ e ∈ events (step env) s as,
      Wanted env e.pre.db recipient sub ∧ Wanted env e.post.db recipient sub) :
    Stage event recipient sub (run (step env) s as)
      (∀ e ∈ events (step env) s as, interrupts env event e.pre e.act = false) := by
  suffices h : ∀ quiet : Prop, Stage event recipient sub s quiet →
      Stage event recipient sub (run (step env) s as)
        (quiet ∧ ∀ e ∈ events (step env) s as, interrupts env event e.pre e.act = false) by
    simpa using h True (.fresh hfresh trivial)
  clear hfresh
  induction as generalizing s with
  | nil =>
      intro quiet h
      simpa using h
  | cons a as ih =>
      intro quiet h
      rw [List.forall_mem_cons] at hsame
      rw [events_cons, List.forall_mem_cons] at hw
      rw [run_cons, events_cons, List.forall_mem_cons, ← and_assoc]
      exact ih (hi.step env a) hsame.2 hw.2 _ (stage_step hi hhex hw.1.1 hw.1.2 hsame.1 h)

/-- Once an event has its receipt and no call under way, nothing is delivered any more. -/
theorem settled_step (env : Env) (sub : Uuid) (hi : Inv s) (hhex : isHex 64 event = true)
    (hrec : s.db.received event = true) (hnone : ¬ s.underWay event) (a : Act) :
    ¬ (step env s a).underWay event ∧
      ((step env s a).db.delivered event sub = true → s.db.delivered event sub = true) := by
  unfold step
  cases effect env s a with
  | kept hs _ _ =>
      rw [hs]
      exact ⟨hnone, id⟩
  | changed db hs _ hrows _ _ =>
      rw [hs]
      refine ⟨hnone, fun h => ?_⟩
      obtain ⟨d, hd⟩ := Option.isSome_iff_exists.1 h
      exact Option.isSome_iff_exists.2 ⟨d, ((hrows _ d).1 hd).1⟩
  | inserted now req fault hook db _ _ _ hins hs _ _ =>
      obtain ⟨hfresh, hrows, _⟩ := insertReceipt_eq_true hins
      have hdel : db.delivered event sub = s.db.delivered event sub := by
        unfold Db.delivered
        rw [hrows]
      rw [hs]
      split
      · refine ⟨?_, fun h => hdel ▸ h⟩
        rintro ⟨n, hook', hn, he⟩
        rcases hi.find?_insert.1 hn with ⟨_, rfl⟩ | hn
        · rw [he, hrec] at hfresh
          cases hfresh
        · exact hnone ⟨n, hook', hn, he⟩
      · exact ⟨hnone, fun h => hdel ▸ h⟩
  | resumed n fault hook hn hs _ _ =>
      have hne : event ≠ hook.body.outer_event_id := by
        rintro rfl
        exact hnone ⟨n, hook, hn, rfl⟩
      rw [hs]
      refine ⟨?_, fun h => ?_⟩
      · rintro ⟨m, hook', hm, he⟩
        exact hnone ⟨m, hook', (find?_filter_ne.1 hm).1, he⟩
      · dsimp only at h
        split at h
        · exact h
        · rcases (delivered_enqueue (hi.valid n hook hn).1 hhex).1 h with h | ⟨he, _⟩
          · exact h
          · exact absurd he hne

/-- **Repeats create nothing.** -/
theorem settled_run (hi : Inv s) (hhex : isHex 64 event = true)
    (hrec : s.db.received event = true) (hnone : ¬ s.underWay event) (as : List Act)
    (h : (run (step env) s as).db.delivered event sub = true) :
    s.db.delivered event sub = true := by
  induction as generalizing s with
  | nil => exact h
  | cons a as ih =>
      obtain ⟨hnone', hback⟩ := settled_step env sub hi hhex hrec hnone a
      exact hback (ih (hi.step env a) (received_step env a hrec) hnone' h)

/-- **A webhook that failed and was retried is delivered exactly when nothing interrupted it.**
The run `as` leads to where the event has no receipt, in the run `bs` calls for it are
made, one at least is answered with `200`, and in the end none is under way.  What an
unfailed call would have created all along exists exactly when no step of `bs`
interrupted the event, and from then on no run creates a delivery. -/
theorem webhook_survives_iff (env : Env) (as bs : List Act) (event : String) (recipient : Pubkey)
    (hfresh : (run (step env) Sys.init as).db.received event = false)
    (hsame : ∀ a ∈ bs, SameRecipient env event recipient a)
    (hok : ∃ e ∈ events (step env) (run (step env) Sys.init as) bs, Answered env event e)
    (hquiet : ¬ (run (step env) Sys.init (as ++ bs)).underWay event) :
    (∀ sub, (∀ e ∈ events (step env) (run (step env) Sys.init as) bs,
        Wanted env e.pre.db recipient sub ∧ Wanted env e.post.db recipient sub) →
      ((run (step env) Sys.init (as ++ bs)).db.delivered event sub = true ↔
        ∀ e ∈ events (step env) (run (step env) Sys.init as) bs,
          interrupts env event e.pre e.act = false)) ∧
    ∀ cs sub, (run (step env) Sys.init (as ++ bs ++ cs)).db.delivered event sub = true →
      (run (step env) Sys.init (as ++ bs)).db.delivered event sub = true := by
  obtain ⟨e, he, hook, hans, rfl⟩ := hok
  obtain ⟨cs, ds, hbs, hpre, hpost⟩ := mem_events he
  have hi := inv_run env as
  have hi' : Inv e.pre := by
    rw [hpre, ← run_append]
    exact inv_run env (as ++ cs)
  obtain ⟨hhex, hrec⟩ := received_of_answered hi' hans
  have hend : (run (step env) Sys.init (as ++ bs)).db.received hook.body.outer_event_id = true := by
    rw [hbs, run_append, run_append, run_cons, ← hpre]
    exact received_run env ds hrec
  refine ⟨fun sub hw => ?_, fun cs sub h => ?_⟩
  · rw [run_append] at hquiet hend ⊢
    cases stage_run hi hhex hfresh bs hsame hw with
    | fresh hold _ =>
        rw [hend] at hold
        cases hold
    | underWay n hook' hn he _ _ => exact absurd ⟨n, hook', hn, he⟩ hquiet
    | settled _ _ hiff => exact hiff
  · rw [run_append] at h
    exact settled_run (inv_run env (as ++ bs)) hhex hend hquiet cs h

/-! ### Runs of one webhook -/

/-- The webhook of the runs below. -/
def sampleHook : Hook := ⟨"delivery", ⟨digits 64 'a', digits 64 'b', webhookKindGiftWrap⟩⟩

/-- Its body is the JSON text of `sampleHook.body`, signed under the key `relay`. -/
def sampleRequest : Request where
  signature := some "sha256=3b7be9f44dc4c9b85756cbe60c12980875e17bd2a78ce57d2a237b2a10dd852b"
  timestamp := some "1700000000"
  source := none
  delivery := some "delivery"
  body := ("\x7b\"outer_event_id\":\"" ++ digits 64 'a' ++ "\",\"recipient_p\":\"" ++ digits 64 'b'
    ++ "\",\"kind\":1059\x7d").toUTF8.toList

/-- A gateway with chat push, and what its libraries answer for `sampleRequest`. -/
def sampleEnv : Env where
  relay_webhook_secret := some "relay"
  relay_webhook_allowed_source := none
  chat_push_enabled := true
  hmac _ _ := [0x3b, 0x7b, 0xe9, 0xf4, 0x4d, 0xc4, 0xc9, 0xb8, 0x57, 0x56, 0xcb, 0xe6, 0x0c, 0x12,
    0x98, 0x08, 0x75, 0xe1, 0x7b, 0xd2, 0xa7, 0x8c, 0xe5, 0x7d, 0x2a, 0x23, 0x7b, 0x2a, 0x10, 0xdd,
    0x85, 0x2b]
  parse _ := some sampleHook.body

/-- The call arrives. -/
def sampleCall : Act := .receive (1700000000 * 1000000) sampleRequest .fine

theorem check_sample : check sampleEnv (1700000000 * 1000000) sampleRequest = .ok sampleHook := by
  decide

theorem act_sampleCall (s : Sys) :
    act sampleEnv s sampleCall = receiveHook sampleEnv s sampleHook .fine := by
  unfold sampleCall
  rw [act_receive check_sample]

theorem step_sampleCall (s : Sys) :
    step sampleEnv s sampleCall = (receiveHook sampleEnv s sampleHook .fine).1 :=
  step_of_act (act_sampleCall s)

/-- **A webhook is lost.**  Its receipt is in, its deliveries are refused and the call fails; the
retry is answered with `200`, and the delivery that the call would have created without
the failure does not exist. -/
theorem interrupted_webhook_lost :
    let s := run (step sampleEnv) Sys.init [.subscribe "s" (digits 64 'b'), sampleCall]
    let s' := step sampleEnv s (.resume 0 .refused)
    (act sampleEnv s (.resume 0 .refused)).2 = some (.error dbError) ∧
      (act sampleEnv s' sampleCall).2 = some (.ok sampleHook) ∧
      (step sampleEnv s' sampleCall).db.delivered (digits 64 'a') "s" = false ∧
      (step sampleEnv s (.resume 0 .fine)).db.delivered (digits 64 'a') "s" = true := by
  intro s s'
  simp only [s, s', run_cons, run_nil, step_sampleCall, act_sampleCall]
  decide

/-- The call arrives, and its receipt is refused. -/
def refusedCall : Act := .receive (1700000000 * 1000000) sampleRequest .refused

theorem step_refusedCall (s : Sys) :
    step sampleEnv s refusedCall = (receiveHook sampleEnv s sampleHook .refused).1 :=
  step_of_act (act_receive check_sample)

/-- The same webhook when its receipt is refused at first: the retry is carried out, and repeated. -/
theorem webhook_survives_sample :
    let as : List Act := [.subscribe "s" (digits 64 'b')]
    let bs : List Act := [refusedCall, sampleCall, .resume 0 .fine, sampleCall]
    (run (step sampleEnv) Sys.init (as ++ bs)).db.delivered (digits 64 'a') "s" = true ∧
      ∀ cs sub, (run (step sampleEnv) Sys.init (as ++ bs ++ cs)).db.delivered (digits 64 'a') sub =
          true → (run (step sampleEnv) Sys.init (as ++ bs)).db.delivered (digits 64 'a') sub = true := by
  intro as bs
  have hsame : ∀ a ∈ bs, SameRecipient sampleEnv (digits 64 'a') (digits 64 'b') a := by
    have hcall : ∀ fault, SameRecipient sampleEnv (digits 64 'a') (digits 64 'b')
        (.receive (1700000000 * 1000000) sampleRequest fault) := by
      intro fault' now req fault hook hact hcheck _
      obtain ⟨rfl, rfl, rfl⟩ := Act.receive.inj hact
      obtain rfl := Except.ok.inj (check_sample.symm.trans hcheck)
      rfl
    have hresume : SameRecipient sampleEnv (digits 64 'a') (digits 64 'b') (.resume 0 .fine) :=
      fun _ _ _ _ hact => nomatch hact
    simpa only [bs, List.forall_mem_cons] using
      ⟨hcall .refused, hcall .fine, hresume, hcall .fine, by simp⟩
  have hfresh : (run (step sampleEnv) Sys.init as).db.received (digits 64 'a') = false := by
    decide
  have hok : ∃ e ∈ events (step sampleEnv) (run (step sampleEnv) Sys.init as) bs,
      Answered sampleEnv (digits 64 'a') e := by
    refine ⟨_, List.mem_cons_of_mem _ (List.mem_cons_of_mem _ List.mem_cons_self), sampleHook, ?_, rfl⟩
    simp only [step_sampleCall, step_refusedCall]
    decide
  have hpending : (run (step sampleEnv) Sys.init (as ++ bs)).pending = Table.empty := by
    simp only [as, bs, run_append, run_cons, run_nil, step_sampleCall, step_refusedCall]
    decide
  have hquiet : ¬ (run (step sampleEnv) Sys.init (as ++ bs)).underWay (digits 64 'a') := by
    rintro ⟨n, hook, hn, _⟩
    rw [hpending] at hn
    cases hn
  obtain ⟨hiff, hrepeat⟩ :=
    webhook_survives_iff sampleEnv as bs (digits 64 'a') (digits 64 'b') hfresh hsame hok hquiet
  refine ⟨(hiff "s" ?_).2 ?_, hrepeat⟩
  · simp only [as, bs, events_cons, events_nil, run_cons, run_nil, step_sampleCall, step_refusedCall]
    decide
  · simp only [as, bs, events_cons, events_nil, run_cons, run_nil, step_sampleCall, step_refusedCall]
    simp only [List.forall_mem_cons, sampleCall, refusedCall, interrupts]
    simp

end RelayHooks
end SentinelMesh
