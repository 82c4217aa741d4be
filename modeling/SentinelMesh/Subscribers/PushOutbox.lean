/-
# The push outboxes

`push_outbox_worker.rs` and `chat_push_worker.rs` are two copies of one protocol over two
tables, `push_deliveries` and `chat_push_deliveries`: a worker claims a batch
with a lease, delivers it, and marks each row sent or failed.  The protocol is
`Lib.Outbox`; each worker's constants and statements are here, with the columns its
table has besides those of the protocol.

A delivery attempt is a request to a push provider, so its result is an input:
any result, after any time.  Rows are also deleted, with their subscription or
event and by the retention worker, and inserted by other parts of the gateway.

`deliveries_lifecycle` is the life of a row of either table, for any number of workers
and any interleaving of their statements and crashes.
-/

import SentinelMesh.Basic
import SentinelMesh.Lib.Outbox

namespace SentinelMesh
namespace Subscribers

open Lib Lib.Outbox

/-- The columns of `push_deliveries` that are not of the protocol. -/
structure PushDelivery where
  event_id : Uuid
  subscription_id : Uuid
  payload : String
  deriving DecidableEq, Repr

/-- `UNIQUE (event_id, subscription_id)`. -/
def PushDelivery.key (d : PushDelivery) : Uuid × Uuid := (d.event_id, d.subscription_id)

/-- The columns of `chat_push_deliveries` that are not of the protocol. -/
structure ChatPushDelivery where
  subscription_id : Uuid
  dedupe_key : String
  payload : String
  deriving DecidableEq, Repr

/-- `dedupe_key TEXT NOT NULL UNIQUE`. -/
def ChatPushDelivery.key (d : ChatPushDelivery) : String := d.dedupe_key

/-- Microseconds in a second. -/
def second : ℤ := 1000000

/-! ### The two workers -/

namespace PushOutboxWorker

def batchSize : ℕ := 50

def maxAttempts : ℕ := 8

/-- The constants in the statements of `push_outbox_worker.rs`: `claim config` is the claim
of `process_batch`, `markSent` and `markFailed config` are `mark_sent` and `mark_failed`. -/
def config : Config where
  batchSize := batchSize
  maxAttempts := maxAttempts
  maxAttempts_pos := by decide
  lease := 15 * 60 * second
  backoff n := min 3600 (2 ^ n) * second
  errorLength := 1000

end PushOutboxWorker

namespace ChatPushWorker

def batchSize : ℕ := 50

def maxAttempts : ℕ := 8

/-- The constants in the statements of `chat_push_worker.rs`, used in the same way. -/
def config : Config where
  batchSize := batchSize
  maxAttempts := maxAttempts
  maxAttempts_pos := by decide
  lease := 15 * 60 * second
  backoff n := min 3600 (2 ^ n) * second
  errorLength := 1000

end ChatPushWorker

/-! ### The life of a row -/

section Lifecycle

variable {α κ : Type} [DecidableEq κ]

/-- The worker is busy with the row and its lease is not over. -/
def Holds (cfg : Config) (s : System Uuid α Uuid) (w id : Uuid) : Prop :=
  ∃ f ∈ s.flights, f.worker = w ∧ f.id = id ∧ s.now - cfg.lease ≤ f.claimed_at

/-- The outbox after the actions `as`, from the empty table. -/
def outcome (cfg : Config) (key : α → κ) (as : List (Action Uuid α Uuid)) : System Uuid α Uuid :=
  run (Outbox.step cfg key) System.init as

/-- What the run of the actions `as` from the empty table does to its rows. -/
structure Lifecycle (cfg : Config) (key : α → κ) (as : List (Action Uuid α Uuid)) : Prop where
  /-- No step changes a row that is sent or dead; it can be deleted. -/
  terminal : ∀ id row, (outcome cfg key as).rows.find? id = some row →
    row.status = .sent ∨ row.status = .dead → ∀ bs, (∀ a ∈ bs, a ≠ .delete id) →
    (outcome cfg key (as ++ bs)).rows.find? id = some row
  /-- A row has an owner exactly while it is processed. -/
  owner : ∀ id row, (outcome cfg key as).rows.find? id = some row →
    (row.worker_id.isSome = true ↔ row.status = .processing)
  /-- The attempts are bounded. -/
  bounded : ∀ id row, (outcome cfg key as).rows.find? id = some row →
    row.attempts ≤ cfg.maxAttempts
  /-- The attempts are the failures recorded for the row. -/
  counted : ∀ id row, (outcome cfg key as).rows.find? id = some row →
    row.attempts = failures id (events (Outbox.step cfg key) System.init as)
  /-- A row is dead exactly when its attempts are used up. -/
  dead : ∀ id row, (outcome cfg key as).rows.find? id = some row →
    (row.status = .dead ↔ row.attempts = cfg.maxAttempts)
  /-- Two workers do not hold the same row. -/
  exclusive : ∀ w w' id, Holds cfg (outcome cfg key as) w id →
    Holds cfg (outcome cfg key as) w' id → w = w'
  /-- The one that holds the row is its owner. -/
  held : ∀ w id row, Holds cfg (outcome cfg key as) w id →
    (outcome cfg key as).rows.find? id = some row → row.worker_id = some w
  /-- A worker is busy with a row, another claims it, and anything happens while the first
  is busy: the result of the first changes nothing. -/
  late : ∀ w id, (outcome cfg key as).busy w id →
    ∀ (w' : Uuid) (ago : ℕ) (skip : Uuid → Bool) (answered : Bool), w' ∉ (outcome cfg key as).gone →
    (∀ f ∈ (outcome cfg key as).flights, f.worker ≠ w') →
    id ∈ selected cfg ((outcome cfg key as).now - ago) skip (outcome cfg key as).rows →
    ∀ bs, (∀ e ∈ events (Outbox.step cfg key)
        (outcome cfg key (as ++ [.claim w' ago skip answered])) bs, e.pre.busy w id) →
    ∀ result ago' reached,
      (outcome cfg key
        (as ++ [.claim w' ago skip answered] ++ bs ++ [.mark w id result ago' reached])).rows =
      (outcome cfg key (as ++ [.claim w' ago skip answered] ++ bs)).rows

/-- Every outbox has this life. -/
theorem lifecycle (cfg : Config) (key : α → κ) (as : List (Action Uuid α Uuid)) :
    Lifecycle cfg key as where
  terminal := by
    intro id row hrow hs bs hbs
    unfold outcome
    rw [run_append]
    exact find?_run_of_terminal (inv_run cfg key as) hrow hs bs hbs
  owner id row hrow := ((inv_run cfg key as).ok id row hrow).owned
  bounded id row hrow := ((inv_run cfg key as).ok id row hrow).bounded
  counted id row hrow := attempts_eq_failures cfg key as hrow
  dead id row hrow := ((inv_run cfg key as).ok id row hrow).dead
  exclusive := by
    rintro w w' id ⟨f, hf, rfl, rfl, hlive⟩ ⟨g, hg, rfl, hid, hlive'⟩
    rcases (inv_run cfg key as).exclusive f hf g hg hid.symm with h | h | h
    · exact h
    · exact absurd hlive (not_le.2 h)
    · exact absurd hlive' (not_le.2 h)
  held := by
    rintro w id row ⟨f, hf, rfl, rfl, hlive⟩ hrow
    rcases (inv_run cfg key as).held f hf row hrow with ⟨hw, _⟩ | h
    · exact hw
    · exact absurd hlive (not_le.2 h)
  late := by
    intro w id hbusy w' ago skip answered hgone hidle hsel bs hbs result ago' reached
    have hlost := lost_of_claim hbusy hgone hidle hsel key answered
    unfold outcome at hbs ⊢
    rw [run_concat] at hbs
    have hend := lost_run hlost bs hbs
    rw [run_concat, run_append, run_concat]
    exact rows_mark_of_lost hend result ago' reached

end Lifecycle

/-- **The push outbox lifecycle**, of `push_deliveries` and of `chat_push_deliveries`. -/
theorem deliveries_lifecycle (as : List (Action Uuid PushDelivery Uuid))
    (bs : List (Action Uuid ChatPushDelivery Uuid)) :
    Lifecycle PushOutboxWorker.config PushDelivery.key as ∧
      Lifecycle ChatPushWorker.config ChatPushDelivery.key bs :=
  ⟨lifecycle _ _ as, lifecycle _ _ bs⟩

/-- A worker that is late by a second finds the row with another owner. -/
example : ((outcome PushOutboxWorker.config PushDelivery.key
    [.enqueue "d" ⟨"e", "s", "null"⟩, .claim "v" 0 (fun _ => false) true, .tick 901000000,
      .claim "w" 0 (fun _ => false) true, .mark "v" "d" (.error "timeout") 0 true]).rows.find? "d").map
    (fun row => (row.status, row.worker_id, row.attempts)) = some (.processing, some "w", 0) := by
  decide

end Subscribers
end SentinelMesh
