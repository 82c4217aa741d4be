/-
# Machine events: ingestion

`handle_message` of `subscribers/event_subscriber.rs`, up to its commit.

The transaction first looks for the event of the newest pending signal in the cell
of the message and then, maybe much later, stages the message as one more signal of
that event, or of a new one.  It takes no lock on what it has read: what lies
between is the `Ingest` that `stage` is given.  Messages are broadcast after the
commit, which changes no table and is left out.
-/

import SentinelMesh.Nlp.Schema

namespace SentinelMesh
namespace Nlp

open Lib

/-- `RedisEventPayload`, as far as `handle_message` reads it. -/
structure RedisEventPayload where
  event_type : String
  severity : String
  title : String
  lat : ℚ
  lng : ℚ
  started_at : Timestamp
  summary : Option String := none
  place_name : Option String := none
  county : Option String := none
  source_id : Option String := none
  origin_channel : Option String := none
  created_at : Timestamp
  deriving DecidableEq

/-- `channel_or_unknown`. -/
def channelOrUnknown (origin_channel : Option String) : String := origin_channel.getD "unknown"

/-- `confidence_or_default`. -/
def confidenceOrDefault : ℚ := 1 / 2

/-- `CLUSTER_WINDOW_SECS`, in microseconds. -/
def clusterWindow : ℤ := 1800 * 1000000

/-- A message between the first statement of its transaction and the others: when it
began, and the event it found. -/
structure Ingest where
  event : RedisEventPayload
  began : Timestamp
  existing : Option Uuid
  deriving DecidableEq

/-- The signals step 1 selects from. -/
def Db.candidates (env : Env) (db : Db) (event : RedisEventPayload) (now : Timestamp) :
    List Signal :=
  db.signals.filter fun g =>
    decide (g.h3_r9 = (env.h3Cells event.lat event.lng).1 ∧ g.event_type = event.event_type ∧
      (g.trust_state = .pending ∨ g.trust_state = .corroborating) ∧
      now - clusterWindow < g.received_at)

/-- Step 1: `ORDER BY received_at DESC LIMIT 1` returns this, where rows may be equally
new. -/
def Db.finds (env : Env) (db : Db) (event : RedisEventPayload) (now : Timestamp) :
    Option Uuid → Bool
  | none => (db.candidates env event now).isEmpty
  | some id => (db.candidates env event now).any fun g => decide (g.event_id = id) &&
    (db.candidates env event now).all fun g' => decide (g'.received_at ≤ g.received_at)

/-- The row of a new event, where it satisfies the checks of the table. -/
def newEvent (event : RedisEventPayload) : Except DbError SafetyEvent := do
  ensure (decide (event.event_type ∈ eventTypes)) (.checkViolation "event_type")
  ensure (decide (-90 ≤ event.lat ∧ event.lat ≤ 90)) (.checkViolation "lat")
  ensure (decide (-180 ≤ event.lng ∧ event.lng ≤ 180)) (.checkViolation "lng")
  match Severity.parse event.severity with
  | none => .error (.checkViolation "severity")
  | some severity =>
    pure
      { event_type := event.event_type, severity, title := event.title, lat := event.lat
        lng := event.lng, started_at := event.started_at, summary := event.summary
        place_name := event.place_name, county := event.county, created_at := event.created_at }

/-- The row of a new signal. -/
def newSignal (env : Env) (i : Ingest) (event_id : Uuid) : Signal :=
  { event_id
    source_type := channelOrUnknown i.event.origin_channel
    source_id := i.event.source_id
    origin_channel := channelOrUnknown i.event.origin_channel
    emitted := i.event.origin_channel
    event_type := i.event.event_type
    severity := i.event.severity
    title := i.event.title
    summary := i.event.summary
    lat := i.event.lat
    lng := i.event.lng
    h3_r9 := (env.h3Cells i.event.lat i.event.lng).1
    h3_r7 := (env.h3Cells i.event.lat i.event.lng).2
    county := i.event.county
    place_name := i.event.place_name
    confidence := confidenceOrDefault
    received_at := i.began }

/-- Step 2: the event of the signal, which is a new one under `id` if none was found,
and the tier it is broadcast with. -/
def resolveEvent (i : Ingest) (id : Uuid) : Txn Db DbError (Uuid × TrustTier) := do
  let db ← get
  match i.existing with
  | some event_id =>
    let row ← Txn.fetch (db.events.find? event_id) .rowNotFound
    pure (event_id, row.trust_state)
  | none =>
    let row ← Txn.ofExcept (newEvent i.event)
    modify fun db => { db with events := db.events.insert id row }
    pure (id, .heuristic)

/-- Steps 2 and 3 of `handle_message`. -/
def stage (env : Env) (i : Ingest) (id : Uuid) : Txn Db DbError (Uuid × TrustTier) := do
  let (event_id, trust_state) ← resolveEvent i id
  modify fun db => { db with signals := db.signals ++ [newSignal env i event_id] }
  pure (event_id, trust_state)

/-- The tables with one more signal. -/
def Db.attach (env : Env) (db : Db) (i : Ingest) (event_id : Uuid) : Db :=
  { db with signals := db.signals ++ [newSignal env i event_id] }

/-- The tables with a new event and its signal. -/
def Db.create (env : Env) (db : Db) (i : Ingest) (id : Uuid) (row : SafetyEvent) : Db :=
  { db with
    events := db.events.insert id row
    signals := db.signals ++ [newSignal env i id] }

/-- A new event is heuristic and active. -/
theorem newEvent_eq_ok {event : RedisEventPayload} {row : SafetyEvent}
    (h : newEvent event = .ok row) :
    row.trust_state = .heuristic ∧ row.is_active = true ∧ row.state ≠ .expired := by
  unfold newEvent at h
  simp only [bind_eq_ok, ensure_eq_ok] at h
  obtain ⟨_, _, _, _, _, _, h⟩ := h
  split at h
  · cases h
  · cases h
    exact ⟨rfl, rfl, by simp⟩

/-- **What staging does.** -/
theorem run_stage_eq_ok {env : Env} {i : Ingest} {id : Uuid} {db db' : Db} {r : Uuid × TrustTier}
    (h : (stage env i id).run db = .ok (r, db')) :
    (∃ event_id row, i.existing = some event_id ∧ db.events.find? event_id = some row ∧
        db' = db.attach env i event_id) ∨
      ∃ row, i.existing = none ∧ newEvent i.event = .ok row ∧ db' = db.create env i id row := by
  unfold stage resolveEvent at h
  cases hex : i.existing with
  | some event_id =>
      rw [hex] at h
      simp only [Txn.run_bind_eq_ok, Txn.run_get_eq_ok, Txn.run_fetch_eq_ok, Txn.run_pure_eq_ok,
        Txn.run_modify_eq_ok] at h
      obtain ⟨_, _, ⟨_, _, ⟨rfl, rfl⟩, row, _, ⟨hrow, rfl⟩, rfl, rfl⟩, _, _, rfl, _, rfl⟩ := h
      exact Or.inl ⟨event_id, row, rfl, hrow, rfl⟩
  | none =>
      rw [hex] at h
      simp only [Txn.run_bind_eq_ok, Txn.run_get_eq_ok, Txn.run_ofExcept_eq_ok, Txn.run_pure_eq_ok,
        Txn.run_modify_eq_ok] at h
      obtain ⟨_, _, ⟨_, _, ⟨rfl, rfl⟩, row, _, ⟨hrow, rfl⟩, _, _, rfl, rfl, rfl⟩, _, _, rfl, _, rfl⟩ := h
      exact Or.inr ⟨row, rfl, hrow, rfl⟩

/-- The event that a message is staged under. -/
theorem run_stage_event {env : Env} {i : Ingest} {id : Uuid} {db db' : Db} {r : Uuid × TrustTier}
    (h : (stage env i id).run db = .ok (r, db')) : r.1 = i.existing.getD id := by
  unfold stage resolveEvent at h
  cases hex : i.existing with
  | some event_id =>
      rw [hex] at h
      simp only [Txn.run_bind_eq_ok, Txn.run_get_eq_ok, Txn.run_fetch_eq_ok, Txn.run_pure_eq_ok,
        Txn.run_modify_eq_ok] at h
      obtain ⟨_, _, ⟨_, _, _, _, _, _, rfl, _⟩, _, _, _, rfl, _⟩ := h
      rfl
  | none =>
      rw [hex] at h
      simp only [Txn.run_bind_eq_ok, Txn.run_get_eq_ok, Txn.run_ofExcept_eq_ok, Txn.run_pure_eq_ok,
        Txn.run_modify_eq_ok] at h
      obtain ⟨_, _, ⟨_, _, _, _, _, _, _, _, _, rfl, _⟩, _, _, _, rfl, _⟩ := h
      rfl

/-- Staging one more signal of an event there is. -/
theorem run_stage_attach (env : Env) {i : Ingest} {event_id : Uuid} (id : Uuid) {db : Db}
    {row : SafetyEvent} (hex : i.existing = some event_id)
    (hrow : db.events.find? event_id = some row) :
    (stage env i id).run db = .ok ((event_id, row.trust_state), db.attach env i event_id) := by
  have hresolve : (resolveEvent i id).run db = .ok ((event_id, row.trust_state), db) := by
    unfold resolveEvent
    rw [hex]
    exact Txn.run_bind_eq_ok.2 ⟨db, db, rfl, Txn.run_bind_eq_ok.2
      ⟨row, db, Txn.run_fetch_eq_ok.2 ⟨hrow, rfl⟩, rfl⟩⟩
  unfold stage
  exact Txn.run_bind_eq_ok.2 ⟨_, _, hresolve, rfl⟩

end Nlp
end SentinelMesh
