/-
# Machine events: tiers and tables

`trust/contract.rs`, the tables `safety_events`, `nlp_signals`,
`push_subscriptions` and `push_deliveries` of `infra/postgres/schema-v2.sql` and
migration 007, and the trigger on `safety_events.trust_state`.

A text column under a `CHECK (.. IN ..)` is an enumeration, and `parse` of its
text the check.  Coordinates are rational numbers: every double is one.  The H3
index and PostGIS are parameters.  Left out are the columns nothing modelled
reads or writes, and the surrogate ids of signals and deliveries.
-/

import SentinelMesh.Basic
import SentinelMesh.Lib.Table
import SentinelMesh.Lib.Txn
import Mathlib.Data.Rat.Defs
import Mathlib.Algebra.Order.Ring.Rat
import Mathlib.Order.Lattice
import Mathlib.Data.Finset.Card

namespace SentinelMesh
namespace Nlp

open Lib

/-! ### `trust/contract.rs` -/

/-- `TrustTier`, ordered as declared. -/
inductive TrustTier
  | heuristic
  | corroborating
  | confirmed
  deriving DecidableEq, Repr

/-- The rank of a tier. -/
def TrustTier.rank : TrustTier → ℕ
  | heuristic => 0
  | corroborating => 1
  | confirmed => 2

theorem TrustTier.rank_injective : Function.Injective TrustTier.rank := by
  intro a b h
  cases a <;> cases b <;> first | rfl | cases h

instance : LinearOrder TrustTier := LinearOrder.lift' TrustTier.rank TrustTier.rank_injective

theorem TrustTier.le_confirmed (t : TrustTier) : t ≤ .confirmed := by
  cases t <;> decide

/-- `Independence`. -/
structure Independence where
  distinct_sources : ℕ
  distinct_channels : ℕ
  deriving DecidableEq

/-- `CORROBORATE_MIN_SOURCES`. -/
def corroborateMinSources : ℕ := 2

/-- `CONFIRM_MIN_SOURCES`. -/
def confirmMinSources : ℕ := 3

/-- `CONFIRM_MIN_CHANNELS`. -/
def confirmMinChannels : ℕ := 2

/-- `decide`: the tier of a body of evidence. -/
def decideTier (ev : Independence) : TrustTier :=
  if confirmMinSources ≤ ev.distinct_sources ∧ confirmMinChannels ≤ ev.distinct_channels then
    .confirmed
  else if corroborateMinSources ≤ ev.distinct_sources then .corroborating
  else .heuristic

theorem decideTier_eq_confirmed {ev : Independence} :
    decideTier ev = .confirmed ↔
      confirmMinSources ≤ ev.distinct_sources ∧ confirmMinChannels ≤ ev.distinct_channels := by
  unfold decideTier
  split_ifs <;> simp_all

/-! ### Rows -/

/-- The values of `severity`. -/
inductive Severity
  | low
  | medium
  | high
  | critical
  deriving DecidableEq, Repr

/-- `CHECK (severity IN ('LOW','MEDIUM','HIGH','CRITICAL'))`. -/
def Severity.parse : String → Option Severity
  | "LOW" => some low
  | "MEDIUM" => some medium
  | "HIGH" => some high
  | "CRITICAL" => some critical
  | _ => none

/-- `CASE severity WHEN 'LOW' THEN 1 ..`. -/
def Severity.rank : Severity → ℕ
  | low => 1
  | medium => 2
  | high => 3
  | critical => 4

/-- The values of `event_type`. -/
def eventTypes : List String :=
  ["TRAFFIC_INCIDENT", "FLOOD", "CIVIL_UNREST", "SECURITY_INCIDENT", "FIRE", "MEDICAL_EMERGENCY",
    "INFRASTRUCTURE_FAILURE", "FALSE_ALARM"]

/-- The values of `safety_events.state`. -/
inductive EventState
  | reported
  | active
  | updated
  | resolved
  | expired
  deriving DecidableEq, Repr

/-- The values of `origin_class`. -/
inductive OriginClass
  | machine
  | human
  deriving DecidableEq, Repr

/-- `source_breakdown`, once it is written; its `provenance` is a constant. -/
structure SourceBreakdown where
  distinct_sources : ℕ
  distinct_channels : ℕ
  signal_count : ℕ
  provenance : String := "nlp_corroborated"
  deriving DecidableEq

/-- A row of `safety_events`, under its `id`. -/
structure SafetyEvent where
  event_type : String
  severity : Severity
  title : String
  lat : ℚ
  lng : ℚ
  started_at : Timestamp
  summary : Option String
  place_name : Option String
  county : Option String
  source_count : ℤ := 1
  source_breakdown : Option SourceBreakdown := none
  distinct_source_count : ℤ := 1
  distinct_channel_count : ℤ := 1
  trust_state : TrustTier := .heuristic
  origin_class : OriginClass := .machine
  is_active : Bool := true
  state : EventState := .active
  created_at : Timestamp
  deriving DecidableEq

/-- The values of `nlp_signals.trust_state`. -/
inductive SignalState
  | pending
  | corroborating
  | confirmed
  | expired
  deriving DecidableEq, Repr

/-- A row of `nlp_signals`.  `emitted` is not a column: it is the channel the emitter
gave, if any, where `origin_channel` is the one that is stored. -/
structure Signal where
  event_id : Uuid
  source_type : String
  source_id : Option String
  origin_channel : String
  emitted : Option String
  event_type : String
  severity : String
  title : String
  summary : Option String
  lat : ℚ
  lng : ℚ
  h3_r9 : String
  h3_r7 : String
  county : Option String
  place_name : Option String
  confidence : ℚ
  received_at : Timestamp
  trust_state : SignalState := .pending
  deriving DecidableEq

/-- The preferences of a push subscription, which are there together or not at all. -/
structure PushPreferences where
  min_severity : Severity
  center_lat : ℚ
  center_lng : ℚ
  radius_km : ℚ
  deriving DecidableEq

/-- What is delivered. -/
structure PushPayload where
  title : String
  body : String
  severity : Severity
  event_id : Uuid
  url : String
  deriving DecidableEq

/-- The tables.  A row of `push_subscriptions` is its preferences, if they are set; a
delivery is under its `(event_id, subscription_id)`. -/
structure Db where
  events : Table Uuid SafetyEvent := Table.empty
  signals : List Signal := []
  subscriptions : Table Uuid (Option PushPreferences) := Table.empty
  deliveries : Table (Uuid × Uuid) PushPayload := Table.empty
  deriving DecidableEq

/-- What is used of other software: the H3 cells of a point at resolutions 9 and 7,
and `ST_DWithin` of two points and a distance in metres. -/
structure Env where
  h3Cells : ℚ → ℚ → String × String
  dWithin : ℚ × ℚ → ℚ × ℚ → ℚ → Bool

/-- What a statement on the tables may fail with. -/
inductive DbError
  | checkViolation (column : String)
  | invalidTrustTransition (old new : TrustTier)
  | rowNotFound
  | connection
  deriving DecidableEq

/-- `enforce_safety_event_trust_monotonicity`, where the tier changes. -/
def enforceSafetyEventTrustMonotonicity (old new : TrustTier) : Except DbError Unit :=
  ensure (decide (old = new ∨ old.rank ≤ new.rank)) (.invalidTrustTransition old new)

end Nlp
end SentinelMesh
