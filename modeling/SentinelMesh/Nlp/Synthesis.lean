/-
# Machine events: the synthesis worker

`expire_stale_events`, `fetch_cluster_stats`, `promote_cluster` and
`enqueue_push_deliveries` of `subscribers/nlp_synthesis_worker.rs`.

A tick is several statements that commit one by one: the events past their time
are made inactive, then their signals are expired, then the pending signals of each
event are counted, and then each count is brought to its event in a transaction of
its own, under a lock on the row of the event.  Counts are written as 32-bit
integers, into columns that must not be negative.
-/

import SentinelMesh.Nlp.Ingest

namespace SentinelMesh
namespace Nlp

open Lib

/-! ### Expiry -/

/-- `HEURISTIC_TTL_SECS`, in microseconds. -/
def heuristicTtl : ℤ := 30 * 60 * 1000000

/-- `CORROBORATING_TTL_SECS`, in microseconds. -/
def corroboratingTtl : ℤ := 2 * 60 * 60 * 1000000

/-- The `WHERE` of the first statement of `expire_stale_events`. -/
def SafetyEvent.stale (now : Timestamp) (e : SafetyEvent) : Bool :=
  decide (e.origin_class = .machine ∧ e.is_active = true ∧
    ((e.trust_state = .heuristic ∧ e.started_at < now - heuristicTtl) ∨
      (e.trust_state = .corroborating ∧ e.started_at < now - corroboratingTtl)))

/-- What it sets. -/
def SafetyEvent.expire (e : SafetyEvent) : SafetyEvent :=
  { e with is_active := false, state := .expired }

/-- The events it returns. -/
def Db.staleIds (db : Db) (now : Timestamp) : List Uuid :=
  (db.events.filter fun _ e => e.stale now).rows.map Prod.fst

/-- The first statement of `expire_stale_events`. -/
def Db.expireEvents (db : Db) (now : Timestamp) : Db :=
  { db with events := db.events.map fun _ e => if e.stale now then e.expire else e }

/-- A signal of one of the events, expired unless it is past that. -/
def Signal.expireIn (ids : List Uuid) (g : Signal) : Signal :=
  if (g.trust_state = .pending ∨ g.trust_state = .corroborating) ∧ g.event_id ∈ ids then
    { g with trust_state := .expired }
  else g

/-- The second statement of `expire_stale_events`. -/
def Db.expireSignals (db : Db) (ids : List Uuid) : Db :=
  { db with signals := db.signals.map (Signal.expireIn ids) }

/-- The stale events, by their rows. -/
theorem mem_staleIds (db : Db) (now : Timestamp) (id : Uuid) : id ∈ db.staleIds now ↔
    ∃ row, db.events.find? id = some row ∧ row.stale now = true := by
  have hkey : id ∈ db.staleIds now ↔
      ∃ row, (db.events.filter fun _ e => e.stale now).find? id = some row := by
    unfold Db.staleIds
    rw [List.mem_map]
    constructor
    · rintro ⟨r, hr, rfl⟩
      exact ⟨r.2, Table.find?_eq_some_iff.2 hr⟩
    · rintro ⟨row, hrow⟩
      exact ⟨(id, row), Table.find?_eq_some_iff.1 hrow, rfl⟩
  rw [hkey]
  simp only [Table.find?_filter, Option.filter_eq_some_iff]

/-! ### Statistics -/

/-- `COUNT(DISTINCT ..)`. -/
def distinct {α : Type} [DecidableEq α] (l : List α) : ℕ := l.toFinset.card

/-- `ClusterStats`. -/
structure ClusterStats where
  distinct_sources : ℕ
  distinct_channels : ℕ
  total_signals : ℕ
  deriving DecidableEq

/-- `ClusterStats::independence`. -/
def ClusterStats.independence (stats : ClusterStats) : Independence :=
  { distinct_sources := stats.distinct_sources, distinct_channels := stats.distinct_channels }

/-- The staged signals of an event. -/
def Db.staged (db : Db) (id : Uuid) : List Signal := db.signals.filter fun g => decide (g.event_id = id)

/-- The pending signals of an event. -/
def Db.pending (db : Db) (id : Uuid) : List Signal :=
  (db.staged id).filter fun g => decide (g.trust_state = .pending)

/-- The aggregates of `fetch_cluster_stats` over a group of signals. -/
def clusterStats (gs : List Signal) : ClusterStats :=
  { distinct_sources := distinct (gs.filterMap Signal.source_id)
    distinct_channels := distinct (gs.map Signal.origin_channel)
    total_signals := gs.length }

/-- `fetch_cluster_stats`: `GROUP BY event_id`, in some order. -/
def Db.fetchClusterStats (db : Db) : List (Uuid × ClusterStats) :=
  ((db.signals.filter fun g => decide (g.trust_state = .pending)).map Signal.event_id).dedup.map
    fun id => (id, clusterStats (db.pending id))

/-! ### Promotion -/

/-- `as i32`. -/
def asI32 (n : ℕ) : ℤ := wrap 32 n

/-- `Promotion`. -/
inductive Promotion
  | unchanged
  | corroborated
  | confirmed
  deriving DecidableEq, Repr

/-- `should_confirm`. -/
def shouldConfirm (previous target : TrustTier) : Bool :=
  decide (previous < .confirmed ∧ target = .confirmed)

/-- `source_breakdown`. -/
def sourceBreakdown (stats : ClusterStats) : SourceBreakdown :=
  { distinct_sources := stats.distinct_sources
    distinct_channels := stats.distinct_channels
    signal_count := stats.total_signals }

/-- The columns `promote_cluster` sets. -/
def SafetyEvent.set (e : SafetyEvent) (trust_state : TrustTier)
    (distinct_source_count distinct_channel_count source_count : ℤ)
    (source_breakdown : Option SourceBreakdown) : SafetyEvent :=
  { e with trust_state, distinct_source_count, distinct_channel_count, source_count, source_breakdown }

/-- The row `promote_cluster` writes. -/
def SafetyEvent.promote (e : SafetyEvent) (target : TrustTier) (stats : ClusterStats) : SafetyEvent :=
  e.set target (asI32 stats.distinct_sources) (asI32 stats.distinct_channels)
    (asI32 stats.total_signals) (some (sourceBreakdown stats))

/-- The `UPDATE` of `promote_cluster`, with the trigger and the checks of the table. -/
def updateEvent (event_id : Uuid) (row : SafetyEvent) (target : TrustTier) (stats : ClusterStats) :
    Txn Db DbError Unit := do
  Txn.ofExcept (enforceSafetyEventTrustMonotonicity row.trust_state target)
  Txn.require (decide (0 ≤ asI32 stats.total_signals)) (.checkViolation "source_count")
  Txn.require (decide (0 ≤ asI32 stats.distinct_sources)) (.checkViolation "distinct_source_count")
  Txn.require (decide (0 ≤ asI32 stats.distinct_channels)) (.checkViolation "distinct_channel_count")
  modify fun db => { db with events := db.events.modify event_id fun e => e.promote target stats }

/-- What a subscriber is told. -/
def pushPayload (event_id : Uuid) (row : SafetyEvent) : PushPayload :=
  { title := row.title
    body := "Confirmed " ++
      String.ofList ((row.event_type.toList.map fun c => if c = '_' then ' ' else c).map Char.toLower) ++
      " in your alert area"
    severity := row.severity
    event_id
    url := "/map?event=" ++ event_id }

/-- The preferences select the event: `min_severity` is at most its severity, and it is
within the radius. -/
def PushPreferences.selects (env : Env) (row : SafetyEvent) (p : PushPreferences) : Bool :=
  decide (p.min_severity.rank ≤ row.severity.rank) &&
    env.dWithin (p.center_lat, p.center_lng) (row.lat, row.lng) (p.radius_km * 1000)

/-- The subscriptions an event is delivered to; one without preferences has no centre. -/
def Db.targets (env : Env) (db : Db) (row : SafetyEvent) : List Uuid :=
  (db.subscriptions.filter fun _ p => p.any fun p => p.selects env row).rows.map Prod.fst

/-- One more delivery of an event, `ON CONFLICT DO NOTHING`. -/
def addDelivery (event_id : Uuid) (row : SafetyEvent) (t : Table (Uuid × Uuid) PushPayload)
    (subscription_id : Uuid) : Table (Uuid × Uuid) PushPayload :=
  t.insert (event_id, subscription_id) (pushPayload event_id row)

/-- The deliveries of an event to subscriptions. -/
def Db.deliver (db : Db) (event_id : Uuid) (row : SafetyEvent) (subscriptions : List Uuid) : Db :=
  { db with deliveries := subscriptions.foldl (addDelivery event_id row) db.deliveries }

/-- `enqueue_push_deliveries`. -/
def enqueuePushDeliveries (env : Env) (event_id : Uuid) (row : SafetyEvent) : Txn Db DbError Unit :=
  modify fun db => db.deliver event_id row (db.targets env row)

/-- `promote_cluster`. -/
def promoteCluster (env : Env) (event_id : Uuid) (stats : ClusterStats) : Txn Db DbError Promotion := do
  let db ← get
  match (db.events.find? event_id).filter SafetyEvent.is_active with
  | none => pure .unchanged
  | some row =>
    let target := max row.trust_state (decideTier stats.independence)
    updateEvent event_id row target stats
    if target = row.trust_state then pure .unchanged
    else if shouldConfirm row.trust_state target then
      enqueuePushDeliveries env event_id row
      pure .confirmed
    else pure .corroborated

/-- One turn of the loop of `tick`: an error is logged, and the next cluster follows. -/
def Db.promoteOrSkip (env : Env) (db : Db) (c : Uuid × ClusterStats) : Db :=
  ((promoteCluster env c.1 c.2).commit db).1

/-! ### What promotion does -/

/-- What a promotion writes into an event, and what it leaves. -/
theorem SafetyEvent.set_fields (e : SafetyEvent) (t : TrustTier) (a b c : ℤ)
    (o : Option SourceBreakdown) :
    (e.set t a b c o).trust_state = t ∧ (e.set t a b c o).distinct_source_count = a ∧
      (e.set t a b c o).distinct_channel_count = b ∧ (e.set t a b c o).is_active = e.is_active ∧
      (e.set t a b c o).state = e.state ∧ (e.set t a b c o).severity = e.severity ∧
      (e.set t a b c o).lat = e.lat ∧ (e.set t a b c o).lng = e.lng :=
  ⟨rfl, rfl, rfl, rfl, rfl, rfl, rfl, rfl⟩

theorem SafetyEvent.promote_fields (e : SafetyEvent) (target : TrustTier) (stats : ClusterStats) :
    (e.promote target stats).trust_state = target ∧
      (e.promote target stats).distinct_source_count = asI32 stats.distinct_sources ∧
      (e.promote target stats).distinct_channel_count = asI32 stats.distinct_channels ∧
      (e.promote target stats).is_active = e.is_active ∧
      (e.promote target stats).state = e.state ∧ (e.promote target stats).severity = e.severity ∧
      (e.promote target stats).lat = e.lat ∧ (e.promote target stats).lng = e.lng :=
  e.set_fields _ _ _ _ _

/-- The counts can be stored. -/
def ClusterStats.fits (stats : ClusterStats) : Bool :=
  decide (0 ≤ asI32 stats.total_signals ∧ 0 ≤ asI32 stats.distinct_sources ∧
    0 ≤ asI32 stats.distinct_channels)

/-- The tables with the counts brought to the event. -/
def Db.refresh (db : Db) (event_id : Uuid) (target : TrustTier) (stats : ClusterStats) : Db :=
  { db with events := db.events.modify event_id fun e => e.promote target stats }

/-- **The trigger never raises**: the tier that is written is not below the one that is
there. -/
theorem enforce_max (current computed : TrustTier) :
    enforceSafetyEventTrustMonotonicity current (max current computed) = .ok () := by
  have hle : current.rank ≤ (max current computed).rank := le_max_left current computed
  exact ensure_eq_ok.2 (decide_eq_true (Or.inr hle))

theorem run_updateEvent_eq_ok {event_id : Uuid} {row : SafetyEvent} {target : TrustTier}
    {stats : ClusterStats} {db db' : Db} {u : Unit}
    (h : (updateEvent event_id row target stats).run db = .ok (u, db')) :
    stats.fits = true ∧ db' = db.refresh event_id target stats := by
  unfold updateEvent at h
  simp only [Txn.run_bind_eq_ok, Txn.run_ofExcept_eq_ok, Txn.run_require_eq_ok, Txn.run_modify_eq_ok,
    decide_eq_true_eq] at h
  obtain ⟨_, _, ⟨_, rfl⟩, _, _, ⟨htotal, rfl⟩, _, _, ⟨hsources, rfl⟩, _, _, ⟨hchannels, rfl⟩, rfl⟩ := h
  exact ⟨decide_eq_true ⟨htotal, hsources, hchannels⟩, rfl⟩

/-- **What a promotion has done** when it has committed: nothing to an event that is not
active, else the counts are stored under the higher of the two tiers, and the
deliveries are there if the event has just become confirmed. -/
inductive Promoted (env : Env) (db : Db) (event_id : Uuid) (stats : ClusterStats) :
    Promotion → Db → Prop
  | skipped (inactive : ∀ row, db.events.find? event_id = some row → row.is_active = false) :
      Promoted env db event_id stats .unchanged db
  | unchanged (row : SafetyEvent) (found : db.events.find? event_id = some row)
      (active : row.is_active = true) (fits : stats.fits = true)
      (same : decideTier stats.independence ≤ row.trust_state) :
      Promoted env db event_id stats .unchanged (db.refresh event_id row.trust_state stats)
  | corroborated (row : SafetyEvent) (found : db.events.find? event_id = some row)
      (active : row.is_active = true) (fits : stats.fits = true)
      (higher : row.trust_state < decideTier stats.independence)
      (below : decideTier stats.independence ≠ .confirmed) :
      Promoted env db event_id stats .corroborated
        (db.refresh event_id (decideTier stats.independence) stats)
  | confirmed (row : SafetyEvent) (found : db.events.find? event_id = some row)
      (active : row.is_active = true) (fits : stats.fits = true)
      (lower : row.trust_state < .confirmed)
      (enough : decideTier stats.independence = .confirmed) :
      Promoted env db event_id stats .confirmed
        ((db.refresh event_id .confirmed stats).deliver event_id row (db.targets env row))

theorem run_promoteCluster_eq_ok {env : Env} {event_id : Uuid} {stats : ClusterStats} {db db' : Db}
    {p : Promotion} (h : (promoteCluster env event_id stats).run db = .ok (p, db')) :
    Promoted env db event_id stats p db' := by
  unfold promoteCluster at h
  simp only [Txn.run_bind_eq_ok, Txn.run_get_eq_ok] at h
  obtain ⟨_, _, ⟨rfl, rfl⟩, h⟩ := h
  split at h
  · rename_i hnone
    obtain ⟨rfl, rfl⟩ := Txn.run_pure_eq_ok.1 h
    refine .skipped fun row hrow => ?_
    rw [hrow, Option.filter_eq_none_iff] at hnone
    simpa using hnone row rfl
  · rename_i row hsome
    obtain ⟨hrow, hactive⟩ := Option.filter_eq_some_iff.1 hsome
    obtain ⟨_, db₁, hupdate, h⟩ := Txn.run_bind_eq_ok.1 h
    obtain ⟨hfits, rfl⟩ := run_updateEvent_eq_ok hupdate
    split_ifs at h with hsame hconfirm
    · obtain ⟨rfl, rfl⟩ := Txn.run_pure_eq_ok.1 h
      rw [hsame]
      exact .unchanged row hrow hactive hfits (max_eq_left_iff.1 hsame)
    · obtain ⟨hlower, htarget⟩ := of_decide_eq_true hconfirm
      unfold enqueuePushDeliveries at h
      simp only [Txn.run_bind_eq_ok, Txn.run_modify_eq_ok, Txn.run_pure_eq_ok] at h
      obtain ⟨_, _, rfl, rfl, rfl⟩ := h
      have henough : decideTier stats.independence = .confirmed := by
        rcases max_choice row.trust_state (decideTier stats.independence) with hmax | hmax
        · rw [hmax] at htarget
          exact absurd htarget hlower.ne
        · rw [hmax] at htarget
          exact htarget
      rw [htarget]
      exact .confirmed row hrow hactive hfits hlower henough
    · obtain ⟨rfl, rfl⟩ := Txn.run_pure_eq_ok.1 h
      have hhigher : row.trust_state < decideTier stats.independence := by
        by_contra hle
        exact hsame (max_eq_left (not_lt.1 hle))
      have hmax : max row.trust_state (decideTier stats.independence) =
          decideTier stats.independence := max_eq_right hhigher.le
      rw [hmax] at hconfirm ⊢
      refine .corroborated row hrow hactive hfits hhigher ?_
      intro hconf
      rw [hconf] at hhigher hconfirm
      exact hconfirm (decide_eq_true ⟨hhigher, rfl⟩)

/-- A turn of the loop changes nothing, or is a promotion. -/
theorem promoteOrSkip_cases (env : Env) (db : Db) (c : Uuid × ClusterStats) :
    db.promoteOrSkip env c = db ∨
      ∃ p, (promoteCluster env c.1 c.2).run db = .ok (p, db.promoteOrSkip env c) :=
  Txn.commit_fst (promoteCluster env c.1 c.2) db

end Nlp
end SentinelMesh
