/-
# Acoustic synthesis: clusters and public events

`subscribers/synthesis_worker.rs` and the tables `acoustic_signals` and `public_events` of
`infra/postgres/schema-v2.sql`.

A tick expires old signals, fetches the others in groups of one cell and one class, and weighs the
signals of each group.  A group that is strong enough is corroborated, then confirmed, and then
written into `public_events` under the id of its first signal: three statements, each of which
commits alone.

A single is a rational number, and each operation on singles is rounded to the nearest of 24 bits,
which is what it is in the range of the numbers here.  The order in which a `HashMap` is iterated is
given.  Of the lineage the constants are left out.
-/

import SentinelMesh.Basic
import SentinelMesh.Lib.Decimal
import SentinelMesh.Lib.Table
import Mathlib.Data.Int.Log

namespace SentinelMesh
namespace Acoustic

open Lib

/-! ### Rows -/

/-- The values of `acoustic_signals.trust_state`. -/
inductive SignalState
  | pending
  | corroborating
  | confirmed
  | disputed
  | expired
  deriving DecidableEq

/-- A row of `acoustic_signals`, under its `id`. -/
structure Signal where
  pubkey : Pubkey
  threat_class : String
  confidence : ℚ
  confidence_variance : Option ℚ := none
  h3_r9 : Option String
  h3_r7 : String
  received_at : Timestamp
  signal_fingerprint : Option String
  trust_state : SignalState := .pending
  deriving DecidableEq

/-- The `lineage` of an event. -/
structure Lineage where
  derived_from : List Uuid
  cluster_score_raw : ℚ
  cluster_score_adjusted : ℚ
  confidence_variance_mean : ℚ
  n_contributors : ℕ
  trust_mass : ℚ
  deriving DecidableEq

/-- A row of `public_events`, under its `first_signal_id`, which is unique. -/
structure PublicEvent where
  id : Uuid
  threat_class : String
  h3_r9 : String
  h3_r7 : String
  cluster_score : ℚ
  severity : String
  n_contributors : ℤ
  trust_mass : ℚ
  lineage : Lineage
  confirmed_at : Option Timestamp
  updated_at : Timestamp
  deriving DecidableEq

/-- The tables. -/
structure Db where
  signals : Table Uuid Signal := Table.empty
  events : Table Uuid PublicEvent := Table.empty
  deriving DecidableEq

/-- `SignalRow`. -/
abbrev SignalRow := Uuid × Signal

/-! ### Expiry and groups -/

/-- `EXPIRY_WINDOW_SECS`, in microseconds. -/
def expiryWindow : ℤ := 300 * 1000000

/-- `TEMPORAL_CUTOFF_SECS`. -/
def temporalCutoffSecs : ℤ := 120

/-- `TEMPORAL_HALF_WEIGHT_SECS`. -/
def temporalHalfWeightSecs : ℤ := 60

/-- `FETCH_WINDOW_SECS`, in microseconds. -/
def fetchWindow : ℤ := (temporalCutoffSecs + 10) * 1000000

/-- The signals that are not decided yet. -/
def Signal.isOpen (g : Signal) : Bool :=
  decide (g.trust_state = .pending ∨ g.trust_state = .corroborating)

/-- `expire_stale_signals`. -/
def Db.expireStaleSignals (db : Db) (now : Timestamp) : Db :=
  { db with
    signals := db.signals.map fun _ g =>
      if g.isOpen && decide (g.received_at < now - expiryWindow) then { g with trust_state := .expired }
      else g }

/-- The rows of the query of `fetch_cluster_groups`. -/
def Db.fetchable (db : Db) (now : Timestamp) : List SignalRow :=
  db.signals.rows.filter fun r =>
    r.2.isOpen && decide (now - fetchWindow < r.2.received_at) && r.2.h3_r9.isSome

/-- The key of a group. -/
def Signal.key (g : Signal) : Option String × String := (g.h3_r9, g.threat_class)

/-- `fetch_cluster_groups` returns the groups: all rows of one key in one group, by the time they were
received, where rows may be of one time and groups come in any order. -/
def Fetched (db : Db) (now : Timestamp) (groups : List (List SignalRow)) : Prop :=
  groups.flatten.Perm (db.fetchable now) ∧
    (∀ group ∈ groups, group ≠ [] ∧
      group.Pairwise fun a b => a.2.key = b.2.key ∧ a.2.received_at ≤ b.2.received_at) ∧
    groups.Pairwise fun group group' => ∀ a ∈ group, ∀ b ∈ group', a.2.key ≠ b.2.key

instance (db : Db) (now : Timestamp) (groups : List (List SignalRow)) :
    Decidable (Fetched db now groups) := by
  unfold Fetched
  infer_instance

/-! ### Weights -/

/-- The single that is nearest to a number in their range. -/
def single (x : ℚ) : ℚ :=
  let unit := (2 : ℚ) ^ (Int.log 2 |x| - 23)
  if x = 0 then 0 else roundHalfEven (x / unit) * unit

/-- A sum of singles, one after the other. -/
def sumSingle (xs : List ℚ) : ℚ := xs.foldl (fun sum x => single (sum + x)) 0

/-- `DEFAULT_TRUST`. -/
def defaultTrust : ℚ := single (2 / 5)

/-- The trust in a signal of that age, none beyond the cutoff. -/
def decayedTrust (now : Timestamp) (g : Signal) : Option ℚ :=
  let age := (now - g.received_at).tdiv 1000000
  if temporalCutoffSecs < age then none
  else some (single (defaultTrust * if temporalHalfWeightSecs < age then 1 / 2 else 1))

/-- What `compute_weights` returns, a signal for its index. -/
structure Weights where
  weighted : List (SignalRow × ℚ)
  total_trust_mass : ℚ
  numerator : ℚ
  total_conf_var : ℚ

/-- The keys of a map, in the order of its iteration. -/
def iterated (order keys : List Pubkey) : List Pubkey := if order.Perm keys then order else keys

/-- `pubkey_trust`. -/
def pubkeyTrust (decayed : List (SignalRow × ℚ)) (pubkey : Pubkey) : ℚ :=
  sumSingle ((decayed.filter fun d => decide (d.1.2.pubkey = pubkey)).map Prod.snd)

/-- `compute_weights`; the maps `pubkey_trust` and `capped` are iterated in the orders given. -/
def computeWeights (orders : List Pubkey × List Pubkey) (signals : List SignalRow) (now : Timestamp) :
    Weights :=
  let decayed := signals.filterMap fun r => (decayedTrust now r.2).map fun trust => (r, trust)
  if decayed = [] then { weighted := [], total_trust_mass := 0, numerator := 0, total_conf_var := 0 }
  else
    let pubkey_trust := pubkeyTrust decayed
    let pubkeys := (decayed.map fun d => d.1.2.pubkey).dedup
    let total_uncapped := sumSingle ((iterated orders.1 pubkeys).map pubkey_trust)
    let trust_cap := single (1 / 4 * total_uncapped)
    let capped := fun pubkey => min (pubkey_trust pubkey) trust_cap
    let signal_trust := fun (d : SignalRow × ℚ) =>
      if 0 < pubkey_trust d.1.2.pubkey then
        single (d.2 * single (capped d.1.2.pubkey / pubkey_trust d.1.2.pubkey))
      else 0
    { weighted := decayed.map fun d => (d.1, signal_trust d)
      total_trust_mass := sumSingle ((iterated orders.2 pubkeys).map capped)
      numerator := sumSingle (decayed.map fun d => single (signal_trust d * d.1.2.confidence))
      total_conf_var := sumSingle (decayed.map fun d => d.1.2.confidence_variance.getD 0) }

/-! ### Clusters -/

/-- `CORROBORATE_THRESHOLD`. -/
def corroborateThreshold : ℚ := single (3 / 5)

/-- `CONFIRM_THRESHOLD`. -/
def confirmThreshold : ℚ := single (4 / 5)

/-- `MIN_CONTRIBUTORS`. -/
def minContributors : ℕ := 3

/-- `MIN_DISTINCT_FINGERPRINTS`. -/
def minDistinctFingerprints : ℕ := 2

/-- What `process_cluster` has computed of a group that it promotes. -/
structure Cluster where
  signals : List SignalRow
  now : Timestamp
  h3_r9 : String
  h3_r7 : String
  threat_class : String
  weighted : List SignalRow
  n_contributors : ℕ
  cluster_score_raw : ℚ
  cluster_score_adj : ℚ
  total_trust_mass : ℚ
  mean_conf_var : ℚ
  deriving DecidableEq

/-- `signal_ids`. -/
def Cluster.signalIds (c : Cluster) : List Uuid := c.weighted.map Prod.fst

/-- `process_cluster` up to its first statement: nothing if the group is too weak for that. -/
def assess (orders : List Pubkey × List Pubkey) (signals : List SignalRow) (now : Timestamp) :
    Option Cluster :=
  match signals with
  | [] => none
  | first :: _ => match first.2.h3_r9 with
    | none => none
    | some h3_r9 =>
      let weights := computeWeights orders signals now
      let n_contributors := (weights.weighted.map fun d => d.1.2.pubkey).dedup.length
      let cluster_score_raw :=
        if 0 < weights.total_trust_mass then single (weights.numerator / weights.total_trust_mass)
        else 0
      let mean_conf_var := single (weights.total_conf_var / single weights.weighted.length)
      let cluster_score_adj := single (cluster_score_raw * single (1 - single (1 / 2 * mean_conf_var)))
      if weights.weighted = [] then none
      else if n_contributors < minContributors ∨ cluster_score_adj < corroborateThreshold then none
      else some
        { signals, now, h3_r9
          h3_r7 := first.2.h3_r7
          threat_class := first.2.threat_class
          weighted := weights.weighted.map Prod.fst
          n_contributors, cluster_score_raw, cluster_score_adj
          total_trust_mass := weights.total_trust_mass
          mean_conf_var }

/-- `count_distinct_fingerprints`. -/
def countDistinctFingerprints (fingerprints : List (Option String)) : ℕ :=
  (fingerprints.filterMap id).dedup.length

/-- The gates between corroboration and confirmation. -/
def Cluster.confirms (confirm_enabled : Bool) (c : Cluster) : Bool :=
  confirm_enabled && decide (confirmThreshold ≤ c.cluster_score_adj) &&
    decide (minDistinctFingerprints ≤
      countDistinctFingerprints (c.weighted.map fun r => r.2.signal_fingerprint))

/-- The signals among `ids` in one state are brought to another. -/
def Db.promote (db : Db) (ids : List Uuid) (old new : SignalState) : Db :=
  { db with
    signals := db.signals.map fun id g =>
      if id ∈ ids ∧ g.trust_state = old then { g with trust_state := new } else g }

/-- The first `UPDATE` of `process_cluster`. -/
def Db.corroborate (db : Db) (c : Cluster) : Db := db.promote c.signalIds .pending .corroborating

/-- The second `UPDATE` of `process_cluster`. -/
def Db.confirm (db : Db) (c : Cluster) : Db := db.promote c.signalIds .corroborating .confirmed

/-! ### Public events -/

/-- The one of two signals that was received first, of equal ones the first. -/
def earlier (r r' : SignalRow) : SignalRow := if r'.2.received_at < r.2.received_at then r' else r

/-- The signal that was received first, of several the first in the list. -/
def Cluster.firstSignal (c : Cluster) : Option SignalRow := match c.signals with
  | [] => none
  | r :: rs => some (rs.foldl earlier r)

theorem foldl_earlier_mem (rs : List SignalRow) (r : SignalRow) : rs.foldl earlier r ∈ r :: rs := by
  induction rs generalizing r with
  | nil => exact List.mem_singleton_self r
  | cons r' rs ih =>
      have hmem := ih (earlier r r')
      have hone : earlier r r' = r ∨ earlier r r' = r' := by
        unfold earlier
        split_ifs
        · exact Or.inr rfl
        · exact Or.inl rfl
      rw [List.foldl_cons]
      rcases List.mem_cons.1 hmem with heq | hmem
      · rw [heq]
        rcases hone with hone | hone
        · rw [hone]
          exact List.mem_cons_self
        · rw [hone]
          exact List.mem_cons_of_mem _ List.mem_cons_self
      · exact List.mem_cons_of_mem _ (List.mem_cons_of_mem _ hmem)

theorem firstSignal_mem {c : Cluster} {r : SignalRow} (h : c.firstSignal = some r) :
    r ∈ c.signals := by
  unfold Cluster.firstSignal at h
  cases hsignals : c.signals with
  | nil =>
      rw [hsignals] at h
      cases h
  | cons r' rs =>
      rw [hsignals] at h
      rw [← Option.some.inj h]
      exact foldl_earlier_mem rs r'

/-- `score_to_severity`. -/
def scoreToSeverity (score : ℚ) : String :=
  if single (9 / 10) ≤ score then "CRITICAL"
  else if 3 / 4 ≤ score then "HIGH"
  else if single (3 / 5) ≤ score then "MEDIUM"
  else "LOW"

/-- The lineage of a cluster. -/
def Cluster.lineage (c : Cluster) : Lineage :=
  { derived_from := c.signalIds
    cluster_score_raw := c.cluster_score_raw
    cluster_score_adjusted := c.cluster_score_adj
    confidence_variance_mean := c.mean_conf_var
    n_contributors := c.n_contributors
    trust_mass := c.total_trust_mass }

/-- The row that is inserted. -/
def Cluster.event (c : Cluster) (id : Uuid) : PublicEvent :=
  { id
    threat_class := c.threat_class
    h3_r9 := c.h3_r9
    h3_r7 := c.h3_r7
    cluster_score := c.cluster_score_adj
    severity := scoreToSeverity c.cluster_score_adj
    n_contributors := wrap 32 c.n_contributors
    trust_mass := c.total_trust_mass
    lineage := c.lineage
    confirmed_at := some c.now
    updated_at := c.now }

/-- What is set of a row that is there. -/
def Cluster.update (c : Cluster) (event : PublicEvent) : PublicEvent :=
  { event with
    cluster_score := c.cluster_score_adj
    severity := scoreToSeverity c.cluster_score_adj
    n_contributors := wrap 32 c.n_contributors
    trust_mass := c.total_trust_mass
    lineage := c.lineage
    updated_at := c.now
    confirmed_at := event.confirmed_at.or (some c.now) }

/-- `upsert_public_event`. -/
def Db.upsertPublicEvent (db : Db) (c : Cluster) (first_signal_id id : Uuid) : Db :=
  { db with events := db.events.upsert first_signal_id (c.event id) c.update }

end Acoustic
end SentinelMesh
