/-
# The decay pass

`decay_pass` of `subscribers/trust_worker.rs`.  One query selects the users past
the grace window with a score above the floor (`decayRows`); then every selected
row is written back by an `UPDATE` of its own (`Db.decay`), with values computed
from what the query read.  The two are separate: whatever commits between them
is not seen by the write.
-/

import SentinelMesh.Ledger.Schema
import SentinelMesh.Trust.Decay

namespace SentinelMesh
namespace Ledger

open Lib

/-- `DecayConfig`, as far as `decay_pass` and its caller read it. -/
structure DecayConfig where
  enabled : Bool
  grace_days : ℕ
  horizon_days : ℕ
  floor : ℤ
  deriving DecidableEq

/-- A row of the query of `decay_pass`; the days as the loop truncates them. -/
structure DecayRow where
  nostr_pubkey : Pubkey
  reputation_score : ℤ
  accurate_reports : ℤ
  total_reports : ℤ
  days_inactive : ℤ
  deriving DecidableEq

/-- The instant the grace window begins. -/
def DecayConfig.graceStart (cfg : DecayConfig) (now : Timestamp) : Timestamp :=
  now - cfg.grace_days * day

/-- The row of a user the query selects. -/
def decayRow (cfg : DecayConfig) (now : Timestamp) (pk : Pubkey) (u : User) : Option DecayRow :=
  match u.last_verified_at with
  | none => none
  | some t =>
    if t < cfg.graceStart now ∧ u.reputation_score > cfg.floor then
      some { nostr_pubkey := pk, reputation_score := u.reputation_score,
             accurate_reports := u.accurate_reports, total_reports := u.total_reports,
             days_inactive := (now - t).tdiv day }
    else none

/-- The query of `decay_pass`. -/
def decayRows (cfg : DecayConfig) (now : Timestamp) (users : Table Pubkey User) : List DecayRow :=
  users.rows.filterMap fun r => decayRow cfg now r.1 r.2

/-- The effective score the loop computes for a row. -/
def DecayRow.effective (cfg : DecayConfig) (r : DecayRow) : ℤ :=
  effectiveScore r.reputation_score r.days_inactive
    (accuracyRatio r.accurate_reports r.total_reports) cfg.grace_days cfg.horizon_days cfg.floor

/-- `SET effective_reputation_score = $2, reputation_tier = $3`. -/
def User.decay (u : User) (eff : ℤ) : User :=
  { u with effective_reputation_score := eff, reputation_tier := computeTier eff }

/-- The `UPDATE` of one row. -/
def Db.decay (db : Db) (cfg : DecayConfig) (r : DecayRow) : Db :=
  { db with users := db.users.modify r.nostr_pubkey fun u => u.decay (r.effective cfg) }

/-- **A selected row** is a user's, with its score, last verified before the
grace window. -/
theorem mem_decayRows {cfg : DecayConfig} {now : Timestamp} {users : Table Pubkey User}
    {r : DecayRow} (h : r ∈ decayRows cfg now users) :
    ∃ u t, users.find? r.nostr_pubkey = some u ∧ u.last_verified_at = some t ∧
      t < cfg.graceStart now ∧ u.reputation_score = r.reputation_score ∧
      cfg.floor < r.reputation_score := by
  obtain ⟨⟨pk, u⟩, hu, hr⟩ := List.mem_filterMap.1 h
  unfold decayRow at hr
  dsimp only at hr
  split at hr
  · cases hr
  · rename_i t ht
    split at hr
    · rename_i hc
      cases hr
      exact ⟨u, t, Table.find?_eq_some_iff.2 hu, ht, hc.1, rfl, hc.2⟩
    · cases hr

end Ledger
end SentinelMesh
