/-
# Reputation tiers and the consensus on a report

`reports/service.rs` (`tier_score`, `vote_weight`, `compute_tier`) and
`reports/consensus.rs` (`compute_new_status`).

A tier is what an effective reputation score is worth; it seeds the score of a
new report and weighs a vote.  The status of a report moves along seven edges,

    PENDING → UNVERIFIED → VERIFIED → AUTHORITATIVE
    UNVERIFIED, VERIFIED, AUTHORITATIVE → DISPUTED
    PENDING, DISPUTED → REJECTED

each under its own condition on the counters (`computeNewStatus_cases`).  The
graph has no cycle: `rank` grows along every edge (`rank_lt_of_computeNewStatus`),
so no status is ever entered twice.
-/

import Mathlib.Data.Int.Basic
import Mathlib.Tactic.SplitIfs
import Mathlib.Tactic.Tauto

namespace SentinelMesh

/-- The reputation tiers, the values of `users.reputation_tier`. -/
inductive Tier
  | newcomer
  | trusted
  | veteran
  | sentinel
  deriving DecidableEq, Repr

/-- The statuses of a report, the `CHECK` of `community_reports.status`. -/
inductive ReportStatus
  | pending
  | unverified
  | verified
  | authoritative
  | disputed
  | rejected
  deriving DecidableEq, Repr

/-- The two votes, the `CHECK` of `report_votes.vote`. -/
inductive VoteChoice
  | confirm
  | deny
  deriving DecidableEq, Repr

/-- The text of a vote in requests, signed contents and the database. -/
def VoteChoice.text : VoteChoice → String
  | confirm => "CONFIRM"
  | deny => "DENY"

/-- The vote a text stands for. -/
def VoteChoice.ofText? (s : String) : Option VoteChoice :=
  if s = "CONFIRM" then some confirm else if s = "DENY" then some deny else none

theorem VoteChoice.text_of_ofText? {s : String} {c : VoteChoice} (h : ofText? s = some c) :
    s = c.text := by
  unfold ofText? at h
  split_ifs at h with h₁ h₂ <;> cases h
  · exact h₁
  · exact h₂

/-- `tier_score`: what a report starts with. -/
def tierScore : Tier → ℤ
  | .trusted => 2
  | .veteran => 3
  | .sentinel => 4
  | .newcomer => 1

/-- `vote_weight`: what a vote counts, steeper than `tierScore`. -/
def voteWeight : Tier → ℤ
  | .trusted => 3
  | .veteran => 6
  | .sentinel => 10
  | .newcomer => 1

/-- `compute_tier`. -/
def computeTier (score : ℤ) : Tier :=
  if score ≥ 50 then .sentinel
  else if score ≥ 20 then .veteran
  else if score ≥ 5 then .trusted
  else .newcomer

/-- `compute_new_status`: the transition that applies, if one does.  Rejection
comes before dispute and dispute before progress. -/
def computeNewStatus (status : ReportStatus) (score confirmation_count denial_count
    established_confirmations : ℤ) (require_established : Bool) : Option ReportStatus :=
  if (status = .pending ∨ status = .disputed) ∧ score ≤ -5 then some .rejected
  else if (status = .unverified ∨ status = .verified ∨ status = .authoritative) ∧
      denial_count ≥ 3 ∧ denial_count > confirmation_count then some .disputed
  else
    let established_ok_verified := !require_established || decide (established_confirmations ≥ 2)
    let established_ok_authoritative :=
      !require_established || decide (established_confirmations ≥ 3)
    match status with
    | .pending => if score ≥ 3 ∧ confirmation_count ≥ 2 then some .unverified else none
    | .unverified =>
      if score ≥ 7 ∧ confirmation_count ≥ 3 ∧ established_ok_verified then some .verified else none
    | .verified =>
      if score ≥ 15 ∧ confirmation_count ≥ 4 ∧ established_ok_authoritative then
        some .authoritative
      else none
    | _ => none

variable {status new : ReportStatus} {score confirm deny established : ℤ} {gate : Bool}

/-- **The seven edges**, each with what it takes. -/
theorem computeNewStatus_cases
    (h : computeNewStatus status score confirm deny established gate = some new) :
    (new = .rejected ∧ (status = .pending ∨ status = .disputed) ∧ score ≤ -5) ∨
    (new = .disputed ∧ (status = .unverified ∨ status = .verified ∨ status = .authoritative) ∧
      3 ≤ deny ∧ confirm < deny) ∨
    (new = .unverified ∧ status = .pending ∧ 3 ≤ score ∧ 2 ≤ confirm) ∨
    (new = .verified ∧ status = .unverified ∧ 7 ≤ score ∧ 3 ≤ confirm ∧
      (gate = true → 2 ≤ established)) ∨
    (new = .authoritative ∧ status = .verified ∧ 15 ≤ score ∧ 4 ≤ confirm ∧
      (gate = true → 3 ≤ established)) := by
  unfold computeNewStatus at h
  split at h
  · rename_i hreject
    cases h
    exact Or.inl ⟨rfl, hreject⟩
  · split at h
    · rename_i _ hdispute
      cases h
      exact Or.inr (Or.inl ⟨rfl, hdispute⟩)
    · -- neither rejected nor disputed: only the status decides which edge is left
      cases status with
      | pending =>
          dsimp only at h
          split_ifs at h with hp
          cases h
          exact Or.inr (Or.inr (Or.inl ⟨rfl, rfl, hp⟩))
      | unverified =>
          dsimp only at h
          split_ifs at h with hp
          cases h
          exact Or.inr (Or.inr (Or.inr (Or.inl ⟨rfl, rfl, hp.1, hp.2.1,
            fun hg => by simpa [hg] using hp.2.2⟩)))
      | verified =>
          dsimp only at h
          split_ifs at h with hp
          cases h
          exact Or.inr (Or.inr (Or.inr (Or.inr ⟨rfl, rfl, hp.1, hp.2.1,
            fun hg => by simpa [hg] using hp.2.2⟩)))
      | authoritative => cases h
      | disputed => cases h
      | rejected => cases h

/-- How far along its graph a status is. -/
def ReportStatus.rank : ReportStatus → ℕ
  | pending => 0
  | unverified => 1
  | verified => 2
  | authoritative => 3
  | disputed => 4
  | rejected => 5

/-- **The status graph has no cycle.** -/
theorem rank_lt_of_computeNewStatus
    (h : computeNewStatus status score confirm deny established gate = some new) :
    status.rank < new.rank := by
  rcases computeNewStatus_cases h with ⟨rfl, hs, _⟩ | ⟨rfl, hs, _⟩ | ⟨rfl, rfl, _⟩ |
    ⟨rfl, rfl, _⟩ | ⟨rfl, rfl, _⟩
  · rcases hs with rfl | rfl <;> decide
  · rcases hs with rfl | rfl | rfl <;> decide
  all_goals decide

/-- `REJECTED` is absorbing. -/
theorem computeNewStatus_rejected :
    computeNewStatus .rejected score confirm deny established gate = none := by
  cases h : computeNewStatus .rejected score confirm deny established gate with
  | none => rfl
  | some new =>
      have hlt := rank_lt_of_computeNewStatus h
      cases new <;> simp [ReportStatus.rank] at hlt

/-- `DISPUTED` moves to `REJECTED` only. -/
theorem computeNewStatus_disputed
    (h : computeNewStatus .disputed score confirm deny established gate = some new) :
    new = .rejected := by
  rcases computeNewStatus_cases h with ⟨rfl, _⟩ | ⟨_, hs, _⟩ | ⟨_, hs, _⟩ | ⟨_, hs, _⟩ | ⟨_, hs, _⟩
  · rfl
  · simp at hs
  all_goals cases hs

end SentinelMesh
