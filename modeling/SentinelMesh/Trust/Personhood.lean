/-
# Personhood

`trust/personhood.rs`.  A key is established for the consensus gate when it is
a genesis root, when its earned tier is above `NEWCOMER`, or when it holds an
active vouch from a voucher that is itself a root or of an established tier at
this moment.  A vouch confers eligibility to be counted, never to vouch.

`establishedConfirmations` is the query of `cast_vote` in `reports/service.rs`
that counts the established confirmers of a report; it repeats the three
conditions in SQL.  `countsAsEstablished_eq` is that the repetition and the
classifier agree on every key, `establishedConfirmations_eq_ncard` what the
query counts.
-/

import SentinelMesh.Ledger.Schema
import Mathlib.Data.List.Dedup
import Mathlib.Data.Set.Card

namespace SentinelMesh
namespace Ledger

open Lib

/-- `PersonhoodSource`: why a key is established. -/
inductive PersonhoodSource
  | none
  | root
  | reputation
  | vouch
  | multiple
  deriving DecidableEq, Repr

/-- `classify`. -/
def classify (is_root tier_established has_active_vouch : Bool) : PersonhoodSource :=
  match [is_root, tier_established, has_active_vouch].countP id with
  | 0 => .none
  | 1 => if is_root then .root else if tier_established then .reputation else .vouch
  | _ => .multiple

/-- `is_established`. -/
def isEstablished (s : PersonhoodSource) : Bool := decide (s ≠ .none)

/-- `tier_is_established`: strictly above `NEWCOMER`. -/
def tierIsEstablished : Tier → Bool
  | .trusted | .veteran | .sentinel => true
  | .newcomer => false

/-- `eligible_from`: who may issue a vouch. -/
def eligibleFrom (is_root tier_established : Bool) : Bool := is_root || tier_established

/-- `is_root`. -/
def isRoot (roots : List Pubkey) (pubkey : Pubkey) : Bool := roots.any fun r => r == pubkey

/-- `EXISTS (SELECT 1 FROM users u WHERE u.nostr_pubkey = .. AND
u.reputation_tier IN ('TRUSTED','VETERAN','SENTINEL'))`. -/
def hasEstablishedTier (users : Table Pubkey User) (pubkey : Pubkey) : Bool :=
  (users.find? pubkey).any fun u => tierIsEstablished u.reputation_tier

/-- `has_active_vouch`: unrevoked, unexpired, from a currently eligible voucher. -/
def hasActiveVouch (users : Table Pubkey User) (vouches : List Vouch) (now : Timestamp)
    (roots : List Pubkey) (pubkey : Pubkey) : Bool :=
  vouches.any fun v =>
    v.vouchee_pubkey == pubkey && v.revoked_at.isNone && v.expires_at.all (fun t => decide (t > now))
      && (isRoot roots v.voucher_pubkey || hasEstablishedTier users v.voucher_pubkey)

/-- `reputation_tier`, `NEWCOMER` for a key without a row. -/
def reputationTier (users : Table Pubkey User) (pubkey : Pubkey) : Tier :=
  ((users.find? pubkey).map User.reputation_tier).getD .newcomer

/-- `resolve`. -/
def resolve (users : Table Pubkey User) (vouches : List Vouch) (now : Timestamp)
    (roots : List Pubkey) (pubkey : Pubkey) : PersonhoodSource :=
  classify (isRoot roots pubkey) (tierIsEstablished (reputationTier users pubkey))
    (hasActiveVouch users vouches now roots pubkey)

/-- The `WHERE` clause of the query of `cast_vote` on the voter of a row. -/
def countsAsEstablished (users : Table Pubkey User) (vouches : List Vouch) (now : Timestamp)
    (roots : List Pubkey) (voter : Pubkey) : Bool :=
  decide (voter ∈ roots) || hasEstablishedTier users voter
    || vouches.any fun v =>
      v.vouchee_pubkey == voter && v.revoked_at.isNone
        && v.expires_at.all (fun t => decide (t > now))
        && (decide (v.voucher_pubkey ∈ roots) || hasEstablishedTier users v.voucher_pubkey)

/-- `SELECT COUNT(DISTINCT rv.voter_pubkey) FROM report_votes rv WHERE ..`. -/
def establishedConfirmations (votes : Table (Uuid × Pubkey) Vote) (users : Table Pubkey User)
    (vouches : List Vouch) (now : Timestamp) (roots : List Pubkey) (report_id : Uuid) : ℤ :=
  ((votes.rows.filter fun r =>
      decide (r.1.1 = report_id) && decide (r.2.vote = .confirm)
        && countsAsEstablished users vouches now roots r.1.2).map fun r => r.1.2).dedup.length

/-- A key is established when one of the three signals applies. -/
theorem isEstablished_classify (is_root tier_established has_active_vouch : Bool) :
    isEstablished (classify is_root tier_established has_active_vouch) =
      (is_root || tier_established || has_active_vouch) := by
  cases is_root <;> cases tier_established <;> cases has_active_vouch <;> rfl

/-- `is_root` is `= ANY($2)` on the same list. -/
theorem isRoot_eq_decide_mem (roots : List Pubkey) (pubkey : Pubkey) :
    isRoot roots pubkey = decide (pubkey ∈ roots) := by
  unfold isRoot
  rw [Bool.eq_iff_iff, List.any_beq', List.elem_iff, decide_eq_true_iff]

/-- The default tier of a key without a row is not an established one. -/
theorem tierIsEstablished_reputationTier (users : Table Pubkey User) (pubkey : Pubkey) :
    tierIsEstablished (reputationTier users pubkey) = hasEstablishedTier users pubkey := by
  unfold reputationTier hasEstablishedTier
  cases users.find? pubkey with
  | none => rfl
  | some u => rfl

/-- **The nested SQL condition is the classifier's.** -/
theorem countsAsEstablished_eq (users : Table Pubkey User) (vouches : List Vouch)
    (now : Timestamp) (roots : List Pubkey) (voter : Pubkey) :
    countsAsEstablished users vouches now roots voter =
      isEstablished (resolve users vouches now roots voter) := by
  unfold resolve
  rw [isEstablished_classify, isRoot_eq_decide_mem, tierIsEstablished_reputationTier]
  unfold countsAsEstablished hasActiveVouch
  simp only [isRoot_eq_decide_mem]

/-- **The consensus gate counts the established confirmers**: the voters with a
`CONFIRM` row on the report whom `resolve` finds established, each once. -/
theorem establishedConfirmations_eq_ncard (votes : Table (Uuid × Pubkey) Vote)
    (users : Table Pubkey User) (vouches : List Vouch) (now : Timestamp) (roots : List Pubkey)
    (report_id : Uuid) :
    establishedConfirmations votes users vouches now roots report_id =
      Set.ncard {voter | (∃ row, ((report_id, voter), row) ∈ votes.rows ∧ row.vote = .confirm) ∧
        isEstablished (resolve users vouches now roots voter) = true} := by
  unfold establishedConfirmations
  have hset : {voter | (∃ row, ((report_id, voter), row) ∈ votes.rows ∧ row.vote = .confirm) ∧
      isEstablished (resolve users vouches now roots voter) = true} =
      ((votes.rows.filter fun r => decide (r.1.1 = report_id) && decide (r.2.vote = .confirm)
        && countsAsEstablished users vouches now roots r.1.2).map fun r => r.1.2).toFinset := by
    ext voter
    simp only [Set.mem_ofPred_eq, List.coe_toFinset, List.mem_map, List.mem_filter,
      Bool.and_eq_true, decide_eq_true_eq, ← countsAsEstablished_eq]
    constructor
    · rintro ⟨⟨row, hrow, hconfirm⟩, hcounts⟩
      exact ⟨((report_id, voter), row), ⟨hrow, ⟨rfl, hconfirm⟩, hcounts⟩, rfl⟩
    · rintro ⟨⟨⟨_, _⟩, row⟩, ⟨hrow, ⟨rfl, hconfirm⟩, hcounts⟩, rfl⟩
      exact ⟨⟨row, hrow, hconfirm⟩, hcounts⟩
  rw [hset, Set.ncard_coe_finset, List.card_toFinset]

/-- **No established confirmer, no count.** -/
theorem establishedConfirmations_eq_zero {votes : Table (Uuid × Pubkey) Vote}
    {users : Table Pubkey User} {vouches : List Vouch} {now : Timestamp} {roots : List Pubkey}
    {report_id : Uuid} (h : ∀ k v, (k, v) ∈ votes.rows → v.vote = .confirm →
      countsAsEstablished users vouches now roots k.2 = false) :
    establishedConfirmations votes users vouches now roots report_id = 0 := by
  unfold establishedConfirmations
  rw [List.filter_eq_nil_iff.2]
  · rfl
  · rintro ⟨k, v⟩ hr hc
    simp only [Bool.and_eq_true, decide_eq_true_eq] at hc
    rw [h k v hr hc.1.2] at hc
    exact Bool.false_ne_true hc.2

end Ledger
end SentinelMesh
