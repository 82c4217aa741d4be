/-
# Issuing and revoking vouches

`vouches/mod.rs` (`issue_vouch`, `revoke_vouch`) and `routes/vouches.rs`
(`post_vouch`, `delete_vouch`).

A vouch is issued by a root or a key of an established tier, within the
voucher's budget of unrevoked vouches.  The eligibility of the voucher and the
suspension flag are read before the transaction that inserts the row, and the
budget is counted under a lock that other vouches of the voucher take and a
revocation does not: each is a table of users or vouches of its own in the
parameters.
-/

import SentinelMesh.Routes.Guards
import SentinelMesh.Trust.Personhood

namespace SentinelMesh
namespace Ledger

/-- `IssueOutcome`. -/
inductive IssueOutcome
  | inserted
  | budgetExhausted
  | duplicate
  deriving DecidableEq, Repr

/-- `Vouch` rows that are active. -/
def Vouch.active (v : Vouch) : Bool := v.revoked_at.isNone

/-- The row of a new vouch. -/
def newVouch (now : Timestamp) (voucher vouchee : Pubkey) (basis : Basis) (event_id : String) :
    Vouch :=
  { voucher_pubkey := voucher, vouchee_pubkey := vouchee, issuance_basis := basis,
    nostr_event_id := event_id, created_at := now }

/-- `issue_vouch` on the vouches it inserts into; `counted` are those the budget
was counted on. -/
def issueVouch (now : Timestamp) (counted vouches : List Vouch) (voucher vouchee : Pubkey)
    (basis : Basis) (event_id : String) (budget : ℤ) : List Vouch × Except DbError IssueOutcome :=
  let count : ℤ := counted.countP fun v => v.voucher_pubkey == voucher && v.active
  if count ≥ budget then (vouches, .ok .budgetExhausted)
  else if voucher = vouchee then (vouches, .error (.checkViolation "vouches_check"))
  else if vouches.any fun v =>
      v.voucher_pubkey == voucher && v.vouchee_pubkey == vouchee && v.active then
    (vouches, .ok .duplicate)
  else (vouches ++ [newVouch now voucher vouchee basis event_id], .ok .inserted)

/-- The rows `revoke_vouch` updates. -/
def revokes (voucher vouchee : Pubkey) (v : Vouch) : Bool :=
  v.voucher_pubkey == voucher && v.vouchee_pubkey == vouchee && v.active

/-- `revoke_vouch`. -/
def revokeVouch (now : Timestamp) (vouches : List Vouch) (voucher vouchee : Pubkey) :
    List Vouch × Bool :=
  (vouches.map fun v => if revokes voucher vouchee v then { v with revoked_at := some now } else v,
    vouches.any (revokes voucher vouchee))

/-- `IssueVouchBody`. -/
structure IssueVouchBody where
  voucher_pubkey : Pubkey
  vouchee_pubkey : Pubkey
  nostr_event : RawEvent
  deriving DecidableEq

/-- `RevokeVouchBody`. -/
structure RevokeVouchBody where
  voucher_pubkey : Pubkey
  nostr_event : RawEvent
  deriving DecidableEq

/-- `vouch_binding_content`. -/
def vouchBindingContent (vouchee : Pubkey) : String := "sentinelmesh:vouch:v1:" ++ vouchee

/-- `vouch_revoke_binding_content`. -/
def vouchRevokeBindingContent (vouchee : Pubkey) : String :=
  "sentinelmesh:vouch-revoke:v1:" ++ vouchee

/-- `is_hex64`. -/
def isHex64 (s : String) : Bool := isHex 64 s

/-- The checks of `post_vouch` before the database. -/
def checkIssue (verify : NostrEvent → Bool) (now : Timestamp) (gates : Gates)
    (body : IssueVouchBody) : Except AppError Unit := do
  ensure (!gates.limited) .rateLimited
  ensure (decide (body.voucher_pubkey ≠ body.vouchee_pubkey))
    (.badRequest "cannot vouch for yourself")
  ensure (isHex64 body.vouchee_pubkey)
    (.badRequest "vouchee_pubkey must be a 64-char hex Nostr pubkey")
  verifyNostrEvent verify now body.nostr_event body.voucher_pubkey 300
  ensure (decide (body.nostr_event.content = vouchBindingContent body.vouchee_pubkey))
    (.badRequest "nostr_event content is not bound to this vouch")
  replayGuard gates.redis body.nostr_event.id

/-- The voucher is eligible in `tiers` and not suspended in `flags`; the basis
and the budget of the vouch. -/
def eligibility (roots : List Pubkey) (vouch_budget : ℕ) (tiers flags : Lib.Table Pubkey User)
    (voucher : Pubkey) : Except AppError (Basis × ℤ) := do
  let is_root := isRoot roots voucher
  let tier_est := tierIsEstablished (reputationTier tiers voucher)
  ensure (eligibleFrom is_root tier_est) .forbidden
  let (suspended, override_budget) := ((flags.find? voucher).map fun u =>
    (u.vouching_suspended, u.vouch_budget_override)).getD (false, none)
  ensure (!suspended) .forbidden
  pure (if is_root then .root else .earned, override_budget.getD vouch_budget)

/-- The response to an issue attempt. -/
def issueResponse : Except DbError IssueOutcome → Except AppError Unit
  | .error e => .error e.internal
  | .ok .inserted => .ok ()
  | .ok .budgetExhausted => .error (.conflict "vouch budget exhausted")
  | .ok .duplicate => .error (.conflict "already vouching for this key")

/-- `post_vouch`: checked at `checked`, inserted by a transaction that began at
`began`. -/
def postVouch (verify : NostrEvent → Bool) (roots : List Pubkey) (vouch_budget : ℕ)
    (checked began : Timestamp) (gates : Gates) (tiers flags : Lib.Table Pubkey User)
    (counted vouches : List Vouch) (body : IssueVouchBody) : List Vouch × Except AppError Unit :=
  match (do
    checkIssue verify checked gates body
    eligibility roots vouch_budget tiers flags body.voucher_pubkey) with
  | .error e => (vouches, .error e)
  | .ok (basis, budget) =>
    let (vouches, res) := issueVouch began counted vouches body.voucher_pubkey body.vouchee_pubkey
      basis body.nostr_event.id budget
    (vouches, issueResponse res)

/-- The checks of `delete_vouch` before the database. -/
def checkRevoke (verify : NostrEvent → Bool) (now : Timestamp) (gates : Gates) (vouchee : Pubkey)
    (body : RevokeVouchBody) : Except AppError Unit := do
  ensure (!gates.limited) .rateLimited
  verifyNostrEvent verify now body.nostr_event body.voucher_pubkey 300
  ensure (decide (body.nostr_event.content = vouchRevokeBindingContent vouchee))
    (.badRequest "nostr_event content is not bound to this revocation")
  replayGuard gates.redis body.nostr_event.id

/-- `delete_vouch`: checked at `checked`, the row updated at `now`. -/
def deleteVouch (verify : NostrEvent → Bool) (checked now : Timestamp) (gates : Gates)
    (vouchee : Pubkey) (vouches : List Vouch) (body : RevokeVouchBody) :
    List Vouch × Except AppError Unit :=
  match checkRevoke verify checked gates vouchee body with
  | .error e => (vouches, .error e)
  | .ok () =>
    let (vouches, revoked) := revokeVouch now vouches body.voucher_pubkey vouchee
    (vouches, if revoked then .ok () else .error .notFound)

/-- **A vouch that is issued** adds one row, and its voucher was a root or of an
established tier in the tables the route read. -/
theorem postVouch_cases (verify : NostrEvent → Bool) (roots : List Pubkey) (vouch_budget : ℕ)
    (checked began : Timestamp) (gates : Gates) (tiers flags : Lib.Table Pubkey User)
    (counted vouches : List Vouch) (body : IssueVouchBody) :
    let p := postVouch verify roots vouch_budget checked began gates tiers flags counted vouches body
    (p.1 = vouches ∧ ∃ e, p.2 = .error e) ∨
    (p.2 = .ok () ∧
      (body.voucher_pubkey ∈ roots ∨
        tierIsEstablished (reputationTier tiers body.voucher_pubkey) = true) ∧
      ∃ v, v.voucher_pubkey = body.voucher_pubkey ∧ p.1 = vouches ++ [v]) := by
  dsimp only
  unfold postVouch
  split
  · rename_i e _
    exact Or.inl ⟨rfl, e, rfl⟩
  · rename_i basis budget h
    obtain ⟨_, _, h⟩ := bind_eq_ok.1 h
    unfold eligibility at h
    simp only [bind_eq_ok, ensure_eq_ok] at h
    obtain ⟨_, hel, _⟩ := h
    have hel : body.voucher_pubkey ∈ roots ∨
        tierIsEstablished (reputationTier tiers body.voucher_pubkey) = true := by
      simpa [eligibleFrom, isRoot] using hel
    dsimp only [issueVouch]
    split_ifs
    · exact Or.inl ⟨rfl, _, rfl⟩
    · exact Or.inl ⟨rfl, _, rfl⟩
    · exact Or.inl ⟨rfl, _, rfl⟩
    · exact Or.inr ⟨rfl, hel, _, rfl, rfl⟩

/-- A revocation that is refused changes no row. -/
theorem deleteVouch_of_error {verify : NostrEvent → Bool} {checked now : Timestamp} {gates : Gates}
    {vouchee : Pubkey} {vouches : List Vouch} {body : RevokeVouchBody} {e : AppError}
    (h : (deleteVouch verify checked now gates vouchee vouches body).2 = .error e) :
    (deleteVouch verify checked now gates vouchee vouches body).1 = vouches := by
  unfold deleteVouch at h ⊢
  split at h
  · rfl
  · dsimp only [revokeVouch] at h ⊢
    split at h
    · cases h
    · rename_i hno
      -- no row matches, so the update touches none
      refine (List.map_congr_left fun v hv => if_neg fun hr => ?_).trans (List.map_id _)
      exact hno (List.any_eq_true.2 ⟨v, hv, hr⟩)

/-- A revocation changes `revoked_at` alone: who vouched for whom stays. -/
theorem vouchers_deleteVouch (verify : NostrEvent → Bool) (checked now : Timestamp) (gates : Gates)
    (vouchee : Pubkey) (vouches : List Vouch) (body : RevokeVouchBody) :
    (deleteVouch verify checked now gates vouchee vouches body).1.map Vouch.voucher_pubkey =
      vouches.map Vouch.voucher_pubkey := by
  unfold deleteVouch
  split
  · rfl
  · simp only [revokeVouch, List.map_map]
    refine List.map_congr_left fun v _ => ?_
    simp only [Function.comp]
    split <;> rfl

end Ledger
end SentinelMesh
