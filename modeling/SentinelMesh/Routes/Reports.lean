/-
# The vote route

`vote` of `routes/reports.rs`: the checks on the request, the author of the
report from the restricted pool, the self-vote check, then `cast_vote`.

The content of the signed event is `v1|<vote>|<report>`, so a verified event
names the report and the choice it is for (`voteBindingContent_inj`): under
`IdsBind` two votes with one event id are one voter's on one report.
-/

import SentinelMesh.Reports.Service
import SentinelMesh.Routes.Guards

namespace SentinelMesh
namespace Ledger

open Lib

/-- `CastVoteBody` with the report of the path. -/
structure CastVoteBody where
  report_id : Uuid
  voter_pubkey : Pubkey
  vote : String
  voter_nostr_event : RawEvent
  voter_lat : Option ℚ
  voter_lng : Option ℚ
  deriving DecidableEq

/-- `vote_binding_content`. -/
def voteBindingContent (vote : String) (report_id : Uuid) : String :=
  "v1|" ++ vote ++ "|" ++ report_id

/-- `valid_optional_coordinate_pair`. -/
def validOptionalCoordinatePair : Option ℚ → Option ℚ → Bool
  | none, none => true
  | some lat, some lng =>
    decide (-90 ≤ lat) && decide (lat ≤ 90) && decide (-180 ≤ lng) && decide (lng ≤ 180)
  | _, _ => false

/-- The `CastVoteInput` of a request. -/
def CastVoteBody.input (body : CastVoteBody) : CastVoteInput :=
  { voter_pubkey := body.voter_pubkey, nostr_event_id := body.voter_nostr_event.id,
    vote := body.vote, voter_lat := body.voter_lat, voter_lng := body.voter_lng }

/-- The checks of `vote` on the request alone. -/
def checkVote (verify : NostrEvent → Bool) (now : Timestamp) (gates : Gates) (body : CastVoteBody) :
    Except AppError Unit := do
  ensure (!gates.limited) .rateLimited
  ensure (VoteChoice.ofText? body.vote).isSome (.badRequest "vote must be CONFIRM or DENY")
  ensure (validOptionalCoordinatePair body.voter_lat body.voter_lng)
    (.badRequest "voter coordinates must be valid latitude/longitude values")
  verifyNostrEvent verify now body.voter_nostr_event body.voter_pubkey 300
  ensure (decide (body.voter_nostr_event.content = voteBindingContent body.vote body.report_id))
    (.badRequest "voter_nostr_event content is not bound to this vote")
  replayGuard gates.redis body.voter_nostr_event.id

/-- The author from `report_author`, who may not vote. -/
def reportAuthor (authors : Table Uuid Author) (body : CastVoteBody) : Except AppError Pubkey :=
  match authors.find? body.report_id with
  | none => .error .notFound
  | some author =>
    if author.nostr_pubkey = body.voter_pubkey then
      .error (.badRequest "cannot vote on your own report")
    else .ok author.nostr_pubkey

/-- What the route answers to an error of `cast_vote`. -/
def voteError : DbError → AppError
  | .uniqueViolation _ => .badRequest "already voted on this report"
  | .reportNotFound => .notFound
  | e => e.internal

/-- `vote`: the request is checked at `checked` and its author read from
`authors`; `cast_vote` began at `began`. -/
def vote (env : Env) (pg : Pg) (roots : List Pubkey) (gate : Bool) (checked began : Timestamp)
    (gates : Gates) (authors : Table Uuid Author) (peek : Db → Peek) (body : CastVoteBody)
    (db : Db) : Db × Except AppError Report :=
  match (do checkVote env.verify checked gates body; reportAuthor authors body) with
  | .error e => (db, .error e)
  | .ok author =>
    match (castVote env pg began peek body.report_id body.input roots gate author).commit db with
    | (db, .ok report) => (db, .ok report)
    | (db, .error e) => (db, .error (voteError e))

/-- A vote that is refused changes no row. -/
theorem vote_of_error {env : Env} {pg : Pg} {roots : List Pubkey} {gate : Bool}
    {checked began : Timestamp} {gates : Gates} {authors : Table Uuid Author} {peek : Db → Peek}
    {body : CastVoteBody} {db : Db} {e : AppError}
    (h : (vote env pg roots gate checked began gates authors peek body db).2 = .error e) :
    (vote env pg roots gate checked began gates authors peek body db).1 = db := by
  unfold vote at h ⊢
  split at h
  · rfl
  · split at h
    · cases h
    · rename_i author _ _ db' e' hc
      have hdb := Txn.commit_of_error (congrArg Prod.snd hc)
      rw [hc] at hdb
      exact hdb

/-- A vote that is accepted passed the checks and ran `cast_vote` to its end. -/
theorem vote_eq_ok {env : Env} {pg : Pg} {roots : List Pubkey} {gate : Bool}
    {checked began : Timestamp} {gates : Gates} {authors : Table Uuid Author} {peek : Db → Peek}
    {body : CastVoteBody} {db db' : Db} {r : Report} :
    vote env pg roots gate checked began gates authors peek body db = (db', .ok r) ↔
      ∃ author, checkVote env.verify checked gates body = .ok () ∧
        reportAuthor authors body = .ok author ∧
        (castVote env pg began peek body.report_id body.input roots gate author).run db =
          .ok (r, db') := by
  unfold vote
  split
  · rename_i e he
    constructor
    · intro h
      simp at h
    · rintro ⟨author, hc, ha, _⟩
      rw [bind_eq_ok.2 ⟨(), hc, ha⟩] at he
      cases he
  · rename_i author hok
    obtain ⟨_, hc, ha⟩ := bind_eq_ok.1 hok
    constructor
    · intro h
      refine ⟨author, hc, ha, Txn.commit_eq_ok_iff.1 ?_⟩
      split at h
      · rename_i db₁ r₁ he
        simp only [Prod.mk.injEq, Except.ok.injEq] at h
        rw [he, h.1, h.2]
      · simp at h
    · rintro ⟨author', _, ha', hrun⟩
      obtain rfl : author = author' := by simpa [ha] using ha'
      rw [Txn.commit_eq_ok_iff.2 hrun]

theorem reportAuthor_eq_ok {authors : Table Uuid Author} {body : CastVoteBody} {author : Pubkey}
    (h : reportAuthor authors body = .ok author) :
    (∃ a, authors.find? body.report_id = some a ∧ a.nostr_pubkey = author) ∧
      author ≠ body.voter_pubkey := by
  unfold reportAuthor at h
  split at h
  · cases h
  · rename_i a ha
    split at h
    · cases h
    · rename_i hne
      cases h
      exact ⟨⟨a, ha, rfl⟩, hne⟩

/-- What the checks establish of a request: a choice, and a verified event by
the voter whose content names this vote. -/
theorem checkVote_eq_ok {verify : NostrEvent → Bool} {now : Timestamp} {gates : Gates}
    {body : CastVoteBody} (h : checkVote verify now gates body = .ok ()) :
    (∃ c, VoteChoice.ofText? body.vote = some c) ∧
      ∃ event, body.voter_nostr_event.parse = some event ∧ event.pubkey = body.voter_pubkey ∧
        verify event = true ∧ event.content = voteBindingContent body.vote body.report_id := by
  unfold checkVote at h
  simp only [bind_eq_ok, ensure_eq_ok, decide_eq_true_eq] at h
  obtain ⟨_, _, _, hchoice, _, _, _, hevent, _, hcontent, _⟩ := h
  obtain ⟨event, hparse, hpk, hv⟩ := verifyNostrEvent_ok hevent
  refine ⟨Option.isSome_iff_exists.1 hchoice, event, hparse, hpk, hv, ?_⟩
  rw [(RawEvent.parse_eq_some hparse).1, hcontent]

/-- **A signed content names its report.** -/
theorem voteBindingContent_inj {v v' : VoteChoice} {id id' : Uuid}
    (h : voteBindingContent v.text id = voteBindingContent v'.text id') : id = id' := by
  have h := congrArg String.toList h
  unfold voteBindingContent at h
  refine String.toList_inj.1 ?_
  cases v <;> cases v' <;> simp_all [VoteChoice.text]

end Ledger
end SentinelMesh
