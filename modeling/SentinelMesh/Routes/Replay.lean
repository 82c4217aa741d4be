/-
# Whether a signed submission is accepted once

The report, vote and vouch routes over time, on one Redis and one database.

A signature is verified on the parsed event, whose id is read from hex of either
case, while the replay guard claims the id as the request spells it, and the
tables store it so.  A second spelling of an event is a second key.  For a vote
this does not matter, since a voter has one row on a report whatever the event;
a report or a vouch can be accepted again (`respelled_report_accepted`).

`accepted_once` is what does hold: as long as no report and no vouch comes with
an id that its table stores in another letter case, the accepted posts parse to
different ids, over every run.  A report is then caught by the `UNIQUE` column, a
vote by its key, and a vouch, whose rows can be revoked and issued again, by the
replay key, which outlives the freshness of its event.
-/

import SentinelMesh.Auth.SingleUse
import SentinelMesh.Ledger.System
import SentinelMesh.Routes.Submit

namespace SentinelMesh
namespace Ledger
namespace Replay

open Lib

/-- What `Utc::now()` can return. -/
def Instant : Type := { t : Timestamp // 0 ≤ seconds t ∧ seconds t ≤ Auth.maxUtcSecs }

/-- Time passes, as far as the clock goes. -/
def Instant.wait (now : Instant) (d : ℕ) : Instant :=
  if h : 0 ≤ seconds (now.1 + d) ∧ seconds (now.1 + d) ≤ Auth.maxUtcSecs then ⟨now.1 + d, h⟩
  else now

/-- A request that carries a signed event. -/
inductive Request
  | report (id : Uuid) (body : CreateReportBody)
  | vote (body : CastVoteBody)
  | vouch (body : IssueVouchBody)
  | revoke (vouchee : Pubkey) (body : RevokeVouchBody)

namespace Request

/-- The event as submitted. -/
def event : Request → RawEvent
  | report _ body => body.nostr_event
  | vote body => body.voter_nostr_event
  | vouch body => body.nostr_event
  | revoke _ body => body.nostr_event

/-- The key the event has to be signed by. -/
def signer : Request → Pubkey
  | report _ body => body.nostr_pubkey
  | vote body => body.voter_pubkey
  | vouch body => body.voucher_pubkey
  | revoke _ body => body.voucher_pubkey

/-- What the event has to be signed for. -/
def action : Request → SignedAction
  | report _ body => .report body.report_type body.lat body.lng body.description
  | vote body => .vote body.vote body.report_id
  | vouch body => .vouch body.vouchee_pubkey
  | revoke vouchee _ => .revocation vouchee

/-- The checks of the route up to its replay guard. -/
def check (verify : NostrEvent → Bool) (now : Timestamp) (gates : Gates) :
    Request → Except AppError Unit
  | report _ body => checkReport verify now gates body
  | vote body => checkVote verify now gates body
  | vouch body => checkIssue verify now gates body
  | revoke vouchee body => checkRevoke verify now gates vouchee body

/-- The route, which runs at one instant. -/
def respond (gw : Gateway) (rules : Rules) (now : Timestamp) (gates : Gates) (db : Db) :
    Request → Db × Except AppError Unit
  | report id body =>
    let (db, res) := postReport gw.env gw.pg now now gates id body db
    (db, res.map fun _ => ())
  | vote body =>
    let (db, res) := Ledger.vote gw.env gw.pg rules.genesis_roots rules.require_established now now
      gates db.authors Peek.own body db
    (db, res.map fun _ => ())
  | vouch body =>
    let (vouches, res) := postVouch gw.env.verify rules.genesis_roots gw.vouch_budget now now gates
      db.users db.users db.vouches db.vouches body
    ({ db with vouches }, res)
  | revoke vouchee body =>
    let (vouches, res) := deleteVouch gw.env.verify now now gates vouchee db.vouches body
    ({ db with vouches }, res)

/-- The request is a `POST`. -/
def isPost : Request → Bool
  | revoke .. => false
  | _ => true

end Request

/-- The key of the replay guard. -/
def replayKey (event_id : String) : String := "report:v1:jti:" ++ event_id

/-- The lifetime of a replay key: 600 seconds. -/
def replayTtl : Timestamp := 600 * 1000000

/-- `SET key 1 NX EX 600`: the store, and the answer unless it is lost. -/
def askRedis (redis : Expiring String Timestamp) (now : Timestamp) (event_id : String)
    (wire : Auth.Wire) : Expiring String Timestamp × Option Bool :=
  if wire.reached then
    let (redis', set) := redis.setNx now (replayKey event_id) replayTtl
    (redis', if wire.replied then some set else none)
  else (redis, none)

/-- The clock, Redis and the tables. -/
structure Sys where
  now : Instant
  redis : Expiring String Timestamp
  db : Db

/-- What can happen: time passes, workers and operators rewrite `users`, or a
request is served. -/
inductive Act
  | wait (d : ℕ)
  | users (users : Table Pubkey User)
  | serve (r : Request) (limited : Bool) (wire : Auth.Wire)

/-- What Redis answers to a request, which asks when its checks pass. -/
def Sys.guard (gw : Gateway) (s : Sys) (r : Request) (limited : Bool) (wire : Auth.Wire) :
    Expiring String Timestamp × Option Bool :=
  match r.check gw.env.verify s.now.1 { limited } with
  | .ok () => askRedis s.redis s.now.1 r.event.id wire
  | .error _ => (s.redis, none)

/-- The response to a request, and the tables after it. -/
def Sys.respond (gw : Gateway) (rules : Rules) (s : Sys) (r : Request) (limited : Bool)
    (wire : Auth.Wire) : Db × Except AppError Unit :=
  r.respond gw rules s.now.1 ⟨limited, (s.guard gw r limited wire).2⟩ s.db

/-- The state after an action. -/
def step (gw : Gateway) (rules : Rules) (s : Sys) : Act → Sys
  | .wait d => { s with now := s.now.wait d }
  | .users users => { s with db := { s.db with users } }
  | .serve r limited wire =>
    { s with redis := (s.guard gw r limited wire).1, db := (s.respond gw rules r limited wire).1 }

/-- The request that an action accepts, if it is a `POST`. -/
def accepted (gw : Gateway) (rules : Rules) (s : Sys) : Act → Option Request
  | .serve r limited wire => match (s.respond gw rules r limited wire).2 with
    | .ok () => if r.isPost then some r else none
    | .error _ => none
  | _ => none

/-- The accepted posts of a run, in order. -/
def posts (gw : Gateway) (rules : Rules) (es : List (Event Sys Act)) : List Request :=
  es.filterMap fun e => accepted gw rules e.pre e.act

/-- The id that the event of a request parses to. -/
def parsedId (r : Request) : Option String := r.event.parse.map NostrEvent.id

/-- The two texts are spellings of one id that differ in letter case. -/
def otherCase (stored id : String) : Bool :=
  decide (toAsciiLowercase stored = toAsciiLowercase id) && decide (stored ≠ id)

/-- The request is a report or a vouch whose event id its table stores in another
letter case. -/
def respelled (s : Sys) : Act → Bool
  | .serve (.report _ body) _ _ =>
    s.db.authors.rows.any fun r => otherCase r.2.nostr_event_id body.nostr_event.id
  | .serve (.vouch body) _ _ =>
    s.db.vouches.any fun v => otherCase v.nostr_event_id body.nostr_event.id
  | _ => false

/-! ### What an accepted request has passed -/

/-- The freshness of an event by a clock, as the routes compute it. -/
def Fresh (now : Timestamp) (event : NostrEvent) : Prop :=
  -10 ≤ seconds now - wrap 64 event.created_at ∧ seconds now - wrap 64 event.created_at ≤ 300

/-- The age of an accepted event does not wrap around. -/
theorem fresh_of_verify {verify : NostrEvent → Bool} {now : Instant} {raw : RawEvent} {pk : Pubkey}
    (h : verifyNostrEvent verify now.1 raw pk 300 = .ok ()) :
    ∃ event, raw.parse = some event ∧ event.pubkey = pk ∧ verify event = true ∧
      Fresh now.1 event := by
  obtain ⟨event, hparse, hpk, hverify⟩ := verifyNostrEvent_ok h
  refine ⟨event, hparse, hpk, hverify, ?_⟩
  unfold verifyNostrEvent at h
  rw [hparse] at h
  dsimp only at h
  split_ifs at h with _ hage
  have hclock := now.2
  unfold Auth.maxUtcSecs at hclock
  have hrange : InRange 63 (wrap 64 event.created_at) := wrap_mem 63 _
  obtain ⟨hlow, hhigh⟩ := hrange
  unfold Fresh
  -- above `2 ^ 63` the difference wraps to far below zero
  by_cases hsmall : seconds now.1 - wrap 64 event.created_at < 2 ^ 63
  · have hdiff : wrap 64 (seconds now.1 - wrap 64 event.created_at) =
        seconds now.1 - wrap 64 event.created_at := wrap_of_mem (w := 63) ⟨by omega, hsmall⟩
    rw [hdiff] at hage
    omega
  · have hdiff : wrap 64 (seconds now.1 - wrap 64 event.created_at) =
        seconds now.1 - wrap 64 event.created_at - 2 ^ 64 := by
      rw [← wrap_sub_two_pow]
      exact wrap_of_mem (w := 63) ⟨by omega, by omega⟩
    rw [hdiff] at hage
    omega

theorem replayGuard_eq_ok {redis : Option Bool} {event_id : String}
    (h : replayGuard redis event_id = .ok ()) : redis = some true := by
  unfold replayGuard at h
  split at h
  · cases h
  · split at h
    · cases h
    · cases h
    · rfl

/-- What the checks of a route establish. -/
structure Checked (verify : NostrEvent → Bool) (now : Timestamp) (r : Request)
    (event : NostrEvent) : Prop where
  parsed : r.event.parse = some event
  signed : event.pubkey = r.signer
  verified : verify event = true
  fresh : Fresh now event
  bound : event.content = r.action.content
  fields : r.action.accepted = true

/-- An event that is verified, bound to what is done and guarded is checked, and its guard
would let it pass on its own. -/
theorem checked_of_event {verify : NostrEvent → Bool} {now : Instant} {redis : Option Bool}
    {r : Request} (hevent : verifyNostrEvent verify now.1 r.event r.signer 300 = .ok ())
    (hcontent : r.event.content = r.action.content) (hfields : r.action.accepted = true)
    (hguard : replayGuard redis r.event.id = .ok ()) :
    redis = some true ∧ replayGuard (some true) r.event.id = .ok () ∧
      ∃ event, Checked verify now.1 r event := by
  have hset := replayGuard_eq_ok hguard
  obtain ⟨event, hparse, hpk, hverify, hfresh⟩ := fresh_of_verify hevent
  refine ⟨hset, ?_, event, hparse, hpk, hverify, hfresh, ?_, hfields⟩
  · rw [hset] at hguard
    exact hguard
  · exact (RawEvent.parse_eq_some hparse).1.trans hcontent

theorem checked_of_check {verify : NostrEvent → Bool} {now : Instant} {gates : Gates} {r : Request}
    (h : r.check verify now.1 gates = .ok ()) :
    gates.redis = some true ∧ r.check verify now.1 { limited := gates.limited } = .ok () ∧
      ∃ event, Checked verify now.1 r event := by
  cases r with
  | report id body =>
      have h : checkReport verify now.1 gates body = .ok () := h
      show _ ∧ checkReport verify now.1 { limited := gates.limited } body = .ok () ∧ _
      unfold checkReport at h ⊢
      simp only [bind_eq_ok, ensure_eq_ok, decide_eq_true_eq] at h ⊢
      obtain ⟨_, hlim, _, htype, _, hevent, _, hrange, _, hcontent, hguard⟩ := h
      have hfields : (Request.report id body).action.accepted = true := by
        simp only [Request.action, SignedAction.accepted, Bool.and_eq_true, decide_eq_true_eq]
        exact ⟨htype, hrange⟩
      obtain ⟨hset, halone, hchecked⟩ :=
        @checked_of_event _ _ _ (.report id body) hevent hcontent hfields hguard
      exact ⟨hset, ⟨(), hlim, (), htype, (), hevent, (), hrange, (), hcontent, halone⟩, hchecked⟩
  | vote body =>
      have h : checkVote verify now.1 gates body = .ok () := h
      show _ ∧ checkVote verify now.1 { limited := gates.limited } body = .ok () ∧ _
      unfold checkVote at h ⊢
      simp only [bind_eq_ok, ensure_eq_ok, decide_eq_true_eq] at h ⊢
      obtain ⟨_, hlim, _, hchoice, _, hcoords, _, hevent, _, hcontent, hguard⟩ := h
      obtain ⟨hset, halone, hchecked⟩ :=
        @checked_of_event _ _ _ (.vote body) hevent hcontent hchoice hguard
      exact ⟨hset, ⟨(), hlim, (), hchoice, (), hcoords, (), hevent, (), hcontent, halone⟩, hchecked⟩
  | vouch body =>
      have h : checkIssue verify now.1 gates body = .ok () := h
      show _ ∧ checkIssue verify now.1 { limited := gates.limited } body = .ok () ∧ _
      unfold checkIssue at h ⊢
      simp only [bind_eq_ok, ensure_eq_ok, decide_eq_true_eq] at h ⊢
      obtain ⟨_, hlim, _, hself, _, hhex, _, hevent, _, hcontent, hguard⟩ := h
      obtain ⟨hset, halone, hchecked⟩ :=
        @checked_of_event _ _ _ (.vouch body) hevent hcontent hhex hguard
      exact ⟨hset, ⟨(), hlim, (), hself, (), hhex, (), hevent, (), hcontent, halone⟩, hchecked⟩
  | revoke vouchee body =>
      have h : checkRevoke verify now.1 gates vouchee body = .ok () := h
      show _ ∧ checkRevoke verify now.1 { limited := gates.limited } vouchee body = .ok () ∧ _
      unfold checkRevoke at h ⊢
      simp only [bind_eq_ok, ensure_eq_ok, decide_eq_true_eq] at h ⊢
      obtain ⟨_, hlim, _, hevent, _, hcontent, hguard⟩ := h
      obtain ⟨hset, halone, hchecked⟩ :=
        @checked_of_event _ _ _ (.revoke vouchee body) hevent hcontent rfl hguard
      exact ⟨hset, ⟨(), hlim, (), hevent, (), hcontent, halone⟩, hchecked⟩

/-! ### What a request does to the tables -/

/-- The tables keep what tells an event apart: no row goes, and no event id. -/
structure Kept (db db' : Db) : Prop where
  authors : ∀ row ∈ db.authors.rows, row ∈ db'.authors.rows
  votes : ∀ k, (db.votes.find? k).isSome = true → (db'.votes.find? k).isSome = true
  vouches : ∀ id, id ∈ db.vouches.map Vouch.nostr_event_id →
    id ∈ db'.vouches.map Vouch.nostr_event_id

theorem Kept.refl (db : Db) : Kept db db := ⟨fun _ h => h, fun _ h => h, fun _ h => h⟩

/-- What an accepted post leaves in the table of its kind. -/
def Stored (db : Db) : Request → Prop
  | .report _ body => ∃ k a, (k, a) ∈ db.authors.rows ∧ a.nostr_event_id = body.nostr_event.id
  | .vote body => (db.votes.find? (body.report_id, body.voter_pubkey)).isSome = true
  | .vouch body => body.nostr_event.id ∈ db.vouches.map Vouch.nostr_event_id
  | .revoke .. => True

theorem Kept.stored {db db' : Db} (h : Kept db db') {r : Request} (hr : Stored db r) :
    Stored db' r := by
  cases r with
  | report id body =>
      obtain ⟨k, a, ha, hid⟩ := hr
      exact ⟨k, a, h.authors _ ha, hid⟩
  | vote body => exact h.votes _ hr
  | vouch body => exact h.vouches _ hr
  | revoke vouchee body => trivial

/-- What an accepted request does to the tables that store event ids. -/
def Effect (db : Db) (r : Request) (db' : Db) : Prop := match r with
  | .report id body => (∀ k a, (k, a) ∈ db.authors.rows → a.nostr_event_id ≠ body.nostr_event.id) ∧
      db.authors.find? id = none ∧ ∃ a, a.nostr_event_id = body.nostr_event.id ∧
        db'.authors = db.authors.insert id a ∧ db'.votes = db.votes ∧ db'.vouches = db.vouches
  | .vote body => db.votes.find? (body.report_id, body.voter_pubkey) = none ∧
      ∃ row, db'.votes = db.votes.insert (body.report_id, body.voter_pubkey) row ∧
        db'.authors = db.authors ∧ db'.vouches = db.vouches
  | .vouch body => ∃ v, v.nostr_event_id = body.nostr_event.id ∧ db'.vouches = db.vouches ++ [v] ∧
      db'.authors = db.authors ∧ db'.votes = db.votes
  | .revoke .. => db'.vouches.map Vouch.nostr_event_id = db.vouches.map Vouch.nostr_event_id ∧
      db'.authors = db.authors ∧ db'.votes = db.votes

theorem Effect.kept {db db' : Db} {r : Request} (h : Effect db r db') : Kept db db' := by
  cases r with
  | report id body =>
      obtain ⟨_, hnew, a, _, hauthors, hvotes, hvouches⟩ := h
      refine ⟨fun row hrow => ?_, fun k hk => ?_, fun e he => ?_⟩
      · rw [hauthors, Table.rows_insert a hnew]
        exact List.mem_append_left _ hrow
      · rw [hvotes]
        exact hk
      · rw [hvouches]
        exact he
  | vote body =>
      obtain ⟨_, row, hvotes, hauthors, hvouches⟩ := h
      refine ⟨fun row hrow => ?_, fun k hk => ?_, fun e he => ?_⟩
      · rw [hauthors]
        exact hrow
      · rw [hvotes, Table.find?_insert]
        split_ifs
        · simp
        · exact hk
      · rw [hvouches]
        exact he
  | vouch body =>
      obtain ⟨v, _, hvouches, hauthors, hvotes⟩ := h
      refine ⟨fun row hrow => ?_, fun k hk => ?_, fun e he => ?_⟩
      · rw [hauthors]
        exact hrow
      · rw [hvotes]
        exact hk
      · rw [hvouches, List.map_append]
        exact List.mem_append_left _ he
  | revoke vouchee body =>
      obtain ⟨hvouches, hauthors, hvotes⟩ := h
      refine ⟨fun row hrow => ?_, fun k hk => ?_, fun e he => ?_⟩
      · rw [hauthors]
        exact hrow
      · rw [hvotes]
        exact hk
      · rw [hvouches]
        exact he

theorem Effect.stored {db db' : Db} {r : Request} (h : Effect db r db') : Stored db' r := by
  cases r with
  | report id body =>
      obtain ⟨_, hnew, a, hid, hauthors, _⟩ := h
      refine ⟨id, a, ?_, hid⟩
      rw [hauthors, Table.rows_insert a hnew]
      exact List.mem_append_right _ (List.mem_singleton_self _)
  | vote body =>
      obtain ⟨hnew, row, hvotes, _⟩ := h
      show (db'.votes.find? _).isSome = true
      rw [hvotes, Table.find?_insert, if_pos rfl]
      simp
  | vouch body =>
      obtain ⟨v, hid, hvouches, _⟩ := h
      show _ ∈ db'.vouches.map Vouch.nostr_event_id
      rw [hvouches, List.map_append, ← hid]
      exact List.mem_append_right _ (List.mem_singleton_self _)
  | revoke vouchee body => trivial

/-- A vote that commits adds its row and no other. -/
theorem votes_of_castVote {env : Env} {pg : Pg} {now : Timestamp} {peek : Db → Peek}
    {report_id : Uuid} {input : CastVoteInput} {roots : List Pubkey} {gate : Bool}
    {reporter : Pubkey} {db db' : Db} {r : Report}
    (h : (castVote env pg now peek report_id input roots gate reporter).run db = .ok (r, db')) :
    db.votes.find? (report_id, input.voter_pubkey) = none ∧
      ∃ row, db'.votes = db.votes.insert (report_id, input.voter_pubkey) row ∧
        db'.authors = db.authors ∧ db'.vouches = db.vouches := by
  obtain ⟨b, _, hcan, hend⟩ := run_castVote_eq_ok.1 h
  refine ⟨hcan.new_voter, b.row now input.nostr_event_id, ?_⟩
  unfold Concluded at hend
  split at hend
  · obtain ⟨_, rfl⟩ := hend
    exact ⟨rfl, rfl, rfl⟩
  · obtain ⟨_, _, rfl⟩ := hend
    exact ⟨rfl, rfl, rfl⟩

/-- A vouch that is issued adds a row with the event id of the request. -/
theorem postVouch_ok {verify : NostrEvent → Bool} {roots : List Pubkey} {vouch_budget : ℕ}
    {checked began : Timestamp} {gates : Gates} {tiers flags : Table Pubkey User}
    {counted vouches : List Vouch} {body : IssueVouchBody}
    (h : (postVouch verify roots vouch_budget checked began gates tiers flags counted vouches
      body).2 = .ok ()) :
    checkIssue verify checked gates body = .ok () ∧ ∃ v, v.nostr_event_id = body.nostr_event.id ∧
      (postVouch verify roots vouch_budget checked began gates tiers flags counted vouches
        body).1 = vouches ++ [v] := by
  unfold postVouch at h ⊢
  split at h
  · cases h
  · rename_i basis budget hok
    obtain ⟨_, hcheck, _⟩ := bind_eq_ok.1 hok
    refine ⟨hcheck, newVouch began body.voucher_pubkey body.vouchee_pubkey basis
      body.nostr_event.id, rfl, ?_⟩
    dsimp only [issueVouch] at h ⊢
    split_ifs at h ⊢
    · cases h
    · cases h
    · cases h
    · rfl

/-- A revocation keeps every event id. -/
theorem event_ids_deleteVouch (verify : NostrEvent → Bool) (checked now : Timestamp) (gates : Gates)
    (vouchee : Pubkey) (vouches : List Vouch) (body : RevokeVouchBody) :
    (deleteVouch verify checked now gates vouchee vouches body).1.map Vouch.nostr_event_id =
      vouches.map Vouch.nostr_event_id := by
  unfold deleteVouch
  split
  · rfl
  · simp only [revokeVouch, List.map_map]
    refine List.map_congr_left fun v _ => ?_
    simp only [Function.comp]
    split <;> rfl

/-- A response to a request, and the tables after it: the request is refused and changes no
table, or it passed its checks and has its effect. -/
def Served (gw : Gateway) (now : Timestamp) (gates : Gates) (db : Db) (r : Request)
    (res : Db × Except AppError Unit) : Prop :=
  (res.1 = db ∧ ∃ e, res.2 = .error e) ∨
    (res.2 = .ok () ∧ r.check gw.env.verify now gates = .ok () ∧ Effect db r res.1)

section Served

variable (gw : Gateway) (rules : Rules) (now : Timestamp) (gates : Gates) (db : Db)

theorem served_report (id : Uuid) (body : CreateReportBody) :
    Served gw now gates db (.report id body)
      (Request.respond gw rules now gates db (.report id body)) := by
  rcases hres : postReport gw.env gw.pg now now gates id body db with ⟨db', e | rep⟩
  · have hsame := postReport_of_error (congrArg Prod.snd hres)
    rw [hres] at hsame
    simp only [Request.respond, hres, Except.map]
    exact Or.inl ⟨hsame, e, rfl⟩
  · obtain ⟨hcheck, hrun⟩ := postReport_ok hres
    obtain ⟨_, hnew, rfl⟩ := run_createReport_eq_ok hrun
    simp only [Request.respond, hres, Except.map]
    exact Or.inr ⟨rfl, hcheck, fun k a ha => new_event_of_createReport hrun ha, hnew,
      newAuthor now body.input, rfl, rfl, rfl, rfl⟩

theorem served_vote (body : CastVoteBody) :
    Served gw now gates db (.vote body) (Request.respond gw rules now gates db (.vote body)) := by
  rcases hres : Ledger.vote gw.env gw.pg rules.genesis_roots rules.require_established now now
    gates db.authors Peek.own body db with ⟨db', e | rep⟩
  · have hsame := vote_of_error (congrArg Prod.snd hres)
    rw [hres] at hsame
    simp only [Request.respond, hres, Except.map]
    exact Or.inl ⟨hsame, e, rfl⟩
  · obtain ⟨author, hcheck, _, hrun⟩ := vote_eq_ok.1 hres
    simp only [Request.respond, hres, Except.map]
    exact Or.inr ⟨rfl, hcheck, votes_of_castVote hrun⟩

theorem served_vouch (body : IssueVouchBody) :
    Served gw now gates db (.vouch body) (Request.respond gw rules now gates db (.vouch body)) := by
  rcases hres : postVouch gw.env.verify rules.genesis_roots gw.vouch_budget now now gates
    db.users db.users db.vouches db.vouches body with ⟨vouches, e | u⟩
  · simp only [Request.respond, hres]
    rcases postVouch_cases gw.env.verify rules.genesis_roots gw.vouch_budget now now gates
      db.users db.users db.vouches db.vouches body with ⟨hsame, _⟩ | ⟨hok, _⟩
    · rw [hres] at hsame
      exact Or.inl ⟨congrArg (fun vouches => { db with vouches }) hsame, e, rfl⟩
    · rw [hres] at hok
      cases hok
  · obtain ⟨hcheck, v, hid, hvouches⟩ := postVouch_ok (congrArg Prod.snd hres)
    rw [hres] at hvouches
    simp only [Request.respond, hres]
    exact Or.inr ⟨rfl, hcheck, v, hid, hvouches, rfl, rfl⟩

theorem served_revoke (vouchee : Pubkey) (body : RevokeVouchBody) :
    Served gw now gates db (.revoke vouchee body)
      (Request.respond gw rules now gates db (.revoke vouchee body)) := by
  have hids := event_ids_deleteVouch gw.env.verify now now gates vouchee db.vouches body
  rcases hres : deleteVouch gw.env.verify now now gates vouchee db.vouches body with ⟨vouches, e | u⟩
  · have hsame := deleteVouch_of_error (congrArg Prod.snd hres)
    rw [hres] at hsame
    simp only [Request.respond, hres]
    exact Or.inl ⟨congrArg (fun vouches => { db with vouches }) hsame, e, rfl⟩
  · have hcheck : checkRevoke gw.env.verify now gates vouchee body = .ok () := by
      unfold deleteVouch at hres
      split at hres
      · cases hres
      · assumption
    rw [hres] at hids
    simp only [Request.respond, hres]
    exact Or.inr ⟨rfl, hcheck, hids, rfl, rfl⟩

/-- **What serving a request does.** -/
theorem served_respond (r : Request) :
    Served gw now gates db r (r.respond gw rules now gates db) := by
  cases r with
  | report id body => exact served_report gw rules now gates db id body
  | vote body => exact served_vote gw rules now gates db body
  | vouch body => exact served_vouch gw rules now gates db body
  | revoke vouchee body => exact served_revoke gw rules now gates db vouchee body

end Served

/-! ### The replay key -/

theorem mem_askRedis {redis : Expiring String Timestamp} (now : Timestamp) (event_id : String)
    (wire : Auth.Wire) {row : String × Timestamp} (h : row ∈ redis.keys) :
    row ∈ (askRedis redis now event_id wire).1.keys := by
  unfold askRedis
  by_cases hreached : wire.reached = true
  · rw [if_pos hreached]
    exact Expiring.mem_keys_setNx.2 (Or.inl h)
  · rw [if_neg hreached]
    exact h

theorem askRedis_eq_true {redis : Expiring String Timestamp} {now : Timestamp} {event_id : String}
    {wire : Auth.Wire} (h : (askRedis redis now event_id wire).2 = some true) :
    redis.holds now (replayKey event_id) = false ∧
      (replayKey event_id, now + replayTtl) ∈ (askRedis redis now event_id wire).1.keys := by
  unfold askRedis at h ⊢
  split_ifs at h ⊢ with hreached hreplied
  have hset : (redis.setNx now (replayKey event_id) replayTtl).2 = true := Option.some.inj h
  exact ⟨Expiring.setNx_eq_true_iff.1 hset, Expiring.mem_keys_setNx.2 (Or.inr ⟨rfl, hset⟩)⟩

/-- Nothing removes a replay key. -/
theorem mem_redis_step {gw : Gateway} {rules : Rules} {s : Sys} {a : Act}
    {row : String × Timestamp} (h : row ∈ s.redis.keys) : row ∈ (step gw rules s a).redis.keys := by
  cases a with
  | wait d => exact h
  | users users => exact h
  | serve r limited wire =>
      show row ∈ (s.guard gw r limited wire).1.keys
      unfold Sys.guard
      split
      · exact mem_askRedis _ _ _ h
      · exact h

/-- No step loses a row that tells an event apart. -/
theorem kept_step (gw : Gateway) (rules : Rules) (s : Sys) (a : Act) :
    Kept s.db (step gw rules s a).db := by
  cases a with
  | wait d => exact Kept.refl _
  | users users => exact ⟨fun _ h => h, fun _ h => h, fun _ h => h⟩
  | serve r limited wire =>
      rcases served_respond gw rules s.now.1 ⟨limited, (s.guard gw r limited wire).2⟩ s.db r with
        ⟨hsame, _⟩ | ⟨_, _, heffect⟩
      · show Kept s.db (s.respond gw rules r limited wire).1
        unfold Sys.respond
        rw [hsame]
        exact Kept.refl _
      · exact heffect.kept

/-- What an accepted post has passed, and what it does. -/
structure Accepts (gw : Gateway) (rules : Rules) (s : Sys) (a : Act) (r : Request)
    (event : NostrEvent) : Prop where
  checked : Checked gw.env.verify s.now.1 r event
  post : r.isPost = true
  effect : Effect s.db r (step gw rules s a).db
  unclaimed : s.redis.holds s.now.1 (replayKey r.event.id) = false
  claimed : (replayKey r.event.id, s.now.1 + replayTtl) ∈ (step gw rules s a).redis.keys
  spelled : respelled s a = false → ∀ id, otherCase id r.event.id = true →
    (r.action.kind = .report → ∀ k a, (k, a) ∈ s.db.authors.rows → a.nostr_event_id ≠ id) ∧
    (r.action.kind = .vouch → id ∉ s.db.vouches.map Vouch.nostr_event_id)

/-- A request that is not respelled has no other spelling of its id in its table. -/
theorem spelled_of_respelled {s : Sys} {r : Request} {limited : Bool} {wire : Auth.Wire}
    (hspell : respelled s (.serve r limited wire) = false) {id : String}
    (hid : otherCase id r.event.id = true) :
    (r.action.kind = .report → ∀ k a, (k, a) ∈ s.db.authors.rows → a.nostr_event_id ≠ id) ∧
      (r.action.kind = .vouch → id ∉ s.db.vouches.map Vouch.nostr_event_id) := by
  cases r with
  | report rid body =>
      refine ⟨fun _ k a ha hne => ?_, fun hkind => (nomatch hkind)⟩
      subst hne
      exact List.any_eq_false.1 hspell (k, a) ha hid
  | vote body => exact ⟨fun hkind => (nomatch hkind), fun hkind => (nomatch hkind)⟩
  | vouch body =>
      refine ⟨fun hkind => (nomatch hkind), fun _ hmem => ?_⟩
      obtain ⟨v, hv, rfl⟩ := List.mem_map.1 hmem
      exact List.any_eq_false.1 hspell v hv hid
  | revoke vouchee body => exact ⟨fun hkind => (nomatch hkind), fun hkind => (nomatch hkind)⟩

theorem accepts_of_accepted {gw : Gateway} {rules : Rules} {s : Sys} {a : Act} {r : Request}
    (h : accepted gw rules s a = some r) : ∃ event, Accepts gw rules s a r event := by
  cases a with
  | wait d => cases h
  | users users => cases h
  | serve r' limited wire =>
      unfold accepted at h
      dsimp only at h
      split at h
      · rename_i hok
        split at h
        · rename_i hpost
          cases h
          rcases served_respond gw rules s.now.1 ⟨limited, (s.guard gw r limited wire).2⟩ s.db r with
            ⟨_, e, herr⟩ | ⟨_, hcheck, heffect⟩
          · exact absurd (herr.symm.trans hok) (by simp)
          · obtain ⟨hset, hfirst, event, hchecked⟩ := checked_of_check hcheck
            have hguard : s.guard gw r limited wire =
                askRedis s.redis s.now.1 r.event.id wire := by
              unfold Sys.guard
              rw [hfirst]
            have hset : (askRedis s.redis s.now.1 r.event.id wire).2 = some true := by
              rw [← hguard]
              exact hset
            obtain ⟨hfree, hmem⟩ := askRedis_eq_true hset
            refine ⟨event, hchecked, hpost, heffect, hfree, ?_, ?_⟩
            · show _ ∈ (s.guard gw r limited wire).1.keys
              rw [hguard]
              exact hmem
            · exact fun hspell id hid => spelled_of_respelled hspell hid
        · cases h
      · cases h

/-! ### Whole runs -/

/-- What is left of an accepted post: its row, and a replay key that outlives the
freshness of its event. -/
structure Recorded (gw : Gateway) (s : Sys) (r : Request) (event : NostrEvent) : Prop where
  parsed : r.event.parse = some event
  signed : event.pubkey = r.signer
  verified : gw.env.verify event = true
  bound : event.content = r.action.content
  fields : r.action.accepted = true
  post : r.isPost = true
  stored : Stored s.db r
  claimed : ∃ exp, (replayKey r.event.id, exp) ∈ s.redis.keys ∧
    (wrap 64 event.created_at + 590) * 1000000 ≤ exp

theorem Recorded.step {gw : Gateway} {s : Sys} {r : Request} {event : NostrEvent}
    (h : Recorded gw s r event) (rules : Rules) (a : Act) :
    Recorded gw (step gw rules s a) r event := by
  obtain ⟨exp, hmem, hexp⟩ := h.claimed
  exact { h with
    stored := (kept_step gw rules s a).stored h.stored
    claimed := ⟨exp, mem_redis_step hmem, hexp⟩ }

theorem Accepts.recorded {gw : Gateway} {rules : Rules} {s : Sys} {a : Act} {r : Request}
    {event : NostrEvent} (h : Accepts gw rules s a r event) :
    Recorded gw (Replay.step gw rules s a) r event := by
  obtain ⟨hparse, hpk, hverify, hage, hbound, hfields⟩ := h.checked
  have hage := hage.1
  refine ⟨hparse, hpk, hverify, hbound, hfields, h.post, h.effect.stored, _, h.claimed, ?_⟩
  unfold seconds at hage
  unfold replayTtl
  omega

/-- A key set for 600 seconds is held for as long as its event is fresh. -/
theorem lt_of_fresh {now exp created : ℤ} (hage : seconds now - created ≤ 300)
    (hexp : (created + 590) * 1000000 ≤ exp) : now < exp := by
  unfold seconds at hage
  omega

section Apart

variable {gw : Gateway} {rules : Rules} {s : Sys} {a : Act} {event event₀ : NostrEvent}

/-- Two spellings of one id are one text, unless they differ in letter case. -/
theorem eq_of_otherCase {id₀ id : String} (hlower : toAsciiLowercase id₀ = toAsciiLowercase id)
    (hother : otherCase id₀ id = false) : id₀ = id := by
  unfold otherCase at hother
  simpa [hlower] using hother

/-- The event of a report that is stored cannot report again: its text is unique. -/
theorem Accepts.report_ne {id id₀ : Uuid} {body body₀ : CreateReportBody}
    (h : Accepts gw rules s a (.report id body) event) (hspell : respelled s a = false)
    (hlower : toAsciiLowercase body₀.nostr_event.id = toAsciiLowercase body.nostr_event.id) :
    ¬ Stored s.db (.report id₀ body₀) := by
  rintro ⟨k, a₀, ha₀, hid₀⟩
  cases hother : otherCase body₀.nostr_event.id body.nostr_event.id with
  | true => exact ((h.spelled hspell _ hother).1 rfl k a₀ ha₀) hid₀
  | false => exact h.effect.1 k a₀ ha₀ (hid₀.trans (eq_of_otherCase hlower hother))

/-- The event of a vote that is stored cannot vote again: its vote is for one report. -/
theorem Accepts.vote_ne {body body₀ : CastVoteBody} (h : Accepts gw rules s a (.vote body) event)
    (hfields : (Request.vote body₀).action.accepted = true)
    (hsigner : body₀.voter_pubkey = body.voter_pubkey)
    (hcontent : (Request.vote body₀).action.content = (Request.vote body).action.content) :
    ¬ Stored s.db (.vote body₀) := by
  intro hstored
  obtain ⟨_, hreport⟩ := (voteBindingContent_eq_iff hfields h.checked.fields).1 hcontent
  have hreport : body₀.report_id = body.report_id := hreport
  have hstored : (s.db.votes.find? (body₀.report_id, body₀.voter_pubkey)).isSome = true := hstored
  rw [hreport, hsigner, h.effect.1] at hstored
  cases hstored

/-- The event of a vouch that is recorded cannot vouch again: its replay key is held for as
long as the event is fresh. -/
theorem Accepts.vouch_ne {body body₀ : IssueVouchBody}
    (h : Accepts gw rules s a (.vouch body) event) (hspell : respelled s a = false)
    (hlower : toAsciiLowercase body₀.nostr_event.id = toAsciiLowercase body.nostr_event.id)
    (hcreated : event₀.created_at = event.created_at) :
    ¬ Recorded gw s (.vouch body₀) event₀ := by
  intro h₀
  cases hother : otherCase body₀.nostr_event.id body.nostr_event.id with
  | true => exact ((h.spelled hspell _ hother).2 rfl) h₀.stored
  | false =>
      obtain ⟨exp, hmem, hexp⟩ := h₀.claimed
      rw [hcreated] at hexp
      have hholds := Expiring.holds_of_mem hmem (lt_of_fresh h.checked.fresh.2 hexp)
      have hunclaimed : s.redis.holds s.now.1 (replayKey body.nostr_event.id) = false := h.unclaimed
      rw [← eq_of_otherCase hlower hother] at hunclaimed
      exact absurd (hunclaimed.symm.trans hholds) (by simp)

/-- **An accepted post has a new id**, unless it is spelled in another case. -/
theorem Accepts.id_ne (hids : IdsBind gw.env.verify) (hdate : Auth.IdsDate gw.env.verify)
    {r r₀ : Request} (h : Accepts gw rules s a r event) (h₀ : Recorded gw s r₀ event₀)
    (hspell : respelled s a = false) : event₀.id ≠ event.id := by
  intro hid
  obtain ⟨hparse, hpk, hverify, _, hbound, _⟩ := h.checked
  obtain ⟨hsigner, hcontent⟩ := hids event₀ event h₀.verified hverify hid
  have hcreated := hdate event₀ event h₀.verified hverify hid
  rw [h₀.bound, hbound] at hcontent
  rw [h₀.signed, hpk] at hsigner
  have hkind := SignedAction.kind_eq hcontent
  have hlower : toAsciiLowercase r₀.event.id = toAsciiLowercase r.event.id := by
    rw [← (RawEvent.parse_eq_some h₀.parsed).2, ← (RawEvent.parse_eq_some hparse).2, hid]
  cases r₀ with
  | report id₀ body₀ =>
      cases r with
      | report id body => exact h.report_ne hspell hlower h₀.stored
      | _ => cases hkind
  | vote body₀ =>
      cases r with
      | vote body => exact h.vote_ne h₀.fields hsigner hcontent h₀.stored
      | _ => cases hkind
  | vouch body₀ =>
      cases r with
      | vouch body => exact h.vouch_ne hspell hlower hcreated h₀
      | _ => cases hkind
  | revoke vouchee₀ body₀ => cases h₀.post

end Apart

/-- Each accepted post is recorded, and no two carry one event. -/
structure Once (gw : Gateway) (rules : Rules) (s : Sys) (es : List (Event Sys Act)) : Prop where
  recorded : ∀ r ∈ posts gw rules es, ∃ event, Recorded gw s r event
  nodup : ((posts gw rules es).map parsedId).Nodup

theorem once_step {gw : Gateway} (hids : IdsBind gw.env.verify)
    (hdate : Auth.IdsDate gw.env.verify) {rules : Rules} {s : Sys} {es : List (Event Sys Act)}
    {a : Act} (h : Once gw rules s es) (hspell : respelled s a = false) :
    Once gw rules (step gw rules s a) (es ++ [⟨s, a, step gw rules s a⟩]) := by
  have hposts : posts gw rules (es ++ [⟨s, a, step gw rules s a⟩]) =
      posts gw rules es ++ (accepted gw rules s a).toList := by
    unfold posts
    rw [List.filterMap_append, List.filterMap_cons, List.filterMap_nil]
    cases accepted gw rules s a <;> rfl
  have hold : ∀ r ∈ posts gw rules es, ∃ event, Recorded gw (step gw rules s a) r event := by
    intro r hr
    obtain ⟨event, hrec⟩ := h.recorded r hr
    exact ⟨event, hrec.step rules a⟩
  cases hacc : accepted gw rules s a with
  | none =>
      rw [hacc, Option.toList_none, List.append_nil] at hposts
      exact ⟨hposts ▸ hold, hposts ▸ h.nodup⟩
  | some r =>
      rw [hacc, Option.toList_some] at hposts
      obtain ⟨event, hok⟩ := accepts_of_accepted hacc
      refine ⟨?_, ?_⟩
      · rw [hposts]
        intro r' hr'
        rcases List.mem_append.1 hr' with hr' | hr'
        · exact hold r' hr'
        · obtain rfl := List.mem_singleton.1 hr'
          exact ⟨event, hok.recorded⟩
      · rw [hposts, List.map_append]
        refine List.nodup_append.2 ⟨h.nodup, List.nodup_singleton _, ?_⟩
        intro id hid id' hid' hne
        obtain ⟨r₀, hr₀, rfl⟩ := List.mem_map.1 hid
        obtain rfl := List.mem_singleton.1 hid'
        obtain ⟨event₀, hrec⟩ := h.recorded r₀ hr₀
        unfold parsedId at hne
        rw [hrec.parsed, hok.checked.parsed] at hne
        exact hok.id_ne hids hdate hrec hspell (Option.some.inj hne)

/-- **A signed event is accepted once.**  In every run in which no report and no
vouch comes with an id that its table stores in another letter case, the events of
the accepted posts parse to different ids. -/
theorem accepted_once (gw : Gateway) (rules : Rules) (hids : IdsBind gw.env.verify)
    (hdate : Auth.IdsDate gw.env.verify) (s : Sys) (as : List Act)
    (hspell : ∀ e ∈ events (step gw rules) s as, respelled e.pre e.act = false) :
    ((posts gw rules (events (step gw rules) s as)).map parsedId).Nodup := by
  have hrun : (∀ e ∈ events (step gw rules) s as, respelled e.pre e.act = false) →
      Once gw rules (run (step gw rules) s as) (events (step gw rules) s as) := by
    refine run_events_induction (P := fun s es =>
      (∀ e ∈ es, respelled e.pre e.act = false) → Once gw rules s es) ?_ ?_ as
    · intro _
      exact ⟨fun _ h => absurd h List.not_mem_nil, List.nodup_nil⟩
    · intro s es a h hall
      have hbefore := h fun e he => hall e (List.mem_append_left _ he)
      exact once_step hids hdate hbefore
        (hall ⟨s, a, step gw rules s a⟩ (List.mem_append_right _ (List.mem_singleton_self _)))
  exact (hrun hspell).nodup

/-! ### A report to run

One key signs one report of a fire at a thousand seconds past the epoch; the id of
its event is the key. -/

/-- The event, its id spelled with the hex digit `c`. -/
def demoEvent (c : Char) : RawEvent :=
  { id := digits 64 c, pubkey := digits 64 'a', created_at := 1000, kind := 30078, tags := [],
    content := "r1|FIRE|0.500000|0.500000|", sig := digits 128 '0' }

/-- The dependencies and the configuration. -/
def demoGateway : Gateway where
  env :=
    { snapToR9 := fun lat lng => ("", lat, lng)
      earthDistance := fun _ _ _ _ => 0
      verify := fun e => decide (e.id = e.pubkey) && decide (e.created_at = 1000) &&
        decide (e.content = "r1|FIRE|0.500000|0.500000|") }
  pg := .sqlx
  decay := { enabled := false, grace_days := 90, horizon_days := 180, floor := 0 }
  vouch_budget := 3

/-- The report. -/
def demoBody (c : Char) : CreateReportBody :=
  { report_type := "FIRE", description := none, lat := Pwa.half, lng := Pwa.half,
    place_name := none, nostr_pubkey := digits 64 'a', nostr_event := demoEvent c,
    photo_ipfs_cid := none, linked_event_id := none }

/-- The report, to be stored under `id`. -/
def demoReport (id : Uuid) (c : Char) : Act := .serve (.report id (demoBody c)) false {}

/-- The date of the event. -/
def demoNow : Instant := ⟨1000 * 1000000, by decide⟩

/-- Empty tables, at the date of the event. -/
def demoSys : Sys := { now := demoNow, redis := {}, db := {} }

theorem demo_ids {e e' : NostrEvent} (he : demoGateway.env.verify e = true)
    (he' : demoGateway.env.verify e' = true) (hid : e.id = e'.id) :
    e.pubkey = e'.pubkey ∧ e.content = e'.content ∧ e.created_at = e'.created_at := by
  simp only [demoGateway, Bool.and_eq_true, decide_eq_true_eq] at he he'
  exact ⟨he.1.1.symm.trans (hid.trans he'.1.1), he.2.trans he'.2.symm, he.1.2.trans he'.1.2.symm⟩

theorem demo_idsBind : IdsBind demoGateway.env.verify := fun _ _ he he' hid =>
  ⟨(demo_ids he he' hid).1, (demo_ids he he' hid).2.1⟩

theorem demo_idsDate : Auth.IdsDate demoGateway.env.verify := fun _ _ he he' hid =>
  (demo_ids he he' hid).2.2

/-- The event parses to one id, however it is spelled. -/
theorem parse_demoEvent {c : Char} (hc : c = 'a' ∨ c = 'A') :
    (demoEvent c).parse = some
      { demoEvent c with id := digits 64 'a', pubkey := digits 64 'a', sig := digits 128 '0' } := by
  have hdigit : isHexDigit c = true ∧ c.utf8Size = 1 ∧ c.toLower = 'a' := by
    rcases hc with rfl | rfl <;> decide
  have hid : isHex 64 (digits 64 c) = true := isHex_digits hdigit.1 hdigit.2.1 64
  have hpk : isHex 64 (digits 64 'a') = true := isHex_digits (by decide) (by decide) 64
  have hsig : isHex 128 (digits 128 '0') = true := isHex_digits (by decide) (by decide) 128
  have hlower : toAsciiLowercase (digits 64 c) = digits 64 'a' := by
    unfold toAsciiLowercase digits
    rw [String.toList_ofList, List.map_replicate, hdigit.2.2]
  have hlower' : toAsciiLowercase (digits 64 'a') = digits 64 'a' :=
    toAsciiLowercase_digits (by decide) 64
  have hlower'' : toAsciiLowercase (digits 128 '0') = digits 128 '0' :=
    toAsciiLowercase_digits (by decide) 128
  unfold RawEvent.parse demoEvent
  simp only [hid, hpk, hsig, hlower, hlower', hlower'']
  rfl

theorem check_demoBody {c : Char} (hc : c = 'a' ∨ c = 'A') :
    checkReport demoGateway.env.verify demoNow.1 {} (demoBody c) = .ok () := by
  have hevent : verifyNostrEvent demoGateway.env.verify demoNow.1 (demoBody c).nostr_event
      (demoBody c).nostr_pubkey 300 = .ok () := by
    have hparse : (demoBody c).nostr_event.parse = _ := parse_demoEvent hc
    unfold verifyNostrEvent
    rw [hparse]
    have hage : wrap 64 (seconds demoNow.1 - wrap 64 1000) = 0 := by decide
    simp [demoBody, demoEvent, demoGateway, hage]
  have hcontent : (demoBody c).nostr_event.content = reportBindingContent (demoBody c).report_type
      (demoBody c).lat (demoBody c).lng (demoBody c).description := by
    show "r1|FIRE|0.500000|0.500000|" = reportBindingContent "FIRE" Pwa.half Pwa.half none
    decide +kernel
  have hid : (demoBody c).nostr_event.id ≠ "" := by
    intro h
    have h := congrArg String.toList h
    simp [demoBody, demoEvent, digits] at h
  have hrange : inRange (demoBody c).lat (demoBody c).lng = true := by
    show inRange Pwa.half Pwa.half = true
    decide +kernel
  have htype : (demoBody c).report_type ∈ validReportTypes := by
    show "FIRE" ∈ validReportTypes
    decide
  unfold checkReport
  rw [hevent]
  simp only [bind_eq_ok, ensure_eq_ok, decide_eq_true_eq]
  refine ⟨(), rfl, (), htype, (), trivial, (), hrange, (), hcontent, ?_⟩
  unfold replayGuard
  rw [if_neg hid]

/-- What `create_report` does with the report. -/
def demoCreate (db : Db) (id : Uuid) (c : Char) : Db × Except DbError Report :=
  (createReport demoGateway.env demoGateway.pg demoNow.1 id (demoBody c).input).commit db

theorem demoCreate_of_isOk {db : Db} {id : Uuid} {c : Char}
    (h : (demoCreate db id c).2.isOk = true) :
    ∃ rep, demoCreate db id c = ((demoCreate db id c).1, .ok rep) := by
  generalize demoCreate db id c = created at h ⊢
  obtain ⟨db', res⟩ := created
  cases res with
  | error e => cases h
  | ok rep => exact ⟨rep, rfl⟩

/-- A report whose id is not claimed and whose row can be stored is accepted. -/
theorem accepted_demoReport {s : Sys} {id : Uuid} {c : Char} (hc : c = 'a' ∨ c = 'A')
    (hnow : s.now = demoNow)
    (hfree : s.redis.holds demoNow.1 (replayKey (digits 64 c)) = false) {db : Db} {rep : Report}
    (hcreate : demoCreate s.db id c = (db, .ok rep)) :
    accepted demoGateway openRules s (demoReport id c) = some (.report id (demoBody c)) ∧
      step demoGateway openRules s (demoReport id c) =
        { now := demoNow, redis := ⟨(replayKey (digits 64 c), demoNow.1 + replayTtl) :: s.redis.keys⟩,
          db } := by
  have hguard : s.guard demoGateway (.report id (demoBody c)) false {} =
      (⟨(replayKey (digits 64 c), demoNow.1 + replayTtl) :: s.redis.keys⟩, some true) := by
    have hcheck : (Request.report id (demoBody c)).check demoGateway.env.verify s.now.1
        { limited := false } = .ok () := by
      rw [hnow]
      exact check_demoBody hc
    have hset : s.redis.setNx demoNow.1 (replayKey (digits 64 c)) replayTtl =
        (⟨(replayKey (digits 64 c), demoNow.1 + replayTtl) :: s.redis.keys⟩, true) := by
      unfold Expiring.setNx
      rw [hfree]
      rfl
    have hask : askRedis s.redis demoNow.1 (digits 64 c) {} =
        (⟨(replayKey (digits 64 c), demoNow.1 + replayTtl) :: s.redis.keys⟩, some true) := by
      unfold askRedis
      rw [hset]
      rfl
    unfold Sys.guard
    rw [hcheck, hnow]
    exact hask
  have hrespond : s.respond demoGateway openRules (.report id (demoBody c)) false {} =
      (db, .ok ()) := by
    unfold Sys.respond Request.respond postReport
    rw [hguard, hnow]
    simp only [check_demoBody hc]
    unfold demoCreate at hcreate
    rw [hcreate]
    rfl
  refine ⟨?_, ?_⟩
  · unfold accepted demoReport
    dsimp only
    rw [hrespond]
    rfl
  · unfold step demoReport
    dsimp only
    rw [hguard, hrespond, hnow]

/-- The tables after the report. -/
def demoDb : Db := (demoCreate {} "r" 'a').1

/-- The state after the report. -/
def demoPosted : Sys :=
  { now := demoNow, redis := ⟨[(replayKey (digits 64 'a'), demoNow.1 + replayTtl)]⟩, db := demoDb }

theorem accepted_demoReport_first :
    accepted demoGateway openRules demoSys (demoReport "r" 'a') = some (.report "r" (demoBody 'a')) ∧
      step demoGateway openRules demoSys (demoReport "r" 'a') = demoPosted := by
  have hok : (demoCreate {} "r" 'a').2.isOk = true := by decide +kernel
  obtain ⟨rep, hcreate⟩ := demoCreate_of_isOk hok
  exact accepted_demoReport (Or.inl rfl) rfl rfl hcreate

/-- The report, sent twice as it was signed: one post is accepted. -/
theorem accepted_once_report :
    ((posts demoGateway openRules (events (step demoGateway openRules) demoSys
      [demoReport "r" 'a', .wait 60000000, demoReport "q" 'a'])).map parsedId).Nodup := by
  refine accepted_once demoGateway openRules demo_idsBind demo_idsDate demoSys _ ?_
  intro e he
  simp only [events_cons, events_nil, List.mem_cons, List.not_mem_nil, or_false,
    accepted_demoReport_first.2] at he
  rcases he with rfl | rfl | rfl
  · rfl
  · rfl
  · show (demoDb.authors.rows.any fun r => otherCase r.2.nostr_event_id (digits 64 'a')) = false
    decide +kernel

theorem posts_cons {gw : Gateway} {rules : Rules} {s s' : Sys} {a : Act} {r : Request}
    (h : accepted gw rules s a = some r) (es : List (Event Sys Act)) :
    posts gw rules (⟨s, a, s'⟩ :: es) = r :: posts gw rules es :=
  List.filterMap_cons_some h

/-- **A report can be accepted twice**: the same event, its id in lower case and then
in upper case. -/
theorem respelled_report_accepted :
    (posts demoGateway openRules (events (step demoGateway openRules) demoSys
      [demoReport "r" 'a', demoReport "q" 'A'])).map parsedId =
        [some (digits 64 'a'), some (digits 64 'a')] := by
  have hok : (demoCreate demoDb "q" 'A').2.isOk = true := by decide +kernel
  have hfree : demoPosted.redis.holds demoNow.1 (replayKey (digits 64 'A')) = false := by
    decide
  have hsecond : accepted demoGateway openRules demoPosted (demoReport "q" 'A') =
      some (.report "q" (demoBody 'A')) := by
    obtain ⟨rep, hcreate⟩ := demoCreate_of_isOk hok
    exact (accepted_demoReport (Or.inr rfl) rfl hfree hcreate).1
  rw [events_cons, posts_cons accepted_demoReport_first.1, accepted_demoReport_first.2, events_cons,
    posts_cons hsecond]
  unfold parsedId
  have hparse := parse_demoEvent (Or.inl rfl : 'a' = 'a' ∨ 'a' = 'A')
  have hparse' := parse_demoEvent (Or.inr rfl : 'A' = 'a' ∨ 'A' = 'A')
  show [(demoEvent 'a').parse.map _, (demoEvent 'A').parse.map _] = _
  rw [hparse, hparse']
  rfl

end Replay
end Ledger
end SentinelMesh
