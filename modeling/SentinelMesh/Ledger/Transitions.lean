/-
# Which decided transitions are committed

`cast_vote` decides a transition in the middle of its transaction and has
statements left to run.  For most transitions these cannot fail, and what was
decided is committed; for `VERIFIED` one of them fetches `reputation_score`, an
`INTEGER` column, into an `i64`, which sqlx refuses, so the transaction rolls
back with the vote in it (`verification_rolled_back`).

`transition_committed_iff` is the whole truth for a request the route let
through, in any reachable state: the decision is committed exactly when it is
not the one to `VERIFIED`, written as a condition on the report before the vote
(`Ballot.Settleable`), and the author's counter of rejections has room.  That no other
statement fails needs the reachable states: an event id occurs once because ids
bind (`Signed`), counters are counts, and the author has a row.
-/

import SentinelMesh.Ledger.Credit
import SentinelMesh.Ledger.Tally

namespace SentinelMesh
namespace Ledger

open Lib

/-- Every vote carries the id of a verified event by its voter that names it. -/
def Signed (verify : NostrEvent → Bool) (db : Db) : Prop :=
  ∀ k v, db.votes.find? k = some v → ∃ event, verify event = true ∧
    event.id = toAsciiLowercase v.nostr_event_id ∧ event.pubkey = k.2 ∧
    event.content = voteBindingContent v.vote.text k.1

variable {gw : Gateway} {s : Sys}

theorem signed_step (a : Act) (h : Signed gw.env.verify s.db) :
    Signed gw.env.verify (step gw s a).db := by
  rcases ledger_step gw s a with ⟨_, _, hsame⟩ | ⟨id, input, ago, _, _, _, hdb⟩ |
    ⟨body, rules, sch, author, b, o, _, hv, hdb⟩
  · unfold Signed
    rw [hsame]
    exact h
  · rw [hdb]
    exact h
  · intro k v hf
    rw [hdb, voted_votes, Table.find?_insert, hv.new_vote] at hf
    split_ifs at hf with hk
    · obtain rfl := Option.some.inj hf
      obtain ⟨_, event, hparse, hpk, hverify, hcontent⟩ := checkVote_eq_ok hv.checked
      refine ⟨event, hverify, (RawEvent.parse_eq_some hparse).2, ?_, ?_⟩
      · rw [hpk, hk]
      · have htext : body.vote = b.choice.text := VoteChoice.text_of_ofText? hv.ballot.choice
        rw [hcontent, hk, htext]
        rfl
    · exact h k v hf

theorem signed_run (gw : Gateway) (start : Timestamp) (linked : List Uuid) (as : List Act) :
    Signed gw.env.verify (run (step gw) (Sys.init start linked) as).db := by
  refine run_induction (P := fun s : Sys => Signed gw.env.verify s.db) ?_
    (fun s a h => signed_step a h) as
  intro k v hf
  cases hf

/-- **An event id is used once.**  A vote with the id of an accepted request is
that voter's vote on that report. -/
theorem event_id_fresh (hids : IdsBind gw.env.verify) (h : Signed gw.env.verify s.db)
    {now : Timestamp} {gates : Gates} {body : CastVoteBody}
    (hchecked : checkVote gw.env.verify now gates body = .ok ())
    (hnew : s.db.votes.find? (body.report_id, body.voter_pubkey) = none) :
    ∀ k v, (k, v) ∈ s.db.votes.rows → v.nostr_event_id ≠ body.voter_nostr_event.id := by
  intro k v hr hid
  have hf := Table.find?_eq_some_iff.2 hr
  obtain ⟨event, hverify, heid, hpk, hcontent⟩ := h k v hf
  obtain ⟨⟨c, hc⟩, event', hparse, hpk', hverify', hcontent'⟩ := checkVote_eq_ok hchecked
  have hsame : event.id = event'.id := by
    rw [heid, hid, (RawEvent.parse_eq_some hparse).2]
  obtain ⟨hkey, htext⟩ := hids event event' hverify hverify' hsame
  have hvoter : k.2 = body.voter_pubkey := hpk.symm.trans (hkey.trans hpk')
  have hreport : k.1 = body.report_id := by
    rw [hcontent, hcontent', VoteChoice.text_of_ofText? hc] at htext
    exact voteBindingContent_inj htext
  rw [show k = (body.report_id, body.voter_pubkey) from Prod.ext hreport hvoter, hnew] at hf
  cases hf

/-- The row a vote leaves fits its columns, so that the `UPDATE` returns it. -/
def Report.Fits (r : Report) : Prop :=
  InRange 31 r.consensus_score ∧ InRange 31 r.confirmation_count ∧ InRange 31 r.denial_count

/-- The transition to `st` is committed: `cast_vote` succeeds, the vote is stored,
the report has the status, and for `VERIFIED` the author has the credit. -/
def CommitsTransition (gw : Gateway) (s : Sys) (body : CastVoteBody) (rules : Rules)
    (sch : Schedule) (author : Pubkey) (st : ReportStatus) : Prop :=
  ∃ db' r, (castVote gw.env gw.pg (s.began sch) (s.peek sch) body.report_id body.input
      rules.genesis_roots rules.require_established author).commit s.db = (db', .ok r) ∧
    (∃ v, db'.votes.find? (body.report_id, body.voter_pubkey) = some v ∧ v.vote.text = body.vote) ∧
    db'.status body.report_id = some st ∧
    (st = .verified → ∃ u u', s.db.users.find? author = some u ∧
      db'.users.find? author = some u' ∧ u'.accurate_reports = u.accurate_reports + 1 ∧
      u'.reputation_score = u.reputation_score + 10 ∧
      u'.effective_reputation_score = u'.reputation_score ∧
      u'.reputation_tier = computeTier u'.reputation_score)

/-- The transition of a ballot is not the one to `VERIFIED`: its report is not
`UNVERIFIED`, or has, with this vote, three denials or more that outnumber the
confirmations. -/
def Ballot.Settleable (b : Ballot) : Prop :=
  b.report.status ≠ .unverified ∨
    (3 ≤ b.report.denial_count + b.deltas.2.2 ∧
      b.report.confirmation_count + b.deltas.2.1 < b.report.denial_count + b.deltas.2.2)

instance (b : Ballot) : Decidable b.Settleable := inferInstanceAs (Decidable (_ ∨ _))

/-- A rejection by the ballot finds room in the author's counter: if the report is
`PENDING` or `DISPUTED` and its score, with this vote, is `-5` or less, the
author has fewer than `2 ^ 31 - 1` rejected reports. -/
def Ballot.RoomToReject (b : Ballot) (users : Table Pubkey User) (author : Pubkey) : Prop :=
  (b.report.status = .pending ∨ b.report.status = .disputed) →
    b.report.consensus_score + b.deltas.1 ≤ -5 →
    ∀ u, users.find? author = some u → u.rejected_reports + 1 < 2 ^ 31

/-- From `UNVERIFIED` a transition is a dispute or a verification, and disputes
come first. -/
theorem verified_iff_not_settleable {b : Ballot} {now : Timestamp} {established : ℤ} {gate : Bool}
    {st : ReportStatus}
    (h : computeNewStatus b.report.status (b.report.tally now b.deltas).consensus_score
      (b.report.tally now b.deltas).confirmation_count (b.report.tally now b.deltas).denial_count
      established gate = some st) : st = .verified ↔ ¬ b.Settleable := by
  constructor
  · rintro rfl hs
    rcases computeNewStatus_cases h with ⟨hst, _⟩ | ⟨hst, _⟩ | ⟨hst, _⟩ | ⟨_, hu, _⟩ | ⟨hst, _⟩
    · cases hst
    · cases hst
    · cases hst
    · rcases hs with hne | hdispute
      · exact hne hu
      · -- the dispute would have been decided
        unfold computeNewStatus at h
        rw [if_neg (by rw [hu]; simp), if_pos ⟨Or.inl hu, hdispute⟩] at h
        cases h
    · cases hst
  · intro hs
    have hu : b.report.status = .unverified := by
      by_contra hne
      exact hs (Or.inl hne)
    rcases computeNewStatus_cases h with ⟨_, hst, _⟩ | ⟨_, _, hd⟩ | ⟨_, hst, _⟩ | ⟨hst, _⟩ |
      ⟨_, hst, _⟩
    · rw [hu] at hst
      rcases hst with hst | hst <;> cases hst
    · exact absurd (Or.inr hd) hs
    · rw [hu] at hst
      cases hst
    · exact hst
    · rw [hu] at hst
      cases hst

theorem rejected_iff {b : Ballot} {now : Timestamp} {confirm deny established : ℤ} {gate : Bool}
    {st : ReportStatus}
    (h : computeNewStatus b.report.status (b.report.tally now b.deltas).consensus_score confirm deny
      established gate = some st) : st = .rejected ↔
      (b.report.status = .pending ∨ b.report.status = .disputed) ∧
        b.report.consensus_score + b.deltas.1 ≤ -5 := by
  constructor
  · rintro rfl
    rcases computeNewStatus_cases h with ⟨_, hr⟩ | ⟨hst, _⟩ | ⟨hst, _⟩ | ⟨hst, _⟩ | ⟨hst, _⟩
    · exact hr
    all_goals cases hst
  · intro hr
    exact Option.some.inj (h.symm.trans (if_pos hr))

/-- The author's row in the tables that count the ballot. -/
theorem find?_cast_users (body : CastVoteBody) (b : Ballot) (now : Timestamp) {author : Pubkey}
    {u : User} (hu : s.db.users.find? author = some u) :
    ∃ t, (s.db.cast now body.report_id body.input b).users.find? author =
      some { u with last_active := t } := by
  have htouch := find?_touchVoter s.db now body.voter_pubkey author
  split_ifs at htouch with hpk
  · subst hpk
    rw [hu] at htouch
    exact ⟨now, htouch⟩
  · rw [hu] at htouch
    exact ⟨u.last_active, htouch⟩

/-- **A status can be settled under sqlx** unless it is `VERIFIED`, or `REJECTED`
and the counter is full. -/
theorem canSettle_sqlx_iff {users : Table Pubkey User} {author : Pubkey} {u : User}
    (st : ReportStatus) (hu : users.find? author = some u) (hnonneg : 0 ≤ u.rejected_reports) :
    CanSettle .sqlx users author st ↔
      st ≠ .verified ∧ (st = .rejected → u.rejected_reports + 1 < 2 ^ 31) := by
  cases st with
  | verified => simp [CanSettle, Pg.sqlx]
  | rejected =>
      constructor
      · intro h
        exact ⟨by decide, fun _ => (h u hu rfl).2⟩
      · rintro ⟨_, h⟩ w hw _
        obtain rfl := Option.some.inj (hu.symm.trans hw)
        exact ⟨by omega, h rfl⟩
  | pending | unverified | authoritative | disputed => simp [CanSettle]

/-- A request makes one ballot. -/
theorem IsBallot.unique {env : Env} {db : Db} {id : Uuid} {input : CastVoteInput} {b b' : Ballot}
    (h : IsBallot env db id input b) (h' : IsBallot env db id input b') : b = b' := by
  obtain ⟨report, choice, tier, nearby⟩ := b
  obtain ⟨report', choice', tier', nearby'⟩ := b'
  obtain rfl : report = report' := Option.some.inj (h.report.symm.trans h'.report)
  obtain rfl : choice = choice' := Option.some.inj (h.choice.symm.trans h'.choice)
  obtain rfl : tier = tier' := h.tier.trans h'.tier.symm
  obtain rfl : nearby = nearby' := h.nearby.trans h'.nearby.symm
  rfl

/-- A ballot that leads to `st` and runs to its end settled `st`. -/
theorem settled_of_commit {body : CastVoteBody} {rules : Rules} {sch : Schedule} {author : Pubkey}
    {b : Ballot} {st : ReportStatus} (hb : IsBallot gw.env s.db body.report_id body.input b)
    (hdecided : decision (s.peek sch) (s.began sch) body.report_id rules.genesis_roots
      rules.require_established (s.db.cast (s.began sch) body.report_id body.input b) b = some st)
    {db' : Db} {r : Report}
    (h : (castVote gw.env gw.pg (s.began sch) (s.peek sch) body.report_id body.input
      rules.genesis_roots rules.require_established author).commit s.db = (db', .ok r)) :
    CanSettle gw.pg (s.db.cast (s.began sch) body.report_id body.input b).users author st ∧
      db' = s.voted body sch author b (some st) := by
  obtain ⟨b', hb', _, hend⟩ := run_castVote_eq_ok.1 (Txn.commit_eq_ok_iff.1 h)
  obtain rfl := hb.unique hb'
  rw [hdecided] at hend
  exact ⟨hend.2.1, hend.2.2.symm⟩

/-- A ballot that can be cast and leads to `st` runs to its end when `st` can be
settled. -/
theorem commit_of_settled {body : CastVoteBody} {rules : Rules} {sch : Schedule}
    {author : Pubkey} {b : Ballot} {st : ReportStatus}
    (hb : IsBallot gw.env s.db body.report_id body.input b)
    (hcast : CanCast gw.pg s.db (s.began sch) body.report_id body.input b)
    (hdecided : decision (s.peek sch) (s.began sch) body.report_id rules.genesis_roots
      rules.require_established (s.db.cast (s.began sch) body.report_id body.input b) b = some st)
    (hsettle : CanSettle gw.pg (s.db.cast (s.began sch) body.report_id body.input b).users author
      st) :
    ∃ r, (castVote gw.env gw.pg (s.began sch) (s.peek sch) body.report_id body.input
      rules.genesis_roots rules.require_established author).commit s.db =
        (s.voted body sch author b (some st), .ok r) := by
  refine ⟨{ b.report.tally (s.began sch) b.deltas with status := st, updated_at := s.began sch },
    Txn.commit_eq_ok_iff.2 (run_castVote_eq_ok.2 ⟨b, hb, hcast, ?_⟩)⟩
  rw [hdecided]
  exact ⟨rfl, hsettle, rfl⟩

/-- The counters of a report stay counts when a vote is added. -/
theorem tally_nonneg {r : Report} (hc : 0 ≤ r.confirmation_count) (hd : 0 ≤ r.denial_count)
    (now : Timestamp) (vote : VoteChoice) (m : ℤ) :
    0 ≤ (r.tally now (deltas vote m)).confirmation_count ∧
      0 ≤ (r.tally now (deltas vote m)).denial_count := by
  cases vote with
  | confirm =>
      show 0 ≤ r.confirmation_count + 1 ∧ 0 ≤ r.denial_count + 0
      omega
  | deny =>
      show 0 ≤ r.confirmation_count + 0 ∧ 0 ≤ r.denial_count + 1
      omega

/-- **Which decided transitions are committed.**  In every reachable state, for a
request whose checks passed, by a voter without a vote on the report, and a
decided transition to `st`: it is committed if and only if the ballot is
`Settleable` and its author has room for a rejection. -/
theorem transition_committed_iff (gw : Gateway) (hpg : gw.pg = .sqlx)
    (hids : IdsBind gw.env.verify) (start : Timestamp) (linked : List Uuid) (as : List Act) (s : Sys)
    (hs : s = run (step gw) (Sys.init start linked) as) (body : CastVoteBody) (rules : Rules)
    (sch : Schedule) (row : Author) (b : Ballot) (st : ReportStatus)
    (hchecked : checkVote gw.env.verify (s.now - sch.checkedAgo) sch.gates body = .ok ())
    (hauthor : s.db.authors.find? body.report_id = some row)
    (hnew : s.db.votes.find? (body.report_id, body.voter_pubkey) = none)
    (hb : IsBallot gw.env s.db body.report_id body.input b)
    (hfits : (b.report.tally (s.began sch) b.deltas).Fits)
    (hdecided : decision (s.peek sch) (s.began sch) body.report_id rules.genesis_roots
      rules.require_established (s.db.cast (s.began sch) body.report_id body.input b) b = some st) :
    CommitsTransition gw s body rules sch row.nostr_pubkey st ↔
      b.Settleable ∧ b.RoomToReject s.db.users row.nostr_pubkey := by
  have hsigned : Signed gw.env.verify s.db := hs ▸ signed_run gw start linked as
  have htallied := tallied_run gw start linked as
  have hcredited := credited_run gw start linked as
  rw [← hs] at htallied hcredited
  -- the author has a row, and its counters are counts
  obtain ⟨u, hu⟩ := Option.isSome_iff_exists.1 (htallied.linked.2.known _ row hauthor)
  have hnonneg : 0 ≤ u.rejected_reports := by
    rw [(hcredited.users _ u hu).rejected]
    omega
  obtain ⟨t, hu'⟩ := find?_cast_users body b (s.began sch) hu
  -- no statement before the decision fails
  have hcounts := htallied.reports _ _ hb.report
  obtain ⟨hconfirm, hdeny⟩ := tally_nonneg (r := b.report) (by rw [hcounts.confirms]; omega)
    (by rw [hcounts.denials]; omega) (s.began sch) b.choice (magnitude b.tier b.nearby)
  have hcast : CanCast gw.pg s.db (s.began sch) body.report_id body.input b :=
    ⟨hnew, event_id_fresh hids hsigned hchecked hnew, fun _ => hfits, hconfirm, hdeny⟩
  have hedge := decision_eq_some hdecided
  have hverified := verified_iff_not_settleable hedge
  have hrejected := rejected_iff hedge
  have hsettle := canSettle_sqlx_iff st hu' hnonneg
  have hiff : CanSettle gw.pg (s.db.cast (s.began sch) body.report_id body.input b).users
      row.nostr_pubkey st ↔ b.Settleable ∧ b.RoomToReject s.db.users row.nostr_pubkey := by
    rw [hpg, hsettle, Ne, hverified, not_not, hrejected]
    refine and_congr_right fun _ => ⟨fun h h₁ h₂ w hw => ?_, fun h h₁ => h h₁.1 h₁.2 u hu⟩
    obtain rfl := Option.some.inj (hu.symm.trans hw)
    exact h ⟨h₁, h₂⟩
  rw [← hiff]
  constructor
  · rintro ⟨db', r, hcommit, _⟩
    exact (settled_of_commit hb hdecided hcommit).1
  · intro hcan
    obtain ⟨r, hcommit⟩ := commit_of_settled hb hcast hdecided hcan
    refine ⟨_, r, hcommit, ?_, ?_, fun hst => ?_⟩
    · refine ⟨b.row (s.began sch) body.voter_nostr_event.id, ?_, ?_⟩
      · rw [voted_votes, Table.find?_insert, if_pos rfl, hnew]
        rfl
      · exact (VoteChoice.text_of_ofText? hb.choice).symm
    · unfold Db.status
      rw [voted_reports, Table.find?_modify, if_pos rfl, hb.report]
      rfl
    · exact absurd (hiff.1 hcan).1 (hverified.1 hst)

/-! ### Confirmations by newcomers

A report of a newcomer starts at one and gains one with every confirmation of a
newcomer: the second makes it `UNVERIFIED`, the sixth decides `VERIFIED`. -/

/-- The report is created and confirmed by `n` keys. -/
def confirmed (n : ℕ) : List Act :=
  demoReport "r" :: (List.range n).map (demoVote openRules 0)

/-- The state it leads to. -/
@[irreducible] def confirmedSys (n : ℕ) : Sys :=
  run (step (demoGateway .sqlx)) (Sys.init 0 []) (confirmed n)

/-- The tables it leads to. -/
@[irreducible] def confirmedDb (n : ℕ) : Db :=
  (List.range n).foldl (demoCast .sqlx openRules 0) (demoCreate .sqlx 0 {} "r")

/-- The report after `n` confirmations. -/
def confirmedReport (n : ℕ) : Report :=
  { newReport (demoGateway .sqlx).env 0 (demoInput "r") .newcomer with
    consensus_score := n + 1
    confirmation_count := n
    status := if n < 2 then .pending else .unverified }

/-- The ballot of the next key. -/
def nextBallot (n : ℕ) : Ballot := ⟨confirmedReport n, .confirm, .newcomer, false⟩

theorem confirmedSys_eq {n : ℕ} (hn : n < 16) :
    (confirmedSys n).db = confirmedDb n ∧ (confirmedSys n).now = 0 := by
  have hkeys : ∀ k ∈ List.range n, k < 16 := fun k hk => (List.mem_range.1 hk).trans hn
  unfold confirmedSys confirmed
  rw [run_cons, step_demoReport, confirmedDb]
  obtain ⟨hdb, hnow, _⟩ := run_demoVotes .sqlx openRules 0 (by decide) (List.range n) hkeys
    ((Sys.init 0 []).commit (demoCreate .sqlx 0 {} "r")) rfl
  exact ⟨hdb, hnow⟩

/-- What the request of the next key meets in the tables. -/
theorem next_request : ∀ n ∈ [1, 5],
    (confirmedDb n).reports.find? "r" = some (confirmedReport n) ∧
    (confirmedDb n).authors.find? "r" = some (newAuthor 0 (demoInput "r")) ∧
    (confirmedDb n).votes.find? ("r", demoKey n) = none ∧
    reputationTier (confirmedDb n).users (demoKey n) = .newcomer ∧
    decision Peek.own 0 "r" [] false
      ((confirmedDb n).cast 0 "r" (demoBody n 0).input (nextBallot n)) (nextBallot n) =
        some (if n = 1 then .unverified else .verified) := by
  decide +kernel

/-- The request of the next key, with all that `transition_committed_iff` asks of
it. -/
theorem next_decided {n : ℕ} (hn : n ∈ [1, 5]) :
    let s := confirmedSys n
    checkVote (demoGateway .sqlx).env.verify (s.now - ((0 : ℕ) : ℤ)) {} (demoBody n 0) = .ok () ∧
    s.db.authors.find? (demoBody n 0).report_id = some (newAuthor 0 (demoInput "r")) ∧
    s.db.votes.find? ((demoBody n 0).report_id, (demoBody n 0).voter_pubkey) = none ∧
    IsBallot (demoGateway .sqlx).env s.db (demoBody n 0).report_id (demoBody n 0).input
      (nextBallot n) ∧
    ((nextBallot n).report.tally (s.began {}) (nextBallot n).deltas).Fits ∧
    decision (s.peek {}) (s.began {}) (demoBody n 0).report_id openRules.genesis_roots
      openRules.require_established
      (s.db.cast (s.began {}) (demoBody n 0).report_id (demoBody n 0).input (nextBallot n))
      (nextBallot n) = some (if n = 1 then .unverified else .verified) := by
  have hlt : n < 16 := by
    simp only [List.mem_cons, List.not_mem_nil, or_false] at hn
    omega
  have htarget : demoTarget (demoKey n) = "r" := by
    revert n
    decide
  obtain ⟨hreport, hauthor, hvote, htier, hdecided⟩ := next_request n hn
  obtain ⟨hdb, hnow⟩ := confirmedSys_eq hlt
  have hid : (demoBody n 0).report_id = "r" := htarget
  have hbegan : (confirmedSys n).began {} = 0 := by
    unfold Sys.began
    rw [hnow]
    rfl
  dsimp only
  rw [hid, hdb, hnow, hbegan]
  refine ⟨?_, hauthor, hvote, ⟨hreport, rfl, htier.symm, rfl⟩, ?_, hdecided⟩
  · exact checkVote_demoBody .sqlx hlt (by decide)
  · unfold Report.Fits InRange
    simp only [nextBallot, confirmedReport, Report.tally, Ballot.deltas, deltas, magnitude,
      voteWeight, newReport]
    refine ⟨⟨?_, ?_⟩, ⟨?_, ?_⟩, by decide⟩ <;> simp <;> omega

/-- **A decided verification is rolled back.**  Six newcomers confirm the report of
a seventh; the sixth vote decides `VERIFIED`, fails on the fetch of the new
score, and is lost. -/
theorem verification_rolled_back :
    let s := confirmedSys 5
    let author := newAuthor 0 (demoInput "r")
    checkVote (demoGateway .sqlx).env.verify (s.now - ((0 : ℕ) : ℤ)) {} (demoBody 5 0) = .ok () ∧
    s.db.authors.find? (demoBody 5 0).report_id = some author ∧
    s.db.votes.find? ((demoBody 5 0).report_id, (demoBody 5 0).voter_pubkey) = none ∧
    IsBallot (demoGateway .sqlx).env s.db (demoBody 5 0).report_id (demoBody 5 0).input
      (nextBallot 5) ∧
    ((nextBallot 5).report.tally (s.began {}) (nextBallot 5).deltas).Fits ∧
    decision (s.peek {}) (s.began {}) (demoBody 5 0).report_id openRules.genesis_roots
      openRules.require_established
      (s.db.cast (s.began {}) (demoBody 5 0).report_id (demoBody 5 0).input (nextBallot 5))
      (nextBallot 5) = some .verified ∧
    ¬ CommitsTransition (demoGateway .sqlx) s (demoBody 5 0) openRules {} author.nostr_pubkey
      .verified := by
  obtain ⟨hchecked, hauthor, hvote, hballot, hfits, hdecided⟩ := next_decided (n := 5) (by decide)
  refine ⟨hchecked, hauthor, hvote, hballot, hfits, hdecided, ?_⟩
  rintro ⟨db', r, hcommit, _⟩
  obtain ⟨⟨u, _, _, hwidth⟩, _⟩ := settled_of_commit hballot hdecided hcommit
  cases hwidth

/-- The second confirmation makes the report `UNVERIFIED`, and that is committed. -/
theorem transition_committed_second_vote :
    CommitsTransition (demoGateway .sqlx) (confirmedSys 1) (demoBody 1 0) openRules {}
      (newAuthor 0 (demoInput "r")).nostr_pubkey .unverified := by
  obtain ⟨hchecked, hauthor, hvote, hballot, hfits, hdecided⟩ := next_decided (n := 1) (by decide)
  refine (transition_committed_iff (demoGateway .sqlx) rfl (demo_idsBind .sqlx) 0 [] (confirmed 1)
    (confirmedSys 1) (by rw [confirmedSys]) (demoBody 1 0) openRules {} _ _ _ hchecked hauthor hvote
    hballot hfits hdecided).2 ⟨?_, ?_⟩
  · decide
  · intro _ hscore
    exact absurd hscore (by decide)

end Ledger
end SentinelMesh
