/-
# The counters of a report are its votes

In every reachable state the counters of a report count its rows in
`report_votes`, and its score is the score of its author's tier at creation
plus what each vote weighed when it was cast.

What a vote weighed depends on the voter's tier at that moment, which no table
keeps, so it is read off the events of the run: `ballots` lists the rows each
event added with the tier its voter had just before, and the list is the table
(`Tallied.rows`).
-/

import SentinelMesh.Ledger.Rows

namespace SentinelMesh
namespace Ledger

open Lib

/-- A row of `report_votes` and the voter's tier when it was written. -/
structure CastBallot where
  report_id : Uuid
  voter : Pubkey
  vote : Vote
  tier : Tier

/-- The row of a cast ballot. -/
def CastBallot.row (c : CastBallot) : (Uuid × Pubkey) × Vote := ((c.report_id, c.voter), c.vote)

/-- What a cast ballot weighs: the weight of the tier, one more when near and not
a newcomer, negative for a denial. -/
def CastBallot.signed (c : CastBallot) : ℤ :=
  let magnitude := voteWeight c.tier +
    if c.vote.voter_was_nearby = true ∧ c.tier ≠ .newcomer then 1 else 0
  match c.vote.vote with
  | .confirm => magnitude
  | .deny => -magnitude

/-- The ballots an event cast: the rows it added to `report_votes`. -/
def castBallots (e : Event Sys Act) : List CastBallot :=
  (e.post.db.votes.rows.drop e.pre.db.votes.rows.length).map fun r =>
    { report_id := r.1.1, voter := r.1.2, vote := r.2, tier := reputationTier e.pre.db.users r.1.2 }

/-- The ballots of a run, in order. -/
def ballots (es : List (Event Sys Act)) : List CastBallot := es.flatMap castBallots

/-- What the ballots on a report weigh together. -/
def weight (es : List (Event Sys Act)) (id : Uuid) : ℤ :=
  (((ballots es).filter fun c => decide (c.report_id = id)).map CastBallot.signed).sum

/-- The number of votes of a kind on a report. -/
def Db.votesOn (db : Db) (id : Uuid) (vote : VoteChoice) : ℕ :=
  db.votes.count fun k v => decide (k.1 = id) && decide (v.vote = vote)

/-- The event created the report `id`, by a key whose tier was then `tier`. -/
def Created (e : Event Sys Act) (id : Uuid) (tier : Tier) : Prop :=
  e.pre.db.reports.find? id = none ∧ ∃ author, e.post.db.authors.find? id = some author ∧
    (e.post.db.reports.find? id).isSome ∧ reputationTier e.pre.db.users author.nostr_pubkey = tier

/-- The counters and the score of a report, of the events before. -/
structure ReportTallied (s : Sys) (es : List (Event Sys Act)) (id : Uuid) (r : Report) : Prop where
  confirms : r.confirmation_count = s.db.votesOn id .confirm
  denials : r.denial_count = s.db.votesOn id .deny
  score : r.consensus_score = tierScore r.reporter_tier + weight es id
  created : ∃ e ∈ es, Created e id r.reporter_tier

/-- The ledger after the events `es`. -/
structure Tallied (s : Sys) (es : List (Event Sys Act)) : Prop where
  linked : LinkedSys s
  rows : (ballots es).map CastBallot.row = s.db.votes.rows
  reports : ∀ id r, s.db.reports.find? id = some r → ReportTallied s es id r

theorem ballots_concat (es : List (Event Sys Act)) (e : Event Sys Act) :
    ballots (es ++ [e]) = ballots es ++ castBallots e := by
  simp [ballots]

theorem weight_concat (es : List (Event Sys Act)) (e : Event Sys Act) (id : Uuid) :
    weight (es ++ [e]) id = weight es id +
      (((castBallots e).filter fun c => decide (c.report_id = id)).map CastBallot.signed).sum := by
  unfold weight
  rw [ballots_concat]
  simp

/-- An event that writes no vote casts no ballot. -/
theorem castBallots_eq_nil {e : Event Sys Act} (h : e.post.db.votes = e.pre.db.votes) :
    castBallots e = [] := by
  unfold castBallots
  rw [h, List.drop_length]
  rfl

variable {gw : Gateway} {s : Sys} {es : List (Event Sys Act)}

/-- The one ballot of a vote that commits. -/
theorem castBallots_voted {a : Act} {body : CastVoteBody} {rules : Rules} {sch : Schedule}
    {author : Pubkey} {b : Ballot} {o : Option ReportStatus}
    (hv : Voted gw s body rules sch author b o)
    (hdb : (step gw s a).db = s.voted body sch author b o) :
    castBallots ⟨s, a, step gw s a⟩ =
      [{ report_id := body.report_id, voter := body.voter_pubkey,
         vote := b.row (s.began sch) body.voter_nostr_event.id, tier := b.tier }] := by
  have hrows : (step gw s a).db.votes.rows = s.db.votes.rows ++
      [((body.report_id, body.voter_pubkey), b.row (s.began sch) body.voter_nostr_event.id)] := by
    rw [hdb, voted_votes]
    exact Table.rows_insert _ hv.new_vote
  unfold castBallots
  dsimp only
  rw [hrows, List.drop_left, hv.ballot.tier]
  rfl

/-- The score delta of a ballot is what the cast ballot weighs. -/
theorem signed_eq_deltas (b : Ballot) (now : Timestamp) (event_id : String) (id : Uuid)
    (voter : Pubkey) :
    CastBallot.signed { report_id := id, voter, vote := b.row now event_id, tier := b.tier } =
      b.deltas.1 := by
  obtain ⟨report, choice, tier, nearby⟩ := b
  have hbonus : (if nearby = true ∧ tier ≠ .newcomer then (1 : ℤ) else 0) =
      if nearby && decide (tier ≠ .newcomer) then 1 else 0 := by
    refine if_congr ?_ rfl rfl
    simp
  cases choice with
  | confirm => exact congrArg (voteWeight tier + ·) hbonus
  | deny => exact congrArg (fun n => -(voteWeight tier + n)) hbonus

/-- A report without votes weighs nothing. -/
theorem weight_eq_zero (hrows : (ballots es).map CastBallot.row = s.db.votes.rows) {id : Uuid}
    (hno : ∀ pk, s.db.votes.find? (id, pk) = none) : weight es id = 0 := by
  have hnil : (ballots es).filter (fun c => decide (c.report_id = id)) = [] := by
    refine List.filter_eq_nil_iff.2 fun c hc hid => ?_
    have hmem : c.row ∈ s.db.votes.rows := hrows ▸ List.mem_map_of_mem hc
    have hfind := Table.find?_eq_some_iff.2 hmem
    rw [show c.report_id = id from by simpa using hid, hno] at hfind
    cases hfind
  unfold weight
  rw [hnil]
  rfl

theorem votesOn_eq_zero {db : Db} {id : Uuid} (hno : ∀ pk, db.votes.find? (id, pk) = none)
    (vote : VoteChoice) : db.votesOn id vote = 0 := by
  refine List.countP_eq_zero.2 fun r hr hp => ?_
  simp only [Bool.and_eq_true, decide_eq_true_eq] at hp
  have hfind := Table.find?_eq_some_iff.2 (show ((id, r.1.2), r.2) ∈ db.votes.rows from hp.1 ▸ hr)
  rw [hno] at hfind
  cases hfind

/-- A created report counts no votes and scores its author's tier. -/
theorem tallied_create {a : Act} {now : Timestamp} {id : Uuid} {input : CreateReportInput}
    (h : Tallied s es) (hnew : s.db.reports.find? id = none)
    (hauthor : s.db.authors.find? id = none)
    (hdb : (step gw s a).db = s.db.create gw.env now id input) {id' : Uuid} {r : Report}
    (hr : (step gw s a).db.reports.find? id' = some r) :
    ReportTallied (step gw s a) (es ++ [⟨s, a, step gw s a⟩]) id' r := by
  have hvotes : (step gw s a).db.votes = s.db.votes := by
    rw [hdb]
    rfl
  have hweight : ∀ id, weight (es ++ [⟨s, a, step gw s a⟩]) id = weight es id := by
    intro id
    rw [weight_concat, castBallots_eq_nil hvotes]
    exact Int.add_zero _
  have hon : ∀ id vote, (step gw s a).db.votesOn id vote = s.db.votesOn id vote := by
    intro id vote
    unfold Db.votesOn
    rw [hvotes]
  have hreports : (step gw s a).db.reports.find? id' = if id' = id then
      some (newReport gw.env now input (reputationTier s.db.users input.nostr_pubkey))
      else s.db.reports.find? id' := by
    rw [hdb]
    refine (Table.find?_insert ..).trans ?_
    rw [hnew]
    rfl
  by_cases hid : id' = id
  · subst hid
    have hrow := hr
    rw [hreports, if_pos rfl] at hrow
    obtain rfl := Option.some.inj hrow
    have hno : ∀ pk, s.db.votes.find? (id', pk) = none := by
      intro pk
      by_contra hne
      have := h.linked.2.on_report id' pk (Option.isSome_iff_ne_none.2 hne)
      rw [hnew] at this
      cases this
    refine ⟨?_, ?_, ?_, ⟨_, List.mem_append_right _ (List.mem_singleton_self _), ?_⟩⟩
    · rw [hon, votesOn_eq_zero hno]
      rfl
    · rw [hon, votesOn_eq_zero hno]
      rfl
    · rw [hweight, weight_eq_zero h.rows hno]
      exact (Int.add_zero _).symm
    · refine ⟨hnew, newAuthor now input, ?_, ?_, rfl⟩
      · rw [hdb]
        refine (Table.find?_insert ..).trans ?_
        rw [if_pos rfl, hauthor]
        rfl
      · rw [hr]
        rfl
  · rw [hreports, if_neg hid] at hr
    obtain ⟨hc, hd, hs, e, he, hcreated⟩ := h.reports id' r hr
    refine ⟨?_, ?_, ?_, e, List.mem_append_left _ he, hcreated⟩
    · rw [hon, hc]
    · rw [hon, hd]
    · rw [hweight, hs]

/-- A vote moves the counters of its report by what it adds to the votes. -/
theorem tallied_voted {a : Act} {body : CastVoteBody} {rules : Rules} {sch : Schedule}
    {author : Pubkey} {b : Ballot} {o : Option ReportStatus} (h : Tallied s es)
    (hv : Voted gw s body rules sch author b o)
    (hdb : (step gw s a).db = s.voted body sch author b o) {id : Uuid} {r : Report}
    (hr : (step gw s a).db.reports.find? id = some r) :
    ReportTallied (step gw s a) (es ++ [⟨s, a, step gw s a⟩]) id r := by
  have hon : ∀ vote, (step gw s a).db.votesOn id vote = s.db.votesOn id vote +
      if body.report_id = id ∧ b.choice = vote then 1 else 0 := by
    intro vote
    unfold Db.votesOn
    rw [hdb, voted_votes, Table.count_insert hv.new_vote]
    refine congrArg _ (if_congr ?_ rfl rfl)
    rw [Bool.and_eq_true, decide_eq_true_eq, decide_eq_true_eq]
    rfl
  have hweight : weight (es ++ [⟨s, a, step gw s a⟩]) id = weight es id +
      if body.report_id = id then b.deltas.1 else 0 := by
    rw [weight_concat, castBallots_voted hv hdb]
    split_ifs with hid
    · simp [hid, signed_eq_deltas]
    · simp [hid]
  rw [hdb, voted_reports, Table.find?_modify] at hr
  by_cases hid : id = body.report_id
  · subst hid
    rw [if_pos rfl, hv.ballot.report] at hr
    obtain rfl := Option.some.inj hr
    obtain ⟨hc, hd, hs, e, he, hcreated⟩ := h.reports _ _ hv.ballot.report
    have hkeep : ∀ r : Report, (r.conclude (s.began sch) o).confirmation_count =
        r.confirmation_count ∧ (r.conclude (s.began sch) o).denial_count = r.denial_count ∧
        (r.conclude (s.began sch) o).consensus_score = r.consensus_score ∧
        (r.conclude (s.began sch) o).reporter_tier = r.reporter_tier := by
      intro r
      cases o <;> exact ⟨rfl, rfl, rfl, rfl⟩
    obtain ⟨h₁, h₂, h₃, h₄⟩ := hkeep (b.report.tally (s.began sch) b.deltas)
    refine ⟨?_, ?_, ?_, e, List.mem_append_left _ he, ?_⟩
    · rw [h₁, hon]
      cases hb : b.choice <;> simp [Report.tally, Ballot.deltas, deltas, hb, hc]
    · rw [h₂, hon]
      cases hb : b.choice <;> simp [Report.tally, Ballot.deltas, deltas, hb, hd]
    · rw [h₃, h₄, hweight, if_pos rfl]
      simp only [Report.tally]
      rw [hs, add_assoc]
    · rw [h₄]
      exact hcreated
  · rw [if_neg hid] at hr
    obtain ⟨hc, hd, hs, e, he, hcreated⟩ := h.reports id r hr
    refine ⟨?_, ?_, ?_, e, List.mem_append_left _ he, hcreated⟩
    · rw [hon, if_neg fun hc => hid hc.1.symm, hc]
      rfl
    · rw [hon, if_neg fun hc => hid hc.1.symm, hd]
      rfl
    · rw [hweight, if_neg fun hc => hid hc.symm, hs, Int.add_zero]

/-- **One step keeps the tally.** -/
theorem tallied_step (a : Act) (h : Tallied s es) :
    Tallied (step gw s a) (es ++ [⟨s, a, step gw s a⟩]) := by
  rcases ledger_step gw s a with ⟨hr, _, hv⟩ | ⟨id, input, ago, _, hr, ha, hdb⟩ |
    ⟨body, rules, sch, author, b, o, _, hv, hdb⟩
  · have hno : castBallots ⟨s, a, step gw s a⟩ = [] := castBallots_eq_nil hv
    refine ⟨linked_step a h.linked, ?_, fun id r hid => ?_⟩
    · rw [ballots_concat, hno, List.append_nil, h.rows, hv]
    · rw [hr] at hid
      obtain ⟨hc, hd, hs, e, he, hcreated⟩ := h.reports id r hid
      refine ⟨?_, ?_, ?_, e, List.mem_append_left _ he, hcreated⟩
      · rw [Db.votesOn, hv]
        exact hc
      · rw [Db.votesOn, hv]
        exact hd
      · rw [weight_concat, hno]
        exact hs.trans (congrArg _ (Int.add_zero _).symm)
  · refine ⟨linked_step a h.linked, ?_, fun id' r hid => tallied_create h hr ha hdb hid⟩
    rw [ballots_concat, castBallots_eq_nil (by rw [hdb]; rfl), List.append_nil, h.rows, hdb]
    rfl
  · refine ⟨linked_step a h.linked, ?_, fun id r hid => tallied_voted h hv hdb hid⟩
    rw [ballots_concat, castBallots_voted hv hdb, List.map_append, h.rows, hdb, voted_votes,
      Table.rows_insert _ hv.new_vote]
    rfl

theorem tallied_run (gw : Gateway) (start : Timestamp) (linked : List Uuid) (as : List Act) :
    Tallied (run (step gw) (Sys.init start linked) as)
      (events (step gw) (Sys.init start linked) as) := by
  refine run_events_induction ⟨linked_init start linked, rfl, ?_⟩
    (fun s es a h => tallied_step a h) as
  intro id r hr
  cases hr

/-- **The report ledger.**  In every reachable state the votes table is the list
of ballots cast, and for every report the two counters count its votes, the
score is that of its author's tier at creation plus what its ballots weighed
when they were cast, no key has two votes on it and its author has none; and a
request that is refused changes no table. -/
theorem report_ledger (gw : Gateway) (start : Timestamp) (linked : List Uuid) (as : List Act) :
    let s := run (step gw) (Sys.init start linked) as
    let es := events (step gw) (Sys.init start linked) as
    (ballots es).map CastBallot.row = s.db.votes.rows ∧
    (∀ id r, s.db.reports.find? id = some r →
      r.confirmation_count = s.db.votesOn id .confirm ∧
      r.denial_count = s.db.votesOn id .deny ∧
      (∃ e ∈ es, ∃ tier, Created e id tier ∧ r.consensus_score = tierScore tier + weight es id) ∧
      (∀ pk, s.db.votes.count (fun k _ => decide (k = (id, pk))) ≤ 1) ∧
      (∀ author, s.db.authors.find? id = some author →
        s.db.votes.find? (id, author.nostr_pubkey) = none)) ∧
    (∀ a e, (exec gw s a).2 = .error e → (step gw s a).db = s.db) := by
  have h := tallied_run gw start linked as
  refine ⟨h.rows, fun id r hr => ?_, fun a e => db_of_error⟩
  obtain ⟨hc, hd, hs, e, he, hcreated⟩ := h.reports id r hr
  refine ⟨hc, hd, ⟨e, he, _, hcreated, hs⟩, fun pk => ?_, fun author ha => ?_⟩
  · exact Table.count_key_le_one _ _
  · exact h.linked.2.not_own id author ha

end Ledger
end SentinelMesh
