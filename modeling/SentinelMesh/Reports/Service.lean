/-
# Creating reports and voting on them

`reports/service.rs` (`create_report`, `cast_vote`), statement by statement.
Each function is one transaction: the statements run on a working copy and a
failing one discards it (`Lib.Txn`).

The row locks of `cast_vote` hold the report, the voter and the author from
their `FOR UPDATE` to the commit, and the votes on the report with it, so these
rows are read where the transaction commits.  One statement reads rows it holds
no lock on: the count of established confirmers, over other users and over
vouches.  What it sees of them is a parameter, `peek`: the tables some earlier
moment had committed.  `Peek.own` is the transaction that runs alone.

`run_castVote_eq_ok` is the whole effect of a vote that commits, as a composition of
the updates `touchVoter`, `addVote`, `tally`, `setStatus` and `settle`.
-/

import SentinelMesh.Trust.Personhood

namespace SentinelMesh
namespace Ledger

open Lib

/-- What the functions use of other crates: `h3o` behind `snap_to_r9`, the
`earthdistance` extension, and `nostr_sdk`'s verification. -/
structure Env where
  snapToR9 : ℚ → ℚ → String × ℚ × ℚ
  earthDistance : ℚ → ℚ → ℚ → ℚ → ℚ
  verify : NostrEvent → Bool

/-- `CreateReportInput`. -/
structure CreateReportInput where
  report_type : String
  description : Option String
  lat : ℚ
  lng : ℚ
  place_name : Option String
  nostr_pubkey : Pubkey
  nostr_signature : String
  nostr_event_id : String
  photo_ipfs_cid : Option String
  linked_event_id : Option Uuid
  deriving DecidableEq

/-- `CastVoteInput`. -/
structure CastVoteInput where
  voter_pubkey : Pubkey
  nostr_event_id : String
  vote : String
  voter_lat : Option ℚ
  voter_lng : Option ℚ
  deriving DecidableEq

/-! ### `create_report` -/

/-- The row `create_report` gives a key that has none. -/
def newReporter (now : Timestamp) : User :=
  { total_reports := 1, created_at := now, last_active := now }

/-- `INSERT INTO users .. ON CONFLICT (nostr_pubkey) DO UPDATE`. -/
def countReport (pg : Pg) (now : Timestamp) (pubkey : Pubkey) : DbTxn Unit := do
  match (← get).users.find? pubkey with
  | none => modify fun db => { db with users := db.users.insert pubkey (newReporter now) }
  | some u =>
    pg.integer "users.total_reports" (u.total_reports + 1)
    modify fun db => { db with users := db.users.modify pubkey fun u =>
      { u with total_reports := u.total_reports + 1, last_active := now } }

/-- The row of a new report. -/
def newReport (env : Env) (now : Timestamp) (input : CreateReportInput) (tier : Tier) : Report :=
  let (h3_r9, lat, lng) := env.snapToR9 input.lat input.lng
  { report_type := input.report_type, description := input.description, lat, lng, h3_r9,
    place_name := input.place_name, reporter_tier := tier, consensus_score := tierScore tier,
    confirmation_count := 0, denial_count := 0, status := .pending,
    photo_ipfs_cid := input.photo_ipfs_cid, linked_event_id := input.linked_event_id,
    created_at := now, updated_at := now }

/-- The row of a new report's author. -/
def newAuthor (now : Timestamp) (input : CreateReportInput) : Author :=
  { nostr_pubkey := input.nostr_pubkey, nostr_signature := input.nostr_signature,
    nostr_event_id := input.nostr_event_id, created_at := now }

/-- `INSERT INTO community_reports`. -/
def insertReport (id : Uuid) (report : Report) : DbTxn Unit := do
  let db ← get
  Txn.require (db.reports.find? id).isNone (.uniqueViolation "community_reports_pkey")
  Txn.require (decide (-90 ≤ report.lat ∧ report.lat ≤ 90))
    (.checkViolation "community_reports_lat_check")
  Txn.require (decide (-180 ≤ report.lng ∧ report.lng ≤ 180))
    (.checkViolation "community_reports_lng_check")
  Txn.require (report.linked_event_id.all fun e => decide (e ∈ db.safety_events))
    (.foreignKeyViolation "community_reports_linked_event_id_fkey")
  modify fun db => { db with reports := db.reports.insert id report }

/-- `INSERT INTO report_authors`. -/
def insertAuthor (id : Uuid) (author : Author) : DbTxn Unit := do
  let db ← get
  Txn.require (db.authors.find? id).isNone (.uniqueViolation "report_authors_pkey")
  Txn.require (db.authors.rows.all fun r => decide (r.2.nostr_event_id ≠ author.nostr_event_id))
    (.uniqueViolation "report_authors_nostr_event_id_key")
  modify fun db => { db with authors := db.authors.insert id author }

/-- `create_report`; `id` is what `gen_random_uuid()` returns. -/
def createReport (env : Env) (pg : Pg) (now : Timestamp) (id : Uuid) (input : CreateReportInput) :
    DbTxn Report := do
  countReport pg now input.nostr_pubkey
  let reporter ← Txn.fetch ((← get).users.find? input.nostr_pubkey) .rowNotFound
  let report := newReport env now input reporter.reputation_tier
  insertReport id report
  insertAuthor id (newAuthor now input)
  pure report

/-- The reporter's row after `countReport`. -/
def Db.countReport (db : Db) (now : Timestamp) (pubkey : Pubkey) : Table Pubkey User :=
  (db.users.insert pubkey { newReporter now with total_reports := 0 }).modify pubkey fun u =>
    { u with total_reports := u.total_reports + 1, last_active := now }

/-- The database with a new report. -/
def Db.create (db : Db) (env : Env) (now : Timestamp) (id : Uuid) (input : CreateReportInput) : Db :=
  { db with
    users := db.countReport now input.nostr_pubkey
    reports := db.reports.insert id
      (newReport env now input (reputationTier db.users input.nostr_pubkey))
    authors := db.authors.insert id (newAuthor now input) }

theorem find?_countReport (db : Db) (now : Timestamp) (pubkey pk : Pubkey) :
    (db.countReport now pubkey).find? pk =
      if pk = pubkey then
        some (((db.users.find? pubkey).map fun u =>
          { u with total_reports := u.total_reports + 1, last_active := now }).getD
            (newReporter now))
      else db.users.find? pk := by
  unfold Db.countReport
  rw [Table.find?_modify, Table.find?_insert, Table.find?_insert, if_pos rfl]
  split_ifs
  · cases db.users.find? pubkey <;> rfl
  · rfl

theorem run_countReport_eq_ok {pg : Pg} {now : Timestamp} {pubkey : Pubkey} {db db' : Db} {u : Unit}
    (h : (countReport pg now pubkey).run db = .ok (u, db')) :
    db' = { db with users := db.countReport now pubkey } := by
  unfold countReport at h
  simp only [Txn.run_bind_eq_ok, Txn.run_get_eq_ok] at h
  obtain ⟨_, _, ⟨rfl, rfl⟩, h⟩ := h
  cases hu : db.users.find? pubkey with
  | none =>
      rw [hu] at h
      rw [← Txn.run_modify_eq_ok.1 h]
      congr 1
      refine Table.ext ?_
      have hno := Table.find?_eq_none_iff.1 hu
      unfold Db.countReport
      simp only [Table.modify]
      rw [Table.rows_insert _ hu, Table.rows_insert _ hu, List.map_append]
      congr 1
      · refine ((List.map_congr_left fun r hr => if_neg fun hk => ?_).trans (List.map_id _)).symm
        exact hno (List.mem_map.2 ⟨r, hr, hk⟩)
      · simp [newReporter]
  | some v =>
      rw [hu] at h
      simp only [Txn.run_bind_eq_ok, Pg.run_integer_eq_ok, Txn.run_modify_eq_ok] at h
      obtain ⟨_, _, ⟨_, rfl⟩, rfl⟩ := h
      unfold Db.countReport
      rw [Table.insert_of_find? _ hu]

theorem run_insertReport_eq_ok {id : Uuid} {report : Report} {db db' : Db} {u : Unit}
    (h : (insertReport id report).run db = .ok (u, db')) :
    db.reports.find? id = none ∧ db' = { db with reports := db.reports.insert id report } := by
  unfold insertReport at h
  simp only [Txn.run_bind_eq_ok, Txn.run_get_eq_ok, Txn.run_require_eq_ok,
    Txn.run_modify_eq_ok] at h
  obtain ⟨_, _, ⟨rfl, rfl⟩, _, _, ⟨hid, rfl⟩, _, _, ⟨_, rfl⟩, _, _, ⟨_, rfl⟩, _, _, ⟨_, rfl⟩,
    rfl⟩ := h
  exact ⟨by simpa using hid, rfl⟩

theorem run_insertAuthor_eq_ok {id : Uuid} {author : Author} {db db' : Db} {u : Unit}
    (h : (insertAuthor id author).run db = .ok (u, db')) :
    db.authors.find? id = none ∧ db' = { db with authors := db.authors.insert id author } := by
  unfold insertAuthor at h
  simp only [Txn.run_bind_eq_ok, Txn.run_get_eq_ok, Txn.run_require_eq_ok,
    Txn.run_modify_eq_ok] at h
  obtain ⟨_, _, ⟨rfl, rfl⟩, _, _, ⟨hid, rfl⟩, _, _, ⟨_, rfl⟩, rfl⟩ := h
  exact ⟨by simpa using hid, rfl⟩

/-- **The effect of `create_report`.** -/
theorem run_createReport_eq_ok {env : Env} {pg : Pg} {now : Timestamp} {id : Uuid}
    {input : CreateReportInput} {db db' : Db} {r : Report}
    (h : (createReport env pg now id input).run db = .ok (r, db')) :
    db.reports.find? id = none ∧ db.authors.find? id = none ∧ db' = db.create env now id input := by
  unfold createReport at h
  simp only [Txn.run_bind_eq_ok, Txn.run_get_eq_ok, Txn.run_fetch_eq_ok, Txn.run_pure_eq_ok] at h
  obtain ⟨_, _, hcount, _, _, ⟨rfl, rfl⟩, reporter, _, ⟨hu, rfl⟩, _, _, hreport, _, _, hauthor, _,
    rfl⟩ := h
  obtain rfl := run_countReport_eq_ok hcount
  obtain ⟨hid, rfl⟩ := run_insertReport_eq_ok hreport
  obtain ⟨hid', rfl⟩ := run_insertAuthor_eq_ok hauthor
  have htier : reporter.reputation_tier = reputationTier db.users input.nostr_pubkey := by
    rw [find?_countReport, if_pos rfl] at hu
    obtain rfl := Option.some.inj hu
    unfold reputationTier
    cases db.users.find? input.nostr_pubkey <;> rfl
  refine ⟨hid, hid', ?_⟩
  rw [htier]
  rfl

/-! ### `cast_vote` -/

/-- What a statement sees of the tables it holds no lock on. -/
structure Peek where
  users : Table Pubkey User
  vouches : List Vouch

/-- A transaction that runs alone sees its own tables. -/
def Peek.own (db : Db) : Peek := ⟨db.users, db.vouches⟩

/-- The `VALUES` and defaults of `INSERT INTO users (nostr_pubkey)`. -/
def newVoter (now : Timestamp) : User := { created_at := now, last_active := now }

/-- The voter's row exists and is touched: `INSERT .. ON CONFLICT DO NOTHING`,
then `UPDATE users SET last_active = NOW()`. -/
def Db.touchVoter (db : Db) (now : Timestamp) (voter : Pubkey) : Db :=
  { db with users := (db.users.insert voter (newVoter now)).modify voter fun u =>
      { u with last_active := now } }

/-- `dist <= 1000.0`, `false` without both coordinates. -/
def isNearby (env : Env) (report : Report) (lat lng : Option ℚ) : Bool :=
  match lat, lng with
  | some vlat, some vlng => decide (env.earthDistance vlat vlng report.lat report.lng ≤ 1000)
  | _, _ => false

/-- `weight + proximity_bonus`: proximity counts for established voters only. -/
def magnitude (tier : Tier) (nearby : Bool) : ℤ :=
  voteWeight tier + if nearby && decide (tier ≠ .newcomer) then 1 else 0

/-- `(score_delta, conf_delta, deny_delta)`. -/
def deltas (vote : VoteChoice) (magnitude : ℤ) : ℤ × ℤ × ℤ :=
  match vote with
  | .confirm => (magnitude, 1, 0)
  | .deny => (-magnitude, 0, 1)

/-- The new row of `report_votes`. -/
def Db.addVote (db : Db) (report_id : Uuid) (voter : Pubkey) (v : Vote) : Db :=
  { db with votes := db.votes.insert (report_id, voter) v }

/-- `UPDATE community_reports SET consensus_score = consensus_score + $2, ..`. -/
def Report.tally (r : Report) (now : Timestamp) (d : ℤ × ℤ × ℤ) : Report :=
  { r with consensus_score := r.consensus_score + d.1
           confirmation_count := r.confirmation_count + d.2.1
           denial_count := r.denial_count + d.2.2
           updated_at := now }

/-- The counters of a report after a vote. -/
def Db.tally (db : Db) (now : Timestamp) (report_id : Uuid) (d : ℤ × ℤ × ℤ) : Db :=
  { db with reports := db.reports.modify report_id fun r => r.tally now d }

/-- `UPDATE community_reports SET status = $3`. -/
def Db.setStatus (db : Db) (now : Timestamp) (report_id : Uuid) (s : ReportStatus) : Db :=
  { db with reports := db.reports.modify report_id fun r =>
      { r with status := s, updated_at := now } }

/-- The first `UPDATE users` of a verification.  Every right-hand side reads the
row as it was, so both scores become the old earned score plus ten. -/
def User.credit (u : User) (now : Timestamp) : User :=
  { u with accurate_reports := u.accurate_reports + 1
           reputation_score := u.reputation_score + 10
           effective_reputation_score := u.reputation_score + 10
           last_verified_at := some now }

/-- What a new status does to the author: credit for `VERIFIED`, the counter for
`REJECTED`. -/
def creditAuthor (pg : Pg) (now : Timestamp) (reporter : Pubkey) (s : ReportStatus) :
    DbTxn Unit := do
  if s = .verified then
    let u ← Txn.fetch ((← get).users.find? reporter) .rowNotFound
    pg.integer "users.accurate_reports" (u.accurate_reports + 1)
    pg.integer "users.reputation_score" (u.reputation_score + 10)
    modify fun db => { db with users := db.users.modify reporter fun u => u.credit now }
    -- the column is INTEGER and the variable `new_score: i64`
    let new_score ← pg.fetchScalar .integer .i64 (u.reputation_score + 10)
    modify fun db => { db with users := db.users.modify reporter fun u =>
      { u with reputation_tier := computeTier new_score } }
  else if s = .rejected then
    match (← get).users.find? reporter with
    | none => pure ()
    | some u =>
      pg.integer "users.rejected_reports" (u.rejected_reports + 1)
      modify fun db => { db with users := db.users.modify reporter fun u =>
        { u with rejected_reports := u.rejected_reports + 1 } }

/-- `INSERT INTO report_votes`. -/
def insertVote (report_id : Uuid) (voter : Pubkey) (v : Vote) : DbTxn Unit := do
  let votes := (← get).votes
  Txn.require (votes.find? (report_id, voter)).isNone
    (.uniqueViolation "report_votes_report_id_voter_pubkey_key")
  Txn.require (votes.rows.all fun r => decide (r.2.nostr_event_id ≠ v.nostr_event_id))
    (.uniqueViolation "report_votes_nostr_event_id_key")
  modify fun db => db.addVote report_id voter v

/-- `UPDATE community_reports .. RETURNING ..` of the counters. -/
def updateCounters (pg : Pg) (now : Timestamp) (report_id : Uuid) (d : ℤ × ℤ × ℤ) :
    DbTxn Report := do
  let report ← Txn.fetch ((← get).reports.find? report_id) .rowNotFound
  let updated := report.tally now d
  pg.integer "community_reports.consensus_score" updated.consensus_score
  pg.integer "community_reports.confirmation_count" updated.confirmation_count
  pg.integer "community_reports.denial_count" updated.denial_count
  Txn.require (decide (0 ≤ updated.confirmation_count))
    (.checkViolation "community_reports_confirmation_count_check")
  Txn.require (decide (0 ≤ updated.denial_count))
    (.checkViolation "community_reports_denial_count_check")
  modify fun db => db.tally now report_id d
  pure updated

/-- `UPDATE community_reports SET status = $3 .. WHERE id = $1 AND status = $2
RETURNING ..`. -/
def updateStatus (now : Timestamp) (report_id : Uuid) (old new : ReportStatus) : DbTxn Report := do
  let report ← Txn.fetch ((← get).reports.find? report_id) .rowNotFound
  Txn.require (decide (report.status = old)) .rowNotFound
  modify fun db => db.setStatus now report_id new
  pure { report with status := new, updated_at := now }

/-- The end of `cast_vote`: the new status, if one was decided, and what follows
from it. -/
def concludeVote (pg : Pg) (now : Timestamp) (report_id : Uuid) (reporter_pubkey : Pubkey)
    (old : ReportStatus) (updated : Report) (new_status : Option ReportStatus) :
    DbTxn Report := do
  match new_status with
  | none => pure updated
  | some new_status =>
    let updated ← updateStatus now report_id old new_status
    creditAuthor pg now reporter_pubkey new_status
    pure updated

/-- `cast_vote`. -/
def castVote (env : Env) (pg : Pg) (now : Timestamp) (peek : Db → Peek) (report_id : Uuid)
    (input : CastVoteInput) (genesis_roots : List Pubkey) (require_established : Bool)
    (reporter_pubkey : Pubkey) : DbTxn Report := do
  let report ← Txn.fetch ((← get).reports.find? report_id) .reportNotFound
  modify fun db => db.touchVoter now input.voter_pubkey
  let voter ← Txn.fetch ((← get).users.find? input.voter_pubkey) .rowNotFound
  let voter_tier := voter.reputation_tier
  let nearby := isNearby env report input.voter_lat input.voter_lng
  let vote ← Txn.fetch (VoteChoice.ofText? input.vote) .invalidVote
  let d := deltas vote (magnitude voter_tier nearby)
  insertVote report_id input.voter_pubkey
    { nostr_event_id := input.nostr_event_id, vote, voter_was_nearby := nearby, created_at := now }
  let updated ← updateCounters pg now report_id d
  let db ← get
  let established_confirmations ← pg.fetchScalar .bigint .i64
    (establishedConfirmations db.votes (peek db).users (peek db).vouches now genesis_roots report_id)
  let new_status := computeNewStatus updated.status updated.consensus_score
    updated.confirmation_count updated.denial_count (wrap 32 established_confirmations)
    require_established
  concludeVote pg now report_id reporter_pubkey report.status updated new_status

/-! ### The effect of a vote that commits -/

/-- What `cast_vote` reads before it writes: the locked report, the vote, the
voter's tier, and whether the voter was near. -/
structure Ballot where
  report : Report
  choice : VoteChoice
  tier : Tier
  nearby : Bool

/-- The deltas of a ballot. -/
def Ballot.deltas (b : Ballot) : ℤ × ℤ × ℤ := Ledger.deltas b.choice (magnitude b.tier b.nearby)

/-- The row of a ballot in `report_votes`. -/
def Ballot.row (b : Ballot) (now : Timestamp) (event_id : String) : Vote :=
  { nostr_event_id := event_id, vote := b.choice, voter_was_nearby := b.nearby, created_at := now }

/-- The database with a ballot counted and its consequences still open. -/
def Db.cast (db : Db) (now : Timestamp) (report_id : Uuid) (input : CastVoteInput) (b : Ballot) :
    Db :=
  ((db.touchVoter now input.voter_pubkey).addVote report_id input.voter_pubkey
    (b.row now input.nostr_event_id)).tally now report_id b.deltas

/-- The transition a ballot leads to, on the database that counts it. -/
def decision (peek : Db → Peek) (now : Timestamp) (report_id : Uuid) (roots : List Pubkey)
    (gate : Bool) (db : Db) (b : Ballot) : Option ReportStatus :=
  let updated := b.report.tally now b.deltas
  computeNewStatus updated.status updated.consensus_score updated.confirmation_count
    updated.denial_count
    (wrap 32 (establishedConfirmations db.votes (peek db).users (peek db).vouches now roots
      report_id)) gate

/-- The author's row after a new status. -/
def User.settle (u : User) (now : Timestamp) (s : ReportStatus) : User :=
  match s with
  | .verified =>
    { u.credit now with reputation_tier := computeTier (u.reputation_score + 10) }
  | .rejected => { u with rejected_reports := u.rejected_reports + 1 }
  | _ => u

/-- The database after a new status: the report's row and the author's. -/
def Db.settle (db : Db) (now : Timestamp) (report_id : Uuid) (reporter : Pubkey)
    (s : ReportStatus) : Db :=
  { db.setStatus now report_id s with
    users := db.users.modify reporter fun u => u.settle now s }

/-- What the statements on the author's row need: for `VERIFIED` the row, the
ranges, and a driver that decodes an `INTEGER` column into an `i64`. -/
def CanSettle (pg : Pg) (users : Table Pubkey User) (reporter : Pubkey) (s : ReportStatus) : Prop :=
  match s with
  | .verified => ∃ u, users.find? reporter = some u ∧
      (pg.rangeChecked = true → InRange 31 (u.accurate_reports + 1) ∧
        InRange 31 (u.reputation_score + 10)) ∧ pg.widthChecked = false
  | .rejected => ∀ u, users.find? reporter = some u →
      pg.rangeChecked = true → InRange 31 (u.rejected_reports + 1)
  | _ => True

theorem run_creditVerified_eq_ok {pg : Pg} {now : Timestamp} {reporter : Pubkey}
    {db db' : Db} {u : Unit} : (creditAuthor pg now reporter .verified).run db = .ok (u, db') ↔
      CanSettle pg db.users reporter .verified ∧
      { db with users := db.users.modify reporter fun u => u.settle now .verified } = db' := by
  unfold creditAuthor CanSettle
  rw [if_pos rfl]
  simp only [Txn.run_bind_eq_ok, Txn.run_get_eq_ok, Txn.run_fetch_eq_ok, Pg.run_integer_eq_ok,
    Txn.run_modify_eq_ok, Pg.run_fetchScalar_eq_ok, SqlInt.matches, Bool.false_eq_true, imp_false,
    Bool.not_eq_true]
  -- the two updates of the author's row are one
  have hmod : ∀ u, db.users.find? reporter = some u →
      (db.users.modify reporter fun v => v.credit now).modify reporter (fun v =>
        { v with reputation_tier := computeTier (u.reputation_score + 10) }) =
      db.users.modify reporter fun v => v.settle now .verified := by
    intro u hu
    rw [Table.modify_modify]
    refine Table.modify_congr fun v hv => ?_
    obtain rfl := Option.some.inj (hu.symm.trans hv)
    rfl
  constructor
  · rintro ⟨_, _, ⟨rfl, rfl⟩, u, _, ⟨hu, rfl⟩, _, _, ⟨h₁, rfl⟩, _, _, ⟨h₂, rfl⟩, _, _, rfl, _, _,
      ⟨h₃, rfl, rfl⟩, rfl⟩
    refine ⟨⟨u, hu, fun h => ⟨h₁ h, h₂ h⟩, h₃⟩, ?_⟩
    rw [← hmod u hu]
  · rintro ⟨⟨u, hu, h, h₃⟩, rfl⟩
    refine ⟨_, _, ⟨rfl, rfl⟩, u, _, ⟨hu, rfl⟩, (), _, ⟨fun hc => (h hc).1, rfl⟩, (), _,
      ⟨fun hc => (h hc).2, rfl⟩, ⟨⟩, _, rfl, _, _, ⟨h₃, rfl, rfl⟩, ?_⟩
    rw [← hmod u hu]

theorem run_creditRejected_eq_ok {pg : Pg} {now : Timestamp} {reporter : Pubkey}
    {db db' : Db} {u : Unit} : (creditAuthor pg now reporter .rejected).run db = .ok (u, db') ↔
      CanSettle pg db.users reporter .rejected ∧
      { db with users := db.users.modify reporter fun u => u.settle now .rejected } = db' := by
  unfold creditAuthor CanSettle
  rw [if_neg (by decide), if_pos rfl]
  simp only [Txn.run_bind_eq_ok, Txn.run_get_eq_ok]
  cases hu : db.users.find? reporter with
  | none =>
      rw [Table.modify_of_find? _ hu]
      constructor
      · rintro ⟨_, _, ⟨rfl, rfl⟩, h⟩
        rw [hu] at h
        exact ⟨fun w hw => (by cases hw), (Txn.run_pure_eq_ok.1 h).2⟩
      · rintro ⟨_, rfl⟩
        refine ⟨_, _, ⟨rfl, rfl⟩, ?_⟩
        rw [hu]
        rfl
  | some v =>
      constructor
      · rintro ⟨_, _, ⟨rfl, rfl⟩, h⟩
        rw [hu] at h
        simp only [Txn.run_bind_eq_ok, Pg.run_integer_eq_ok, Txn.run_modify_eq_ok] at h
        obtain ⟨_, _, ⟨h, rfl⟩, rfl⟩ := h
        exact ⟨fun w hw => by obtain rfl := Option.some.inj hw; exact h, rfl⟩
      · rintro ⟨h, rfl⟩
        refine ⟨_, _, ⟨rfl, rfl⟩, ?_⟩
        rw [hu]
        simp only [Txn.run_bind_eq_ok, Pg.run_integer_eq_ok, Txn.run_modify_eq_ok]
        exact ⟨(), _, ⟨h v rfl, rfl⟩, rfl⟩

/-- **What settling a status does, and when it can.** -/
theorem run_creditAuthor_eq_ok {pg : Pg} {now : Timestamp} {reporter : Pubkey} {s : ReportStatus}
    {db db' : Db} {u : Unit} : (creditAuthor pg now reporter s).run db = .ok (u, db') ↔
      CanSettle pg db.users reporter s ∧
      { db with users := db.users.modify reporter fun u => u.settle now s } = db' := by
  by_cases hv : s = .verified
  · subst hv
    exact run_creditVerified_eq_ok
  by_cases hr : s = .rejected
  · subst hr
    exact run_creditRejected_eq_ok
  -- the other statuses leave the author alone
  have hcan : CanSettle pg db.users reporter s := by
    cases s <;> simp_all [CanSettle]
  have hid : ∀ v : User, v.settle now s = v := by
    intro v
    cases s <;> simp_all [User.settle]
  have hmod : db.users.modify reporter (fun v => v.settle now s) = db.users :=
    Table.ext ((List.map_congr_left fun r _ => by simp [hid]).trans (List.map_id _))
  unfold creditAuthor
  rw [if_neg hv, if_neg hr, Txn.run_pure_eq_ok, hmod]
  simp [hcan]

theorem run_insertVote_eq_ok {report_id : Uuid} {voter : Pubkey} {v : Vote} {db db' : Db}
    {u : Unit} : (insertVote report_id voter v).run db = .ok (u, db') ↔
      db.votes.find? (report_id, voter) = none ∧
      (∀ k w, (k, w) ∈ db.votes.rows → w.nostr_event_id ≠ v.nostr_event_id) ∧
      db.addVote report_id voter v = db' := by
  unfold insertVote
  simp only [Txn.run_bind_eq_ok, Txn.run_get_eq_ok, Txn.run_require_eq_ok, Txn.run_modify_eq_ok]
  constructor
  · rintro ⟨_, _, ⟨rfl, rfl⟩, _, _, ⟨hnew, rfl⟩, _, _, ⟨hid, rfl⟩, rfl⟩
    refine ⟨by simpa using hnew, fun k w hr => ?_, rfl⟩
    simpa using List.all_eq_true.1 hid _ hr
  · rintro ⟨hnew, hid, rfl⟩
    refine ⟨_, _, ⟨rfl, rfl⟩, (), _, ⟨by simp [hnew], rfl⟩, (), _, ⟨?_, rfl⟩, rfl⟩
    rw [List.all_eq_true]
    rintro ⟨k, w⟩ hr
    simpa using hid k w hr

theorem run_updateCounters_eq_ok {pg : Pg} {now : Timestamp} {report_id : Uuid} {d : ℤ × ℤ × ℤ}
    {db db' : Db} {updated : Report} :
    (updateCounters pg now report_id d).run db = .ok (updated, db') ↔
      ∃ report, db.reports.find? report_id = some report ∧ report.tally now d = updated ∧
        (pg.rangeChecked = true → InRange 31 updated.consensus_score ∧
          InRange 31 updated.confirmation_count ∧ InRange 31 updated.denial_count) ∧
        0 ≤ updated.confirmation_count ∧ 0 ≤ updated.denial_count ∧
        db.tally now report_id d = db' := by
  unfold updateCounters
  simp only [Txn.run_bind_eq_ok, Txn.run_get_eq_ok, Txn.run_fetch_eq_ok, Pg.run_integer_eq_ok,
    Txn.run_require_eq_ok, Txn.run_modify_eq_ok, Txn.run_pure_eq_ok, decide_eq_true_eq]
  constructor
  · rintro ⟨_, _, ⟨rfl, rfl⟩, report, _, ⟨hr, rfl⟩, _, _, ⟨h₁, rfl⟩, _, _, ⟨h₂, rfl⟩, _, _,
      ⟨h₃, rfl⟩, _, _, ⟨h₄, rfl⟩, _, _, ⟨h₅, rfl⟩, _, _, rfl, rfl, rfl⟩
    exact ⟨report, hr, rfl, fun h => ⟨h₁ h, h₂ h, h₃ h⟩, h₄, h₅, rfl⟩
  · rintro ⟨report, hr, rfl, h, h₄, h₅, rfl⟩
    exact ⟨_, _, ⟨rfl, rfl⟩, report, _, ⟨hr, rfl⟩, (), _, ⟨fun hc => (h hc).1, rfl⟩, (), _,
      ⟨fun hc => (h hc).2.1, rfl⟩, (), _, ⟨fun hc => (h hc).2.2, rfl⟩, (), _, ⟨h₄, rfl⟩, (), _,
      ⟨h₅, rfl⟩, ⟨⟩, _, rfl, rfl, rfl⟩

theorem run_updateStatus_eq_ok {now : Timestamp} {report_id : Uuid} {old new : ReportStatus}
    {db db' : Db} {updated : Report} :
    (updateStatus now report_id old new).run db = .ok (updated, db') ↔
      ∃ report, db.reports.find? report_id = some report ∧ report.status = old ∧
        { report with status := new, updated_at := now } = updated ∧
        db.setStatus now report_id new = db' := by
  unfold updateStatus
  simp only [Txn.run_bind_eq_ok, Txn.run_get_eq_ok, Txn.run_fetch_eq_ok, Txn.run_require_eq_ok,
    Txn.run_modify_eq_ok, Txn.run_pure_eq_ok, decide_eq_true_eq]
  constructor
  · rintro ⟨_, _, ⟨rfl, rfl⟩, report, _, ⟨hr, rfl⟩, _, _, ⟨hs, rfl⟩, _, _, rfl, rfl, rfl⟩
    exact ⟨report, hr, hs, rfl, rfl⟩
  · rintro ⟨report, hr, hs, rfl, rfl⟩
    exact ⟨_, _, ⟨rfl, rfl⟩, report, _, ⟨hr, rfl⟩, (), _, ⟨hs, rfl⟩, ⟨⟩, _, rfl, rfl, rfl⟩

theorem find?_touchVoter (db : Db) (now : Timestamp) (voter pk : Pubkey) :
    (db.touchVoter now voter).users.find? pk =
      if pk = voter then some { (db.users.find? voter).getD (newVoter now) with last_active := now }
      else db.users.find? pk := by
  unfold Db.touchVoter
  simp only [Table.find?_modify, Table.find?_insert, if_true, Option.map_some]
  split <;> rfl

/-- The tier a vote is weighed with is the voter's, `NEWCOMER` for a new key. -/
theorem tier_touchVoter (db : Db) (now : Timestamp) (voter : Pubkey) :
    ((db.users.find? voter).getD (newVoter now)).reputation_tier = reputationTier db.users voter := by
  unfold reputationTier
  cases db.users.find? voter <;> rfl

/-- The ballot a request makes on a database. -/
structure IsBallot (env : Env) (db : Db) (report_id : Uuid) (input : CastVoteInput) (b : Ballot) :
    Prop where
  report : db.reports.find? report_id = some b.report
  choice : VoteChoice.ofText? input.vote = some b.choice
  tier : b.tier = reputationTier db.users input.voter_pubkey
  nearby : b.nearby = isNearby env b.report input.voter_lat input.voter_lng

/-- What the statements up to the decision need of a ballot. -/
structure CanCast (pg : Pg) (db : Db) (now : Timestamp) (report_id : Uuid) (input : CastVoteInput)
    (b : Ballot) : Prop where
  new_voter : db.votes.find? (report_id, input.voter_pubkey) = none
  new_event : ∀ k v, (k, v) ∈ db.votes.rows → v.nostr_event_id ≠ input.nostr_event_id
  range : pg.rangeChecked = true → InRange 31 (b.report.tally now b.deltas).consensus_score ∧
    InRange 31 (b.report.tally now b.deltas).confirmation_count ∧
    InRange 31 (b.report.tally now b.deltas).denial_count
  confirm_nonneg : 0 ≤ (b.report.tally now b.deltas).confirmation_count
  deny_nonneg : 0 ≤ (b.report.tally now b.deltas).denial_count

/-- The end of a vote on the database `base` that counts it: nothing more, or the
decided status settled. -/
def Concluded (pg : Pg) (now : Timestamp) (report_id : Uuid) (reporter : Pubkey) (base : Db)
    (updated : Report) (new_status : Option ReportStatus) (r : Report) (db' : Db) : Prop :=
  match new_status with
  | none => updated = r ∧ base = db'
  | some s => { updated with status := s, updated_at := now } = r ∧
      CanSettle pg base.users reporter s ∧ base.settle now report_id reporter s = db'

theorem run_concludeVote_eq_ok {pg : Pg} {now : Timestamp} {report_id : Uuid} {reporter : Pubkey}
    {updated r : Report} {new_status : Option ReportStatus} {base db' : Db}
    (hr : base.reports.find? report_id = some updated) :
    (concludeVote pg now report_id reporter updated.status updated new_status).run base =
        .ok (r, db') ↔
      Concluded pg now report_id reporter base updated new_status r db' := by
  unfold concludeVote Concluded
  cases new_status with
  | none => exact Txn.run_pure_eq_ok
  | some s =>
      simp only [Txn.run_bind_eq_ok, run_updateStatus_eq_ok, run_creditAuthor_eq_ok,
        Txn.run_pure_eq_ok]
      constructor
      · rintro ⟨_, _, ⟨report, hr', -, rfl, rfl⟩, _, _, ⟨hcan, rfl⟩, rfl, rfl⟩
        obtain rfl := Option.some.inj (hr.symm.trans hr')
        exact ⟨rfl, hcan, rfl⟩
      · rintro ⟨rfl, hcan, rfl⟩
        exact ⟨_, _, ⟨updated, hr, rfl, rfl, rfl⟩, (), _, ⟨hcan, rfl⟩, rfl, rfl⟩

theorem find?_cast {db : Db} {now : Timestamp} {report_id : Uuid} {input : CastVoteInput}
    {b : Ballot} (id : Uuid) : (db.cast now report_id input b).reports.find? id =
      if id = report_id then (db.reports.find? report_id).map fun r => r.tally now b.deltas
      else db.reports.find? id :=
  Table.find?_modify _ _ _ _

theorem find?_cast_self {db : Db} {now : Timestamp} {report_id : Uuid} {input : CastVoteInput}
    {b : Ballot} (hr : db.reports.find? report_id = some b.report) :
    (db.cast now report_id input b).reports.find? report_id =
      some (b.report.tally now b.deltas) := by
  rw [find?_cast, if_pos rfl, hr]
  rfl

/-- **`cast_vote`, exactly.**  It commits when its ballot can be cast and the
decided status, if there is one, can be settled; the database is then the one
that counts the ballot and settles the status. -/
theorem run_castVote_eq_ok {env : Env} {pg : Pg} {now : Timestamp} {peek : Db → Peek}
    {report_id : Uuid} {input : CastVoteInput} {roots : List Pubkey} {gate : Bool}
    {reporter : Pubkey} {db db' : Db} {r : Report} :
    (castVote env pg now peek report_id input roots gate reporter).run db = .ok (r, db') ↔
      ∃ b, IsBallot env db report_id input b ∧ CanCast pg db now report_id input b ∧
        Concluded pg now report_id reporter (db.cast now report_id input b)
          (b.report.tally now b.deltas)
          (decision peek now report_id roots gate (db.cast now report_id input b) b) r db' := by
  have hvoter := find?_touchVoter db now input.voter_pubkey input.voter_pubkey
  rw [if_pos rfl] at hvoter
  unfold castVote
  simp only [Txn.run_bind_eq_ok, Txn.run_get_eq_ok, Txn.run_fetch_eq_ok, Txn.run_modify_eq_ok,
    run_insertVote_eq_ok, run_updateCounters_eq_ok, Pg.run_fetchScalar_eq_ok]
  constructor
  · rintro ⟨_, _, ⟨rfl, rfl⟩, report, _, ⟨hr, rfl⟩, _, _, rfl, _, _, ⟨rfl, rfl⟩, voter, _,
      ⟨hv, rfl⟩, vote, _, ⟨hc, rfl⟩, _, _, ⟨hnew, hid, rfl⟩, _, _,
      ⟨report', hr', rfl, hrange, h₁, h₂, rfl⟩, _, _, ⟨rfl, rfl⟩, _, _, ⟨_, rfl, rfl⟩, h⟩
    obtain rfl : report = report' := Option.some.inj (hr.symm.trans hr')
    obtain rfl := Option.some.inj (hv.symm.trans hvoter)
    refine ⟨⟨report, vote, _, _⟩, ⟨hr, hc, tier_touchVoter db now _, rfl⟩,
      ⟨hnew, hid, hrange, h₁, h₂⟩, ?_⟩
    exact (run_concludeVote_eq_ok (find?_cast_self (b := ⟨report, vote, _, _⟩) hr)).1 h
  · rintro ⟨⟨report, vote, tier, nearby⟩, ⟨hr, hc, ht, hn⟩, ⟨hnew, hid, hrange, h₁, h₂⟩, h⟩
    dsimp only at hr hc ht hn
    obtain rfl := ht.trans (tier_touchVoter db now input.voter_pubkey).symm
    subst hn
    refine ⟨_, _, ⟨rfl, rfl⟩, report, _, ⟨hr, rfl⟩, ⟨⟩, _, rfl, _, _, ⟨rfl, rfl⟩, _, _,
      ⟨hvoter, rfl⟩, vote, _, ⟨hc, rfl⟩, (), _, ⟨hnew, hid, rfl⟩, _, _,
      ⟨report, hr, rfl, hrange, h₁, h₂, rfl⟩, _, _, ⟨rfl, rfl⟩, _, _, ⟨fun _ => rfl, rfl, rfl⟩, ?_⟩
    exact (run_concludeVote_eq_ok (find?_cast_self (b := ⟨report, vote, _, _⟩) hr)).2 h

end Ledger
end SentinelMesh
