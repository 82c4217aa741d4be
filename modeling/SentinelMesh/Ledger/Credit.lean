/-
# Credit is given once

A report enters each status at most once, because the status graph has no cycle
(`rank_lt_of_computeNewStatus`): once the rank of a status is reached, it is
never entered again (`Entered`).  The author is credited by the step that
enters `VERIFIED` and counted against by the one that enters `REJECTED`, so the
counters of a user count reports: `Accounts` holds the four equations, and each
step moves both sides by the same amount (`accounts_voted`, `accounts_create`).
-/

import SentinelMesh.Ledger.Rows

namespace SentinelMesh
namespace Ledger

open Lib

/-- The status of a report. -/
def Db.status (db : Db) (id : Uuid) : Option ReportStatus := (db.reports.find? id).map Report.status

/-- The event moves the report `id` into the status `st`. -/
def enters (id : Uuid) (st : ReportStatus) (e : Event Sys Act) : Bool :=
  decide (e.pre.db.status id ≠ some st) && decide (e.post.db.status id = some st)

/-- How often the report `id` entered the status `st`. -/
def entries (es : List (Event Sys Act)) (id : Uuid) (st : ReportStatus) : ℕ :=
  es.countP (enters id st)

/-- The report `id` is by `pk`. -/
def Db.authoredBy (db : Db) (pk : Pubkey) (id : Uuid) : Bool :=
  decide ((db.authors.find? id).map Author.nostr_pubkey = some pk)

/-- The reports of `pk`. -/
def Db.reported (db : Db) (pk : Pubkey) : ℕ := db.reports.count fun id _ => db.authoredBy pk id

/-- The reports of `pk` that have ever entered `VERIFIED`. -/
def Db.everVerified (db : Db) (es : List (Event Sys Act)) (pk : Pubkey) : ℕ :=
  db.reports.count fun id _ => db.authoredBy pk id && decide (0 < entries es id .verified)

/-- The reports of `pk` that are in `REJECTED`. -/
def Db.inRejected (db : Db) (pk : Pubkey) : ℕ :=
  db.reports.count fun id r => db.authoredBy pk id && decide (r.status = .rejected)

/-- What a user's counters count. -/
structure Accounts (db : Db) (es : List (Event Sys Act)) (pk : Pubkey) (u : User) : Prop where
  score : u.reputation_score = 10 * u.accurate_reports
  accurate : u.accurate_reports = db.everVerified es pk
  rejected : u.rejected_reports = db.inRejected pk
  total : u.total_reports = db.reported pk

/-- Every status was entered at most once, and one that was is behind the report. -/
def Entered (db : Db) (es : List (Event Sys Act)) : Prop :=
  ∀ id st, entries es id st ≤ 1 ∧
    (0 < entries es id st → ∃ r, db.reports.find? id = some r ∧ st.rank ≤ r.status.rank)

/-- The credit given after the events `es`. -/
structure Credited (s : Sys) (es : List (Event Sys Act)) : Prop where
  linked : LinkedSys s
  entered : Entered s.db es
  users : ∀ pk u, s.db.users.find? pk = some u → Accounts s.db es pk u

theorem entries_concat (es : List (Event Sys Act)) (e : Event Sys Act) (id : Uuid)
    (st : ReportStatus) :
    entries (es ++ [e]) id st = entries es id st + if enters id st e then 1 else 0 := by
  unfold entries
  rw [List.countP_append, List.countP_singleton]

variable {gw : Gateway} {s : Sys} {es : List (Event Sys Act)}

/-- **A status moves along the graph or not at all.** -/
theorem status_step (a : Act) {id : Uuid} {st' : ReportStatus}
    (h : (step gw s a).db.status id = some st') :
    s.db.status id = some st' ∨ (s.db.status id = none ∧ st' = .pending) ∨
      ∃ st score confirm deny established gate, s.db.status id = some st ∧
        computeNewStatus st score confirm deny established gate = some st' := by
  rcases ledger_step gw s a with ⟨hsame, _⟩ | ⟨id', input, ago, _, hnew, _, hdb⟩ |
    ⟨body, rules, sch, author, b, o, _, hv, hdb⟩
  · unfold Db.status at h ⊢
    rw [hsame] at h
    exact Or.inl h
  · have hfind : (step gw s a).db.reports.find? id =
        if id = id' then some ((s.db.reports.find? id').getD (newReport gw.env (s.now - ago) input
          (reputationTier s.db.users input.nostr_pubkey))) else s.db.reports.find? id := by
      rw [hdb]
      exact Table.find?_insert ..
    unfold Db.status at h ⊢
    rw [hfind] at h
    split_ifs at h with hid
    · subst hid
      rw [hnew] at h ⊢
      obtain rfl := Option.some.inj h
      exact Or.inr (Or.inl ⟨rfl, rfl⟩)
    · exact Or.inl h
  · unfold Db.status at h ⊢
    rw [hdb, voted_reports, Table.find?_modify] at h
    split_ifs at h with hid
    · subst hid
      rw [hv.ballot.report] at h ⊢
      obtain rfl := Option.some.inj h
      cases o with
      | none => exact Or.inl rfl
      | some st =>
          exact Or.inr (Or.inr ⟨_, _, _, _, _, _, rfl, decision_eq_some hv.decided⟩)
    · exact Or.inl h

theorem status_eq_some {db : Db} {id : Uuid} {st : ReportStatus} (h : db.status id = some st) :
    ∃ r, db.reports.find? id = some r ∧ r.status = st := by
  unfold Db.status at h
  obtain ⟨r, hr, hst⟩ := Option.map_eq_some_iff.1 h
  exact ⟨r, hr, hst⟩

/-- **The rank of a report never falls.** -/
theorem rank_le_step (gw : Gateway) (a : Act) {id : Uuid} {r : Report} (hr : s.db.reports.find? id = some r) :
    ∃ r', (step gw s a).db.reports.find? id = some r' ∧ r.status.rank ≤ r'.status.rank := by
  obtain ⟨r', hr', _⟩ := report_step gw a hr
  refine ⟨r', hr', ?_⟩
  have hst : s.db.status id = some r.status := congrArg (Option.map Report.status) hr
  have hst' : (step gw s a).db.status id = some r'.status := congrArg (Option.map Report.status) hr'
  rcases status_step a hst' with h | ⟨h, _⟩ | ⟨st, _, _, _, _, _, h, hnew⟩
  · rw [hst] at h
    exact (congrArg ReportStatus.rank (Option.some.inj h)).le
  · rw [hst] at h
    cases h
  · rw [hst] at h
    obtain rfl := Option.some.inj h
    exact (rank_lt_of_computeNewStatus hnew).le

/-- **One step enters no status again.** -/
theorem entered_step (a : Act) (h : Entered s.db es) :
    Entered (step gw s a).db (es ++ [⟨s, a, step gw s a⟩]) := by
  intro id st
  rw [entries_concat]
  by_cases he : enters id st ⟨s, a, step gw s a⟩ = true
  · rw [if_pos he]
    simp only [enters, Bool.and_eq_true, decide_eq_true_eq] at he
    obtain ⟨hpre, hpost⟩ := he
    -- an earlier entry would put the report at or past `st` already
    have hzero : entries es id st = 0 := by
      by_contra hne
      obtain ⟨r, hr, hle⟩ := (h id st).2 (Nat.pos_of_ne_zero hne)
      have hst : s.db.status id = some r.status := congrArg (Option.map Report.status) hr
      rcases status_step a hpost with hs | ⟨hs, _⟩ | ⟨st₀, _, _, _, _, _, hs, hnew⟩
      · exact hpre hs
      · rw [hst] at hs
        cases hs
      · rw [hst] at hs
        obtain rfl := Option.some.inj hs
        have hlt := rank_lt_of_computeNewStatus hnew
        omega
    refine ⟨by omega, fun _ => ?_⟩
    obtain ⟨r', hr', hst'⟩ := status_eq_some hpost
    exact ⟨r', hr', by rw [hst']⟩
  · rw [if_neg he, Nat.add_zero]
    refine ⟨(h id st).1, fun hpos => ?_⟩
    obtain ⟨r, hr, hle⟩ := (h id st).2 hpos
    obtain ⟨r', hr', hle'⟩ := rank_le_step gw a hr
    exact ⟨r', hr', hle.trans hle'⟩

/-- A key without a user row has no reports. -/
theorem authoredBy_eq_false {db : Db} (h : Linked db) {pk : Pubkey}
    (hno : db.users.find? pk = none) (id : Uuid) : db.authoredBy pk id = false := by
  refine decide_eq_false fun hpk => ?_
  obtain ⟨author, ha, rfl⟩ := Option.map_eq_some_iff.1 hpk
  have hknown := h.known id author ha
  rw [hno] at hknown
  cases hknown

/-- A row with empty counters is what a key without one deserves. -/
theorem accounts_of_none {db : Db} (h : Linked db) {pk : Pubkey} (hno : db.users.find? pk = none)
    (now : Timestamp) : Accounts db es pk (newVoter now) := by
  have hzero : ∀ p : Uuid → Report → Bool,
      db.reports.count (fun id r => db.authoredBy pk id && p id r) = 0 := by
    intro p
    refine List.countP_eq_zero.2 fun r _ hr => ?_
    have hr := (Bool.and_eq_true_iff.1 hr).1
    rw [authoredBy_eq_false h hno] at hr
    cases hr
  refine ⟨rfl, ?_, ?_, ?_⟩
  · exact congrArg Nat.cast (hzero _).symm
  · exact congrArg Nat.cast (hzero _).symm
  · have := hzero fun _ _ => true
    simp only [Bool.and_true] at this
    exact congrArg Nat.cast this.symm

/-- Steps that leave reports and authors alone enter nothing. -/
theorem enters_eq_false {e : Event Sys Act} (h : e.post.db.reports = e.pre.db.reports) (id : Uuid)
    (st : ReportStatus) : enters id st e = false := by
  have hst : e.post.db.status id = e.pre.db.status id := by
    unfold Db.status
    rw [h]
  unfold enters
  rw [hst]
  by_cases hc : e.pre.db.status id = some st <;> simp [hc]

/-- Counters that stay with reports that stay. -/
theorem accounts_congr {db db' : Db} {es' : List (Event Sys Act)} {pk : Pubkey} {u u' : User}
    (h : Accounts db es pk u) (hver : db'.everVerified es' pk = db.everVerified es pk)
    (hrej : db'.inRejected pk = db.inRejected pk) (hrep : db'.reported pk = db.reported pk)
    (hu : u'.reputation_score = u.reputation_score ∧ u'.accurate_reports = u.accurate_reports ∧
      u'.rejected_reports = u.rejected_reports ∧ u'.total_reports = u.total_reports) :
    Accounts db' es' pk u' := by
  obtain ⟨h₁, h₂, h₃, h₄⟩ := hu
  refine ⟨?_, ?_, ?_, ?_⟩
  · rw [h₁, h₂]
    exact h.score
  · rw [h₂, hver]
    exact h.accurate
  · rw [h₃, hrej]
    exact h.rejected
  · rw [h₄, hrep]
    exact h.total

section Voted

variable {a : Act} {body : CastVoteBody} {rules : Rules} {sch : Schedule} {author : Pubkey}
  {b : Ballot} {o : Option ReportStatus}

/-- The status of the report of a vote, before and after. -/
theorem status_voted (hv : Voted gw s body rules sch author b o)
    (hdb : (step gw s a).db = s.voted body sch author b o) (id : Uuid) :
    (step gw s a).db.status id =
      if id = body.report_id then some (o.getD b.report.status) else s.db.status id := by
  unfold Db.status
  rw [hdb, voted_reports, Table.find?_modify]
  split_ifs with hid
  · rw [hv.ballot.report]
    cases o <;> rfl
  · rfl

/-- A decided status is ahead of the report's. -/
theorem Voted.rank_lt {st : ReportStatus} (hv : Voted gw s body rules sch author b (some st)) :
    b.report.status.rank < st.rank :=
  rank_lt_of_computeNewStatus (decision_eq_some hv.decided)

theorem Voted.status_eq (hv : Voted gw s body rules sch author b o) :
    s.db.status body.report_id = some b.report.status :=
  congrArg (Option.map Report.status) hv.ballot.report

/-- A vote enters the status it decides, on its report, and no other. -/
theorem enters_voted (hv : Voted gw s body rules sch author b o)
    (hdb : (step gw s a).db = s.voted body sch author b o) (id : Uuid) (st : ReportStatus) :
    enters id st ⟨s, a, step gw s a⟩ = decide (id = body.report_id ∧ o = some st) := by
  have hpost := status_voted hv hdb id
  unfold enters
  dsimp only
  rw [hpost]
  by_cases hid : id = body.report_id
  · subst hid
    rw [if_pos rfl, hv.status_eq]
    cases o with
    | none => by_cases hst : b.report.status = st <;> simp [hst]
    | some st' =>
        have hlt := hv.rank_lt
        by_cases hst : st' = st
        · subst hst
          have hne : b.report.status ≠ st' := fun he => by rw [he] at hlt; omega
          simp [hne]
        · simp [hst]
  · rw [if_neg hid]
    by_cases hst : s.db.status id = some st <;> simp [hst, hid]

theorem authoredBy_voted (hdb : (step gw s a).db = s.voted body sch author b o) (pk : Pubkey)
    (id : Uuid) : (step gw s a).db.authoredBy pk id = s.db.authoredBy pk id := by
  unfold Db.authoredBy
  rw [hdb, voted_authors]

theorem authoredBy_report (h : LinkedSys s) (hv : Voted gw s body rules sch author b o)
    (pk : Pubkey) : s.db.authoredBy pk body.report_id = decide (author = pk) := by
  obtain ⟨row, hrow, hpk⟩ := hv.author_row h.1
  unfold Db.authoredBy
  rw [hrow, ← hpk]
  exact decide_eq_decide.2 Option.some_inj

/-- A vote verifies one more report of its author, or none. -/
theorem everVerified_voted (h : Credited s es) (hv : Voted gw s body rules sch author b o)
    (hdb : (step gw s a).db = s.voted body sch author b o) (pk : Pubkey) :
    (step gw s a).db.everVerified (es ++ [⟨s, a, step gw s a⟩]) pk =
      s.db.everVerified es pk + if author = pk ∧ o = some .verified then 1 else 0 := by
  have hentries : ∀ id, entries (es ++ [⟨s, a, step gw s a⟩]) id .verified =
      entries es id .verified + if id = body.report_id ∧ o = some .verified then 1 else 0 := by
    intro id
    rw [entries_concat, enters_voted hv hdb]
    simp
  have hcount := Table.count_modify hv.ballot.report
    (fun r => (r.tally (s.began sch) b.deltas).conclude (s.began sch) o)
    (p := fun id _ => s.db.authoredBy pk id && decide (0 < entries es id .verified))
    (q := fun id _ => s.db.authoredBy pk id &&
      decide (0 < entries (es ++ [⟨s, a, step gw s a⟩]) id .verified))
    (fun id _ hne => by rw [hentries, if_neg fun hc => hne hc.1, Nat.add_zero])
  have hdef : (step gw s a).db.everVerified (es ++ [⟨s, a, step gw s a⟩]) pk =
      (s.db.reports.modify body.report_id fun r =>
        (r.tally (s.began sch) b.deltas).conclude (s.began sch) o).count fun id _ =>
          s.db.authoredBy pk id &&
            decide (0 < entries (es ++ [⟨s, a, step gw s a⟩]) id .verified) := by
    unfold Db.everVerified
    simp only [authoredBy_voted hdb]
    rw [hdb, voted_reports]
  rw [hdef]
  rw [hentries, authoredBy_report h.linked hv] at hcount
  by_cases ho : o = some .verified
  · -- the report had not been verified, or its rank would not have grown
    have hzero : entries es body.report_id .verified = 0 := by
      by_contra hne
      obtain ⟨r, hr, hle⟩ := (h.entered body.report_id .verified).2 (Nat.pos_of_ne_zero hne)
      obtain rfl := Option.some.inj (hv.ballot.report.symm.trans hr)
      subst ho
      have hlt := hv.rank_lt
      omega
    rw [hzero] at hcount
    simpa [ho, Db.everVerified] using hcount
  · simp only [ho, and_false, if_false, Nat.add_zero] at hcount ⊢
    exact Nat.add_right_cancel hcount

/-- A vote rejects one more report of its author, or none. -/
theorem inRejected_voted (h : Credited s es) (hv : Voted gw s body rules sch author b o)
    (hdb : (step gw s a).db = s.voted body sch author b o) (pk : Pubkey) :
    (step gw s a).db.inRejected pk =
      s.db.inRejected pk + if author = pk ∧ o = some .rejected then 1 else 0 := by
  have hcount := Table.count_modify hv.ballot.report
    (fun r => (r.tally (s.began sch) b.deltas).conclude (s.began sch) o)
    (p := fun id r => s.db.authoredBy pk id && decide (r.status = .rejected))
    (q := fun id r => s.db.authoredBy pk id && decide (r.status = .rejected))
    (fun _ _ _ => rfl)
  have hdef : (step gw s a).db.inRejected pk = (s.db.reports.modify body.report_id fun r =>
      (r.tally (s.began sch) b.deltas).conclude (s.began sch) o).count fun id r =>
        s.db.authoredBy pk id && decide (r.status = .rejected) := by
    unfold Db.inRejected
    simp only [authoredBy_voted hdb]
    rw [hdb, voted_reports]
  rw [hdef]
  rw [authoredBy_report h.linked hv] at hcount
  cases o with
  | none =>
      have hstatus : ((b.report.tally (s.began sch) b.deltas).conclude (s.began sch) none).status =
        b.report.status := rfl
      rw [hstatus] at hcount
      simpa [Db.inRejected] using hcount
  | some st =>
      have hold : b.report.status ≠ .rejected := by
        intro hrej
        have hlt := hv.rank_lt
        rw [hrej] at hlt
        cases st <;> simp [ReportStatus.rank] at hlt
      have hstatus : ((b.report.tally (s.began sch) b.deltas).conclude (s.began sch)
        (some st)).status = st := rfl
      rw [hstatus] at hcount
      simpa [hold, Db.inRejected] using hcount

/-- A vote reports nothing. -/
theorem reported_voted (hv : Voted gw s body rules sch author b o)
    (hdb : (step gw s a).db = s.voted body sch author b o) (pk : Pubkey) :
    (step gw s a).db.reported pk = s.db.reported pk := by
  have hcount := Table.count_modify hv.ballot.report
    (fun r => (r.tally (s.began sch) b.deltas).conclude (s.began sch) o)
    (p := fun id _ => s.db.authoredBy pk id) (q := fun id _ => s.db.authoredBy pk id)
    (fun _ _ _ => rfl)
  unfold Db.reported
  simp only [authoredBy_voted hdb]
  rw [hdb, voted_reports]
  exact Nat.add_right_cancel hcount

/-- **A vote credits its author for what it decides**, and nobody else. -/
theorem accounts_voted (h : Credited s es) (hv : Voted gw s body rules sch author b o)
    (hdb : (step gw s a).db = s.voted body sch author b o) {pk : Pubkey} {u : User}
    (hu : (step gw s a).db.users.find? pk = some u) :
    Accounts (step gw s a).db (es ++ [⟨s, a, step gw s a⟩]) pk u := by
  have hver := everVerified_voted h hv hdb pk
  have hrej := inRejected_voted h hv hdb pk
  have hrep := reported_voted hv hdb pk
  rw [hdb] at hu
  obtain ⟨u₀, t, hu₀, rfl⟩ := voted_user_cases _ _ _ _ _ _ hu
  have hacc : Accounts s.db es pk u₀ := by
    rcases hu₀ with hu₀ | ⟨hno, rfl⟩
    · exact h.users pk u₀ hu₀
    · exact accounts_of_none h.linked.2 hno _
  by_cases hpk : pk = author
  · subst hpk
    rw [if_pos rfl]
    by_cases ho : o = some .verified
    · subst ho
      rw [if_pos ⟨rfl, rfl⟩] at hver
      rw [if_neg fun hc => by cases hc.2] at hrej
      refine ⟨?_, ?_, ?_, ?_⟩
      · show u₀.reputation_score + 10 = 10 * (u₀.accurate_reports + 1)
        rw [hacc.score]
        omega
      · show u₀.accurate_reports + 1 = _
        rw [hver, hacc.accurate]
        rfl
      · rw [hrej]
        exact hacc.rejected
      · rw [hrep]
        exact hacc.total
    · rw [if_neg fun hc => ho hc.2] at hver
      by_cases ho' : o = some .rejected
      · subst ho'
        rw [if_pos ⟨rfl, rfl⟩] at hrej
        refine ⟨hacc.score, ?_, ?_, ?_⟩
        · rw [hver]
          exact hacc.accurate
        · show u₀.rejected_reports + 1 = _
          rw [hrej, hacc.rejected]
          rfl
        · rw [hrep]
          exact hacc.total
      · rw [if_neg fun hc => ho' hc.2] at hrej
        refine accounts_congr hacc hver hrej hrep ?_
        cases o with
        | none => exact ⟨rfl, rfl, rfl, rfl⟩
        | some st =>
            cases st with
            | verified => exact absurd rfl ho
            | rejected => exact absurd rfl ho'
            | pending | unverified | authoritative | disputed => exact ⟨rfl, rfl, rfl, rfl⟩
  · rw [if_neg fun hc => hpk hc.1.symm] at hver hrej
    rw [if_neg hpk]
    exact accounts_congr hacc hver hrej hrep ⟨rfl, rfl, rfl, rfl⟩

end Voted

section Create

variable {a : Act} {now : Timestamp} {id : Uuid} {input : CreateReportInput}

theorem authoredBy_create (hdb : (step gw s a).db = s.db.create gw.env now id input)
    (hauthor : s.db.authors.find? id = none) (pk : Pubkey) (id' : Uuid) :
    (step gw s a).db.authoredBy pk id' =
      if id' = id then decide (input.nostr_pubkey = pk) else s.db.authoredBy pk id' := by
  have hfind : (step gw s a).db.authors.find? id' =
      if id' = id then some (newAuthor now input) else s.db.authors.find? id' := by
    rw [hdb]
    refine (Table.find?_insert ..).trans ?_
    rw [hauthor]
    rfl
  unfold Db.authoredBy
  rw [hfind]
  split_ifs
  · exact decide_eq_decide.2 Option.some_inj
  · rfl

/-- A predicate on the reports of a key counts, after a creation, the old reports
and the new one. -/
theorem count_create (hdb : (step gw s a).db = s.db.create gw.env now id input)
    (hnew : s.db.reports.find? id = none) (hauthor : s.db.authors.find? id = none) (pk : Pubkey)
    {p q : Uuid → Report → Bool} (hpq : ∀ id' r, id' ≠ id → q id' r = p id' r) :
    (step gw s a).db.reports.count (fun id' r => (step gw s a).db.authoredBy pk id' && q id' r) =
      s.db.reports.count (fun id' r => s.db.authoredBy pk id' && p id' r) +
      if input.nostr_pubkey = pk ∧ q id (newReport gw.env now input
        (reputationTier s.db.users input.nostr_pubkey)) = true then 1 else 0 := by
  have hauth := authoredBy_create hdb hauthor pk
  have hreports : (step gw s a).db.reports = s.db.reports.insert id (newReport gw.env now input
      (reputationTier s.db.users input.nostr_pubkey)) := by
    rw [hdb]
    rfl
  rw [hreports, Table.count_insert hnew]
  congr 1
  · refine Table.count_congr fun id' r hr => ?_
    have hne : id' ≠ id := by
      rintro rfl
      rw [hnew] at hr
      cases hr
    rw [hauth, if_neg hne, hpq id' r hne]
  · rw [hauth, if_pos rfl]
    simp

/-- A new report is not verified. -/
theorem entries_create (hnew : s.db.reports.find? id = none)
    (hdb : (step gw s a).db = s.db.create gw.env now id input) (id' : Uuid) :
    entries (es ++ [⟨s, a, step gw s a⟩]) id' .verified = entries es id' .verified := by
  have hstatus : (step gw s a).db.status id' = if id' = id then some .pending else s.db.status id' := by
    unfold Db.status
    rw [hdb]
    refine (congrArg (Option.map Report.status) (Table.find?_insert ..)).trans ?_
    rw [hnew]
    split_ifs <;> rfl
  have hno : enters id' .verified ⟨s, a, step gw s a⟩ = false := by
    unfold enters
    dsimp only
    rw [hstatus]
    split_ifs
    · simp
    · by_cases hst : s.db.status id' = some .verified <;> simp [hst]
  rw [entries_concat, hno]
  rfl

/-- It is counted in the old row, or in the empty one the first report begins with. -/
theorem accounts_counted (h : Credited s es) {pk : Pubkey} {u : User}
    (hu : (s.db.countReport now pk).find? pk = some u) : ∃ u₀, Accounts s.db es pk u₀ ∧
      u = { u₀ with total_reports := u₀.total_reports + 1, last_active := now } := by
  rw [find?_countReport, if_pos rfl] at hu
  cases hold : s.db.users.find? pk with
  | none =>
      refine ⟨newVoter now, accounts_of_none h.linked.2 hold now, ?_⟩
      rw [hold] at hu
      exact (Option.some.inj hu).symm
  | some u₀ =>
      refine ⟨u₀, h.users _ u₀ hold, ?_⟩
      rw [hold] at hu
      exact (Option.some.inj hu).symm

/-- **A new report counts as reported**, and neither verified nor rejected. -/
theorem accounts_create (h : Credited s es) (hnew : s.db.reports.find? id = none)
    (hauthor : s.db.authors.find? id = none)
    (hdb : (step gw s a).db = s.db.create gw.env now id input) {pk : Pubkey} {u : User}
    (hu : (step gw s a).db.users.find? pk = some u) :
    Accounts (step gw s a).db (es ++ [⟨s, a, step gw s a⟩]) pk u := by
  have hentries : ∀ id', entries (es ++ [⟨s, a, step gw s a⟩]) id' .verified =
      entries es id' .verified := entries_create hnew hdb
  have hzero : entries es id .verified = 0 := by
    by_contra hne
    obtain ⟨r, hr, _⟩ := (h.entered id .verified).2 (Nat.pos_of_ne_zero hne)
    rw [hnew] at hr
    cases hr
  have hver : (step gw s a).db.everVerified (es ++ [⟨s, a, step gw s a⟩]) pk =
      s.db.everVerified es pk := by
    refine (count_create hdb hnew hauthor pk
      (p := fun id' _ => decide (0 < entries es id' .verified)) ?_).trans ?_
    · intro id' r _
      rw [hentries]
    · rw [if_neg, Nat.add_zero]
      · rfl
      · rw [hentries, hzero]
        simp
  have hrej : (step gw s a).db.inRejected pk = s.db.inRejected pk := by
    refine (count_create hdb hnew hauthor pk
      (p := fun _ r => decide (r.status = .rejected)) fun _ _ _ => rfl).trans ?_
    rw [if_neg, Nat.add_zero]
    · rfl
    · simp [newReport]
  have hrep : (step gw s a).db.reported pk =
      s.db.reported pk + if input.nostr_pubkey = pk then 1 else 0 := by
    have hc := count_create hdb hnew hauthor pk (p := fun _ _ => true) (q := fun _ _ => true)
      fun _ _ _ => rfl
    simp only [Bool.and_true, and_true] at hc
    exact hc
  have hu : (s.db.countReport now input.nostr_pubkey).find? pk = some u := by
    rw [hdb] at hu
    exact hu
  by_cases hpk : pk = input.nostr_pubkey
  · subst hpk
    rw [if_pos rfl] at hrep
    obtain ⟨u₀, hacc, rfl⟩ := accounts_counted h hu
    refine ⟨hacc.score, ?_, ?_, ?_⟩
    · rw [hver]
      exact hacc.accurate
    · rw [hrej]
      exact hacc.rejected
    · show u₀.total_reports + 1 = _
      rw [hrep, hacc.total]
      rfl
  · rw [find?_countReport, if_neg hpk] at hu
    rw [if_neg fun hc => hpk hc.symm] at hrep
    exact accounts_congr (h.users pk u hu) hver hrej hrep ⟨rfl, rfl, rfl, rfl⟩

end Create

/-- Counters that stay while reports and authors stay. -/
theorem accounts_idle {a : Act} (hr : (step gw s a).db.reports = s.db.reports)
    (ha : (step gw s a).db.authors = s.db.authors) {pk : Pubkey} {u u' : User}
    (h : Accounts s.db es pk u)
    (hu : u'.reputation_score = u.reputation_score ∧ u'.accurate_reports = u.accurate_reports ∧
      u'.rejected_reports = u.rejected_reports ∧ u'.total_reports = u.total_reports) :
    Accounts (step gw s a).db (es ++ [⟨s, a, step gw s a⟩]) pk u' := by
  have hauth : ∀ id, (step gw s a).db.authoredBy pk id = s.db.authoredBy pk id := by
    intro id
    unfold Db.authoredBy
    rw [ha]
  have hentries : ∀ id, entries (es ++ [⟨s, a, step gw s a⟩]) id .verified =
      entries es id .verified := by
    intro id
    rw [entries_concat, enters_eq_false hr]
    rfl
  refine accounts_congr h ?_ ?_ ?_ hu
  · unfold Db.everVerified
    simp only [hr, hauth, hentries]
  · unfold Db.inRejected
    simp only [hr, hauth]
  · unfold Db.reported
    simp only [hr, hauth]

/-- **One step keeps the accounts.** -/
theorem credited_step (a : Act) (h : Credited s es) :
    Credited (step gw s a) (es ++ [⟨s, a, step gw s a⟩]) := by
  refine ⟨linked_step a h.linked, entered_step a h.entered, fun pk u hu => ?_⟩
  have hc := commit_step gw s a
  generalize hdb : (step gw s a).db = db' at hc
  cases hc with
  | idle =>
      rw [hdb] at hu
      exact hdb ▸ accounts_idle (by rw [hdb]) (by rw [hdb]) (h.users pk u hu) ⟨rfl, rfl, rfl, rfl⟩
  | create id input ago hr ha => exact hdb ▸ accounts_create h hr ha hdb hu
  | vote body rules sch author b o hv => exact hdb ▸ accounts_voted h hv hdb hu
  | vouch =>
      rw [hdb] at hu
      exact hdb ▸ accounts_idle (by rw [hdb]) (by rw [hdb]) (h.users pk u hu) ⟨rfl, rfl, rfl, rfl⟩
  | revoke =>
      rw [hdb] at hu
      exact hdb ▸ accounts_idle (by rw [hdb]) (by rw [hdb]) (h.users pk u hu) ⟨rfl, rfl, rfl, rfl⟩
  | decay i r rest hp =>
      -- a decay writes the effective score and the tier, which no account reads
      obtain ⟨u₀, hu₀, hsame⟩ : ∃ u₀, s.db.users.find? pk = some u₀ ∧
          u.reputation_score = u₀.reputation_score ∧ u.accurate_reports = u₀.accurate_reports ∧
          u.rejected_reports = u₀.rejected_reports ∧ u.total_reports = u₀.total_reports := by
        rw [hdb, find?_decay] at hu
        split_ifs at hu with hpk
        · obtain ⟨u₀, hu₀, rfl⟩ := Option.map_eq_some_iff.1 hu
          exact ⟨u₀, hpk ▸ hu₀, rfl, rfl, rfl, rfl⟩
        · exact ⟨u, hu, rfl, rfl, rfl, rfl⟩
      exact hdb ▸ accounts_idle (by rw [hdb]; rfl) (by rw [hdb]; rfl) (h.users pk u₀ hu₀) hsame

theorem credited_run (gw : Gateway) (start : Timestamp) (linked : List Uuid) (as : List Act) :
    Credited (run (step gw) (Sys.init start linked) as)
      (events (step gw) (Sys.init start linked) as) := by
  refine run_events_induction ⟨linked_init start linked, fun id st => ?_, fun pk u hu => ?_⟩
    (fun s es a h => credited_step a h) as
  · exact ⟨Nat.zero_le 1, fun h => absurd h (Nat.lt_irrefl 0)⟩
  · cases hu

/-- What a step does to a report in `REJECTED` or `DISPUTED`. -/
theorem status_terminal (a : Act) (id : Uuid) :
    (s.db.status id = some .rejected → (step gw s a).db.status id = some .rejected) ∧
    (s.db.status id = some .disputed → (step gw s a).db.status id = some .disputed ∨
      (step gw s a).db.status id = some .rejected) := by
  have hkeep : ∀ st, s.db.status id = some st → ∃ st', (step gw s a).db.status id = some st' := by
    intro st hst
    obtain ⟨r, hr, _⟩ := status_eq_some hst
    obtain ⟨r', hr', _⟩ := report_step gw a hr
    exact ⟨r'.status, congrArg (Option.map Report.status) hr'⟩
  constructor
  · intro hst
    obtain ⟨st', hst'⟩ := hkeep _ hst
    rcases status_step a hst' with hs | ⟨hs, _⟩ | ⟨st, _, _, _, _, _, hs, hnew⟩
    · rw [hst', ← hs, hst]
    · rw [hst] at hs
      cases hs
    · rw [hst] at hs
      obtain rfl := Option.some.inj hs
      rw [computeNewStatus_rejected] at hnew
      cases hnew
  · intro hst
    obtain ⟨st', hst'⟩ := hkeep _ hst
    rcases status_step a hst' with hs | ⟨hs, _⟩ | ⟨st, _, _, _, _, _, hs, hnew⟩
    · left
      rw [hst', ← hs, hst]
    · rw [hst] at hs
      cases hs
    · rw [hst] at hs
      obtain rfl := Option.some.inj hs
      right
      rw [hst', computeNewStatus_disputed hnew]

/-- **Exactly-once credit.**  In every run each report enters `VERIFIED` and
`REJECTED` at most once, `REJECTED` is absorbing and `DISPUTED` moves to
`REJECTED` only; and for every user the score is ten times the accurate
reports, these are the user's reports that ever entered `VERIFIED`, the rejected
ones are those in `REJECTED`, and no more are accurate than were made. -/
theorem credited_once (gw : Gateway) (start : Timestamp) (linked : List Uuid) (as : List Act) :
    let s := run (step gw) (Sys.init start linked) as
    let es := events (step gw) (Sys.init start linked) as
    (∀ id, entries es id .verified ≤ 1 ∧ entries es id .rejected ≤ 1) ∧
    (∀ e ∈ es, ∀ id,
      (e.pre.db.status id = some .rejected → e.post.db.status id = some .rejected) ∧
      (e.pre.db.status id = some .disputed →
        e.post.db.status id = some .disputed ∨ e.post.db.status id = some .rejected)) ∧
    (∀ pk u, s.db.users.find? pk = some u →
      u.reputation_score = 10 * u.accurate_reports ∧
      u.accurate_reports = s.db.everVerified es pk ∧
      u.rejected_reports = s.db.inRejected pk ∧
      u.accurate_reports ≤ u.total_reports) := by
  have h := credited_run gw start linked as
  refine ⟨fun id => ⟨(h.entered id _).1, (h.entered id _).1⟩, fun e he id => ?_, fun pk u hu => ?_⟩
  · obtain ⟨_, _, _, _, hpost⟩ := mem_events he
    rw [hpost]
    exact status_terminal e.act id
  · obtain ⟨hscore, hacc, hrej, htotal⟩ := h.users pk u hu
    refine ⟨hscore, hacc, hrej, ?_⟩
    rw [hacc, htotal]
    refine Int.ofNat_le.2 (List.countP_mono_left fun r _ hr => ?_)
    exact (Bool.and_eq_true_iff.1 hr).1

end Ledger
end SentinelMesh
