/-
# How the tables hang together

Reports, authors and votes change in two ways only: a report is created, or a
vote is cast (`ledger_step`).  What follows from it for every reachable state:
a report and its author's row come together and name a user
(`Linked`), an author's row never changes once written, so the author a route
read earlier is the author now (`authors_kept_step`), and votes are on reports that
exist, never by their author (`linked_step`).
-/

import SentinelMesh.Ledger.Effects

namespace SentinelMesh
namespace Ledger

open Lib

variable {gw : Gateway} {s : Sys}

/-- **Three kinds of steps** for reports, authors and votes: none of them moves,
a report is created, a vote is cast. -/
theorem ledger_step (gw : Gateway) (s : Sys) (a : Act) :
    ((step gw s a).db.reports = s.db.reports ∧ (step gw s a).db.authors = s.db.authors ∧
      (step gw s a).db.votes = s.db.votes) ∨
    (∃ id input ago, a = .createReport id input ago ∧ s.db.reports.find? id = none ∧
      s.db.authors.find? id = none ∧
      (step gw s a).db = s.db.create gw.env (s.now - ago) id input) ∨
    (∃ body rules sch author b o, a = .vote body rules sch ∧
      Voted gw s body rules sch author b o ∧
      (step gw s a).db = s.voted body sch author b o) := by
  have hc := commit_step gw s a
  generalize (step gw s a).db = db' at hc ⊢
  cases hc with
  | idle => exact Or.inl ⟨rfl, rfl, rfl⟩
  | create id input ago hr ha => exact Or.inr (Or.inl ⟨id, input, ago, rfl, hr, ha, rfl⟩)
  | vote body rules sch author b o hv =>
      exact Or.inr (Or.inr ⟨body, rules, sch, author, b, o, rfl, hv, rfl⟩)
  | vouch => exact Or.inl ⟨rfl, rfl, rfl⟩
  | revoke => exact Or.inl ⟨rfl, rfl, rfl⟩
  | decay => exact Or.inl ⟨rfl, rfl, rfl⟩

/-- An author's row is written once and stays. -/
theorem author_step (gw : Gateway) {id : Uuid} {author : Author} (a : Act)
    (h : s.db.authors.find? id = some author) :
    (step gw s a).db.authors.find? id = some author := by
  rcases ledger_step gw s a with ⟨_, hsame, _⟩ | ⟨id', input, ago, _, _, hnew, hdb⟩ |
    ⟨body, rules, sch, pk, b, o, _, _, hdb⟩
  · rw [hsame]
    exact h
  · rw [hdb]
    have hne : id ≠ id' := by
      rintro rfl
      rw [hnew] at h
      cases h
    exact (Table.find?_insert ..).trans ((if_neg hne).trans h)
  · rw [hdb, voted_authors]
    exact h

/-- A report keeps its row, with the tier and the place it was created with. -/
theorem report_step (gw : Gateway) {id : Uuid} {r : Report} (a : Act) (h : s.db.reports.find? id = some r) :
    ∃ r', (step gw s a).db.reports.find? id = some r' ∧ r'.reporter_tier = r.reporter_tier := by
  rcases ledger_step gw s a with ⟨hsame, _⟩ | ⟨id', input, ago, _, hnew, _, hdb⟩ |
    ⟨body, rules, sch, pk, b, o, _, _, hdb⟩
  · rw [hsame]
    exact ⟨r, h, rfl⟩
  · rw [hdb]
    have hne : id ≠ id' := by
      rintro rfl
      rw [hnew] at h
      cases h
    exact ⟨r, (Table.find?_insert ..).trans ((if_neg hne).trans h), rfl⟩
  · rw [hdb, voted_reports, Table.find?_modify]
    split_ifs with hid
    · subst hid
      rw [h]
      refine ⟨_, rfl, ?_⟩
      cases o <;> rfl
    · exact ⟨r, h, rfl⟩

/-- A user keeps a row. -/
theorem user_step (gw : Gateway) {pk : Pubkey} (a : Act) (h : (s.db.users.find? pk).isSome) :
    ((step gw s a).db.users.find? pk).isSome := by
  have hc := commit_step gw s a
  generalize (step gw s a).db = db' at hc ⊢
  cases hc with
  | idle => exact h
  | create id input ago =>
      show ((s.db.countReport _ _).find? pk).isSome
      rw [find?_countReport]
      split_ifs
      · rfl
      · exact h
  | vote body rules sch author b o =>
      have htouch : ((s.db.touchVoter (s.began sch) body.voter_pubkey).users.find? pk).isSome := by
        rw [find?_touchVoter]
        split_ifs
        · rfl
        · exact h
      rw [find?_voted_users]
      split_ifs
      · rwa [Option.isSome_map]
      · exact htouch
  | vouch => exact h
  | revoke => exact h
  | decay i r rest =>
      show ((s.db.users.modify _ _).find? pk).isSome
      rw [Table.find?_modify]
      split_ifs with hpk
      · subst hpk
        rwa [Option.isSome_map]
      · exact h

/-- The rows of reports, authors, votes and users fit together. -/
structure Linked (db : Db) : Prop where
  authored : ∀ id, (db.reports.find? id).isSome = (db.authors.find? id).isSome
  known : ∀ id author, db.authors.find? id = some author →
    (db.users.find? author.nostr_pubkey).isSome
  on_report : ∀ id pk, (db.votes.find? (id, pk)).isSome → (db.reports.find? id).isSome
  not_own : ∀ id author, db.authors.find? id = some author →
    db.votes.find? (id, author.nostr_pubkey) = none

/-- What a route reads of authors at an earlier moment is still so. -/
def AuthorsKept (s : Sys) : Prop :=
  s.Always fun db => ∀ id author, db.authors.find? id = some author →
    s.db.authors.find? id = some author

theorem authors_kept_step (a : Act) (h : AuthorsKept s) : AuthorsKept (step gw s a) := by
  have hkeep : s.Always fun db => ∀ id author, db.authors.find? id = some author →
      (step gw s a).db.authors.find? id = some author :=
    ⟨fun id author hdb => author_step gw a (h.1 id author hdb),
      fun db hdb id author hf => author_step gw a (h.2 db hdb id author hf)⟩
  exact hkeep.step fun id author hf => hf

/-- The author of a vote that commits is the report's author now. -/
theorem Voted.author_row (hkept : AuthorsKept s) {body : CastVoteBody} {rules : Rules}
    {sch : Schedule} {author : Pubkey} {b : Ballot} {o : Option ReportStatus}
    (hv : Voted gw s body rules sch author b o) :
    ∃ row, s.db.authors.find? body.report_id = some row ∧ row.nostr_pubkey = author := by
  obtain ⟨row, hrow, hpk⟩ := hv.authored
  exact ⟨row, hkept.view sch.first _ _ hrow, hpk⟩

/-- A vote leaves everything linked: the voter is not the author. -/
theorem linked_voted (hkept : AuthorsKept s) (h : Linked s.db) {body : CastVoteBody} {rules : Rules}
    {sch : Schedule} {author : Pubkey} {b : Ballot} {o : Option ReportStatus}
    (hv : Voted gw s body rules sch author b o)
    (husers : ∀ pk, (s.db.users.find? pk).isSome →
      ((s.voted body sch author b o).users.find? pk).isSome) :
    Linked (s.voted body sch author b o) := by
  have hreports : ∀ id, ((s.voted body sch author b o).reports.find? id).isSome =
      (s.db.reports.find? id).isSome := by
    intro id
    rw [voted_reports, Table.find?_modify]
    split_ifs with hid
    · rw [hid, Option.isSome_map]
    · rfl
  refine ⟨fun id => ?_, fun id row hrow => ?_, fun id pk hvote => ?_, fun id row hrow => ?_⟩
  · rw [hreports, voted_authors]
    exact h.authored id
  · rw [voted_authors] at hrow
    exact husers _ (h.known id row hrow)
  · rw [hreports]
    rw [voted_votes, Table.find?_insert] at hvote
    split_ifs at hvote with hk
    · obtain rfl : id = body.report_id := congrArg Prod.fst hk
      rw [hv.ballot.report]
      rfl
    · exact h.on_report id pk hvote
  · rw [voted_authors] at hrow
    rw [voted_votes, Table.find?_insert]
    split_ifs with hk
    · -- the new row would be the author's own
      obtain ⟨row', hrow', rfl⟩ := hv.author_row hkept
      obtain ⟨rfl, hpk⟩ := Prod.mk.inj hk
      obtain rfl := Option.some.inj (hrow.symm.trans hrow')
      exact absurd hpk hv.other
    · exact h.not_own id row hrow

/-- A new report brings its author's row and the author's user. -/
theorem linked_create (h : Linked s.db) {now : Timestamp} {id : Uuid} {input : CreateReportInput}
    (hreport : s.db.reports.find? id = none) (hauthor : s.db.authors.find? id = none)
    (husers : ∀ pk, (s.db.users.find? pk).isSome →
      ((s.db.create gw.env now id input).users.find? pk).isSome) :
    Linked (s.db.create gw.env now id input) := by
  have hvotes : ∀ pk, s.db.votes.find? (id, pk) = none := by
    intro pk
    cases hf : s.db.votes.find? (id, pk) with
    | none => rfl
    | some v =>
        have := h.on_report id pk (by rw [hf]; rfl)
        rw [hreport] at this
        cases this
  have hreports : ∀ id', ((s.db.create gw.env now id input).reports.find? id').isSome =
      if id' = id then true else (s.db.reports.find? id').isSome := by
    intro id'
    refine (congrArg Option.isSome (Table.find?_insert ..)).trans ?_
    split_ifs <;> rfl
  have hauthors : ∀ id', (s.db.create gw.env now id input).authors.find? id' =
      if id' = id then some (newAuthor now input) else s.db.authors.find? id' := by
    intro id'
    refine (Table.find?_insert ..).trans ?_
    rw [hauthor]
    rfl
  refine ⟨fun id' => ?_, fun id' row hrow => ?_, fun id' pk hvote => ?_, fun id' row hrow => ?_⟩
  · rw [hreports, hauthors]
    split_ifs
    · rfl
    · exact h.authored id'
  · rw [hauthors] at hrow
    split_ifs at hrow with hid
    · obtain rfl := Option.some.inj hrow
      show ((s.db.countReport now input.nostr_pubkey).find? input.nostr_pubkey).isSome
      rw [find?_countReport, if_pos rfl]
      rfl
    · exact husers _ (h.known id' row hrow)
  · rw [hreports]
    split_ifs
    · rfl
    · exact h.on_report id' pk hvote
  · rw [hauthors] at hrow
    split_ifs at hrow with hid
    · rw [hid]
      exact hvotes _
    · exact h.not_own id' row hrow

/-- The tables fit together and earlier reads of authors stay right. -/
def LinkedSys (s : Sys) : Prop := AuthorsKept s ∧ Linked s.db

/-- **One step keeps the tables linked.** -/
theorem linked_step (a : Act) (h : LinkedSys s) : LinkedSys (step gw s a) := by
  refine ⟨authors_kept_step a h.1, ?_⟩
  have husers : ∀ pk, (s.db.users.find? pk).isSome → ((step gw s a).db.users.find? pk).isSome :=
    fun pk hpk => user_step gw a hpk
  rcases ledger_step gw s a with ⟨hr, ha, hv⟩ | ⟨id, input, ago, _, hr, ha, hdb⟩ |
    ⟨body, rules, sch, author, b, o, _, hv, hdb⟩
  · refine ⟨?_, ?_, ?_, ?_⟩
    · rw [hr, ha]
      exact h.2.authored
    · rw [ha]
      exact fun id author hf => husers _ (h.2.known id author hf)
    · rw [hr, hv]
      exact h.2.on_report
    · rw [ha, hv]
      exact h.2.not_own
  · rw [hdb] at husers ⊢
    exact linked_create h.2 hr ha husers
  · rw [hdb] at husers ⊢
    exact linked_voted h.1 h.2 hv husers

theorem linked_init (start : Timestamp) (linked : List Uuid) : LinkedSys (Sys.init start linked) := by
  refine ⟨⟨fun _ _ h => h, fun db hdb => ?_⟩, fun _ => rfl, ?_, ?_, ?_⟩
  · cases hdb
  · intro id author hf
    cases hf
  · intro id pk hf
    cases hf
  · intro id author hf
    cases hf

end Ledger
end SentinelMesh
