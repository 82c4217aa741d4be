/-
# Reports and votes, statement by statement

`create_report` and `cast_vote` of `reports/service.rs`, with the lookup of the author that the
route of a vote makes first, and `decay_pass` of `subscribers/trust_worker.rs`, as calls that run
at the same time on one PostgreSQL server.  `Reports/Service.lean` has each transaction in one
piece; here it is statements, each with the keys it takes.

A transaction sees the committed rows with its own over them, at each statement anew (read
committed), and keeps its keys until it ends.  A key is a row that is locked or the entry of a row
in a unique index; a statement first asks for a key, is then in the line of those that wait for it,
and goes on when no other transaction has it.  So who waits for whom can be read off the store
(`Store.table`).  `SELECT .. ORDER BY nostr_pubkey FOR UPDATE` finds its rows first and takes them
one by one, in order.

`INSERT .. ON CONFLICT DO NOTHING` takes no key when it finds a committed row.  Whether it waits
for a transaction that has changed that row is `Server.awaitsUpdate`.  The foreign keys that these
statements check lock rows of their own transaction, or of `safety_events`, which none of them
changes.  Any statement may fail, also while it waits (the connection is lost, the request is
dropped); then the transaction is rolled back.
-/

import SentinelMesh.Lib.Async
import SentinelMesh.Lib.LockOrder
import SentinelMesh.Reports.Service
import SentinelMesh.Trust.Worker
import Mathlib.Data.Finset.Sort
import Mathlib.Data.String.Basic

namespace SentinelMesh
namespace Ledger
namespace Locking

open Lib

/-- What a transaction can hold: a row that is locked, or an entry of a unique index. -/
inductive Key
  /-- The row of a committed report. -/
  | report (id : Uuid)
  /-- The row of a user, committed or new. -/
  | user (nostr_pubkey : Pubkey)
  /-- `community_reports_pkey`. -/
  | newReport (id : Uuid)
  /-- `report_authors_pkey`. -/
  | author (report_id : Uuid)
  /-- `report_authors_nostr_event_id_key`. -/
  | authorEvent (nostr_event_id : String)
  /-- `report_votes_nostr_event_id_key`. -/
  | voteEvent (nostr_event_id : String)
  /-- `report_votes_report_id_voter_pubkey_key`. -/
  | vote (report_id : Uuid) (voter_pubkey : Pubkey)
  deriving DecidableEq

/-- The rows a transaction has written. -/
structure Rows where
  users : Table Pubkey User := Table.empty
  reports : Table Uuid Report := Table.empty
  authors : Table Uuid Author := Table.empty
  votes : Table (Uuid × Pubkey) Vote := Table.empty

/-- The tables with the rows of a transaction over them. -/
def overlay (db : Db) (rows : Rows) : Db :=
  { db with
    users := db.users.overlay rows.users
    reports := db.reports.overlay rows.reports
    authors := db.authors.overlay rows.authors
    votes := db.votes.overlay rows.votes }

/-- The rows with the one of a key, if there is one, as it is in the tables. -/
def Rows.record (rows : Rows) (db : Db) : Option Key → Rows
  | some (.user pk) => match db.users.find? pk with
    | some u => { rows with users := rows.users.put pk u }
    | none => rows
  | some (.report id) | some (.newReport id) => match db.reports.find? id with
    | some r => { rows with reports := rows.reports.put id r }
    | none => rows
  | some (.author id) => match db.authors.find? id with
    | some a => { rows with authors := rows.authors.put id a }
    | none => rows
  | some (.vote id voter) => match db.votes.find? (id, voter) with
    | some v => { rows with votes := rows.votes.put (id, voter) v }
    | none => rows
  | some (.authorEvent _) | some (.voteEvent _) | none => rows

/-- The server, and what the gateway is configured with. -/
structure Server where
  env : Env
  pg : Pg
  decay : DecayConfig
  /-- `ON CONFLICT DO NOTHING` waits for a transaction that has changed the row it finds. -/
  awaitsUpdate : Bool

/-! ### Statements -/

/-- The statements of the three functions, apart from the voter's `INSERT`, and what is bound. -/
inductive Stmt
  | reportAuthor (report_id : Uuid)
  | selectReport (id : Uuid)
  | selectUsers (pubkeys : List Pubkey)
  | touchVoter (now : Timestamp) (voter : Pubkey)
  | selectTier (nostr_pubkey : Pubkey)
  | insertVote (report_id : Uuid) (voter : Pubkey) (vote : Vote)
  | updateCounters (now : Timestamp) (id : Uuid) (d : ℤ × ℤ × ℤ)
  | countEstablished (now : Timestamp) (genesis_roots : List Pubkey) (id : Uuid)
  | updateStatus (now : Timestamp) (id : Uuid) (old new : ReportStatus)
  | creditVerified (now : Timestamp) (reporter : Pubkey)
  | setTier (reporter : Pubkey) (tier : Tier)
  | countRejected (reporter : Pubkey)
  | countReport (now : Timestamp) (nostr_pubkey : Pubkey)
  | insertReport (id : Uuid) (report : Report)
  | insertAuthor (id : Uuid) (author : Author)
  | selectInactive (now : Timestamp)

/-- What a statement returns. -/
@[reducible] def Stmt.Ans : Stmt → Type
  | .reportAuthor _ => Option Pubkey
  | .selectReport _ => Report
  | .selectUsers _ => List Pubkey
  | .selectTier _ => Tier
  | .updateCounters _ _ _ => Report
  | .countEstablished _ _ _ => ℤ
  | .updateStatus _ _ _ _ => Report
  | .creditVerified _ _ => ℤ
  | .selectInactive _ => List DecayRow
  | _ => Unit

/-- The keys of the rows that the statement with the `ORDER BY` finds, in that order. -/
def sortedUsers (users : Table Pubkey User) (pubkeys : List Pubkey) : List Pubkey :=
  (pubkeys.filter fun pk => (users.find? pk).isSome).toFinset.sort

/-- The `UPDATE` of a verification that returns the new score. -/
def creditVerified (pg : Pg) (now : Timestamp) (reporter : Pubkey) : DbTxn ℤ := do
  let u ← Txn.fetch ((← get).users.find? reporter) .rowNotFound
  pg.integer "users.accurate_reports" (u.accurate_reports + 1)
  pg.integer "users.reputation_score" (u.reputation_score + 10)
  modify fun db => { db with users := db.users.modify reporter fun u => u.credit now }
  pg.fetchScalar .integer .i64 (u.reputation_score + 10)

/-- The `UPDATE` of a rejection. -/
def countRejected (pg : Pg) (reporter : Pubkey) : DbTxn Unit := do
  match (← get).users.find? reporter with
  | none => pure ()
  | some u =>
    pg.integer "users.rejected_reports" (u.rejected_reports + 1)
    modify fun db => { db with users := db.users.modify reporter fun u =>
      { u with rejected_reports := u.rejected_reports + 1 } }

/-- What a statement does to the tables its transaction sees. -/
def Stmt.run (srv : Server) : (st : Stmt) → DbTxn st.Ans
  | .reportAuthor id => do return ((← get).authors.find? id).map Author.nostr_pubkey
  | .selectReport id => do Txn.fetch ((← get).reports.find? id) .reportNotFound
  | .selectUsers pubkeys => do return sortedUsers (← get).users pubkeys
  | .touchVoter now voter => modify fun db =>
      { db with users := db.users.modify voter fun u => { u with last_active := now } }
  | .selectTier pk => do
      let u ← Txn.fetch ((← get).users.find? pk) .rowNotFound
      pure u.reputation_tier
  | .insertVote id voter vote => Ledger.insertVote id voter vote
  | .updateCounters now id d => Ledger.updateCounters srv.pg now id d
  | .countEstablished now roots id => do
      let db ← get
      srv.pg.fetchScalar .bigint .i64
        (establishedConfirmations db.votes db.users db.vouches now roots id)
  | .updateStatus now id old new => Ledger.updateStatus now id old new
  | .creditVerified now reporter => Locking.creditVerified srv.pg now reporter
  | .setTier reporter tier => modify fun db =>
      { db with users := db.users.modify reporter fun u => { u with reputation_tier := tier } }
  | .countRejected reporter => Locking.countRejected srv.pg reporter
  | .countReport now pk => Ledger.countReport srv.pg now pk
  | .insertReport id report => Ledger.insertReport id report
  | .insertAuthor id author => Ledger.insertAuthor id author
  | .selectInactive now => do return decayRows srv.decay now (← get).users

/-- The key of the row that a statement writes. -/
def Stmt.writes : Stmt → Option Key
  | .touchVoter _ voter => some (.user voter)
  | .insertVote id voter _ => some (.vote id voter)
  | .updateCounters _ id _ => some (.report id)
  | .updateStatus _ id _ _ => some (.report id)
  | .creditVerified _ reporter => some (.user reporter)
  | .setTier reporter _ => some (.user reporter)
  | .countRejected reporter => some (.user reporter)
  | .countReport _ pk => some (.user pk)
  | .insertReport id _ => some (.newReport id)
  | .insertAuthor id _ => some (.author id)
  | _ => none

/-! ### The server -/

/-- The committed tables, what the transaction of each call has written, who has a key, and which
key a call waits for, with its number. -/
structure Store where
  db : Db
  rows : ℕ → Rows
  locks : Table Key ℕ
  waits : ℕ → Option (Key × ℕ)
  tickets : ℕ

/-- The tables without transactions. -/
def Store.init (db : Db) : Store :=
  { db, rows := fun _ => {}, locks := Table.empty, waits := fun _ => none, tickets := 0 }

/-- What the transaction of a call sees. -/
def Store.view (s : Store) (n : ℕ) : Db := overlay s.db (s.rows n)

/-- Who has which key and who waits for which. -/
def Store.table (s : Store) : LockTable ℕ Key where
  holds k n := s.locks.find? k = some n
  waits := s.waits

/-- A call waits for nothing. -/
def Store.proceed (s : Store) (n : ℕ) : Store := { s with waits := Function.update s.waits n none }

/-- A call gets in line for a key, unless its transaction has it. -/
def Store.request (s : Store) (n : ℕ) (k : Key) : Store :=
  if s.locks.find? k = some n then s
  else
    { s with
      waits := Function.update s.waits n (some (k, s.tickets))
      tickets := s.tickets + 1 }

/-- A call gets a key. -/
def Store.grant (s : Store) (n : ℕ) (k : Key) : Store :=
  { s.proceed n with locks := s.locks.insert k n }

/-- The transaction of a call has written rows. -/
def Store.write (s : Store) (n : ℕ) (rows : Rows) : Store :=
  { s with rows := Function.update s.rows n rows }

/-- The transaction of a call ends. -/
def Store.release (s : Store) (n : ℕ) : Store :=
  { s.proceed n with
    rows := Function.update s.rows n {}
    locks := s.locks.filter fun _ m => decide (m ≠ n) }

/-- The transaction of a call commits. -/
def Store.commit (s : Store) (n : ℕ) : Store := { s.release n with db := s.view n }

/-- What a call does with the server. -/
inductive Op
  | request (k : Key)
  | obtain (k : Key)
  /-- The end of the `INSERT` of a voter, `ON CONFLICT (nostr_pubkey) DO NOTHING`. -/
  | insertVoter (now : Timestamp) (voter : Pubkey)
  | exec (st : Stmt)
  | commit
  | rollback
  /-- The end of the `UPDATE` of the decay pass, which commits by itself. -/
  | decayUpdate (row : DecayRow)

/-- What an operation answers. -/
@[reducible] def Op.Ans : Op → Type
  | .exec st => st.Ans
  | _ => Unit

/-- A statement of a call whose keys it has; a statement that fails writes nothing. -/
def Store.exec (srv : Server) (n : ℕ) (st : Stmt) (s : Store) : Option st.Ans × Store :=
  match (st.run srv).run (s.view n) with
  | .ok (a, view) => (some a, s.write n ((s.rows n).record view st.writes))
  | .error _ => (none, s)

/-- A voter gets a row, as one that no other transaction sees. -/
def Store.addVoter (n : ℕ) (now : Timestamp) (voter : Pubkey) (s : Store) : Store :=
  (s.grant n (.user voter)).write n
    ((s.rows n).record { s.db with users := s.db.users.insert voter (newVoter now) }
      (some (.user voter)))

/-- The `INSERT` of a voter: it waits for a transaction that has inserted the key, and, where
`awaitsUpdate`, for one that has changed its row. -/
def Store.insertVoter (srv : Server) (n : ℕ) (now : Timestamp) (voter : Pubkey) (s : Store) :
    Option Store :=
  match s.db.users.find? voter, s.locks.find? (.user voter) with
  | none, none => some (s.addVoter n now voter)
  | none, some m => if m = n then some (s.proceed n) else none
  | some _, some m =>
    if srv.awaitsUpdate = true ∧ m ≠ n ∧ ((s.rows m).users.find? voter).isSome then none
    else some (s.proceed n)
  | some _, none => some (s.proceed n)

/-- What an operation of a call does; `none` while it waits. -/
def perform (srv : Server) (n : ℕ) : (op : Op) → Task.Fate → Store → Option (Option op.Ans × Store)
  | .rollback, _, s => some (some (), s.release n)
  | .commit, .fails, s => some (none, s.release n)
  | .commit, .succeeds, s => some (some (), s.commit n)
  | .request _, .fails, s | .obtain _, .fails, s | .insertVoter _ _, .fails, s
  | .exec _, .fails, s | .decayUpdate _, .fails, s => some (none, s.proceed n)
  | .request k, .succeeds, s => some (some (), s.request n k)
  | .obtain k, .succeeds, s =>
    if ∀ m ∈ s.locks.find? k, m = n then some (some (), s.grant n k) else none
  | .insertVoter now voter, .succeeds, s =>
    (s.insertVoter srv n now voter).map fun s' => (some (), s')
  | .exec st, .succeeds, s => some (s.exec srv n st)
  | .decayUpdate r, .succeeds, s => match s.locks.find? (.user r.nostr_pubkey) with
    | some _ => none
    | none => some (some (), { s.proceed n with db := s.db.decay srv.decay r })

/-! ### Calls -/

/-- A part of a call; where a statement fails, the rest is given up. -/
abbrev Part (α : Type) : Type := OptionT (Task Op fun op => Option op.Ans) α

/-- One operation. -/
def attempt (op : Op) : Part op.Ans := Task.attempt op

/-- A key is asked for and waited for. -/
def lock (k : Key) : Part Unit := do
  attempt (.request k)
  attempt (.obtain k)

/-- A statement. -/
def exec (st : Stmt) : Part st.Ans := attempt (.exec st)

/-- The rows of users are locked, one after the other. -/
def lockUsers : List Pubkey → Part Unit
  | [] => pure ()
  | pk :: pks => do
    lock (.user pk)
    lockUsers pks

/-- `SELECT .. ORDER BY nostr_pubkey FOR UPDATE`: the rows are found, then locked in that order. -/
def selectForUpdate (pubkeys : List Pubkey) : Part Unit := do
  let users ← exec (.selectUsers pubkeys)
  lockUsers users

/-- `INSERT INTO users (nostr_pubkey) .. ON CONFLICT (nostr_pubkey) DO NOTHING`. -/
def insertVoter (now : Timestamp) (voter : Pubkey) : Part Unit := do
  attempt (.request (.user voter))
  attempt (.insertVoter now voter)

/-- `begin` to `commit`; a transaction that fails is rolled back. -/
def transact {α : Type} (body : Part α) : Part α := OptionT.mk do
  match ← body.run with
  | some a =>
    let committed ← Task.await .commit
    pure (committed.map fun _ => a)
  | none =>
    let _ ← Task.await .rollback
    pure none

variable (srv : Server)

/-- `create_report`; `id` is what `gen_random_uuid()` returns. -/
def createReport (now : Timestamp) (id : Uuid) (input : CreateReportInput) : Part Report :=
  transact do
    lock (.user input.nostr_pubkey)
    exec (.countReport now input.nostr_pubkey)
    let tier ← exec (.selectTier input.nostr_pubkey)
    let report := newReport srv.env now input tier
    lock (.newReport id)
    exec (.insertReport id report)
    lock (.author id)
    lock (.authorEvent input.nostr_event_id)
    exec (.insertAuthor id (newAuthor now input))
    pure report

/-- The statements of `cast_vote` on the author, after a new status. -/
def creditAuthor (now : Timestamp) (reporter : Pubkey) (new_status : ReportStatus) : Part Unit := do
  if new_status = .verified then
    lock (.user reporter)
    let new_score ← exec (.creditVerified now reporter)
    lock (.user reporter)
    exec (.setTier reporter (computeTier new_score))
  else if new_status = .rejected then
    lock (.user reporter)
    exec (.countRejected reporter)

/-- The end of `cast_vote`. -/
def concludeVote (now : Timestamp) (report_id : Uuid) (reporter : Pubkey) (old : ReportStatus)
    (updated : Report) (new_status : Option ReportStatus) : Part Report := do
  match new_status with
  | none => pure updated
  | some new_status =>
    lock (.report report_id)
    let updated ← exec (.updateStatus now report_id old new_status)
    creditAuthor now reporter new_status
    pure updated

/-- `cast_vote`. -/
def castVote (now : Timestamp) (report_id : Uuid) (input : CastVoteInput)
    (genesis_roots : List Pubkey) (require_established : Bool) (reporter_pubkey : Pubkey) :
    Part Report :=
  transact do
    lock (.report report_id)
    let report ← exec (.selectReport report_id)
    insertVoter now input.voter_pubkey
    -- both potentially mutated user rows, in a stable order
    selectForUpdate [input.voter_pubkey, reporter_pubkey]
    lock (.user input.voter_pubkey)
    exec (.touchVoter now input.voter_pubkey)
    let voter_tier ← exec (.selectTier input.voter_pubkey)
    let nearby := isNearby srv.env report input.voter_lat input.voter_lng
    let vote ← OptionT.mk (pure (VoteChoice.ofText? input.vote))
    lock (.voteEvent input.nostr_event_id)
    lock (.vote report_id input.voter_pubkey)
    exec (.insertVote report_id input.voter_pubkey
      { nostr_event_id := input.nostr_event_id, vote, voter_was_nearby := nearby,
        created_at := now })
    lock (.report report_id)
    let updated ← exec (.updateCounters now report_id (deltas vote (magnitude voter_tier nearby)))
    let established_confirmations ← exec (.countEstablished now genesis_roots report_id)
    let new_status := computeNewStatus updated.status updated.consensus_score
      updated.confirmation_count updated.denial_count (wrap 32 established_confirmations)
      require_established
    concludeVote now report_id reporter_pubkey report.status updated new_status

/-- The route of a vote, from the lookup of the author on. -/
def vote (now : Timestamp) (report_id : Uuid) (input : CastVoteInput) (genesis_roots : List Pubkey)
    (require_established : Bool) : Part Report := do
  match ← exec (.reportAuthor report_id) with
  | none => OptionT.mk (pure none)
  | some author =>
    if author = input.voter_pubkey then OptionT.mk (pure none)
    else castVote srv now report_id input genesis_roots require_established author

/-- The loop of `decay_pass`. -/
def decayRowsOf : List DecayRow → Part Unit
  | [] => pure ()
  | r :: rows => do
    attempt (.request (.user r.nostr_pubkey))
    attempt (.decayUpdate r)
    decayRowsOf rows

/-- `decay_pass`. -/
def decayPass (now : Timestamp) : Part Unit := do
  let rows ← exec (.selectInactive now)
  decayRowsOf rows

/-- What can be called; `now` is when the transaction begins. -/
inductive Call
  | createReport (now : Timestamp) (id : Uuid) (input : CreateReportInput)
  | vote (now : Timestamp) (report_id : Uuid) (input : CastVoteInput) (genesis_roots : List Pubkey)
      (require_established : Bool)
  | decayPass (now : Timestamp)

/-- What a call does; it returns the report, if it is about one and did not fail. -/
def body : Call → Task Op (fun op => Option op.Ans) (Option (Option Report))
  | .createReport now id input => (do return some (← createReport srv now id input) : Part _).run
  | .vote now id input roots gate => (do return some (← vote srv now id input roots gate) : Part _).run
  | .decayPass now => (do decayPass now; return none : Part _).run

/-- The calls and the server. -/
def system : Async.System Store Call Op (fun op => Option op.Ans) Task.Fate (Option (Option Report)) where
  body := body srv
  perform n _ op x s := perform srv n op x s

/-- What can be reached from the tables `db`, by any calls in any order of their steps. -/
def reached (db : Db) (as : List (Async.Act Call Task.Fate)) : Store :=
  (run (Async.step (system srv)) (Async.Pool.init (Store.init db)) as).store

end Locking
end Ledger
end SentinelMesh
