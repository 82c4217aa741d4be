/-
# The ledger under concurrent requests

The gateway as a system: requests that create reports, vote and vouch, the
worker that decays scores, and the clock.  A transaction takes effect where it
commits; the rows it locks are read there, and what it read before, without a
lock, comes from a state committed earlier (`Sys.view`).  How long ago each
part of a request ran, and which committed state it saw, is part of the action,
so that a run over every list of actions is every interleaving.

`Commit` lists the ways an action can change the tables, and `commit_step` says
that there are no others.
-/

import SentinelMesh.Lib.Run
import SentinelMesh.Routes.Reports
import SentinelMesh.Routes.Vouches
import SentinelMesh.Trust.Worker

namespace SentinelMesh
namespace Ledger

open Lib

/-- The gateway: its dependencies and its configuration. -/
structure Gateway where
  env : Env
  pg : Pg
  decay : DecayConfig
  vouch_budget : ℕ

/-- The state: the clock, the tables, what was committed before, and the rows
each decay pass under way has left to write. -/
structure Sys where
  now : Timestamp
  db : Db
  past : List Db
  passes : List (List DecayRow)

/-- A gateway on a database without users, reports, votes and vouches; reports may
link to the events `safety_events`. -/
def Sys.init (now : Timestamp) (safety_events : List Uuid) : Sys :=
  { now, db := { safety_events }, past := [], passes := [] }

/-- The `k`th last committed state; `0` is the current one. -/
def Sys.view (s : Sys) (k : ℕ) : Db := (s.db :: s.past).getD k s.db

/-- A transaction commits. -/
def Sys.commit (s : Sys) (db : Db) : Sys := { s with db, past := s.db :: s.past }

@[simp] theorem Sys.commit_now (s : Sys) (db : Db) : (s.commit db).now = s.now := rfl

@[simp] theorem Sys.commit_db (s : Sys) (db : Db) : (s.commit db).db = db := rfl

@[simp] theorem Sys.commit_passes (s : Sys) (db : Db) : (s.commit db).passes = s.passes := rfl

/-- The consensus configuration a vote is decided under. -/
structure Rules where
  genesis_roots : List Pubkey
  require_established : Bool
  deriving DecidableEq

/-- How a request meets the rest of the system: what the limiter and Redis
answer, how long ago its signature was checked and its transaction began, and
which committed states it read without a lock. -/
structure Schedule where
  gates : Gates := {}
  checkedAgo : ℕ := 0
  beganAgo : ℕ := 0
  first : ℕ := 0
  second : ℕ := 0
  third : ℕ := 0
  /-- The state the count of confirmers saw; `none` is the transaction's own. -/
  peek : Option ℕ := none
  deriving DecidableEq

/-- What can happen. -/
inductive Act
  | tick (d : ℕ)
  | createReport (id : Uuid) (input : CreateReportInput) (beganAgo : ℕ)
  | vote (body : CastVoteBody) (rules : Rules) (sch : Schedule)
  | postVouch (body : IssueVouchBody) (genesis_roots : List Pubkey) (sch : Schedule)
  | deleteVouch (vouchee : Pubkey) (body : RevokeVouchBody) (sch : Schedule)
  | decayRead
  | decayUpdate (pass : ℕ)
  deriving DecidableEq

/-- When the transaction of a request began. -/
def Sys.began (s : Sys) (sch : Schedule) : Timestamp := s.now - sch.beganAgo

/-- What the count of confirmers sees of users and vouches. -/
def Sys.peek (s : Sys) (sch : Schedule) : Db → Peek := match sch.peek with
  | none => Peek.own
  | some k => fun _ => Peek.own (s.view k)

/-- The vote of a request. -/
def Sys.vote (gw : Gateway) (s : Sys) (body : CastVoteBody) (rules : Rules) (sch : Schedule) :
    Db × Except AppError Report :=
  Ledger.vote gw.env gw.pg rules.genesis_roots rules.require_established (s.now - sch.checkedAgo)
    (s.began sch) sch.gates (s.view sch.first).authors (s.peek sch) body s.db

/-- An action and its response. -/
def exec (gw : Gateway) (s : Sys) : Act → Sys × Except AppError Unit
  | .tick d => ({ s with now := s.now + d }, .ok ())
  | .createReport id input beganAgo =>
    let (db, res) := (createReport gw.env gw.pg (s.now - beganAgo) id input).commit s.db
    (s.commit db, match res with
      | .ok _ => .ok ()
      | .error e => .error e.internal)
  | .vote body rules sch =>
    let (db, res) := s.vote gw body rules sch
    (s.commit db, res.map fun _ => ())
  | .postVouch body roots sch =>
    let (vouches, res) := postVouch gw.env.verify roots gw.vouch_budget (s.now - sch.checkedAgo)
      (s.began sch) sch.gates (s.view sch.first).users (s.view sch.second).users
      (s.view sch.third).vouches s.db.vouches body
    (s.commit { s.db with vouches }, res)
  | .deleteVouch vouchee body sch =>
    let (vouches, res) := deleteVouch gw.env.verify (s.now - sch.checkedAgo) s.now sch.gates vouchee
      s.db.vouches body
    (s.commit { s.db with vouches }, res)
  | .decayRead =>
    if gw.decay.enabled then
      ({ s with passes := s.passes ++ [decayRows gw.decay s.now s.db.users] }, .ok ())
    else (s, .ok ())
  | .decayUpdate i => match s.passes[i]? with
    | some (r :: rest) =>
      ({ s.commit (s.db.decay gw.decay r) with passes := s.passes.set i rest }, .ok ())
    | _ => (s, .ok ())

/-- The state after an action. -/
def step (gw : Gateway) (s : Sys) (a : Act) : Sys := (exec gw s a).1

/-- The database after the conclusion of a vote. -/
def Db.conclude (base : Db) (now : Timestamp) (report_id : Uuid) (reporter : Pubkey) :
    Option ReportStatus → Db
  | none => base
  | some s => base.settle now report_id reporter s

/-- A vote that commits: what was checked, what was read, and what was decided. -/
structure Voted (gw : Gateway) (s : Sys) (body : CastVoteBody) (rules : Rules) (sch : Schedule)
    (author : Pubkey) (b : Ballot) (new_status : Option ReportStatus) : Prop where
  checked : checkVote gw.env.verify (s.now - sch.checkedAgo) sch.gates body = .ok ()
  authored : ∃ a, (s.view sch.first).authors.find? body.report_id = some a ∧ a.nostr_pubkey = author
  other : author ≠ body.voter_pubkey
  ballot : IsBallot gw.env s.db body.report_id body.input b
  cast : CanCast gw.pg s.db (s.began sch) body.report_id body.input b
  decided : decision (s.peek sch) (s.began sch) body.report_id rules.genesis_roots
    rules.require_established (s.db.cast (s.began sch) body.report_id body.input b) b = new_status
  settled : ∀ st, new_status = some st →
    CanSettle gw.pg (s.db.cast (s.began sch) body.report_id body.input b).users author st

/-- The tables after a vote. -/
def Sys.voted (s : Sys) (body : CastVoteBody) (sch : Schedule) (author : Pubkey) (b : Ballot)
    (new_status : Option ReportStatus) : Db :=
  (s.db.cast (s.began sch) body.report_id body.input b).conclude (s.began sch) body.report_id author
    new_status

/-- **What an action can do to the tables.** -/
inductive Commit (gw : Gateway) (s : Sys) : Act → Db → Prop
  | idle (a : Act) : Commit gw s a s.db
  | create (id : Uuid) (input : CreateReportInput) (ago : ℕ)
      (report_new : s.db.reports.find? id = none) (author_new : s.db.authors.find? id = none) :
      Commit gw s (.createReport id input ago) (s.db.create gw.env (s.now - ago) id input)
  | vote (body : CastVoteBody) (rules : Rules) (sch : Schedule) (author : Pubkey) (b : Ballot)
      (new_status : Option ReportStatus) (hv : Voted gw s body rules sch author b new_status) :
      Commit gw s (.vote body rules sch) (s.voted body sch author b new_status)
  | vouch (body : IssueVouchBody) (roots : List Pubkey) (sch : Schedule) (v : Vouch)
      (accepted : (exec gw s (.postVouch body roots sch)).2 = .ok ())
      (eligible : body.voucher_pubkey ∈ roots ∨
        tierIsEstablished (reputationTier (s.view sch.first).users body.voucher_pubkey) = true) :
      Commit gw s (.postVouch body roots sch) { s.db with vouches := s.db.vouches ++ [v] }
  | revoke (vouchee : Pubkey) (body : RevokeVouchBody) (sch : Schedule) (vouches : List Vouch)
      (same : vouches.map Vouch.voucher_pubkey = s.db.vouches.map Vouch.voucher_pubkey) :
      Commit gw s (.deleteVouch vouchee body sch) { s.db with vouches }
  | decay (i : ℕ) (r : DecayRow) (rest : List DecayRow) (pass : s.passes[i]? = some (r :: rest)) :
      Commit gw s (.decayUpdate i) (s.db.decay gw.decay r)

/-- **A vote of the system, exactly**: accepted when it can be cast and settled. -/
theorem vote_eq_ok_iff {gw : Gateway} {s : Sys} {body : CastVoteBody} {rules : Rules}
    {sch : Schedule} {db' : Db} {r : Report} :
    s.vote gw body rules sch = (db', .ok r) ↔
      ∃ author b new_status, Voted gw s body rules sch author b new_status ∧
        db' = s.voted body sch author b new_status ∧
        r = (match new_status with
          | none => b.report.tally (s.began sch) b.deltas
          | some st => { b.report.tally (s.began sch) b.deltas with
              status := st, updated_at := s.began sch }) := by
  unfold Sys.vote
  rw [vote_eq_ok]
  constructor
  · rintro ⟨author, hc, ha, hrun⟩
    obtain ⟨b, hb, hcast, hend⟩ := run_castVote_eq_ok.1 hrun
    obtain ⟨hauthor, hother⟩ := reportAuthor_eq_ok ha
    obtain ⟨new_status, hdecided⟩ : ∃ o, decision (s.peek sch) (s.began sch) body.report_id
        rules.genesis_roots rules.require_established
        (s.db.cast (s.began sch) body.report_id body.input b) b = o := ⟨_, rfl⟩
    rw [hdecided] at hend
    refine ⟨author, b, new_status, ⟨hc, hauthor, hother, hb, hcast, hdecided, ?_⟩, ?_⟩
    · rintro st rfl
      exact hend.2.1
    · cases new_status with
      | none => exact ⟨hend.2.symm, hend.1.symm⟩
      | some st => exact ⟨hend.2.2.symm, hend.1.symm⟩
  · rintro ⟨author, b, new_status, hv, rfl, rfl⟩
    refine ⟨author, hv.checked, ?_, run_castVote_eq_ok.2 ⟨b, hv.ballot, hv.cast, ?_⟩⟩
    · obtain ⟨a, ha, rfl⟩ := hv.authored
      unfold reportAuthor
      rw [ha]
      exact if_neg hv.other
    · rw [hv.decided]
      cases new_status with
      | none => exact ⟨rfl, rfl⟩
      | some st => exact ⟨rfl, hv.settled st rfl, rfl⟩

/-- **Nothing else happens to the tables.** -/
theorem commit_step (gw : Gateway) (s : Sys) (a : Act) : Commit gw s a (step gw s a).db := by
  cases a with
  | tick d => exact .idle _
  | createReport id input ago =>
      rcases Txn.commit_fst (createReport gw.env gw.pg (s.now - ago) id input) s.db with h | ⟨r, h⟩
      · have hdb : (step gw s (.createReport id input ago)).db = s.db := h
        rw [hdb]
        exact .idle _
      · obtain ⟨hr, ha, hdb⟩ := run_createReport_eq_ok h
        have hstep : (step gw s (.createReport id input ago)).db =
          s.db.create gw.env (s.now - ago) id input := hdb
        rw [hstep]
        exact .create id input ago hr ha
  | vote body rules sch =>
      cases hres : (s.vote gw body rules sch).2 with
      | error e =>
          have hdb : (step gw s (.vote body rules sch)).db = s.db := vote_of_error hres
          rw [hdb]
          exact .idle _
      | ok r =>
          obtain ⟨author, b, new_status, hv, hdb, _⟩ := vote_eq_ok_iff.1 (Prod.ext rfl hres)
          have hdb : (step gw s (.vote body rules sch)).db = s.voted body sch author b new_status :=
            hdb
          rw [hdb]
          exact .vote body rules sch author b new_status hv
  | postVouch body roots sch =>
      rcases postVouch_cases gw.env.verify roots gw.vouch_budget (s.now - sch.checkedAgo)
        (s.began sch) sch.gates (s.view sch.first).users (s.view sch.second).users
        (s.view sch.third).vouches s.db.vouches body with ⟨h, _⟩ | ⟨hok, hel, v, _, h⟩
      · have hdb : (step gw s (.postVouch body roots sch)).db = { s.db with vouches := s.db.vouches } :=
          congrArg (fun vouches => { s.db with vouches }) h
        rw [hdb]
        exact .idle _
      · have hdb : (step gw s (.postVouch body roots sch)).db =
            { s.db with vouches := s.db.vouches ++ [v] } :=
          congrArg (fun vouches => { s.db with vouches }) h
        rw [hdb]
        exact .vouch body roots sch v hok hel
  | deleteVouch vouchee body sch =>
      exact .revoke vouchee body sch _ (vouchers_deleteVouch ..)
  | decayRead =>
      have hstep : (step gw s .decayRead).db = s.db := by
        unfold step exec
        dsimp only
        split <;> rfl
      rw [hstep]
      exact .idle _
  | decayUpdate i =>
      unfold step exec
      dsimp only
      split
      · rename_i r rest hp
        exact .decay i r rest hp
      · exact .idle _

/-- **A request that is refused changes no table.** -/
theorem db_of_error {gw : Gateway} {s : Sys} {a : Act} {e : AppError}
    (h : (exec gw s a).2 = .error e) : (step gw s a).db = s.db := by
  unfold step
  cases a with
  | tick d => cases h
  | createReport id input ago =>
      show ((createReport gw.env gw.pg (s.now - ago) id input).commit s.db).1 = s.db
      cases hres : ((createReport gw.env gw.pg (s.now - ago) id input).commit s.db).2 with
      | error e' => exact Txn.commit_of_error hres
      | ok r =>
          unfold exec at h
          dsimp only at h
          rw [hres] at h
          cases h
  | vote body rules sch =>
      show (s.vote gw body rules sch).1 = s.db
      have h : (s.vote gw body rules sch).2.map (fun _ => ()) = .error e := h
      cases hres : (s.vote gw body rules sch).2 with
      | error e' => exact vote_of_error hres
      | ok r =>
          rw [hres] at h
          cases h
  | postVouch body roots sch =>
      rcases postVouch_cases gw.env.verify roots gw.vouch_budget (s.now - sch.checkedAgo)
        (s.began sch) sch.gates (s.view sch.first).users (s.view sch.second).users
        (s.view sch.third).vouches s.db.vouches body with ⟨hsame, _⟩ | ⟨hok, _⟩
      · exact congrArg (fun vouches => { s.db with vouches }) hsame
      · exact absurd (hok.symm.trans h) (by simp)
  | deleteVouch vouchee body sch =>
      exact congrArg (fun vouches => { s.db with vouches }) (deleteVouch_of_error h)
  | decayRead =>
      unfold exec at h
      dsimp only at h
      split at h <;> cases h
  | decayUpdate i =>
      unfold exec at h
      dsimp only at h
      split at h <;> cases h

/-! ### A gateway to run

Keys of one repeated hex digit, each of which signs one event: a confirmation of
the report `r` for the digits below six, of `q` for the others.  The id of the
event is the key, so ids bind (`demo_idsBind`). -/

/-- The key of a digit. -/
def demoKey (n : ℕ) : Pubkey := digits 64 (Nat.digitChar n)

/-- The report a key confirms. -/
def demoTarget (pk : Pubkey) : Uuid :=
  if pk.toList.head?.any fun c => decide (c.toNat < 54) then "r" else "q"

/-- A gateway that accepts the events of those keys. -/
def demoGateway (pg : Pg) : Gateway where
  env :=
    { snapToR9 := fun lat lng => ("", lat, lng)
      earthDistance := fun _ _ _ _ => 0
      verify := fun e => decide (e.id = e.pubkey) &&
        decide (e.content = voteBindingContent "CONFIRM" (demoTarget e.pubkey)) }
  pg := pg
  decay := { enabled := true, grace_days := 90, horizon_days := 180, floor := 0 }
  vouch_budget := 3

/-- The confirmation of a key, signed at `secs`. -/
def demoBody (n secs : ℕ) : CastVoteBody where
  report_id := demoTarget (demoKey n)
  voter_pubkey := demoKey n
  vote := "CONFIRM"
  voter_nostr_event :=
    { id := demoKey n, pubkey := demoKey n, created_at := secs, kind := 1, tags := [],
      content := voteBindingContent "CONFIRM" (demoTarget (demoKey n)), sig := digits 128 '0' }
  voter_lat := none
  voter_lng := none

/-- The contents of the report `id` by the key of `9`. -/
def demoInput (id : Uuid) : CreateReportInput :=
  { report_type := "FIRE", description := none, lat := 0, lng := 0, place_name := none,
    nostr_pubkey := demoKey 9, nostr_signature := digits 128 '0', nostr_event_id := "e-" ++ id,
    photo_ipfs_cid := none, linked_event_id := none }

/-- The report `id` is created. -/
def demoReport (id : Uuid) : Act := .createReport id (demoInput id) 0

/-- What the creation does to the tables. -/
def demoCreate (pg : Pg) (now : Timestamp) (db : Db) (id : Uuid) : Db :=
  ((createReport (demoGateway pg).env pg now id (demoInput id)).commit db).1

theorem step_demoReport (pg : Pg) (s : Sys) (id : Uuid) :
    step (demoGateway pg) s (demoReport id) = s.commit (demoCreate pg s.now s.db id) := by
  have hago : s.now - ((0 : ℕ) : ℤ) = s.now := Int.sub_zero _
  show s.commit ((createReport _ _ (s.now - ((0 : ℕ) : ℤ)) _ _).commit s.db).1 = _
  rw [hago]
  rfl

theorem demo_idsBind (pg : Pg) : IdsBind (demoGateway pg).env.verify := by
  intro e e' he he' hid
  simp only [demoGateway, Bool.and_eq_true, decide_eq_true_eq] at he he'
  have hpk : e.pubkey = e'.pubkey := he.1.symm.trans (hid.trans he'.1)
  exact ⟨hpk, by rw [he.2, he'.2, hpk]⟩

theorem isHex_demoKey (n : ℕ) (hn : n < 16) : isHex 64 (demoKey n) = true := by
  have hdigit : ∀ n < 16, isHexDigit (Nat.digitChar n) = true ∧ (Nat.digitChar n).utf8Size = 1 := by
    decide
  exact isHex_digits (hdigit n hn).1 (hdigit n hn).2 64

theorem toAsciiLowercase_demoKey (n : ℕ) (hn : n < 16) :
    toAsciiLowercase (demoKey n) = demoKey n := by
  have hlower : ∀ n < 16, (Nat.digitChar n).toLower = Nat.digitChar n := by decide
  exact toAsciiLowercase_digits (hlower n hn) 64

theorem parse_demoBody {n secs : ℕ} (hn : n < 16) (hs : secs < 2 ^ 62) :
    (demoBody n secs).voter_nostr_event.parse = some
      { (demoBody n secs).voter_nostr_event with id := demoKey n } := by
  have hsig : isHex 128 (digits 128 '0') = true := isHex_digits (by decide) (by decide) 128
  have hlow : toAsciiLowercase (digits 128 '0') = digits 128 '0' :=
    toAsciiLowercase_digits (by decide) 128
  have hsecs : secs < 2 ^ 64 := by omega
  unfold RawEvent.parse demoBody
  simp only [isHex_demoKey n hn, hsig, hsecs, hlow, toAsciiLowercase_demoKey n hn]
  rfl

/-- The confirmation of a key passes the checks of the route. -/
theorem checkVote_demoBody (pg : Pg) {n secs : ℕ} (hn : n < 16) (hs : secs < 2 ^ 62) :
    checkVote (demoGateway pg).env.verify (secs * 1000000) {} (demoBody n secs) = .ok () := by
  have hwrap : wrap 64 (secs : ℤ) = secs := wrap_of_mem (w := 63) ⟨by omega, by omega⟩
  have hsec : seconds ((secs : ℤ) * 1000000) = secs := by
    unfold seconds
    omega
  have hevent : verifyNostrEvent (demoGateway pg).env.verify (secs * 1000000)
      (demoBody n secs).voter_nostr_event (demoBody n secs).voter_pubkey 300 = .ok () := by
    unfold verifyNostrEvent
    rw [parse_demoBody hn hs]
    simp only [demoBody, hsec, hwrap, sub_self]
    simp [demoGateway, wrap]
  have hempty : demoKey n ≠ "" := by
    intro h
    have h := congrArg String.toList h
    simp [demoKey, digits] at h
  unfold checkVote
  rw [hevent]
  simp [demoBody, ensure, VoteChoice.ofText?, validOptionalCoordinatePair, replayGuard, hempty]
  rfl

/-- Confirmations count whoever casts them. -/
def openRules : Rules := ⟨[], false⟩

/-- What the confirmation of a key does to the tables. -/
def demoCast (pg : Pg) (rules : Rules) (secs : ℕ) (db : Db) (n : ℕ) : Db :=
  match reportAuthor db.authors (demoBody n secs) with
  | .error _ => db
  | .ok author =>
    ((castVote (demoGateway pg).env pg (secs * 1000000) Peek.own (demoTarget (demoKey n))
      (demoBody n secs).input rules.genesis_roots rules.require_established author).commit db).1

/-- The confirmation of a key, checked, begun and committed at once. -/
def demoVote (rules : Rules) (secs n : ℕ) : Act := .vote (demoBody n secs) rules {}

theorem step_demoVote {pg : Pg} {rules : Rules} {n secs : ℕ} {s : Sys} (hn : n < 16)
    (hs : secs < 2 ^ 62) (hnow : s.now = secs * 1000000) :
    step (demoGateway pg) s (demoVote rules secs n) =
      s.commit (demoCast pg rules secs s.db n) := by
  have hago : s.now - ((0 : ℕ) : ℤ) = secs * 1000000 := (Int.sub_zero _).trans hnow
  have hvote : (s.vote (demoGateway pg) (demoBody n secs) rules {}).1 =
      demoCast pg rules secs s.db n := by
    unfold Sys.vote vote demoCast Sys.began
    simp only [hago, checkVote_demoBody pg hn hs]
    show (match reportAuthor s.db.authors (demoBody n secs) with
      | .error e => (s.db, Except.error e)
      | .ok author => _).1 = _
    cases reportAuthor s.db.authors (demoBody n secs) with
    | error e => rfl
    | ok author =>
        dsimp only
        split
        · rename_i db r hc
          exact (congrArg Prod.fst hc).symm
        · rename_i db e hc
          exact (congrArg Prod.fst hc).symm
  exact congrArg s.commit hvote

/-- A run of confirmations at one instant. -/
theorem run_demoVotes (pg : Pg) (rules : Rules) (secs : ℕ) (hs : secs < 2 ^ 62) (ns : List ℕ)
    (hns : ∀ n ∈ ns, n < 16) (s : Sys) (hnow : s.now = secs * 1000000) :
    let s' := run (step (demoGateway pg)) s (ns.map (demoVote rules secs))
    s'.db = ns.foldl (demoCast pg rules secs) s.db ∧ s'.now = s.now ∧ s'.passes = s.passes := by
  induction ns generalizing s with
  | nil => exact ⟨rfl, rfl, rfl⟩
  | cons n ns ih =>
      rw [List.forall_mem_cons] at hns
      rw [List.map_cons, run_cons, step_demoVote hns.1 hs hnow, List.foldl_cons]
      exact ih hns.2 _ hnow

end Ledger
end SentinelMesh
