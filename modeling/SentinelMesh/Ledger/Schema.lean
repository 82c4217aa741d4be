/-
# The tables behind reports, votes and vouches

`infra/postgres/schema-v2.sql`: `users`, `community_reports`, `report_authors`,
`report_votes`, `vouches`.  A row is the key of its table and a record of the
other columns that the modelled statements read or write; `nip05_*` of
`users`, the surrogate `id` columns and indexes are left out.

`Pg` is what the statements depend on outside the program: whether a fetch
checks that the width of the Rust integer is the width of the column's SQL
type, and whether an `INTEGER` column has a range.  `Pg.sqlx` is sqlx on
PostgreSQL; `Pg.ideal` is the reading in which integer columns are integers and
decoding never fails.
-/

import SentinelMesh.Basic
import SentinelMesh.Lib.Table
import SentinelMesh.Lib.Txn
import SentinelMesh.Reports.Consensus
import Mathlib.Data.Rat.Defs

namespace SentinelMesh
namespace Ledger

open Lib

/-- A row of `users`, under its `nostr_pubkey`. -/
structure User where
  reputation_score : ℤ := 0
  effective_reputation_score : ℤ := 0
  reputation_tier : Tier := .newcomer
  total_reports : ℤ := 0
  accurate_reports : ℤ := 0
  rejected_reports : ℤ := 0
  last_verified_at : Option Timestamp := none
  vouching_suspended : Bool := false
  vouch_budget_override : Option ℤ := none
  created_at : Timestamp
  last_active : Timestamp
  deriving DecidableEq, Repr

/-- A row of `community_reports`, under its `id`; the columns of `Report`, and
the cell. -/
structure Report where
  report_type : String
  description : Option String
  lat : ℚ
  lng : ℚ
  h3_r9 : String
  place_name : Option String
  reporter_tier : Tier
  consensus_score : ℤ
  confirmation_count : ℤ
  denial_count : ℤ
  status : ReportStatus
  photo_ipfs_cid : Option String
  linked_event_id : Option Uuid
  created_at : Timestamp
  updated_at : Timestamp
  deriving DecidableEq, Repr

/-- A row of `report_authors`, under its `report_id`. -/
structure Author where
  nostr_pubkey : Pubkey
  nostr_signature : String
  nostr_event_id : String
  created_at : Timestamp
  deriving DecidableEq, Repr

/-- A row of `report_votes`, under its `(report_id, voter_pubkey)`. -/
structure Vote where
  nostr_event_id : String
  vote : VoteChoice
  voter_was_nearby : Bool
  created_at : Timestamp
  deriving DecidableEq, Repr

/-- The two values of `vouches.issuance_basis`. -/
inductive Basis
  | root
  | earned
  deriving DecidableEq, Repr

/-- A row of `vouches`. -/
structure Vouch where
  voucher_pubkey : Pubkey
  vouchee_pubkey : Pubkey
  issuance_basis : Basis
  nostr_event_id : String
  created_at : Timestamp
  revoked_at : Option Timestamp := none
  expires_at : Option Timestamp := none
  deriving DecidableEq, Repr

/-- The tables.  `safety_events` is there for the foreign key of
`community_reports.linked_event_id` alone. -/
structure Db where
  users : Table Pubkey User := Table.empty
  reports : Table Uuid Report := Table.empty
  authors : Table Uuid Author := Table.empty
  votes : Table (Uuid × Pubkey) Vote := Table.empty
  vouches : List Vouch := []
  safety_events : List Uuid := []
  deriving DecidableEq

/-- The integer types of columns. -/
inductive SqlInt
  | integer
  | bigint
  deriving DecidableEq, Repr

/-- The integer types of the program. -/
inductive RustInt
  | i32
  | i64
  deriving DecidableEq, Repr

/-- What can go wrong with a statement, or in `cast_vote` itself. -/
inductive DbError
  | reportNotFound
  | invalidVote
  | rowNotFound
  | uniqueViolation (constraint : String)
  | foreignKeyViolation (constraint : String)
  | checkViolation (constraint : String)
  | columnDecode (sql : SqlInt) (rust : RustInt)
  | integerOutOfRange (column : String)
  deriving DecidableEq, Repr

/-- The database and its driver. -/
structure Pg where
  /-- A scalar fetch fails when the widths of the two integer types differ. -/
  widthChecked : Bool
  /-- A value outside 32 bits in an `INTEGER` column fails its statement. -/
  rangeChecked : Bool

/-- sqlx on PostgreSQL. -/
def Pg.sqlx : Pg := ⟨true, true⟩

/-- Integer columns are integers and decoding never fails. -/
def Pg.ideal : Pg := ⟨false, false⟩

/-- `INTEGER` is `i32` and `BIGINT` is `i64`. -/
def SqlInt.matches : SqlInt → RustInt → Bool
  | integer, .i32 => true
  | bigint, .i64 => true
  | _, _ => false

/-- The transactions of the ledger. -/
abbrev DbTxn := Txn Db DbError

/-- `query_scalar` of an integer column. -/
def Pg.fetchScalar (pg : Pg) (sql : SqlInt) (rust : RustInt) (value : ℤ) : DbTxn ℤ := do
  Txn.require (!pg.widthChecked || sql.matches rust) (.columnDecode sql rust)
  pure value

/-- The range check of an `INTEGER` column that is set to `value`. -/
def Pg.integer (pg : Pg) (column : String) (value : ℤ) : DbTxn Unit :=
  Txn.require (!pg.rangeChecked || decide (InRange 31 value)) (.integerOutOfRange column)

@[simp] theorem Pg.run_fetchScalar_eq_ok {pg : Pg} {sql : SqlInt} {rust : RustInt} {v w : ℤ}
    {db db' : Db} : (pg.fetchScalar sql rust v).run db = .ok (w, db') ↔
      (pg.widthChecked = true → sql.matches rust = true) ∧ v = w ∧ db = db' := by
  unfold Pg.fetchScalar
  simp only [Txn.run_bind_eq_ok, Txn.run_require_eq_ok, Txn.run_pure_eq_ok]
  cases pg.widthChecked <;> simp

@[simp] theorem Pg.run_integer_eq_ok {pg : Pg} {column : String} {v : ℤ} {u : Unit}
    {db db' : Db} : (pg.integer column v).run db = .ok (u, db') ↔
      (pg.rangeChecked = true → InRange 31 v) ∧ db = db' := by
  unfold Pg.integer
  cases pg.rangeChecked <;> simp

end Ledger
end SentinelMesh
