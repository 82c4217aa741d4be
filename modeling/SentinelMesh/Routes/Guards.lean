/-
# What a write request passes before the database

The parts of `routes/reports.rs` shared by the routes that write reports, votes
and vouches: the rate limiter, the replay guard, and the errors of the database
as responses.

The rate limiter and Redis keep state of their own, which no table depends on;
what they answer to a request is part of the request (`Gates`), so that a
statement about every request is one about every answer.
-/

import SentinelMesh.Ledger.Schema

namespace SentinelMesh
namespace Ledger

/-- What the rate limiter and Redis answer to a request. -/
structure Gates where
  /-- Both buckets of the rate limiter are empty. -/
  limited : Bool := false
  /-- `SET NX`: `none` when Redis fails, `some true` when the key was set. -/
  redis : Option Bool := some true
  deriving DecidableEq

/-- `replay_guard`, given what `SET NX` returned. -/
def replayGuard (redis : Option Bool) (event_id : String) : Except AppError Unit :=
  if event_id = "" then .error (.badRequest "nostr_event missing id")
  else match redis with
    | none => .error (.internal "redis")
    | some false => .error (.badRequest "duplicate submission (replay detected)")
    | some true => .ok ()

/-- The text of a database error as far as a route tells errors apart. -/
def DbError.text : DbError → String
  | reportNotFound => "report not found"
  | invalidVote => "vote must be CONFIRM or DENY"
  | rowNotFound => "no rows returned by a query that expected to return at least one row"
  | uniqueViolation c => "duplicate key value violates unique constraint " ++ c
  | foreignKeyViolation c => "violates foreign key constraint " ++ c
  | checkViolation c => "violates check constraint " ++ c
  | columnDecode _ _ => "error occurred while decoding column 0: mismatched types"
  | integerOutOfRange _ => "integer out of range"

/-- `AppError::Internal(e.into())`. -/
def DbError.internal (e : DbError) : AppError := .internal e.text

end Ledger
end SentinelMesh
