/-
# Identifiers that are claimed

`set_identity`, `current_identity` and `delete_identity` of `routes/identity.rs`, with the columns and
the constraints of migration 5.  A key claims a name of a domain, if the document of the domain says
that the name is its own, and has it for a day.

A transaction that is committed has held the lock of the identifier and of each row that it wrote, so
it is one step on the table; which of two comes first, and at which instant each began, is left open.
Any transaction may instead be aborted, and any commit may be one that the server is not told of: what
it answers then is a 500, whether or not the row is there (`Fate`).

What a key is answered is what it last set in a transaction that was committed, if that is not a day
ago (`verified_iff`).  A set that is in order is answered that the identifier is claimed exactly where
another key is answered that it has it, unless its transaction is aborted, and no two keys are ever
answered so at once (`claimed_iff`).
-/

import SentinelMesh.Circles.Routes
import SentinelMesh.Lib.Lease
import SentinelMesh.Routes.Identity
import Mathlib.Data.Int.Order.Basic

namespace SentinelMesh
namespace Routes
namespace Nip05

open Lib Identity
open Circles (NostrAuth Request)

/-! ### Identifiers -/

/-- `char::is_whitespace`. -/
def isWhitespace (c : Char) : Bool :=
  decide (c.toNat ∈ [0x09, 0x0A, 0x0B, 0x0C, 0x0D, 0x20, 0x85, 0xA0, 0x1680, 0x2028, 0x2029, 0x202F,
    0x205F, 0x3000]) || (decide (0x2000 ≤ c.toNat) && decide (c.toNat ≤ 0x200A))

/-- `str::trim`. -/
def trim (s : String) : String :=
  String.ofList (((s.toList.dropWhile isWhitespace).reverse.dropWhile isWhitespace).reverse)

/-- `reqwest::Url`, as far as it is read. -/
structure Url where
  scheme : String
  host : Option String
  port : Option ℕ
  username : String
  password : Option String
  path : String
  query : Option String
  fragment : Option String
  deriving DecidableEq

/-- `Url::parse`, and whether a text parses as an `IpAddr`. -/
structure Env where
  parseUrl : String → Option Url
  isIpAddr : String → Bool

/-- `MAX_IDENTIFIER_LEN`. -/
def maxIdentifierLen : ℕ := 255

/-- A character of a name. -/
def isNameChar (c : Char) : Bool := c.isAlphanum || c == '_' || c == '-' || c == '.'

/-- What the host of an identifier must be all there is to its URL for. -/
def Url.plain (url : Url) : Bool :=
  url.scheme == "https" && url.port.isNone && url.username.isEmpty && url.password.isNone &&
    url.path == "/" && url.query.isNone && url.fragment.isNone

/-- `trim_end_matches('.')`. -/
def trimEndDots (s : String) : String :=
  String.ofList ((s.toList.reverse.dropWhile fun c => c == '.').reverse)

/-- `canonical_identifier`: the identifier, its name and its domain. -/
def canonicalIdentifier (env : Env) (input : String) :
    Except AppError (String × String × String) :=
  let input := trim input
  if maxIdentifierLen < input.utf8ByteSize ∨ input.toList.count '@' ≠ 1 then
    .error (.badRequest "identifier must be name@domain and at most 255 characters")
  else
    let name := String.ofList (input.toList.takeWhile fun c => c ≠ '@')
    let domain_input := String.ofList ((input.toList.dropWhile fun c => c ≠ '@').drop 1)
    if name = "" ∨ name.toList.all isNameChar = false then
      .error (.badRequest "identifier name contains unsupported characters")
    else if ':' ∈ domain_input.toList then
      .error (.badRequest "identifier domain must not include a port")
    else
      match env.parseUrl ("https://" ++ domain_input ++ "/") with
      | none => .error (.badRequest "identifier domain is invalid")
      | some url =>
        match url.host.filter fun _ => url.plain with
        | none => .error (.badRequest "identifier domain is invalid")
        | some host =>
          let domain := toAsciiLowercase (trimEndDots host)
          if domain = "" ∨ '.' ∉ domain.toList ∨ env.isIpAddr domain then
            .error (.badRequest "identifier must use a public domain name")
          else
            let name := toAsciiLowercase name
            .ok (name ++ "@" ++ domain, name, domain)

/-! ### The routes -/

/-- What the server meets where it fetches: the lookup of a domain, and the client for a domain and a
name. -/
structure Net where
  lookup : String → Lookup
  client : String → String → Client

/-- What becomes of a transaction.  It is aborted where a statement or the commit fails, where the
connection goes, and where the database ends a deadlock, as that of two keys which set the lapsed
identifiers of each other; and it may be committed with the answer of `COMMIT` lost. -/
inductive Fate
  | committed
  | unanswered (cause : String)
  | aborted (cause : String)
  deriving DecidableEq

/-- A request to set the identity: what the limiter says, the net, the instant at which its transaction
begins, and what becomes of it. -/
structure SetRequest extends Request String where
  rateLimited : Bool
  net : Net
  now : Timestamp
  fate : Fate

/-- The columns of a user that has an identity. -/
structure StoredIdentity where
  identifier : String
  verified_at : Timestamp
  valid_until : Timestamp
  deriving DecidableEq

/-- The table `users`; the columns of the identity are null together. -/
abbrev Users := Table Pubkey (Option StoredIdentity)

/-- `Nip05Status`. -/
structure Nip05Status where
  identifier : String
  verified : Bool
  verified_at : Timestamp
  valid_until : Timestamp
  deriving DecidableEq

/-- `Nip05Status::from`, at an instant. -/
def StoredIdentity.status (value : StoredIdentity) (now : Timestamp) : Nip05Status where
  identifier := value.identifier
  verified := decide (now < value.valid_until)
  verified_at := value.verified_at
  valid_until := value.valid_until

/-- `VERIFICATION_TTL_HOURS`. -/
def verificationTtlHours : ℤ := 24

/-- The row that is written. -/
def verifiedRow (identifier : String) (now : Timestamp) : StoredIdentity where
  identifier := identifier
  verified_at := now
  valid_until := now + verificationTtlHours * 3600 * 1000000

/-- `verify_payload_binding`. -/
def verifyPayloadBinding (auth : NostrAuth) (bodyHash : String) : Except AppError Unit :=
  match auth.payload with
  | some value =>
    if eqIgnoreAsciiCase value bodyHash then .ok ()
    else .error (.badRequest "signed payload hash does not match request body")
  | none => .error (.badRequest "missing NIP-98 payload binding")

/-- The key of a name, `names.get`, in lower case. -/
def mappedKey (document : Nip05Document) (name : String) : Option String :=
  (document.names.lookup name).map toAsciiLowercase

/-- What `set_identity` does before its transaction: the identifier that is claimed. -/
def checkSet (env : Env) (req : SetRequest) : Except AppError String := do
  ensure (!req.rateLimited) .rateLimited
  verifyPayloadBinding req.auth req.bodyHash
  match req.body with
  | none => .error (.badRequest "invalid JSON body")
  | some body =>
    let (identifier, name, domain) ← canonicalIdentifier env body
    let document ← (fetchDocument (req.net.lookup domain) (req.net.client domain name)).2
    if mappedKey document name ≠ some req.auth.pubkey then
      .error (.unprocessable "NIP-05 identifier does not map to this local key")
    else .ok identifier

/-- The statements of `set_identity`: the row that the last one returns, and the table. -/
def claim (key : Pubkey) (identifier : String) (now : Timestamp) (users : Users) :
    Except AppError (StoredIdentity × Users) :=
  -- claims that are past their time give way
  let lapsed := users.map fun _ row =>
    row.filter fun row => !decide (row.identifier = identifier ∧ row.valid_until ≤ now)
  if ¬(3 ≤ identifier.length ∧ identifier.length ≤ 255) then
    .error (.internal "violates check constraint \"users_nip05_identity_complete\"")
  else if lapsed.rows.any fun r =>
      decide (r.1 ≠ key) && r.2.any fun row => decide (row.identifier = identifier) then
    .error (.conflict "NIP-05 identifier is already claimed")
  else
    let row := verifiedRow identifier now
    .ok (row, lapsed.put key (some row))

/-- The transaction is committed, if its statements succeed. -/
def Fate.commits : Fate → Bool
  | committed | unanswered _ => true
  | aborted _ => false

/-- What is answered and what is left of statements that have or have not succeeded. -/
def Fate.settle {α : Type} (fate : Fate) (users : Users) (done : Except AppError (α × Users)) :
    Except AppError α × Users :=
  match fate with
  | aborted cause => (.error (.internal cause), users)
  | committed => match done with
    | .error e => (.error e, users)
    | .ok (a, users') => (.ok a, users')
  | unanswered cause => match done with
    | .error e => (.error e, users)
    | .ok (_, users') => (.error (.internal cause), users')

/-- `set_identity`. -/
def setIdentity (env : Env) (req : SetRequest) (users : Users) :
    Except AppError StoredIdentity × Users :=
  match checkSet env req with
  | .error e => (.error e, users)
  | .ok identifier => req.fate.settle users (claim req.auth.pubkey identifier req.now users)

/-- `delete_identity`. -/
def deleteIdentity (key : Pubkey) (rateLimited : Bool) (fate : Fate) (users : Users) :
    Except AppError Unit × Users :=
  if rateLimited then (.error .rateLimited, users)
  else fate.settle users (.ok ((), users.modify key fun _ => none))

/-- `current_identity`, at an instant. -/
def currentIdentity (key : Pubkey) (now : Timestamp) (users : Users) : Option Nip05Status :=
  (users.find? key).join.map fun row => row.status now

/-- What a user asks for. -/
inductive Op
  | set (req : SetRequest)
  | delete (key : Pubkey) (rateLimited : Bool) (fate : Fate)

/-- One request. -/
def step (env : Env) (users : Users) : Op → Users
  | .set req => (setIdentity env req users).2
  | .delete key rateLimited fate => (deleteIdentity key rateLimited fate users).2

namespace Op

/-- The key that asks. -/
def key : Op → Pubkey
  | set req => req.auth.pubkey
  | delete key _ _ => key

/-- What becomes of its transaction. -/
def fate : Op → Fate
  | set req => req.fate
  | delete _ _ fate => fate

/-- The instant is not before that of the transaction. -/
def Before (now : Timestamp) : Op → Prop
  | set req => req.now ≤ now
  | delete _ _ _ => True

/-- The request passes its checks, and its transaction is committed. -/
def Committed (env : Env) (users : Users) : Op → Prop
  | set req => req.fate.commits = true ∧ ∃ identifier, checkSet env req = .ok identifier ∧
      ∃ row users', claim req.auth.pubkey identifier req.now users = .ok (row, users')
  | delete _ rateLimited fate => fate.commits = true ∧ rateLimited = false

/-- What the request asks of the columns of the identity. -/
def asks (env : Env) : Op → Option (Lease.Op Pubkey StoredIdentity Timestamp)
  | set req => match checkSet env req with
    | .error _ => none
    | .ok identifier =>
      if 3 ≤ identifier.length ∧ identifier.length ≤ 255 then
        some (.claim req.auth.pubkey (verifiedRow identifier req.now) req.now)
      else none
  | delete key rateLimited _ => if rateLimited then none else some (.release key)

/-- What the request does with the columns of the identity. -/
def lease (env : Env) (op : Op) : Option (Lease.Op Pubkey StoredIdentity Timestamp) :=
  if op.fate.commits then op.asks env else none

end Op

variable {env : Env} {users : Users} {req : SetRequest} {key : Pubkey} {identifier : String}
  {now : Timestamp} {row : StoredIdentity}

/-- **The statements are a claim.** -/
theorem claim_eq (key : Pubkey) (identifier : String) (now : Timestamp) (users : Users)
    (h : 3 ≤ identifier.length ∧ identifier.length ≤ 255) :
    claim key identifier now users =
      match Lease.claim StoredIdentity.identifier StoredIdentity.valid_until users key
        (verifiedRow identifier now) now with
      | none => .error (.conflict "NIP-05 identifier is already claimed")
      | some users' => .ok (verifiedRow identifier now, users') := by
  unfold claim
  rw [if_neg (not_not.2 h)]
  -- the test of the unique index, in the words of the leases
  cases htaken : Lease.taken StoredIdentity.identifier
      (Lease.lapse StoredIdentity.identifier StoredIdentity.valid_until users identifier now) key
      identifier with
  | true =>
      have hclaim : Lease.claim StoredIdentity.identifier StoredIdentity.valid_until users key
          (verifiedRow identifier now) now = none := if_pos htaken
      rw [hclaim]
      exact if_pos htaken
  | false =>
      have hclaim : Lease.claim StoredIdentity.identifier StoredIdentity.valid_until users key
          (verifiedRow identifier now) now = some _ := if_neg (Bool.eq_false_iff.1 htaken)
      rw [hclaim]
      exact if_neg (Bool.eq_false_iff.1 htaken)

/-- Statements that fail change nothing, whatever becomes of the transaction. -/
theorem Fate.settle_error {α : Type} (fate : Fate) (users : Users) (e : AppError) :
    (fate.settle users (.error e : Except AppError (α × Users))).2 = users := by
  cases fate with
  | _ => rfl

/-- What a transaction leaves whose statements have succeeded. -/
theorem Fate.settle_ok {α : Type} (fate : Fate) (users users' : Users) (a : α) :
    (fate.settle users (.ok (a, users'))).2 = if fate.commits then users' else users := by
  cases fate with
  | _ => rfl

/-- **What a transaction is answered**: what its statements return, if it is committed and answered. -/
theorem Fate.settle_eq_ok {α : Type} {fate : Fate} {users : Users} {done : Except AppError (α × Users)}
    {a : α} :
    (fate.settle users done).1 = .ok a ↔ fate = .committed ∧ ∃ users', done = .ok (a, users') := by
  cases fate with
  | committed =>
      cases done with
      | error e => exact ⟨nofun, nofun⟩
      | ok r =>
          obtain ⟨a', users'⟩ := r
          constructor
          · intro h
            exact ⟨rfl, users', by rw [Except.ok.inj h]⟩
          · rintro ⟨-, users'', h⟩
            rw [(Prod.mk.inj (Except.ok.inj h)).1]
            rfl
  | unanswered cause =>
      cases done with
      | error e => exact ⟨nofun, nofun⟩
      | ok r => exact ⟨nofun, nofun⟩
  | aborted cause => exact ⟨nofun, nofun⟩

/-- An error that is none of the server's own is that of a statement, if the transaction is not
aborted. -/
theorem Fate.settle_eq_conflict {α : Type} {fate : Fate} {users : Users}
    {done : Except AppError (α × Users)} {message : String} :
    (fate.settle users done).1 = .error (.conflict message) ↔
      fate.commits = true ∧ done = .error (.conflict message) := by
  cases fate with
  | aborted cause => exact ⟨nofun, nofun⟩
  | _ =>
      cases done with
      | error e =>
          exact ⟨fun h => ⟨rfl, congrArg _ (Except.error.inj h)⟩, fun h => congrArg _ (Except.error.inj h.2)⟩
      | ok r => exact ⟨nofun, nofun⟩

/-- **A request that succeeds was committed.** -/
theorem committed_of_setIdentity {users : Users} {row : StoredIdentity}
    (h : (setIdentity env req users).1 = .ok row) : (Op.set req).Committed env users := by
  unfold setIdentity at h
  cases hcheck : checkSet env req with
  | error e =>
      rw [hcheck] at h
      exact nomatch h
  | ok identifier =>
      rw [hcheck] at h
      obtain ⟨hfate, users', hclaim⟩ := Fate.settle_eq_ok.1 h
      exact ⟨by rw [hfate]; rfl, identifier, hcheck, row, users', hclaim⟩

/-- **A request is a step of the leases.** -/
theorem step_eq (env : Env) (users : Users) (op : Op) :
    step env users op =
      Lease.step StoredIdentity.identifier StoredIdentity.valid_until (Op.lease env) users op := by
  cases op with
  | set req =>
      unfold step setIdentity Lease.step Op.lease Op.asks Op.fate
      dsimp only
      cases checkSet env req with
      | error e =>
          dsimp only
          rw [ite_self]
          rfl
      | ok identifier =>
          dsimp only
          by_cases hlength : 3 ≤ identifier.length ∧ identifier.length ≤ 255
          · rw [if_pos hlength, claim_eq _ _ _ _ hlength]
            cases hclaim : Lease.claim StoredIdentity.identifier StoredIdentity.valid_until users
              req.auth.pubkey (verifiedRow identifier req.now) req.now with
            | none =>
                rw [Fate.settle_error]
                split_ifs
                · rw [Option.bind_some, Lease.apply, hclaim, Option.getD_none]
                · rfl
            | some users' =>
                rw [Fate.settle_ok]
                split_ifs
                · rw [Option.bind_some, Lease.apply, hclaim, Option.getD_some]
                · rfl
          · have hrefused : claim req.auth.pubkey identifier req.now users =
                .error (.internal "violates check constraint \"users_nip05_identity_complete\"") :=
              if_pos hlength
            rw [if_neg hlength, ite_self, hrefused, Fate.settle_error]
            rfl
  | delete key rateLimited fate =>
      unfold step deleteIdentity Lease.step Op.lease Op.asks Op.fate
      cases rateLimited with
      | true =>
          dsimp only
          rw [if_pos rfl, if_pos rfl, ite_self]
          rfl
      | false =>
          dsimp only
          rw [if_neg Bool.false_ne_true, if_neg Bool.false_ne_true, Fate.settle_ok]
          split_ifs
          · rfl
          · rfl

theorem step_funext (env : Env) : step env =
    Lease.step StoredIdentity.identifier StoredIdentity.valid_until (Op.lease env) :=
  funext fun users => funext fun op => step_eq env users op

/-! ### Runs -/

/-- **What a request does with the columns**, if anything. -/
theorem Op.lease_cases {op : Op} {o : Lease.Op Pubkey StoredIdentity Timestamp}
    (h : op.lease env = some o) :
    (∃ req identifier, op = .set req ∧ checkSet env req = .ok identifier ∧
        o = .claim req.auth.pubkey (verifiedRow identifier req.now) req.now) ∨
      ∃ key fate, op = .delete key false fate ∧ o = .release key := by
  unfold lease at h
  split_ifs at h
  cases op with
  | set req =>
      unfold asks at h
      dsimp only at h
      cases hcheck : checkSet env req with
      | error e =>
          rw [hcheck] at h
          cases h
      | ok identifier =>
          rw [hcheck] at h
          dsimp only at h
          split_ifs at h
          exact .inl ⟨req, identifier, rfl, hcheck, (Option.some.inj h).symm⟩
  | delete key rateLimited fate =>
      cases rateLimited with
      | false => exact .inr ⟨key, fate, rfl, (Option.some.inj h).symm⟩
      | true => cases h

theorem Op.key_of_lease {op : Op} {o : Lease.Op Pubkey StoredIdentity Timestamp}
    (h : op.lease env = some o) : o.key = op.key := by
  rcases op.lease_cases h with ⟨req, identifier, rfl, -, rfl⟩ | ⟨key, fate, rfl, rfl⟩
  · rfl
  · rfl

theorem Op.before_of_lease {op : Op} {o : Lease.Op Pubkey StoredIdentity Timestamp}
    (h : op.lease env = some o) (hop : op.Before now) : o.Before now := by
  rcases op.lease_cases h with ⟨req, identifier, rfl, -, rfl⟩ | ⟨key, fate, rfl, rfl⟩
  · exact hop
  · trivial

/-- **What a set does with the columns**, where its transaction is committed. -/
theorem lease_set_iff :
    (Op.set req).lease env = some (.claim req.auth.pubkey row req.now) ↔
      req.fate.commits = true ∧ ∃ identifier, checkSet env req = .ok identifier ∧
        (3 ≤ identifier.length ∧ identifier.length ≤ 255) ∧ row = verifiedRow identifier req.now := by
  unfold Op.lease Op.asks Op.fate
  dsimp only
  by_cases hfate : req.fate.commits = true
  · rw [if_pos hfate, and_iff_right hfate]
    cases checkSet env req with
    | error e => exact ⟨nofun, nofun⟩
    | ok identifier =>
        dsimp only
        by_cases hlength : 3 ≤ identifier.length ∧ identifier.length ≤ 255
        · rw [if_pos hlength]
          constructor
          · intro h
            exact ⟨identifier, rfl, hlength, (Lease.Op.claim.inj (Option.some.inj h)).2.1.symm⟩
          · rintro ⟨identifier', hok, -, rfl⟩
            obtain rfl := Except.ok.inj hok
            rfl
        · rw [if_neg hlength]
          refine ⟨nofun, ?_⟩
          rintro ⟨identifier', hok, hlength', -⟩
          obtain rfl := Except.ok.inj hok
          exact absurd hlength' hlength
  · rw [if_neg hfate]
    exact ⟨nofun, fun h => absurd h.1 hfate⟩

/-- A transaction is committed where what it does with the columns is not refused. -/
theorem Op.committed_iff {op : Op} :
    op.Committed env users ↔ ∃ o, op.lease env = some o ∧
      Lease.apply StoredIdentity.identifier StoredIdentity.valid_until users o ≠ none := by
  cases op with
  | set req =>
      constructor
      · rintro ⟨hfate, identifier, hcheck, row, users', hclaim⟩
        have hlength : 3 ≤ identifier.length ∧ identifier.length ≤ 255 := by
          by_contra hlength
          have hrefused : claim req.auth.pubkey identifier req.now users = .error _ := if_pos hlength
          exact nomatch hrefused.symm.trans hclaim
        refine ⟨_, lease_set_iff.2 ⟨hfate, identifier, hcheck, hlength, rfl⟩, fun hnone => ?_⟩
        have hnone : Lease.claim StoredIdentity.identifier StoredIdentity.valid_until users
            req.auth.pubkey (verifiedRow identifier req.now) req.now = none := hnone
        rw [claim_eq _ _ _ _ hlength, hnone] at hclaim
        exact nomatch hclaim
      · rintro ⟨o, hlease, happly⟩
        obtain ⟨req', _, hreq, -, rfl⟩ | ⟨key, fate, hreq, -⟩ := Op.lease_cases hlease
        · obtain rfl := Op.set.inj hreq
          obtain ⟨hfate, identifier, hcheck, hlength, hrow⟩ := lease_set_iff.1 hlease
          obtain ⟨users', hclaim⟩ := Option.ne_none_iff_exists'.1 happly
          have hclaim : Lease.claim StoredIdentity.identifier StoredIdentity.valid_until users
              req.auth.pubkey (verifiedRow identifier req.now) req.now = some users' := hrow ▸ hclaim
          refine ⟨hfate, identifier, hcheck, verifiedRow identifier req.now, users', ?_⟩
          rw [claim_eq _ _ _ _ hlength, hclaim]
        · exact nomatch hreq
  | delete key rateLimited fate =>
      unfold Committed lease asks Op.fate
      cases rateLimited with
      | false => simp [Lease.apply]
      | true => simp

/-- No transaction of the key was committed since. -/
theorem not_committed_iff {op : Op} :
    (op.key = key → ¬op.Committed env users) ↔ ∀ o, op.lease env = some o → o.key = key →
      Lease.apply StoredIdentity.identifier StoredIdentity.valid_until users o = none := by
  rw [Op.committed_iff]
  constructor
  · intro h o ho hkey
    by_contra hne
    exact h ((Op.key_of_lease ho).symm.trans hkey) ⟨o, ho, hne⟩
  · rintro h hkey ⟨o, ho, hne⟩
    exact hne (h o ho ((Op.key_of_lease ho).trans hkey))

/-- A key is answered that it has an identifier, and that this is verified. -/
def Verified (users : Users) (key : Pubkey) (identifier : String) (now : Timestamp) : Prop :=
  ∃ status, currentIdentity key now users = some status ∧ status.identifier = identifier ∧
    status.verified = true

/-- What a key is answered, from what it holds. -/
theorem verified_iff_held (users : Users) :
    Verified users key identifier now ↔
      ∃ row, Lease.held users key = some row ∧ row.identifier = identifier ∧
        now < row.valid_until := by
  unfold Verified currentIdentity Lease.held
  simp only [Option.map_eq_some_iff]
  constructor
  · rintro ⟨status, ⟨row, hrow, rfl⟩, hidentifier, hverified⟩
    exact ⟨row, hrow, hidentifier, of_decide_eq_true hverified⟩
  · rintro ⟨row, hrow, hidentifier, hvalid⟩
    exact ⟨_, ⟨row, hrow, rfl⟩, hidentifier, decide_eq_true hvalid⟩

/-- Where the leases refuse a claim, another key is verified. -/
theorem claim_eq_none_iff_verified (users : Users) :
    Lease.claim StoredIdentity.identifier StoredIdentity.valid_until users key
        (verifiedRow identifier now) now = none ↔
      ∃ key', key' ≠ key ∧ Verified users key' identifier now := by
  rw [Lease.claim_eq_none_iff]
  constructor
  · rintro ⟨key', row, hne, hheld, hidentifier, hvalid⟩
    exact ⟨key', hne, (verified_iff_held users).2 ⟨row, hheld, hidentifier, hvalid⟩⟩
  · rintro ⟨key', hne, hverified⟩
    obtain ⟨row, hheld, hidentifier, hvalid⟩ := (verified_iff_held users).1 hverified
    exact ⟨key', row, hne, hheld, hidentifier, hvalid⟩

/-- **The statements fail for another key** exactly where one is verified for the identifier. -/
theorem claim_eq_conflict (users : Users) :
    claim key identifier now users = .error (.conflict "NIP-05 identifier is already claimed") ↔
      (3 ≤ identifier.length ∧ identifier.length ≤ 255) ∧
        ∃ key', key' ≠ key ∧ Verified users key' identifier now := by
  by_cases hlength : 3 ≤ identifier.length ∧ identifier.length ≤ 255
  · rw [and_iff_right hlength, ← claim_eq_none_iff_verified, claim_eq _ _ _ _ hlength]
    cases Lease.claim StoredIdentity.identifier StoredIdentity.valid_until users key
      (verifiedRow identifier now) now with
    | none => exact ⟨fun _ => rfl, fun _ => rfl⟩
    | some users' => exact ⟨nofun, nofun⟩
  · have hrefused : claim key identifier now users = .error (.internal _) := if_pos hlength
    rw [hrefused]
    exact ⟨nofun, fun h => absurd h.1 hlength⟩

/-- **The statements succeed** exactly where no other key is verified for the identifier. -/
theorem claim_eq_ok (users : Users) :
    (∃ users', claim key identifier now users = .ok (verifiedRow identifier now, users')) ↔
      (3 ≤ identifier.length ∧ identifier.length ≤ 255) ∧
        ¬∃ key', key' ≠ key ∧ Verified users key' identifier now := by
  by_cases hlength : 3 ≤ identifier.length ∧ identifier.length ≤ 255
  · rw [and_iff_right hlength, ← claim_eq_none_iff_verified, claim_eq _ _ _ _ hlength]
    cases Lease.claim StoredIdentity.identifier StoredIdentity.valid_until users key
      (verifiedRow identifier now) now with
    | none => exact ⟨nofun, fun h => absurd rfl h⟩
    | some users' => exact ⟨fun _ => nofun, fun _ => ⟨users', rfl⟩⟩
  · have hrefused : claim key identifier now users = .error (.internal _) := if_pos hlength
    rw [hrefused]
    exact ⟨nofun, fun h => absurd h.1 hlength⟩

/-- Nobody holds anything at first. -/
theorem held_empty (key : Pubkey) : Lease.held (Table.empty : Users) key = none := rfl

/-- A server for one domain. -/
def demoEnv : Env where
  parseUrl _ :=
    some
      { scheme := "https"
        host := some "Example.com."
        port := none
        username := ""
        password := none
        path := "/"
        query := none
        fragment := none }
  isIpAddr _ := false

/-- A key sets a name of the domain, at an instant. -/
def demoSet (key : Pubkey) (now : Timestamp) (fate : Fate) : SetRequest where
  auth := { pubkey := key, payload := some "d" }
  bodyHash := "d"
  body := some " Alice@example.com "
  rateLimited := false
  net :=
    { lookup := fun _ => .addresses [⟨.v4 ⟨1, 1, 1, 1⟩, 443⟩]
      client := fun _ _ =>
        { build := .ok ()
          send := fun _ => some { isSuccess := true, contentLength := none, chunks := [some []] }
          parse := fun _ => some { names := [("alice", key)] } } }
  now := now
  fate := fate

/-- A set that is aborted, one of which only the answer is lost, and one that comes too late. -/
def demoOps : List Op :=
  [.set (demoSet "b" 0 (.aborted "deadlock detected")),
    .set (demoSet "a" 0 (.unanswered "connection reset")), .set (demoSet "b" 1 .committed)]

theorem demo_checkSet (fate : Fate) :
    checkSet demoEnv (demoSet "a" 0 fate) = .ok "alice@example.com" := by
  have h : checkSet demoEnv (demoSet "a" 0 .committed) = .ok "alice@example.com" := by decide +kernel
  exact h

/-- **What a key is answered is what it last set**, if that is less than a day ago: it is told that an
identifier is verified exactly where, of its requests whose transactions were committed, the last set
it.  These are all the requests that succeed, and those that are answered a 500 because the answer of
`COMMIT` is lost.  The transactions may have begun in any order, as long as none began after the
answer. -/
theorem verified_iff (env : Env) {ops : List Op} {now : Timestamp}
    (hops : ∀ op ∈ ops, op.Before now) (key : Pubkey) (identifier : String) :
    (Verified (run (step env) Table.empty ops) key identifier now ↔
      ∃ before req after, ops = before ++ .set req :: after ∧ req.auth.pubkey = key ∧
        checkSet env req = .ok identifier ∧
        (Op.set req).Committed env (run (step env) Table.empty before) ∧
        now < req.now + 24 * 3600 * 1000000 ∧
        ∀ e ∈ events (step env) (run (step env) Table.empty (before ++ [.set req])) after,
          e.act.key = key → ¬e.act.Committed env e.pre) ∧
      ∀ req users row, (setIdentity env req users).1 = .ok row →
        (Op.set req).Committed env users := by
  refine ⟨?_, fun req users row hok => committed_of_setIdentity hok⟩
  have hbefore : ∀ op ∈ ops, ∀ o, op.lease env = some o → o.Before now := fun op hop o ho =>
    Op.before_of_lease ho (hops op hop)
  rw [verified_iff_held]
  simp only [not_committed_iff]
  constructor
  · rintro ⟨row, hheld, rfl, hvalid⟩
    rw [step_funext] at hheld
    obtain ⟨before, op, t, after, rfl, hop, hclaim, hafter⟩ :=
      (Lease.held_run_iff held_empty hbefore hvalid).1 hheld
    rw [← step_funext] at hclaim hafter
    obtain ⟨req, identifier, rfl, hcheck, heq⟩ | ⟨_, _, -, heq⟩ := Op.lease_cases hop
    · obtain ⟨rfl, rfl, rfl⟩ := Lease.Op.claim.inj heq
      refine ⟨before, req, after, rfl, rfl, hcheck, ?_, hvalid, hafter⟩
      exact Op.committed_iff.2 ⟨_, hop, hclaim⟩
    · cases heq
  · rintro ⟨before, req, after, rfl, rfl, hcheck, hcommitted, hvalid, hafter⟩
    refine ⟨verifiedRow identifier req.now, ?_, rfl, hvalid⟩
    obtain ⟨o, hlease, happly⟩ := Op.committed_iff.1 hcommitted
    obtain ⟨req', identifier', hreq, hcheck', rfl⟩ | ⟨_, _, hreq, -⟩ := Op.lease_cases hlease
    · obtain rfl := Op.set.inj hreq
      obtain rfl := Except.ok.inj (hcheck.symm.trans hcheck')
      rw [step_funext] at happly hafter ⊢
      exact (Lease.held_run_iff held_empty hbefore hvalid).2
        ⟨before, _, req.now, after, rfl, hlease, happly, hafter⟩
    · cases hreq

/-- The key that was answered a 500 has the identifier. -/
theorem verified_iff_demo :
    Verified (run (step demoEnv) Table.empty demoOps) "a" "alice@example.com" 5 := by
  have hops : ∀ op ∈ demoOps, op.Before 5 := by
    unfold demoOps
    rw [List.forall_mem_cons, List.forall_mem_cons, List.forall_mem_singleton]
    exact (by decide : (0 : ℤ) ≤ 5 ∧ (0 : ℤ) ≤ 5 ∧ (1 : ℤ) ≤ 5)
  refine (verified_iff demoEnv hops "a" "alice@example.com").1.2
    ⟨[.set (demoSet "b" 0 (.aborted "deadlock detected"))],
      demoSet "a" 0 (.unanswered "connection reset"), [.set (demoSet "b" 1 .committed)], rfl, rfl,
      demo_checkSet _, ⟨rfl, _, demo_checkSet _, _, _, rfl⟩, by decide, fun e he hkey => ?_⟩
  obtain rfl := List.mem_singleton.1 he
  exact absurd hkey (by decide)

/-- **An identifier is taken exactly where another key is verified for it.**  In every run, a set that
passes its checks is answered that the identifier is claimed exactly where its transaction is not
aborted and another key is verified for it at the instant of the transaction, and succeeds exactly
where the transaction is committed and answered and no other key is; the column takes the identifier
in both cases.  And no two keys are verified for one identifier, at any instants. -/
theorem claimed_iff (env : Env) (ops : List Op) {req : SetRequest} {identifier : String}
    (hcheck : checkSet env req = .ok identifier) :
    ((setIdentity env req (run (step env) Table.empty ops)).1 =
          .error (.conflict "NIP-05 identifier is already claimed") ↔
        req.fate.commits = true ∧ (3 ≤ identifier.length ∧ identifier.length ≤ 255) ∧
          ∃ key, key ≠ req.auth.pubkey ∧
            Verified (run (step env) Table.empty ops) key identifier req.now) ∧
      ((setIdentity env req (run (step env) Table.empty ops)).1 =
          .ok (verifiedRow identifier req.now) ↔
        req.fate = .committed ∧ (3 ≤ identifier.length ∧ identifier.length ≤ 255) ∧
          ¬∃ key, key ≠ req.auth.pubkey ∧
            Verified (run (step env) Table.empty ops) key identifier req.now) ∧
      ∀ key key' now now' status status',
        currentIdentity key now (run (step env) Table.empty ops) = some status →
          currentIdentity key' now' (run (step env) Table.empty ops) = some status' →
            status.identifier = status'.identifier → key = key' := by
  have hset : ∀ users, setIdentity env req users =
      req.fate.settle users (claim req.auth.pubkey identifier req.now users) := by
    intro users
    unfold setIdentity
    rw [hcheck]
  refine ⟨?_, ?_, ?_⟩
  · rw [hset, Fate.settle_eq_conflict, claim_eq_conflict]
  · rw [hset, Fate.settle_eq_ok, claim_eq_ok]
  · intro key key' now now' status status' h h' hidentifier
    obtain ⟨row, hrow, rfl⟩ := Option.map_eq_some_iff.1 h
    obtain ⟨row', hrow', rfl⟩ := Option.map_eq_some_iff.1 h'
    have hexclusive : Lease.Exclusive StoredIdentity.identifier
        (run (step env) Table.empty ops) := by
      rw [step_funext]
      refine Lease.exclusive_run (fun k k' v v' hv => ?_) ops
      cases hv
    exact hexclusive key key' row row' hrow hrow' hidentifier

/-- The key that comes too late is told so, and does not succeed. -/
theorem claimed_iff_demo :
    (setIdentity demoEnv (demoSet "b" 1 .committed)
      (run (step demoEnv) Table.empty
        [.set (demoSet "a" 0 (.unanswered "connection reset"))])).1 =
          .error (.conflict "NIP-05 identifier is already claimed") := by
  have hcheck : checkSet demoEnv (demoSet "b" 1 .committed) = .ok "alice@example.com" := by
    decide +kernel
  refine (claimed_iff demoEnv [.set (demoSet "a" 0 (.unanswered "connection reset"))] hcheck).1.2
    ⟨rfl, by decide, "a", by decide, (verifiedRow "alice@example.com" 0).status 1, ?_, rfl, rfl⟩
  decide +kernel

/-! ### Where an identity comes from -/

/-- What is left of a document that is fetched: it came from a public address. -/
theorem fetchDocument_eq_ok {lookup : Lookup} {client : Client} {document : Nip05Document}
    (h : (fetchDocument lookup client).2 = .ok document) :
    ∃ address, fetchDocument lookup client = (some address, .ok document) ∧
      isPublicIp address.ip = true := by
  cases lookup with
  | timeout => cases h
  | error => cases h
  | addresses addresses =>
      cases addresses with
      | nil => cases h
      | cons address addresses =>
          unfold fetchDocument at h ⊢
          dsimp only at h ⊢
          split_ifs at h ⊢ with hpublic
          cases hbuild : client.build with
          | error cause => rw [hbuild] at h; cases h
          | ok u =>
              rw [hbuild] at h
              refine ⟨address, Prod.ext rfl h, ?_⟩
              rw [List.any_cons, Bool.or_eq_true, not_or] at hpublic
              simpa using hpublic.1

/-- A name holds no `@`. -/
theorem at_notMem_name {name : List Char} (h : name.all isNameChar = true) :
    '@' ∉ (toAsciiLowercase (String.ofList name)).toList := by
  unfold toAsciiLowercase
  rw [String.toList_ofList, String.toList_ofList, List.mem_map]
  rintro ⟨c, hc, hlower⟩
  have hname := List.all_eq_true.1 h c hc
  by_cases hupper : c.val ≥ 'A'.val ∧ c.val ≤ 'Z'.val
  · have hval : c.toLower.val = c.val + ('a'.val - 'A'.val) := by
      unfold Char.toLower
      rw [dif_pos hupper]
    rw [hlower] at hval
    have hA : ('A'.val).toNat = 65 := rfl
    have hZ : ('Z'.val).toNat = 90 := rfl
    have hshift : ('a'.val - 'A'.val).toNat = 32 := rfl
    have hat : ('@'.val).toNat = 64 := rfl
    have hnat := congrArg UInt32.toNat hval
    simp only [ge_iff_le, UInt32.le_iff_toNat_le, UInt32.toNat_add] at hupper hnat
    omega
  · rw [toLower_of_not_upper hupper] at hlower
    rw [hlower] at hname
    exact absurd hname (by decide)

/-- **An identifier is a name at a domain**, in one way. -/
theorem canonicalIdentifier_eq_ok {input identifier name domain : String}
    (h : canonicalIdentifier env input = .ok (identifier, name, domain)) :
    identifier = name ++ "@" ++ domain ∧ '@' ∉ name.toList := by
  unfold canonicalIdentifier at h
  dsimp only at h
  split_ifs at h with hlength hname hport
  cases hurl : env.parseUrl ("https://" ++ String.ofList
      (((trim input).toList.dropWhile fun c => decide (c ≠ '@')).drop 1) ++ "/") with
  | none => rw [hurl] at h; cases h
  | some url =>
      rw [hurl] at h
      dsimp only at h
      cases hhost : url.host.filter fun _ => url.plain with
      | none => rw [hhost] at h; cases h
      | some host =>
          rw [hhost] at h
          dsimp only at h
          split_ifs at h
          have hok := Except.ok.inj h
          rw [Prod.mk.injEq, Prod.mk.injEq] at hok
          obtain ⟨rfl, rfl, rfl⟩ := hok
          refine ⟨rfl, at_notMem_name ?_⟩
          rw [not_or, String.toList_ofList] at hname
          simpa using hname.2

/-- What is checked before an identifier is claimed. -/
theorem checkSet_eq_ok (h : checkSet env req = .ok identifier) :
    ∃ name domain document address, identifier = name ++ "@" ++ domain ∧ '@' ∉ name.toList ∧
      fetchDocument (req.net.lookup domain) (req.net.client domain name) =
        (some address, .ok document) ∧
      isPublicIp address.ip = true ∧ mappedKey document name = some req.auth.pubkey := by
  unfold checkSet at h
  obtain ⟨_, -, h⟩ := bind_eq_ok.1 h
  obtain ⟨_, -, h⟩ := bind_eq_ok.1 h
  cases hbody : req.body with
  | none => rw [hbody] at h; cases h
  | some body =>
      rw [hbody] at h
      obtain ⟨⟨identifier', name, domain⟩, hcanonical, h⟩ := bind_eq_ok.1 h
      obtain ⟨document, hdocument, h⟩ := bind_eq_ok.1 h
      split_ifs at h with hkey
      obtain rfl := Except.ok.inj h
      obtain ⟨rfl, hat⟩ := canonicalIdentifier_eq_ok hcanonical
      obtain ⟨address, hfetch, hpublic⟩ := fetchDocument_eq_ok hdocument
      exact ⟨name, domain, document, address, rfl, hat, hfetch, hpublic, not_not.1 hkey⟩

/-- What a key holds, one of its sets has claimed. -/
theorem exists_set_of_held (env : Env) (ops : List Op) {key : Pubkey} {row : StoredIdentity}
    (h : Lease.held (run (step env) Table.empty ops) key = some row) :
    ∃ req, .set req ∈ ops ∧ req.auth.pubkey = key ∧ checkSet env req = .ok row.identifier := by
  rw [step_funext] at h
  induction ops using List.reverseRecOn generalizing key row with
  | nil => cases h
  | append_singleton ops op ih =>
      rw [run_concat] at h
      generalize hs : run (Lease.step StoredIdentity.identifier StoredIdentity.valid_until
        (Op.lease env)) Table.empty ops = users at h ih
      have hbefore : Lease.held users key = some row → ∃ req, .set req ∈ ops ++ [op] ∧
          req.auth.pubkey = key ∧ checkSet env req = .ok row.identifier := by
        intro hheld
        obtain ⟨req, hreq, hkey, hcheck⟩ := ih hheld
        exact ⟨req, List.mem_append_left _ hreq, hkey, hcheck⟩
      rcases Lease.step_cases StoredIdentity.identifier StoredIdentity.valid_until (Op.lease env)
        users op with ⟨-, heq⟩ | ⟨o, ho, happly⟩
      · rw [heq] at h
        exact hbefore h
      · by_cases hkey : key = o.key
        · obtain ⟨req, identifier, rfl, hcheck, rfl⟩ | ⟨key', fate, rfl, rfl⟩ := Op.lease_cases ho
          · rw [hkey, Lease.Op.key, Lease.held_claim_self happly] at h
            obtain rfl := Option.some.inj h
            exact ⟨req, List.mem_concat_self, hkey.symm, hcheck⟩
          · change key = key' at hkey
            rw [← Option.some.inj happly, Lease.held_release, if_pos hkey] at h
            cases h
        · exact hbefore (Lease.held_of_apply happly hkey h)

/-- **A domain has said so.**  Whatever was requested, an identifier that a key is answered, verified
or not, is a name at a domain in one way, and a request of the key has set it that passed its checks
with this identifier: the document of that domain, fetched from an address that `is_public_ip` lets
through, said that the name is the key's. -/
theorem identifier_vouched (env : Env) (ops : List Op) {key : Pubkey} {now : Timestamp}
    {status : Nip05Status}
    (h : currentIdentity key now (run (step env) Table.empty ops) = some status) :
    ∃ req name domain document address, .set req ∈ ops ∧ req.auth.pubkey = key ∧
      checkSet env req = .ok status.identifier ∧
      fetchDocument (req.net.lookup domain) (req.net.client domain name) =
        (some address, .ok document) ∧
      isPublicIp address.ip = true ∧ mappedKey document name = some key ∧
      ∀ name' domain', status.identifier = name' ++ "@" ++ domain' ∧ '@' ∉ name'.toList ↔
        name' = name ∧ domain' = domain := by
  obtain ⟨row, hheld, rfl⟩ := Option.map_eq_some_iff.1 h
  obtain ⟨req, hreq, rfl, hcheck⟩ := exists_set_of_held env ops hheld
  obtain ⟨name, domain, document, address, hidentifier, hat, hfetch, hpublic, hkey⟩ :=
    checkSet_eq_ok hcheck
  refine ⟨req, name, domain, document, address, hreq, rfl, hcheck, hfetch, hpublic, hkey,
    fun name' domain' => ?_⟩
  change row.identifier = name' ++ "@" ++ domain' ∧ '@' ∉ name'.toList ↔ _
  rw [hidentifier, String.append_assoc, String.append_assoc]
  constructor
  · rintro ⟨heq, hat'⟩
    obtain ⟨rfl, rfl⟩ := (field_inj (c := '@') hat hat').1 heq
    exact ⟨rfl, rfl⟩
  · rintro ⟨rfl, rfl⟩
    exact ⟨rfl, hat⟩

/-- The identifier of the run above was set by the request whose answer was lost. -/
theorem identifier_vouched_demo :
    ∃ req address, .set req ∈ demoOps ∧ req.auth.pubkey = "a" ∧
      checkSet demoEnv req = .ok "alice@example.com" ∧ isPublicIp address = true := by
  have hstatus : currentIdentity "a" 5 (run (step demoEnv) Table.empty demoOps) =
      some ((verifiedRow "alice@example.com" 0).status 5) := by
    decide +kernel
  obtain ⟨req, -, -, -, address, hreq, hkey, hcheck, -, hpublic, -⟩ :=
    identifier_vouched demoEnv demoOps hstatus
  exact ⟨req, address.ip, hreq, hkey, hcheck, hpublic⟩

end Nip05
end Routes
end SentinelMesh
