/-
# Family circles: membership and key epochs

The handlers of `routes/circles.rs` that write: `create_circle`, `add_member`,
`accept_member`, `commit_epoch`, `remove_member`, `set_encryption` and
`delete_circle`.

A handler reads the request (`Request.parse`), locks the row of its circle and
runs its statements; it is a transaction that fails with the response it sends.
`set_encryption` alone checks its caller before its transaction begins and is two
functions.  For each handler a function on the tables says what it writes when
it succeeds (`Db.invite`, `Db.activate`, `Db.rotate`, `Db.leave`, `Db.relabel`,
`Db.drop`), and a lemma `run_…_eq_ok` says when it does.

The tokens of a commit are compared with the active ones in the order of their
characters on both sides; tokens are a fixed prefix and lower case hex, on which
the collation of the database and the order of Rust agree.
-/

import SentinelMesh.Circles.Schema

namespace SentinelMesh
namespace Circles

open Lib

/-! ### Requests -/

/-- `NostrAuth`: the key a request is authenticated as, and the hash of the body
its signature covers. -/
structure NostrAuth where
  pubkey : Pubkey
  payload : Option String := none
  deriving DecidableEq

/-- A request with a body: the SHA-256 of its bytes in hex and what they parse to. -/
structure Request (β : Type) where
  auth : NostrAuth
  bodyHash : String
  body : Option β
  deriving DecidableEq

/-- `verify_payload_binding`. -/
def verifyPayloadBinding (auth : NostrAuth) (bodyHash : String) : Except AppError Unit :=
  ensure (auth.payload.any fun value => eqIgnoreAsciiCase value bodyHash)
    (.badRequest "missing or invalid NIP-98 payload binding")

/-- `verify_payload_binding`, then `serde_json::from_slice`. -/
def Request.parse {β : Type} (req : Request β) : Except AppError β := do
  verifyPayloadBinding req.auth req.bodyHash
  match req.body with
  | none => .error (.badRequest "invalid JSON body")
  | some body => .ok body

/-- `CreateCircleBody`. -/
structure CreateCircleBody where
  name_ciphertext : String
  deriving DecidableEq

/-- `AddMemberBody`. -/
structure AddMemberBody where
  member_pubkey : Pubkey
  member_label_ciphertext : String
  alert_radius_km : Option ℚ
  alert_severity : Option String
  key_wrap_epoch : ℤ
  key_wrap_event : RawEvent
  deriving DecidableEq

/-- `MemberLabel`. -/
structure MemberLabel where
  member_token : Token
  label_ciphertext : String
  deriving DecidableEq

/-- `MemberWrap`. -/
structure MemberWrap where
  member_token : Token
  key_wrap_event : RawEvent
  deriving DecidableEq

/-- `CommitEpochBody`. -/
structure CommitEpochBody where
  expected_revision : ℤ
  next_epoch : ℤ
  name_ciphertext : String
  member_labels : List MemberLabel := []
  member_wraps : List MemberWrap := []
  deriving DecidableEq

/-- `SetEncryptionBody`. -/
structure SetEncryptionBody where
  name_ciphertext : String
  member_labels : List MemberLabel := []
  deriving DecidableEq

/-! ### Statements -/

/-- The `CHECK`s of `circles` on the columns the handlers compute. -/
def Circle.Checked (c : Circle) : Prop := 0 < c.key_epoch ∧ 0 ≤ c.membership_revision

instance (c : Circle) : Decidable c.Checked := inferInstanceAs (Decidable (_ ∧ _))

/-- `UPDATE circles SET .. WHERE id = $1`. -/
def updateCircle (id : Uuid) (f : Circle → Circle) : Txn Db AppError Unit := do
  let db ← get
  Txn.require ((db.circles.find? id).all fun c => decide (InRange 31 (f c).key_epoch ∧
    InRange 31 (f c).membership_revision)) (.internal "integer out of range")
  Txn.require ((db.circles.find? id).all fun c => decide (f c).Checked)
    (.internal "new row for relation \"circles\" violates check constraint")
  modify fun db => { db with circles := db.circles.modify id f }

/-- The change of `membership_revision` by one. -/
def Circle.bump (c : Circle) : Circle := { c with membership_revision := c.membership_revision + 1 }

/-- The change of a circle by a committed epoch. -/
def Circle.rotate (body : CommitEpochBody) (c : Circle) : Circle :=
  { c with
    key_epoch := body.next_epoch
    location_protocol_version := 1
    rekey_required := false
    name_ciphertext := some body.name_ciphertext }

/-- The change of a circle by a departure. -/
def Circle.depart (c : Circle) : Circle := { c.bump with rekey_required := true }

/-- The row of an invitation. -/
def newMember (joined_at : Timestamp) (body : AddMemberBody) : Member :=
  { member_label_ciphertext := some body.member_label_ciphertext
    alert_radius_km := body.alert_radius_km
    alert_severity := body.alert_severity
    membership_state := .pending
    accepted_at := none
    key_wrap_epoch := some body.key_wrap_epoch
    key_wrap_event := some body.key_wrap_event
    joined_at }

/-- `INSERT INTO circle_members .. ON CONFLICT (circle_id, member_token) DO UPDATE`. -/
def Db.upsertMember (db : Db) (now : Timestamp) (id : Uuid) (token : Token) (body : AddMemberBody) :
    Db :=
  { db with members :=
      db.members.upsert (id, token) (newMember now body) fun m => newMember m.joined_at body }

/-- The change of a row by acceptance. -/
def Member.accept (now : Timestamp) (m : Member) : Member :=
  { m with membership_state := .active, accepted_at := some now }

/-- The change of a row by the wrap of an epoch. -/
def Member.rewrap (epoch : ℤ) (wrap : MemberWrap) (m : Member) : Member :=
  { m with key_wrap_epoch := some epoch, key_wrap_event := some wrap.key_wrap_event }

/-- The change of a row by a label. -/
def Member.relabel (label : MemberLabel) (m : Member) : Member :=
  { m with member_label_ciphertext := some label.label_ciphertext }

/-- `UPDATE circle_members SET key_wrap_epoch = .., key_wrap_event = ..`, for each
wrap. -/
def Db.rewrap (db : Db) (id : Uuid) (epoch : ℤ) (wraps : List MemberWrap) : Db :=
  { db with members :=
      db.members.modifyEach wraps (fun w => (id, w.member_token)) (Member.rewrap epoch) }

/-- `UPDATE circle_members SET member_label_ciphertext = ..`, for each label. -/
def Db.labels (db : Db) (id : Uuid) (labels : List MemberLabel) : Db :=
  { db with members := db.members.modifyEach labels (fun l => (id, l.member_token)) Member.relabel }

/-- The caller of a handler as the circle's owner. -/
def owns (env : Env) (id : Uuid) (auth : NostrAuth) (circle : Circle) : Bool :=
  decide (circle.owner_token = env.circleToken id auth.pubkey)

/-! ### Handlers -/

/-- The row of a new circle. -/
def newCircle (env : Env) (now : Timestamp) (id : Uuid) (auth : NostrAuth)
    (body : CreateCircleBody) : Circle :=
  { owner_token := env.circleToken id auth.pubkey
    name_ciphertext := some body.name_ciphertext
    created_at := now }

/-- `create_circle` under the id it draws. -/
def createCircle (env : Env) (now : Timestamp) (id : Uuid) (req : Request CreateCircleBody) :
    Txn Db AppError Circle := do
  let body ← Txn.ofExcept req.parse
  let circle := newCircle env now id req.auth body
  let db ← get
  Txn.require (db.circles.find? id).isNone
    (.internal "duplicate key value violates unique constraint \"circles_pkey\"")
  modify fun db => { db with circles := db.circles.insert id circle }
  pure circle

/-- `add_member`; `now` is when the wrap is validated, `began` when the transaction
begins. -/
def addMember (env : Env) (now began : Timestamp) (id : Uuid) (req : Request AddMemberBody) :
    Txn Db AppError Unit := do
  let body ← Txn.ofExcept req.parse
  Txn.require (isHex 64 body.member_pubkey)
    (.badRequest "member_pubkey must be a 64-character hex Nostr key")
  let member_pubkey := toAsciiLowercase body.member_pubkey
  Txn.require (decide (member_pubkey ≠ req.auth.pubkey))
    (.badRequest "cannot add the circle owner as a member")
  let member_token := env.circleToken id member_pubkey
  let db ← get
  let circle ← Txn.fetch (db.circles.find? id) .notFound
  Txn.require (owns env id req.auth circle) .forbidden
  Txn.require (decide (body.key_wrap_epoch = circle.key_epoch))
    (.badRequest "circle key event is not bound to the current epoch")
  let recipient ← Txn.ofExcept
    (validateKeyWrapV2 env.verify now req.auth.pubkey id circle.key_epoch body.key_wrap_event)
  Txn.require (decide (recipient = member_pubkey))
    (.badRequest "circle key event is not bound to this member")
  Txn.require (decide (db.memberCount id < maxCircleMembers))
    (.badRequest ("circles are limited to " ++ toString maxCircleMembers ++ " members"))
  modify fun db => db.upsertMember began id member_token body
  updateCircle id Circle.bump

/-- `accept_member`. -/
def acceptMember (env : Env) (began : Timestamp) (id : Uuid) (auth : NostrAuth) :
    Txn Db AppError Unit := do
  let my_token := env.circleToken id auth.pubkey
  let db ← get
  let circle ← Txn.fetch (db.circles.find? id) .notFound
  let member ← Txn.fetch (db.members.find? (id, my_token)) .forbidden
  Txn.require (decide (member.membership_state = .pending))
    (.conflict "membership is already active")
  Txn.require (decide (member.key_wrap_epoch = some circle.key_epoch))
    (.conflict "invitation predates the current epoch — ask the owner to re-invite")
  modify fun db => { db with members := db.members.modify (id, my_token) (Member.accept began) }
  updateCircle id Circle.bump

/-- The sorted tokens of a commit, to be compared with the active ones. -/
def sortTokens (tokens : List Token) : List Token := tokens.insertionSort (· ≤ ·)

/-- One turn of the loop of `commit_epoch` over the submitted wraps. -/
def checkWrap (env : Env) (now : Timestamp) (owner : Pubkey) (id : Uuid) (next_epoch : ℤ)
    (wrap : MemberWrap) : Except AppError Unit := do
  let recipient ← validateKeyWrapV2 env.verify now owner id next_epoch wrap.key_wrap_event
  ensure (decide (env.circleToken id recipient = wrap.member_token))
    (.badRequest "circle key event is not bound to its member")

/-- `commit_epoch`; `now` is when the wraps are validated. -/
def commitEpoch (env : Env) (now : Timestamp) (id : Uuid) (req : Request CommitEpochBody) :
    Txn Db AppError ℤ := do
  let body ← Txn.ofExcept req.parse
  let db ← get
  let circle ← Txn.fetch (db.circles.find? id) .notFound
  Txn.require (owns env id req.auth circle) .forbidden
  Txn.require (decide (body.expected_revision = circle.membership_revision))
    (.conflict "circle membership changed since this epoch was prepared")
  Txn.require (decide (body.next_epoch = wrap 32 (circle.key_epoch + 1)))
    (.badRequest "next_epoch must be exactly one greater than the current epoch")
  let active := sortTokens (db.activeTokens id)
  Txn.require (decide (sortTokens (body.member_wraps.map MemberWrap.member_token) = active))
    (.conflict "submitted member set does not match active members")
  Txn.require (decide (sortTokens (body.member_labels.map MemberLabel.member_token) = active))
    (.conflict "submitted labels do not match active members")
  Txn.ofExcept (body.member_wraps.forM
    (checkWrap env now req.auth.pubkey id body.next_epoch))
  updateCircle id (Circle.rotate body)
  modify fun db => db.rewrap id body.next_epoch body.member_wraps
  modify fun db => db.labels id body.member_labels
  modify fun db => { db with blobs := db.blobs.filter fun k _ => decide (k.1 ≠ id) }
  pure body.next_epoch

/-- `remove_member`; the epoch its broadcasts carry. -/
def removeMember (env : Env) (circle_id : Uuid) (member_pubkey : Pubkey) (auth : NostrAuth) :
    Txn Db AppError ℤ := do
  let caller_token := env.circleToken circle_id auth.pubkey
  let target_token := env.circleToken circle_id member_pubkey
  let db ← get
  let circle ← Txn.fetch (db.circles.find? circle_id) .notFound
  Txn.require (decide (circle.owner_token = caller_token ∨ caller_token = target_token)) .forbidden
  Txn.require (db.members.find? (circle_id, target_token)).isSome .notFound
  modify fun db => { db with
    members := db.members.filter fun k _ => decide (k ≠ (circle_id, target_token)) }
  modify fun db => { db with
    blobs := db.blobs.filter fun k _ => decide (k ≠ (circle_id, target_token)) }
  updateCircle circle_id Circle.depart
  pure circle.key_epoch

/-- `set_encryption` up to its transaction. -/
def setEncryption (env : Env) (db : Db) (id : Uuid) (req : Request SetEncryptionBody) :
    Except AppError SetEncryptionBody := do
  let body ← req.parse
  ensure ((db.circles.find? id).any (owns env id req.auth)) .forbidden
  pure body

/-- The transaction of `set_encryption`. -/
def writeEncryption (id : Uuid) (body : SetEncryptionBody) : Txn Db AppError Unit := do
  updateCircle id fun c => { c with name_ciphertext := some body.name_ciphertext, name_version := 1 }
  modify fun db => db.labels id body.member_labels

/-- `delete_circle`; members and envelopes go with the circle. -/
def deleteCircle (env : Env) (id : Uuid) (auth : NostrAuth) : Txn Db AppError Unit := do
  let db ← get
  Txn.require ((db.circles.find? id).any (owns env id auth)) .forbidden
  modify fun db =>
    { circles := db.circles.filter fun k _ => decide (k ≠ id)
      members := db.members.filter fun k _ => decide (k.1 ≠ id)
      blobs := db.blobs.filter fun k _ => decide (k.1 ≠ id) }

/-! ### What a handler that succeeds has checked and written -/

/-- The tables with a new circle. -/
def Db.found (db : Db) (id : Uuid) (circle : Circle) : Db :=
  { db with circles := db.circles.insert id circle }

/-- The tables after an invitation. -/
def Db.invite (db : Db) (now : Timestamp) (id : Uuid) (token : Token) (body : AddMemberBody) : Db :=
  { db.upsertMember now id token body with circles := db.circles.modify id Circle.bump }

/-- The tables after an acceptance. -/
def Db.activate (db : Db) (now : Timestamp) (id : Uuid) (token : Token) : Db :=
  { db with
    circles := db.circles.modify id Circle.bump
    members := db.members.modify (id, token) (Member.accept now) }

/-- The tables after a committed epoch. -/
def Db.rotate (db : Db) (id : Uuid) (body : CommitEpochBody) : Db :=
  { circles := db.circles.modify id (Circle.rotate body)
    members := ((db.rewrap id body.next_epoch body.member_wraps).labels id body.member_labels).members
    blobs := db.blobs.filter fun k _ => decide (k.1 ≠ id) }

/-- The tables after a departure. -/
def Db.leave (db : Db) (id : Uuid) (token : Token) : Db :=
  { circles := db.circles.modify id Circle.depart
    members := db.members.filter fun k _ => decide (k ≠ (id, token))
    blobs := db.blobs.filter fun k _ => decide (k ≠ (id, token)) }

/-- The tables after `set_encryption`. -/
def Db.relabel (db : Db) (id : Uuid) (body : SetEncryptionBody) : Db :=
  { db.labels id body.member_labels with circles := db.circles.modify id fun c =>
      { c with name_ciphertext := some body.name_ciphertext, name_version := 1 } }

/-- The tables without a circle. -/
def Db.drop (db : Db) (id : Uuid) : Db :=
  { circles := db.circles.filter fun k _ => decide (k ≠ id)
    members := db.members.filter fun k _ => decide (k.1 ≠ id)
    blobs := db.blobs.filter fun k _ => decide (k.1 ≠ id) }

/-- What `add_member` has checked. -/
structure Invites (env : Env) (db : Db) (id : Uuid) (req : Request AddMemberBody)
    (body : AddMemberBody) (circle : Circle) : Prop where
  parsed : req.parse = .ok body
  found : db.circles.find? id = some circle
  owner : circle.owner_token = env.circleToken id req.auth.pubkey
  other : toAsciiLowercase body.member_pubkey ≠ req.auth.pubkey
  current : body.key_wrap_epoch = circle.key_epoch
  wrap : ∃ event, body.key_wrap_event.parse = some event ∧ IsWrap env.verify req.auth.pubkey id
    circle.key_epoch (toAsciiLowercase body.member_pubkey) event
  room : db.memberCount id < maxCircleMembers

/-- What `accept_member` has checked. -/
structure Accepts (db : Db) (id : Uuid) (token : Token) (circle : Circle) (member : Member) :
    Prop where
  found : db.circles.find? id = some circle
  invited : db.members.find? (id, token) = some member
  pending : member.membership_state = .pending
  current : member.key_wrap_epoch = some circle.key_epoch

/-- What `commit_epoch` has checked. -/
structure Rotates (env : Env) (db : Db) (id : Uuid) (req : Request CommitEpochBody)
    (body : CommitEpochBody) (circle : Circle) : Prop where
  parsed : req.parse = .ok body
  found : db.circles.find? id = some circle
  owner : circle.owner_token = env.circleToken id req.auth.pubkey
  revision : body.expected_revision = circle.membership_revision
  next : body.next_epoch = wrap 32 (circle.key_epoch + 1)
  positive : 0 < body.next_epoch
  wraps : (body.member_wraps.map MemberWrap.member_token).Perm (db.activeTokens id)
  labels : (body.member_labels.map MemberLabel.member_token).Perm (db.activeTokens id)
  bound : ∀ w ∈ body.member_wraps, ∃ recipient event, w.key_wrap_event.parse = some event ∧
    IsWrap env.verify req.auth.pubkey id body.next_epoch recipient event ∧
    env.circleToken id recipient = w.member_token

/-- What `remove_member` has checked. -/
structure Removes (env : Env) (db : Db) (id : Uuid) (member_pubkey : Pubkey) (auth : NostrAuth)
    (circle : Circle) (member : Member) : Prop where
  found : db.circles.find? id = some circle
  allowed : circle.owner_token = env.circleToken id auth.pubkey ∨
    env.circleToken id auth.pubkey = env.circleToken id member_pubkey
  row : db.members.find? (id, env.circleToken id member_pubkey) = some member

theorem run_updateCircle_eq_ok {id : Uuid} {f : Circle → Circle} {db db' : Db} {u : Unit}
    (h : (updateCircle id f).run db = .ok (u, db')) :
    (∀ c, db.circles.find? id = some c → (f c).Checked) ∧
      db' = { db with circles := db.circles.modify id f } := by
  unfold updateCircle at h
  simp only [Txn.run_bind_eq_ok, Txn.run_get_eq_ok, Txn.run_require_eq_ok,
    Txn.run_modify_eq_ok] at h
  obtain ⟨_, _, ⟨rfl, rfl⟩, _, _, ⟨_, rfl⟩, _, _, ⟨hcheck, rfl⟩, hdb⟩ := h
  refine ⟨fun c hc => ?_, hdb.symm⟩
  rw [hc] at hcheck
  simpa using hcheck

theorem run_createCircle_eq_ok {env : Env} {now : Timestamp} {id : Uuid}
    {req : Request CreateCircleBody} {db db' : Db} {c : Circle}
    (h : (createCircle env now id req).run db = .ok (c, db')) :
    ∃ body, req.parse = .ok body ∧ db.circles.find? id = none ∧
      c = newCircle env now id req.auth body ∧ db' = db.found id c := by
  unfold createCircle at h
  simp only [Txn.run_bind_eq_ok, Txn.run_get_eq_ok, Txn.run_require_eq_ok, Txn.run_ofExcept_eq_ok,
    Txn.run_modify_eq_ok, Txn.run_pure_eq_ok, Option.isNone_iff_eq_none] at h
  obtain ⟨body, _, ⟨hparse, rfl⟩, _, _, ⟨rfl, rfl⟩, _, _, ⟨hnew, rfl⟩, _, _, hdb, rfl, rfl⟩ := h
  exact ⟨body, hparse, hnew, rfl, hdb.symm⟩

/-- **`add_member` writes an invitation it has checked.** -/
theorem run_addMember_eq_ok {env : Env} {now began : Timestamp} {id : Uuid}
    {req : Request AddMemberBody} {db db' : Db} {u : Unit}
    (h : (addMember env now began id req).run db = .ok (u, db')) :
    ∃ body circle, Invites env db id req body circle ∧
      db' = db.invite began id (env.circleToken id (toAsciiLowercase body.member_pubkey)) body := by
  unfold addMember at h
  simp only [Txn.run_bind_eq_ok, Txn.run_get_eq_ok, Txn.run_require_eq_ok, Txn.run_ofExcept_eq_ok,
    Txn.run_fetch_eq_ok, Txn.run_modify_eq_ok, decide_eq_true_eq] at h
  obtain ⟨body, _, ⟨hparse, rfl⟩, _, _, ⟨_, rfl⟩, _, _, ⟨hother, rfl⟩, _, _, ⟨rfl, rfl⟩, circle, _,
    ⟨hfound, rfl⟩, _, _, ⟨howner, rfl⟩, _, _, ⟨hepoch, rfl⟩, recipient, _, ⟨hwrap, rfl⟩, _, _,
    ⟨rfl, rfl⟩, _, _, ⟨hroom, rfl⟩, _, _, rfl, hbump⟩ := h
  obtain ⟨_, hdb⟩ := run_updateCircle_eq_ok hbump
  exact ⟨body, circle, ⟨hparse, hfound, of_decide_eq_true howner, hother, hepoch,
    validateKeyWrapV2_eq_ok hwrap, hroom⟩, hdb⟩

/-- **`accept_member` activates a current invitation.** -/
theorem run_acceptMember_eq_ok {env : Env} {began : Timestamp} {id : Uuid} {auth : NostrAuth}
    {db db' : Db} {u : Unit} (h : (acceptMember env began id auth).run db = .ok (u, db')) :
    ∃ circle member, Accepts db id (env.circleToken id auth.pubkey) circle member ∧
      db' = db.activate began id (env.circleToken id auth.pubkey) := by
  unfold acceptMember at h
  simp only [Txn.run_bind_eq_ok, Txn.run_get_eq_ok, Txn.run_require_eq_ok,
    Txn.run_fetch_eq_ok, Txn.run_modify_eq_ok, decide_eq_true_eq] at h
  obtain ⟨_, _, ⟨rfl, rfl⟩, circle, _, ⟨hfound, rfl⟩, member, _, ⟨hrow, rfl⟩, _, _, ⟨hpending, rfl⟩,
    _, _, ⟨hcurrent, rfl⟩, _, _, rfl, hbump⟩ := h
  obtain ⟨_, hdb⟩ := run_updateCircle_eq_ok hbump
  exact ⟨circle, member, ⟨hfound, hrow, hpending, hcurrent⟩, hdb⟩

/-- Lists that are equal when sorted have the same elements. -/
theorem perm_of_sortTokens {xs ys : List Token} (h : sortTokens xs = sortTokens ys) :
    xs.Perm ys := by
  have hx : xs.Perm (sortTokens xs) := (List.perm_insertionSort _ xs).symm
  have hy : (sortTokens ys).Perm ys := List.perm_insertionSort _ ys
  rw [h] at hx
  exact hx.trans hy

theorem forM_eq_ok {α : Type} {f : α → Except AppError Unit} {xs : List α} {u : Unit}
    (h : xs.forM f = .ok u) : ∀ x ∈ xs, f x = .ok () := by
  induction xs with
  | nil => simp
  | cons x xs ih =>
      have h : (f x >>= fun _ => xs.forM f) = .ok u := h
      obtain ⟨_, hx, hxs⟩ := bind_eq_ok.1 h
      exact List.forall_mem_cons.2 ⟨hx, ih hxs⟩

theorem checkWrap_eq_ok {env : Env} {now : Timestamp} {owner : Pubkey} {id : Uuid} {epoch : ℤ}
    {w : MemberWrap} (h : checkWrap env now owner id epoch w = .ok ()) :
    ∃ recipient event, w.key_wrap_event.parse = some event ∧
      IsWrap env.verify owner id epoch recipient event ∧
      env.circleToken id recipient = w.member_token := by
  unfold checkWrap at h
  simp only [bind_eq_ok, ensure_eq_ok, decide_eq_true_eq] at h
  obtain ⟨recipient, hwrap, htoken⟩ := h
  obtain ⟨event, hparse, hw⟩ := validateKeyWrapV2_eq_ok hwrap
  exact ⟨recipient, event, hparse, hw, htoken⟩

/-- **`commit_epoch` rotates the key of exactly the active members.** -/
theorem run_commitEpoch_eq_ok {env : Env} {now : Timestamp} {id : Uuid}
    {req : Request CommitEpochBody} {db db' : Db} {epoch : ℤ}
    (h : (commitEpoch env now id req).run db = .ok (epoch, db')) :
    ∃ body circle, Rotates env db id req body circle ∧ epoch = body.next_epoch ∧
      db' = db.rotate id body := by
  unfold commitEpoch at h
  simp only [Txn.run_bind_eq_ok, Txn.run_get_eq_ok, Txn.run_require_eq_ok, Txn.run_ofExcept_eq_ok,
    Txn.run_fetch_eq_ok, Txn.run_modify_eq_ok, Txn.run_pure_eq_ok, decide_eq_true_eq] at h
  obtain ⟨body, _, ⟨hparse, rfl⟩, _, _, ⟨rfl, rfl⟩, circle, _, ⟨hfound, rfl⟩, _, _, ⟨howner, rfl⟩,
    _, _, ⟨hrevision, rfl⟩, _, _, ⟨hnext, rfl⟩, _, _, ⟨hwraps, rfl⟩, _, _, ⟨hlabels, rfl⟩, _, _,
    ⟨hbound, rfl⟩, _, _, hrotate, _, _, rfl, _, _, rfl, _, _, rfl, rfl, rfl⟩ := h
  obtain ⟨hcheck, rfl⟩ := run_updateCircle_eq_ok hrotate
  exact ⟨body, circle, ⟨hparse, hfound, of_decide_eq_true howner, hrevision, hnext,
    (hcheck circle hfound).1, perm_of_sortTokens hwraps, perm_of_sortTokens hlabels,
    fun w hw => checkWrap_eq_ok (forM_eq_ok hbound w hw)⟩, rfl, rfl⟩

/-- A commit that succeeds rotates the key to the epoch of its body. -/
theorem run_commitEpoch_of_isOk {env : Env} {now : Timestamp} {id : Uuid}
    {req : Request CommitEpochBody} {body : CommitEpochBody} {db : Db} (hparse : req.parse = .ok body)
    (hok : ((commitEpoch env now id req).run db).isOk = true) :
    (commitEpoch env now id req).run db = .ok (body.next_epoch, db.rotate id body) := by
  cases hrun : (commitEpoch env now id req).run db with
  | error e =>
      rw [hrun] at hok
      cases hok
  | ok res =>
      obtain ⟨body', _, hrotates, hepoch, hdb⟩ := run_commitEpoch_eq_ok hrun
      obtain rfl := Except.ok.inj (hparse.symm.trans hrotates.parsed)
      exact congrArg Except.ok (Prod.ext hepoch hdb)

/-- **`remove_member` removes a row**, for the owner or the member itself. -/
theorem run_removeMember_eq_ok {env : Env} {id : Uuid} {member_pubkey : Pubkey} {auth : NostrAuth}
    {db db' : Db} {epoch : ℤ}
    (h : (removeMember env id member_pubkey auth).run db = .ok (epoch, db')) :
    ∃ circle member, Removes env db id member_pubkey auth circle member ∧
      epoch = circle.key_epoch ∧ db' = db.leave id (env.circleToken id member_pubkey) := by
  unfold removeMember at h
  simp only [Txn.run_bind_eq_ok, Txn.run_get_eq_ok, Txn.run_require_eq_ok,
    Txn.run_fetch_eq_ok, Txn.run_modify_eq_ok, Txn.run_pure_eq_ok, decide_eq_true_eq,
    Option.isSome_iff_exists] at h
  obtain ⟨_, _, ⟨rfl, rfl⟩, circle, _, ⟨hfound, rfl⟩, _, _, ⟨hallowed, rfl⟩, _, _,
    ⟨⟨member, hrow⟩, rfl⟩, _, _, rfl, _, _, rfl, _, _, hdepart, rfl, rfl⟩ := h
  obtain ⟨_, rfl⟩ := run_updateCircle_eq_ok hdepart
  exact ⟨circle, member, ⟨hfound, hallowed, hrow⟩, rfl, rfl⟩

theorem run_writeEncryption_eq_ok {id : Uuid} {body : SetEncryptionBody} {db db' : Db} {u : Unit}
    (h : (writeEncryption id body).run db = .ok (u, db')) : db' = db.relabel id body := by
  unfold writeEncryption at h
  simp only [Txn.run_bind_eq_ok, Txn.run_modify_eq_ok] at h
  obtain ⟨_, _, hupdate, hlabels⟩ := h
  obtain ⟨_, rfl⟩ := run_updateCircle_eq_ok hupdate
  exact hlabels.symm

theorem run_deleteCircle_eq_ok {env : Env} {id : Uuid} {auth : NostrAuth} {db db' : Db} {u : Unit}
    (h : (deleteCircle env id auth).run db = .ok (u, db')) : db' = db.drop id := by
  unfold deleteCircle at h
  simp only [Txn.run_bind_eq_ok, Txn.run_get_eq_ok, Txn.run_require_eq_ok,
    Txn.run_modify_eq_ok] at h
  obtain ⟨_, _, ⟨rfl, rfl⟩, _, _, ⟨_, rfl⟩, hdb⟩ := h
  exact hdb.symm

end Circles
end SentinelMesh
