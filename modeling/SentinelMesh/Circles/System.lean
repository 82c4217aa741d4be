/-
# Circles under concurrent requests

The circle routes as a system.  Handlers that lock the row of their circle take
effect where they commit, one after the other; `set_encryption` and
`push_envelope` read before they write, and between the two anything may happen:
what they carry over is part of the state.  A run over a list of actions is an
interleaving, and every interleaving is one.

`Change` lists the ways an action can change the tables, and `change_step` says
that there are no others.  `Uuid::new_v4` is taken not to repeat: an action that
would draw a used id is refused.
-/

import SentinelMesh.Circles.Envelopes
import SentinelMesh.Lib.Run

namespace SentinelMesh
namespace Circles

open Lib

/-- What the handlers broadcast on the hub of a circle. -/
inductive CircleMessage
  | epochChanged (key_epoch : ℤ) (rekey_required : Bool)
  | memberRemoved (key_epoch : ℤ) (token : Token)
  | locationEnvelope (blob : Blob)
  deriving DecidableEq

/-- `state.circle_hub.broadcast(circle_id, msg)`. -/
abbrev Broadcast := Uuid × CircleMessage

/-- The state: the clock, the tables, the circle ids drawn so far, and the requests
that have read and not yet written. -/
structure Sys where
  now : Timestamp
  db : Db
  minted : List Uuid
  encryptions : List (Uuid × SetEncryptionBody)
  pushes : List Envelope

/-- A gateway without circles. -/
def Sys.init (now : Timestamp) : Sys :=
  { now, db := {}, minted := [], encryptions := [], pushes := [] }

/-- What can happen.  `checkedAgo` and `beganAgo` say how long before its commit a
handler looked at the clock and began its transaction. -/
inductive Act
  | tick (d : ℕ)
  | createCircle (id : Uuid) (req : Request CreateCircleBody)
  | addMember (id : Uuid) (req : Request AddMemberBody) (checkedAgo beganAgo : ℕ)
  | acceptMember (id : Uuid) (auth : NostrAuth) (beganAgo : ℕ)
  | commitEpoch (id : Uuid) (req : Request CommitEpochBody) (checkedAgo : ℕ)
  | removeMember (id : Uuid) (member_pubkey : Pubkey) (auth : NostrAuth)
  | setEncryption (id : Uuid) (req : Request SetEncryptionBody)
  | writeEncryption (i : ℕ)
  | deleteCircle (id : Uuid) (auth : NostrAuth)
  | pushEnvelope (id : Uuid) (len : ℕ) (req : Request PushEnvelopeBody) (enabled : Bool)
      (redis : Option Bool) (checkedAgo : ℕ)
  | writeEnvelope (i : ℕ)
  | retain
  deriving DecidableEq

/-- A transaction of a handler, and what it broadcasts. -/
def Sys.transact {α : Type} (s : Sys) (t : Txn Db AppError α) (out : α → List Broadcast) :
    Sys × Except AppError (List Broadcast) :=
  ({ s with db := (t.commit s.db).1 }, (t.commit s.db).2.map out)

/-- An action and its response, with what the handler then broadcasts. -/
def exec (env : Env) (s : Sys) : Act → Sys × Except AppError (List Broadcast)
  | .tick d => ({ s with now := s.now + d }, .ok [])
  | .createCircle id req =>
    if id ∈ s.minted then (s, .error (.internal "uuid drawn twice"))
    else { s with minted := id :: s.minted }.transact (createCircle env s.now id req) fun _ => []
  | .addMember id req checkedAgo beganAgo =>
    s.transact (addMember env (s.now - checkedAgo) (s.now - beganAgo) id req) fun _ => []
  | .acceptMember id auth beganAgo =>
    s.transact (acceptMember env (s.now - beganAgo) id auth) fun _ => []
  | .commitEpoch id req checkedAgo =>
    s.transact (commitEpoch env (s.now - checkedAgo) id req)
      fun epoch => [(id, .epochChanged epoch false)]
  | .removeMember id member_pubkey auth =>
    s.transact (removeMember env id member_pubkey auth) fun epoch =>
      [(id, .memberRemoved epoch (env.circleToken id member_pubkey)), (id, .epochChanged epoch true)]
  | .setEncryption id req => match setEncryption env s.db id req with
    | .ok body => ({ s with encryptions := s.encryptions ++ [(id, body)] }, .ok [])
    | .error e => (s, .error e)
  | .writeEncryption i => match s.encryptions[i]? with
    | some (id, body) =>
      { s with encryptions := s.encryptions.eraseIdx i }.transact (writeEncryption id body) fun _ => []
    | none => (s, .error (.internal "no such request"))
  | .deleteCircle id auth => s.transact (deleteCircle env id auth) fun _ => []
  | .pushEnvelope id len req enabled redis checkedAgo =>
    match pushEnvelope env enabled (s.now - checkedAgo) redis s.db id len req with
    | .ok e => ({ s with pushes := s.pushes ++ [e] }, .ok [])
    | .error e => (s, .error e)
  | .writeEnvelope i => match s.pushes[i]? with
    | some e =>
      { s with pushes := s.pushes.eraseIdx i }.transact (writeEnvelope e)
        fun blob => [(e.circle_id, .locationEnvelope blob)]
    | none => (s, .error (.internal "no such request"))
  | .retain => ({ s with db := s.db.expire s.now }, .ok [])

/-- The state after an action. -/
def step (env : Env) (s : Sys) (a : Act) : Sys := (exec env s a).1

/-- The action is answered with success. -/
def Succeeds (env : Env) (s : Sys) (a : Act) : Prop := ∃ out, (exec env s a).2 = .ok out

instance (env : Env) (s : Sys) (a : Act) : Decidable (Succeeds env s a) :=
  match h : (exec env s a).2 with
  | .ok out => .isTrue ⟨out, h⟩
  | .error _ => .isFalse fun ⟨_, h'⟩ => by rw [h] at h'; cases h'

/-- **What an action that succeeds does to the tables.** -/
inductive Change (env : Env) (s : Sys) : Act → Db → Prop
  | tick (d : ℕ) : Change env s (.tick d) s.db
  | found (id : Uuid) (req : Request CreateCircleBody) (body : CreateCircleBody)
      (unused : id ∉ s.minted) (free : s.db.circles.find? id = none) :
      Change env s (.createCircle id req) (s.db.found id (newCircle env s.now id req.auth body))
  | invite (id : Uuid) (req : Request AddMemberBody) (checkedAgo beganAgo : ℕ)
      (body : AddMemberBody) (circle : Circle)
      (ok : Invites env s.db id req body circle) :
      Change env s (.addMember id req checkedAgo beganAgo)
        (s.db.invite (s.now - beganAgo) id
          (env.circleToken id (toAsciiLowercase body.member_pubkey)) body)
  | accept (id : Uuid) (auth : NostrAuth) (beganAgo : ℕ) (circle : Circle) (member : Member)
      (ok : Accepts s.db id (env.circleToken id auth.pubkey) circle member) :
      Change env s (.acceptMember id auth beganAgo)
        (s.db.activate (s.now - beganAgo) id (env.circleToken id auth.pubkey))
  | rotate (id : Uuid) (req : Request CommitEpochBody) (checkedAgo : ℕ) (body : CommitEpochBody)
      (circle : Circle) (ok : Rotates env s.db id req body circle) :
      Change env s (.commitEpoch id req checkedAgo) (s.db.rotate id body)
  | remove (id : Uuid) (member_pubkey : Pubkey) (auth : NostrAuth) (circle : Circle)
      (member : Member) (ok : Removes env s.db id member_pubkey auth circle member) :
      Change env s (.removeMember id member_pubkey auth)
        (s.db.leave id (env.circleToken id member_pubkey))
  | check (id : Uuid) (req : Request SetEncryptionBody) : Change env s (.setEncryption id req) s.db
  | relabel (i : ℕ) (id : Uuid) (body : SetEncryptionBody) :
      Change env s (.writeEncryption i) (s.db.relabel id body)
  | drop (id : Uuid) (auth : NostrAuth) : Change env s (.deleteCircle id auth) (s.db.drop id)
  | read (id : Uuid) (len : ℕ) (req : Request PushEnvelopeBody) (enabled : Bool)
      (redis : Option Bool) (checkedAgo : ℕ) (e : Envelope) (circle : Circle)
      (ok : Publishes env s.db id req e circle) :
      Change env s (.pushEnvelope id len req enabled redis checkedAgo) s.db
  | publish (i : ℕ) (e : Envelope) (pending : s.pushes[i]? = some e)
      (circle_exists : (s.db.circles.find? e.circle_id).isSome = true) :
      Change env s (.writeEnvelope i) (s.db.publish e)
  | expire : Change env s .retain (s.db.expire s.now)

theorem transact_of_error {α : Type} {s : Sys} {t : Txn Db AppError α} {out : α → List Broadcast}
    {e : AppError} (h : (s.transact t out).2 = .error e) : (s.transact t out).1.db = s.db := by
  have h : (t.commit s.db).2.map out = .error e := h
  cases hres : (t.commit s.db).2 with
  | error e' => exact Txn.commit_of_error hres
  | ok a =>
      rw [hres] at h
      cases h

theorem transact_of_ok {α : Type} {s : Sys} {t : Txn Db AppError α} {out : α → List Broadcast}
    {bs : List Broadcast} (h : (s.transact t out).2 = .ok bs) :
    ∃ a, t.run s.db = .ok (a, (s.transact t out).1.db) ∧ out a = bs := by
  have h : (t.commit s.db).2.map out = .ok bs := h
  cases hres : (t.commit s.db).2 with
  | error e =>
      rw [hres] at h
      cases h
  | ok a =>
      rw [hres] at h
      exact ⟨a, Txn.commit_eq_ok_iff.1 (Prod.ext rfl hres), Except.ok.inj h⟩

theorem transact_of_run {α : Type} (s : Sys) {t : Txn Db AppError α} (out : α → List Broadcast)
    {db' : Db} {a : α} (h : t.run s.db = .ok (a, db')) :
    s.transact t out = ({ s with db := db' }, .ok (out a)) := by
  unfold Sys.transact
  rw [Txn.commit_eq_ok_iff.2 h]
  rfl

/-- **A request that is refused changes no table.** -/
theorem db_of_refused {env : Env} {s : Sys} {a : Act} {e : AppError}
    (h : (exec env s a).2 = .error e) : (step env s a).db = s.db := by
  unfold step
  cases a with
  | tick d => cases h
  | createCircle id req =>
      unfold exec at h ⊢
      dsimp only at h ⊢
      split at h
      · rename_i hid
        rw [if_pos hid]
      · rename_i hid
        rw [if_neg hid]
        exact transact_of_error h
  | addMember id req c b => exact transact_of_error h
  | acceptMember id auth b => exact transact_of_error h
  | commitEpoch id req c => exact transact_of_error h
  | removeMember id m auth => exact transact_of_error h
  | setEncryption id req =>
      unfold exec at h ⊢
      dsimp only at h ⊢
      split at h
      · cases h
      · rfl
  | writeEncryption i =>
      unfold exec at h ⊢
      dsimp only at h ⊢
      split at h
      · exact transact_of_error h
      · rfl
  | deleteCircle id auth => exact transact_of_error h
  | pushEnvelope id len req enabled redis c =>
      unfold exec at h ⊢
      dsimp only at h ⊢
      split at h
      · cases h
      · rfl
  | writeEnvelope i =>
      unfold exec at h ⊢
      dsimp only at h ⊢
      split at h
      · exact transact_of_error h
      · rfl
  | retain => cases h

section

variable {env : Env} {s : Sys} {out : List Broadcast}

/-- A circle that is created has an id that was not drawn before. -/
theorem change_createCircle {id : Uuid} {req : Request CreateCircleBody}
    (h : (exec env s (.createCircle id req)).2 = .ok out) :
    Change env s (.createCircle id req) (exec env s (.createCircle id req)).1.db := by
  unfold exec at h ⊢
  dsimp only at h ⊢
  split at h
  · cases h
  · rename_i hid
    rw [if_neg hid]
    obtain ⟨c, hrun, _⟩ := transact_of_ok h
    obtain ⟨body, _, hfree, rfl, hdb⟩ := run_createCircle_eq_ok hrun
    rw [hdb]
    exact .found id req body hid hfree

/-- A request for another encryption is written as it was checked. -/
theorem change_writeEncryption {i : ℕ}
    (h : (exec env s (.writeEncryption i)).2 = .ok out) :
    Change env s (.writeEncryption i) (exec env s (.writeEncryption i)).1.db := by
  unfold exec at h ⊢
  dsimp only at h ⊢
  split at h
  · rename_i id body _
    obtain ⟨_, hrun, _⟩ := transact_of_ok h
    rw [run_writeEncryption_eq_ok hrun]
    exact .relabel i id body
  · cases h

/-- An envelope is written as it was checked, while its circle is there. -/
theorem change_writeEnvelope {i : ℕ}
    (h : (exec env s (.writeEnvelope i)).2 = .ok out) :
    Change env s (.writeEnvelope i) (exec env s (.writeEnvelope i)).1.db := by
  unfold exec at h ⊢
  dsimp only at h ⊢
  split at h
  · rename_i e hpending
    obtain ⟨_, hrun, _⟩ := transact_of_ok h
    obtain ⟨hcircle, hdb⟩ := run_writeEnvelope_eq_ok hrun
    rw [hdb]
    exact .publish i e hpending hcircle
  · cases h

end

/-- **Nothing else happens to the tables.** -/
theorem change_step {env : Env} {s : Sys} {a : Act} (h : Succeeds env s a) :
    Change env s a (step env s a).db := by
  obtain ⟨out, h⟩ := h
  unfold step
  cases a with
  | tick d => exact .tick d
  | createCircle id req => exact change_createCircle h
  | addMember id req c b =>
      obtain ⟨_, hrun, _⟩ := transact_of_ok h
      obtain ⟨body, circle, hok, hdb⟩ := run_addMember_eq_ok hrun
      unfold exec
      rw [hdb]
      exact .invite id req c b body circle hok
  | acceptMember id auth b =>
      obtain ⟨_, hrun, _⟩ := transact_of_ok h
      obtain ⟨circle, member, hok, hdb⟩ := run_acceptMember_eq_ok hrun
      unfold exec
      rw [hdb]
      exact .accept id auth b circle member hok
  | commitEpoch id req c =>
      obtain ⟨_, hrun, _⟩ := transact_of_ok h
      obtain ⟨body, circle, hok, _, hdb⟩ := run_commitEpoch_eq_ok hrun
      unfold exec
      rw [hdb]
      exact .rotate id req c body circle hok
  | removeMember id m auth =>
      obtain ⟨_, hrun, _⟩ := transact_of_ok h
      obtain ⟨circle, member, hok, _, hdb⟩ := run_removeMember_eq_ok hrun
      unfold exec
      rw [hdb]
      exact .remove id m auth circle member hok
  | setEncryption id req =>
      unfold exec at h ⊢
      dsimp only at h ⊢
      split at h
      · exact .check id req
      · cases h
  | writeEncryption i => exact change_writeEncryption h
  | deleteCircle id auth =>
      obtain ⟨_, hrun, _⟩ := transact_of_ok h
      unfold exec
      rw [run_deleteCircle_eq_ok hrun]
      exact .drop id auth
  | pushEnvelope id len req enabled redis c =>
      unfold exec at h ⊢
      dsimp only at h ⊢
      split at h
      · rename_i e he
        obtain ⟨circle, hok⟩ := pushEnvelope_eq_ok he
        exact .read id len req enabled redis c e circle hok
      · cases h
  | writeEnvelope i => exact change_writeEnvelope h
  | retain => exact .expire

/-- An action is refused and changes no table, or succeeds and makes its change. -/
theorem refused_or_change (env : Env) (s : Sys) (a : Act) :
    (¬ Succeeds env s a ∧ (step env s a).db = s.db) ∨
      (Succeeds env s a ∧ Change env s a (step env s a).db) := by
  cases h : (exec env s a).2 with
  | error e =>
      refine Or.inl ⟨?_, db_of_refused h⟩
      rintro ⟨out, h'⟩
      rw [h] at h'
      cases h'
  | ok out =>
      have hs : Succeeds env s a := ⟨out, h⟩
      exact Or.inr ⟨hs, change_step hs⟩

/-! ### A circle to run

One circle `c` of one owner, who invites one member.  Tokens are the circle and
the key in clear, so they are injective; signatures are the ones of 128 zeros. -/

/-- The owner's key. -/
def demoOwner : Pubkey := digits 64 'a'

/-- The member's key. -/
def demoMember : Pubkey := digits 64 'b'

/-- The dependencies; base64 and SHA-256 are those of the single byte `1`. -/
def demoEnv : Env where
  circleToken id pk := "v1:" ++ id ++ pk
  verify e := decide (e.sig = digits 128 '0')
  sha256 _ := "4bf5122f344554c53bde2ebb8cd2b7e3d1600ad631c385a5d7cce23c7785459a"
  encode b := if b = [1] then "AQ==" else ""
  decode s := if s = "AQ==" then some [1] else none

/-- The token of a key in the circle. -/
def demoToken (pk : Pubkey) : Token := demoEnv.circleToken "c" pk

/-- A key, authenticated. -/
def demoAuth (pk : Pubkey) : NostrAuth := { pubkey := pk, payload := some "d" }

/-- A well-formed request. -/
def demoRequest {β : Type} (pk : Pubkey) (body : β) : Request β :=
  { auth := demoAuth pk, bodyHash := "d", body := some body }

/-- The owner's wrap of the key of an epoch for the member. -/
def demoWrap (epoch : ℤ) : RawEvent :=
  { id := digits 64 '0', pubkey := demoOwner, created_at := 0, kind := 30079,
    tags := [["d", circleKeyEventTypeV2], ["circle", "c"], ["epoch", toString epoch],
      ["p", demoMember]], content := "k", sig := digits 128 '0' }

/-- The wrap, parsed. -/
def demoEvent (epoch : ℤ) : NostrEvent :=
  { id := digits 64 '0', pubkey := demoOwner, created_at := 0, kind := 30079,
    tags := (demoWrap epoch).tags, content := "k", sig := digits 128 '0' }

/-- The invitation of the member. -/
def demoInvitation : AddMemberBody :=
  { member_pubkey := demoMember, member_label_ciphertext := "l", alert_radius_km := none,
    alert_severity := none, key_wrap_epoch := 1, key_wrap_event := demoWrap 1 }

/-- The same, for the key of an epoch. -/
def demoInvitationAt (epoch : ℤ) : AddMemberBody :=
  { demoInvitation with key_wrap_epoch := epoch, key_wrap_event := demoWrap epoch }

/-- The circle as created. -/
def demoCircle : Circle := newCircle demoEnv 0 "c" (demoAuth demoOwner) ⟨"n"⟩

/-- The tables with the circle. -/
def demoDb : Db := Db.found {} "c" demoCircle

/-- The tables with the invitation. -/
def demoInvitedDb : Db := demoDb.invite 0 "c" (demoToken demoMember) demoInvitation

/-- The tables with the member. -/
def demoJoinedDb : Db := demoInvitedDb.activate 0 "c" (demoToken demoMember)

/-- The circle is created and the member joins it. -/
def demoJoin : List Act :=
  [.createCircle "c" (demoRequest demoOwner ⟨"n"⟩),
    .addMember "c" (demoRequest demoOwner demoInvitation) 0 0,
    .acceptMember "c" (demoAuth demoMember) 0]

/-- The state the member has joined in. -/
def demoJoined : Sys := { Sys.init 0 with db := demoJoinedDb, minted := ["c"] }

/-- The owner commits an epoch without members. -/
def demoCommit (revision epoch : ℤ) : Act :=
  .commitEpoch "c" (demoRequest demoOwner
    { expected_revision := revision, next_epoch := epoch, name_ciphertext := "n" }) 0

/-- A push of an envelope of an epoch, up to its write. -/
def demoPush (pk : Pubkey) (epoch : ℤ) : Act :=
  .pushEnvelope "c" 128 (demoRequest pk
    { version := 1, key_epoch := epoch, ciphertext := "AQ==", expires_at := 60000000 })
    true (some true) 0

theorem isHex_demoMember : isHex 64 demoMember = true := isHex_digits (by decide) (by decide) 64

theorem toAsciiLowercase_demoMember : toAsciiLowercase demoMember = demoMember :=
  toAsciiLowercase_digits (by decide) 64

theorem demoMember_ne_demoOwner : demoMember ≠ demoOwner := digits_ne (by decide) 63

theorem demoToken_injective (id : Uuid) : Function.Injective (demoEnv.circleToken id) := by
  intro a b h
  have h := congrArg String.toList h
  exact String.toList_inj.1 (by simpa [demoEnv] using h)

theorem parse_demoWrap (epoch : ℤ) : (demoWrap epoch).parse = some (demoEvent epoch) := by
  have hid : isHex 64 (demoWrap epoch).id = true := isHex_digits (by decide) (by decide) 64
  have howner : isHex 64 (demoWrap epoch).pubkey = true := isHex_digits (by decide) (by decide) 64
  have hsig : isHex 128 (demoWrap epoch).sig = true := isHex_digits (by decide) (by decide) 128
  have htime : (demoWrap epoch).created_at < 2 ^ 64 := Nat.two_pow_pos 64
  have hkind : (demoWrap epoch).kind < 2 ^ 16 := by
    show 30079 < 2 ^ 16
    decide
  have hid' : toAsciiLowercase (demoWrap epoch).id = digits 64 '0' :=
    toAsciiLowercase_digits (by decide) 64
  have howner' : toAsciiLowercase (demoWrap epoch).pubkey = demoOwner :=
    toAsciiLowercase_digits (by decide) 64
  have hsig' : toAsciiLowercase (demoWrap epoch).sig = digits 128 '0' :=
    toAsciiLowercase_digits (by decide) 128
  unfold RawEvent.parse
  rw [hid, howner, hsig, hid', howner', hsig', decide_eq_true htime, decide_eq_true hkind]
  rfl

theorem isWrap_demoEvent (epoch : ℤ) :
    IsWrap demoEnv.verify demoOwner "c" epoch demoMember (demoEvent epoch) where
  verified := by simp [demoEnv, demoEvent]
  signer := rfl
  kind := rfl
  purpose := rfl
  circle := rfl
  epoch := rfl
  recipient := ⟨demoMember, rfl, toAsciiLowercase_demoMember⟩

theorem validate_demoWrap (epoch : ℤ) :
    validateKeyWrapV2 demoEnv.verify 0 demoOwner "c" epoch (demoWrap epoch) = .ok demoMember := by
  have hlower := toAsciiLowercase_demoMember
  have hfresh : absI64 (wrap 64 (seconds 0 - wrap 64 (demoEvent epoch).created_at)) ≤
      keyWrapFreshnessSecs := by
    show absI64 (wrap 64 (seconds 0 - wrap 64 (0 : ℕ))) ≤ 60
    decide
  have hcontent : (demoEvent epoch).content ≠ "" ∧
      (demoEvent epoch).content.utf8ByteSize ≤ maxKeyWrapContentLen := by
    show "k" ≠ "" ∧ "k".utf8ByteSize ≤ 4096
    decide
  have h := validateKeyWrapV2_of (p := demoMember) (parse_demoWrap epoch)
    (hlower.symm ▸ isWrap_demoEvent epoch) rfl (hlower.symm ▸ isHex_demoMember) hfresh hcontent
  rwa [hlower] at h

theorem parse_demoRequest {β : Type} (pk : Pubkey) (body : β) :
    (demoRequest pk body).parse = .ok body := by
  have hbound : verifyPayloadBinding (demoAuth pk) "d" = .ok () := by
    unfold verifyPayloadBinding demoAuth eqIgnoreAsciiCase
    simp
  unfold Request.parse
  exact bind_eq_ok.2 ⟨(), hbound, rfl⟩

/-- The owner may invite the member to the circle at its epoch, with any wrap for it. -/
theorem run_invitation {body : AddMemberBody} {db db' : Db} {c : Circle}
    (hmember : body.member_pubkey = demoMember)
    (hc : db.circles.find? "c" = some c)
    (howner : c.owner_token = demoToken demoOwner) (hepoch : body.key_wrap_epoch = c.key_epoch)
    (hwrap : validateKeyWrapV2 demoEnv.verify 0 demoOwner "c" c.key_epoch body.key_wrap_event =
      .ok demoMember)
    (hroom : db.memberCount "c" < maxCircleMembers)
    (hupdate : (updateCircle "c" Circle.bump).run
      (db.upsertMember 0 "c" (demoToken demoMember) body) = .ok ((), db')) :
    (addMember demoEnv 0 0 "c" (demoRequest demoOwner body)).run db = .ok ((), db') := by
  have hlower : toAsciiLowercase body.member_pubkey = demoMember := by
    rw [hmember, toAsciiLowercase_demoMember]
  unfold addMember
  simp only [Txn.run_bind_eq_ok, Txn.run_get_eq_ok, Txn.run_require_eq_ok, Txn.run_ofExcept_eq_ok,
    Txn.run_fetch_eq_ok, Txn.run_modify_eq_ok, decide_eq_true_eq]
  refine ⟨body, db, ⟨parse_demoRequest _ _, rfl⟩, (), db, ⟨?_, rfl⟩, (), db, ⟨?_, rfl⟩, db, db,
    ⟨rfl, rfl⟩, c, db, ⟨hc, rfl⟩, (), db, ⟨decide_eq_true howner, rfl⟩, (), db, ⟨hepoch, rfl⟩,
    demoMember, db, ⟨hwrap, rfl⟩, (), db, ⟨hlower.symm, rfl⟩, (), db, ⟨hroom, rfl⟩, (),
    db.upsertMember 0 "c" (demoToken demoMember) body, ?_, hupdate⟩
  · rw [hmember]
    exact isHex_demoMember
  · rw [hlower]
    exact demoMember_ne_demoOwner
  · rw [hlower]
    rfl

theorem run_demoInvitation {e : ℤ} {db db' : Db} {c : Circle}
    (hc : db.circles.find? "c" = some c)
    (howner : c.owner_token = demoToken demoOwner) (hepoch : c.key_epoch = e)
    (hroom : db.memberCount "c" < maxCircleMembers)
    (hupdate : (updateCircle "c" Circle.bump).run
      (db.upsertMember 0 "c" (demoToken demoMember) (demoInvitationAt e)) = .ok ((), db')) :
    (addMember demoEnv 0 0 "c" (demoRequest demoOwner (demoInvitationAt e))).run db =
      .ok ((), db') := by
  refine run_invitation rfl hc howner hepoch.symm ?_ hroom hupdate
  rw [hepoch]
  exact validate_demoWrap e

theorem run_demoInvite :
    (addMember demoEnv 0 0 "c" (demoRequest demoOwner demoInvitation)).run demoDb =
      .ok ((), demoInvitedDb) :=
  run_demoInvitation (e := 1) rfl rfl rfl (by decide) rfl

/-- The member may accept an invitation to the circle at its epoch. -/
theorem run_acceptance {body : AddMemberBody} {db db' : Db} {c : Circle}
    (hc : db.circles.find? "c" = some c) (hepoch : body.key_wrap_epoch = c.key_epoch)
    (hrow : db.members.find? ("c", demoToken demoMember) = some (newMember 0 body))
    (hupdate : (updateCircle "c" Circle.bump).run
      { db with
        members := db.members.modify ("c", demoToken demoMember) (Member.accept 0) } =
          .ok ((), db')) :
    (acceptMember demoEnv 0 "c" (demoAuth demoMember)).run db = .ok ((), db') := by
  have hcurrent : (newMember 0 body).key_wrap_epoch = some c.key_epoch := congrArg some hepoch
  unfold acceptMember
  simp only [Txn.run_bind_eq_ok, Txn.run_get_eq_ok, Txn.run_require_eq_ok,
    Txn.run_fetch_eq_ok, Txn.run_modify_eq_ok, decide_eq_true_eq]
  exact ⟨_, _, ⟨rfl, rfl⟩, c, _, ⟨hc, rfl⟩, _, _, ⟨hrow, rfl⟩, (), _, ⟨rfl, rfl⟩, (),
    _, ⟨hcurrent, rfl⟩, (), _, rfl, hupdate⟩

theorem run_demoAcceptance {e : ℤ} {db db' : Db} {c : Circle}
    (hc : db.circles.find? "c" = some c) (hepoch : c.key_epoch = e)
    (hrow : db.members.find? ("c", demoToken demoMember) =
      some (newMember 0 (demoInvitationAt e)))
    (hupdate : (updateCircle "c" Circle.bump).run
      { db with
        members := db.members.modify ("c", demoToken demoMember) (Member.accept 0) } =
          .ok ((), db')) :
    (acceptMember demoEnv 0 "c" (demoAuth demoMember)).run db = .ok ((), db') :=
  run_acceptance hc hepoch.symm hrow hupdate

theorem run_demoAccept :
    (acceptMember demoEnv 0 "c" (demoAuth demoMember)).run demoInvitedDb = .ok ((), demoJoinedDb) :=
  run_demoAcceptance (e := 1) (c := demoCircle.bump) rfl rfl
    (Table.find?_eq_some_iff.2 (List.mem_singleton.2 rfl)) rfl

/-- The state with given tables once the id `c` is drawn. -/
def demoSys (db : Db) : Sys := { Sys.init 0 with db, minted := ["c"] }

theorem exec_demoCreate : exec demoEnv (Sys.init 0)
    (.createCircle "c" (demoRequest demoOwner ⟨"n"⟩)) = (demoSys demoDb, .ok []) := rfl

theorem exec_demoInvite : exec demoEnv (demoSys demoDb)
    (.addMember "c" (demoRequest demoOwner demoInvitation) 0 0) = (demoSys demoInvitedDb, .ok []) :=
  transact_of_run (demoSys demoDb) (fun _ => []) run_demoInvite

theorem exec_demoAccept : exec demoEnv (demoSys demoInvitedDb)
    (.acceptMember "c" (demoAuth demoMember) 0) = (demoJoined, .ok []) :=
  transact_of_run (demoSys demoInvitedDb) (fun _ => []) run_demoAccept

theorem run_demoJoin : run (step demoEnv) (Sys.init 0) demoJoin = demoJoined := by
  have hcreate : step demoEnv (Sys.init 0) (.createCircle "c" (demoRequest demoOwner ⟨"n"⟩)) =
      demoSys demoDb := congrArg Prod.fst exec_demoCreate
  have hinvite : step demoEnv (demoSys demoDb)
      (.addMember "c" (demoRequest demoOwner demoInvitation) 0 0) = demoSys demoInvitedDb :=
    congrArg Prod.fst exec_demoInvite
  have haccept : step demoEnv (demoSys demoInvitedDb)
      (.acceptMember "c" (demoAuth demoMember) 0) = demoJoined :=
    congrArg Prod.fst exec_demoAccept
  unfold demoJoin
  rw [run_cons, run_cons, run_cons, run_nil, hcreate, hinvite, haccept]

theorem exec_demoRemove : exec demoEnv demoJoined (.removeMember "c" demoMember (demoAuth demoOwner)) =
    (demoSys (demoJoinedDb.leave "c" (demoToken demoMember)),
      .ok [("c", .memberRemoved 1 (demoToken demoMember)), ("c", .epochChanged 1 true)]) := by
  have hrun : (removeMember demoEnv "c" demoMember (demoAuth demoOwner)).run demoJoinedDb =
      .ok (1, demoJoinedDb.leave "c" (demoToken demoMember)) := by
    decide
  exact transact_of_run demoJoined _ hrun

end Circles
end SentinelMesh
