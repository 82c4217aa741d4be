/-
# Family circles: location envelopes

`push_envelope` of `routes/location_blobs.rs` and the purge of
`subscribers/retention_worker.rs`.

A push reads the circle and the membership of its sender in one statement and
writes the envelope in another; neither takes a lock on the circle, so a push is
two functions, and what lies between them is the `Envelope` the first returns.

The `CHECK`s of `location_blobs` repeat what `validate_body` and the lengths of
tokens and hashes give, and are left out; its unique index on the hash of the
ciphertext and its reference to `circles` are not.
-/

import SentinelMesh.Circles.Routes

namespace SentinelMesh
namespace Circles

open Lib

/-- `MAX_CIPHERTEXT_BYTES`. -/
def maxCiphertextBytes : ℕ := 16 * 1024

/-- `MAX_BODY_BYTES`. -/
def maxBodyBytes : ℕ := 24 * 1024

/-- `MAX_EXPIRY_SECONDS`, in microseconds. -/
def maxExpiry : ℤ := 5 * 60 * 1000000

/-- `PushEnvelopeBody`. -/
structure PushEnvelopeBody where
  version : ℤ
  key_epoch : ℤ
  ciphertext : String
  expires_at : Timestamp
  deriving DecidableEq

/-- What a push writes. -/
structure Envelope where
  circle_id : Uuid
  sender_token : Token
  key_epoch : ℤ
  ciphertext : String
  ciphertext_hash : String
  created_at : Timestamp
  expires_at : Timestamp
  deriving DecidableEq

/-- `BASE64.decode`. -/
def decodeCiphertext (env : Env) (ciphertext : String) : Except AppError (List UInt8) :=
  match env.decode ciphertext with
  | none => .error (.badRequest "ciphertext must be canonical base64")
  | some decoded => .ok decoded

/-- `serde_json::from_slice` of an envelope. -/
def parseEnvelope (body : Option PushEnvelopeBody) : Except AppError PushEnvelopeBody :=
  match body with
  | none => .error (.badRequest "invalid location envelope JSON")
  | some value => .ok value

/-- `validate_body` on a body of `len` bytes. -/
def validateBody (env : Env) (len : ℕ) (body : Option PushEnvelopeBody) (now : Timestamp) :
    Except AppError (PushEnvelopeBody × List UInt8) := do
  ensure (decide (len ≤ maxBodyBytes)) (.badRequest "location envelope body is oversized")
  let value ← parseEnvelope body
  ensure (decide (value.version = 1 ∧ 1 ≤ value.key_epoch))
    (.badRequest "unsupported location envelope version or epoch")
  let decoded ← decodeCiphertext env value.ciphertext
  ensure (decide (decoded ≠ [] ∧ decoded.length ≤ maxCiphertextBytes ∧
      env.encode decoded = value.ciphertext))
    (.badRequest "ciphertext is empty, oversized, or non-canonical")
  ensure (decide (now < value.expires_at ∧ value.expires_at ≤ now + maxExpiry))
    (.badRequest "expires_at must be within the next five minutes")
  pure (value, decoded)

/-- `validate_circle_state`. -/
def validateCircleState (current_epoch protocol_version : ℤ) (rekey_required : Bool)
    (envelope_epoch : ℤ) : Except AppError Unit :=
  ensure (decide (protocol_version = 1 ∧ rekey_required = false ∧ current_epoch = envelope_epoch))
    (.conflict "circle epoch is not ready for location publication")

/-- `rate_limit`, given what `SET NX` returned: `none` when Redis fails. -/
def rateLimit (redis : Option Bool) : Except AppError Unit := match redis with
  | none => .error .unavailable
  | some false => .error .rateLimited
  | some true => .ok ()

/-- `owner_token = $2 OR EXISTS (SELECT 1 FROM circle_members ..)`. -/
def Db.belongs (db : Db) (id : Uuid) (token : Token) : Bool :=
  (db.circles.find? id).any (fun c => decide (c.owner_token = token)) || db.isActive id token

/-- `push_envelope` up to its write: what the flag, the request, the circle as it is
read, and the limiter let through. -/
def pushEnvelope (env : Env) (enabled : Bool) (now : Timestamp) (redis : Option Bool) (db : Db)
    (circle_id : Uuid) (len : ℕ) (req : Request PushEnvelopeBody) : Except AppError Envelope := do
  ensure enabled .unavailable
  verifyPayloadBinding req.auth req.bodyHash
  let (body, decoded) ← validateBody env len req.body now
  let sender_token := env.circleToken circle_id req.auth.pubkey
  match db.circles.find? circle_id with
  | none => .error .notFound
  | some circle =>
    ensure (db.belongs circle_id sender_token) .forbidden
    validateCircleState circle.key_epoch circle.location_protocol_version circle.rekey_required
      body.key_epoch
    rateLimit redis
    pure
      { circle_id, sender_token
        key_epoch := body.key_epoch
        ciphertext := body.ciphertext
        ciphertext_hash := env.sha256 decoded
        created_at := now
        expires_at := body.expires_at }

/-- The row of an envelope. -/
def Envelope.blob (e : Envelope) : Blob :=
  { protocol_version := 1
    key_epoch := e.key_epoch
    ciphertext := e.ciphertext
    ciphertext_hash := e.ciphertext_hash
    created_at := e.created_at
    expires_at := e.expires_at }

/-- The key of the row of an envelope. -/
def Envelope.key (e : Envelope) : Uuid × Token := (e.circle_id, e.sender_token)

/-- The tables with an envelope, in place of an earlier one of its sender. -/
def Db.publish (db : Db) (e : Envelope) : Db :=
  { db with blobs := db.blobs.upsert e.key e.blob fun _ => e.blob }

/-- `location_blobs_replay_hash`: another row has the hash. -/
def Db.replayed (db : Db) (e : Envelope) : Bool :=
  db.blobs.rows.any fun r => decide (r.1 ≠ e.key ∧ r.2.ciphertext_hash = e.ciphertext_hash)

/-- The write of `push_envelope`. -/
def writeEnvelope (e : Envelope) : Txn Db AppError Blob := do
  let db ← get
  Txn.require (db.circles.find? e.circle_id).isSome
    (.internal "violates foreign key constraint \"location_blobs_circle_id_fkey\"")
  Txn.require (!db.replayed e) (.conflict "location envelope replay detected")
  modify fun db => db.publish e
  pure e.blob

/-- `DELETE FROM location_blobs WHERE expires_at <= now()`. -/
def Db.expire (db : Db) (now : Timestamp) : Db :=
  { db with blobs := db.blobs.filter fun _ b => decide (now < b.expires_at) }

/-- **What a push has checked** when it goes on to write: the epoch of the envelope
is that of the circle, which needs no new key, and the sender belongs to it. -/
structure Publishes (env : Env) (db : Db) (circle_id : Uuid) (req : Request PushEnvelopeBody)
    (e : Envelope) (circle : Circle) : Prop where
  found : db.circles.find? circle_id = some circle
  belongs : db.belongs circle_id (env.circleToken circle_id req.auth.pubkey) = true
  protocol : circle.location_protocol_version = 1
  keyed : circle.rekey_required = false
  epoch : e.key_epoch = circle.key_epoch
  submitted : ∃ body, req.body = some body ∧ body.key_epoch = e.key_epoch
  sender : e.sender_token = env.circleToken circle_id req.auth.pubkey
  target : e.circle_id = circle_id

theorem validateBody_eq_ok {env : Env} {len : ℕ} {body : Option PushEnvelopeBody} {now : Timestamp}
    {value : PushEnvelopeBody} {decoded : List UInt8}
    (h : validateBody env len body now = .ok (value, decoded)) : body = some value := by
  unfold validateBody at h
  simp only [bind_eq_ok, ensure_eq_ok] at h
  obtain ⟨_, _, value', hparse, _, _, _, _, _, _, _, _, hret⟩ := h
  cases hret
  unfold parseEnvelope at hparse
  split at hparse
  · cases hparse
  · rw [Except.ok.inj hparse]

theorem pushEnvelope_eq_ok {env : Env} {enabled : Bool} {now : Timestamp} {redis : Option Bool}
    {db : Db} {circle_id : Uuid} {len : ℕ} {req : Request PushEnvelopeBody} {e : Envelope}
    (h : pushEnvelope env enabled now redis db circle_id len req = .ok e) :
    ∃ circle, Publishes env db circle_id req e circle := by
  unfold pushEnvelope at h
  simp only [bind_eq_ok, ensure_eq_ok] at h
  obtain ⟨_, _, _, _, ⟨body, decoded⟩, hbody, h⟩ := h
  have hbody := validateBody_eq_ok hbody
  dsimp only at h
  split at h
  · cases h
  · rename_i circle hfound
    simp only [validateCircleState, bind_eq_ok, ensure_eq_ok, decide_eq_true_eq] at h
    obtain ⟨_, hbelongs, _, ⟨hprotocol, hkeyed, hepoch⟩, _, _, hret⟩ := h
    cases hret
    exact ⟨circle, hfound, hbelongs, hprotocol, hkeyed, hepoch.symm, ⟨body, hbody, rfl⟩, rfl, rfl⟩

theorem run_writeEnvelope_eq_ok {e : Envelope} {db db' : Db} {b : Blob}
    (h : (writeEnvelope e).run db = .ok (b, db')) :
    (db.circles.find? e.circle_id).isSome = true ∧ db' = db.publish e := by
  unfold writeEnvelope at h
  simp only [Txn.run_bind_eq_ok, Txn.run_get_eq_ok, Txn.run_require_eq_ok, Txn.run_modify_eq_ok,
    Txn.run_pure_eq_ok] at h
  obtain ⟨_, _, ⟨rfl, rfl⟩, _, _, ⟨hcircle, rfl⟩, _, _, ⟨_, rfl⟩, _, _, rfl, _, rfl⟩ := h
  exact ⟨hcircle, rfl⟩

end Circles
end SentinelMesh
