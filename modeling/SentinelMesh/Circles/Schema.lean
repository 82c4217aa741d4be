/-
# Family circles: tables and key wraps

The tables `circles`, `circle_members` and `location_blobs` of
`infra/postgres/schema-v2.sql` as the migrations 009 and 010 leave them, and
`validate_key_wrap_v2` of `routes/circles.rs`.

People are not in these tables.  A row holds a token, the keyed hash of a public
key under the id of its circle (`circles/token.rs`), which is a parameter of
the model: what follows from it being injective is said where it is used.  A
key wrap is an event the owner signs for one recipient, one circle and one key
epoch; `IsWrap` is what validation establishes of it.

The columns `key_wrap_version` and `key_wrap_ciphertext` of the first protocol,
which no modelled function writes, and the surrogate ids of `circle_members` and
`location_blobs` are left out.
-/

import SentinelMesh.Basic
import SentinelMesh.Lib.Table
import SentinelMesh.Lib.Txn
import Mathlib.Data.List.Sort
import Mathlib.Data.Rat.Defs
import Mathlib.Data.String.Basic

namespace SentinelMesh
namespace Circles

open Lib

/-- What a circle keeps of a public key. -/
abbrev Token := String

/-- What the routes use of other crates: `circle_token` under the configured
secret, signature verification, SHA-256 of a decoded ciphertext, and base64. -/
structure Env where
  circleToken : Uuid → Pubkey → Token
  verify : NostrEvent → Bool
  sha256 : List UInt8 → String
  encode : List UInt8 → String
  decode : String → Option (List UInt8)

/-- A row of `circles`, under its `id`. -/
structure Circle where
  owner_token : Token
  name_ciphertext : Option String
  name_version : ℤ := 1
  key_epoch : ℤ := 1
  location_protocol_version : ℤ := 0
  rekey_required : Bool := true
  membership_revision : ℤ := 0
  created_at : Timestamp
  deriving DecidableEq

/-- The values of `circle_members.membership_state`. -/
inductive MembershipState
  | pending
  | active
  deriving DecidableEq, Repr

/-- A row of `circle_members`, under its `(circle_id, member_token)`. -/
structure Member where
  member_label_ciphertext : Option String
  alert_radius_km : Option ℚ
  alert_severity : Option String
  membership_state : MembershipState
  accepted_at : Option Timestamp
  key_wrap_epoch : Option ℤ
  key_wrap_event : Option RawEvent
  joined_at : Timestamp
  deriving DecidableEq

/-- A row of `location_blobs`, under its `(circle_id, sender_token)`. -/
structure Blob where
  protocol_version : ℤ
  key_epoch : ℤ
  ciphertext : String
  ciphertext_hash : String
  created_at : Timestamp
  expires_at : Timestamp
  deriving DecidableEq

/-- The tables. -/
structure Db where
  circles : Table Uuid Circle := Table.empty
  members : Table (Uuid × Token) Member := Table.empty
  blobs : Table (Uuid × Token) Blob := Table.empty
  deriving DecidableEq

/-- The rows of a circle in `circle_members`. -/
def Db.memberCount (db : Db) (id : Uuid) : ℕ := db.members.count fun k _ => decide (k.1 = id)

/-- `SELECT member_token FROM circle_members WHERE circle_id = $1 AND
membership_state = 'ACTIVE'`. -/
def Db.activeTokens (db : Db) (id : Uuid) : List Token :=
  db.members.rows.filterMap fun r =>
    if r.1.1 = id ∧ r.2.membership_state = .active then some r.1.2 else none

/-- `EXISTS (SELECT 1 FROM circle_members WHERE .. AND membership_state =
'ACTIVE')`. -/
def Db.isActive (db : Db) (id : Uuid) (token : Token) : Bool :=
  (db.members.find? (id, token)).any fun m => decide (m.membership_state = .active)

theorem mem_activeTokens {db : Db} {id : Uuid} {token : Token} :
    token ∈ db.activeTokens id ↔ db.isActive id token = true := by
  have hrow : ∀ m, ((id, token), m) ∈ db.members.rows ↔ db.members.find? (id, token) = some m :=
    fun m => Table.find?_eq_some_iff.symm
  unfold Db.activeTokens Db.isActive
  rw [List.mem_filterMap]
  constructor
  · rintro ⟨⟨⟨id', t⟩, m⟩, hr, hif⟩
    dsimp only at hif
    split_ifs at hif with hc
    obtain rfl := Option.some.inj hif
    obtain ⟨rfl, hact⟩ := hc
    rw [(hrow m).1 hr]
    simpa using hact
  · intro h
    cases hf : db.members.find? (id, token) with
    | none =>
        rw [hf] at h
        cases h
    | some m =>
        rw [hf] at h
        have hact : m.membership_state = .active := by simpa using h
        exact ⟨((id, token), m), (hrow m).2 hf, by simp [hact]⟩

/-! ### Key wraps -/

/-- `CIRCLE_KEY_EVENT_KIND`. -/
def circleKeyEventKind : ℕ := 30079

/-- `CIRCLE_KEY_EVENT_TYPE_V2`. -/
def circleKeyEventTypeV2 : String := "sentinelmesh-circle-key-v2"

/-- `MAX_KEY_WRAP_CONTENT_LEN`. -/
def maxKeyWrapContentLen : ℕ := 4096

/-- `MAX_CIRCLE_MEMBERS`. -/
def maxCircleMembers : ℕ := 25

/-- `KEY_WRAP_FRESHNESS_SECS`. -/
def keyWrapFreshnessSecs : ℤ := 60

/-- `single_tag`: the value of the only tag with a name. -/
def singleTag (event : NostrEvent) (name : String) : Except AppError String :=
  match tagValues event name with
  | [value] => .ok value
  | _ => .error (.badRequest ("circle key event must bind exactly one " ++ name ++ " tag"))

/-- `serde_json::from_value(value.clone())`. -/
def keyEvent (value : RawEvent) : Except AppError NostrEvent :=
  match value.parse with
  | none => .error (.badRequest "invalid circle key event")
  | some event => .ok event

/-- `validate_key_wrap_v2`: the recipient of a fresh wrap signed by the owner for
the circle and the epoch. -/
def validateKeyWrapV2 (verify : NostrEvent → Bool) (now : Timestamp) (owner_pubkey : Pubkey)
    (circle_id : Uuid) (expected_epoch : ℤ) (value : RawEvent) : Except AppError Pubkey := do
  let event ← keyEvent value
  ensure (verify event) (.badRequest "invalid circle key event signature")
  ensure (decide (event.pubkey = owner_pubkey ∧ event.kind = circleKeyEventKind))
    (.badRequest "circle key event is not signed by the circle owner")
  let created_at := wrap 64 event.created_at
  ensure (decide (absI64 (wrap 64 (seconds now - created_at)) ≤ keyWrapFreshnessSecs))
    (.badRequest "circle key event is not fresh")
  let d ← singleTag event "d"
  let circle ← singleTag event "circle"
  let epoch ← singleTag event "epoch"
  let recipient ← (singleTag event "p").map toAsciiLowercase
  ensure (decide (d = circleKeyEventTypeV2 ∧ circle = circle_id ∧ epoch = toString expected_epoch)
      && isHex 64 recipient)
    (.badRequest "circle key event is not bound to this circle, epoch, and recipient")
  ensure (decide (event.content ≠ "" ∧ event.content.utf8ByteSize ≤ maxKeyWrapContentLen))
    (.badRequest "circle key event content is invalid")
  pure recipient

/-- The event is a wrap by `owner` for `recipient` in the circle at the epoch. -/
structure IsWrap (verify : NostrEvent → Bool) (owner : Pubkey) (circle_id : Uuid) (epoch : ℤ)
    (recipient : Pubkey) (event : NostrEvent) : Prop where
  verified : verify event = true
  signer : event.pubkey = owner
  kind : event.kind = circleKeyEventKind
  purpose : tagValues event "d" = [circleKeyEventTypeV2]
  circle : tagValues event "circle" = [circle_id]
  epoch : tagValues event "epoch" = [toString epoch]
  recipient : ∃ p, tagValues event "p" = [p] ∧ toAsciiLowercase p = recipient

theorem singleTag_eq_ok {event : NostrEvent} {name value : String}
    (h : singleTag event name = .ok value) : tagValues event name = [value] := by
  unfold singleTag at h
  split at h
  · rename_i v hv
    rw [hv, Except.ok.inj h]
  · cases h

/-- **A validated wrap is one**, for the recipient validation returns. -/
theorem validateKeyWrapV2_eq_ok {verify : NostrEvent → Bool} {now : Timestamp} {owner : Pubkey}
    {circle_id : Uuid} {epoch : ℤ} {value : RawEvent} {recipient : Pubkey}
    (h : validateKeyWrapV2 verify now owner circle_id epoch value = .ok recipient) :
    ∃ event, value.parse = some event ∧ IsWrap verify owner circle_id epoch recipient event := by
  unfold validateKeyWrapV2 at h
  simp only [bind_eq_ok, ensure_eq_ok, decide_eq_true_eq, Bool.and_eq_true] at h
  obtain ⟨event, hparse, _, hverify, _, ⟨hsigner, hkind⟩, _, _, d, hd, circle, hcircle, e, he, r, hr,
    _, ⟨⟨rfl, rfl, rfl⟩, _⟩, _, _, hret⟩ := h
  have hret : r = recipient := Except.ok.inj hret
  subst hret
  have hparse : value.parse = some event := by
    unfold keyEvent at hparse
    split at hparse
    · cases hparse
    · rename_i event' hp
      rw [hp, Except.ok.inj hparse]
  obtain ⟨p, hp, rfl⟩ : ∃ p, singleTag event "p" = .ok p ∧ toAsciiLowercase p = r := by
    cases hs : singleTag event "p" with
    | error e =>
        rw [hs] at hr
        cases hr
    | ok p =>
        rw [hs] at hr
        exact ⟨p, rfl, Except.ok.inj hr⟩
  exact ⟨event, hparse, hverify, hsigner, hkind, singleTag_eq_ok hd, singleTag_eq_ok hcircle,
    singleTag_eq_ok he, p, singleTag_eq_ok hp, rfl⟩

/-- A fresh wrap with a content is validated. -/
theorem validateKeyWrapV2_of {verify : NostrEvent → Bool} {now : Timestamp} {owner : Pubkey}
    {circle_id : Uuid} {epoch : ℤ} {value : RawEvent} {event : NostrEvent} {p : String}
    (hparse : value.parse = some event)
    (hwrap : IsWrap verify owner circle_id epoch (toAsciiLowercase p) event)
    (hp : tagValues event "p" = [p]) (hhex : isHex 64 (toAsciiLowercase p) = true)
    (hfresh : absI64 (wrap 64 (seconds now - wrap 64 event.created_at)) ≤ keyWrapFreshnessSecs)
    (hcontent : event.content ≠ "" ∧ event.content.utf8ByteSize ≤ maxKeyWrapContentLen) :
    validateKeyWrapV2 verify now owner circle_id epoch value = .ok (toAsciiLowercase p) := by
  have htag : ∀ name value, tagValues event name = [value] → singleTag event name = .ok value := by
    intro name value h
    unfold singleTag
    rw [h]
  unfold validateKeyWrapV2 keyEvent
  simp only [hparse, bind_eq_ok, ensure_eq_ok, decide_eq_true_eq, Bool.and_eq_true]
  refine ⟨event, rfl, (), hwrap.verified, (), ⟨hwrap.signer, hwrap.kind⟩, (), hfresh, _,
    htag _ _ hwrap.purpose, _, htag _ _ hwrap.circle, _, htag _ _ hwrap.epoch, _, ?_, (),
    ⟨⟨rfl, rfl, rfl⟩, hhex⟩, (), hcontent, rfl⟩
  rw [htag _ _ hp]
  rfl

end Circles
end SentinelMesh
