/-
# Family circles: what a participant reads

`get_circle` of `routes/circles.rs`: the circle, the rows of its members, and the wrap of
the caller's own key.  A row is sent with its token to the owner alone.

The handler reads the circle, the caller's membership and the members one after the other;
the model reads all three from the tables of one moment.
-/

import SentinelMesh.Circles.Routes

namespace SentinelMesh
namespace Circles

open Lib

/-- An object of `members`. -/
structure MemberDetail where
  circle_id : Uuid
  member_token : Option Token
  member_label_ciphertext : Option String
  alert_radius_km : Option ℚ
  alert_severity : Option String
  membership_state : MembershipState
  accepted_at : Option Timestamp
  key_wrap_epoch : Option ℤ
  joined_at : Timestamp
  deriving DecidableEq

/-- `my_key_wrap`. -/
structure KeyWrap where
  version : Option ℤ
  epoch : Option ℤ
  event : Option RawEvent
  deriving DecidableEq

/-- The response of `get_circle`. -/
structure CircleDetail where
  id : Uuid
  name_ciphertext : Option String
  name_version : ℤ
  key_epoch : ℤ
  location_protocol_version : ℤ
  rekey_required : Bool
  membership_revision : ℤ
  created_at : Timestamp
  is_owner : Bool
  self_token : Token
  members : List MemberDetail
  my_key_wrap : Option KeyWrap
  deriving DecidableEq

/-- A row as it is sent to the owner, or to another. -/
def Member.detail (circle_id : Uuid) (is_owner : Bool) (token : Token) (m : Member) : MemberDetail :=
  { circle_id
    member_token := if is_owner then some token else none
    member_label_ciphertext := m.member_label_ciphertext
    alert_radius_km := m.alert_radius_km
    alert_severity := m.alert_severity
    membership_state := m.membership_state
    accepted_at := m.accepted_at
    key_wrap_epoch := m.key_wrap_epoch
    joined_at := m.joined_at }

/-- The wrap a row keeps; one with an epoch is of the second version. -/
def Member.keyWrap (m : Member) : KeyWrap :=
  { version := m.key_wrap_epoch.map fun _ => 2
    epoch := m.key_wrap_epoch
    event := m.key_wrap_event }

/-- `SELECT .. FROM circle_members WHERE circle_id = $1`. -/
def Db.membersOf (db : Db) (id : Uuid) : List (Token × Member) :=
  db.members.rows.filterMap fun r => if r.1.1 = id then some (r.1.2, r.2) else none

/-- `get_circle`. -/
def getCircle (env : Env) (db : Db) (id : Uuid) (pubkey : Pubkey) : Except AppError CircleDetail :=
  match db.circles.find? id with
  | none => .error .notFound
  | some circle => do
    let my_token := env.circleToken id pubkey
    let is_owner := decide (circle.owner_token = my_token)
    ensure (is_owner || (db.members.find? (id, my_token)).isSome) .forbidden
    pure
      { id
        name_ciphertext := circle.name_ciphertext
        name_version := circle.name_version
        key_epoch := circle.key_epoch
        location_protocol_version := circle.location_protocol_version
        rekey_required := circle.rekey_required
        membership_revision := circle.membership_revision
        created_at := circle.created_at
        is_owner
        self_token := my_token
        members := (db.membersOf id).map fun r => r.2.detail id is_owner r.1
        my_key_wrap := if is_owner then none else (db.members.find? (id, my_token)).map Member.keyWrap }

theorem mem_membersOf {db : Db} {id : Uuid} {token : Token} {m : Member} :
    (token, m) ∈ db.membersOf id ↔ db.members.find? (id, token) = some m := by
  rw [Table.find?_eq_some_iff]
  unfold Db.membersOf
  rw [List.mem_filterMap]
  constructor
  · rintro ⟨⟨⟨id', t⟩, m'⟩, hr, hif⟩
    dsimp only at hif
    split_ifs at hif with hid
    obtain ⟨rfl, rfl⟩ := Prod.mk.inj (Option.some.inj hif)
    rw [← hid]
    exact hr
  · intro hr
    exact ⟨((id, token), m), hr, if_pos rfl⟩

/-- **What a detail is**: of the circle with the id, with its epoch, and with a row for each
row of the table; with tokens for the owner. -/
theorem getCircle_eq_ok {env : Env} {db : Db} {id : Uuid} {pubkey : Pubkey} {detail : CircleDetail}
    (h : getCircle env db id pubkey = .ok detail) :
    ∃ circle, db.circles.find? id = some circle ∧ detail.id = id ∧
      detail.key_epoch = circle.key_epoch ∧ detail.self_token = env.circleToken id pubkey ∧
      detail.is_owner = decide (circle.owner_token = env.circleToken id pubkey) ∧
      detail.members = (db.membersOf id).map fun r => r.2.detail id detail.is_owner r.1 := by
  unfold getCircle at h
  split at h
  · cases h
  · rename_i circle hfound
    simp only [bind_eq_ok, ensure_eq_ok] at h
    obtain ⟨_, _, hret⟩ := h
    obtain rfl := Except.ok.inj hret
    exact ⟨circle, hfound, rfl, rfl, rfl, rfl, rfl⟩

end Circles
end SentinelMesh
