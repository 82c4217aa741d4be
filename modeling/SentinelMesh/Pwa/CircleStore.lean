/-
# The circles a client holds

What a client makes of the detail of a circle (`toCircleAndMembers` of
`hooks/useCircles.ts`), the reducers of `store/circlesSlice.ts` that are dispatched, and the
roster the connection of a circle takes from the store (`services/circleWebSocket.ts`).

The label of a member is text under the key of the epoch; opening it and parsing it are
parameters.  A label whose key is no text is left out.  Public keys are hexadecimal, on
which `toLowerCase` is that of ASCII.  The alerts of the slice have no part here, and the
reducers that nothing dispatches are left out.
-/

import SentinelMesh.Circles.Detail
import SentinelMesh.Pwa.CircleLocation

namespace SentinelMesh
namespace Pwa
namespace CircleStore

open Lib
open Circles (Token MembershipState CircleDetail MemberDetail KeyWrap)
open CircleLocation (LocationPrecision VerifiedCircleLocationV1)

/-! ### From the detail -/

/-- What the text of a label parses to. -/
structure Label where
  pubkey : Option Pubkey
  name : Option String
  deriving DecidableEq

/-- `decryptString` and `JSON.parse` of a label; `none` is `null`, or a throw. -/
structure Labels where
  decryptString : Bytes → String → Option String
  parse : String → Option Label

/-- `Circle` of `shared/types`. -/
structure Circle where
  circle_id : Uuid
  name : String
  name_ciphertext : Option String
  name_version : ℤ
  key_epoch : ℤ
  location_protocol_version : ℤ
  rekey_required : Bool
  membership_revision : ℤ
  self_token : Token
  created_at : Timestamp
  is_owner : Bool
  deriving DecidableEq

/-- `CircleMember` of `shared/types`. -/
structure CircleMember where
  circle_id : Uuid
  member_token : Option Token
  alert_radius_km : ℚ
  alert_severity : String
  joined_at : Timestamp
  member_label_ciphertext : Option String
  membership_state : MembershipState
  accepted_at : Option Timestamp
  key_wrap_epoch : Option ℤ
  pubkey : Option Pubkey
  label : Option String
  deriving DecidableEq

/-- The label of a member, where the key opens it. -/
def openLabel (labels : Labels) (key : Option Bytes) (ciphertext : Option String) : Option Label := do
  let key ← key
  let ciphertext ← ciphertext
  guard (ciphertext ≠ "")
  let decoded ← labels.decryptString key ciphertext
  guard (decoded ≠ "")
  labels.parse decoded

/-- A member, as `toCircleAndMembers` makes it. -/
def toMember (labels : Labels) (key : Option Bytes) (m : MemberDetail) : CircleMember :=
  let opened := openLabel labels key m.member_label_ciphertext
  { circle_id := m.circle_id
    member_token := m.member_token
    alert_radius_km := m.alert_radius_km.getD 5
    alert_severity := m.alert_severity.getD "MEDIUM"
    joined_at := m.joined_at
    member_label_ciphertext := m.member_label_ciphertext
    membership_state := m.membership_state
    accepted_at := m.accepted_at
    key_wrap_epoch := m.key_wrap_epoch
    pubkey := opened.bind Label.pubkey
    label := opened.bind Label.name }

/-- The name of a circle, where the key opens it. -/
def displayName (labels : Labels) (key : Option Bytes) (detail : CircleDetail) : String :=
  match key, detail.name_ciphertext with
  | some key, some ciphertext =>
    if detail.name_version = 1 ∧ ciphertext ≠ "" then
      (labels.decryptString key ciphertext).getD "(locked)"
    else "(unnamed)"
  | _, _ => "(unnamed)"

/-- `toCircleAndMembers`, with the key it has found. -/
def toCircleAndMembers (labels : Labels) (key : Option Bytes) (detail : CircleDetail) :
    Circle × List CircleMember :=
  ({ circle_id := detail.id
     name := displayName labels key detail
     name_ciphertext := detail.name_ciphertext
     name_version := detail.name_version
     key_epoch := detail.key_epoch
     location_protocol_version := detail.location_protocol_version
     rekey_required := detail.rekey_required
     membership_revision := detail.membership_revision
     self_token := detail.self_token
     created_at := detail.created_at
     is_owner := detail.is_owner },
    detail.members.map (toMember labels key))

/-! ### The slice -/

/-- `CircleEpoch`. -/
structure CircleEpoch where
  key_epoch : ℤ
  rekey_required : Bool
  deriving DecidableEq

/-- `MemberStatus`, the two of it that are set. -/
inductive MemberStatus
  | online
  | offline
  deriving DecidableEq

/-- `DecryptedLocation`; `ts` in seconds. -/
structure DecryptedLocation where
  lat : ℚ
  lng : ℚ
  ts : ℤ
  event_id : String
  expires_at : ℕ
  accuracy_m : ℚ
  precision : LocationPrecision
  deriving DecidableEq

/-- `CirclesState`. -/
structure CirclesState where
  circles : List Circle := []
  activeCircleId : Option Uuid := none
  members : Table Uuid (List CircleMember) := Table.empty
  epochs : Table Uuid CircleEpoch := Table.empty
  memberStatuses : Table Pubkey MemberStatus := Table.empty
  decryptedLocations : Table Pubkey DecryptedLocation := Table.empty
  decryptErrors : List String := []
  deriving DecidableEq

/-- The circle of a list with an id. -/
def findCircle (circles : List Circle) (circle_id : Uuid) : Option Circle :=
  circles.find? fun c => decide (c.circle_id = circle_id)

/-- `circleLoaded`. -/
def CirclesState.circleLoaded (state : CirclesState) (circle : Circle) (members : List CircleMember) :
    CirclesState :=
  { state with
    circles :=
      if (findCircle state.circles circle.circle_id).isSome then
        state.circles.replaceF fun c => if c.circle_id = circle.circle_id then some circle else none
      else state.circles ++ [circle]
    members := state.members.put circle.circle_id members
    activeCircleId := some circle.circle_id
    memberStatuses := members.foldl (fun statuses m => match m.pubkey with
      | none => statuses
      | some pubkey => if pubkey = "" then statuses else statuses.insert pubkey .offline)
      state.memberStatuses }

/-- `circleEpochChanged`. -/
def CirclesState.circleEpochChanged (state : CirclesState) (circle_id : Uuid) (key_epoch : ℤ)
    (rekey_required : Bool) : CirclesState :=
  { state with
    epochs := state.epochs.put circle_id { key_epoch, rekey_required }
    circles := state.circles.replaceF fun c =>
      if c.circle_id = circle_id then some { c with key_epoch, rekey_required } else none }

/-- `locationReceived`. -/
def CirclesState.locationReceived (state : CirclesState) (pubkey : Pubkey)
    (location : DecryptedLocation) : CirclesState :=
  { state with
    decryptedLocations := state.decryptedLocations.put pubkey location
    memberStatuses := state.memberStatuses.put pubkey .online }

/-- The members `memberRemoved` leaves; a `null` is no token. -/
def remaining (pubkey : Option Pubkey) (token : Option Token) (m : CircleMember) : Bool :=
  match pubkey with
  | some _ => decide (m.pubkey ≠ pubkey)
  | none => decide (m.member_token = none ∨ m.member_token ≠ token)

/-- `memberRemoved`. -/
def CirclesState.memberRemoved (state : CirclesState) (circle_id : Uuid) (pubkey : Option Pubkey)
    (token : Option Token) : CirclesState :=
  let state' :=
    { state with members := state.members.modify circle_id (List.filter (remaining pubkey token)) }
  match pubkey with
  | none => state'
  | some pubkey =>
    if pubkey = "" then state'
    else
      { state' with
        decryptedLocations := state.decryptedLocations.filter fun k _ => decide (k ≠ pubkey)
        memberStatuses := state.memberStatuses.filter fun k _ => decide (k ≠ pubkey) }

/-- `memberAccepted`. -/
def CirclesState.memberAccepted (state : CirclesState) (circle_id : Uuid) (pubkey : Pubkey) :
    CirclesState :=
  { state with
    members := state.members.modify circle_id (List.map fun m => match m.pubkey with
      | none => m
      | some pk =>
        if pk ≠ "" ∧ toAsciiLowercase pk = toAsciiLowercase pubkey then
          { m with membership_state := .active }
        else m) }

/-- `circleDecryptError`: the last three errors. -/
def CirclesState.circleDecryptError (state : CirclesState) (error : String) : CirclesState :=
  { state with decryptErrors := (error :: state.decryptErrors).take 3 }

/-- `circleLeft`. -/
def CirclesState.circleLeft (_ : CirclesState) : CirclesState := {}

/-- The actions of the slice. -/
inductive CirclesAction
  | circleLoaded (circle : Circle) (members : List CircleMember)
  | circleEpochChanged (circle_id : Uuid) (key_epoch : ℤ) (rekey_required : Bool)
  | locationReceived (pubkey : Pubkey) (location : DecryptedLocation)
  | memberRemoved (circle_id : Uuid) (pubkey : Option Pubkey) (token : Option Token)
  | memberAccepted (circle_id : Uuid) (pubkey : Pubkey)
  | circleDecryptError (error : String)
  | circleLeft
  deriving DecidableEq

/-- `circlesSlice.reducer`. -/
def CirclesState.reduce (state : CirclesState) : CirclesAction → CirclesState
  | .circleLoaded circle members => state.circleLoaded circle members
  | .circleEpochChanged circle_id key_epoch rekey_required =>
    state.circleEpochChanged circle_id key_epoch rekey_required
  | .locationReceived pubkey location => state.locationReceived pubkey location
  | .memberRemoved circle_id pubkey token => state.memberRemoved circle_id pubkey token
  | .memberAccepted circle_id pubkey => state.memberAccepted circle_id pubkey
  | .circleDecryptError error => state.circleDecryptError error
  | .circleLeft => state.circleLeft

/-! ### The roster -/

/-- `Roster`. -/
structure Roster where
  pubkeys : List Pubkey
  epoch : ℤ
  selfToken : Option Token
  deriving DecidableEq

/-- `state.members[circleId] ?? []`. -/
def CirclesState.membersOf (state : CirclesState) (circleId : Uuid) : List CircleMember :=
  (state.members.find? circleId).getD []

/-- The key of a member whose locations are read. -/
def CircleMember.signer (m : CircleMember) : Option Pubkey := do
  let pubkey ← m.pubkey
  guard (pubkey ≠ "" ∧ m.membership_state ≠ .pending)
  pure (toAsciiLowercase pubkey)

/-- What a render puts into `rosterRef`. -/
def CirclesState.roster (state : CirclesState) (circleId : Uuid) : Roster :=
  let circle := findCircle state.circles circleId
  { pubkeys := (state.membersOf circleId).filterMap CircleMember.signer
    epoch := match state.epochs.find? circleId with
      | some e => e.key_epoch
      | none => (circle.map Circle.key_epoch).getD 1
    selfToken := circle.map Circle.self_token }

end CircleStore
end Pwa
end SentinelMesh
