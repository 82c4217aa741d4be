/-
# Authentication of requests and sockets

`validate_nip98_request` of `middleware/nostr_auth.rs`, with `extract_auth_event`
and `canonical_url`, and `verify_ws_auth` of `ws/mod.rs`.

Both check a signed event of kind 27235 for freshness, in whole seconds around its
`created_at`, for its signature and for the tags that bind it, and then claim the
id of the event in Redis with `SET NX EX 120`.  The keys of the two have prefixes
of their own.

Instants are elements of any ordered field with a floor, the real numbers among
them, from the Unix epoch to the last one `Utc::now()` can represent (`Clock`).
Redis may not get the command, and its answer may be lost.
-/

import SentinelMesh.Basic
import SentinelMesh.Lib.Expiring
import Mathlib.Algebra.Order.Floor.Ring

namespace SentinelMesh
namespace Auth

open Lib

/-- What the checks use of other crates: signature verification, and the upper case
of Unicode text. -/
structure Env where
  verify : NostrEvent → Bool
  toUppercase : String → String

/-- `AuthError`. -/
inductive AuthError
  | missingHeader
  | invalidBase64
  | invalidEventJson
  | invalidKind
  | invalidCreatedAt
  | timestampExpired
  | invalidSignature
  | missingUrlTag
  | duplicateUrlTag
  | missingMethodTag
  | duplicateMethodTag
  | duplicatePayloadTag
  | urlMismatch (expected got : String)
  | methodMismatch (expected got : String)
  | replayDetected
  | redisUnavailable
  deriving DecidableEq, Repr

/-- `ValidatedNostrAuth`. -/
structure ValidatedNostrAuth where
  pubkey : Pubkey
  event_id : String
  created_at : ℤ
  payload : Option String
  deriving DecidableEq, Repr

/-- The configuration `canonical_url` reads. -/
structure Config where
  public_base_url : Option String
  trust_proxy : Bool
  deriving DecidableEq

/-- The value of a header as text; `none` where its bytes are not visible ASCII. -/
abbrev HeaderValue := Option String

/-- The header `x-nostr-auth`: absent, not JSON, JSON without an integer
`created_at`, or an object with the members of an event. -/
inductive AuthHeader
  | absent
  | notJson
  | noCreatedAt
  | event (raw : RawEvent)
  deriving DecidableEq

/-- `Parts`, as far as it is read: the path is the one before routing. -/
structure Parts where
  method : String
  path_and_query : String
  forwarded_proto : Option HeaderValue := none
  forwarded_host : Option HeaderValue := none
  host : Option HeaderValue := none
  auth : AuthHeader
  deriving DecidableEq

/-- `str::rsplit_once`. -/
def rsplitOnce (s : String) (c : Char) : Option (String × String) :=
  let (after, rest) := s.toList.reverse.span (· ≠ c)
  match rest with
  | [] => none
  | _ :: before => some (String.ofList before.reverse, String.ofList after.reverse)

/-- The scheme and the host of a request, in lower case. -/
def schemeAndHost (parts : Parts) (config : Config) : String × String :=
  if config.trust_proxy then
    (toAsciiLowercase (parts.forwarded_proto.join.getD "https"),
      toAsciiLowercase ((parts.forwarded_host.or parts.host).join.getD ""))
  else ("https", toAsciiLowercase (parts.host.join.getD ""))

/-- The host without the default port of the scheme. -/
def dropDefaultPort (scheme host : String) : String :=
  match rsplitOnce host ':' with
  | some (h, port) =>
    if (scheme = "https" ∧ port = "443") ∨ (scheme = "http" ∧ port = "80") then h else host
  | none => host

/-- `canonical_url`. -/
def canonicalUrl (parts : Parts) (config : Config) : String :=
  match config.public_base_url with
  | some base => base ++ parts.path_and_query
  | none =>
    let (scheme, host) := schemeAndHost parts config
    scheme ++ "://" ++ dropDefaultPort scheme host ++ parts.path_and_query

/-- `extract_auth_event`. -/
def extractAuthEvent (parts : Parts) : Except AuthError NostrEvent := match parts.auth with
  | .absent => .error .missingHeader
  | .notJson => .error .invalidBase64
  | .noCreatedAt => .error .invalidCreatedAt
  | .event raw => match raw.parse with
    | none => .error .invalidEventJson
    | some event => .ok event

/-- The only value of a tag that must be there once. -/
def onlyTag (event : NostrEvent) (name : String) (missing duplicate : AuthError) :
    Except AuthError String :=
  match tagValues event name with
  | [] => .error missing
  | [value] => .ok value
  | _ => .error duplicate

/-- The only value of a tag that may be there once. -/
def optionalTag (event : NostrEvent) (name : String) (duplicate : AuthError) :
    Except AuthError (Option String) :=
  match tagValues event name with
  | [] => .ok none
  | [value] => .ok (some value)
  | _ => .error duplicate

/-- The kind of an authentication event. -/
def authKind : ℕ := 27235

/-- The greatest distance of a fresh event from the clock, in seconds. -/
def freshnessSecs : ℤ := 60

/-- `i64::try_from(event.created_at.as_u64())`. -/
def createdAt (event : NostrEvent) : Except AuthError ℤ :=
  if event.created_at < 2 ^ 63 then .ok event.created_at else .error .invalidCreatedAt

/-- The steps 1 to 10 of `validate_nip98_request`, at the second `now`. -/
def checkNip98 (env : Env) (now : ℤ) (parts : Parts) (config : Config) (event : NostrEvent) :
    Except AuthError ValidatedNostrAuth := do
  ensure (decide (event.kind = authKind)) .invalidKind
  let created_at ← createdAt event
  ensure (decide (absI64 (wrap 64 (now - created_at)) ≤ freshnessSecs)) .timestampExpired
  ensure (env.verify event) .invalidSignature
  let u_tag ← onlyTag event "u" .missingUrlTag .duplicateUrlTag
  let method_tag ← onlyTag event "method" .missingMethodTag .duplicateMethodTag
  let payload ← optionalTag event "payload" .duplicatePayloadTag
  let canonical := canonicalUrl parts config
  ensure (decide (u_tag = canonical)) (.urlMismatch canonical u_tag)
  ensure (decide (env.toUppercase method_tag = parts.method)) (.methodMismatch parts.method method_tag)
  pure { pubkey := event.pubkey, event_id := event.id, created_at, payload }

/-- `single_ws_tag`. -/
def singleWsTag (event : NostrEvent) (name : String) : Except String String :=
  match tagValues event name with
  | [] => .error ("auth event missing " ++ name ++ " tag")
  | [value] => .ok value
  | _ => .error ("auth event has duplicate " ++ name ++ " tags")

/-- `serde_json::from_value` of an authentication event. -/
def wsEvent (raw : RawEvent) : Except String NostrEvent := match raw.parse with
  | none => .error "invalid auth event JSON"
  | some event => .ok event

/-- `str::ends_with`. -/
def endsWith (s suffix : String) : Bool := suffix.toList.isSuffixOf s.toList

/-- `verify_ws_auth` up to its claim, at the second `now`. -/
def checkWsAuth (env : Env) (now : ℤ) (raw : RawEvent) (circle_id : Uuid) :
    Except String NostrEvent := do
  let event ← wsEvent raw
  ensure (decide (event.kind = authKind)) "auth event must be kind 27235"
  let ts := wrap 64 event.created_at
  ensure (decide (absI64 (wrap 64 (now - ts)) ≤ freshnessSecs)) "auth event expired"
  ensure (env.verify event) "invalid signature"
  let circle ← singleWsTag event "circle"
  ensure (decide (circle = circle_id)) "auth event is not bound to this circle"
  let _nonce ← singleWsTag event "nonce"
  let u ← singleWsTag event "u"
  ensure (endsWith u "/ws/circles") "auth event is not bound to /ws/circles"
  let method ← singleWsTag event "method"
  ensure (eqIgnoreAsciiCase method "GET") "auth method must be GET"
  pure event

/-! ### The clock and the claim of an id -/

/-- The last second of `DateTime::<Utc>::MAX_UTC`. -/
def maxUtcSecs : ℤ := 8210266876799

section Clock

variable {K : Type} [Field K] [LinearOrder K] [IsStrictOrderedRing K] [FloorRing K]

/-- What `Utc::now()` can return. -/
def Clock (K : Type) [Field K] [LinearOrder K] [IsStrictOrderedRing K] [FloorRing K] : Type :=
  { t : K // 0 ≤ ⌊t⌋ ∧ ⌊t⌋ ≤ maxUtcSecs }

/-- `Utc::now().timestamp()`. -/
def Clock.timestamp (now : Clock K) : ℤ := ⌊now.1⌋

/-- The lifetime of a claim, in seconds. -/
def claimTtl : K := 120

/-- How a command to Redis goes: whether it arrives, and whether its answer does, in
time. -/
structure Wire where
  reached : Bool := true
  replied : Bool := true
  deriving DecidableEq

/-- `SET key 1 NX EX 120`: the store, and the answer unless it is lost. -/
def claim (redis : Expiring String K) (now : K) (key : String) (wire : Wire) :
    Expiring String K × Option Bool :=
  if wire.reached then
    let (redis', set) := redis.setNx now key claimTtl
    (redis', if wire.replied then some set else none)
  else (redis, none)

/-- `NostrAuth::from_request_parts`: `extract_auth_event`, then
`validate_nip98_request`. -/
def validateNip98Request (env : Env) (redis : Expiring String K) (now : Clock K) (wire : Wire)
    (parts : Parts) (config : Config) :
    Expiring String K × Except AuthError ValidatedNostrAuth :=
  match extractAuthEvent parts with
  | .error e => (redis, .error e)
  | .ok event => match checkNip98 env now.timestamp parts config event with
    | .error e => (redis, .error e)
    | .ok auth => match claim redis now.1 ("nip98:v1:jti:" ++ auth.event_id) wire with
      | (redis', none) => (redis', .error .redisUnavailable)
      | (redis', some false) => (redis', .error .replayDetected)
      | (redis', some true) => (redis', .ok auth)

/-- `verify_ws_auth`. -/
def verifyWsAuth (env : Env) (redis : Expiring String K) (now : Clock K) (wire : Wire)
    (raw : RawEvent) (circle_id : Uuid) : Expiring String K × Except String Pubkey :=
  match checkWsAuth env now.timestamp raw circle_id with
  | .error e => (redis, .error e)
  | .ok event => match claim redis now.1 ("circle-ws:v1:jti:" ++ event.id) wire with
    | (redis', none) => (redis', .error "auth service unavailable")
    | (redis', some false) => (redis', .error "auth event replay detected")
    | (redis', some true) => (redis', .ok event.pubkey)

end Clock

end Auth
end SentinelMesh
