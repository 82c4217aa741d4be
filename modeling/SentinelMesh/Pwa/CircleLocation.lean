/-
# Location envelopes of a circle

`encryptCircleLocationV1` and `decryptCircleLocationV1` of `services/e2eeService.ts`: a
location is the content of an event its sender signs, and the event is encrypted under the
key of the circle's epoch, bound to both.

AES-GCM with its base64 form, `JSON.stringify` and `JSON.parse`, and `verifyEvent` are
parameters, as is the transform of an approximate location, which is floating point.  A
number of JavaScript is a rational number or none, and times are integers.  What a throw or a
`null` leads to is `none`.

`decrypt_encrypt` is what the two do together: from half a minute before its capture until it
expires, an envelope opens to the location that was put into it, for a roster that has the sender,
and to nothing for another.
-/

import SentinelMesh.Pwa.Vault
import Mathlib.Data.List.Sort
import Mathlib.Data.Rat.Defs

namespace SentinelMesh
namespace Pwa
namespace CircleLocation

/-! ### Values -/

/-- A number of JavaScript: finite, or an infinity or not a number. -/
inductive Number
  | finite (x : ℚ)
  | nonFinite
  deriving DecidableEq

/-- A value in a JSON object, as far as types are told apart. -/
inductive Value
  | number (x : Number)
  | string (s : String)
  | other
  deriving DecidableEq

/-- What `JSON.parse` returns: an object by its own keys, or something else. -/
inductive Json
  | object (fields : List (String × Value))
  | other
  deriving DecidableEq

/-- `Number.MAX_SAFE_INTEGER`. -/
def maxSafeInteger : ℕ := 2 ^ 53 - 1

/-- `Number.isSafeInteger`. -/
def isSafeInteger (x : ℚ) : Bool := decide (x.den = 1 ∧ |x.num| ≤ maxSafeInteger)

/-- `Math.max`. -/
def Number.max : Number → Number → Number
  | .finite x, .finite y => .finite (if x < y then y else x)
  | _, _ => .nonFinite

/-- `LocationPrecision`. -/
inductive LocationPrecision
  | exact
  | approximate
  deriving DecidableEq

/-- The text of a precision. -/
def LocationPrecision.text : LocationPrecision → String
  | .exact => "exact"
  | .approximate => "approximate"

/-- `CircleLocationContentV1`. -/
structure CircleLocationContentV1 where
  lat : ℚ
  lng : ℚ
  accuracy_m : ℚ
  captured_at : ℤ
  precision : LocationPrecision
  deriving DecidableEq

/-- `VerifiedCircleLocationV1`. -/
structure VerifiedCircleLocationV1 extends CircleLocationContentV1 where
  pubkey : Pubkey
  event_id : String
  expires_at : ℕ
  deriving DecidableEq

/-- `VerifiedEvent` of `nostr-tools`, with a time that may be any integer. -/
structure VerifiedEvent where
  id : String
  pubkey : Pubkey
  created_at : ℤ
  kind : ℕ
  tags : List (List String)
  content : String
  sig : String
  deriving DecidableEq

/-- The libraries. -/
structure Crypto where
  /-- AES-GCM with the base64 form: an initialization vector, the key, the additional data. -/
  encrypt : ℕ → Bytes → String → String → String
  /-- The other way; `none` where the text is no base64 or decryption throws. -/
  decrypt : Bytes → String → String → Option String
  stringifyEvent : VerifiedEvent → String
  parseEvent : String → Option VerifiedEvent
  stringify : Json → String
  parse : String → Option Json
  verifyEvent : VerifiedEvent → Bool
  /-- `approximateLocationForSession`: the cell of a place, and its size. -/
  approximateLocation : Number → Number → Number × Number × Number

/-- **What the libraries are relied on for.**  Decryption under the same key and data
returns the text, and parsing what was written. -/
structure Crypto.Lawful (crypto : Crypto) : Prop where
  decrypt_encrypt : ∀ iv key aad text, crypto.decrypt key aad (crypto.encrypt iv key aad text) = some text
  parseEvent_stringify : ∀ event, crypto.parseEvent (crypto.stringifyEvent event) = some event
  parse_stringify : ∀ fields : List (String × Value), (fields.map Prod.fst).Nodup →
    (∀ f ∈ fields, f.2 ≠ .other ∧ f.2 ≠ .number .nonFinite) →
    crypto.parse (crypto.stringify (.object fields)) = some (.object fields)

/-! ### The checks -/

/-- `CIRCLE_LOCATION_EVENT_KIND`. -/
def circleLocationEventKind : ℕ := 30080

/-- `LOCATION_MAX_AGE_SECONDS`. -/
def locationMaxAgeSeconds : ℕ := 5 * 60

/-- `LOCATION_FUTURE_SKEW_SECONDS`. -/
def locationFutureSkewSeconds : ℕ := 30

/-- `locationAad`, as text. -/
def locationAad (circleId : Uuid) (keyEpoch : ℤ) : String :=
  "sentinelmesh:circle-location:v1" ++ "|" ++ circleId ++ "|" ++ toString keyEpoch

/-- A field that is a finite number between two bounds. -/
def numberField (fields : List (String × Value)) (name : String) (lo hi : ℚ) : Option ℚ :=
  match fields.lookup name with
  | some (.number (.finite x)) => if lo ≤ x ∧ x ≤ hi then some x else none
  | _ => none

/-- `Object.keys(record).sort().join(',')`. -/
def sortedKeys (fields : List (String × Value)) : String :=
  ",".intercalate ((fields.map Prod.fst).insertionSort (· ≤ ·))

/-- `record.captured_at`, where it is a safe integer. -/
def capturedAtField (fields : List (String × Value)) : Option ℤ :=
  match fields.lookup "captured_at" with
  | some (.number (.finite x)) => if isSafeInteger x then some x.num else none
  | _ => none

/-- `record.precision`, where it is one. -/
def precisionField (fields : List (String × Value)) : Option LocationPrecision :=
  if fields.lookup "precision" = some (.string "exact") then some .exact
  else if fields.lookup "precision" = some (.string "approximate") then some .approximate
  else none

/-- `validCoordinateContent`, and the content it has. -/
def validCoordinateContent : Json → Option CircleLocationContentV1
  | .other => none
  | .object fields => do
    guard (sortedKeys fields = "accuracy_m,captured_at,lat,lng,precision")
    let lat ← numberField fields "lat" (-90) 90
    let lng ← numberField fields "lng" (-180) 180
    let accuracy_m ← numberField fields "accuracy_m" 0 100000
    let captured_at ← capturedAtField fields
    let precision ← precisionField fields
    pure { lat, lng, accuracy_m, captured_at, precision }

/-- `/^\d+$/`. -/
def isDigits (s : String) : Bool := s.toList ≠ [] ∧ s.toList.all Char.isDigit

/-- `/^[0-9a-f-]{36}$/i`. -/
def isNonce (s : String) : Bool :=
  decide (s.toList.length = 36) && s.toList.all fun c => isHexDigit c || decide (c = '-')

/-- The value of the only tag with a name. -/
def tagValue (tags : List (List String)) (name : String) : Option String :=
  match tags.filter fun tag => decide (tag.head? = some name) with
  | [[_, value]] => some value
  | _ => none

/-- `exactLocationTags`: four tags, one of each name, and the expiry. -/
def exactLocationTags (event : VerifiedEvent) (circleId : Uuid) (keyEpoch : ℤ) : Option ℕ := do
  guard (event.tags.length = 4)
  let circle ← tagValue event.tags "circle"
  let epoch ← tagValue event.tags "epoch"
  let expires ← tagValue event.tags "expires"
  let nonce ← tagValue event.tags "nonce"
  guard (circle = circleId ∧ epoch = toString keyEpoch ∧ isDigits expires = true ∧
    isNonce nonce = true)
  let expiresAt := Nat.ofDigitChars 10 expires.toList 0
  guard (expiresAt ≤ maxSafeInteger)
  pure expiresAt

/-- `decryptCircleLocationV1`. -/
def decryptCircleLocationV1 (crypto : Crypto) (circleKey : Bytes) (ciphertext : String)
    (circleId : Uuid) (keyEpoch : ℤ) (activeMemberPubkeys : List Pubkey) (now : ℤ) :
    Option VerifiedCircleLocationV1 := do
  let plaintext ← crypto.decrypt circleKey (locationAad circleId keyEpoch) ciphertext
  let event ← crypto.parseEvent plaintext
  guard (crypto.verifyEvent event = true ∧ event.kind = circleLocationEventKind ∧
    event.created_at ≤ now + locationFutureSkewSeconds ∧
    toAsciiLowercase event.pubkey ∈ activeMemberPubkeys)
  let expiresAt ← exactLocationTags event circleId keyEpoch
  guard (now < expiresAt ∧ expiresAt ≤ event.created_at + locationMaxAgeSeconds)
  let json ← crypto.parse event.content
  let content ← validCoordinateContent json
  guard (content.captured_at = event.created_at ∧
    content.captured_at ≤ now + locationFutureSkewSeconds ∧
    now - locationMaxAgeSeconds ≤ content.captured_at)
  pure { content with pubkey := event.pubkey, event_id := event.id, expires_at := expiresAt }

/-! ### The sender -/

/-- The event template of a location. -/
structure EventTemplate where
  kind : ℕ
  created_at : ℤ
  tags : List (List String)
  content : String

/-- A location as the sender's device gives it. -/
structure Position where
  lat : Number
  lng : Number
  accuracy_m : Number
  captured_at : ℤ

/-- The object that is the content of an event. -/
def contentFields (lat lng accuracy_m captured_at : Number) (precision : LocationPrecision) :
    List (String × Value) :=
  [("lat", .number lat), ("lng", .number lng), ("accuracy_m", .number accuracy_m),
    ("captured_at", .number captured_at), ("precision", .string precision.text)]

/-- The content before it is signed. -/
def contentOf (crypto : Crypto) (location : Position) (precision : LocationPrecision) :
    List (String × Value) :=
  let capturedAt := Number.finite location.captured_at
  match precision with
  | .exact => contentFields location.lat location.lng location.accuracy_m capturedAt .exact
  | .approximate =>
    let (lat, lng, cell_m) := crypto.approximateLocation location.lat location.lng
    contentFields lat lng (location.accuracy_m.max cell_m) capturedAt .approximate

/-- `encryptCircleLocationV1`, by what it throws or returns.  `sign` is
`signWithActiveIdentity`, `nonce` is `crypto.randomUUID()`, and `iv` what is drawn for the
encryption. -/
def encryptCircleLocationV1 (crypto : Crypto) (sign : EventTemplate → Option VerifiedEvent)
    (nonce : String) (iv : ℕ) (circleKey : Bytes) (circleId : Uuid) (keyEpoch : ℤ)
    (location : Position) (precision : LocationPrecision) (expiresAt : ℤ) : Option String := do
  guard (circleId ≠ "" ∧ 1 ≤ keyEpoch ∧ keyEpoch ≤ maxSafeInteger)
  let content := contentOf crypto location precision
  let _ ← validCoordinateContent (.object content)
  guard (|expiresAt| ≤ maxSafeInteger ∧ location.captured_at < expiresAt ∧
    expiresAt ≤ location.captured_at + locationMaxAgeSeconds)
  let event ← sign
    { kind := circleLocationEventKind
      created_at := location.captured_at
      tags := [["circle", circleId], ["epoch", toString keyEpoch], ["expires", toString expiresAt],
        ["nonce", nonce]]
      content := crypto.stringify (.object content) }
  pure (crypto.encrypt iv circleKey (locationAad circleId keyEpoch) (crypto.stringifyEvent event))

/-- **What a signer is relied on for.**  It signs the template it is given, with its key, so
that the event verifies. -/
def Signs (crypto : Crypto) (sign : EventTemplate → Option VerifiedEvent) (pubkey : Pubkey) : Prop :=
  ∀ template event, sign template = some event → crypto.verifyEvent event = true ∧
    event.pubkey = pubkey ∧ event.kind = template.kind ∧ event.created_at = template.created_at ∧
    event.tags = template.tags ∧ event.content = template.content

/-! ### There and back -/

/-- What a decryption has checked. -/
theorem decryptCircleLocationV1_eq_some {crypto : Crypto} {circleKey : Bytes} {ciphertext : String}
    {circleId : Uuid} {keyEpoch : ℤ} {roster : List Pubkey} {now : ℤ}
    {loc : VerifiedCircleLocationV1} :
    decryptCircleLocationV1 crypto circleKey ciphertext circleId keyEpoch roster now = some loc ↔
      ∃ plaintext, crypto.decrypt circleKey (locationAad circleId keyEpoch) ciphertext =
          some plaintext ∧
        ∃ event, crypto.parseEvent plaintext = some event ∧
          (crypto.verifyEvent event = true ∧ event.kind = circleLocationEventKind ∧
            event.created_at ≤ now + locationFutureSkewSeconds ∧
            toAsciiLowercase event.pubkey ∈ roster) ∧
          ∃ expiresAt, exactLocationTags event circleId keyEpoch = some expiresAt ∧
            (now < expiresAt ∧ expiresAt ≤ event.created_at + locationMaxAgeSeconds) ∧
            ∃ json, crypto.parse event.content = some json ∧
              ∃ content, validCoordinateContent json = some content ∧
                (content.captured_at = event.created_at ∧
                  content.captured_at ≤ now + locationFutureSkewSeconds ∧
                  now - locationMaxAgeSeconds ≤ content.captured_at) ∧
                { content with
                  pubkey := event.pubkey, event_id := event.id, expires_at := expiresAt } = loc := by
  simp only [decryptCircleLocationV1, Option.bind_eq_bind, Option.bind_eq_some_iff,
    Option.guard_eq_some', Option.pure_def, Option.some.injEq, exists_const]

/-- The digits of a number are digits, and of that number. -/
theorem isDigits_toString (n : ℕ) :
    isDigits (toString n) = true ∧ Nat.ofDigitChars 10 (toString n).toList 0 = n := by
  have hlist : (toString n).toList = Nat.toDigits 10 n := Nat.toList_repr
  have hne : Nat.toDigits 10 n ≠ [] := List.ne_nil_of_length_pos Nat.length_toDigits_pos
  unfold isDigits
  rw [hlist]
  refine ⟨?_, by simp⟩
  simp only [ne_eq, hne, not_false_eq_true, List.all_eq_true, true_and, decide_eq_true_eq]
  exact fun c hc => Nat.isDigit_of_mem_toDigits (by omega) (by omega) hc

theorem numberField_eq_some {fields : List (String × Value)} {name : String} {lo hi x : ℚ}
    (h : numberField fields name lo hi = some x) :
    fields.lookup name = some (.number (.finite x)) := by
  unfold numberField at h
  split at h
  · rename_i y hy
    split at h
    · rw [hy, Option.some.inj h]
    · cases h
  · cases h

/-- A content that is valid is made of finite numbers. -/
theorem validCoordinateContent_contentFields {lat lng accuracy_m captured_at : Number}
    {precision : LocationPrecision} {content : CircleLocationContentV1}
    (h : validCoordinateContent (.object (contentFields lat lng accuracy_m captured_at precision)) =
      some content) :
    lat = .finite content.lat ∧ lng = .finite content.lng ∧
      accuracy_m = .finite content.accuracy_m ∧ captured_at = .finite content.captured_at := by
  simp only [validCoordinateContent, Option.bind_eq_bind, Option.bind_eq_some_iff,
    Option.pure_def, Option.some.injEq] at h
  obtain ⟨_, _, lat', hlat, lng', hlng, acc', hacc, cap', hcap, _, _, rfl⟩ := h
  have hlat := numberField_eq_some hlat
  have hlng := numberField_eq_some hlng
  have hacc := numberField_eq_some hacc
  simp only [contentFields, List.lookup_cons] at hlat hlng hacc
  refine ⟨by simpa using hlat, by simpa using hlng, by simpa using hacc, ?_⟩
  unfold capturedAtField contentFields at hcap
  simp only [List.lookup_cons] at hcap
  split at hcap
  · rename_i x hx
    split at hcap
    · rename_i hsafe
      obtain rfl := Option.some.inj hcap
      have hden : x.den = 1 := (of_decide_eq_true hsafe).1
      have hcast : ((x.num : ℤ) : ℚ) = x := Rat.den_eq_one_iff x |>.1 hden
      dsimp only
      rw [hcast]
      simpa using hx
    · cases hcap
  · cases hcap

/-- The content of a location is read back as it was written. -/
theorem parse_stringify_contentOf {crypto : Crypto} (hc : crypto.Lawful) {location : Position}
    {precision : LocationPrecision} {content : CircleLocationContentV1}
    (h : validCoordinateContent (.object (contentOf crypto location precision)) = some content) :
    crypto.parse (crypto.stringify (.object (contentOf crypto location precision))) =
        some (.object (contentOf crypto location precision)) ∧
      content.captured_at = location.captured_at := by
  obtain ⟨lat, lng, accuracy_m, hof⟩ : ∃ lat lng accuracy_m, contentOf crypto location precision =
      contentFields lat lng accuracy_m (.finite location.captured_at) precision := by
    cases precision with
    | exact => exact ⟨_, _, _, rfl⟩
    | approximate => exact ⟨_, _, _, rfl⟩
  rw [hof] at h ⊢
  obtain ⟨rfl, rfl, rfl, hcap⟩ := validCoordinateContent_contentFields h
  refine ⟨hc.parse_stringify _ (by simp [contentFields]) ?_, ?_⟩
  · simp [contentFields]
  · have hcap := Number.finite.inj hcap
    exact_mod_cast hcap.symm

/-- The four tags of a location are read back. -/
theorem exactLocationTags_of {event : VerifiedEvent} {circleId : Uuid} {keyEpoch : ℤ} {expiresAt : ℕ}
    {nonce : String} (hnonce : isNonce nonce = true) (hsafe : expiresAt ≤ maxSafeInteger)
    (htags : event.tags = [["circle", circleId], ["epoch", toString keyEpoch],
      ["expires", toString expiresAt], ["nonce", nonce]]) :
    exactLocationTags event circleId keyEpoch = some expiresAt := by
  obtain ⟨hdigits, hvalue⟩ := isDigits_toString expiresAt
  unfold exactLocationTags
  have hcircle : tagValue event.tags "circle" = some circleId := by simp [htags, tagValue]
  have hepoch : tagValue event.tags "epoch" = some (toString keyEpoch) := by simp [htags, tagValue]
  have hexp : tagValue event.tags "expires" = some (toString expiresAt) := by simp [htags, tagValue]
  have huuid : tagValue event.tags "nonce" = some nonce := by simp [htags, tagValue]
  simp only [Option.bind_eq_bind, Option.bind_eq_some_iff, Option.guard_eq_some',
    Option.pure_def, Option.some.injEq, exists_const]
  refine ⟨by simp [htags], _, hcircle, _, hepoch, _, hexp, _, huuid,
    ⟨rfl, rfl, hdigits, hnonce⟩, ?_, hvalue⟩
  rw [hvalue]
  exact hsafe

/-- **What is encrypted is decrypted**, by a holder of the key, until it expires, exactly
when the roster has the sender. -/
theorem decrypt_encrypt {crypto : Crypto} (hc : crypto.Lawful)
    {sign : EventTemplate → Option VerifiedEvent} {pubkey : Pubkey} (hs : Signs crypto sign pubkey)
    {nonce : String} (hnonce : isNonce nonce = true)
    {iv : ℕ} {circleKey : Bytes} {circleId : Uuid} {keyEpoch : ℤ} {location : Position}
    {precision : LocationPrecision} {expiresAt : ℕ} {ciphertext : String}
    (h : encryptCircleLocationV1 crypto sign nonce iv circleKey circleId keyEpoch location precision
      expiresAt = some ciphertext) :
    ∃ loc : VerifiedCircleLocationV1, loc.pubkey = pubkey ∧
      validCoordinateContent (.object (contentOf crypto location precision)) =
        some loc.toCircleLocationContentV1 ∧
      loc.captured_at = location.captured_at ∧ loc.expires_at = expiresAt ∧
      ∀ roster now, decryptCircleLocationV1 crypto circleKey ciphertext circleId keyEpoch roster now =
        if toAsciiLowercase pubkey ∈ roster ∧
          location.captured_at - locationFutureSkewSeconds ≤ now ∧ now < expiresAt then some loc
        else none := by
  simp only [encryptCircleLocationV1, Option.bind_eq_bind, Option.bind_eq_some_iff,
    Option.pure_def, Option.some.injEq, Option.guard_eq_some'] at h
  obtain ⟨_, _, content, hvalid, _, ⟨hsafe, hlt, hage⟩, event, hsign, rfl⟩ := h
  obtain ⟨hparse, hcap⟩ := parse_stringify_contentOf hc hvalid
  obtain ⟨hverify, hpubkey, hkind, hcreated, htags, hcontent⟩ := hs _ _ hsign
  dsimp only at hkind hcreated htags hcontent
  have hsafe : expiresAt ≤ maxSafeInteger := by
    have hle := le_abs_self (expiresAt : ℤ)
    omega
  have hexpires : exactLocationTags event circleId keyEpoch = some expiresAt :=
    exactLocationTags_of hnonce hsafe htags
  refine ⟨{ content with pubkey := event.pubkey, event_id := event.id, expires_at := expiresAt },
    hpubkey, hvalid, hcap, rfl, fun roster now => ?_⟩
  rw [← hpubkey]
  by_cases hread : toAsciiLowercase event.pubkey ∈ roster ∧
      location.captured_at - locationFutureSkewSeconds ≤ now ∧ now < expiresAt
  · obtain ⟨hmem, hskew, hnow⟩ := hread
    rw [if_pos ⟨hmem, hskew, hnow⟩, decryptCircleLocationV1_eq_some]
    refine ⟨_, hc.decrypt_encrypt _ _ _ _, event, hc.parseEvent_stringify _,
      ⟨hverify, hkind, ?_, hmem⟩, expiresAt, hexpires, ⟨hnow, ?_⟩, _, ?_, content, hvalid,
      ⟨?_, ?_, ?_⟩, rfl⟩
    · omega
    · omega
    · rw [hcontent]
      exact hparse
    · rw [hcap, hcreated]
    · omega
    · omega
  · rw [if_neg hread, Option.eq_none_iff_forall_ne_some]
    intro loc hloc
    obtain ⟨text, htext, event', hevent', ⟨_, _, hskew, hmem⟩, expires, hexpires', ⟨hnow, _⟩, _⟩ :=
      decryptCircleLocationV1_eq_some.1 hloc
    rw [hc.decrypt_encrypt] at htext
    obtain rfl := Option.some.inj htext
    rw [hc.parseEvent_stringify] at hevent'
    obtain rfl := Option.some.inj hevent'
    rw [hexpires] at hexpires'
    obtain rfl := Option.some.inj hexpires'
    exact hread ⟨hmem, by omega, hnow⟩

end CircleLocation
end Pwa
end SentinelMesh
