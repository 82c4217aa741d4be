/-
# There and back for a location

What `decryptCircleLocationV1` of `services/e2eeService.ts` makes of an envelope that
`encryptCircleLocationV1` made: the location, its signer and its expiry, inside the window of the
envelope and for a roster with the signer, and nothing under another circle, epoch or key
(`location_round_trip`).

The circle and the epoch are the associated data, as one text; the epoch stands last and has no
separator in it, so that no two contexts share a text (`locationAad_inj`).

An expiry is written with its sign and read as digits: an envelope that expires before 1970 opens
to nothing (`closed_of_negative`).
-/

import SentinelMesh.Pwa.Published

namespace SentinelMesh
namespace Pwa
namespace CircleLocation

open Lib

/-! ### The context as one text -/

/-- A last field that holds no separator can be told apart from what stands before it. -/
theorem lastField_inj {c : Char} {s s' t t' : List Char} (ht : c ∉ t) (ht' : c ∉ t')
    (h : s ++ c :: t = s' ++ c :: t') : s = s' ∧ t = t' := by
  have htake : ∀ {s t : List Char}, c ∉ t → (s ++ c :: t).reverse.takeWhile (· ≠ c) = t.reverse := by
    intro s t ht
    have hall : ∀ d ∈ t.reverse, decide (d ≠ c) = true := by
      intro d hd
      rw [decide_eq_true_iff]
      rintro rfl
      exact ht (List.mem_reverse.1 hd)
    rw [List.reverse_append, List.reverse_cons, List.append_assoc,
      List.takeWhile_append_of_pos hall]
    simp
  have hfield : t.reverse = t'.reverse := by
    rw [← htake ht, h, htake ht']
  obtain rfl : t = t' := List.reverse_injective hfield
  exact ⟨List.append_cancel_right h, rfl⟩

/-- The text of a number is digits, with a sign before them if it is negative. -/
theorem toList_toString (e : ℤ) : (toString e).toList =
    if e < 0 then '-' :: Nat.toDigits 10 e.natAbs else Nat.toDigits 10 e.natAbs := by
  cases e with
  | ofNat n =>
      rw [if_neg (by simp)]
      exact Nat.toList_repr
  | negSucc n =>
      rw [if_pos (Int.negSucc_lt_zero n)]
      have htext : toString (Int.negSucc n) = "-" ++ Nat.repr (n + 1) := rfl
      rw [htext, String.toList_append, Nat.toList_repr]
      rfl

theorem isDigit_of_mem_toDigits {n : ℕ} {c : Char} (h : c ∈ Nat.toDigits 10 n) :
    c.isDigit = true :=
  Nat.isDigit_of_mem_toDigits (by omega) (by omega) h

theorem toDigits_inj {m n : ℕ} (h : Nat.toDigits 10 m = Nat.toDigits 10 n) : m = n := by
  rw [← Nat.ofDigitChars_ten_toDigits (n := m), h, Nat.ofDigitChars_ten_toDigits]

theorem toString_int_inj {e e' : ℤ} (h : toString e = toString e') : e = e' := by
  have hlist := congrArg String.toList h
  rw [toList_toString, toList_toString] at hlist
  have hsign : ∀ n ds, '-' :: ds ≠ Nat.toDigits 10 n := by
    intro n ds hds
    have hminus : '-' ∈ Nat.toDigits 10 n := hds ▸ List.mem_cons_self ..
    exact absurd (isDigit_of_mem_toDigits hminus) (by decide)
  split_ifs at hlist with hneg hneg' hneg'
  · have hdigits := toDigits_inj (List.cons.inj hlist).2
    omega
  · exact absurd hlist (hsign _ _)
  · exact absurd hlist.symm (hsign _ _)
  · have hdigits := toDigits_inj hlist
    omega

/-- **No two contexts share their associated data**, whatever the ids of circles are. -/
theorem locationAad_inj {circleId circleId' : Uuid} {keyEpoch keyEpoch' : ℤ}
    (h : locationAad circleId keyEpoch = locationAad circleId' keyEpoch') :
    circleId = circleId' ∧ keyEpoch = keyEpoch' := by
  have hbar : ∀ e : ℤ, '|' ∉ (toString e).toList := by
    intro e hin
    rw [toList_toString] at hin
    split_ifs at hin
    · rcases List.mem_cons.1 hin with hsign | hdigit
      · exact absurd hsign (by decide)
      · exact absurd (isDigit_of_mem_toDigits hdigit) (by decide)
    · exact absurd (isDigit_of_mem_toDigits hin) (by decide)
  have htext : ∀ (id : Uuid) (e : ℤ), (locationAad id e).toList =
      ("sentinelmesh:circle-location:v1|".toList ++ id.toList) ++ '|' :: (toString e).toList := by
    intro id e
    unfold locationAad
    simp
  have hlist := congrArg String.toList h
  rw [htext, htext] at hlist
  obtain ⟨hid, hepoch⟩ := lastField_inj (hbar keyEpoch) (hbar keyEpoch') hlist
  exact ⟨String.toList_inj.1 (List.append_cancel_left hid),
    toString_int_inj (String.toList_inj.1 hepoch)⟩

/-- **What AES-GCM is relied on for beyond opening**: under another key, or with other associated
data, decryption throws. -/
def Crypto.Ideal (crypto : Crypto) : Prop :=
  ∀ iv key aad text key' aad', key' ≠ key ∨ aad' ≠ aad →
    crypto.decrypt key' aad' (crypto.encrypt iv key aad text) = none

/-- An envelope opens in its own context alone. -/
theorem decrypt_other_context {crypto : Crypto} (hi : crypto.Ideal) {circleKey circleKey' : Bytes}
    {circleId circleId' : Uuid} {keyEpoch keyEpoch' : ℤ}
    (h : circleKey' ≠ circleKey ∨ circleId' ≠ circleId ∨ keyEpoch' ≠ keyEpoch) (iv : ℕ)
    (text : String) (roster : List Pubkey) (now : ℤ) :
    decryptCircleLocationV1 crypto circleKey'
      (crypto.encrypt iv circleKey (locationAad circleId keyEpoch) text) circleId' keyEpoch' roster
        now = none := by
  have hother : circleKey' ≠ circleKey ∨
      locationAad circleId' keyEpoch' ≠ locationAad circleId keyEpoch := by
    rcases h with hkey | hcontext
    · exact Or.inl hkey
    · right
      intro haad
      obtain ⟨hid, hepoch⟩ := locationAad_inj haad
      rcases hcontext with hid' | hepoch'
      · exact hid' hid
      · exact hepoch' hepoch
  unfold decryptCircleLocationV1
  rw [hi iv circleKey _ text circleKey' _ hother]
  rfl

/-! ### Valid locations -/

/-- Finite coordinates in their ranges, an accuracy in its own, and an integer time. -/
structure Position.Valid (p : Position) : Prop where
  lat : ∃ x : ℚ, p.lat = .finite x ∧ -90 ≤ x ∧ x ≤ 90
  lng : ∃ x : ℚ, p.lng = .finite x ∧ -180 ≤ x ∧ x ≤ 180
  accuracy_m : ∃ x : ℚ, p.accuracy_m = .finite x ∧ 0 ≤ x ∧ x ≤ 100000
  captured_at : |p.captured_at| ≤ maxSafeInteger

/-- The sorted keys of a content, whatever is in it. -/
theorem sortedKeys_contentFields (lat lng acc captured_at : Number) (precision : LocationPrecision) :
    sortedKeys (contentFields lat lng acc captured_at precision) =
      "accuracy_m,captured_at,lat,lng,precision" := by
  show sortedKeys [("lat", _), ("lng", _), ("accuracy_m", _), ("captured_at", _),
    ("precision", _)] = _
  simp only [sortedKeys, List.map_cons, List.map_nil]
  decide

/-- **When a content of finite numbers is accepted.** -/
theorem valid_contentFields_iff {lat lng acc : ℚ} {captured_at : ℤ}
    (hcap : |captured_at| ≤ maxSafeInteger) (precision : LocationPrecision) :
    (validCoordinateContent (.object (contentFields (.finite lat) (.finite lng) (.finite acc)
        (.finite captured_at) precision))).isSome = true ↔
      (-90 ≤ lat ∧ lat ≤ 90) ∧ (-180 ≤ lng ∧ lng ≤ 180) ∧ (0 ≤ acc ∧ acc ≤ 100000) := by
  have hlat : numberField (contentFields (.finite lat) (.finite lng) (.finite acc)
      (.finite captured_at) precision) "lat" (-90) 90 =
        if -90 ≤ lat ∧ lat ≤ 90 then some lat else none := rfl
  have hlng : numberField (contentFields (.finite lat) (.finite lng) (.finite acc)
      (.finite captured_at) precision) "lng" (-180) 180 =
        if -180 ≤ lng ∧ lng ≤ 180 then some lng else none := rfl
  have hacc : numberField (contentFields (.finite lat) (.finite lng) (.finite acc)
      (.finite captured_at) precision) "accuracy_m" 0 100000 =
        if 0 ≤ acc ∧ acc ≤ 100000 then some acc else none := rfl
  have hsafe : isSafeInteger (captured_at : ℚ) = true := by
    unfold isSafeInteger
    simpa using hcap
  have htime : capturedAtField (contentFields (.finite lat) (.finite lng) (.finite acc)
      (.finite captured_at) precision) = some captured_at := if_pos hsafe
  have hprecision : precisionField (contentFields (.finite lat) (.finite lng) (.finite acc)
      (.finite captured_at) precision) = some precision := by
    cases precision <;> rfl
  simp only [validCoordinateContent, sortedKeys_contentFields, guard_true, Option.bind_eq_bind, hlat,
    hlng, hacc, htime, hprecision, Option.bind_some, Option.pure_def]
  by_cases h₁ : -90 ≤ lat ∧ lat ≤ 90
  · by_cases h₂ : -180 ≤ lng ∧ lng ≤ 180
    · by_cases h₃ : 0 ≤ acc ∧ acc ≤ 100000
      · simp [h₁, h₂, h₃]
      · simp [h₁, h₂, h₃]
    · simp [h₁, h₂]
  · simp [h₁]

/-- The content of a valid location is accepted. -/
theorem Position.Valid.content {p : Position} (h : p.Valid) (crypto : Crypto) :
    ∃ content, validCoordinateContent (.object (contentOf crypto p .exact)) = some content := by
  obtain ⟨lat, hlat, hlatitude⟩ := h.lat
  obtain ⟨lng, hlng, hlongitude⟩ := h.lng
  obtain ⟨acc, hacc, haccuracy⟩ := h.accuracy_m
  have hof : contentOf crypto p .exact = contentFields (.finite lat) (.finite lng) (.finite acc)
      (.finite p.captured_at) .exact := by
    unfold contentOf
    rw [hlat, hlng, hacc]
  rw [hof, ← Option.isSome_iff_exists, valid_contentFields_iff h.captured_at]
  exact ⟨hlatitude, hlongitude, haccuracy⟩

/-- What is read is the location that was sent. -/
structure VerifiedCircleLocationV1.IsOf (loc : VerifiedCircleLocationV1) (p : Position)
    (pubkey : Pubkey) (expiresAt : ℤ) : Prop where
  lat : p.lat = .finite loc.lat
  lng : p.lng = .finite loc.lng
  accuracy_m : p.accuracy_m = .finite loc.accuracy_m
  captured_at : loc.captured_at = p.captured_at
  precision : loc.precision = .exact
  signer : loc.pubkey = pubkey
  expiry : loc.expires_at = expiresAt

theorem precision_of_validCoordinateContent {lat lng accuracy_m captured_at : Number}
    {content : CircleLocationContentV1}
    (h : validCoordinateContent (.object (contentFields lat lng accuracy_m captured_at .exact)) =
      some content) : content.precision = .exact := by
  simp only [validCoordinateContent, Option.bind_eq_bind, Option.bind_eq_some_iff,
    Option.pure_def, Option.some.injEq] at h
  obtain ⟨_, _, _, _, _, _, _, _, _, _, precision, hprecision, rfl⟩ := h
  have hexact : precisionField (contentFields lat lng accuracy_m captured_at .exact) =
      some .exact := rfl
  exact Option.some.inj (hprecision.symm.trans hexact)

/-! ### The round trip -/

/-- A location is encrypted, by a signer that signs and with a valid context and
expiry, exactly when its content is accepted. -/
theorem encrypt_isSome_iff {crypto : Crypto} {sign : EventTemplate → Option VerifiedEvent}
    (hsign : ∀ template, (sign template).isSome = true) {circleId : Uuid} (hid : circleId ≠ "")
    {keyEpoch : ℤ} (hepoch : 1 ≤ keyEpoch ∧ keyEpoch ≤ maxSafeInteger) {location : Position}
    {expiresAt : ℤ} (hsafe : |expiresAt| ≤ maxSafeInteger) (hlt : location.captured_at < expiresAt)
    (hage : expiresAt ≤ location.captured_at + locationMaxAgeSeconds)
    (precision : LocationPrecision) (nonce : String) (iv : ℕ) (circleKey : Bytes) :
    (encryptCircleLocationV1 crypto sign nonce iv circleKey circleId keyEpoch location precision
        expiresAt).isSome = true ↔
      (validCoordinateContent (.object (contentOf crypto location precision))).isSome = true := by
  obtain ⟨event, hevent⟩ := Option.isSome_iff_exists.1 (hsign
    { kind := circleLocationEventKind
      created_at := location.captured_at
      tags := [["circle", circleId], ["epoch", toString keyEpoch], ["expires", toString expiresAt],
        ["nonce", nonce]]
      content := crypto.stringify (.object (contentOf crypto location precision)) })
  have hcontext : (guard (circleId ≠ "" ∧ 1 ≤ keyEpoch ∧ keyEpoch ≤ maxSafeInteger) : Option Unit) =
      some () := if_pos ⟨hid, hepoch⟩
  have hexpiry : (guard (|expiresAt| ≤ maxSafeInteger ∧ location.captured_at < expiresAt ∧
      expiresAt ≤ location.captured_at + locationMaxAgeSeconds) : Option Unit) = some () :=
    if_pos ⟨hsafe, hlt, hage⟩
  unfold encryptCircleLocationV1
  simp only [Option.bind_eq_bind, hcontext, hexpiry, hevent, Option.bind_some]
  cases validCoordinateContent (.object (contentOf crypto location precision)) with
  | none => exact Iff.rfl
  | some content => exact ⟨fun _ => rfl, fun _ => rfl⟩

/-- A valid location is encrypted, by a signer that signs. -/
theorem encrypt_isSome {crypto : Crypto} {sign : EventTemplate → Option VerifiedEvent}
    (hsign : ∀ template, (sign template).isSome = true) {circleId : Uuid} (hid : circleId ≠ "")
    {keyEpoch : ℤ} (hepoch : 1 ≤ keyEpoch ∧ keyEpoch ≤ maxSafeInteger) {location : Position}
    (hvalid : location.Valid) {expiresAt : ℤ} (hsafe : |expiresAt| ≤ maxSafeInteger)
    (hlt : location.captured_at < expiresAt)
    (hage : expiresAt ≤ location.captured_at + locationMaxAgeSeconds) (nonce : String) (iv : ℕ)
    (circleKey : Bytes) :
    (encryptCircleLocationV1 crypto sign nonce iv circleKey circleId keyEpoch location .exact
      expiresAt).isSome = true :=
  (encrypt_isSome_iff hsign hid hepoch hsafe hlt hage .exact nonce iv circleKey).mpr
    (Option.isSome_iff_exists.mpr (hvalid.content crypto))

/-- What an encryption has made. -/
theorem eq_encrypt {crypto : Crypto} {sign : EventTemplate → Option VerifiedEvent} {nonce : String}
    {iv : ℕ} {circleKey : Bytes} {circleId : Uuid} {keyEpoch : ℤ} {location : Position}
    {precision : LocationPrecision} {expiresAt : ℤ} {ciphertext : String}
    (h : encryptCircleLocationV1 crypto sign nonce iv circleKey circleId keyEpoch location precision
      expiresAt = some ciphertext) :
    ∃ event, sign
        { kind := circleLocationEventKind
          created_at := location.captured_at
          tags := [["circle", circleId], ["epoch", toString keyEpoch],
            ["expires", toString expiresAt], ["nonce", nonce]]
          content := crypto.stringify (.object (contentOf crypto location precision)) } = some event ∧
      ciphertext = crypto.encrypt iv circleKey (locationAad circleId keyEpoch)
        (crypto.stringifyEvent event) := by
  simp only [encryptCircleLocationV1, Option.bind_eq_bind, Option.bind_eq_some_iff,
    Option.pure_def, Option.some.injEq, Option.guard_eq_some'] at h
  obtain ⟨_, _, _, _, _, _, event, hsign, rfl⟩ := h
  exact ⟨event, hsign, rfl⟩

/-- **A location makes the round trip.**  An envelope of a valid location that expires after 1970 is
made, and its holders of the key read the location, its signer and its expiry, for every roster with
the signer and every instant from half a minute before the capture until the expiry; for any other
roster or instant, and under any other circle, epoch or key, they read nothing. -/
theorem location_round_trip {crypto : Crypto} (hc : crypto.Lawful) (hi : crypto.Ideal)
    {sign : EventTemplate → Option VerifiedEvent} {pubkey : Pubkey} (hs : Signs crypto sign pubkey)
    (hsign : ∀ template, (sign template).isSome = true) {nonce : String}
    (hnonce : isNonce nonce = true) (iv : ℕ) (circleKey : Bytes) {circleId : Uuid}
    (hid : circleId ≠ "") {keyEpoch : ℤ} (hepoch : 1 ≤ keyEpoch ∧ keyEpoch ≤ maxSafeInteger)
    {location : Position} (hvalid : location.Valid) {expiresAt : ℤ} (hpositive : 0 ≤ expiresAt)
    (hsafe : |expiresAt| ≤ maxSafeInteger) (hlt : location.captured_at < expiresAt)
    (hage : expiresAt ≤ location.captured_at + locationMaxAgeSeconds) :
    ∃ ciphertext loc, encryptCircleLocationV1 crypto sign nonce iv circleKey circleId keyEpoch
        location .exact expiresAt = some ciphertext ∧ loc.IsOf location pubkey expiresAt ∧
      (∀ roster now,
        decryptCircleLocationV1 crypto circleKey ciphertext circleId keyEpoch roster now =
          if toAsciiLowercase pubkey ∈ roster ∧
            location.captured_at - locationFutureSkewSeconds ≤ now ∧ now < expiresAt then some loc
          else none) ∧
      ∀ circleKey' circleId' keyEpoch' roster now,
        circleKey' ≠ circleKey ∨ circleId' ≠ circleId ∨ keyEpoch' ≠ keyEpoch →
          decryptCircleLocationV1 crypto circleKey' ciphertext circleId' keyEpoch' roster now =
            none := by
  have hmade : (encryptCircleLocationV1 crypto sign nonce iv circleKey circleId keyEpoch location
      .exact expiresAt).isSome = true :=
    encrypt_isSome hsign hid hepoch hvalid hsafe hlt hage nonce iv circleKey
  obtain ⟨ciphertext, hcipher⟩ := Option.isSome_iff_exists.1 hmade
  obtain ⟨n, rfl⟩ := Int.eq_ofNat_of_zero_le hpositive
  obtain ⟨loc, hpubkey, hcontent, hcaptured, hexpires, hdecrypt⟩ := decrypt_encrypt hc hs hnonce hcipher
  obtain ⟨event, _, htext⟩ := eq_encrypt hcipher
  refine ⟨ciphertext, loc, hcipher, ?_, hdecrypt, ?_⟩
  · obtain ⟨hlat, hlng, hacc, _⟩ := validCoordinateContent_contentFields hcontent
    exact ⟨hlat, hlng, hacc, hcaptured, precision_of_validCoordinateContent hcontent, hpubkey,
      congrArg Int.ofNat hexpires⟩
  · intro circleKey' circleId' keyEpoch' roster now hother
    rw [htext]
    exact decrypt_other_context hi hother iv _ roster now

/-- **An envelope that expires before 1970 opens to nothing**: its expiry is not all digits. -/
theorem closed_of_negative {crypto : Crypto} (hc : crypto.Lawful)
    {sign : EventTemplate → Option VerifiedEvent} {pubkey : Pubkey} (hs : Signs crypto sign pubkey)
    {nonce : String} {iv : ℕ} {circleKey : Bytes} {circleId : Uuid} {keyEpoch : ℤ}
    {location : Position} {precision : LocationPrecision} {expiresAt : ℤ} (hneg : expiresAt < 0)
    {ciphertext : String}
    (h : encryptCircleLocationV1 crypto sign nonce iv circleKey circleId keyEpoch location precision
      expiresAt = some ciphertext) (roster : List Pubkey) (now : ℤ) :
    decryptCircleLocationV1 crypto circleKey ciphertext circleId keyEpoch roster now = none := by
  obtain ⟨event, hsign, rfl⟩ := eq_encrypt h
  obtain ⟨_, _, _, _, htags, _⟩ := hs _ _ hsign
  have hdigits : isDigits (toString expiresAt) = false := by
    unfold isDigits
    rw [toList_toString, if_pos hneg]
    simp
  have hexp : tagValue event.tags "expires" = some (toString expiresAt) := by simp [htags, tagValue]
  rw [Option.eq_none_iff_forall_ne_some]
  intro loc hloc
  obtain ⟨text, htext, event', hevent', _, expires, hexpires, _⟩ :=
    decryptCircleLocationV1_eq_some.1 hloc
  rw [hc.decrypt_encrypt] at htext
  obtain rfl := Option.some.inj htext
  rw [hc.parseEvent_stringify] at hevent'
  obtain rfl := Option.some.inj hevent'
  simp only [exactLocationTags, hexp, Option.bind_eq_bind, Option.bind_eq_some_iff,
    Option.guard_eq_some', Option.some.injEq] at hexpires
  obtain ⟨_, _, _, _, _, _, _, rfl, _, _, _, ⟨_, _, htrue, _⟩, _⟩ := hexpires
  rw [hdigits] at htrue
  cases htrue

/-! ### Stand-ins

The encryption is a numeral of the key, the data and the text. -/

/-- AES-GCM as a sealed box. -/
def idealCrypto : Crypto where
  encrypt _ key aad text := CircleClient.numeral (key.map UInt8.toNat, aad, text)
  decrypt key aad ciphertext := do
    let (key', aad', text) ←
      (CircleClient.ofNumeral ciphertext : Option (List ℕ × String × String))
    guard (key' = key.map UInt8.toNat ∧ aad' = aad)
    pure text
  stringifyEvent := CircleClient.numeral
  parseEvent := CircleClient.ofNumeral
  stringify := CircleClient.numeral
  parse := CircleClient.ofNumeral
  verifyEvent e := decide (e.sig = digits 128 '0')
  approximateLocation lat lng := (lat, lng, .finite 250)

theorem decrypt_idealCrypto (iv : ℕ) (key key' : Bytes) (aad aad' text : String) :
    idealCrypto.decrypt key' aad' (idealCrypto.encrypt iv key aad text) =
      if key.map UInt8.toNat = key'.map UInt8.toNat ∧ aad = aad' then some text else none := by
  unfold idealCrypto
  dsimp only
  rw [CircleClient.ofNumeral_numeral]
  split_ifs with h
  · obtain ⟨hkey, rfl⟩ := h
    simp [hkey]
  · simp [h]

theorem idealCrypto_lawful : idealCrypto.Lawful where
  decrypt_encrypt iv key aad text := by
    rw [decrypt_idealCrypto, if_pos ⟨rfl, rfl⟩]
  parseEvent_stringify := CircleClient.ofNumeral_numeral
  parse_stringify _ _ _ := CircleClient.ofNumeral_numeral _

theorem idealCrypto_ideal : idealCrypto.Ideal := by
  intro iv key aad text key' aad' hother
  rw [decrypt_idealCrypto, if_neg]
  rintro ⟨hkey, haad⟩
  rcases hother with hkey' | haad'
  · exact hkey' (List.map_injective_iff.2 (fun _ _ => UInt8.toNat_inj.1) hkey.symm)
  · exact haad' haad.symm

theorem idealCrypto_signs (pk : Pubkey) : Signs idealCrypto (CircleClient.demoSign pk) pk := by
  intro template event h
  obtain rfl := Option.some.inj h
  exact ⟨by simp [idealCrypto], rfl, rfl, rfl, rfl, rfl⟩

/-- A place at an instant. -/
def placeAt (captured_at : ℤ) : Position :=
  { lat := .finite 1, lng := .finite 2, accuracy_m := .finite 5, captured_at }

theorem valid_placeAt {captured_at : ℤ} (h : |captured_at| ≤ maxSafeInteger) :
    (placeAt captured_at).Valid where
  lat := ⟨1, rfl, by decide, by decide⟩
  lng := ⟨2, rfl, by decide, by decide⟩
  accuracy_m := ⟨5, rfl, by decide, by decide⟩
  captured_at := h

/-- A location of 1970 is read by the roster of its sender. -/
theorem location_round_trip_demo :
    idealCrypto.Lawful ∧ idealCrypto.Ideal ∧ ∃ ciphertext loc,
      encryptCircleLocationV1 idealCrypto (CircleClient.demoSign Circles.demoOwner)
        "00000000-0000-0000-0000-000000000000" 0 [] "c" 2 (placeAt 0) .exact 60 = some ciphertext ∧
      loc.IsOf (placeAt 0) Circles.demoOwner 60 ∧
      decryptCircleLocationV1 idealCrypto [] ciphertext "c" 2 [Circles.demoOwner] 0 = some loc := by
  have hvalid : (placeAt 0).Valid := valid_placeAt (by decide)
  obtain ⟨ciphertext, loc, hcipher, hof, hdecrypt, _⟩ := location_round_trip idealCrypto_lawful
    idealCrypto_ideal (idealCrypto_signs Circles.demoOwner) (fun _ => rfl)
    (show isNonce "00000000-0000-0000-0000-000000000000" = true by decide) 0 []
    (show "c" ≠ "" by decide) (show (1 : ℤ) ≤ 2 ∧ (2 : ℤ) ≤ maxSafeInteger by decide)
    hvalid (show (0 : ℤ) ≤ 60 by decide) (by decide) (by decide) (by decide)
  refine ⟨idealCrypto_lawful, idealCrypto_ideal, ciphertext, loc, hcipher, hof, ?_⟩
  rw [hdecrypt, if_pos]
  refine ⟨?_, by decide, by decide⟩
  rw [Circles.demoOwner, toAsciiLowercase_digits (by decide) 64]
  exact List.mem_singleton_self _

/-- An envelope of 1969 is made and opens at no instant, for no roster. -/
theorem closed_before_epoch :
    (placeAt (-100)).Valid ∧ ∃ ciphertext,
      encryptCircleLocationV1 idealCrypto (CircleClient.demoSign Circles.demoOwner)
        "00000000-0000-0000-0000-000000000000" 0 [] "c" 2 (placeAt (-100)) .exact (-50) =
          some ciphertext ∧
      decryptCircleLocationV1 idealCrypto [] ciphertext "c" 2 [Circles.demoOwner] (-60) = none := by
  have hvalid : (placeAt (-100)).Valid := valid_placeAt (by decide)
  have hmade : (encryptCircleLocationV1 idealCrypto (CircleClient.demoSign Circles.demoOwner)
      "00000000-0000-0000-0000-000000000000" 0 [] "c" 2 (placeAt (-100)) .exact (-50)).isSome =
        true :=
    encrypt_isSome (fun _ => rfl) (by decide) (by decide) hvalid (by decide) (by decide) (by decide)
      _ 0 []
  obtain ⟨ciphertext, hcipher⟩ := Option.isSome_iff_exists.1 hmade
  exact ⟨hvalid, ciphertext, hcipher, closed_of_negative idealCrypto_lawful
    (idealCrypto_signs Circles.demoOwner) (by decide) hcipher [Circles.demoOwner] (-60)⟩

end CircleLocation
end Pwa
end SentinelMesh
