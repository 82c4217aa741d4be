/-
# The size of a message

`createDirectMessage` and `createGroupMessage` of `services/chat/nip17.ts` with the sizes of what
`services/chat/nip59.ts` encrypts: the rumor, and the seal that holds its NIP-44 payload.  NIP-44
takes at most 65535 bytes, and its payload is the base64 form of a version, a nonce, the padded
plaintext with its length, and an authentication code.  The payloads, digests, signatures and random
dates are parameters.  A content is any text of JavaScript, in units of UTF-16.

`validMessageContent` counts units, up to 16384.  The seal fits if the rumor takes at most 40960
bytes of UTF-8 (`seal_fits_iff`), since one byte more is padded to 49152.  So a content is sent if
and only if it leaves room for the rest of its rumor there (`sends_iff`): 16384 characters of one
byte do, and 16384 of three, or of one that is escaped, do not.  `Pwa.Chat.Messages` leaves out the
sizes.
-/

import SentinelMesh.Lib.JsonText
import SentinelMesh.Pwa.Chat.Messages

namespace SentinelMesh
namespace Pwa
namespace Chat
namespace MessageSizes

open Lib.JsonText

/-! ### NIP-44 -/

/-- `calcPaddedLen` of NIP-44. -/
def calcPaddedLen (len : ℕ) : ℕ :=
  if len ≤ 32 then 32
  else
    let nextPower := 2 ^ (Nat.log2 (len - 1) + 1)
    let chunk := if nextPower ≤ 256 then 32 else nextPower / 8
    chunk * ((len - 1) / chunk + 1)

/-- The length of a payload: base64 of a version, a nonce of 32 bytes, the length in two and the
padded plaintext, and an authentication code of 32 bytes. -/
def payloadLength (len : ℕ) : ℕ := 4 * ((1 + 32 + 2 + calcPaddedLen len + 32 + 2) / 3)

/-- The longest plaintext of NIP-44 v2. -/
def maxPlaintextSize : ℕ := 65535

/-- Rounding up to a divisor of a number does not pass it. -/
theorem chunk_mul_le {chunk n m : ℕ} (hdvd : chunk ∣ n) (hm : m < n) :
    chunk * (m / chunk + 1) ≤ n := by
  obtain ⟨q, rfl⟩ := hdvd
  exact Nat.mul_le_mul_left chunk (Nat.div_lt_of_lt_mul hm)

/-- **Padding does not pass a power of two.** -/
theorem calcPaddedLen_le_two_pow {len k : ℕ} (hk : 5 ≤ k) (h : len ≤ 2 ^ k) :
    calcPaddedLen len ≤ 2 ^ k := by
  unfold calcPaddedLen
  by_cases hshort : len ≤ 32
  · rw [if_pos hshort]
    exact Nat.pow_le_pow_right Nat.two_pos hk
  · rw [if_neg hshort]
    have hne : len - 1 ≠ 0 := by omega
    have hlog : Nat.log2 (len - 1) < k := (Nat.log2_lt hne).2 (by omega)
    have hfive : 5 ≤ Nat.log2 (len - 1) := (Nat.le_log2 hne).2 (by omega)
    have hdvd : (if 2 ^ (Nat.log2 (len - 1) + 1) ≤ 256 then 32 else 2 ^ (Nat.log2 (len - 1) + 1) / 8) ∣
        2 ^ (Nat.log2 (len - 1) + 1) := by
      split_ifs
      · exact Nat.pow_dvd_pow 2 (Nat.le_succ_of_le hfive)
      · exact Nat.div_dvd_of_dvd (Nat.pow_dvd_pow 2 (by omega : 3 ≤ Nat.log2 (len - 1) + 1))
    exact (chunk_mul_le hdvd Nat.lt_log2_self).trans (Nat.pow_le_pow_right Nat.two_pos hlog)

/-- Above 32768 bytes the padding is to a multiple of 8192. -/
theorem calcPaddedLen_of_large {len : ℕ} (hlow : 32768 < len) (hhigh : len ≤ maxPlaintextSize) :
    calcPaddedLen len = 8192 * ((len - 1) / 8192 + 1) := by
  unfold maxPlaintextSize at hhigh
  have hlog : Nat.log2 (len - 1) = 15 := (Nat.log2_eq_iff (by omega)).2 ⟨by omega, by omega⟩
  have hchunk : (if 2 ^ (15 + 1) ≤ 256 then 32 else 2 ^ (15 + 1) / 8) = 8192 := by decide
  have hlong : ¬len ≤ 32 := by omega
  unfold calcPaddedLen
  rw [if_neg hlong, hlog]
  exact congrArg (fun chunk => chunk * ((len - 1) / chunk + 1)) hchunk

/-- What a seal takes beside its payload and the digits of its date. -/
def sealOverhead : ℕ := 333

/-- **A seal fits if and only if its rumor takes at most 40960 bytes.** -/
theorem seal_fits_iff {len digits : ℕ} (hlen : len ≤ maxPlaintextSize) (hdigits : digits ≤ 14) :
    sealOverhead + digits + payloadLength len ≤ maxPlaintextSize ↔ len ≤ 40960 := by
  unfold sealOverhead payloadLength
  rcases Nat.lt_or_ge 32768 len with hlarge | hsmall
  · rw [calcPaddedLen_of_large hlarge hlen]
    unfold maxPlaintextSize
    omega
  · have hpadded : calcPaddedLen len ≤ 2 ^ 15 := calcPaddedLen_le_two_pow (by decide) hsmall
    unfold maxPlaintextSize
    omega

/-! ### The layers -/

/-- A text of hexadecimal digits. -/
structure HexText (n : ℕ) where
  text : Text
  length_text : text.length = n
  plain : ∀ u ∈ text, Plain u

/-- `EventTemplate`. -/
structure EventTemplate where
  kind : ℕ
  created_at : ℤ
  tags : List (List String)
  content : Text

/-- What the libraries and the random source give. -/
structure Crypto where
  /-- The payload of a plaintext between two keys. -/
  payload : Pubkey → Pubkey → Json → Text
  length_payload : ∀ a b plain, (payload a b plain).length = payloadLength plain.bytes
  plain_payload : ∀ a b plain, ∀ u ∈ payload a b plain, Plain u
  getEventHash : Pubkey → EventTemplate → HexText 64
  sign : Pubkey → EventTemplate → HexText 128
  /-- The one-time key for a recipient. -/
  ephemeral : Pubkey → Pubkey
  /-- `randomNow` for the seal and for the wrap of a recipient. -/
  sealedAt : Pubkey → ℤ
  wrappedAt : Pubkey → ℤ
  sealedAt_lt : ∀ recipient, (sealedAt recipient).natAbs < 10 ^ 13

variable (c : Crypto)

/-- A tag. -/
def tagJson (tag : List String) : Json := .arr (tag.map fun s => .str (ofString s))

/-- The tags of an event. -/
def tagsJson (tags : List (List String)) : Json := .arr (tags.map tagJson)

/-- `createRumor`. -/
def createRumor (senderPubkey : Pubkey) (event : EventTemplate) : Json :=
  .obj [(ofString "pubkey", .str (ofString senderPubkey)),
    (ofString "kind", .num event.kind),
    (ofString "created_at", .num event.created_at),
    (ofString "tags", tagsJson event.tags),
    (ofString "content", .str event.content),
    (ofString "id", .str (c.getEventHash senderPubkey event).text)]

/-- `signEvent`, and `finalizeEvent`. -/
def signEvent (pubkey : Pubkey) (template : EventTemplate) : Json :=
  .obj [(ofString "kind", .num template.kind),
    (ofString "created_at", .num template.created_at),
    (ofString "tags", tagsJson template.tags),
    (ofString "content", .str template.content),
    (ofString "pubkey", .str (ofString pubkey)),
    (ofString "id", .str (c.getEventHash pubkey template).text),
    (ofString "sig", .str (c.sign pubkey template).text)]

/-- `nip44Encrypt`, and `nip44.v2.encrypt`. -/
def nip44Encrypt (sender recipient : Pubkey) (plain : Json) : Except String Text := do
  ensure (decide (1 ≤ plain.bytes) && decide (plain.bytes ≤ maxPlaintextSize))
    "invalid plaintext size: must be between 1 and 65535 bytes"
  pure (c.payload sender recipient plain)

/-- What is signed around the payload of a rumor. -/
def sealOf (signer : Pubkey) (recipientPubkey : Pubkey) (content : Text) : Json :=
  signEvent c signer
    { kind := nip59KindSeal, created_at := c.sealedAt recipientPubkey, tags := [], content }

/-- `createSeal`. -/
def createSeal (signer : Pubkey) (rumor : Json) (recipientPubkey : Pubkey) : Except String Json := do
  let content ← nip44Encrypt c signer recipientPubkey rumor
  pure (sealOf c signer recipientPubkey content)

/-- `createWrap`. -/
def createWrap (sealed : Json) (recipientPubkey : Pubkey) : Except String Json := do
  let content ← nip44Encrypt c (c.ephemeral recipientPubkey) recipientPubkey sealed
  pure (signEvent c (c.ephemeral recipientPubkey)
    { kind := nip59KindGiftWrap, created_at := c.wrappedAt recipientPubkey
      tags := [["p", recipientPubkey]], content })

/-- `wrapRumor`. -/
def wrapRumor (signer : Pubkey) (rumor : Json) (recipients : List Pubkey) :
    Except String (List Json) :=
  recipients.mapM fun recipient => do
    let sealed ← createSeal c signer rumor recipient
    createWrap c sealed recipient

/-- `validMessageContent`. -/
def validMessageContent (content : Text) : Bool :=
  decide (0 < content.length) && decide (content.length ≤ maxMessageBytes)

/-- What `createRumor` is given for a message: its tags name participants. -/
def messageTemplate (now : ℤ) (tagged : List Pubkey) (content : Text) : EventTemplate :=
  { kind := nip17DirectKind, created_at := now, tags := tagged.map fun p => ["p", p], content }

/-- `createDirectMessage`. -/
def createDirectMessage (now : ℤ) (senderPubkey recipientPubkey : Pubkey) (content : Text) :
    Except String (List Json) := do
  ensure (validMessageContent content) "invalid message content"
  ensure (isLowercaseHex64 recipientPubkey) "invalid recipient public key"
  ensure (decide (recipientPubkey ≠ toAsciiLowercase senderPubkey)) "cannot message yourself"
  let rumor := createRumor c senderPubkey
    (messageTemplate now [toAsciiLowercase recipientPubkey] content)
  wrapRumor c senderPubkey rumor [senderPubkey, toAsciiLowercase recipientPubkey]

/-- `createGroupMessage`. -/
def createGroupMessage (now : ℤ) (senderPubkey : Pubkey) (recipients : List Pubkey)
    (content : Text) : Except String (List Json) := do
  ensure (validMessageContent content) "invalid message content"
  let participants := normalizeParticipants (senderPubkey :: recipients)
  ensure (decide (participants.length ≤ maxRoomParticipants)) "room has too many participants"
  ensure (decide (2 ≤ participants.length)) "room needs at least one other participant"
  let rumor := createRumor c senderPubkey (messageTemplate now participants content)
  wrapRumor c senderPubkey rumor participants

/-! ### What the layers take -/

/-- A hexadecimal digit is a plain unit. -/
theorem charUnits_of_hex {d : Char} (h : isLowercaseHexDigit d = true) :
    (charUnits d).length = 1 ∧ ∀ u ∈ charUnits d, Plain u := by
  have hrange : (48 ≤ d.toNat ∧ d.toNat ≤ 57) ∨ (97 ≤ d.toNat ∧ d.toNat ≤ 102) := by
    simp only [isLowercaseHexDigit, Char.isDigit, Bool.or_eq_true, Bool.and_eq_true,
      decide_eq_true_eq] at h
    rcases h with ⟨hzero, hnine⟩ | ⟨ha, hf⟩
    · exact Or.inl ⟨UInt32.le_iff_toNat_le.1 hzero, UInt32.le_iff_toNat_le.1 hnine⟩
    · exact Or.inr ⟨UInt32.le_iff_toNat_le.1 (Char.le_def.1 ha),
        UInt32.le_iff_toNat_le.1 (Char.le_def.1 hf)⟩
  have hascii : d.toNat ≤ 102 := by omega
  have hunit : (UInt16.ofNat d.toNat).toNat = d.toNat :=
    UInt16.toNat_ofNat_of_lt' (hascii.trans_lt (by decide))
  rw [charUnits_of_lt (by omega)]
  refine ⟨rfl, fun u hu => ?_⟩
  obtain rfl := List.mem_singleton.1 hu
  exact plain_of_lt (by omega) (by omega) (by omega) (by omega)

/-- A key takes 66 bytes, with its quotes. -/
theorem bytes_key {p : Pubkey} (h : isLowercaseHex64 p = true) :
    (Json.str (ofString p)).bytes = 66 := by
  have hlen := length_of_hex h
  unfold isLowercaseHex64 at h
  rw [Bool.and_eq_true, List.all_eq_true] at h
  have hplain : ∀ u ∈ ofString p, Plain u := by
    intro u hu
    obtain ⟨d, hd, hu⟩ := List.mem_flatMap.1 hu
    exact (charUnits_of_hex (h.2 d hd)).2 u hu
  have hunits : (ofString p).length = 64 := by
    unfold ofString
    rw [List.length_flatMap, List.map_congr_left fun d hd => (charUnits_of_hex (h.2 d hd)).1,
      List.map_const', List.sum_replicate_nat, Nat.mul_one, hlen]
  rw [Json.bytes_str_plain hplain, hunits]

/-- A text of digits takes its quotes beside them. -/
theorem HexText.bytes {n : ℕ} (t : HexText n) : (Json.str t.text).bytes = 2 + n := by
  rw [Json.bytes_str_plain t.plain, t.length_text]

set_option maxRecDepth 4000 in
/-- The names of the fields take their letters. -/
theorem quotedBytes_names :
    quotedBytes (ofString "pubkey") = 6 ∧ quotedBytes (ofString "kind") = 4 ∧
      quotedBytes (ofString "created_at") = 10 ∧ quotedBytes (ofString "tags") = 4 ∧
      quotedBytes (ofString "content") = 7 ∧ quotedBytes (ofString "id") = 2 ∧
      quotedBytes (ofString "sig") = 3 ∧ quotedBytes (ofString "p") = 1 := by
  decide

/-- The tags of a message: 72 bytes for each of the participants, and a comma between them. -/
theorem bytes_tagsJson {ps : List Pubkey} (hne : ps ≠ [])
    (h : ∀ p ∈ ps, isLowercaseHex64 p = true) :
    (tagsJson (ps.map fun p => ["p", p])).bytes = 73 * ps.length + 1 := by
  have htag : ∀ p ∈ ps, (tagJson ["p", p]).bytes = 72 := by
    intro p hp
    have hkey := bytes_key (h p hp)
    unfold tagJson
    rw [Json.bytes] at hkey
    simp only [Json.bytes, Json.bytesList, List.map_cons, List.map_nil, bracketed, List.sum_cons,
      List.sum_nil, List.length_cons, List.length_nil, hkey, quotedBytes_names]
    rfl
  have hall : ((ps.map fun p => ["p", p]).map tagJson).map Json.bytes =
      List.replicate ps.length 72 := by
    rw [List.map_map, List.map_map]
    exact (List.map_congr_left htag).trans (List.map_const' ..)
  have hpos : 0 < ps.length := List.length_pos_of_ne_nil hne
  unfold tagsJson
  rw [Json.bytes, Json.bytesList_eq_map, hall, bracketed, List.sum_replicate_nat,
    List.length_replicate]
  omega

/-- What a rumor takes beside its content, the digits of its date and its participants. -/
def rumorOverhead : ℕ := 195

/-- **The size of a rumor.** -/
theorem bytes_createRumor {sender : Pubkey} (hsender : isLowercaseHex64 sender = true) {now : ℤ}
    {ps : List Pubkey} (hne : ps ≠ []) (hps : ∀ p ∈ ps, isLowercaseHex64 p = true)
    (content : Text) :
    (createRumor c sender (messageTemplate now ps content)).bytes =
      rumorOverhead + 73 * ps.length + (toString now).length + quotedBytes content := by
  have hkey := bytes_key hsender
  have htags := bytes_tagsJson hne hps
  have hid := (c.getEventHash sender (messageTemplate now ps content)).bytes
  have hkind : (toString ((nip17DirectKind : ℕ) : ℤ)).length = 2 := by decide
  unfold createRumor rumorOverhead
  simp only [Json.bytes, Json.bytesFields, bracketed, List.sum_cons, List.sum_nil, List.length_cons,
    List.length_nil, quotedBytes_names] at hkey htags hid ⊢
  simp only [messageTemplate] at hid ⊢
  rw [hkey, htags, hid, hkind]
  omega

/-- **The size of a seal.** -/
theorem bytes_sealOf {signer : Pubkey} (hsigner : isLowercaseHex64 signer = true)
    (recipient : Pubkey) {content : Text} (hplain : ∀ u ∈ content, Plain u) :
    (sealOf c signer recipient content).bytes =
      sealOverhead + (toString (c.sealedAt recipient)).length + content.length := by
  have hkey := bytes_key hsigner
  have hkind : (toString ((nip59KindSeal : ℕ) : ℤ)).length = 2 := by decide
  unfold sealOf signEvent sealOverhead
  simp only [Json.bytes, Json.bytesFields, Json.bytesList, tagsJson, bracketed, List.map_nil,
    List.sum_cons, List.sum_nil, List.length_cons, List.length_nil, quotedBytes_names] at hkey ⊢
  rw [hkey, hkind, quotedBytes_plain hplain]
  simp only [quotedBytes_plain (HexText.plain _), HexText.length_text]
  omega

/-- Both layers of a rumor fit, for each of the recipients. -/
structure Fits (sender : Pubkey) (rumor : Json) (recipients : List Pubkey) : Prop where
  rumor_le : rumor.bytes ≤ maxPlaintextSize
  seals_le : ∀ r ∈ recipients, (sealOf c sender r (c.payload sender r rumor)).bytes ≤ maxPlaintextSize

variable {c}

/-- **The layers fit if and only if the rumor takes at most 40960 bytes.** -/
theorem fits_iff {sender : Pubkey} (hsender : isLowercaseHex64 sender = true) {rumor : Json}
    {recipients : List Pubkey} (hne : recipients ≠ []) :
    Fits c sender rumor recipients ↔ rumor.bytes ≤ 40960 := by
  have hseal : ∀ r, rumor.bytes ≤ maxPlaintextSize →
      ((sealOf c sender r (c.payload sender r rumor)).bytes ≤ maxPlaintextSize ↔
        rumor.bytes ≤ 40960) := by
    intro r hrumor
    have hdate : (toString (c.sealedAt r)).length ≤ 13 + 1 := by
      have hnum := Json.bytes_num_le (by decide) (c.sealedAt_lt r)
      rwa [Json.bytes] at hnum
    rw [bytes_sealOf c hsender r (c.plain_payload sender r rumor), c.length_payload]
    exact seal_fits_iff hrumor hdate
  constructor
  · intro h
    obtain ⟨r, hr⟩ := List.exists_mem_of_ne_nil recipients hne
    exact (hseal r h.rumor_le).1 (h.seals_le r hr)
  · intro h
    have hrumor : rumor.bytes ≤ maxPlaintextSize := h.trans (by decide)
    exact { rumor_le := hrumor, seals_le := fun r _ => (hseal r hrumor).2 h }

/-- A list is mapped if each of its elements is. -/
theorem exists_mapM_iff {ε α β : Type} {f : α → Except ε β} {xs : List α} :
    (∃ ys, xs.mapM f = .ok ys) ↔ ∀ x ∈ xs, ∃ y, f x = .ok y := by
  induction xs with
  | nil => exact ⟨fun _ x hx => absurd hx List.not_mem_nil, fun _ => ⟨[], rfl⟩⟩
  | cons x xs ih =>
      rw [List.forall_mem_cons, ← ih, List.mapM_cons]
      constructor
      · rintro ⟨ys, h⟩
        obtain ⟨y, hy, h⟩ := bind_eq_ok.1 h
        obtain ⟨ys', hys, _⟩ := bind_eq_ok.1 h
        exact ⟨⟨y, hy⟩, ys', hys⟩
      · rintro ⟨⟨y, hy⟩, ys, hys⟩
        exact ⟨y :: ys, bind_eq_ok.2 ⟨y, hy, bind_eq_ok.2 ⟨ys, hys, rfl⟩⟩⟩

theorem nip44Encrypt_eq_ok {sender recipient : Pubkey} {plain : Json} {content : Text} :
    nip44Encrypt c sender recipient plain = .ok content ↔
      (1 ≤ plain.bytes ∧ plain.bytes ≤ maxPlaintextSize) ∧
        content = c.payload sender recipient plain := by
  unfold nip44Encrypt
  simp only [bind_eq_ok, ensure_eq_ok, Bool.and_eq_true, decide_eq_true_eq]
  constructor
  · rintro ⟨_, hsize, hret⟩
    exact ⟨hsize, (Except.ok.inj hret).symm⟩
  · rintro ⟨hsize, rfl⟩
    exact ⟨(), hsize, rfl⟩

/-- No object is empty text. -/
theorem one_le_bytes_obj (fields : List (Text × Json)) : 1 ≤ (Json.obj fields).bytes := by
  rw [Json.bytes, bracketed]
  omega

/-- **A rumor is wrapped if and only if both of its layers fit.** -/
theorem wrapRumor_iff {sender : Pubkey} {event : EventTemplate} {recipients : List Pubkey}
    (hne : recipients ≠ []) :
    (∃ wraps, wrapRumor c sender (createRumor c sender event) recipients = .ok wraps) ↔
      Fits c sender (createRumor c sender event) recipients := by
  have hrumor := one_le_bytes_obj
    [(ofString "pubkey", .str (ofString sender)), (ofString "kind", .num event.kind),
      (ofString "created_at", .num event.created_at), (ofString "tags", tagsJson event.tags),
      (ofString "content", .str event.content),
      (ofString "id", .str (c.getEventHash sender event).text)]
  unfold wrapRumor
  rw [exists_mapM_iff]
  constructor
  · intro h
    have hboth : ∀ r ∈ recipients, (createRumor c sender event).bytes ≤ maxPlaintextSize ∧
        (sealOf c sender r (c.payload sender r (createRumor c sender event))).bytes ≤
          maxPlaintextSize := by
      intro r hr
      obtain ⟨wrap, hwrap⟩ := h r hr
      obtain ⟨sealed, hseal, hwrap⟩ := bind_eq_ok.1 hwrap
      obtain ⟨content, hcontent, hret⟩ := bind_eq_ok.1 hseal
      obtain ⟨hsize, rfl⟩ := nip44Encrypt_eq_ok.1 hcontent
      obtain rfl := Except.ok.inj hret
      obtain ⟨payload, hpayload, _⟩ := bind_eq_ok.1 hwrap
      exact ⟨hsize.2, (nip44Encrypt_eq_ok.1 hpayload).1.2⟩
    obtain ⟨r, hr⟩ := List.exists_mem_of_ne_nil recipients hne
    exact { rumor_le := (hboth r hr).1, seals_le := fun r hr => (hboth r hr).2 }
  · intro h r hr
    have hseal : createSeal c sender (createRumor c sender event) r =
        .ok (sealOf c sender r (c.payload sender r (createRumor c sender event))) :=
      bind_eq_ok.2 ⟨_, nip44Encrypt_eq_ok.2 ⟨⟨hrumor, h.rumor_le⟩, rfl⟩, rfl⟩
    exact ⟨_, bind_eq_ok.2 ⟨_, hseal, bind_eq_ok.2
      ⟨_, nip44Encrypt_eq_ok.2 ⟨⟨one_le_bytes_obj _, h.seals_le r hr⟩, rfl⟩, rfl⟩⟩⟩

/-! ### What can be sent -/

theorem createDirectMessage_eq_ok {now : ℤ} {sender recipient : Pubkey} {content : Text}
    {wraps : List Json} :
    createDirectMessage c now sender recipient content = .ok wraps ↔
      validMessageContent content = true ∧ isLowercaseHex64 recipient = true ∧
        recipient ≠ toAsciiLowercase sender ∧
        wrapRumor c sender (createRumor c sender
          (messageTemplate now [toAsciiLowercase recipient] content))
          [sender, toAsciiLowercase recipient] = .ok wraps := by
  unfold createDirectMessage
  simp only [bind_eq_ok, ensure_eq_ok, decide_eq_true_eq]
  constructor
  · rintro ⟨_, hvalid, _, hhex, _, hother, hret⟩
    exact ⟨hvalid, hhex, hother, hret⟩
  · rintro ⟨hvalid, hhex, hother, hret⟩
    exact ⟨(), hvalid, (), hhex, (), hother, hret⟩

theorem createGroupMessage_eq_ok {now : ℤ} {sender : Pubkey} {recipients : List Pubkey}
    {content : Text} {wraps : List Json} :
    createGroupMessage c now sender recipients content = .ok wraps ↔
      validMessageContent content = true ∧
        (normalizeParticipants (sender :: recipients)).length ≤ maxRoomParticipants ∧
        2 ≤ (normalizeParticipants (sender :: recipients)).length ∧
        wrapRumor c sender (createRumor c sender
          (messageTemplate now (normalizeParticipants (sender :: recipients)) content))
          (normalizeParticipants (sender :: recipients)) = .ok wraps := by
  unfold createGroupMessage
  simp only [bind_eq_ok, ensure_eq_ok, decide_eq_true_eq]
  constructor
  · rintro ⟨_, hvalid, _, hmax, _, hmin, hret⟩
    exact ⟨hvalid, hmax, hmin, hret⟩
  · rintro ⟨hvalid, hmax, hmin, hret⟩
    exact ⟨(), hvalid, (), hmax, (), hmin, hret⟩

/-- A content leaves room for the rest of its rumor, which names so many participants. -/
def Leaves (now : ℤ) (participants : ℕ) (content : Text) : Prop :=
  rumorOverhead + 73 * participants + (toString now).length + quotedBytes content ≤ 40960

instance (now : ℤ) (participants : ℕ) (content : Text) :
    Decidable (Leaves now participants content) :=
  inferInstanceAs (Decidable (_ ≤ _))

/-- The layers of a message fit if its content leaves room. -/
theorem fits_message_iff {sender : Pubkey} (hsender : isLowercaseHex64 sender = true) {now : ℤ}
    {ps recipients : List Pubkey} (hps : ∀ p ∈ ps, isLowercaseHex64 p = true) (hne : ps ≠ [])
    (hrecipients : recipients ≠ []) {content : Text} :
    Fits c sender (createRumor c sender (messageTemplate now ps content)) recipients ↔
      Leaves now ps.length content := by
  rw [fits_iff hsender hrecipients, bytes_createRumor c hsender hne hps]
  exact Iff.rfl

/-- **A direct message is sent if and only if its content leaves room**, and then both of its layers
fit. -/
theorem direct_iff {sender recipient : Pubkey} (hsender : isLowercaseHex64 sender = true)
    (hrecipient : isLowercaseHex64 recipient = true) (hother : recipient ≠ sender) {now : ℤ}
    {content : Text} (hvalid : validMessageContent content = true) :
    (Fits c sender (createRumor c sender (messageTemplate now [recipient] content))
        [sender, recipient] ↔ Leaves now 1 content) ∧
      ((∃ wraps, createDirectMessage c now sender recipient content = .ok wraps) ↔
        Leaves now 1 content) := by
  have hfits := @fits_message_iff c _ hsender now [recipient] [sender, recipient]
    (fun p hp => List.mem_singleton.1 hp ▸ hrecipient) (List.cons_ne_nil _ _) (List.cons_ne_nil _ _)
    content
  have hwrap := @wrapRumor_iff c sender (messageTemplate now [recipient] content)
    [sender, recipient] (List.cons_ne_nil _ _)
  refine ⟨hfits, ?_⟩
  change _ ↔ Leaves now [recipient].length content
  rw [← hwrap.trans hfits]
  refine exists_congr fun wraps => ?_
  rw [createDirectMessage_eq_ok, toAsciiLowercase_of_hex hrecipient, toAsciiLowercase_of_hex hsender]
  exact ⟨fun h => h.2.2.2, fun h => ⟨hvalid, hrecipient, hother, h⟩⟩

/-- **A group message is sent if and only if its content leaves room**, and then both of its layers
fit. -/
theorem group_iff {sender : Pubkey} (hsender : isLowercaseHex64 sender = true)
    {recipients : List Pubkey}
    (hmin : 2 ≤ (normalizeParticipants (sender :: recipients)).length)
    (hmax : (normalizeParticipants (sender :: recipients)).length ≤ maxRoomParticipants) {now : ℤ}
    {content : Text} (hvalid : validMessageContent content = true) :
    (Fits c sender (createRumor c sender (messageTemplate now
        (normalizeParticipants (sender :: recipients)) content))
        (normalizeParticipants (sender :: recipients)) ↔
      Leaves now (normalizeParticipants (sender :: recipients)).length content) ∧
      ((∃ wraps, createGroupMessage c now sender recipients content = .ok wraps) ↔
        Leaves now (normalizeParticipants (sender :: recipients)).length content) := by
  have hne : normalizeParticipants (sender :: recipients) ≠ [] :=
    List.ne_nil_of_length_pos (Nat.lt_of_lt_of_le Nat.zero_lt_two hmin)
  have hfits := @fits_message_iff c _ hsender now _ _
    (fun p hp => (mem_normalizeParticipants.1 hp).1) hne hne content
  have hwrap := @wrapRumor_iff c sender
    (messageTemplate now (normalizeParticipants (sender :: recipients)) content) _ hne
  refine ⟨hfits, ?_⟩
  rw [← hwrap.trans hfits]
  refine exists_congr fun wraps => ?_
  rw [createGroupMessage_eq_ok]
  exact ⟨fun h => h.2.2.2, fun h => ⟨hvalid, hmax, hmin, h⟩⟩

/-- **An accepted message can be sent if and only if its content leaves room for the rest of its
rumor**: for a direct message to anyone else, and for a group of up to ten. -/
theorem sends_iff (c : Crypto) {sender : Pubkey} (hsender : isLowercaseHex64 sender = true) (now : ℤ)
    {content : Text} (hvalid : validMessageContent content = true) :
    (∀ recipient, isLowercaseHex64 recipient = true → recipient ≠ sender →
      (Fits c sender (createRumor c sender (messageTemplate now [recipient] content))
          [sender, recipient] ∧
        (∃ wraps, createDirectMessage c now sender recipient content = .ok wraps) ↔
      Leaves now 1 content)) ∧
    ∀ recipients, 2 ≤ (normalizeParticipants (sender :: recipients)).length →
      (normalizeParticipants (sender :: recipients)).length ≤ maxRoomParticipants →
      (Fits c sender (createRumor c sender (messageTemplate now
          (normalizeParticipants (sender :: recipients)) content))
          (normalizeParticipants (sender :: recipients)) ∧
        (∃ wraps, createGroupMessage c now sender recipients content = .ok wraps) ↔
      Leaves now (normalizeParticipants (sender :: recipients)).length content) := by
  refine ⟨fun recipient hrecipient hother => ?_, fun recipients hmin hmax => ?_⟩
  · obtain ⟨hfits, hsent⟩ := @direct_iff c _ _ hsender hrecipient hother now _ hvalid
    rw [hfits, hsent, and_self]
  · obtain ⟨hfits, hsent⟩ := @group_iff c _ hsender _ hmin hmax now _ hvalid
    rw [hfits, hsent, and_self]

/-- Payloads, digests and signatures of one digit, and dates of one second. -/
def demoCrypto : Crypto where
  payload _ _ plain := List.replicate (payloadLength plain.bytes) 0x41
  length_payload _ _ _ := List.length_replicate
  plain_payload _ _ _ u hu := by
    rw [List.eq_of_mem_replicate hu]
    decide
  getEventHash _ _ :=
    { text := List.replicate 64 0x30, length_text := List.length_replicate
      plain := fun u hu => by
        rw [List.eq_of_mem_replicate hu]
        decide }
  sign _ _ :=
    { text := List.replicate 128 0x30, length_text := List.length_replicate
      plain := fun u hu => by
        rw [List.eq_of_mem_replicate hu]
        decide }
  ephemeral p := p
  sealedAt _ := 1760000000
  wrappedAt _ := 1760000000
  sealedAt_lt _ := by decide

theorem isLowercaseHex64_demoKey {d : Char} (h : isLowercaseHexDigit d = true) :
    isLowercaseHex64 (demoKey d) = true := by
  unfold isLowercaseHex64 demoKey
  rw [String.toList_ofList, List.length_replicate, List.all_replicate, h]
  rfl

/-- The two of a room. -/
theorem length_demoRoom :
    (normalizeParticipants [demoKey 'a', demoKey 'b']).length = 2 := by
  rw [length_normalizeParticipants fun p hp => ?_]
  · decide
  · rcases List.mem_pair.1 hp with rfl | rfl
    · exact isLowercaseHex64_demoKey (by decide)
    · exact isLowercaseHex64_demoKey (by decide)

theorem length_demoDate : (toString (1760000000 : ℤ)).length = 10 := by decide

theorem sends_iff_letters :
    (Fits demoCrypto (demoKey 'a') (createRumor demoCrypto (demoKey 'a')
        (messageTemplate 1760000000 [demoKey 'b'] (List.replicate 16384 0x61)))
        [demoKey 'a', demoKey 'b'] ∧
      (∃ wraps, createDirectMessage demoCrypto 1760000000 (demoKey 'a') (demoKey 'b')
        (List.replicate 16384 0x61) = .ok wraps) ↔
      Leaves 1760000000 1 (List.replicate 16384 0x61)) ∧
    Leaves 1760000000 1 (List.replicate 16384 0x61) := by
  refine ⟨(sends_iff demoCrypto (isLowercaseHex64_demoKey (by decide)) 1760000000 ?_).1 (demoKey 'b')
    (isLowercaseHex64_demoKey (by decide)) (by decide), ?_⟩
  · unfold validMessageContent
    rw [List.length_replicate]
    decide
  · unfold Leaves
    rw [quotedBytes_replicate (by decide), length_demoDate]
    decide

/-- 16384 characters of three bytes are accepted, and neither message of them can be sent. -/
theorem sends_wide_fails :
    validMessageContent (List.replicate 16384 0x4E00) = true ∧
      (¬Fits demoCrypto (demoKey 'a') (createRumor demoCrypto (demoKey 'a')
        (messageTemplate 1760000000 [demoKey 'b'] (List.replicate 16384 0x4E00)))
        [demoKey 'a', demoKey 'b']) ∧
      (¬∃ wraps, createDirectMessage demoCrypto 1760000000 (demoKey 'a') (demoKey 'b')
        (List.replicate 16384 0x4E00) = .ok wraps) ∧
      ¬∃ wraps, createGroupMessage demoCrypto 1760000000 (demoKey 'a') [demoKey 'b']
        (List.replicate 16384 0x4E00) = .ok wraps := by
  have ha : isLowercaseHex64 (demoKey 'a') = true := isLowercaseHex64_demoKey (by decide)
  have hb : isLowercaseHex64 (demoKey 'b') = true := isLowercaseHex64_demoKey (by decide)
  have hvalid : validMessageContent (List.replicate 16384 0x4E00) = true := by
    unfold validMessageContent
    rw [List.length_replicate]
    decide
  have hroom : ∀ n, ¬Leaves 1760000000 n (List.replicate 16384 0x4E00) := by
    intro n h
    have hunit : unitBytes 0x4E00 = 3 := by decide
    unfold Leaves at h
    rw [quotedBytes_replicate (by decide), hunit] at h
    omega
  obtain ⟨hfits, hsent⟩ :=
    @direct_iff demoCrypto _ _ ha hb (by decide) 1760000000 _ hvalid
  have hgroup := (@group_iff demoCrypto _ ha [demoKey 'b'] length_demoRoom.ge
    (length_demoRoom.le.trans (by decide)) 1760000000 _ hvalid).2
  exact ⟨hvalid, fun h => hroom 1 (hfits.1 h), fun h => hroom 1 (hsent.1 h),
    fun h => hroom _ (hgroup.1 h)⟩

/-! ### Beside the messages without sizes -/

end MessageSizes
end Chat
end Pwa
end SentinelMesh
