/-
# The identity of a conversation

`participantKey` and `channelConversationId` of `services/chat/conversationId.ts`, and
`parseChannelRef` of `services/chat/publicChannel.ts`, which says what a group id is.

A participant key says who the participants are (`participantKey_eq_iff`), and a channel has an id
that no room of participants has.  The id of a channel is the URL of its relay and its group id with a
colon between them, and both may have colons of their own: the end of a URL may as well be the
beginning of a group id.  That is the only way in which two channels share an id
(`channelConversationId_eq_iff`).
-/

import SentinelMesh.Lib.JsonText
import SentinelMesh.Pwa.Chat.Messages

namespace SentinelMesh
namespace Pwa
namespace Chat
namespace ConversationIds

open Lib

/-! ### Channels -/

/-- `channelConversationId`. -/
def channelConversationId (relayUrl groupId : String) : String :=
  versionPrefix ++ ":channel:" ++ relayUrl ++ ":" ++ groupId

/-- `ParsedChannelRef`. -/
structure ParsedChannelRef where
  groupId : String
  relayUrl : Option String := none
  deriving DecidableEq

/-- What `nip19.decode` returns: an address, or something of another type. -/
inductive Decoded
  | naddr (identifier : Option String) (relays : Option (List String))
  | other

/-- White space and line terminators. -/
def isSpace (c : Char) : Bool :=
  decide (c.toNat ∈ [0x09, 0x0A, 0x0B, 0x0C, 0x0D, 0x20, 0xA0, 0x1680, 0x2028, 0x2029, 0x202F, 0x205F,
    0x3000, 0xFEFF]) || (decide (0x2000 ≤ c.toNat) && decide (c.toNat ≤ 0x200A))

/-- `String.prototype.trim`. -/
def trim (s : String) : String :=
  String.ofList (((s.toList.dropWhile isSpace).reverse.dropWhile isSpace).reverse)

/-- `parseChannelRef`; `decode` is `nip19.decode`, which throws at what it does not know. -/
def parseChannelRef (decode : String → Option Decoded) (input : String) : Option ParsedChannelRef :=
  let trimmed := trim input
  if trimmed = "" then none
  else if "naddr1".toList.isPrefixOf trimmed.toList then
    match decode trimmed with
    | some (.naddr (some identifier) relays) =>
      if identifier = "" then none
      else some { groupId := identifier, relayUrl := (relays.getD []).head? }
    | _ => none
  else if 256 < (JsonText.ofString trimmed).length then none
  else some { groupId := trimmed }

/-- A group id that is accepted. -/
def Accepted (decode : String → Option Decoded) (groupId : String) : Prop :=
  ∃ input parsed, parseChannelRef decode input = some parsed ∧ parsed.groupId = groupId

/-- A text without white space around it is accepted as it is, whatever it is made of, if it is no
address and not too long. -/
theorem accepted_raw {decode : String → Option Decoded} {groupId : String}
    (htrim : trim groupId = groupId) (hne : groupId ≠ "")
    (haddress : "naddr1".toList.isPrefixOf groupId.toList = false)
    (hlength : (JsonText.ofString groupId).length ≤ 256) : Accepted decode groupId := by
  refine ⟨groupId, { groupId }, ?_, rfl⟩
  unfold parseChannelRef
  dsimp only
  rw [htrim, if_neg hne, haddress, if_neg Bool.false_ne_true, if_neg hlength.not_gt]

/-! ### Ids that are shared -/

/-- **Two texts with a separator between them are read back**, or a part of one that begins after a
separator of its own is moved to the other. -/
theorem append_cons_eq_iff {α : Type*} {c : α} {s t s' t' : List α} :
    s ++ c :: t = s' ++ c :: t' ↔ (s = s' ∧ t = t') ∨
      (∃ x, s' = s ++ c :: x ∧ t = x ++ c :: t') ∨ ∃ x, s = s' ++ c :: x ∧ t' = x ++ c :: t := by
  constructor
  · intro h
    rcases List.append_eq_append_iff.1 h with ⟨x, rfl, hx⟩ | ⟨x, rfl, hx⟩
    · cases x with
      | nil => exact Or.inl ⟨(List.append_nil s).symm, (List.cons.inj hx).2⟩
      | cons d x =>
          obtain ⟨rfl, htail⟩ := List.cons.inj hx
          exact Or.inr (Or.inl ⟨x, rfl, htail⟩)
    · cases x with
      | nil => exact Or.inl ⟨List.append_nil s', (List.cons.inj hx).2.symm⟩
      | cons d x =>
          obtain ⟨rfl, htail⟩ := List.cons.inj hx
          exact Or.inr (Or.inr ⟨x, rfl, htail⟩)
  · rintro (⟨rfl, rfl⟩ | ⟨x, rfl, rfl⟩ | ⟨x, rfl, rfl⟩)
    · rfl
    · rw [List.append_assoc, List.cons_append]
    · rw [List.append_assoc, List.cons_append]

/-- The second URL is the first with a colon and more, and the first group id begins with what is
more. -/
def Shifted (relayUrl groupId relayUrl' groupId' : String) : Prop :=
  ∃ x, relayUrl' = relayUrl ++ ":" ++ x ∧ groupId = x ++ ":" ++ groupId'

variable {u g u' g' : String}

theorem shifted_iff : Shifted u g u' g' ↔
    ∃ x, u'.toList = u.toList ++ ':' :: x ∧ g.toList = x ++ ':' :: g'.toList := by
  have hcolon : ∀ s t : String, (s ++ ":" ++ t).toList = s.toList ++ ':' :: t.toList := by
    intro s t
    rw [String.toList_append, String.toList_append, List.append_assoc]
    rfl
  constructor
  · rintro ⟨x, rfl, rfl⟩
    exact ⟨x.toList, hcolon u x, hcolon x g'⟩
  · rintro ⟨x, hu, hg⟩
    refine ⟨String.ofList x, String.toList_inj.1 ?_, String.toList_inj.1 ?_⟩
    · rw [hcolon, String.toList_ofList, hu]
    · rw [hcolon, String.toList_ofList, hg]

theorem toList_channelConversationId (u g : String) : (channelConversationId u g).toList =
    (versionPrefix ++ ":channel:").toList ++ (u.toList ++ ':' :: g.toList) := by
  unfold channelConversationId
  rw [String.toList_append, String.toList_append, String.toList_append, List.append_assoc,
    List.append_assoc]
  rfl

/-- **When two channels have the same id.** -/
theorem channelConversationId_eq_iff : channelConversationId u g = channelConversationId u' g' ↔
    (u = u' ∧ g = g') ∨ Shifted u g u' g' ∨ Shifted u' g' u g := by
  rw [← String.toList_inj, toList_channelConversationId, toList_channelConversationId,
    List.append_cancel_left_eq, append_cons_eq_iff, shifted_iff, shifted_iff, String.toList_inj,
    String.toList_inj]

/-! ### Rooms of participants -/

/-- A key: 64 hexadecimal digits of either case. -/
def IsHexKey (pubkey : Pubkey) : Prop :=
  pubkey.toList.length = 64 ∧ ∀ c ∈ pubkey.toList, isHexDigit c = true

/-- The keys among some texts, without their case. -/
def validKeys (pubkeys : List Pubkey) : Set Pubkey :=
  {k | ∃ p ∈ pubkeys, IsHexKey p ∧ toAsciiLowercase p = k}

theorem isHexDigit_iff (c : Char) : isHexDigit c = true ↔
    (48 ≤ c.val.toNat ∧ c.val.toNat ≤ 57) ∨ (97 ≤ c.val.toNat ∧ c.val.toNat ≤ 102) ∨
      (65 ≤ c.val.toNat ∧ c.val.toNat ≤ 70) := by
  simp only [isHexDigit, Char.isDigit, Bool.or_eq_true, Bool.and_eq_true, decide_eq_true_eq, ge_iff_le,
    Char.le_def, UInt32.le_iff_toNat_le, Char.reduceVal, UInt32.reduceToNat, or_assoc]

theorem isLowercaseHexDigit_iff (c : Char) : isLowercaseHexDigit c = true ↔
    (48 ≤ c.val.toNat ∧ c.val.toNat ≤ 57) ∨ (97 ≤ c.val.toNat ∧ c.val.toNat ≤ 102) := by
  simp only [isLowercaseHexDigit, Char.isDigit, Bool.or_eq_true, Bool.and_eq_true, decide_eq_true_eq,
    ge_iff_le, Char.le_def, UInt32.le_iff_toNat_le, Char.reduceVal, UInt32.reduceToNat]

theorem isLowercaseHexDigit_toLower (c : Char) : isLowercaseHexDigit c.toLower = isHexDigit c := by
  rw [Bool.eq_iff_iff, isLowercaseHexDigit_iff, isHexDigit_iff]
  have hA : ('A'.val).toNat = 65 := rfl
  have hZ : ('Z'.val).toNat = 90 := rfl
  by_cases h : c.val ≥ 'A'.val ∧ c.val ≤ 'Z'.val
  · have hval : c.toLower.val = c.val + ('a'.val - 'A'.val) := by
      unfold Char.toLower
      rw [dif_pos h]
    have hshift : ('a'.val - 'A'.val).toNat = 32 := rfl
    have hnat : c.toLower.val.toNat = c.val.toNat + 32 := by
      rw [hval]
      simp only [ge_iff_le, UInt32.le_iff_toNat_le, UInt32.toNat_add] at h ⊢
      omega
    simp only [ge_iff_le, UInt32.le_iff_toNat_le] at h
    omega
  · rw [toLower_of_not_upper h]
    simp only [ge_iff_le, UInt32.le_iff_toNat_le] at h
    omega

/-- What is a key once it is in lower case was one before. -/
theorem isLowercaseHex64_lower {p : Pubkey} :
    isLowercaseHex64 (toAsciiLowercase p) = true ↔ IsHexKey p := by
  unfold isLowercaseHex64 toAsciiLowercase IsHexKey
  rw [Bool.and_eq_true, decide_eq_true_iff, String.toList_ofList, List.length_map, List.all_map,
    List.all_eq_true]
  exact and_congr_right fun _ => forall₂_congr fun c _ => by
    rw [Function.comp_apply, isLowercaseHexDigit_toLower]

theorem mem_validKeys {ps : List Pubkey} {k : Pubkey} :
    k ∈ validKeys ps ↔ k ∈ normalizeParticipants ps := by
  rw [mem_normalizeParticipants]
  constructor
  · rintro ⟨p, hp, hkey, rfl⟩
    exact ⟨isLowercaseHex64_lower.2 hkey, p, hp, rfl⟩
  · rintro ⟨hhex, p, hp, rfl⟩
    exact ⟨p, hp, isLowercaseHex64_lower.1 hhex, rfl⟩

/-- **When two rooms have the same key.** -/
theorem participantKey_eq_iff {ps qs : List Pubkey} :
    participantKey ps = participantKey qs ↔ validKeys ps = validKeys qs := by
  constructor
  · intro h
    ext k
    rw [mem_validKeys, mem_validKeys, participantKey_inj h]
  · intro h
    have hsame : normalizeParticipants ps = normalizeParticipants qs :=
      normalizeParticipants_ext fun p => by rw [← mem_validKeys, h, mem_validKeys]
    unfold participantKey
    rw [hsame]

/-- The participants are written in hexadecimal digits, with commas between them. -/
theorem participants_text {ps : List Pubkey} {c : Char}
    (hc : c ∈ (",".intercalate (normalizeParticipants ps)).toList) :
    c = ',' ∨ isLowercaseHexDigit c = true := by
  have hhex : ∀ p ∈ normalizeParticipants ps, ∀ d ∈ p.toList, isLowercaseHexDigit d = true := by
    intro p hp
    have hkey := (mem_normalizeParticipants.1 hp).1
    unfold isLowercaseHex64 at hkey
    rw [Bool.and_eq_true, List.all_eq_true] at hkey
    exact hkey.2
  rw [String.toList_intercalate] at hc
  change c ∈ [','].intercalate ((normalizeParticipants ps).map String.toList) at hc
  cases hlist : normalizeParticipants ps with
  | nil =>
      rw [hlist] at hc
      exact absurd hc List.not_mem_nil
  | cons q qs =>
      rw [hlist] at hc hhex
      rw [intercalate_cons, List.mem_append, List.mem_flatMap] at hc
      rcases hc with hc | ⟨p, hp, hc⟩
      · exact Or.inr (hhex q List.mem_cons_self c hc)
      · exact (List.mem_cons.1 hc).imp_right (hhex p (List.mem_cons_of_mem q hp) c)

/-- **No channel has the key of a room**: there is an `h` in the id of a channel. -/
theorem channelConversationId_ne (u g : String) (ps : List Pubkey) :
    channelConversationId u g ≠ participantKey ps := by
  intro h
  unfold participantKey at h
  have hlist := congrArg String.toList h
  rw [toList_channelConversationId, String.toList_append, String.toList_append, String.toList_append,
    List.append_assoc, List.append_assoc, List.append_cancel_left_eq] at hlist
  have htail : "channel:".toList ++ (u.toList ++ ':' :: g.toList) =
      (",".intercalate (normalizeParticipants ps)).toList := (List.cons.inj hlist).2
  have hmem : 'h' ∈ (",".intercalate (normalizeParticipants ps)).toList := by
    rw [← htail]
    exact List.mem_append_left _ (by decide)
  rcases participants_text hmem with hcomma | hhex
  · exact absurd hcomma (by decide)
  · exact absurd hhex (by decide)

/-- **When the identities of conversations do not collide.**  Two channels that have one id are the
same, exactly when no part of the URL of one can be the beginning of the group id of the other; rooms
have one key exactly when their participants are the same, and no channel has the key of a room. -/
theorem conversationIds_iff (u g u' g' : String) (ps qs : List Pubkey) :
    ((channelConversationId u g = channelConversationId u' g' → u = u' ∧ g = g') ↔
      ¬ (Shifted u g u' g' ∨ Shifted u' g' u g)) ∧
    (participantKey ps = participantKey qs ↔ validKeys ps = validKeys qs) ∧
    channelConversationId u g ≠ participantKey ps := by
  refine ⟨?_, participantKey_eq_iff, channelConversationId_ne u g ps⟩
  rw [channelConversationId_eq_iff]
  constructor
  · rintro hsame hshift
    obtain ⟨rfl, rfl⟩ := hsame (Or.inr hshift)
    obtain ⟨x, hx, -⟩ := shifted_iff.1 (hshift.elim id id)
    have hlength := congrArg List.length hx
    rw [List.length_append, List.length_cons] at hlength
    omega
  · rintro hshift (hsame | hshifted)
    · exact hsame
    · exact absurd hshifted hshift

/-- A relay on a port, and a group of the same host whose id begins with the number of the port. -/
theorem conversationIds_collide :
    Accepted (fun _ => none) "8443:watch" ∧ Accepted (fun _ => none) "watch" ∧
      channelConversationId "wss://relay.example.com" "8443:watch" =
        channelConversationId "wss://relay.example.com:8443" "watch" ∧
      ¬ ("wss://relay.example.com" = "wss://relay.example.com:8443" ∧ "8443:watch" = "watch") :=
  ⟨accepted_raw (by decide) (by decide) (by decide) (by decide),
    accepted_raw (by decide) (by decide) (by decide) (by decide), by decide, by decide⟩

end ConversationIds
end Chat
end Pwa
end SentinelMesh
