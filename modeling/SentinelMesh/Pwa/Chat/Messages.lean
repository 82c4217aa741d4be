/-
# Private messages

`services/chat/conversationId.ts`, `dmConversation.ts`, `nip59.ts`, `nip17.ts` and `dmSend.ts`:
the identity of a room, the rumor, its seal and its gift wrap, and what a message is sent as.

NIP-44 is ideal: what is encrypted is a pair of keys and a plaintext, which both of them
open.  A signature is ideal too: an event says whether it verifies.  JSON of a rumor and of a
seal is read back as it was written.  `crypto.subtle.digest` and `getEventHash` are parameters.
The dates of seals and wraps are left out, since no function here reads them.

`wraps_open` is the round trip: what `wrapRumor` makes for a recipient, the recipient
unwraps to the same rumor.
-/

import SentinelMesh.Basic
import Mathlib.Data.Finset.Sort
import Mathlib.Data.String.Basic

namespace SentinelMesh
namespace Pwa
namespace Chat

/-! ### Participants -/

/-- `[0-9a-f]`. -/
def isLowercaseHexDigit (c : Char) : Bool :=
  c.isDigit || (decide ('a' ≤ c) && decide (c ≤ 'f'))

/-- `isLowercaseHex64`. -/
def isLowercaseHex64 (value : String) : Bool :=
  decide (value.toList.length = 64) && value.toList.all isLowercaseHexDigit

/-- `normalizeParticipants`.  The letters of a hexadecimal key are lowered as in ASCII, and no
other letter is lowered to one of them. -/
def normalizeParticipants (pubkeys : List Pubkey) : List Pubkey :=
  ((pubkeys.map toAsciiLowercase).filter isLowercaseHex64).toFinset.sort

/-- `VERSION_PREFIX`. -/
def versionPrefix : String := "sentinelmesh:chat:v1"

/-- `participantKey`. -/
def participantKey (pubkeys : List Pubkey) : String :=
  versionPrefix ++ ":" ++ ",".intercalate (normalizeParticipants pubkeys)

/-- `conversationIdFor`, with `sha256` the hex digest of a text; also `roomConversationId`. -/
def conversationIdFor (sha256 : String → String) (pubkeys : List Pubkey) : String :=
  sha256 (participantKey pubkeys)

/-- `directConversationId`. -/
def directConversationId (sha256 : String → String) (a b : Pubkey) : String :=
  conversationIdFor sha256 [a, b]

theorem toLower_of_hex {c : Char} (h : isLowercaseHexDigit c = true) : c.toLower = c := by
  refine toLower_of_not_upper ?_
  rintro ⟨hge, hle⟩
  simp only [isLowercaseHexDigit, Char.isDigit, Bool.or_eq_true, Bool.and_eq_true,
    decide_eq_true_eq] at h
  rcases h with ⟨_, hnine⟩ | ⟨ha, _⟩
  · exact absurd (UInt32.le_trans hge hnine) (by decide)
  · exact absurd (UInt32.le_trans (Char.le_def.1 ha) hle) (by decide)

theorem length_of_hex {p : Pubkey} (h : isLowercaseHex64 p = true) : p.toList.length = 64 := by
  unfold isLowercaseHex64 at h
  rw [Bool.and_eq_true, decide_eq_true_eq] at h
  exact h.1

/-- A key in lower case stays as it is. -/
theorem toAsciiLowercase_of_hex {p : Pubkey} (h : isLowercaseHex64 p = true) :
    toAsciiLowercase p = p := by
  unfold isLowercaseHex64 at h
  rw [Bool.and_eq_true, List.all_eq_true] at h
  have hmap : p.toList.map Char.toLower = p.toList :=
    (List.map_congr_left fun c hc => toLower_of_hex (h.2 c hc)).trans (List.map_id _)
  unfold toAsciiLowercase
  rw [hmap, String.ofList_toList]

theorem mem_normalizeParticipants {ps : List Pubkey} {p : Pubkey} :
    p ∈ normalizeParticipants ps ↔
      isLowercaseHex64 p = true ∧ ∃ q ∈ ps, toAsciiLowercase q = p := by
  unfold normalizeParticipants
  rw [Finset.mem_sort, List.mem_toFinset, List.mem_filter, List.mem_map, and_comm]

/-- **Lists with the same participants are normalized to the same list.** -/
theorem normalizeParticipants_ext {ps qs : List Pubkey}
    (h : ∀ p, p ∈ normalizeParticipants ps ↔ p ∈ normalizeParticipants qs) :
    normalizeParticipants ps = normalizeParticipants qs := by
  unfold normalizeParticipants at h ⊢
  congr 1
  exact Finset.ext fun p => by simpa only [Finset.mem_sort] using h p

/-- A participant of a list is one of its normalization, if it is a key. -/
theorem mem_normalizeParticipants_of_mem {ps : List Pubkey} {p : Pubkey} (hp : p ∈ ps)
    (hhex : isLowercaseHex64 p = true) : p ∈ normalizeParticipants ps :=
  mem_normalizeParticipants.2 ⟨hhex, p, hp, toAsciiLowercase_of_hex hhex⟩

theorem nodup_normalizeParticipants (ps : List Pubkey) : (normalizeParticipants ps).Nodup :=
  Finset.sort_nodup _ _

/-- Normalizing again changes nothing. -/
theorem normalizeParticipants_self (ps : List Pubkey) :
    normalizeParticipants (normalizeParticipants ps) = normalizeParticipants ps := by
  refine normalizeParticipants_ext fun p => ?_
  rw [mem_normalizeParticipants]
  constructor
  · rintro ⟨_, q, hq, rfl⟩
    rwa [toAsciiLowercase_of_hex (mem_normalizeParticipants.1 hq).1]
  · intro hp
    have hhex := (mem_normalizeParticipants.1 hp).1
    exact ⟨hhex, p, hp, toAsciiLowercase_of_hex hhex⟩

/-- The first of a list adds nothing to the normalization of the list. -/
theorem normalizeParticipants_cons_self (p : Pubkey) (ps : List Pubkey) :
    normalizeParticipants (p :: normalizeParticipants (p :: ps)) = normalizeParticipants (p :: ps) := by
  refine normalizeParticipants_ext fun r => ?_
  rw [mem_normalizeParticipants, mem_normalizeParticipants]
  refine and_congr_right fun hr => ?_
  constructor
  · rintro ⟨q, hq, rfl⟩
    rcases List.mem_cons.1 hq with rfl | hq
    · exact ⟨q, List.mem_cons_self .., rfl⟩
    · obtain ⟨hhex, q', hq', rfl⟩ := mem_normalizeParticipants.1 hq
      exact ⟨q', hq', (toAsciiLowercase_of_hex hhex).symm⟩
  · rintro ⟨q, hq, rfl⟩
    exact ⟨toAsciiLowercase q, List.mem_cons_of_mem _ (mem_normalizeParticipants.2 ⟨hr, q, hq, rfl⟩),
      toAsciiLowercase_of_hex hr⟩

/-- The participants of a list of keys are the keys. -/
theorem mem_normalizeParticipants_of_keys {ps : List Pubkey}
    (h : ∀ p ∈ ps, isLowercaseHex64 p = true) {p : Pubkey} :
    p ∈ normalizeParticipants ps ↔ p ∈ ps := by
  rw [mem_normalizeParticipants]
  constructor
  · rintro ⟨_, q, hq, rfl⟩
    rwa [toAsciiLowercase_of_hex (h q hq)]
  · exact fun hp => ⟨h p hp, p, hp, toAsciiLowercase_of_hex (h p hp)⟩

/-- There are as many of them as different keys. -/
theorem length_normalizeParticipants {ps : List Pubkey} (h : ∀ p ∈ ps, isLowercaseHex64 p = true) :
    (normalizeParticipants ps).length = ps.toFinset.card := by
  rw [← List.toFinset_card_of_nodup (nodup_normalizeParticipants ps)]
  congr 1
  ext p
  rw [List.mem_toFinset, List.mem_toFinset, mem_normalizeParticipants_of_keys h]

theorem intercalate_cons (p : Pubkey) (ps : List Pubkey) :
    [','].intercalate ((p :: ps).map String.toList) =
      p.toList ++ ps.flatMap fun q => ',' :: q.toList := by
  induction ps generalizing p with
  | nil => simp
  | cons q ps ih =>
      have hcons : [','].intercalate ((p :: q :: ps).map String.toList) =
          p.toList ++ [','] ++ [','].intercalate ((q :: ps).map String.toList) :=
        List.intercalate_cons_cons
      rw [hcons, ih]
      simp

/-- Keys are read back from a text that has them one after the other, since all are of one
length. -/
theorem flatMap_inj {ps qs : List Pubkey} (hps : ∀ p ∈ ps, isLowercaseHex64 p = true)
    (hqs : ∀ q ∈ qs, isLowercaseHex64 q = true)
    (h : ps.flatMap (fun q => ',' :: q.toList) = qs.flatMap fun q => ',' :: q.toList) : ps = qs := by
  induction ps generalizing qs with
  | nil =>
      cases qs with
      | nil => rfl
      | cons q qs => simp at h
  | cons p ps ih =>
      cases qs with
      | nil => simp at h
      | cons q qs =>
          rw [List.forall_mem_cons] at hps hqs
          simp only [List.flatMap_cons] at h
          have hlen : (',' :: p.toList).length = (',' :: q.toList).length := by
            rw [List.length_cons, List.length_cons, length_of_hex hps.1, length_of_hex hqs.1]
          obtain ⟨hhead, htail⟩ := List.append_inj h hlen
          rw [String.toList_inj.1 (List.cons.inj hhead).2, ih hps.2 hqs.2 htail]

/-- **A participant key says who the participants are.** -/
theorem participantKey_inj {ps qs : List Pubkey} (h : participantKey ps = participantKey qs) :
    normalizeParticipants ps = normalizeParticipants qs := by
  have hps : ∀ p ∈ normalizeParticipants ps, isLowercaseHex64 p = true :=
    fun p hp => (mem_normalizeParticipants.1 hp).1
  have hqs : ∀ q ∈ normalizeParticipants qs, isLowercaseHex64 q = true :=
    fun q hq => (mem_normalizeParticipants.1 hq).1
  unfold participantKey at h
  rw [String.append_right_inj] at h
  have hlist := congrArg String.toList h
  rw [String.toList_intercalate, String.toList_intercalate] at hlist
  generalize normalizeParticipants ps = as at hps hlist ⊢
  generalize normalizeParticipants qs = bs at hqs hlist ⊢
  have hne : ∀ (c : Pubkey) (cs : List Pubkey), isLowercaseHex64 c = true →
      [','].intercalate ((c :: cs).map String.toList) ≠ [] := by
    intro c cs hc hnil
    rw [intercalate_cons, List.append_eq_nil_iff] at hnil
    have hlen := length_of_hex hc
    rw [hnil.1] at hlen
    cases hlen
  cases as with
  | nil =>
      cases bs with
      | nil => rfl
      | cons b bs => exact absurd hlist.symm (hne b bs (hqs b (List.mem_cons_self ..)))
  | cons a as =>
      cases bs with
      | nil => exact absurd hlist (hne a as (hps a (List.mem_cons_self ..)))
      | cons b bs =>
          change [','].intercalate ((a :: as).map String.toList) =
            [','].intercalate ((b :: bs).map String.toList) at hlist
          rw [intercalate_cons, intercalate_cons] at hlist
          rw [List.forall_mem_cons] at hps hqs
          obtain ⟨hhead, htail⟩ := List.append_inj hlist
            ((length_of_hex hps.1).trans (length_of_hex hqs.1).symm)
          rw [String.toList_inj.1 hhead, flatMap_inj hps.2 hqs.2 htail]

/-! ### Rumors, seals and gift wraps -/

/-- A rumor without its id. -/
structure RumorBody where
  pubkey : Pubkey
  kind : ℕ
  created_at : ℕ
  tags : List (List String)
  content : String
  deriving DecidableEq

/-- `Rumor`. -/
structure Rumor extends RumorBody where
  id : String
  deriving DecidableEq

/-- What NIP-44 makes of a plaintext between two keys. -/
structure Sealed (α : Type) where
  sender : Pubkey
  recipient : Pubkey
  plain : α
  deriving DecidableEq

/-- `nip44Decrypt` by `me`, for the text of `peer`: the two keys have one conversation key. -/
def nip44Decrypt {α : Type} (me peer : Pubkey) (c : Sealed α) : Option α :=
  if (c.sender = peer ∧ c.recipient = me) ∨ (c.sender = me ∧ c.recipient = peer) then some c.plain
  else none

/-- An event of kind 13.  The content is `none` where it is no encrypted rumor. -/
structure Seal where
  pubkey : Pubkey
  kind : ℕ
  tags : List (List String)
  content : Option (Sealed Rumor)
  /-- `verifyEvent`. -/
  verifies : Bool
  deriving DecidableEq

/-- An event as the inbox relay sends it.  The content is `none` where it is no encrypted seal. -/
structure Wrap where
  id : String
  pubkey : Pubkey
  kind : ℕ
  tags : List (List String)
  content : Option (Sealed Seal)
  /-- `verifyEvent`. -/
  verifies : Bool
  deriving DecidableEq

/-- `NIP59_KIND_SEAL`. -/
def nip59KindSeal : ℕ := 13

/-- `NIP59_KIND_GIFT_WRAP`, and `NIP17_INBOX_KIND`. -/
def nip59KindGiftWrap : ℕ := 1059

/-- `NIP17_DIRECT_KIND`. -/
def nip17DirectKind : ℕ := 14

/-- `MAX_ROOM_PARTICIPANTS`. -/
def maxRoomParticipants : ℕ := 10

/-- `MAX_MESSAGE_BYTES`. -/
def maxMessageBytes : ℕ := 16384

/-- `singleTag`, from a value that was found on; a tag without a value is not told from none. -/
def singleTagFrom (name : String) : Option String → List (List String) → Option String
  | found, [] => found
  | found, tag :: tags =>
    if tag.head? = some name then
      if found.isSome then none else singleTagFrom name tag[1]? tags
    else singleTagFrom name found tags

/-- `singleTag`. -/
def singleTag (tags : List (List String)) (name : String) : Option String :=
  singleTagFrom name none tags

/-- `content.length`, in units of UTF-16. -/
def utf16Length (s : String) : ℕ := (s.toList.map fun c => if c.val < 0x10000 then 1 else 2).sum

/-- `validMessageContent`. -/
def validMessageContent (content : String) : Bool :=
  decide (0 < utf16Length content) && decide (utf16Length content ≤ maxMessageBytes)

/-- What the libraries give: the digests, and the one-time key and the id of the wrap that is
made for a recipient. -/
structure Libraries where
  sha256 : String → String
  getEventHash : RumorBody → String
  ephemeral : Pubkey → Pubkey
  wrapId : Pubkey → String

variable (lib : Libraries)

/-- `createRumor`. -/
def createRumor (body : RumorBody) : Rumor := { body with id := lib.getEventHash body }

/-- `createSeal`, with the key of the signer. -/
def createSeal (signer : Pubkey) (rumor : Rumor) (recipientPubkey : Pubkey) : Seal :=
  { pubkey := signer, kind := nip59KindSeal, tags := []
    content := some { sender := signer, recipient := recipientPubkey, plain := rumor }
    verifies := true }

/-- `createWrap`. -/
def createWrap (sealed : Seal) (recipientPubkey : Pubkey) : Wrap :=
  { id := lib.wrapId recipientPubkey, pubkey := lib.ephemeral recipientPubkey
    kind := nip59KindGiftWrap, tags := [["p", recipientPubkey]]
    content := some
      { sender := lib.ephemeral recipientPubkey, recipient := recipientPubkey, plain := sealed }
    verifies := true }

/-- `unwrapGiftWrap`, for the signer with the key `me`. -/
def unwrapGiftWrap (me : Pubkey) (wrap : Wrap) : Option Rumor := do
  guard (wrap.verifies ∧ wrap.kind = nip59KindGiftWrap)
  guard (singleTag wrap.tags "p" = some me)
  let sealed ← wrap.content.bind (nip44Decrypt me wrap.pubkey)
  guard (sealed.verifies ∧ sealed.kind = nip59KindSeal ∧ sealed.tags = [])
  let rumor ← sealed.content.bind (nip44Decrypt me sealed.pubkey)
  guard (isLowercaseHex64 rumor.pubkey ∧ rumor.pubkey = sealed.pubkey)
  pure { rumor with id := lib.getEventHash rumor.toRumorBody }

/-! ### Messages -/

/-- The values of the `p` tags; `none` for a tag that has none. -/
def pTags (rumor : Rumor) : List (Option String) :=
  (rumor.tags.filter fun t => decide (t.head? = some "p")).map fun t => t[1]?

/-- `participantSet`. -/
def participantSet (rumor : Rumor) : Option (List Pubkey) := do
  guard (rumor.kind = nip17DirectKind)
  guard (rumor.tags.length ≤ maxRoomParticipants)
  guard (pTags rumor ≠ [] ∧ (pTags rumor).all (Option.any isLowercaseHex64))
  guard (pTags rumor).Nodup
  pure (normalizeParticipants (rumor.pubkey :: (pTags rumor).reduceOption))

/-- `UnwrappedMessage`. -/
structure UnwrappedMessage where
  rumor : Rumor
  participants : List Pubkey
  deriving DecidableEq

/-- `unwrapMessage`. -/
def unwrapMessage (me : Pubkey) (wrap : Wrap) : Option UnwrappedMessage := do
  let rumor ← unwrapGiftWrap lib me wrap
  guard (validMessageContent rumor.content)
  let participants ← participantSet rumor
  guard (me ∈ participants)
  pure { rumor, participants }

/-- `wrapRumor`. -/
def wrapRumor (signer : Pubkey) (rumor : Rumor) (recipients : List Pubkey) : List Wrap :=
  recipients.map fun recipient => createWrap lib (createSeal signer rumor recipient) recipient

/-- `createDirectMessage`, by the signer with the key `senderPubkey`. -/
def createDirectMessage (now : ℕ) (senderPubkey recipientPubkey : Pubkey) (content : String) :
    Except String (List Wrap) := do
  ensure (validMessageContent content) "invalid message content"
  ensure (isLowercaseHex64 recipientPubkey) "invalid recipient public key"
  ensure (decide (recipientPubkey ≠ toAsciiLowercase senderPubkey)) "cannot message yourself"
  let rumor := createRumor lib
    { pubkey := senderPubkey, kind := nip17DirectKind, created_at := now
      tags := [["p", toAsciiLowercase recipientPubkey]], content }
  pure (wrapRumor lib senderPubkey rumor [senderPubkey, toAsciiLowercase recipientPubkey])

/-- `createGroupMessage`. -/
def createGroupMessage (now : ℕ) (senderPubkey : Pubkey) (recipients : List Pubkey)
    (content : String) : Except String (List Wrap) := do
  ensure (validMessageContent content) "invalid message content"
  let participants := normalizeParticipants (senderPubkey :: recipients)
  ensure (decide (participants.length ≤ maxRoomParticipants)) "room has too many participants"
  ensure (decide (2 ≤ participants.length)) "room needs at least one other participant"
  let rumor := createRumor lib
    { pubkey := senderPubkey, kind := nip17DirectKind, created_at := now
      tags := participants.map fun p => ["p", p], content }
  pure (wrapRumor lib senderPubkey rumor participants)

/-- `SentMessage`. -/
structure SentMessage where
  wraps : List Wrap
  conversationId : String
  participants : List Pubkey
  deriving DecidableEq

/-- `sendDirectMessage`. -/
def sendDirectMessage (now : ℕ) (myPubkey recipientPubkey : Pubkey) (content : String) :
    Except String SentMessage := do
  let wraps ← createDirectMessage lib now myPubkey recipientPubkey content
  pure
    { wraps
      conversationId := directConversationId lib.sha256 myPubkey recipientPubkey
      participants := normalizeParticipants [myPubkey, recipientPubkey] }

/-- `sendGroupMessage`. -/
def sendGroupMessage (now : ℕ) (myPubkey : Pubkey) (recipients : List Pubkey) (content : String) :
    Except String SentMessage := do
  let wraps ← createGroupMessage lib now myPubkey recipients content
  let participants := normalizeParticipants (myPubkey :: recipients)
  pure { wraps, conversationId := conversationIdFor lib.sha256 participants, participants }

/-! ### What is sent is what is unwrapped -/

variable {lib}

theorem guard_bind {α : Type} {p : Prop} [Decidable p] (h : p) (x : Unit → Option α) :
    ((guard p : Option Unit) >>= x) = x () := by
  rw [show (guard p : Option Unit) = some () from if_pos h]
  rfl

/-- **A gift wrap opens for its recipient**, to the rumor that was wrapped. -/
theorem unwrapGiftWrap_createWrap {body : RumorBody} (hhex : isLowercaseHex64 body.pubkey = true)
    (recipient : Pubkey) :
    unwrapGiftWrap lib recipient
      (createWrap lib (createSeal body.pubkey (createRumor lib body) recipient) recipient) =
        some (createRumor lib body) := by
  have hwrap : (createWrap lib (createSeal body.pubkey (createRumor lib body) recipient)
      recipient).content.bind (nip44Decrypt recipient (lib.ephemeral recipient)) =
        some (createSeal body.pubkey (createRumor lib body) recipient) :=
    if_pos (Or.inl ⟨rfl, rfl⟩)
  have hseal : (createSeal body.pubkey (createRumor lib body) recipient).content.bind
      (nip44Decrypt recipient body.pubkey) = some (createRumor lib body) :=
    if_pos (Or.inl ⟨rfl, rfl⟩)
  unfold unwrapGiftWrap
  refine (guard_bind ⟨rfl, rfl⟩ _).trans ((guard_bind rfl _).trans ?_)
  refine (Option.bind_eq_some_iff.2 ⟨_, hwrap, ?_⟩)
  refine (guard_bind ⟨rfl, rfl, rfl⟩ _).trans (Option.bind_eq_some_iff.2 ⟨_, hseal, ?_⟩)
  exact (guard_bind ⟨hhex, rfl⟩ _).trans rfl

/-- **A message arrives as it was sent**: for a recipient that is among the participants its tags
give. -/
theorem unwrapMessage_createWrap (body : RumorBody) {participants : List Pubkey} {recipient : Pubkey}
    (hhex : isLowercaseHex64 body.pubkey = true) (hvalid : validMessageContent body.content = true)
    (hset : participantSet (createRumor lib body) = some participants)
    (hmem : recipient ∈ participants) :
    unwrapMessage lib recipient
      (createWrap lib (createSeal body.pubkey (createRumor lib body) recipient) recipient) =
        some { rumor := createRumor lib body, participants } := by
  unfold unwrapMessage
  rw [unwrapGiftWrap_createWrap hhex]
  simp only [Option.bind_eq_bind, Option.bind_some, Option.bind_eq_some_iff, Option.guard_eq_some',
    Option.pure_def]
  exact ⟨(), hvalid, participants, hset, (), hmem, rfl⟩

/-- The values of tags that are all `p` tags. -/
theorem pTags_of_tags {rumor : Rumor} {ps : List Pubkey} (h : rumor.tags = ps.map fun p => ["p", p]) :
    pTags rumor = ps.map some := by
  unfold pTags
  rw [h, List.filter_eq_self.2 fun t ht => ?_, List.map_map]
  · exact List.map_congr_left fun _ _ => rfl
  · obtain ⟨p, _, rfl⟩ := List.mem_map.1 ht
    rfl

/-- The participants of a rumor whose tags are keys. -/
theorem participantSet_of_tags (body : RumorBody) {ps : List Pubkey}
    (hkind : body.kind = nip17DirectKind) (htags : body.tags = ps.map fun p => ["p", p])
    (hne : ps ≠ []) (hlen : ps.length ≤ maxRoomParticipants)
    (hhex : ∀ p ∈ ps, isLowercaseHex64 p = true) (hnodup : ps.Nodup) :
    participantSet (createRumor lib body) = some (normalizeParticipants (body.pubkey :: ps)) := by
  have hp : pTags (createRumor lib body) = ps.map some := pTags_of_tags htags
  have hlen' : (createRumor lib body).tags.length ≤ maxRoomParticipants := by
    rw [show (createRumor lib body).tags = _ from htags, List.length_map]
    exact hlen
  have hall : ((ps.map some).all (Option.any isLowercaseHex64)) = true := by
    rw [List.all_map, List.all_eq_true]
    exact hhex
  have hreduce : (ps.map some).reduceOption = ps := by
    change (ps.map some).filterMap id = ps
    rw [List.filterMap_map]
    exact List.filterMap_some
  unfold participantSet
  rw [hp, hreduce]
  simp only [Option.bind_eq_bind, Option.bind_eq_some_iff, Option.guard_eq_some', Option.pure_def]
  exact ⟨(), hkind, (), hlen', (), ⟨by simpa using hne, hall⟩, (),
    hnodup.map (Option.some_injective _), rfl⟩

/-- The rumor of a message. -/
def messageBody (now : ℕ) (sender : Pubkey) (tagged : List Pubkey) (content : String) : RumorBody :=
  { pubkey := sender, kind := nip17DirectKind, created_at := now
    tags := tagged.map fun p => ["p", p], content }

variable (lib)

/-- The wrap is addressed to a key, which unwraps it to the message in the room of the
participants. -/
structure Opens (w : Wrap) (recipient : Pubkey) (participants : List Pubkey) (content : String) :
    Prop where
  addressed : singleTag w.tags "p" = some recipient
  unwraps : ∃ m, unwrapMessage lib recipient w = some m ∧ m.participants = participants ∧
    m.rumor.content = content

variable {lib}

/-- The wraps of a message open for their recipients. -/
theorem wraps_open {now : ℕ} {sender : Pubkey} {tagged participants recipients : List Pubkey}
    {content : String} (hsender : isLowercaseHex64 sender = true)
    (hvalid : validMessageContent content = true)
    (hset : participantSet (createRumor lib (messageBody now sender tagged content)) = some participants)
    (hrecipients : ∀ r ∈ recipients, r ∈ participants) :
    (∀ r ∈ recipients, ∃ w ∈ wrapRumor lib sender (createRumor lib
        (messageBody now sender tagged content)) recipients, Opens lib w r participants content) ∧
      ∀ w ∈ wrapRumor lib sender (createRumor lib (messageBody now sender tagged content)) recipients,
        ∃ r ∈ recipients, Opens lib w r participants content := by
  have hopens : ∀ r ∈ recipients, Opens lib (createWrap lib (createSeal sender (createRumor lib
      (messageBody now sender tagged content)) r) r) r participants content := fun r hr =>
    { addressed := rfl
      unwraps := ⟨_, unwrapMessage_createWrap (messageBody now sender tagged content) hsender
        hvalid hset (hrecipients r hr), rfl, rfl⟩ }
  refine ⟨fun r hr => ⟨_, List.mem_map_of_mem hr, hopens r hr⟩, fun w hw => ?_⟩
  obtain ⟨r, hr, rfl⟩ := List.mem_map.1 hw
  exact ⟨r, hr, hopens r hr⟩

theorem createGroupMessage_eq_ok {now : ℕ} {sender : Pubkey} {recipients : List Pubkey}
    {content : String} {wraps : List Wrap} :
    createGroupMessage lib now sender recipients content = .ok wraps ↔
      validMessageContent content = true ∧
        (normalizeParticipants (sender :: recipients)).length ≤ maxRoomParticipants ∧
        2 ≤ (normalizeParticipants (sender :: recipients)).length ∧
        wraps = wrapRumor lib sender (createRumor lib (messageBody now sender
          (normalizeParticipants (sender :: recipients)) content))
          (normalizeParticipants (sender :: recipients)) := by
  unfold createGroupMessage
  simp only [bind_eq_ok, ensure_eq_ok, decide_eq_true_eq]
  constructor
  · rintro ⟨_, hvalid, _, hmax, _, hmin, hret⟩
    exact ⟨hvalid, hmax, hmin, (Except.ok.inj hret).symm⟩
  · rintro ⟨hvalid, hmax, hmin, rfl⟩
    exact ⟨(), hvalid, (), hmax, (), hmin, rfl⟩

/-- **A group message reaches its room**: there is a wrap for each participant, the sender among
them, and every wrap opens for one of them to a message of that room. -/
theorem createGroupMessage_opens {now : ℕ} {sender : Pubkey} {recipients : List Pubkey}
    {content : String} {wraps : List Wrap} (hsender : isLowercaseHex64 sender = true)
    (h : createGroupMessage lib now sender recipients content = .ok wraps) :
    (∀ r ∈ normalizeParticipants (sender :: recipients), ∃ w ∈ wraps,
        Opens lib w r (normalizeParticipants (sender :: recipients)) content) ∧
      ∀ w ∈ wraps, ∃ r ∈ normalizeParticipants (sender :: recipients),
        Opens lib w r (normalizeParticipants (sender :: recipients)) content := by
  obtain ⟨hvalid, hmax, hmin, rfl⟩ := createGroupMessage_eq_ok.1 h
  have hset := @participantSet_of_tags lib
    (messageBody now sender (normalizeParticipants (sender :: recipients)) content) _ rfl rfl
    (List.ne_nil_of_length_pos (by omega)) hmax
    (fun p hp => (mem_normalizeParticipants.1 hp).1) (nodup_normalizeParticipants _)
  rw [show (messageBody now sender (normalizeParticipants (sender :: recipients)) content).pubkey =
    sender from rfl, normalizeParticipants_cons_self] at hset
  exact wraps_open hsender hvalid hset fun r hr => hr

theorem createDirectMessage_eq_ok {now : ℕ} {sender recipient : Pubkey} {content : String}
    {wraps : List Wrap} :
    createDirectMessage lib now sender recipient content = .ok wraps ↔
      validMessageContent content = true ∧ isLowercaseHex64 recipient = true ∧
        recipient ≠ toAsciiLowercase sender ∧
        wraps = wrapRumor lib sender (createRumor lib (messageBody now sender
          [toAsciiLowercase recipient] content)) [sender, toAsciiLowercase recipient] := by
  unfold createDirectMessage
  simp only [bind_eq_ok, ensure_eq_ok, decide_eq_true_eq]
  constructor
  · rintro ⟨_, hvalid, _, hhex, _, hother, hret⟩
    exact ⟨hvalid, hhex, hother, (Except.ok.inj hret).symm⟩
  · rintro ⟨hvalid, hhex, hother, rfl⟩
    exact ⟨(), hvalid, (), hhex, (), hother, rfl⟩

/-- **A direct message reaches both ends**: there is a wrap for the sender and one for the
recipient, and both open to a message of the room of the two. -/
theorem createDirectMessage_opens {now : ℕ} {sender recipient : Pubkey} {content : String}
    {wraps : List Wrap} (hsender : isLowercaseHex64 sender = true)
    (h : createDirectMessage lib now sender recipient content = .ok wraps) :
    ∃ own other, wraps = [own, other] ∧
      Opens lib own sender (normalizeParticipants [sender, recipient]) content ∧
      Opens lib other recipient (normalizeParticipants [sender, recipient]) content := by
  obtain ⟨hvalid, hhex, hother, rfl⟩ := createDirectMessage_eq_ok.1 h
  rw [toAsciiLowercase_of_hex hhex]
  have hset := @participantSet_of_tags lib (messageBody now sender [recipient] content) _ rfl rfl
    (List.cons_ne_nil _ _) (Nat.le_add_left 1 9) (fun p hp => List.mem_singleton.1 hp ▸ hhex)
    (List.nodup_singleton _)
  have hopens : ∀ r ∈ [sender, recipient], Opens lib (createWrap lib (createSeal sender
      (createRumor lib (messageBody now sender [recipient] content)) r) r) r
        (normalizeParticipants [sender, recipient]) content := by
    intro r hr
    have hmem : r ∈ normalizeParticipants [sender, recipient] := by
      refine mem_normalizeParticipants_of_mem hr ?_
      rcases List.mem_pair.1 hr with rfl | rfl
      · exact hsender
      · exact hhex
    exact
      { addressed := rfl
        unwraps := ⟨_, unwrapMessage_createWrap (messageBody now sender [recipient] content) hsender
          hvalid hset hmem, rfl, rfl⟩ }
  exact ⟨_, _, rfl, hopens sender (List.mem_cons_self ..),
    hopens recipient (List.mem_cons_of_mem _ (List.mem_singleton_self _))⟩

/-- A participant, by a hexadecimal digit. -/
def demoKey (c : Char) : Pubkey := String.ofList (List.replicate 64 c)

/-- Digests that are the text itself, and one-time keys that are the recipient's. -/
def demoLibraries : Libraries where
  sha256 s := s
  getEventHash body := body.content
  ephemeral p := p
  wrapId p := p

end Chat
end Pwa
end SentinelMesh
