/-
# The chat room of a circle

`services/chat/circleChat.ts` and `pages/CircleChatPage.tsx`.

The first argument of `circleChatParticipants` is meant for the owner, who has no row among
the members; the page passes the key of the device it runs on.  So the participants a device
computes are its own key and the active members (`mem_pageParticipants`).  Two active members
agree; the owner and a member do not, because the member's list lacks the owner
(`same_room_iff`).
-/

import SentinelMesh.Pwa.Chat.Messages
import SentinelMesh.Pwa.Published
import SentinelMesh.Ws.Removed

namespace SentinelMesh
namespace Pwa
namespace Chat

open Lib
open Circles (Token MembershipState CircleDetail Member getCircle getCircle_eq_ok mem_membersOf)
open CircleStore (Labels CircleMember toMember toCircleAndMembers openLabel)
open CircleClient (Named Truthful named_iff_isActive)

/-- `CircleChatMember`. -/
structure CircleChatMember where
  pubkey : Pubkey
  membership_state : Option MembershipState
  deriving DecidableEq

/-- `MAX_CIRCLE_CHAT_PARTICIPANTS`. -/
def maxCircleChatParticipants : ℕ := 10

/-- `circleChatParticipants`. -/
def circleChatParticipants (ownerPubkey : Pubkey) (members : List CircleChatMember) : List Pubkey :=
  let owner := toAsciiLowercase ownerPubkey
  let active := ((members.filter fun m => decide (m.membership_state ≠ some .pending)).map
    fun m => toAsciiLowercase m.pubkey).filter fun pubkey => decide (pubkey ≠ owner)
  normalizeParticipants (owner :: active)

/-- `circleChatFeasible`. -/
def circleChatFeasible (participants : List Pubkey) : Bool :=
  decide (2 ≤ participants.length) && decide (participants.length ≤ maxCircleChatParticipants)

/-! ### `CircleChatPage` -/

/-- What the page makes of the members in the store. -/
def chatMember (m : CircleMember) : CircleChatMember :=
  { pubkey := m.pubkey.getD "", membership_state := some m.membership_state }

/-- The participants, on the device with the key `pubkey`. -/
def pageParticipants (pubkey : Pubkey) (members : List CircleMember) : List Pubkey :=
  circleChatParticipants pubkey (members.map chatMember)

/-- `conversationId` of the page: the room, or `null`. -/
def pageConversationId (lib : Libraries) (pubkey : Pubkey) (members : List CircleMember) :
    Option String :=
  let participants := pageParticipants pubkey members
  if circleChatFeasible participants then some (conversationIdFor lib.sha256 participants) else none

/-- The wraps `handleSend` of the page publishes; `inbox` says that there is a relay for them.  A
digest is not the empty text. -/
def circleHandleSend (lib : Libraries) (now : ℕ) (inbox : Bool) (pubkey : Pubkey)
    (members : List CircleMember) (conversationId : Option String) (text : String) :
    Except String (List Wrap) :=
  if inbox = false ∨ conversationId = none then .ok []
  else do
    let peers := (pageParticipants pubkey members).filter fun p => decide (p ≠ toAsciiLowercase pubkey)
    let sent ← sendGroupMessage lib now pubkey peers text
    pure sent.wraps

/-! ### What is sent -/

theorem self_mem_pageParticipants {pubkey : Pubkey} (h : isLowercaseHex64 pubkey = true)
    (members : List CircleMember) : pubkey ∈ pageParticipants pubkey members := by
  unfold pageParticipants circleChatParticipants
  rw [toAsciiLowercase_of_hex h]
  exact mem_normalizeParticipants_of_mem (List.mem_cons_self ..) h

/-- The room a message is sent to is that of the page. -/
theorem normalizeParticipants_peers {sender : Pubkey} (hsender : isLowercaseHex64 sender = true)
    (members : List CircleMember) :
    normalizeParticipants (sender :: (pageParticipants sender members).filter fun p =>
      decide (p ≠ toAsciiLowercase sender)) = pageParticipants sender members := by
  have hlower := toAsciiLowercase_of_hex hsender
  have hself := self_mem_pageParticipants hsender members
  have hnorm : normalizeParticipants (pageParticipants sender members) =
      pageParticipants sender members := normalizeParticipants_self _
  refine (normalizeParticipants_ext fun p => ?_).trans hnorm
  rw [mem_normalizeParticipants, mem_normalizeParticipants]
  refine and_congr_right fun _ => ⟨?_, ?_⟩
  · rintro ⟨q, hq, hp⟩
    rcases List.mem_cons.1 hq with rfl | hq
    · exact ⟨q, hself, hp⟩
    · exact ⟨q, (List.mem_filter.1 hq).1, hp⟩
  · rintro ⟨q, hq, hp⟩
    by_cases hsame : q = sender
    · exact ⟨q, hsame ▸ List.mem_cons_self .., hp⟩
    · refine ⟨q, List.mem_cons_of_mem _ (List.mem_filter.2 ⟨hq, ?_⟩), hp⟩
      rw [hlower]
      exact decide_eq_true hsame

/-- A message from the page of the sender opens for the sender and for another key. -/
def Reaches (lib : Libraries) (sender : Pubkey) (members : List CircleMember) (other : Pubkey) :
    Prop :=
  ∀ now text id, pageConversationId lib sender members = some id → validMessageContent text = true →
    ∃ wraps, circleHandleSend lib now true sender members (some id) text = .ok wraps ∧
      ∀ p, p = sender ∨ p = other →
        ∃ w ∈ wraps, Opens lib w p (pageParticipants sender members) text

/-- **A message from the page reaches every participant the page computes.** -/
theorem reaches_of_mem {lib : Libraries} {sender other : Pubkey} {members : List CircleMember}
    (hsender : isLowercaseHex64 sender = true)
    (hother : other ∈ pageParticipants sender members) : Reaches lib sender members other := by
  intro now text id hid hvalid
  have hfeasible : circleChatFeasible (pageParticipants sender members) = true := by
    unfold pageConversationId at hid
    dsimp only at hid
    split_ifs at hid with h
    exact h
  unfold circleChatFeasible at hfeasible
  rw [Bool.and_eq_true, decide_eq_true_eq, decide_eq_true_eq] at hfeasible
  have hpeers := normalizeParticipants_peers hsender members
  obtain ⟨wraps, hcreate⟩ : ∃ wraps, createGroupMessage lib now sender
      ((pageParticipants sender members).filter fun p => decide (p ≠ toAsciiLowercase sender)) text =
        .ok wraps :=
    ⟨_, createGroupMessage_eq_ok.2 ⟨hvalid, hpeers.symm ▸ hfeasible.2, hpeers.symm ▸ hfeasible.1, rfl⟩⟩
  refine ⟨wraps, ?_, fun p hp => ?_⟩
  · unfold circleHandleSend sendGroupMessage
    rw [if_neg (by simp)]
    dsimp only
    rw [hcreate]
    rfl
  · have hopens := (createGroupMessage_opens hsender hcreate).1 p
    rw [hpeers] at hopens
    rcases hp with rfl | rfl
    · exact hopens (self_mem_pageParticipants hsender members)
    · exact hopens hother

/-! ### What a device computes -/

/-- Devices that compute the same participants compute the same list. -/
theorem pageParticipants_ext {a b : Pubkey} {membersA membersB : List CircleMember}
    (h : ∀ p, p ∈ pageParticipants a membersA ↔ p ∈ pageParticipants b membersB) :
    pageParticipants a membersA = pageParticipants b membersB := by
  unfold pageParticipants circleChatParticipants at h ⊢
  exact normalizeParticipants_ext h

/-- **What `circleChatParticipants` gives**: its first argument and the active members. -/
theorem mem_circleChatParticipants {owner p : Pubkey} {members : List CircleChatMember} :
    p ∈ circleChatParticipants owner members ↔
      isLowercaseHex64 p = true ∧ (toAsciiLowercase owner = p ∨
        ∃ m ∈ members, m.membership_state ≠ some .pending ∧ toAsciiLowercase m.pubkey = p) := by
  unfold circleChatParticipants
  rw [mem_normalizeParticipants]
  refine and_congr_right fun hp => ?_
  simp only [List.mem_cons, List.mem_filter, List.mem_map, decide_eq_true_eq]
  constructor
  · rintro ⟨q, rfl | ⟨⟨m, ⟨hm, hstate⟩, rfl⟩, _⟩, rfl⟩
    · exact Or.inl (toAsciiLowercase_toAsciiLowercase owner).symm
    · exact Or.inr ⟨m, hm, hstate, (toAsciiLowercase_toAsciiLowercase m.pubkey).symm⟩
  · rintro (rfl | ⟨m, hm, hstate, rfl⟩)
    · exact ⟨_, Or.inl rfl, toAsciiLowercase_toAsciiLowercase owner⟩
    · by_cases hsame : toAsciiLowercase m.pubkey = toAsciiLowercase owner
      · exact ⟨_, Or.inl hsame, toAsciiLowercase_toAsciiLowercase m.pubkey⟩
      · exact ⟨_, Or.inr ⟨⟨m, ⟨hm, hstate⟩, rfl⟩, hsame⟩, toAsciiLowercase_toAsciiLowercase m.pubkey⟩

section Loaded

variable {env : Circles.Env} {db : Circles.Db} {circleId : Uuid} {labels : Labels}

/-- **The participants a device computes** are its own key and the active members. -/
theorem mem_pageParticipants {viewer : Pubkey} {detail : CircleDetail} {key : Bytes}
    (hinj : Function.Injective (env.circleToken circleId))
    (htrue : Truthful env labels key db circleId)
    (hget : getCircle env db circleId viewer = .ok detail) {p : Pubkey} :
    p ∈ pageParticipants viewer (toCircleAndMembers labels (some key) detail).2 ↔
      isLowercaseHex64 p = true ∧ (toAsciiLowercase viewer = p ∨
        db.isActive circleId (env.circleToken circleId p) = true) := by
  unfold pageParticipants
  rw [mem_circleChatParticipants]
  refine and_congr_right fun hp => or_congr_right ?_
  obtain ⟨circle, _, _, _, _, _, hmembers⟩ := getCircle_eq_ok hget
  have hlower := toAsciiLowercase_of_hex hp
  have hnamed : Named labels key db circleId p ↔
      db.isActive circleId (env.circleToken circleId (toAsciiLowercase p)) = true :=
    named_iff_isActive hinj htrue
  have hempty : p ≠ "" := by
    rintro rfl
    revert hp
    decide
  rw [hlower] at hnamed
  rw [← hnamed]
  unfold toCircleAndMembers Named
  dsimp only
  rw [hmembers, hlower]
  constructor
  · rintro ⟨row, hrow, hstate, hp'⟩
    obtain ⟨_, hmember, rfl⟩ := List.mem_map.1 hrow
    obtain ⟨_, hdetail, rfl⟩ := List.mem_map.1 hmember
    obtain ⟨⟨token, m⟩, hm, rfl⟩ := List.mem_map.1 hdetail
    have hactive : m.membership_state = .active := by
      cases hm : m.membership_state with
      | pending => exact absurd (congrArg some hm) hstate
      | active => rfl
    change toAsciiLowercase (((openLabel labels (some key) m.member_label_ciphertext).bind
      CircleStore.Label.pubkey).getD "") = p at hp'
    cases hopen : (openLabel labels (some key) m.member_label_ciphertext).bind
      CircleStore.Label.pubkey with
    | none =>
        rw [hopen] at hp'
        exact absurd hp'.symm hempty
    | some named =>
        rw [hopen, Option.getD_some] at hp'
        obtain ⟨label, hlabel, hpubkey⟩ := Option.bind_eq_some_iff.1 hopen
        refine ⟨token, m, label, named, mem_membersOf.1 hm, hactive, hlabel, hpubkey, ?_, hp'⟩
        rintro rfl
        exact hempty hp'.symm
  · rintro ⟨token, m, label, named, hm, hactive, hlabel, hpubkey, _, hp'⟩
    refine ⟨_, List.mem_map_of_mem (List.mem_map_of_mem (List.mem_map_of_mem (mem_membersOf.2 hm))),
      ?_, ?_⟩
    · change some m.membership_state ≠ some .pending
      rw [hactive]
      decide
    · change toAsciiLowercase (((openLabel labels (some key) m.member_label_ciphertext).bind
        CircleStore.Label.pubkey).getD "") = p
      rw [hlabel, Option.bind_some, hpubkey]
      exact hp'

/-- **When two devices compute the same participants**: when they are one device, or both members
are active. -/
theorem pageParticipants_eq_iff {a b : Pubkey} {detailA detailB : CircleDetail} {keyA keyB : Bytes}
    (hinj : Function.Injective (env.circleToken circleId)) (ha : isLowercaseHex64 a = true)
    (hb : isLowercaseHex64 b = true) (htrueA : Truthful env labels keyA db circleId)
    (htrueB : Truthful env labels keyB db circleId)
    (hgetA : getCircle env db circleId a = .ok detailA)
    (hgetB : getCircle env db circleId b = .ok detailB) :
    pageParticipants a (toCircleAndMembers labels (some keyA) detailA).2 =
        pageParticipants b (toCircleAndMembers labels (some keyB) detailB).2 ↔
      a = b ∨ (db.isActive circleId (env.circleToken circleId a) = true ∧
        db.isActive circleId (env.circleToken circleId b) = true) := by
  have hmemA := fun p => mem_pageParticipants (p := p) hinj htrueA hgetA
  have hmemB := fun p => mem_pageParticipants (p := p) hinj htrueB hgetB
  rw [toAsciiLowercase_of_hex ha] at hmemA
  rw [toAsciiLowercase_of_hex hb] at hmemB
  constructor
  · intro h
    by_cases hab : a = b
    · exact Or.inl hab
    · have hinB := (hmemA a).2 ⟨ha, Or.inl rfl⟩
      have hinA := (hmemB b).2 ⟨hb, Or.inl rfl⟩
      rw [h, hmemB] at hinB
      rw [← h, hmemA] at hinA
      exact Or.inr ⟨hinB.2.resolve_left (Ne.symm hab), hinA.2.resolve_left hab⟩
  · intro h
    refine pageParticipants_ext fun p => ?_
    rw [hmemA, hmemB]
    refine and_congr_right fun _ => ?_
    rcases h with rfl | ⟨hactA, hactB⟩
    · rfl
    · constructor
      · rintro (rfl | hp)
        · exact Or.inr hactA
        · exact Or.inr hp
      · rintro (rfl | hp)
        · exact Or.inr hactB
        · exact Or.inr hp

/-- Two devices compute one room, and a message of either opens for both. -/
structure SameRoom (lib : Libraries) (a b : Pubkey) (membersA membersB : List CircleMember) :
    Prop where
  participants : pageParticipants a membersA = pageParticipants b membersB
  room : pageConversationId lib a membersA = pageConversationId lib b membersB
  fromA : Reaches lib a membersA b
  fromB : Reaches lib b membersB a

omit env db circleId labels in
/-- Devices with the same participants have the same room. -/
theorem sameRoom_of_participants (lib : Libraries) {a b : Pubkey}
    {membersA membersB : List CircleMember} (ha : isLowercaseHex64 a = true)
    (hb : isLowercaseHex64 b = true)
    (h : pageParticipants a membersA = pageParticipants b membersB) :
    SameRoom lib a b membersA membersB := by
  have hselfA := self_mem_pageParticipants ha membersA
  have hselfB := self_mem_pageParticipants hb membersB
  have hotherA := hselfB
  have hotherB := hselfA
  rw [← h] at hotherA
  rw [h] at hotherB
  refine ⟨h, ?_, reaches_of_mem ha hotherA, reaches_of_mem hb hotherB⟩
  unfold pageConversationId
  rw [h]

/-- **Who is in one room.**  Two participants whose stores were loaded from `get_circle`, with the
labels decrypted, have the same room exactly if they are the same or both are active members. -/
theorem same_room_iff (lib : Libraries) {a b : Pubkey} {detailA detailB : CircleDetail}
    {keyA keyB : Bytes} (hinj : Function.Injective (env.circleToken circleId))
    (ha : isLowercaseHex64 a = true) (hb : isLowercaseHex64 b = true)
    (htrueA : Truthful env labels keyA db circleId) (htrueB : Truthful env labels keyB db circleId)
    (hgetA : getCircle env db circleId a = .ok detailA)
    (hgetB : getCircle env db circleId b = .ok detailB) :
    SameRoom lib a b (toCircleAndMembers labels (some keyA) detailA).2
        (toCircleAndMembers labels (some keyB) detailB).2 ↔
      a = b ∨ (db.isActive circleId (env.circleToken circleId a) = true ∧
        db.isActive circleId (env.circleToken circleId b) = true) := by
  have hiff := pageParticipants_eq_iff hinj ha hb htrueA htrueB hgetA hgetB
  exact ⟨fun h => hiff.1 h.participants, fun h => sameRoom_of_participants lib ha hb (hiff.2 h)⟩

end Loaded

/-! ### A circle of an owner and a member -/

/-- The members the store of a device has, once it has loaded the circle. -/
def demoMembers (pk : Pubkey) (is_owner : Bool) : List CircleMember :=
  (toCircleAndMembers CircleClient.demoLabels (some []) (CircleClient.demoDetail pk is_owner)).2

/-- The circle has one row, the member's. -/
theorem rows_demoActiveDb : Circles.demoActiveDb.members.rows =
    [(("c", Circles.demoToken Circles.demoMember), CircleClient.demoRow)] := by
  decide

theorem truthful_demo : Truthful Circles.demoEnv CircleClient.demoLabels []
    Circles.demoActiveDb "c" := by
  intro token m hm _
  rw [Table.find?_eq_some_iff, rows_demoActiveDb, List.mem_singleton, Prod.mk.injEq, Prod.mk.injEq] at hm
  obtain ⟨⟨-, rfl⟩, rfl⟩ := hm
  refine ⟨_, Circles.demoMember, rfl, rfl, by decide, ?_⟩
  rw [Circles.toAsciiLowercase_demoMember]
  rfl

theorem isLowercaseHex64_demo : isLowercaseHex64 Circles.demoOwner = true ∧
    isLowercaseHex64 Circles.demoMember = true := by
  decide

/-- Another member of the circle. -/
def demoSecond : Pubkey := digits 64 'c'

/-- The circle with both of them, whose labels name them. -/
def demoPairDb : Circles.Db :=
  { Circles.demoActiveDb with
    members := (Circles.demoActiveDb.members.put ("c", Circles.demoToken Circles.demoMember)
      { CircleClient.demoRow with member_label_ciphertext := some Circles.demoMember }).put
        ("c", Circles.demoToken demoSecond)
          { CircleClient.demoRow with member_label_ciphertext := some demoSecond } }

/-- Labels that are keys in plain text. -/
def demoNames : Labels where
  decryptString _ ciphertext := some ciphertext
  parse text := some { pubkey := some text, name := none }

theorem rows_demoPairDb : demoPairDb.members.rows =
    [(("c", Circles.demoToken Circles.demoMember),
        { CircleClient.demoRow with member_label_ciphertext := some Circles.demoMember }),
      (("c", Circles.demoToken demoSecond),
        { CircleClient.demoRow with member_label_ciphertext := some demoSecond })] := by
  decide

theorem truthful_demoPairDb : Truthful Circles.demoEnv demoNames [] demoPairDb "c" := by
  intro token m hm _
  rw [Table.find?_eq_some_iff, rows_demoPairDb, List.mem_pair] at hm
  rcases hm with hm | hm
  · obtain ⟨hkey, rfl⟩ := Prod.mk.inj hm
    obtain ⟨-, rfl⟩ := Prod.mk.inj hkey
    refine ⟨_, Circles.demoMember, rfl, rfl, by decide, ?_⟩
    rw [Circles.toAsciiLowercase_demoMember]
    rfl
  · obtain ⟨hkey, rfl⟩ := Prod.mk.inj hm
    obtain ⟨-, rfl⟩ := Prod.mk.inj hkey
    refine ⟨_, demoSecond, rfl, rfl, by decide, ?_⟩
    rw [toAsciiLowercase_of_hex (by decide)]
    rfl

/-- Two active members have one room; the owner and a member have different rooms, since the owner has
no row. -/
theorem same_room_iff_demo :
    (∃ detailA detailB, getCircle Circles.demoEnv demoPairDb "c" Circles.demoMember = .ok detailA ∧
      getCircle Circles.demoEnv demoPairDb "c" demoSecond = .ok detailB ∧
      SameRoom demoLibraries Circles.demoMember demoSecond
        (toCircleAndMembers demoNames (some []) detailA).2
        (toCircleAndMembers demoNames (some []) detailB).2) ∧
      ¬ SameRoom demoLibraries Circles.demoOwner Circles.demoMember
        (demoMembers Circles.demoOwner true) (demoMembers Circles.demoMember false) := by
  constructor
  · obtain ⟨detailA, hgetA⟩ :
        ∃ d, getCircle Circles.demoEnv demoPairDb "c" Circles.demoMember = .ok d := ⟨_, rfl⟩
    obtain ⟨detailB, hgetB⟩ : ∃ d, getCircle Circles.demoEnv demoPairDb "c" demoSecond = .ok d :=
      ⟨_, rfl⟩
    refine ⟨detailA, detailB, hgetA, hgetB, (same_room_iff demoLibraries
      (Circles.demoToken_injective "c") isLowercaseHex64_demo.2 (by decide) truthful_demoPairDb
      truthful_demoPairDb hgetA hgetB).2 (Or.inr ⟨?_, ?_⟩)⟩
    · decide
    · decide
  · intro h
    have hiff := same_room_iff demoLibraries (Circles.demoToken_injective "c")
      isLowercaseHex64_demo.1 isLowercaseHex64_demo.2 truthful_demo truthful_demo
      CircleClient.get_owner CircleClient.get_member
    rcases hiff.1 h with hsame | ⟨hactive, _⟩
    · exact Circles.demoMember_ne_demoOwner hsame.symm
    · revert hactive
      decide

/-- **The member's room lacks the owner.**  Both have loaded the circle, the owner's list has both
of them, and the member's has the member alone: no room. -/
theorem owner_not_in_room :
    getCircle Circles.demoEnv Circles.demoActiveDb "c" Circles.demoOwner =
        .ok (CircleClient.demoDetail Circles.demoOwner true) ∧
      getCircle Circles.demoEnv Circles.demoActiveDb "c" Circles.demoMember =
        .ok (CircleClient.demoDetail Circles.demoMember false) ∧
      Truthful Circles.demoEnv CircleClient.demoLabels [] Circles.demoActiveDb "c" ∧
      Circles.demoActiveDb.isActive "c" (Circles.demoToken Circles.demoMember) = true ∧
      (∀ p, p ∈ pageParticipants Circles.demoOwner (demoMembers Circles.demoOwner true) ↔
        p = Circles.demoOwner ∨ p = Circles.demoMember) ∧
      (∀ p, p ∈ pageParticipants Circles.demoMember (demoMembers Circles.demoMember false) ↔
        p = Circles.demoMember) := by
  have hactive : Circles.demoActiveDb.isActive "c" (Circles.demoToken Circles.demoMember) = true := by
    decide
  have honly : ∀ p, Circles.demoActiveDb.isActive "c" (Circles.demoToken p) = true →
      p = Circles.demoMember := by
    intro p hp
    obtain ⟨m, hm, _⟩ := Circles.isActive_iff.1 hp
    rw [Table.find?_eq_some_iff, rows_demoActiveDb, List.mem_singleton, Prod.mk.injEq, Prod.mk.injEq] at hm
    exact Circles.demoToken_injective "c" hm.1.2
  refine ⟨CircleClient.get_owner, CircleClient.get_member, truthful_demo, hactive, fun p => ?_,
    fun p => ?_⟩
  · refine (mem_pageParticipants (Circles.demoToken_injective "c") truthful_demo
      CircleClient.get_owner).trans ⟨?_, ?_⟩
    · rintro ⟨_, rfl | hp⟩
      · exact Or.inl (toAsciiLowercase_of_hex isLowercaseHex64_demo.1)
      · exact Or.inr (honly p hp)
    · rintro (rfl | rfl)
      · exact ⟨isLowercaseHex64_demo.1, Or.inl (toAsciiLowercase_of_hex isLowercaseHex64_demo.1)⟩
      · exact ⟨isLowercaseHex64_demo.2, Or.inr hactive⟩
  · refine (mem_pageParticipants (Circles.demoToken_injective "c") truthful_demo
      CircleClient.get_member).trans ⟨?_, ?_⟩
    · rintro ⟨_, rfl | hp⟩
      · exact toAsciiLowercase_of_hex isLowercaseHex64_demo.2
      · exact honly p hp
    · rintro rfl
      exact ⟨isLowercaseHex64_demo.2, Or.inr hactive⟩

end Chat
end Pwa
end SentinelMesh
