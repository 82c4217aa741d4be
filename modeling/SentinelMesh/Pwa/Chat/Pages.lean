/-
# Where a message typed on the chat page goes

`store/dmSlice.ts` as far as conversations go, `pages/ChatPage.tsx` (where its links lead) and
`pages/DirectConversationPage.tsx`.

Every conversation of the list, a circle's too, opens in `DirectConversationPage`, which sends a
direct message to the first participant that is not the sender and publishes one wrap of it, the
recipient's (`published_direct`).  The sender's own copy is made and not published, so no message
goes to the whole of its conversation (`not_goes_to_room`).
-/

import SentinelMesh.Lib.Table
import SentinelMesh.Pwa.Chat.Messages

namespace SentinelMesh
namespace Pwa
namespace Chat

open Lib

/-- `DmConversationKind`. -/
inductive DmConversationKind
  | dm
  | circle
  deriving DecidableEq

/-- `DmConversation`. -/
structure DmConversation where
  id : String
  kind : DmConversationKind
  title : String
  participants : List Pubkey
  deriving DecidableEq

/-- `DmState.conversations`. -/
abbrev Conversations := Table String DmConversation

/-- `conversationAdded`: a conversation that is there stays as it is. -/
def conversationAdded (conversations : Conversations) (c : DmConversation) : Conversations :=
  conversations.insert c.id c

/-- What the link of `ChatPage` to a conversation displays: it is `/chat/dm/${c.id}` for both kinds,
and so the conversation of the store in `DirectConversationPage`. -/
def linked (conversations : Conversations) (c : DmConversation) : Option DmConversation :=
  conversations.find? c.id

/-! ### `DirectConversationPage` -/

/-- A tag that addresses a key. -/
def Wrap.addresses (w : Wrap) (recipient : Pubkey) : Bool :=
  w.tags.any fun t => decide (t.head? = some "p" ∧ t[1]? = some recipient)

/-- The wraps `handleSend` publishes, on the page of a conversation of the store; `inbox` says that
there is a relay for them. -/
def directHandleSend (lib : Libraries) (now : ℕ) (inbox : Bool) (conversation : Option DmConversation)
    (myPubkey : Pubkey) (text : String) : Except String (List Wrap) :=
  match inbox, conversation with
  | true, some conversation =>
    match conversation.participants.find? fun p => decide (p ≠ toAsciiLowercase myPubkey) with
    | none => .ok []
    | some recipient => do
      let sent ← sendDirectMessage lib now myPubkey recipient text
      pure ((sent.wraps.find? fun w => w.addresses recipient).or sent.wraps.head?).toList
  | _, _ => .ok []

/-! ### What is published -/

variable {lib : Libraries} {now : ℕ} {me : Pubkey} {text : String}

/-- What `handleSend` publishes, if anything: of the two wraps of a direct message to the first
participant that is not the sender, the one that addresses it. -/
theorem directHandleSend_cases {inbox : Bool} {conversation : Option DmConversation} {ws : List Wrap}
    (h : directHandleSend lib now inbox conversation me text = .ok ws) :
    ws = [] ∨ ∃ c recipient wraps, conversation = some c ∧
      c.participants.find? (fun p => decide (p ≠ toAsciiLowercase me)) = some recipient ∧
      createDirectMessage lib now me recipient text = .ok wraps ∧
      ws = ((wraps.find? fun w => w.addresses recipient).or wraps.head?).toList := by
  unfold directHandleSend at h
  split at h
  · rename_i c
    split at h
    · exact Or.inl (Except.ok.inj h).symm
    · rename_i recipient hfind
      unfold sendDirectMessage at h
      simp only [bind_eq_ok] at h
      obtain ⟨sent, ⟨wraps, hcreate, hsent⟩, hret⟩ := h
      obtain rfl := Except.ok.inj hsent
      exact Or.inr ⟨c, recipient, wraps, rfl, hfind, hcreate, (Except.ok.inj hret).symm⟩
  · exact Or.inl (Except.ok.inj h).symm

/-- The wrap that is published is the recipient's. -/
theorem published_eq {recipient : Pubkey} {wraps : List Wrap}
    (h : createDirectMessage lib now me recipient text = .ok wraps) :
    ∃ w, ((wraps.find? fun w => w.addresses recipient).or wraps.head?).toList = [w] ∧ w ∈ wraps ∧
      singleTag w.tags "p" = some recipient ∧ recipient ≠ me := by
  obtain ⟨_, hhex, hother, rfl⟩ := createDirectMessage_eq_ok.1 h
  have hne : recipient ≠ me := by
    rintro rfl
    exact hother (toAsciiLowercase_of_hex hhex).symm
  have haddress : ∀ s r, (createWrap lib s r).addresses recipient = decide (r = recipient) := by
    intro s r
    simp [Wrap.addresses, createWrap]
  rw [toAsciiLowercase_of_hex hhex]
  generalize createRumor lib (messageBody now me [recipient] text) = rumor
  refine ⟨createWrap lib (createSeal me rumor recipient) recipient, ?_,
    List.mem_cons_of_mem _ (List.mem_singleton_self _), rfl, hne⟩
  unfold wrapRumor
  rw [List.map_cons, List.find?_cons_of_neg (by simp [haddress, Ne.symm hne]), List.map_cons,
    List.find?_cons_of_pos (by simp [haddress])]
  rfl

/-- **What is published** for a text: nothing, or one wrap, to the first participant that is not
the sender, which opens it to a message of the room of the two. -/
theorem published_direct (hme : isLowercaseHex64 me = true) {inbox : Bool} {c : DmConversation}
    {ws : List Wrap} (h : directHandleSend lib now inbox (some c) me text = .ok ws) :
    ws = [] ∨ ∃ recipient w, c.participants.find? (fun p => decide (p ≠ me)) = some recipient ∧
      ws = [w] ∧ Opens lib w recipient (normalizeParticipants [me, recipient]) text := by
  rcases directHandleSend_cases h with rfl | ⟨c', recipient, wraps, hc, hfind, hcreate, hws⟩
  · exact Or.inl rfl
  · obtain rfl := Option.some.inj hc
    rw [toAsciiLowercase_of_hex hme] at hfind
    obtain ⟨w, hw, hmem, haddressed, hne⟩ := published_eq hcreate
    obtain ⟨own, other, rfl, hown, hother⟩ := createDirectMessage_opens hme hcreate
    refine Or.inr ⟨recipient, w, hfind, hws.trans hw, ?_⟩
    rcases List.mem_pair.1 hmem with rfl | rfl
    · rw [hown.addressed] at haddressed
      exact absurd (Option.some.inj haddressed).symm hne
    · exact hother

variable (lib) in
/-- A message goes to the room it was typed in: every participant is sent a wrap, and every wrap
opens for whom it addresses to the text, in the room of the conversation. -/
structure GoesToRoom (c : DmConversation) (text : String) (ws : List Wrap) : Prop where
  everyone : ∀ p ∈ c.participants, ∃ w ∈ ws, singleTag w.tags "p" = some p
  room : ∀ w ∈ ws, ∃ p m, singleTag w.tags "p" = some p ∧ unwrapMessage lib p w = some m ∧
    m.rumor.content = text ∧ (∀ q, q ∈ m.participants ↔ q ∈ c.participants) ∧
    conversationIdFor lib.sha256 m.participants = c.id

/-- Nothing that is published addresses the sender. -/
theorem not_addressed_to_sender {inbox : Bool} {conversation : Option DmConversation} {ws : List Wrap}
    (h : directHandleSend lib now inbox conversation me text = .ok ws) {w : Wrap} (hw : w ∈ ws) :
    singleTag w.tags "p" ≠ some me := by
  intro haddressed
  rcases directHandleSend_cases h with rfl | ⟨c, recipient, wraps, _, _, hcreate, rfl⟩
  · exact List.not_mem_nil hw
  · obtain ⟨w', hlist, _, hrecipient, hne⟩ := published_eq hcreate
    rw [hlist, List.mem_singleton] at hw
    rw [hw, hrecipient] at haddressed
    exact hne (Option.some.inj haddressed)

/-- What `handleSend` leaves published: `sendDirectMessage` throws before anything is published. -/
def published : Except String (List Wrap) → List Wrap
  | .ok ws => ws
  | .error _ => []

/-- **No message goes to the room it was typed in**: for every conversation of the store that has
the sender among its participants, whatever its kind and its participants, and every text, what is
published, by a send that returns or one that throws, is nothing or one wrap, which opens for the
first other participant to a message of the room of the two; the sender gets none. -/
theorem not_goes_to_room (lib : Libraries) (now : ℕ) (inbox : Bool) (conversations : Conversations)
    {c : DmConversation} (hc : conversations.find? c.id = some c) {me : Pubkey}
    (hhex : isLowercaseHex64 me = true) (hme : me ∈ c.participants) (text : String) (ws : List Wrap)
    (h : published (directHandleSend lib now inbox (linked conversations c) me text) = ws) :
    ¬ GoesToRoom lib c text ws ∧
      (ws = [] ∨ ∃ recipient w, c.participants.find? (fun p => decide (p ≠ me)) = some recipient ∧
        ws = [w] ∧ Opens lib w recipient (normalizeParticipants [me, recipient]) text) := by
  cases hsend : directHandleSend lib now inbox (linked conversations c) me text with
  | error e =>
    rw [hsend] at h
    obtain rfl : [] = ws := h
    refine ⟨fun hroom => ?_, Or.inl rfl⟩
    obtain ⟨own, hown, _⟩ := hroom.everyone me hme
    exact List.not_mem_nil hown
  | ok sent =>
    rw [hsend] at h
    obtain rfl : sent = ws := h
    constructor
    · intro hroom
      obtain ⟨own, hown, haddressed⟩ := hroom.everyone me hme
      exact not_addressed_to_sender hsend hown haddressed
    · unfold linked at hsend
      rw [hc] at hsend
      exact published_direct hhex hsend

/-! ### A room of three -/

/-- The room of a circle of three, as it was received or stored. -/
def demoRoom : DmConversation :=
  { id := conversationIdFor demoLibraries.sha256 [demoKey 'a', demoKey 'b', demoKey 'c']
    kind := .circle
    title := "family"
    participants := [demoKey 'a', demoKey 'b', demoKey 'c'] }

/-- The store with the room. -/
def demoConversations : Conversations := conversationAdded Table.empty demoRoom

theorem find?_demoRoom : demoConversations.find? demoRoom.id = some demoRoom := by
  unfold demoConversations conversationAdded
  rw [Table.find?_insert, if_pos rfl]
  rfl

/-- What is typed in the room is published in one wrap, to the second participant. -/
theorem directHandleSend_demoRoom : ∃ w,
    directHandleSend demoLibraries 0 true (linked demoConversations demoRoom) (demoKey 'a') "hi" =
      .ok [w] ∧ singleTag w.tags "p" = some (demoKey 'b') := by
  have hlinked : linked demoConversations demoRoom = some demoRoom := find?_demoRoom
  have hfind : demoRoom.participants.find?
      (fun p => decide (p ≠ toAsciiLowercase (demoKey 'a'))) = some (demoKey 'b') := by
    decide
  obtain ⟨wraps, hcreate⟩ : ∃ wraps, createDirectMessage demoLibraries 0 (demoKey 'a') (demoKey 'b')
      "hi" = .ok wraps :=
    ⟨_, createDirectMessage_eq_ok.2 ⟨by decide, by decide, by decide, rfl⟩⟩
  obtain ⟨w, hw, _, haddressed, _⟩ := published_eq hcreate
  refine ⟨w, ?_, haddressed⟩
  unfold directHandleSend sendDirectMessage
  rw [hlinked]
  dsimp only
  rw [hfind]
  dsimp only
  rw [hcreate, ← hw]
  rfl

/-- In the room of three, too. -/
theorem not_goes_to_room_circle : ∃ ws,
    directHandleSend demoLibraries 0 true (linked demoConversations demoRoom) (demoKey 'a') "hi" =
      .ok ws ∧ ¬ GoesToRoom demoLibraries demoRoom "hi" ws := by
  obtain ⟨w, hsend, _⟩ := directHandleSend_demoRoom
  exact ⟨[w], hsend, (not_goes_to_room demoLibraries 0 true demoConversations find?_demoRoom
    (by decide) (List.mem_cons_self ..) "hi" [w] (by rw [hsend]; rfl)).1⟩

/-- **Of three participants one is sent the message**: neither the third nor the sender gets a
wrap. -/
theorem circle_message_to_one : ∃ w,
    directHandleSend demoLibraries 0 true (linked demoConversations demoRoom) (demoKey 'a') "hi" =
      .ok [w] ∧ singleTag w.tags "p" = some (demoKey 'b') ∧
    ¬ GoesToRoom demoLibraries demoRoom "hi" [w] := by
  obtain ⟨w, hsend, haddressed⟩ := directHandleSend_demoRoom
  refine ⟨w, hsend, haddressed, fun hroom => ?_⟩
  obtain ⟨own, hown, hown'⟩ := hroom.everyone (demoKey 'a') (List.mem_cons_self ..)
  exact not_addressed_to_sender hsend hown hown'

end Chat
end Pwa
end SentinelMesh
