/-
# The echo of a sent message

`handleSend` of `pages/CircleChatPage.tsx` and `pages/DirectConversationPage.tsx` with the message
it dispatches at once, over the store of `store/dmSlice.ts` and what `hooks/useInboxSync.ts` makes
of a gift wrap: it stores the message and dispatches it.

The echo has an id that the page makes up, and messages are told apart by their ids.  So the echo
stays, whatever comes after it (`echo_listed`), and what the participants see has another id: no
order of the echo and of deliveries leaves one entry, under the id of the rumor
(`not_appearsOnce`).
-/

import SentinelMesh.Pwa.Chat.Inbox
import SentinelMesh.Pwa.Chat.MessageLists
import SentinelMesh.Pwa.Chat.Pages
import SentinelMesh.Pwa.Chat.Rooms

namespace SentinelMesh
namespace Pwa
namespace Chat
namespace LocalEcho

open Lib
open CircleStore (CircleMember)
open Inbox (ProcessedInboxMessage processed)
open MessageLists (DmMessage DmState DmAction SliceState dmReducer)

/-! ### What a page sends -/

/-- When a page reads the clock: for the rumor in seconds, for the echo's id in milliseconds, and for
its date in seconds. -/
structure Clock where
  rumor : ℕ
  echoId : ℕ
  echo : ℕ

/-- What `handleSend` does with a message: the echo it dispatches, and the wraps it publishes. -/
structure Sending where
  echo : DmMessage
  published : List Wrap

/-- The echo of a message. -/
def localEcho (clock : Clock) (sent : SentMessage) (pubkey : Pubkey) (text : String) : DmMessage :=
  { id := "pending-" ++ toString clock.echoId, conversation_id := sent.conversationId
    sender_pubkey := pubkey, created_at := clock.echo, content := text }

variable (lib : Libraries)

/-- `handleSend` of `CircleChatPage`; nothing is done without a relay or a room. -/
def circleSend (clock : Clock) (inbox : Bool) (pubkey : Pubkey) (members : List CircleMember)
    (conversationId : Option String) (text : String) : Except String (Option Sending) :=
  if inbox = false ∨ conversationId = none then .ok none
  else do
    let peers := (pageParticipants pubkey members).filter fun p => decide (p ≠ toAsciiLowercase pubkey)
    let sent ← sendGroupMessage lib clock.rumor pubkey peers text
    pure (some { echo := localEcho clock sent pubkey text, published := sent.wraps })

/-- `handleSend` of `DirectConversationPage`. -/
def directSend (clock : Clock) (inbox : Bool) (conversation : Option DmConversation)
    (myPubkey : Pubkey) (text : String) : Except String (Option Sending) :=
  match inbox, conversation with
  | true, some conversation =>
    match conversation.participants.find? fun p => decide (p ≠ toAsciiLowercase myPubkey) with
    | none => .ok none
    | some recipient => do
      let sent ← sendDirectMessage lib clock.rumor myPubkey recipient text
      pure (some
        { echo := localEcho clock sent myPubkey text
          published :=
            ((sent.wraps.find? fun w => w.addresses recipient).or sent.wraps.head?).toList })
  | _, _ => .ok none

/-- What is published. -/
def publishedOf (sending : Option Sending) : List Wrap := (sending.map Sending.published).getD []

/-- The page of a conversation publishes what `directHandleSend` does. -/
theorem published_directSend (clock : Clock) (inbox : Bool) (conversation : Option DmConversation)
    (myPubkey : Pubkey) (text : String) :
    (directSend lib clock inbox conversation myPubkey text).map publishedOf =
      directHandleSend lib clock.rumor inbox conversation myPubkey text := by
  unfold directSend directHandleSend
  cases inbox with
  | false => rfl
  | true =>
      cases conversation with
      | none => rfl
      | some c =>
          dsimp only
          cases c.participants.find? fun p => decide (p ≠ toAsciiLowercase myPubkey) with
          | none => rfl
          | some recipient =>
              dsimp only
              cases sendDirectMessage lib clock.rumor myPubkey recipient text with
              | error e => rfl
              | ok sent => rfl

/-! ### The client -/

/-- The ids of the gift wraps that were seen, the durable store `messages`, and the DM store. -/
structure Client where
  giftWraps : List String
  messages : String → Option ProcessedInboxMessage
  dm : DmState

/-- The message a handler dispatches. -/
def dispatched (p : ProcessedInboxMessage) : DmMessage :=
  { id := p.rumorId, conversation_id := p.conversationId, sender_pubkey := p.senderPubkey
    created_at := p.created_at, content := p.content }

/-- The conversation a handler dispatches; its title is the first twelve digits of the key. -/
def conversationOf (p : ProcessedInboxMessage) : DmConversation :=
  { id := p.conversationId, kind := if p.participants.length = 2 then .dm else .circle
    title := String.ofList (p.senderPubkey.toList.take 12), participants := p.participants }

/-- The handler of `useInboxSync`, for the identity `me`, that runs to its end. -/
def deliver (me : Pubkey) (s : Client) (wrap : Wrap) : Client :=
  if wrap.kind ≠ nip59KindGiftWrap ∨ wrap.id ∈ s.giftWraps then s
  else
    match unwrapMessage lib me wrap with
    | none => s
    | some m =>
      let p := processed lib wrap m
      { giftWraps := wrap.id :: s.giftWraps
        messages := Function.update s.messages p.rumorId (some p)
        dm := dmReducer (dmReducer s.dm (.conversationAdded (conversationOf p)))
          (.messageReceived p.conversationId (dispatched p)) }

/-- What is applied to the store of the sender. -/
inductive Applied
  | echo
  | deliver (wrap : Wrap)

/-- One application, of the echo of a message or of what the relay delivers. -/
def apply (me : Pubkey) (sending : Sending) (s : Client) : Applied → Client
  | .echo =>
    { s with dm := dmReducer s.dm (.messageReceived sending.echo.conversation_id sending.echo) }
  | .deliver wrap => deliver lib me s wrap

/-- Any number of applications. -/
def applyAll (me : Pubkey) (sending : Sending) (s : Client) (as : List Applied) : Client :=
  as.foldl (apply lib me sending) s

/-- What a conversation lists. -/
def Client.list (s : Client) (conversationId : String) : List DmMessage := s.dm.list conversationId

/-- An id under which someone sees the message. -/
def SeenAs (sending : Sending) (id : String) : Prop :=
  ∃ w ∈ sending.published, ∃ p m, unwrapMessage lib p w = some m ∧ m.rumor.id = id

/-- The conversation has one entry for the message, under the id by which it is seen, and the message
is stored; an entry is for the message if it has this id or that of the echo. -/
def AppearsOnce (sending : Sending) (s : Client) : Prop :=
  ∃ entry, SeenAs lib sending entry.id ∧
    (s.list sending.echo.conversation_id).filter
      (fun e => decide (e.id = sending.echo.id ∨ e.id = entry.id)) = [entry] ∧
    (s.messages entry.id).isSome

/-! ### What stays listed -/

variable {lib} {me : Pubkey} {sending : Sending}

/-- What is listed stays listed when a message is received. -/
theorem mem_ids_receive (s : SliceState DmMessage) (room : String) (m : DmMessage) {r id : String}
    (h : id ∈ (s.list r).map DmMessage.id) :
    id ∈ ((s.receive room m).list r).map DmMessage.id := by
  rw [SliceState.list_receive]
  split_ifs
  · by_cases hid : MessageLists.id m ∈ (s.list r).map MessageLists.id
    · rwa [MessageLists.insertSorted_of_id hid]
    · rw [MessageLists.insertSorted_of_new hid]
      refine ((MessageLists.sortMessages_perm _).map _).mem_iff.2 ?_
      rw [List.map_append]
      exact List.mem_append_left _ h
  · exact h

/-- What is received is listed, under its id. -/
theorem id_mem_receive (s : SliceState DmMessage) (room : String) (m : DmMessage) :
    m.id ∈ ((s.receive room m).list room).map DmMessage.id := by
  rw [SliceState.list_receive, if_pos rfl]
  by_cases hid : MessageLists.id m ∈ (s.list room).map MessageLists.id
  · rw [MessageLists.insertSorted_of_id hid]
    exact hid
  · rw [MessageLists.insertSorted_of_new hid]
    refine ((MessageLists.sortMessages_perm _).map _).mem_iff.2 ?_
    rw [List.map_append]
    exact List.mem_append_right _ (List.mem_singleton_self m.id)

/-- A delivery does nothing, or it stores and lists one message. -/
theorem deliver_cases (s : Client) (wrap : Wrap) :
    deliver lib me s wrap = s ∨ ∃ m, unwrapMessage lib me wrap = some m ∧
      (deliver lib me s wrap).messages =
        Function.update s.messages m.rumor.id (some (processed lib wrap m)) ∧
      (deliver lib me s wrap).dm.toSliceState =
        s.dm.toSliceState.receive (processed lib wrap m).conversationId
          (dispatched (processed lib wrap m)) := by
  unfold deliver
  split_ifs
  · exact Or.inl rfl
  · cases unwrapMessage lib me wrap with
    | none => exact Or.inl rfl
    | some m => exact Or.inr ⟨m, rfl, rfl, rfl⟩

/-- **What is listed stays listed.** -/
theorem listed_apply (s : Client) (a : Applied) {r id : String}
    (h : id ∈ (s.list r).map DmMessage.id) :
    id ∈ ((apply lib me sending s a).list r).map DmMessage.id := by
  cases a with
  | echo => exact mem_ids_receive s.dm.toSliceState _ _ h
  | deliver wrap =>
      have hcases := @deliver_cases lib me s wrap
      change id ∈ ((deliver lib me s wrap).list r).map DmMessage.id
      rcases hcases with hsame | ⟨m, _, _, hdm⟩
      · rwa [hsame]
      · unfold Client.list
        rw [hdm]
        exact mem_ids_receive s.dm.toSliceState _ _ h

theorem listed_applyAll (as : List Applied) (s : Client) {r id : String}
    (h : id ∈ (s.list r).map DmMessage.id) :
    id ∈ ((applyAll lib me sending s as).list r).map DmMessage.id := by
  induction as generalizing s with
  | nil => exact h
  | cons a as ih => exact ih _ (listed_apply s a h)

theorem applyAll_append_cons (s : Client) (bs : List Applied) (a : Applied) (cs : List Applied) :
    applyAll lib me sending s (bs ++ a :: cs) =
      applyAll lib me sending (apply lib me sending (applyAll lib me sending s bs) a) cs := by
  unfold applyAll
  rw [List.foldl_append, List.foldl_cons]

/-- **The echo stays listed**, whatever comes before and after it. -/
theorem echo_listed (s : Client) {as : List Applied} (h : Applied.echo ∈ as) :
    sending.echo.id ∈
      ((applyAll lib me sending s as).list sending.echo.conversation_id).map DmMessage.id := by
  obtain ⟨bs, cs, rfl⟩ := List.append_of_mem h
  rw [applyAll_append_cons]
  exact listed_applyAll cs _ (id_mem_receive _ _ sending.echo)

/-! ### No message appears once -/

/-- A wrap that opens is for who opens it, and its message is seen under a digest. -/
theorem unwrapMessage_eq_some {p : Pubkey} {w : Wrap} {m : UnwrappedMessage}
    (h : unwrapMessage lib p w = some m) :
    singleTag w.tags "p" = some p ∧ ∃ body, m.rumor.id = lib.getEventHash body := by
  unfold unwrapMessage unwrapGiftWrap at h
  simp only [Option.bind_eq_bind, Option.bind_eq_some_iff, Option.guard_eq_some', Option.pure_def,
    Option.some.injEq] at h
  obtain ⟨_, ⟨_, _, _, htag, _, _, _, _, inner, _, _, _, rfl⟩, _, _, _, _, _, _, rfl⟩ := h
  exact ⟨htag, inner.toRumorBody, rfl⟩

/-- The id of an echo is not a digest. -/
theorem pending_not_hex (n : ℕ) : isLowercaseHex64 ("pending-" ++ toString n) = false := by
  unfold isLowercaseHex64
  rw [Bool.and_eq_false_iff]
  refine Or.inr ?_
  rw [String.toList_append, List.all_append]
  exact Bool.and_eq_false_imp.2 fun h => absurd h (by decide)

/-- **No order of the echo and of deliveries leaves one entry for the message**: the echo is there,
and it is not what others see. -/
theorem not_appearsOnce (hhash : ∀ body, isLowercaseHex64 (lib.getEventHash body) = true)
    {n : ℕ} (hecho : sending.echo.id = "pending-" ++ toString n) (before : Client)
    {as : List Applied} (has : Applied.echo ∈ as) :
    ¬AppearsOnce lib sending (applyAll lib me sending before as) := by
  rintro ⟨entry, ⟨w, _, p, m, hm, hid⟩, hone, _⟩
  obtain ⟨e, he, hsame⟩ := List.mem_map.1 (@echo_listed lib me sending before as has)
  have hmem : e ∈ [entry] := by
    rw [← hone]
    exact List.mem_filter.2 ⟨he, decide_eq_true (Or.inl hsame)⟩
  obtain rfl := List.mem_singleton.1 hmem
  obtain ⟨_, body, hbody⟩ := unwrapMessage_eq_some hm
  have hhex := hhash body
  rw [← hbody, hid, hsame, hecho, pending_not_hex] at hhex
  exact Bool.false_ne_true hhex

variable {clock : Clock} {inbox : Bool} {text : String}

/-- The sendings of the circle's page. -/
theorem circleSend_eq_ok {members : List CircleMember} {conversationId : Option String}
    (h : circleSend lib clock inbox me members conversationId text = .ok (some sending)) :
    ∃ sent, sendGroupMessage lib clock.rumor me ((pageParticipants me members).filter fun p =>
        decide (p ≠ toAsciiLowercase me)) text = .ok sent ∧
      sending = { echo := localEcho clock sent me text, published := sent.wraps } := by
  unfold circleSend at h
  split_ifs at h
  · exact nomatch Except.ok.inj h
  · obtain ⟨sent, hsent, hret⟩ := bind_eq_ok.1 h
    exact ⟨sent, hsent, (Option.some.inj (Except.ok.inj hret)).symm⟩

/-- The sendings of the direct page. -/
theorem directSend_eq_ok {conversation : Option DmConversation}
    (h : directSend lib clock inbox conversation me text = .ok (some sending)) :
    ∃ sent, sending.echo = localEcho clock sent me text ∧
      directHandleSend lib clock.rumor inbox conversation me text = .ok sending.published := by
  have hpublished := published_directSend lib clock inbox conversation me text
  rw [h] at hpublished
  refine (?_ : ∃ sent, sending.echo = localEcho clock sent me text).imp fun _ hecho =>
    ⟨hecho, hpublished.symm⟩
  unfold directSend at h
  split at h
  · split at h
    · exact nomatch Except.ok.inj h
    · obtain ⟨sent, _, hret⟩ := bind_eq_ok.1 h
      obtain rfl := Option.some.inj (Except.ok.inj hret)
      exact ⟨sent, rfl⟩
  · exact nomatch Except.ok.inj h

/-- **No sent message appears once**: from whichever page it is sent, whatever the store has before,
and in every order of its echo and of deliveries, the conversation does not list it in one entry
under the id the others see. -/
theorem sent_never_appearsOnce (hhash : ∀ body, isLowercaseHex64 (lib.getEventHash body) = true)
    (me : Pubkey) (before : Client) {as : List Applied} (has : Applied.echo ∈ as) :
    (∀ clock inbox members conversationId text sending,
      circleSend lib clock inbox me members conversationId text = .ok (some sending) →
        ¬AppearsOnce lib sending (applyAll lib me sending before as)) ∧
    ∀ clock inbox conversation text sending,
      directSend lib clock inbox conversation me text = .ok (some sending) →
        ¬AppearsOnce lib sending (applyAll lib me sending before as) := by
  refine ⟨fun clock inbox members conversationId text sending h => ?_,
    fun clock inbox conversation text sending h => ?_⟩
  · obtain ⟨sent, _, rfl⟩ := circleSend_eq_ok h
    exact not_appearsOnce hhash rfl before has
  · obtain ⟨sent, hecho, _⟩ := directSend_eq_ok h
    exact not_appearsOnce hhash (congrArg DmMessage.id hecho) before has

/-! ### A room of two -/

/-- Libraries whose digests are hexadecimal. -/
def demoHashes : Libraries := { demoLibraries with getEventHash := fun _ => demoKey '0' }

theorem isLowercaseHex64_demoHashes (body : RumorBody) :
    isLowercaseHex64 (demoHashes.getEventHash body) = true :=
  (by decide : isLowercaseHex64 (demoKey '0') = true)

/-- A clock that is read once. -/
def demoClock : Clock := { rumor := 1760000000, echoId := 1760000000000, echo := 1760000000 }

/-- The other member of a circle. -/
def demoPeer : CircleMember :=
  { circle_id := "c", member_token := none, alert_radius_km := 1, alert_severity := "low", joined_at := 0
    member_label_ciphertext := none, membership_state := .active, accepted_at := some 0
    key_wrap_epoch := none, pubkey := some (demoKey 'b'), label := none }

/-- A client with nothing. -/
def demoClient : Client :=
  { giftWraps := [], messages := fun _ => none, dm := MessageLists.dmInitialState }

/-- The conversation of the two. -/
def demoConversation : DmConversation :=
  { id := "d", kind := .dm, title := "b", participants := [demoKey 'a', demoKey 'b'] }

theorem sent_never_appearsOnce_two :
    (∀ sending, circleSend demoHashes demoClock true (demoKey 'a') [demoPeer] (some "c") "hi" =
        .ok (some sending) →
      ¬AppearsOnce demoHashes sending (applyAll demoHashes (demoKey 'a') sending demoClient [.echo])) ∧
    ∀ sending, directSend demoHashes demoClock true (some demoConversation) (demoKey 'a') "hi" =
        .ok (some sending) →
      ¬AppearsOnce demoHashes sending
        (applyAll demoHashes (demoKey 'a') sending demoClient [.echo]) := by
  have h := sent_never_appearsOnce isLowercaseHex64_demoHashes (demoKey 'a') demoClient
    (List.mem_singleton_self Applied.echo)
  exact ⟨h.1 demoClock true [demoPeer] (some "c") "hi",
    h.2 demoClock true (some demoConversation) "hi"⟩

/-- The page of the circle computes the two. -/
theorem pageParticipants_demoPeer :
    pageParticipants (demoKey 'a') [demoPeer] = normalizeParticipants [demoKey 'a', demoKey 'b'] :=
  congrArg normalizeParticipants (by decide :
    toAsciiLowercase (demoKey 'a') :: ((([demoPeer].map chatMember).filter
      fun m => decide (m.membership_state ≠ some .pending)).map fun m => toAsciiLowercase m.pubkey).filter
        (fun pubkey => decide (pubkey ≠ toAsciiLowercase (demoKey 'a'))) = [demoKey 'a', demoKey 'b'])

/-- A text that is sent on the page of a circle of two, and one that is sent in the conversation of
the two: neither is listed once, after the echo and every wrap that is published. -/
theorem appearsOnce_fails :
    (∃ sending, circleSend demoHashes demoClock true (demoKey 'a') [demoPeer] (some "c") "hi" =
        .ok (some sending) ∧
      ¬AppearsOnce demoHashes sending (applyAll demoHashes (demoKey 'a') sending demoClient
        (.echo :: sending.published.map .deliver))) ∧
    ∃ sending, directSend demoHashes demoClock true (some demoConversation) (demoKey 'a') "hi" =
        .ok (some sending) ∧
      ¬AppearsOnce demoHashes sending (applyAll demoHashes (demoKey 'a') sending demoClient
        (.echo :: sending.published.map .deliver)) := by
  have hhash := isLowercaseHex64_demoHashes
  have hkeys : ∀ p ∈ [demoKey 'a', demoKey 'b'], isLowercaseHex64 p = true := by decide
  have hlength : (normalizeParticipants [demoKey 'a', demoKey 'b']).length = 2 := by
    rw [length_normalizeParticipants hkeys]
    decide
  constructor
  · have hpeers := normalizeParticipants_peers (hkeys (demoKey 'a') (by decide)) [demoPeer]
    rw [pageParticipants_demoPeer] at hpeers
    obtain ⟨wraps, hcreate⟩ : ∃ wraps, createGroupMessage demoHashes demoClock.rumor (demoKey 'a')
        ((pageParticipants (demoKey 'a') [demoPeer]).filter fun p =>
          decide (p ≠ toAsciiLowercase (demoKey 'a'))) "hi" = .ok wraps := by
      rw [pageParticipants_demoPeer]
      exact ⟨_, createGroupMessage_eq_ok.2
        ⟨by decide, by rw [hpeers, hlength]; decide, by rw [hpeers, hlength], rfl⟩⟩
    obtain ⟨sending, hsend⟩ : ∃ sending, circleSend demoHashes demoClock true (demoKey 'a') [demoPeer]
        (some "c") "hi" = .ok (some sending) := by
      unfold circleSend sendGroupMessage
      rw [if_neg (by decide)]
      dsimp only
      rw [hcreate]
      exact ⟨_, rfl⟩
    obtain ⟨sent, _, rfl⟩ := circleSend_eq_ok hsend
    exact ⟨_, hsend, not_appearsOnce hhash rfl demoClient List.mem_cons_self⟩
  · obtain ⟨wraps, hcreate⟩ : ∃ wraps, createDirectMessage demoHashes demoClock.rumor (demoKey 'a')
        (demoKey 'b') "hi" = .ok wraps :=
      ⟨_, createDirectMessage_eq_ok.2 ⟨by decide, by decide, by decide, rfl⟩⟩
    have hfind : demoConversation.participants.find?
        (fun p => decide (p ≠ toAsciiLowercase (demoKey 'a'))) = some (demoKey 'b') := by decide
    obtain ⟨sending, hsend⟩ : ∃ sending, directSend demoHashes demoClock true
        (some demoConversation) (demoKey 'a') "hi" = .ok (some sending) := by
      unfold directSend sendDirectMessage
      dsimp only
      rw [hfind]
      dsimp only
      rw [hcreate]
      exact ⟨_, rfl⟩
    obtain ⟨sent, hecho, _⟩ := directSend_eq_ok hsend
    exact ⟨_, hsend, not_appearsOnce hhash (congrArg DmMessage.id hecho) demoClient
      List.mem_cons_self⟩

end LocalEcho
end Chat
end Pwa
end SentinelMesh
