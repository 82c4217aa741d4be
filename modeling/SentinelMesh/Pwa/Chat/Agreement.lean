/-
# A message is read as it was sent

`services/chat/nip17.ts` and `nip59.ts`: what `createDirectMessage` and `createGroupMessage`
return, and what `unwrapMessage` gives for it, to whom the wrap is addressed and to everyone
else.

A message is `Delivered` when each participant, the sender among them, has a wrap, and each wrap
is read by the one it is addressed to and by no other key (`Delivered`).  Both functions deliver
(`createGroupMessage_delivered`, `createDirectMessage_delivered`).  A rumor that names another
sender than the key of its seal is not read by anyone (`unwrapMessage_forged`).
-/

import SentinelMesh.Pwa.Chat.Messages

namespace SentinelMesh
namespace Pwa
namespace Chat

variable {lib : Libraries}

/-! ### Who reads a wrap -/

/-- What `unwrapGiftWrap` has checked when it gives a rumor. -/
theorem unwrapGiftWrap_checks {me : Pubkey} {wrap : Wrap} {rumor : Rumor}
    (h : unwrapGiftWrap lib me wrap = some rumor) :
    singleTag wrap.tags "p" = some me ∧
      ∃ sealed inner, wrap.content.bind (nip44Decrypt me wrap.pubkey) = some sealed ∧
        sealed.verifies = true ∧ sealed.content.bind (nip44Decrypt me sealed.pubkey) = some inner ∧
        inner.pubkey = sealed.pubkey ∧ rumor.toRumorBody = inner.toRumorBody := by
  simp only [unwrapGiftWrap, Option.bind_eq_bind, Option.bind_eq_some_iff, Option.guard_eq_some',
    Option.pure_def, Option.some.injEq] at h
  obtain ⟨_, _, _, haddressee, sealed, ⟨outer, houter, hsealed⟩, _, hchecks, inner,
    ⟨layer, hlayer, hinner⟩, _, hsame, rfl⟩ := h
  refine ⟨haddressee, sealed, inner, ?_, hchecks.1, ?_, hsame.2, rfl⟩
  · exact Option.bind_eq_some_iff.2 ⟨outer, houter, hsealed⟩
  · exact Option.bind_eq_some_iff.2 ⟨layer, hlayer, hinner⟩

/-- A message that is read comes from a rumor that was unwrapped. -/
theorem unwrapGiftWrap_of_unwrapMessage {me : Pubkey} {wrap : Wrap} {message : UnwrappedMessage}
    (h : unwrapMessage lib me wrap = some message) :
    unwrapGiftWrap lib me wrap = some message.rumor := by
  simp only [unwrapMessage, Option.bind_eq_bind, Option.bind_eq_some_iff, Option.guard_eq_some',
    Option.pure_def, Option.some.injEq] at h
  obtain ⟨rumor, hrumor, _, _, _, _, _, _, rfl⟩ := h
  exact hrumor

/-- **Only the addressee reads a wrap.** -/
theorem unwrapMessage_other {wrap : Wrap} {addressee me : Pubkey}
    (h : singleTag wrap.tags "p" = some addressee) (hme : me ≠ addressee) :
    unwrapMessage lib me wrap = none := by
  refine Option.eq_none_iff_forall_ne_some.2 fun message hread => ?_
  obtain ⟨haddressee, -⟩ := unwrapGiftWrap_checks (unwrapGiftWrap_of_unwrapMessage hread)
  exact hme (Option.some.inj (haddressee.symm.trans h))

/-- **A rumor in another name is not read**: not by anyone, when its sender is not the key of the
seal, or when that key did not sign the seal. -/
theorem unwrapMessage_forged {wrap : Wrap} {outer : Sealed Seal} {layer : Sealed Rumor}
    (houter : wrap.content = some outer) (hlayer : outer.plain.content = some layer)
    (hforged : outer.plain.verifies = false ∨ layer.plain.pubkey ≠ outer.plain.pubkey)
    (me : Pubkey) : unwrapMessage lib me wrap = none := by
  have hplain : ∀ {α : Type} {peer : Pubkey} {c : Sealed α} {x : α},
      nip44Decrypt me peer c = some x → x = c.plain := by
    intro α peer c x hx
    unfold nip44Decrypt at hx
    split at hx
    · exact (Option.some.inj hx).symm
    · cases hx
  refine Option.eq_none_iff_forall_ne_some.2 fun message hread => ?_
  obtain ⟨-, sealed, inner, hsealed, hverifies, hinner, hsame, -⟩ :=
    unwrapGiftWrap_checks (unwrapGiftWrap_of_unwrapMessage hread)
  rw [houter, Option.bind_some] at hsealed
  obtain rfl := hplain hsealed
  rw [hlayer, Option.bind_some] at hinner
  obtain rfl := hplain hinner
  rcases hforged with hunsigned | hname
  · rw [hunsigned] at hverifies
    cases hverifies
  · exact hname hsame

/-! ### What is delivered -/

/-- `me` reads `wrap` as the message that `sender` sent to the room of the two lists. -/
def Reads (lib : Libraries) (sender : Pubkey) (others : List Pubkey) (content : String) (me : Pubkey)
    (wrap : Wrap) : Prop :=
  ∃ message, unwrapMessage lib me wrap = some message ∧ message.rumor.content = content ∧
    message.rumor.pubkey = sender ∧
    (∀ p, p ∈ message.participants ↔ p = sender ∨ p ∈ others) ∧
    message.participants = normalizeParticipants (sender :: others) ∧
    conversationIdFor lib.sha256 message.participants =
      conversationIdFor lib.sha256 (sender :: others)

/-- Every participant has a wrap, and a wrap is read by its addressee and by no other key. -/
structure Delivered (lib : Libraries) (sender : Pubkey) (others : List Pubkey) (content : String)
    (wraps : List Wrap) : Prop where
  everyone : ∀ r, r = sender ∨ r ∈ others → ∃ w ∈ wraps, singleTag w.tags "p" = some r
  addressee : ∀ w ∈ wraps, ∃ r, (r = sender ∨ r ∈ others) ∧ singleTag w.tags "p" = some r ∧
    Reads lib sender others content r w
  nobody_else : ∀ w ∈ wraps, ∀ r, singleTag w.tags "p" = some r →
    ∀ me, me ≠ r → unwrapMessage lib me w = none

/-- The keys of a room: its sender's and those of the others. -/
theorem room_keys {sender : Pubkey} {others : List Pubkey} (hsender : isLowercaseHex64 sender = true)
    (hothers : ∀ p ∈ others, isLowercaseHex64 p = true) :
    ∀ p ∈ sender :: others, isLowercaseHex64 p = true :=
  List.forall_mem_cons.2 ⟨hsender, hothers⟩

/-- The conversation of a room is that of its normalized participants. -/
theorem conversationIdFor_normalize (sha256 : String → String) (ps : List Pubkey) :
    conversationIdFor sha256 (normalizeParticipants ps) = conversationIdFor sha256 ps := by
  unfold conversationIdFor participantKey
  rw [normalizeParticipants_self]

/-- **What is wrapped for the participants of a room is delivered**, if the tags of its rumor say
who they are. -/
theorem wrapRumor_delivered {now : ℕ} {sender : Pubkey} {others tagged recipients : List Pubkey}
    {content : String} (hsender : isLowercaseHex64 sender = true)
    (hothers : ∀ p ∈ others, isLowercaseHex64 p = true) (hvalid : validMessageContent content = true)
    (hrecipients : ∀ r, r ∈ recipients ↔ r = sender ∨ r ∈ others)
    (hset : participantSet (createRumor lib (messageBody now sender tagged content)) =
      some (normalizeParticipants (sender :: others))) :
    Delivered lib sender others content
      (wrapRumor lib sender (createRumor lib (messageBody now sender tagged content)) recipients) := by
  have hroom : ∀ p, p ∈ normalizeParticipants (sender :: others) ↔ p = sender ∨ p ∈ others :=
    fun p => (mem_normalizeParticipants_of_keys (room_keys hsender hothers)).trans List.mem_cons
  have hreads : ∀ r, r ∈ recipients → Reads lib sender others content r (createWrap lib (createSeal
      sender (createRumor lib (messageBody now sender tagged content)) r) r) := fun r hr =>
    ⟨_, unwrapMessage_createWrap (messageBody now sender tagged content) hsender hvalid hset
      ((hroom r).2 ((hrecipients r).1 hr)), rfl, rfl, hroom, rfl, conversationIdFor_normalize _ _⟩
  exact
    { everyone := fun r hr => ⟨_, List.mem_map_of_mem ((hrecipients r).2 hr), rfl⟩
      addressee := fun w hw => by
        obtain ⟨r, hr, rfl⟩ := List.mem_map.1 hw
        exact ⟨r, (hrecipients r).1 hr, rfl, hreads r hr⟩
      nobody_else := fun w _ r hr me hme => unwrapMessage_other hr hme }

/-- **A group message is delivered** to its room, however its participants are listed. -/
theorem createGroupMessage_delivered {now : ℕ} {sender : Pubkey} {others : List Pubkey}
    {content : String} (hsender : isLowercaseHex64 sender = true)
    (hothers : ∀ p ∈ others, isLowercaseHex64 p = true) (hother : sender ∉ others)
    (hne : others ≠ []) (hcard : others.toFinset.card ≤ 9)
    (hvalid : validMessageContent content = true) :
    ∃ wraps, createGroupMessage lib now sender others content = .ok wraps ∧
      Delivered lib sender others content wraps := by
  have hkeys := room_keys hsender hothers
  have hlen : (normalizeParticipants (sender :: others)).length = others.toFinset.card + 1 := by
    rw [length_normalizeParticipants hkeys, List.toFinset_cons, Finset.card_insert_of_notMem]
    rwa [List.mem_toFinset]
  have hpos : 0 < others.toFinset.card := by
    rw [Finset.card_pos, List.toFinset_nonempty_iff]
    exact hne
  have hmax : (normalizeParticipants (sender :: others)).length ≤ maxRoomParticipants := by
    rw [hlen]
    exact Nat.succ_le_succ hcard
  refine ⟨_, createGroupMessage_eq_ok.2 ⟨hvalid, hmax, by omega, rfl⟩, ?_⟩
  refine wrapRumor_delivered hsender hothers hvalid
    (fun r => (mem_normalizeParticipants_of_keys hkeys).trans List.mem_cons) ?_
  have hset := @participantSet_of_tags lib
    (messageBody now sender (normalizeParticipants (sender :: others)) content) _ rfl rfl
    (List.ne_nil_of_length_pos (by omega)) hmax
    (fun p hp => (mem_normalizeParticipants.1 hp).1) (nodup_normalizeParticipants _)
  rw [hset]
  exact congrArg some (normalizeParticipants_cons_self sender others)

/-- **A direct message is delivered** to both ends. -/
theorem createDirectMessage_delivered {now : ℕ} {sender recipient : Pubkey} {content : String}
    (hsender : isLowercaseHex64 sender = true) (hrecipient : isLowercaseHex64 recipient = true)
    (hother : recipient ≠ sender) (hvalid : validMessageContent content = true) :
    ∃ wraps, createDirectMessage lib now sender recipient content = .ok wraps ∧
      Delivered lib sender [recipient] content wraps := by
  have hothers : ∀ p ∈ [recipient], isLowercaseHex64 p = true := fun p hp =>
    List.mem_singleton.1 hp ▸ hrecipient
  refine ⟨_, createDirectMessage_eq_ok.2 ⟨hvalid, hrecipient, ?_, rfl⟩, ?_⟩
  · rwa [toAsciiLowercase_of_hex hsender]
  rw [toAsciiLowercase_of_hex hrecipient]
  refine wrapRumor_delivered hsender hothers hvalid (fun r => List.mem_cons) ?_
  exact participantSet_of_tags (messageBody now sender [recipient] content) rfl rfl
    (List.cons_ne_nil _ _) (Nat.le_add_left 1 9) hothers (List.nodup_singleton _)

/-- **Sending and receiving agree.**  Whatever the sender, the one to nine others it lists (some of
them more than once, in any order) and the content: the group message to them and the direct
message to each of them are made and delivered, to the conversation of the room.  And no wrap is
read whose rumor names another sender than the key that signed the seal. -/
theorem send_receive_agree {now : ℕ} {sender : Pubkey} {others : List Pubkey} {content : String}
    (hsender : isLowercaseHex64 sender = true)
    (hothers : ∀ p ∈ others, isLowercaseHex64 p = true) (hother : sender ∉ others)
    (hne : others ≠ []) (hcard : others.toFinset.card ≤ 9)
    (hvalid : validMessageContent content = true) :
    (∃ wraps, createGroupMessage lib now sender others content = .ok wraps ∧
        Delivered lib sender others content wraps) ∧
      (∀ recipient ∈ others, ∃ wraps,
        createDirectMessage lib now sender recipient content = .ok wraps ∧
          Delivered lib sender [recipient] content wraps) ∧
      ∀ (me : Pubkey) (wrap : Wrap) (outer : Sealed Seal) (layer : Sealed Rumor),
        wrap.content = some outer → outer.plain.content = some layer →
        outer.plain.verifies = false ∨ layer.plain.pubkey ≠ outer.plain.pubkey →
          unwrapMessage lib me wrap = none := by
  refine ⟨createGroupMessage_delivered hsender hothers hother hne hcard hvalid, ?_, ?_⟩
  · intro recipient hrecipient
    refine createDirectMessage_delivered hsender (hothers recipient hrecipient) ?_ hvalid
    rintro rfl
    exact hother hrecipient
  · exact fun me wrap outer layer houter hlayer hforged =>
      unwrapMessage_forged houter hlayer hforged me

theorem send_receive_agree_demo :
    (∃ wraps, createGroupMessage demoLibraries 5 (demoKey 'a') [demoKey 'c', demoKey 'b', demoKey 'c']
        "hi" = .ok wraps ∧
      Delivered demoLibraries (demoKey 'a') [demoKey 'c', demoKey 'b', demoKey 'c'] "hi" wraps) ∧
      ∃ wraps, createDirectMessage demoLibraries 5 (demoKey 'a') (demoKey 'b') "hi" = .ok wraps ∧
        Delivered demoLibraries (demoKey 'a') [demoKey 'b'] "hi" wraps := by
  have hagree := @send_receive_agree demoLibraries 5 (demoKey 'a')
    [demoKey 'c', demoKey 'b', demoKey 'c'] "hi" (by decide) (by decide) (by decide) (by decide)
    ((List.toFinset_card_le _).trans (by decide)) (by decide)
  exact ⟨hagree.1, hagree.2.1 (demoKey 'b') (by decide)⟩

end Chat
end Pwa
end SentinelMesh
