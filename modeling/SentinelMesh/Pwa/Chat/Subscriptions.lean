/-
# Live subscriptions

`subscribeChannel` of `services/chat/chatSync.ts` and the subscription of `hooks/useInboxSync.ts`,
through `RelayPoolAdapter.subscribe` and `RelayPool.subscribe`, over the pool of the relay library,
which is a parameter: what it calls back for the messages of the relay, up to the moment the
subscription is closed.

`RelayPool.subscribe` opens its subscriptions with `subscribeEose`, which ends at the end of the
stored events and puts its own handler in the place of the caller's (`EndsAtEose`).  Such a
subscription delivers until it is closed exactly if it is closed before that end
(`delivers_iff`), whatever is sent and whichever subscription it is.

`validateChannelMessage` is that of `services/chat/nip29.ts`, with what it uses of
`services/chat/eventValidation.ts`.
-/

import SentinelMesh.Pwa.Chat.Messages

namespace SentinelMesh
namespace Pwa
namespace Chat
namespace Subscriptions

/-! ### Events -/

/-- `Event`. -/
structure Event where
  id : String
  pubkey : Pubkey
  created_at : ℤ
  kind : ℕ
  tags : List (List String)
  content : String
  /-- `verifyEvent`. -/
  verifies : Bool
  deriving DecidableEq

/-- The units of UTF-16 a character takes in the JSON of a string. -/
def jsonCharLength (c : Char) : ℕ :=
  if c = '"' ∨ c = '\\' then 2
  else if c.val < 0x20 then
    if c.val = 0x08 ∨ c.val = 0x09 ∨ c.val = 0x0A ∨ c.val = 0x0C ∨ c.val = 0x0D then 2 else 6
  else if c.val < 0x10000 then 1 else 2

/-- The length of the JSON of a string. -/
def jsonStringLength (s : String) : ℕ := 2 + (s.toList.map jsonCharLength).sum

/-- The length of the JSON of an array, from those of its elements. -/
def jsonArrayLength (lengths : List ℕ) : ℕ := 2 + lengths.sum + (lengths.length - 1)

/-- `eventSizeBytes`. -/
def eventSizeBytes (event : Event) : ℕ :=
  jsonArrayLength [1, jsonStringLength event.pubkey, (toString event.created_at).length,
    (toString event.kind).length,
    jsonArrayLength (event.tags.map fun tag => jsonArrayLength (tag.map jsonStringLength)),
    jsonStringLength event.content]

/-- `MAX_EVENT_BYTES`. -/
def maxEventBytes : ℕ := 100000

/-- `MAX_TAGS`. -/
def maxTags : ℕ := 256

/-- `MAX_CREATED_AT_SKEW_SECONDS`. -/
def maxCreatedAtSkewSeconds : ℕ := 2 * 24 * 60 * 60

/-- `withinEventBounds`, with the bounds it has when none are given. -/
def withinEventBounds (event : Event) (now : ℤ) : Bool :=
  decide (eventSizeBytes event ≤ maxEventBytes) && decide (event.tags.length ≤ maxTags) &&
    isLowercaseHex64 event.pubkey &&
    decide ((now - event.created_at).natAbs ≤ maxCreatedAtSkewSeconds)

/-- `NIP29_KIND_MESSAGE`. -/
def nip29KindMessage : ℕ := 9

/-- `validateChannelMessage`. -/
def validateChannelMessage (event : Event) (groupId : String) (now : ℤ) : Bool :=
  decide (event.kind = nip29KindMessage) && withinEventBounds event now && event.verifies &&
    decide (singleTag event.tags "h" = some groupId) && validMessageContent event.content

/-! ### The pool of the library -/

/-- An event, and the second it arrives in. -/
structure Arrival where
  event : Event
  now : ℤ
  deriving DecidableEq

/-- What happens to a subscription: the relay sends an event or the end of the stored events, or the
application closes it. -/
inductive Incoming
  | event (a : Arrival)
  | eose
  | close
  deriving DecidableEq

/-- What the pool calls back. -/
inductive Callback
  | onevent (a : Arrival)
  | oneose
  deriving DecidableEq

/-- The event of a message. -/
def Incoming.arrival? : Incoming → Option Arrival
  | event a => some a
  | eose | close => none

/-- The event of a callback. -/
def Callback.arrival? : Callback → Option Arrival
  | onevent a => some a
  | oneose => none

/-- What happens before the subscription is closed. -/
def beforeClose (ms : List Incoming) : List Incoming := ms.takeWhile fun m => decide (m ≠ .close)

/-- What happens before the end of the stored events, or before the subscription is closed. -/
def beforeEose (ms : List Incoming) : List Incoming :=
  ms.takeWhile fun m => decide (m ≠ .close) && decide (m ≠ .eose)

/-- The events of messages. -/
def arrivals (ms : List Incoming) : List Arrival := ms.filterMap Incoming.arrival?

/-- The events that are called back. -/
def passed (cs : List Callback) : List Arrival := cs.filterMap Callback.arrival?

/-- Ids are digests: events that verify and have one id are the same. -/
def Digests (ms : List Incoming) : Prop :=
  ∀ a ∈ arrivals ms, ∀ a' ∈ arrivals ms, a.event.verifies = true → a'.event.verifies = true →
    a.event.id = a'.event.id → a.event = a'.event

/-- `Filter`. -/
structure Filter where
  kinds : List ℕ
  tag : String × List String
  since : Option ℤ := none
  deriving DecidableEq

/-- The pool: what a subscription calls back, of relays and a filter. -/
structure AbstractSimplePool where
  subscribeEose : List String → Filter → List Incoming → List Callback

/-- What is assumed of `subscribeEose`: until the end of the stored events it passes on the events
that verify, each once; then it closes.  The handler of the end is its own. -/
structure EndsAtEose (subscribeEose : List Incoming → List Callback) : Prop where
  inOrder : ∀ ms, (passed (subscribeEose ms)).Sublist (arrivals (beforeEose ms))
  passes : ∀ ms, Digests ms → ∀ a ∈ arrivals (beforeEose ms), a.event.verifies = true →
    ∃ a' ∈ passed (subscribeEose ms), a'.event = a.event
  once : ∀ ms, ((passed (subscribeEose ms)).map fun a => a.event.id).Nodup
  replaced : ∀ ms, Callback.oneose ∉ subscribeEose ms

/-! ### Subscriptions -/

variable (pool : AbstractSimplePool)

/-- `RelayPool.subscribe`, and `RelayPoolAdapter.subscribe`. -/
def subscribe (relays : List String) (filter : Filter) (ms : List Incoming) : List Callback :=
  pool.subscribeEose relays filter ms

/-- What the caller of a subscription is called back. -/
inductive Called
  | onEvent (event : Event)
  | onEose
  deriving DecidableEq

/-- The handlers of `subscribeChannel`, with the set `seen`. -/
def channelHandlers (groupId : String) : List String → List Callback → List Called
  | _, [] => []
  | seen, .oneose :: cs => .onEose :: channelHandlers groupId seen cs
  | seen, .onevent a :: cs =>
    if validateChannelMessage a.event groupId a.now = false then channelHandlers groupId seen cs
    else if a.event.id ∈ seen then channelHandlers groupId seen cs
    else .onEvent a.event :: channelHandlers groupId (a.event.id :: seen) cs

/-- `subscribeChannel`. -/
def subscribeChannel (relayUrl groupId : String) (seen : List String) (since : Option ℤ)
    (ms : List Incoming) : List Called :=
  channelHandlers groupId seen (subscribe pool [relayUrl]
    { kinds := [nip29KindMessage], tag := ("#h", [groupId])
      since := if since = some 0 then none else since } ms)

/-- The handlers of `useInboxSync`. -/
def inboxHandler : Callback → Called
  | .onevent a => .onEvent a.event
  | .oneose => .onEose

/-- The subscription of `useInboxSync`, with `inboxFilter`. -/
def subscribeInbox (relayUrl : String) (pubkey : Pubkey) (ms : List Incoming) : List Called :=
  (subscribe pool [relayUrl]
    { kinds := [nip59KindGiftWrap], tag := ("#p", [toAsciiLowercase pubkey]) } ms).map inboxHandler

/-- A subscription. -/
inductive Subscription
  | channel (relayUrl groupId : String) (seen : List String) (since : Option ℤ)
  | inbox (relayUrl : String) (pubkey : Pubkey)
  deriving DecidableEq

/-- What a subscription calls back. -/
def Subscription.called : Subscription → List Incoming → List Called
  | channel relayUrl groupId seen since => subscribeChannel pool relayUrl groupId seen since
  | inbox relayUrl pubkey => subscribeInbox pool relayUrl pubkey

/-- The events a subscription is for. -/
def Subscription.Valid : Subscription → Arrival → Prop
  | channel _ groupId seen _, a =>
    validateChannelMessage a.event groupId a.now = true ∧ a.event.id ∉ seen
  | inbox _ _, a => a.event.verifies = true

instance (sub : Subscription) (a : Arrival) : Decidable (sub.Valid a) :=
  match sub with
  | .channel _ groupId seen _ => inferInstanceAs (Decidable
      (validateChannelMessage a.event groupId a.now = true ∧ a.event.id ∉ seen))
  | .inbox _ _ => inferInstanceAs (Decidable (a.event.verifies = true))

/-- **Live until closed**: of each event that arrives before the close, and is valid whenever it
does, there is one call, and of the end of the stored events if it arrives. -/
structure LiveUntilClosed (sub : Subscription) (ms : List Incoming) (called : List Called) : Prop where
  onEvent : ∀ a ∈ arrivals (beforeClose ms),
    (∀ a' ∈ arrivals (beforeClose ms), a'.event = a.event → sub.Valid a') →
      called.count (.onEvent a.event) = 1
  onEose : called.count .onEose = if .eose ∈ beforeClose ms then 1 else 0

/-! ### What is delivered -/

theorem mem_arrivals_of_beforeClose {ms : List Incoming} {a : Arrival}
    (h : a ∈ arrivals (beforeClose ms)) : a ∈ arrivals ms :=
  ((List.takeWhile_sublist _).filterMap _).subset h

/-- Without an end of the stored events, nothing but the close ends a subscription. -/
theorem beforeEose_of_not_mem {ms : List Incoming} (h : Incoming.eose ∉ beforeClose ms) :
    beforeEose ms = beforeClose ms := by
  induction ms with
  | nil => rfl
  | cons m ms ih =>
      cases m with
      | close => rfl
      | eose => exact absurd List.mem_cons_self h
      | event a => exact congrArg (Incoming.event a :: ·) (ih fun hm => h (List.mem_cons_of_mem _ hm))

/-- An event whose id is in the set is not passed on. -/
theorem count_channel_of_seen {groupId : String} {e : Event} {seen : List String}
    (h : e.id ∈ seen) (cs : List Callback) :
    (channelHandlers groupId seen cs).count (.onEvent e) = 0 := by
  induction cs generalizing seen with
  | nil => rfl
  | cons c cs ih =>
      cases c with
      | oneose =>
          rw [channelHandlers, List.count_cons_of_ne (by simp)]
          exact ih h
      | onevent a =>
          rw [channelHandlers]
          split_ifs with hvalid hseen
          · exact ih h
          · exact ih h
          · have hne : Called.onEvent a.event ≠ Called.onEvent e := by
              rintro heq
              rw [Called.onEvent.inj heq] at hseen
              exact hseen h
            rw [List.count_cons_of_ne hne]
            exact ih (List.mem_cons_of_mem _ h)

/-- **The handlers of a channel pass an event on once**, which is new, comes, and is valid whenever
it comes. -/
theorem count_channel {groupId : String} {e : Event} {seen : List String} {cs : List Callback}
    (hnew : e.id ∉ seen) (hmem : ∃ a ∈ passed cs, a.event = e)
    (hvalid : ∀ a ∈ passed cs, a.event = e → validateChannelMessage a.event groupId a.now = true)
    (hids : ∀ a ∈ passed cs, validateChannelMessage a.event groupId a.now = true →
      a.event.id = e.id → a.event = e) :
    (channelHandlers groupId seen cs).count (.onEvent e) = 1 := by
  induction cs generalizing seen with
  | nil => simp [passed] at hmem
  | cons c cs ih =>
      cases c with
      | oneose =>
          rw [channelHandlers, List.count_cons_of_ne (by simp)]
          exact ih hnew hmem hvalid hids
      | onevent a =>
          have hpassed : passed (.onevent a :: cs) = a :: passed cs := rfl
          rw [hpassed, List.exists_mem_cons_iff] at hmem
          rw [hpassed, List.forall_mem_cons] at hvalid hids
          rw [channelHandlers]
          by_cases he : a.event = e
          · have hseen : a.event.id ∉ seen := he ▸ hnew
            rw [if_neg (by rw [hvalid.1 he]; simp), if_neg hseen, he, List.count_cons_self,
              count_channel_of_seen List.mem_cons_self]
          · have hrest : ∃ a' ∈ passed cs, a'.event = e := hmem.resolve_left he
            split_ifs with hinvalid hseen
            · exact ih hnew hrest hvalid.2 hids.2
            · exact ih hnew hrest hvalid.2 hids.2
            · have hne : a.event.id ≠ e.id :=
                fun h => he (hids.1 (Bool.eq_true_of_not_eq_false hinvalid) h)
              rw [List.count_cons_of_ne fun h => he (Called.onEvent.inj h)]
              refine ih (fun h => ?_) hrest hvalid.2 hids.2
              rcases List.mem_cons.1 h with h | h
              · exact hne h.symm
              · exact hnew h

theorem count_map_inboxHandler (e : Event) (cs : List Callback) :
    (cs.map inboxHandler).count (.onEvent e) = ((passed cs).map Arrival.event).count e := by
  induction cs with
  | nil => rfl
  | cons c cs ih =>
      cases c with
      | oneose =>
          rw [List.map_cons, List.count_cons_of_ne (by simp [inboxHandler])]
          exact ih
      | onevent a =>
          have hpassed : (passed (.onevent a :: cs)).map Arrival.event =
            a.event :: (passed cs).map Arrival.event := rfl
          rw [hpassed, List.map_cons, inboxHandler, List.count_cons, List.count_cons, ih]
          simp

/-- **The handler of the inbox passes an event on once**, which comes, where no id comes twice. -/
theorem count_inbox {e : Event} {cs : List Callback} (hmem : ∃ a ∈ passed cs, a.event = e)
    (honce : ((passed cs).map fun a => a.event.id).Nodup) :
    (cs.map inboxHandler).count (.onEvent e) = 1 := by
  have hevents : ((passed cs).map Arrival.event).Nodup := by
    refine List.Nodup.of_map Event.id ?_
    rw [List.map_map]
    exact honce
  rw [count_map_inboxHandler]
  obtain ⟨a, ha, rfl⟩ := hmem
  exact List.count_eq_one_of_mem hevents (List.mem_map_of_mem ha)

theorem onEose_not_mem_channel {groupId : String} {seen : List String} {cs : List Callback}
    (h : Callback.oneose ∉ cs) : Called.onEose ∉ channelHandlers groupId seen cs := by
  induction cs generalizing seen with
  | nil => simp [channelHandlers]
  | cons c cs ih =>
      rw [List.mem_cons, not_or] at h
      cases c with
      | oneose => exact absurd rfl h.1
      | onevent a =>
          rw [channelHandlers]
          split_ifs with hinvalid hseen
          · exact ih h.2
          · exact ih h.2
          · rw [List.mem_cons, not_or]
            exact ⟨by simp, ih h.2⟩

/-- **The end of the stored events is not passed on**, since the pool has a handler of its own. -/
theorem onEose_not_mem {sub : Subscription} {ms : List Incoming}
    (hpool : ∀ relays filter, EndsAtEose (pool.subscribeEose relays filter)) :
    Called.onEose ∉ sub.called pool ms := by
  cases sub with
  | channel relayUrl groupId seen since => exact onEose_not_mem_channel ((hpool _ _).replaced ms)
  | inbox relayUrl pubkey =>
      intro hmem
      obtain ⟨c, hc, heq⟩ := List.mem_map.1 hmem
      cases c with
      | oneose => exact (hpool _ _).replaced ms hc
      | onevent a => cases heq

theorem verifies_of_validate {event : Event} {groupId : String} {now : ℤ}
    (h : validateChannelMessage event groupId now = true) : event.verifies = true := by
  simp only [validateChannelMessage, Bool.and_eq_true] at h
  exact h.1.1.2

/-- A subscription is for events that verify. -/
theorem Subscription.Valid.verifies {sub : Subscription} {a : Arrival} (h : sub.Valid a) :
    a.event.verifies = true := by
  cases sub with
  | channel relayUrl groupId seen since => exact verifies_of_validate h.1
  | inbox relayUrl pubkey => exact h

/-- **What arrives before the end of the stored events is delivered once.** -/
theorem count_onEvent (hpool : ∀ relays filter, EndsAtEose (pool.subscribeEose relays filter))
    {sub : Subscription} {ms : List Incoming} (hids : Digests ms)
    (hbefore : beforeEose ms = beforeClose ms) {a : Arrival} (ha : a ∈ arrivals (beforeClose ms))
    (hvalid : ∀ a' ∈ arrivals (beforeClose ms), a'.event = a.event → sub.Valid a') :
    (sub.called pool ms).count (.onEvent a.event) = 1 := by
  have hverifies : a.event.verifies = true := (hvalid a ha rfl).verifies
  have harrived : ∀ relays filter, ∀ a' ∈ passed (pool.subscribeEose relays filter ms),
      a' ∈ arrivals (beforeClose ms) := fun relays filter a' ha' => by
    rw [← hbefore]
    exact ((hpool relays filter).inOrder ms).subset ha'
  have hcomes : ∀ relays filter, ∃ a' ∈ passed (pool.subscribeEose relays filter ms),
      a'.event = a.event := fun relays filter =>
    (hpool relays filter).passes ms hids a (hbefore ▸ ha) hverifies
  cases sub with
  | channel relayUrl groupId seen since =>
      refine count_channel (hvalid a ha rfl).2 (hcomes _ _)
        (fun a' ha' heq => (hvalid a' (harrived _ _ a' ha') heq).1) fun a' ha' hv hid => ?_
      exact hids a' (mem_arrivals_of_beforeClose (harrived _ _ a' ha')) a
        (mem_arrivals_of_beforeClose ha) (verifies_of_validate hv) hverifies hid
  | inbox relayUrl pubkey => exact count_inbox (hcomes _ _) ((hpool _ _).once ms)

/-- **A subscription delivers until it is closed** exactly if it is closed before the end of the
stored events: after that end nothing comes, and the end itself is not told. -/
theorem delivers_iff (hpool : ∀ relays filter, EndsAtEose (pool.subscribeEose relays filter))
    (sub : Subscription) {ms : List Incoming} (hids : Digests ms) :
    LiveUntilClosed sub ms (sub.called pool ms) ↔ Incoming.eose ∉ beforeClose ms := by
  have hcount : (sub.called pool ms).count .onEose = 0 :=
    List.count_eq_zero.2 (onEose_not_mem pool hpool)
  constructor
  · intro h heose
    have hone := h.onEose
    rw [hcount, if_pos heose] at hone
    cases hone
  · intro hopen
    refine ⟨fun a ha hvalid =>
      count_onEvent pool hpool hids (beforeEose_of_not_mem hopen) ha hvalid, ?_⟩
    rw [hcount, if_neg hopen]

/-! ### A pool -/

/-- The events that verify, each once. -/
def forward (known : List String) : List Arrival → List Callback
  | [] => []
  | a :: as =>
    if a.event.verifies = false ∨ a.event.id ∈ known then forward known as
    else .onevent a :: forward (a.event.id :: known) as

theorem passed_forward_sublist (known : List String) (as : List Arrival) :
    (passed (forward known as)).Sublist as := by
  induction as generalizing known with
  | nil => exact List.Sublist.refl _
  | cons a as ih =>
      rw [forward]
      split_ifs
      · exact (ih known).cons a
      · exact (ih (a.event.id :: known)).cons_cons a

theorem ids_forward (known : List String) (as : List Arrival) :
    ((passed (forward known as)).map fun a => a.event.id).Nodup ∧
      ∀ a ∈ passed (forward known as), a.event.id ∉ known := by
  induction as generalizing known with
  | nil => simp [forward, passed]
  | cons a as ih =>
      rw [forward]
      split_ifs with hskip
      · exact ih known
      · rw [not_or] at hskip
        obtain ⟨hnodup, hnew⟩ := ih (a.event.id :: known)
        have hpassed : passed (.onevent a :: forward (a.event.id :: known) as) =
          a :: passed (forward (a.event.id :: known) as) := rfl
        rw [hpassed, List.map_cons, List.nodup_cons, List.forall_mem_cons]
        refine ⟨⟨fun hmem => ?_, hnodup⟩, hskip.2, fun b hb hknown =>
          hnew b hb (List.mem_cons_of_mem _ hknown)⟩
        obtain ⟨b, hb, heq⟩ := List.mem_map.1 hmem
        exact hnew b hb (heq ▸ List.mem_cons_self)

theorem exists_forward {known : List String} {as : List Arrival} {a : Arrival} (ha : a ∈ as)
    (hverifies : a.event.verifies = true) (hnew : a.event.id ∉ known)
    (hids : ∀ b ∈ as, b.event.verifies = true → b.event.id = a.event.id → b.event = a.event) :
    ∃ a' ∈ passed (forward known as), a'.event = a.event := by
  induction as generalizing known with
  | nil => cases ha
  | cons b as ih =>
      rw [List.forall_mem_cons] at hids
      rw [forward]
      by_cases hb : b.event = a.event
      · rw [if_neg (by rw [hb, hverifies]; simpa using hnew)]
        exact ⟨b, List.mem_cons_self, hb⟩
      · have hrest : a ∈ as := (List.mem_cons.1 ha).resolve_left fun h => hb (h ▸ rfl)
        split_ifs with hskip
        · exact ih hrest hnew hids.2
        · rw [not_or, Bool.not_eq_false] at hskip
          have hne : a.event.id ∉ b.event.id :: known := by
            rw [List.mem_cons, not_or]
            exact ⟨fun h => hb (hids.1 hskip.1 h.symm), hnew⟩
          obtain ⟨a', ha', heq⟩ := ih hrest hne hids.2
          exact ⟨a', List.mem_cons_of_mem _ ha', heq⟩

/-- A pool that ends subscriptions at the end of the stored events. -/
def demoPool : AbstractSimplePool where
  subscribeEose _ _ ms := forward [] (arrivals (beforeEose ms))

theorem endsAtEose_demoPool (relays : List String) (filter : Filter) :
    EndsAtEose (demoPool.subscribeEose relays filter) where
  inOrder ms := passed_forward_sublist [] _
  passes ms hids a ha hverifies := by
    have hsub : ∀ b ∈ arrivals (beforeEose ms), b ∈ arrivals ms := fun b hb =>
      ((List.takeWhile_sublist _).filterMap _).subset hb
    exact exists_forward ha hverifies List.not_mem_nil fun b hb hv hid =>
      hids b (hsub b hb) a (hsub a ha) hv hverifies hid
  once ms := (ids_forward [] _).1
  replaced ms := by
    show Callback.oneose ∉ forward [] (arrivals (beforeEose ms))
    generalize ([] : List String) = known
    induction arrivals (beforeEose ms) generalizing known with
    | nil => simp [forward]
    | cons a as ih =>
        rw [forward]
        split_ifs
        · exact ih known
        · rw [List.mem_cons, not_or]
          exact ⟨by simp, ih _⟩

/-- A message of a channel. -/
def demoEvent (id : String) : Event :=
  { id, pubkey := demoKey 'a', created_at := 5, kind := 9, tags := [["h", "g"]], content := "hi"
    verifies := true }

/-- The subscription of the channel. -/
def demoChannel : Subscription := .channel "wss://relay" "g" [] none

/-- A message, and the page is left. -/
def leftEarly : List Incoming := [.event ⟨demoEvent "1", 5⟩, .close]

theorem delivers_iff_leftEarly :
    LiveUntilClosed demoChannel leftEarly (demoChannel.called demoPool leftEarly) ↔
      Incoming.eose ∉ beforeClose leftEarly := by
  have hids : Digests leftEarly := by
    intro a ha a' ha' _ _ _
    rw [List.mem_singleton.1 ha, List.mem_singleton.1 ha']
  exact delivers_iff demoPool endsAtEose_demoPool demoChannel hids

/-- A stored message, the end of the stored messages, and a message that is sent later. -/
def liveMessage : List Incoming :=
  [.event ⟨demoEvent "1", 5⟩, .eose, .event ⟨demoEvent "2", 9⟩]

/-- **Not every subscription delivers until it is closed**: what is sent after the end of the stored
messages is not delivered. -/
theorem live_message_lost : ¬ ∀ (pool : AbstractSimplePool),
    (∀ relays filter, EndsAtEose (pool.subscribeEose relays filter)) →
      ∀ (sub : Subscription) (ms : List Incoming), Digests ms →
        LiveUntilClosed sub ms (sub.called pool ms) := by
  intro hclaim
  have hids : Digests liveMessage := by
    have harrivals : arrivals liveMessage = [⟨demoEvent "1", 5⟩, ⟨demoEvent "2", 9⟩] := rfl
    intro a ha a' ha' _ _ hid
    rw [harrivals, List.mem_pair] at ha ha'
    rcases ha with rfl | rfl <;> rcases ha' with rfl | rfl
    · rfl
    · exact absurd hid (by decide)
    · exact absurd hid (by decide)
    · rfl
  have hlive := (hclaim demoPool endsAtEose_demoPool demoChannel liveMessage hids).onEvent
    ⟨demoEvent "2", 9⟩ (by decide) (by decide)
  have hnone : (demoChannel.called demoPool liveMessage).count (.onEvent (demoEvent "2")) = 0 := by
    decide
  exact nomatch hnone.symm.trans hlive

end Subscriptions
end Chat
end Pwa
end SentinelMesh
