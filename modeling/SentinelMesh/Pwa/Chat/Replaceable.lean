/-
# Replaceable events

`fetchState` and `loadChannelState` of `services/chat/publicChannel.ts`, `validateGroupStateEvent` of
`services/chat/nip29.ts`, and `resolveRecipientRelays` of `services/chat/dmRelayDiscovery.ts`, on
what the relays answer to a query: any events, in any order.

Of a replaceable event the newest version counts.  The code takes the first of the metadata events
that pass `validateGroupStateEvent`, the keys that any of the admins and members events tags, and the
first relay list; and an event passes for two days only.  So in every order the answers make what
the newest events say if and only if all metadata events that pass read as the newest, the other
events that pass tag the keys of the newest, and all relay lists have the relays of the newest
(`newest_decides_iff`).

`JSON.parse` of a metadata event is a parameter.
-/

import SentinelMesh.Pwa.Chat.Subscriptions
import Mathlib.Data.Finset.Max

namespace SentinelMesh
namespace Pwa
namespace Chat
namespace Replaceable

open Subscriptions (Event withinEventBounds)

/-! ### State of a group -/

/-- `NIP29_KIND_METADATA`. -/
def nip29KindMetadata : ℕ := 39000

/-- `NIP29_KIND_ADMINS`. -/
def nip29KindAdmins : ℕ := 39001

/-- `NIP29_KIND_MEMBERS`. -/
def nip29KindMembers : ℕ := 39002

/-- `NIP29_KIND_ROLES`. -/
def nip29KindRoles : ℕ := 39003

/-- `NIP29_STATE_KINDS`. -/
def nip29StateKinds : List ℕ :=
  [nip29KindMetadata, nip29KindAdmins, nip29KindMembers, nip29KindRoles]

/-- The event is bound to the group by a tag. -/
def boundTo (event : Event) (groupId : String) : Bool :=
  decide (singleTag event.tags "d" = some groupId) || decide (singleTag event.tags "h" = some groupId)

/-- The event is signed by the relay, if the relay's key is known; no key is empty. -/
def signedBy (event : Event) : Option Pubkey → Bool
  | none => true
  | some relaySelfPubkey => decide (relaySelfPubkey = "") || decide (event.pubkey = relaySelfPubkey)

/-- `validateGroupStateEvent`, at the time it is called. -/
def validateGroupStateEvent (event : Event) (groupId : String) (relaySelfPubkey : Option Pubkey)
    (now : ℤ) : Bool :=
  decide (event.kind ∈ nip29StateKinds) && withinEventBounds event now && event.verifies &&
    boundTo event groupId && signedBy event relaySelfPubkey

/-- What the relays answer to a query, and when. -/
structure Answer where
  events : List Event
  now : ℤ

/-- `fetchState`, once the query is answered. -/
def fetchState (answer : Answer) (groupId : String) (relaySelfPubkey : Option Pubkey) : List Event :=
  answer.events.filter fun e => validateGroupStateEvent e groupId relaySelfPubkey answer.now

/-- What `JSON.parse` makes of the content of a metadata event. -/
structure Metadata where
  name : Option String
  about : Option String
  deriving DecidableEq

/-- A field in the place of a default, if it is not empty. -/
def fieldOr (field : Option String) (default : String) : String :=
  match field with
  | some value => if value ≠ "" then value else default
  | none => default

/-- `name` and `about` of `loadChannelState`, from an event or from none; `json` is `none` where
`JSON.parse` throws.  The default is the first twelve characters of the id. -/
def nameAndAbout (json : String → Option Metadata) (groupId : String) (event : Option Event) :
    String × String :=
  let name := String.ofList (groupId.toList.take 12)
  match json ((event.map Event.content).getD "\x7b\x7d") with
  | none => (name, "")
  | some parsed => (fieldOr parsed.name name, fieldOr parsed.about "")

/-- The keys an event tags. -/
def taggedKeys (event : Event) : List Pubkey :=
  event.tags.filterMap fun t =>
    if t.head? = some "p" then t[1]?.filter fun k => decide (k ≠ "") else none

/-- `tagPubkeys`: a `Set` keeps the order in which its elements are added. -/
def tagPubkeys (events : List Event) : List Pubkey :=
  (events.flatMap taggedKeys).foldl (fun keys k => if k ∈ keys then keys else keys ++ [k]) []

/-- `ChannelState`. -/
structure ChannelState where
  relayUrl : String
  groupId : String
  name : String
  about : String
  admins : List Pubkey
  members : List Pubkey
  deriving DecidableEq

/-- `loadChannelState`, once its queries are answered. -/
def loadChannelState (json : String → Option Metadata) (relayUrl groupId : String)
    (relaySelfPubkey : Option Pubkey) (metadata admins members : Answer) : ChannelState :=
  let read := nameAndAbout json groupId (fetchState metadata groupId relaySelfPubkey).head?
  { relayUrl, groupId, name := read.1, about := read.2
    admins := tagPubkeys (fetchState admins groupId relaySelfPubkey)
    members := tagPubkeys (fetchState members groupId relaySelfPubkey) }

/-! ### Relays of a recipient -/

/-- `DM_RELAY_LIST_KIND`. -/
def dmRelayListKind : ℕ := 10050

/-- `parseRelayUrls`. -/
def parseRelayUrls (event : Event) : List String :=
  event.tags.filterMap fun t =>
    if t.head? = some "r" then t[1]?.filter fun u => decide (u ≠ "") else none

/-- What is answered where there is no relay list, or none in it. -/
def fallbackRelays (fallbackRelay : Option String) : List String :=
  (fallbackRelay.filter fun u => decide (u ≠ "")).toList

/-- The relays of a list, or the fallback. -/
def relaysOr (fallbackRelay : Option String) : Option Event → List String
  | none => fallbackRelays fallbackRelay
  | some latest =>
    if 0 < (parseRelayUrls latest).length then parseRelayUrls latest else fallbackRelays fallbackRelay

/-- The events `resolveRecipientRelays` is answered: no query is made without a relay to discover by,
and one that is rejected counts as one without events. -/
def discovered (discoveryRelays : List String) (answer : Option (List Event)) : List Event :=
  if discoveryRelays.length = 0 then [] else answer.getD []

/-- `resolveRecipientRelays`, once its query is answered. -/
def resolveRecipientRelays (discoveryRelays : List String) (fallbackRelay : Option String)
    (answer : Option (List Event)) : List String :=
  relaysOr fallbackRelay (discovered discoveryRelays answer).head?

/-! ### The newest event -/

/-- The newest of the events with a property, or none if there is none. -/
def Newest (events : List Event) (p : Event → Prop) : Option Event → Prop
  | none => ∀ e ∈ events, ¬p e
  | some e => e ∈ events ∧ p e ∧ ∀ e' ∈ events, p e' → e'.created_at ≤ e.created_at

/-- A state event of a kind that is authentic, whenever it was published. -/
structure Authentic (kind : ℕ) (groupId : String) (relaySelfPubkey : Option Pubkey) (e : Event) :
    Prop where
  kind : e.kind = kind
  verifies : e.verifies = true
  bound : boundTo e groupId = true
  signed : signedBy e relaySelfPubkey = true

/-- A relay list of a recipient. -/
structure RelayListOf (recipientPubkey : Pubkey) (e : Event) : Prop where
  kind : e.kind = dmRelayListKind
  author : e.pubkey = toAsciiLowercase recipientPubkey

instance (kind : ℕ) (groupId : String) (relaySelfPubkey : Option Pubkey) (e : Event) :
    Decidable (Authentic kind groupId relaySelfPubkey e) :=
  decidable_of_iff (e.kind = kind ∧ e.verifies = true ∧ boundTo e groupId = true ∧
    signedBy e relaySelfPubkey = true)
    ⟨fun h => ⟨h.1, h.2.1, h.2.2.1, h.2.2.2⟩, fun h => ⟨h.kind, h.verifies, h.bound, h.signed⟩⟩

instance (recipientPubkey : Pubkey) (e : Event) : Decidable (RelayListOf recipientPubkey e) :=
  decidable_of_iff (e.kind = dmRelayListKind ∧ e.pubkey = toAsciiLowercase recipientPubkey)
    ⟨fun h => ⟨h.1, h.2⟩, fun h => ⟨h.kind, h.author⟩⟩

theorem mem_tagPubkeys {events : List Event} {k : Pubkey} :
    k ∈ tagPubkeys events ↔ ∃ e ∈ events, k ∈ taggedKeys e := by
  have hfold : ∀ (ks start : List Pubkey),
      k ∈ ks.foldl (fun keys k => if k ∈ keys then keys else keys ++ [k]) start ↔
        k ∈ start ∨ k ∈ ks := by
    intro ks
    induction ks with
    | nil => exact fun start => (or_iff_left List.not_mem_nil).symm
    | cons a ks ih =>
        intro start
        rw [List.foldl_cons, ih, List.mem_cons]
        by_cases ha : a ∈ start
        · rw [if_pos ha]
          constructor
          · exact fun h => h.imp_right Or.inr
          · rintro (h | rfl | h)
            · exact Or.inl h
            · exact Or.inl ha
            · exact Or.inr h
        · rw [if_neg ha, List.mem_append, List.mem_singleton, or_assoc]
  unfold tagPubkeys
  rw [hfold, List.mem_flatMap]
  exact or_iff_right List.not_mem_nil

/-! ### What the newest events decide -/

section Decided

variable (json : String → Option Metadata) (groupId : String) (relaySelfPubkey : Option Pubkey)

/-- Name and about are those of the newest authentic metadata event. -/
def MetadataDecided (metadata : Answer) (state : ChannelState) : Prop :=
  ∃ newest, Newest metadata.events (Authentic nip29KindMetadata groupId relaySelfPubkey) newest ∧
    (state.name, state.about) = nameAndAbout json groupId newest

/-- Keys are those of the newest authentic event of a kind. -/
def KeysDecided (kind : ℕ) (answer : Answer) (keys : List Pubkey) : Prop :=
  ∃ newest, Newest answer.events (Authentic kind groupId relaySelfPubkey) newest ∧
    ∀ k, k ∈ keys ↔ ∃ e, newest = some e ∧ k ∈ taggedKeys e

/-- The state of a channel is what the newest authentic events say. -/
structure StateDecided (metadata admins members : Answer) (state : ChannelState) : Prop where
  metadata : MetadataDecided json groupId relaySelfPubkey metadata state
  admins : KeysDecided groupId relaySelfPubkey nip29KindAdmins admins state.admins
  members : KeysDecided groupId relaySelfPubkey nip29KindMembers members state.members

/-- Relays are those of the newest relay list of the recipient. -/
def RelaysDecided (recipientPubkey : Pubkey) (fallbackRelay : Option String) (events : List Event)
    (relays : List String) : Prop :=
  ∃ newest, Newest events (RelayListOf recipientPubkey) newest ∧
    relays = relaysOr fallbackRelay newest

/-- Every metadata event that passes reads as a newest does; where none passes, no event does. -/
structure AllRead (metadata : Answer) : Prop where
  passing : ∀ e ∈ metadata.events,
    validateGroupStateEvent e groupId relaySelfPubkey metadata.now = true →
      ∃ newest, Newest metadata.events (Authentic nip29KindMetadata groupId relaySelfPubkey) newest ∧
        nameAndAbout json groupId (some e) = nameAndAbout json groupId newest
  none_passes : (∀ e ∈ metadata.events,
    validateGroupStateEvent e groupId relaySelfPubkey metadata.now = false) →
      ∃ newest, Newest metadata.events (Authentic nip29KindMetadata groupId relaySelfPubkey) newest ∧
        nameAndAbout json groupId none = nameAndAbout json groupId newest

/-- The events of an answer that pass have the keys of the newest: none has another, as an older
version might, and none of the newest's is missing, as when the newest does not pass. -/
def AllTag (kind : ℕ) (answer : Answer) : Prop :=
  ∃ newest, Newest answer.events (Authentic kind groupId relaySelfPubkey) newest ∧
    (∀ e ∈ answer.events, validateGroupStateEvent e groupId relaySelfPubkey answer.now = true →
      ∀ k ∈ taggedKeys e, ∃ n, newest = some n ∧ k ∈ taggedKeys n) ∧
    ∀ n, newest = some n → ∀ k ∈ taggedKeys n, ∃ e ∈ answer.events,
      validateGroupStateEvent e groupId relaySelfPubkey answer.now = true ∧ k ∈ taggedKeys e

/-- Every event has the relays of a newest relay list. -/
def AllList (recipientPubkey : Pubkey) (fallbackRelay : Option String) (events : List Event) : Prop :=
  ∀ e ∈ events, ∃ newest, Newest events (RelayListOf recipientPubkey) newest ∧
    relaysOr fallbackRelay (some e) = relaysOr fallbackRelay newest

end Decided

variable {json : String → Option Metadata} {groupId : String} {relaySelfPubkey : Option Pubkey}

/-- **Keys are those of the newest event** if and only if all that pass tag them. -/
theorem keysDecided_iff {kind : ℕ} {answer : Answer} :
    KeysDecided groupId relaySelfPubkey kind answer
      (tagPubkeys (fetchState answer groupId relaySelfPubkey)) ↔
      AllTag groupId relaySelfPubkey kind answer := by
  have hkeys : ∀ k, k ∈ tagPubkeys (fetchState answer groupId relaySelfPubkey) ↔
      ∃ e ∈ answer.events, validateGroupStateEvent e groupId relaySelfPubkey answer.now = true ∧
        k ∈ taggedKeys e := by
    intro k
    rw [mem_tagPubkeys]
    unfold fetchState
    simp only [List.mem_filter, and_assoc]
  refine exists_congr fun newest => and_congr_right fun _ => ?_
  constructor
  · intro h
    refine ⟨fun e he hpass k hk => ?_, fun n hn k hk => ?_⟩
    · exact (h k).1 ((hkeys k).2 ⟨e, he, hpass, hk⟩)
    · exact (hkeys k).1 ((h k).2 ⟨n, hn, hk⟩)
  · rintro ⟨hnone, hall⟩ k
    rw [hkeys]
    constructor
    · rintro ⟨e, he, hpass, hk⟩
      exact hnone e he hpass k hk
    · rintro ⟨n, hn, hk⟩
      exact hall n hn k hk

/-- Which event is the newest does not depend on the order. -/
theorem newest_perm {events es : List Event} (h : es.Perm events) {p : Event → Prop}
    {newest : Option Event} : Newest es p newest ↔ Newest events p newest := by
  cases newest with
  | none => exact forall_congr' fun e => by rw [h.mem_iff]
  | some n =>
      rw [Newest, Newest, h.mem_iff]
      refine and_congr_right fun _ => and_congr_right fun _ => ?_
      exact forall_congr' fun e => by rw [h.mem_iff]

/-- What is returned in one order is returned with any of its events first. -/
theorem exists_perm_cons {e : Event} {events : List Event} (h : e ∈ events) :
    ∃ rest, (e :: rest).Perm events :=
  ⟨events.erase e, (List.perm_cons_erase h).symm⟩

/-- An answer in another order. -/
def Answer.ordered (answer : Answer) (es : List Event) : Answer := { answer with events := es }

/-- **Name and about are those of a newest event in every order** if and only if all that pass read
alike. -/
theorem metadataDecided_iff {relayUrl : String} {metadata admins members : Answer} :
    (∀ es, es.Perm metadata.events → MetadataDecided json groupId relaySelfPubkey
      (metadata.ordered es) (loadChannelState json relayUrl groupId relaySelfPubkey
        (metadata.ordered es) admins members)) ↔
      AllRead json groupId relaySelfPubkey metadata := by
  constructor
  · intro h
    refine ⟨fun e he hpass => ?_, fun hnone => ?_⟩
    · obtain ⟨rest, hperm⟩ := exists_perm_cons he
      obtain ⟨newest, hnewest, hread⟩ := h _ hperm
      refine ⟨newest, (newest_perm hperm).1 hnewest, ?_⟩
      have hfirst : (fetchState (metadata.ordered (e :: rest)) groupId relaySelfPubkey).head? =
          some e :=
        congrArg List.head? (@List.filter_cons_of_pos Event
          (fun e => validateGroupStateEvent e groupId relaySelfPubkey metadata.now) e rest hpass)
      rw [← hfirst]
      exact hread
    · obtain ⟨newest, hnewest, hread⟩ := h _ (List.Perm.refl _)
      refine ⟨newest, hnewest, ?_⟩
      have hfirst : (fetchState metadata groupId relaySelfPubkey).head? = none := by
        unfold fetchState
        rw [List.filter_eq_nil_iff.2 fun e he => by rw [hnone e he]; exact Bool.false_ne_true]
        rfl
      rw [← hfirst]
      exact hread
  · intro h es hperm
    cases hfirst : (fetchState (metadata.ordered es) groupId relaySelfPubkey).head? with
    | none =>
        have hnil := List.head?_eq_none_iff.1 hfirst
        obtain ⟨newest, hnewest, hread⟩ := h.none_passes fun e he =>
          Bool.eq_false_iff.2 (List.filter_eq_nil_iff.1 hnil e (hperm.mem_iff.2 he))
        exact ⟨newest, (newest_perm hperm).2 hnewest, (congrArg _ hfirst).trans hread⟩
    | some e =>
        obtain ⟨he, hpass⟩ := List.mem_filter.1 (List.mem_of_mem_head? hfirst)
        obtain ⟨newest, hnewest, hread⟩ := h.passing e (hperm.mem_iff.1 he) hpass
        exact ⟨newest, (newest_perm hperm).2 hnewest, (congrArg _ hfirst).trans hread⟩

/-- Which keys are tagged does not depend on the order. -/
theorem allTag_perm {kind : ℕ} {answer : Answer} {es : List Event} (h : es.Perm answer.events) :
    AllTag groupId relaySelfPubkey kind (answer.ordered es) ↔
      AllTag groupId relaySelfPubkey kind answer := by
  unfold AllTag Answer.ordered
  simp only [newest_perm h, h.mem_iff]

/-- **Relays are those of a newest list in every order** if and only if all events list alike. -/
theorem relaysDecided_iff {recipientPubkey : Pubkey} {fallbackRelay : Option String}
    {lists : List Event} :
    (∀ es, es.Perm lists → RelaysDecided recipientPubkey fallbackRelay es
      (relaysOr fallbackRelay es.head?)) ↔ AllList recipientPubkey fallbackRelay lists := by
  constructor
  · intro h e he
    obtain ⟨rest, hperm⟩ := exists_perm_cons he
    obtain ⟨newest, hnewest, hread⟩ := h _ hperm
    exact ⟨newest, (newest_perm hperm).1 hnewest, hread⟩
  · intro h es hperm
    cases es with
    | nil => exact ⟨none, fun e he => absurd he List.not_mem_nil, rfl⟩
    | cons e rest =>
        obtain ⟨newest, hnewest, hread⟩ := h e (hperm.mem_iff.1 List.mem_cons_self)
        exact ⟨newest, (newest_perm hperm).2 hnewest, hread⟩

/-- **The newest events decide in every order** if and only if the metadata events that pass read as
the newest, the admins and members events that pass tag the keys of the newest, and all relay lists
have the relays of the newest. -/
theorem newest_decides_iff (json : String → Option Metadata) (relayUrl groupId : String)
    (relaySelfPubkey : Option Pubkey) (metadata admins members : Answer)
    (recipientPubkey : Pubkey) (discoveryRelays : List String) (fallbackRelay : Option String)
    (lists : List Event) :
    ((∀ ms as bs, ms.Perm metadata.events → as.Perm admins.events → bs.Perm members.events →
      StateDecided json groupId relaySelfPubkey (metadata.ordered ms) (admins.ordered as)
        (members.ordered bs) (loadChannelState json relayUrl groupId relaySelfPubkey
          (metadata.ordered ms) (admins.ordered as) (members.ordered bs))) ↔
      AllRead json groupId relaySelfPubkey metadata ∧
        AllTag groupId relaySelfPubkey nip29KindAdmins admins ∧
        AllTag groupId relaySelfPubkey nip29KindMembers members) ∧
    ((∀ es, es.Perm lists → RelaysDecided recipientPubkey fallbackRelay
        (discovered discoveryRelays (some es))
        (resolveRecipientRelays discoveryRelays fallbackRelay (some es))) ↔
      AllList recipientPubkey fallbackRelay (discovered discoveryRelays (some lists))) := by
  constructor
  · constructor
    · intro h
      refine ⟨metadataDecided_iff.1 fun es hperm =>
        (h es _ _ hperm (List.Perm.refl _) (List.Perm.refl _)).metadata, ?_, ?_⟩
      · exact keysDecided_iff.1
          (h _ _ _ (List.Perm.refl _) (List.Perm.refl _) (List.Perm.refl _)).admins
      · exact keysDecided_iff.1
          (h _ _ _ (List.Perm.refl _) (List.Perm.refl _) (List.Perm.refl _)).members
    · rintro ⟨hmetadata, hadmins, hmembers⟩ ms as bs hms has hbs
      exact
        { metadata := metadataDecided_iff.2 hmetadata ms hms
          admins := keysDecided_iff.2 ((allTag_perm has).2 hadmins)
          members := keysDecided_iff.2 ((allTag_perm hbs).2 hmembers) }
  · unfold resolveRecipientRelays discovered
    split_ifs
    · exact iff_of_true (fun _ _ => ⟨none, fun e he => absurd he List.not_mem_nil, rfl⟩)
        fun e he => absurd he List.not_mem_nil
    · exact relaysDecided_iff

/-! ### Two versions -/

/-- An event of a relay, some seconds old. -/
def demoEvent (kind : ℕ) (age : ℤ) (tags : List (List String)) (content : String) : Event :=
  { id := "", pubkey := demoKey 'e', created_at := 1760000000 - age, kind, tags, content
    verifies := true }

/-- What is answered at a time. -/
def demoAnswer (events : List Event) : Answer := { events, now := 1760000000 }

/-- A content that is a name. -/
def demoJson (content : String) : Option Metadata := some { name := some content, about := none }

/-- The newest of two events, the second of which is newer. -/
theorem newest_second {p : Event → Prop} {a b : Event} {newest : Option Event}
    (h : Newest [a, b] p newest) (hb : p b) (hlt : a.created_at < b.created_at) :
    newest = some b := by
  cases newest with
  | none => exact absurd hb (h b (List.mem_cons_of_mem a (List.mem_singleton_self b)))
  | some n =>
      obtain ⟨hn, _, hmax⟩ := h
      rcases List.mem_pair.1 hn with rfl | rfl
      · exact absurd (hmax b (List.mem_cons_of_mem n (List.mem_singleton_self b)) hb) (not_le.2 hlt)
      · rfl

/-- Two versions of a group's metadata, the older one first; two of its admins, of which the older
one tags another; its members, who were published three days ago; and two relay lists, the older one
first. -/
theorem newest_decides_fails :
    (¬MetadataDecided demoJson "g" none
      (demoAnswer [demoEvent 39000 100 [["d", "g"]] "old", demoEvent 39000 10 [["d", "g"]] "new"])
      (loadChannelState demoJson "wss://r" "g" none
        (demoAnswer [demoEvent 39000 100 [["d", "g"]] "old", demoEvent 39000 10 [["d", "g"]] "new"])
        (demoAnswer []) (demoAnswer []))) ∧
    (¬KeysDecided "g" none nip29KindAdmins
      (demoAnswer [demoEvent 39001 100 [["d", "g"], ["p", "a"]] "",
        demoEvent 39001 10 [["d", "g"], ["p", "b"]] ""])
      (loadChannelState demoJson "wss://r" "g" none (demoAnswer [])
        (demoAnswer [demoEvent 39001 100 [["d", "g"], ["p", "a"]] "",
          demoEvent 39001 10 [["d", "g"], ["p", "b"]] ""]) (demoAnswer [])).admins) ∧
    (¬KeysDecided "g" none nip29KindMembers
      (demoAnswer [demoEvent 39002 259200 [["d", "g"], ["p", "a"]] ""])
      (loadChannelState demoJson "wss://r" "g" none (demoAnswer []) (demoAnswer [])
        (demoAnswer [demoEvent 39002 259200 [["d", "g"], ["p", "a"]] ""])).members) ∧
    ¬RelaysDecided (demoKey 'e') none
      [demoEvent 10050 100 [["r", "wss://x"]] "", demoEvent 10050 10 [["r", "wss://y"]] ""]
      (resolveRecipientRelays ["wss://d"] none (some
        [demoEvent 10050 100 [["r", "wss://x"]] "", demoEvent 10050 10 [["r", "wss://y"]] ""])) := by
  refine ⟨?_, ?_, ?_, ?_⟩
  · rintro ⟨newest, h, hread⟩
    obtain rfl := newest_second h (by decide) (by decide)
    exact absurd hread (by decide)
  · rintro ⟨newest, h, hkeys⟩
    obtain rfl := newest_second h (by decide) (by decide)
    obtain ⟨e, heq, hmem⟩ := (hkeys "a").1 (by decide)
    obtain rfl := Option.some.inj heq
    exact absurd hmem (by decide)
  · rintro ⟨newest, h, hkeys⟩
    cases newest with
    | none => exact h _ (List.mem_singleton_self _) (by decide)
    | some n =>
        obtain rfl := List.mem_singleton.1 h.1
        exact absurd ((hkeys "a").2 ⟨_, rfl, by decide⟩) (by decide)
  · rintro ⟨newest, h, hread⟩
    obtain rfl := newest_second h (by decide) (by decide)
    exact absurd hread (by decide)

end Replaceable
end Chat
end Pwa
end SentinelMesh
