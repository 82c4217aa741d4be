/-
# Lists of messages

The slices `store/chatSlice.ts` and `store/dmSlice.ts`, and `mergeUnique` of
`services/chat/chatSync.ts`.

Both slices keep the messages of a room, what is unread there and the room that is open, and change
them alike; `SliceState.step` is what they have in common, and each reducer is steps of it
(`chatSlice`, `dmSlice`).  `insertSorted` puts a message at the end and sorts anew, with a comparison
that says of a message and itself that it comes after: since no id is there twice, the sort never
asks (`Lib.ascending_mergeSort`).

What a room lists is then known from the set of the messages it was given (`lists_run`): the only
list of them that ascends strictly by date and id, which is what `mergeUnique` makes of them
(`lists_mergeUnique`).
-/

import SentinelMesh.Lib.JsonText
import SentinelMesh.Lib.KeyedSort
import SentinelMesh.Lib.Replica
import SentinelMesh.Pwa.Chat.Pages
import SentinelMesh.Pwa.Chat.Subscriptions
import Mathlib.Data.List.Lex
import Mathlib.Data.Prod.Lex
import Mathlib.Logic.Function.Basic

namespace SentinelMesh
namespace Pwa
namespace Chat
namespace MessageLists

open Lib

/-! ### Messages -/

/-- What is listed: it has an id and a date. -/
class Message (M : Type) where
  id : M → String
  created_at : M → ℤ

export Message (id created_at)

/-- `ChatMessage`. -/
structure ChatMessage where
  id : String
  channel_id : String
  sender_pubkey : Pubkey
  created_at : ℤ
  content : String
  deriving DecidableEq

/-- `DmMessage`. -/
structure DmMessage where
  id : String
  conversation_id : String
  sender_pubkey : Pubkey
  created_at : ℤ
  content : String
  deriving DecidableEq

instance : Message ChatMessage := ⟨ChatMessage.id, ChatMessage.created_at⟩

instance : Message DmMessage := ⟨DmMessage.id, DmMessage.created_at⟩

instance : Message Subscriptions.Event := ⟨Subscriptions.Event.id, Subscriptions.Event.created_at⟩

/-- `toChatMessage` of `hooks/useChannelSync.ts`. -/
def toChatMessage (channelId : String) (event : Subscriptions.Event) : ChatMessage :=
  { id := event.id, channel_id := channelId, sender_pubkey := event.pubkey
    created_at := event.created_at, content := event.content }

variable {M : Type} [Message M]

/-- `(a, b) => a.created_at - b.created_at || (a.id < b.id ? -1 : 1)`. -/
def compareMessages (a b : M) : ℤ :=
  if created_at a - created_at b ≠ 0 then created_at a - created_at b
  else if JsonText.units (id a) < JsonText.units (id b) then -1 else 1

/-- `sort` by this comparison. -/
def sortMessages (messages : List M) : List M :=
  messages.mergeSort fun a b => decide (compareMessages a b ≤ 0)

/-- `insertSorted`. -/
def insertSorted (messages : List M) (message : M) : List M :=
  if messages.any fun m => decide (id m = id message) then messages
  else sortMessages (messages ++ [message])

/-- `mergeUnique`; a `Map` keeps the place in which a key was first set. -/
def mergeUnique (events : List M) : List M :=
  let byId : Table String M := events.foldl (fun t event => t.put (id event) event) Table.empty
  sortMessages (byId.rows.map Prod.snd)

/-- Dates first, then ids. -/
def key (m : M) : ℤ ×ₗ List ℕ := toLex (created_at m, JsonText.units (id m))

theorem key_lt_iff {a b : M} : key a < key b ↔
    created_at a < created_at b ∨
      created_at a = created_at b ∧ JsonText.units (id a) < JsonText.units (id b) :=
  Prod.Lex.toLex_lt_toLex

theorem id_eq_of_key {a b : M} (h : key a = key b) : id a = id b :=
  JsonText.units_injective (Prod.ext_iff.1 (toLex.injective h)).2

/-- **The comparison is that of the keys**, except of a message with one of its own key. -/
theorem compareMessages_le_iff (a b : M) : compareMessages a b ≤ 0 ↔ key a < key b := by
  rw [key_lt_iff]
  unfold compareMessages
  split_ifs with hdate hid
  · omega
  · have heq : created_at a = created_at b := by omega
    exact ⟨fun _ => Or.inr ⟨heq, hid⟩, fun _ => by decide⟩
  · constructor
    · intro h
      omega
    · rintro (hlt | ⟨_, hlt⟩)
      · omega
      · exact absurd hlt hid

/-- Messages of different ids are sorted by their keys. -/
theorem ascending_sortMessages {l : List M} (h : (l.map id).Nodup) :
    Ascending key (sortMessages l) := by
  refine ascending_mergeSort (fun a b hne => ?_) ?_
  · exact decide_eq_decide.2 ((compareMessages_le_iff a b).trans (le_iff_lt_or_eq.trans
      (or_iff_left hne)).symm)
  · exact List.pairwise_map.2 ((List.pairwise_map.1 h).imp fun {a b} hid hkey =>
      hid (id_eq_of_key hkey))

theorem sortMessages_perm (l : List M) : (sortMessages l).Perm l := List.mergeSort_perm l _

/-! ### Lists of a set of messages -/

/-- Equal ids carry equal contents. -/
def Consistent (S : Set M) : Prop := ∀ a ∈ S, ∀ b ∈ S, id a = id b → a = b

/-- The list has the messages of the set, each id once, and ascends strictly by date and id. -/
structure Lists (S : Set M) (l : List M) : Prop where
  nodup : (l.map id).Nodup
  ascending : Ascending key l
  mem : ∀ m, m ∈ l ↔ m ∈ S

variable {S : Set M} {l l' : List M}

/-- **There is one list of a set.** -/
theorem Lists.ext (h : Lists S l) (h' : Lists S l') : l = l' :=
  h.ascending.ext h'.ascending fun m => (h.mem m).trans (h'.mem m).symm

theorem lists_nil : Lists (∅ : Set M) [] where
  nodup := List.nodup_nil
  ascending := List.Pairwise.nil
  mem _ := iff_of_false List.not_mem_nil (Set.notMem_empty _)

/-- A message of a listed id changes nothing. -/
theorem insertSorted_of_id {m : M} (h : id m ∈ l.map id) : insertSorted l m = l := by
  obtain ⟨m', hm', hid⟩ := List.mem_map.1 h
  unfold insertSorted
  rw [if_pos (List.any_eq_true.2 ⟨m', hm', decide_eq_true hid⟩)]

/-- A message of another id is sorted in. -/
theorem insertSorted_of_new {m : M} (h : id m ∉ l.map id) :
    insertSorted l m = sortMessages (l ++ [m]) := by
  unfold insertSorted
  rw [if_neg fun hany => ?_]
  obtain ⟨m', hm', hid⟩ := List.any_eq_true.1 hany
  exact h (List.mem_map.2 ⟨m', hm', of_decide_eq_true hid⟩)

/-- The list grows exactly if the id is another. -/
theorem length_insertSorted_ne_iff {m : M} :
    (insertSorted l m).length ≠ l.length ↔ id m ∉ l.map id := by
  by_cases h : id m ∈ l.map id
  · rw [insertSorted_of_id h]
    exact iff_of_false (fun hne => hne rfl) (not_not_intro h)
  · rw [insertSorted_of_new h, (sortMessages_perm _).length_eq, List.length_append]
    exact iff_of_true (Nat.succ_ne_self l.length) h

/-- **One message more.** -/
theorem Lists.insertSorted (h : Lists S l) {m : M} (hS : Consistent (insert m S)) :
    Lists (insert m S) (MessageLists.insertSorted l m) := by
  by_cases hid : MessageLists.id m ∈ l.map MessageLists.id
  · obtain ⟨m', hm', hsame⟩ := List.mem_map.1 hid
    have heq : m' = m :=
      hS m' (Set.mem_insert_of_mem m ((h.mem m').1 hm')) m (Set.mem_insert m S) hsame
    rw [insertSorted_of_id hid, Set.insert_eq_of_mem (heq ▸ (h.mem m').1 hm')]
    exact h
  · have hnodup : ((l ++ [m]).map MessageLists.id).Nodup := by
      rw [List.map_append, List.map_singleton]
      exact h.nodup.append (List.nodup_singleton _)
        (List.disjoint_singleton.2 hid)
    rw [insertSorted_of_new hid]
    exact
      { nodup := ((sortMessages_perm _).map _).nodup_iff.2 hnodup
        ascending := ascending_sortMessages hnodup
        mem := fun a => by
          rw [(sortMessages_perm _).mem_iff, List.mem_append, List.mem_singleton, h.mem a,
            Set.mem_insert_iff, or_comm] }

/-- **Any number of messages more.** -/
theorem Lists.foldl_insertSorted (h : Lists S l) (ms : List M)
    (hS : Consistent (S ∪ {m | m ∈ ms})) :
    Lists (S ∪ {m | m ∈ ms}) (ms.foldl MessageLists.insertSorted l) := by
  induction ms generalizing S l with
  | nil =>
      have hset : S ∪ {m | m ∈ ([] : List M)} = S := by simp
      rw [hset]
      exact h
  | cons m ms ih =>
      have hset : S ∪ {a | a ∈ m :: ms} = insert m S ∪ {a | a ∈ ms} := by
        ext a
        simp only [Set.mem_union, Set.mem_ofPred_eq, List.mem_cons, Set.mem_insert_iff]
        tauto
      rw [hset] at hS ⊢
      refine ih (h.insertSorted fun a ha b hb => hS a (Or.inl ha) b (Or.inl hb)) hS

/-- **What `mergeUnique` returns** lists what it was given, also under a map that keeps ids and
dates. -/
theorem lists_mergeUnique {N : Type} [Message N] {f : N → M} (hid : ∀ e, id (f e) = id e)
    (hdate : ∀ e, created_at (f e) = created_at e) {es : List N}
    (h : Consistent {m | m ∈ es.map f}) :
    Lists {m | m ∈ es.map f} ((mergeUnique es).map f) := by
  have hkey : ∀ e, key (f e) = key e := fun e => by
    unfold key
    rw [hid, hdate]
  have hfind : ∀ i e, (i, e) ∈ (Replica.collect id (fun e => e) es).rows ↔
      Replica.latest id (fun e => e) es i = some e := fun i e => by
    rw [← Table.find?_eq_some_iff, Replica.find?_collect]
  have hrow : ∀ r ∈ (Replica.collect id (fun e => e) es).rows, r.2 ∈ es ∧ id r.2 = r.1 := by
    rintro ⟨i, e⟩ hr
    obtain ⟨e', he', hi, rfl⟩ := Replica.exists_of_latest id (fun e => e) ((hfind i e).1 hr)
    exact ⟨he', hi⟩
  have hids : (((Replica.collect id (fun e => e) es).rows.map Prod.snd).map id).Nodup := by
    have hkeys : ((Replica.collect id (fun e => e) es).rows.map Prod.snd).map id =
        (Replica.collect id (fun e => e) es).rows.map Prod.fst := by
      rw [List.map_map]
      exact List.map_congr_left fun r hr => (hrow r hr).2
    rw [hkeys]
    exact (Replica.collect id (fun e => e) es).nodup
  have hperm := sortMessages_perm ((Replica.collect id (fun e => e) es).rows.map Prod.snd)
  change Lists _ ((sortMessages ((Replica.collect id (fun e => e) es).rows.map Prod.snd)).map f)
  exact
    { nodup := by
        have hsame : ∀ l : List N, (l.map f).map id = l.map id := fun l => by
          rw [List.map_map]
          exact List.map_congr_left fun e _ => hid e
        rw [hsame]
        exact (hperm.map id).nodup_iff.2 hids
      ascending := List.pairwise_map.2 ((ascending_sortMessages hids).imp fun {a b} hab => by
        rwa [hkey, hkey])
      mem := fun m => by
        rw [List.mem_map, Set.mem_ofPred_eq, List.mem_map]
        constructor
        · rintro ⟨e, he, rfl⟩
          obtain ⟨r, hr, rfl⟩ := List.mem_map.1 (hperm.mem_iff.1 he)
          exact ⟨r.2, (hrow r hr).1, rfl⟩
        · rintro ⟨e, he, rfl⟩
          obtain ⟨e', hlatest⟩ := Option.isSome_iff_exists.1
            ((Replica.isSome_latest id (fun e => e)).2 (List.mem_map_of_mem he : id e ∈ es.map id))
          have hmem := (hfind (id e) e').2 hlatest
          have hsame : f e' = f e := h (f e') (List.mem_map_of_mem (hrow _ hmem).1) (f e)
            (List.mem_map_of_mem he) (by rw [hid, hid, (hrow _ hmem).2])
          exact ⟨e', hperm.mem_iff.2 (List.mem_map.2 ⟨_, hmem, rfl⟩), hsame⟩ }

/-! ### What the slices have in common -/

/-- The messages of the rooms, what is unread there, and the room that is open. -/
structure SliceState (M : Type) where
  messages : String → Option (List M)
  unread : String → Option ℕ
  active : Option String

/-- No room. -/
def SliceState.empty : SliceState M :=
  { messages := fun _ => none, unread := fun _ => none, active := none }

/-- What the slices do. -/
inductive Change (M : Type)
  | receive (room : String) (message : M)
  | loadHistory (room : String) (messages : List M)
  | open (room : Option String)
  | clearUnread (room : String)
  | reset

namespace SliceState

/-- `state.messages[room] ?? []`. -/
def list (s : SliceState M) (room : String) : List M := (s.messages room).getD []

/-- What `channelMessageReceived` and `messageReceived` do. -/
def receive (s : SliceState M) (room : String) (message : M) : SliceState M :=
  let existing := s.list room
  let next := insertSorted existing message
  if next.length ≠ existing.length then
    { s with
      messages := Function.update s.messages room (some next)
      unread :=
        if some room ≠ s.active then
          Function.update s.unread room (some ((s.unread room).getD 0 + 1))
        else s.unread }
  else s

/-- What `channelHistoryLoaded` and `historyLoaded` do. -/
def loadHistory (s : SliceState M) (room : String) (messages : List M) : SliceState M :=
  { s with
    messages := Function.update s.messages room (some (messages.foldl insertSorted (s.list room))) }

/-- One change. -/
def step (s : SliceState M) : Change M → SliceState M
  | .receive room message => s.receive room message
  | .loadHistory room messages => s.loadHistory room messages
  | .open room => { s with active := room }
  | .clearUnread room => { s with unread := Function.update s.unread room (some 0) }
  | .reset => empty

end SliceState

/-- The messages a room was given, after one change more; a reset forgets them. -/
def Change.deliver (room : String) (S : Set M) : Change M → Set M
  | .receive r message => if r = room then insert message S else S
  | .loadHistory r messages => if r = room then S ∪ {m | m ∈ messages} else S
  | .open _ | .clearUnread _ => S
  | .reset => ∅

/-- The messages a room was given. -/
def delivered (room : String) (changes : List (Change M)) : Set M :=
  changes.foldl (Change.deliver room) ∅

namespace SliceState

omit [Message M] in
/-- What rooms list once a list is put in the place of one. -/
theorem list_of_update {s t : SliceState M} {r : String} {l : List M}
    (h : t.messages = Function.update s.messages r (some l)) (room : String) :
    t.list room = if r = room then l else s.list room := by
  unfold list
  rw [h]
  split_ifs with hroom
  · rw [← hroom, Function.update_self]
    rfl
  · rw [Function.update_of_ne (Ne.symm hroom)]

/-- Receiving a message sorts it in, whether its id is new or not. -/
theorem list_receive (s : SliceState M) (r room : String) (m : M) :
    (s.receive r m).list room = if r = room then insertSorted (s.list room) m else s.list room := by
  have hnext : (if r = room then insertSorted (s.list r) m else s.list room) =
      if r = room then insertSorted (s.list room) m else s.list room := by
    split_ifs with hroom
    · rw [hroom]
    · rfl
  rw [← hnext]
  unfold receive
  by_cases hid : id m ∈ (s.list r).map id
  · rw [if_neg fun hlen => length_insertSorted_ne_iff.1 hlen hid, insertSorted_of_id hid]
    split_ifs with hroom
    · rw [hroom]
    · rfl
  · rw [if_pos (length_insertSorted_ne_iff.2 hid)]
    exact list_of_update rfl room

theorem list_loadHistory (s : SliceState M) (r room : String) (ms : List M) :
    (s.loadHistory r ms).list room =
      if r = room then ms.foldl insertSorted (s.list room) else s.list room := by
  refine (list_of_update rfl room).trans ?_
  split_ifs with hroom
  · rw [hroom]
  · rfl

/-- **One change** keeps what a room lists. -/
theorem lists_step {s : SliceState M} {room : String} {S : Set M} (h : Lists S (s.list room))
    (change : Change M) (hS : Consistent (change.deliver room S)) :
    Lists (change.deliver room S) ((s.step change).list room) := by
  cases change with
  | receive r m =>
      rw [Change.deliver] at hS ⊢
      rw [step, list_receive]
      split_ifs at hS ⊢
      · exact h.insertSorted hS
      · exact h
  | loadHistory r ms =>
      rw [Change.deliver] at hS ⊢
      rw [step, list_loadHistory]
      split_ifs at hS ⊢
      · exact h.foldl_insertSorted ms hS
      · exact h
  | «open» r => exact h
  | clearUnread r => exact h
  | reset => exact lists_nil

/-- **What a room lists is known from the set of what it was given.** -/
theorem lists_run {room : String} {changes : List (Change M)}
    (hS : Consistent (delivered room changes)) :
    Lists (delivered room changes) ((changes.foldl step (empty : SliceState M)).list room) := by
  induction changes using List.reverseRecOn with
  | nil => exact lists_nil
  | append_singleton changes change ih =>
      unfold delivered at hS ih ⊢
      rw [List.foldl_append, List.foldl_cons, List.foldl_nil] at hS ⊢
      rw [List.foldl_append, List.foldl_cons, List.foldl_nil]
      -- what was given before is given still, unless the change is a reset
      by_cases hkept : changes.foldl (Change.deliver room) ∅ ⊆
          change.deliver room (changes.foldl (Change.deliver room) ∅)
      · exact lists_step (ih fun a ha b hb => hS a (hkept ha) b (hkept hb)) change hS
      · cases change with
        | receive r m =>
            refine absurd (fun a ha => ?_) hkept
            rw [Change.deliver]
            split_ifs
            · exact Set.mem_insert_of_mem m ha
            · exact ha
        | loadHistory r ms =>
            refine absurd (fun a ha => ?_) hkept
            rw [Change.deliver]
            split_ifs
            · exact Or.inl ha
            · exact ha
        | «open» r => exact absurd (fun a ha => ha) hkept
        | clearUnread r => exact absurd (fun a ha => ha) hkept
        | reset => exact lists_nil

/-- A message of a listed id is not received again. -/
theorem receive_of_id {s : SliceState M} {room : String} {m : M}
    (h : id m ∈ (s.list room).map id) : s.receive room m = s := by
  unfold receive
  rw [if_neg fun hlen => length_insertSorted_ne_iff.1 hlen h]

/-- A history of listed ids changes no list. -/
theorem list_loadHistory_of_ids {s : SliceState M} {room : String} {ms : List M}
    (h : ∀ m ∈ ms, id m ∈ (s.list room).map id) (r : String) :
    (s.loadHistory room ms).list r = s.list r := by
  rw [list_loadHistory]
  split_ifs with hroom
  · subst hroom
    induction ms with
    | nil => rfl
    | cons m ms ih =>
        rw [List.foldl_cons, insertSorted_of_id (h m List.mem_cons_self)]
        exact ih fun m' hm' => h m' (List.mem_cons_of_mem m hm')
  · rfl

end SliceState

/-! ### The slices -/

/-- `ChatChannelState`. -/
structure ChatChannelState where
  id : String
  group_id : String
  relay_url : String
  name : String
  about : String
  admins : List Pubkey
  members : List Pubkey
  deriving DecidableEq

/-- `ChatState`; `active` is `activeChannelId`. -/
structure ChatState extends SliceState ChatMessage where
  channels : String → Option ChatChannelState
  synced : String → Option Bool

/-- The actions of `chatSlice`. -/
inductive ChatAction
  | channelStateLoaded (channel : ChatChannelState)
  | channelMessageReceived (channel_id : String) (message : ChatMessage)
  | channelHistoryLoaded (channel_id : String) (messages : List ChatMessage)
  | channelSynced (channel_id : String)
  | channelUnreadCleared (channel_id : String)
  | activeChannelChanged (channel_id : Option String)
  | chatReset

/-- `initialState` of `chatSlice`. -/
def chatInitialState : ChatState :=
  { SliceState.empty with channels := fun _ => none, synced := fun _ => none }

/-- The rest of a change of the open room: an id is truthy if it is not empty. -/
def openRoom (s : SliceState M) (room : Option String) : SliceState M :=
  let s := { s with active := room }
  match room with
  | some id => if id ≠ "" then { s with unread := Function.update s.unread id (some 0) } else s
  | none => s

/-- `chatSlice.reducer`. -/
def chatReducer (s : ChatState) : ChatAction → ChatState
  | .channelStateLoaded channel =>
    { s with
      channels := Function.update s.channels channel.id (some channel), active := some channel.id }
  | .channelMessageReceived channel_id message =>
    { s with toSliceState := s.toSliceState.receive channel_id message }
  | .channelHistoryLoaded channel_id messages =>
    { s with toSliceState := s.toSliceState.loadHistory channel_id messages }
  | .channelSynced channel_id =>
    { s with synced := Function.update s.synced channel_id (some true) }
  | .channelUnreadCleared channel_id =>
    { s with unread := Function.update s.unread channel_id (some 0) }
  | .activeChannelChanged channel_id => { s with toSliceState := openRoom s.toSliceState channel_id }
  | .chatReset => chatInitialState

/-- `DmState`; `active` is `activeConversationId`. -/
structure DmState extends SliceState DmMessage where
  conversations : Conversations

/-- The actions of `dmSlice`. -/
inductive DmAction
  | conversationAdded (conversation : DmConversation)
  | messageReceived (conversation_id : String) (message : DmMessage)
  | historyLoaded (conversation_id : String) (messages : List DmMessage)
  | activeConversationChanged (conversation_id : Option String)
  | dmReset

/-- `initialState` of `dmSlice`. -/
def dmInitialState : DmState := { SliceState.empty with conversations := Table.empty }

/-- `dmSlice.reducer`. -/
def dmReducer (s : DmState) : DmAction → DmState
  | .conversationAdded conversation =>
    { s with conversations := Chat.conversationAdded s.conversations conversation }
  | .messageReceived conversation_id message =>
    { s with toSliceState := s.toSliceState.receive conversation_id message }
  | .historyLoaded conversation_id messages =>
    { s with toSliceState := s.toSliceState.loadHistory conversation_id messages }
  | .activeConversationChanged conversation_id =>
    { s with toSliceState := openRoom s.toSliceState conversation_id }
  | .dmReset => dmInitialState

/-- The changes that opening a room is. -/
def openChanges : Option String → List (Change M)
  | some id => if id ≠ "" then [.open (some id), .clearUnread id] else [.open (some id)]
  | none => [.open none]

/-- The changes of an action. -/
def ChatAction.changes : ChatAction → List (Change ChatMessage)
  | channelStateLoaded channel => [.open (some channel.id)]
  | channelMessageReceived channel_id message => [.receive channel_id message]
  | channelHistoryLoaded channel_id messages => [.loadHistory channel_id messages]
  | channelSynced _ => []
  | channelUnreadCleared channel_id => [.clearUnread channel_id]
  | activeChannelChanged channel_id => openChanges channel_id
  | chatReset => [.reset]

/-- The changes of an action. -/
def DmAction.changes : DmAction → List (Change DmMessage)
  | conversationAdded _ => []
  | messageReceived conversation_id message => [.receive conversation_id message]
  | historyLoaded conversation_id messages => [.loadHistory conversation_id messages]
  | activeConversationChanged conversation_id => openChanges conversation_id
  | dmReset => [.reset]

theorem foldl_openChanges (s : SliceState M) (room : Option String) :
    (openChanges room).foldl SliceState.step s = openRoom s room := by
  unfold openChanges openRoom
  cases room with
  | none => rfl
  | some id =>
      dsimp only
      split_ifs <;> rfl

/-- A slice: what it has in common with the other, and the two actions that deliver. -/
structure Slice (M : Type) [Message M] where
  State : Type
  Action : Type
  initial : State
  reducer : State → Action → State
  rooms : State → SliceState M
  changes : Action → List (Change M)
  received : String → M → Action
  historyLoaded : String → List M → Action
  rooms_initial : rooms initial = SliceState.empty
  rooms_reducer : ∀ s a, rooms (reducer s a) = (changes a).foldl SliceState.step (rooms s)
  changes_received : ∀ room m, changes (received room m) = [.receive room m]
  changes_historyLoaded : ∀ room ms, changes (historyLoaded room ms) = [.loadHistory room ms]

/-- `chatSlice`. -/
def chatSlice : Slice ChatMessage where
  State := ChatState
  Action := ChatAction
  initial := chatInitialState
  reducer := chatReducer
  rooms := ChatState.toSliceState
  changes := ChatAction.changes
  received := .channelMessageReceived
  historyLoaded := .channelHistoryLoaded
  rooms_initial := rfl
  rooms_reducer s a := by
    cases a with
    | activeChannelChanged channel_id => exact (foldl_openChanges _ channel_id).symm
    | _ => rfl
  changes_received _ _ := rfl
  changes_historyLoaded _ _ := rfl

/-- `dmSlice`. -/
def dmSlice : Slice DmMessage where
  State := DmState
  Action := DmAction
  initial := dmInitialState
  reducer := dmReducer
  rooms := DmState.toSliceState
  changes := DmAction.changes
  received := .messageReceived
  historyLoaded := .historyLoaded
  rooms_initial := rfl
  rooms_reducer s a := by
    cases a with
    | activeConversationChanged conversation_id => exact (foldl_openChanges _ conversation_id).symm
    | _ => rfl
  changes_received _ _ := rfl
  changes_historyLoaded _ _ := rfl

namespace Slice

variable (D : Slice M)

/-- A run of actions. -/
def run (actions : List D.Action) : D.State := actions.foldl D.reducer D.initial

/-- What a room lists after a run. -/
def list (actions : List D.Action) (room : String) : List M := (D.rooms (D.run actions)).list room

/-- The messages a room was given in a run, since the last reset. -/
def delivered (room : String) (actions : List D.Action) : Set M :=
  MessageLists.delivered room (actions.flatMap D.changes)

theorem rooms_run (actions : List D.Action) :
    D.rooms (D.run actions) = (actions.flatMap D.changes).foldl SliceState.step SliceState.empty := by
  unfold run
  rw [List.foldl_flatMap, ← D.rooms_initial]
  generalize D.initial = s
  induction actions generalizing s with
  | nil => rfl
  | cons a actions ih => rw [List.foldl_cons, List.foldl_cons, ih, D.rooms_reducer]

theorem lists_run {room : String} {actions : List D.Action}
    (hS : Consistent (D.delivered room actions)) :
    Lists (D.delivered room actions) (D.list actions room) := by
  unfold list
  rw [D.rooms_run]
  exact SliceState.lists_run hS

/-- What is listed depends only on the set of messages that were delivered, if equal ids carry equal
contents. -/
structure Determined : Prop where
  /-- Each id is there once. -/
  once : ∀ actions room, Consistent (D.delivered room actions) →
    ((D.list actions room).map id).Nodup
  /-- The list ascends strictly by date and id. -/
  ascending : ∀ actions room, Consistent (D.delivered room actions) →
    (D.list actions room).Pairwise fun a b => created_at a < created_at b ∨
      created_at a = created_at b ∧ JsonText.units (id a) < JsonText.units (id b)
  /-- It is the same for every order, mix and batching of the actions. -/
  same : ∀ actions actions' room, Consistent (D.delivered room actions) →
    D.delivered room actions = D.delivered room actions' →
      D.list actions room = D.list actions' room
  /-- It is what `mergeUnique` returns. -/
  merged : ∀ actions room (ms : List M), Consistent (D.delivered room actions) →
    D.delivered room actions = {m | m ∈ ms} → D.list actions room = mergeUnique ms
  /-- Delivering a message again changes no list and no count of what is unread. -/
  again : ∀ actions room m, Consistent (D.delivered room actions) →
    m ∈ D.delivered room actions → ∀ r,
      D.list (actions ++ [D.received room m]) r = D.list actions r ∧
        (D.rooms (D.run (actions ++ [D.received room m]))).unread r =
          (D.rooms (D.run actions)).unread r
  /-- Nor does loading messages again. -/
  loaded_again : ∀ actions room (ms : List M), Consistent (D.delivered room actions) →
    (∀ m ∈ ms, m ∈ D.delivered room actions) → ∀ r,
      D.list (actions ++ [D.historyLoaded room ms]) r = D.list actions r ∧
        (D.rooms (D.run (actions ++ [D.historyLoaded room ms]))).unread r =
          (D.rooms (D.run actions)).unread r

theorem rooms_run_concat (actions : List D.Action) (a : D.Action) :
    D.rooms (D.run (actions ++ [a])) =
      (D.changes a).foldl SliceState.step (D.rooms (D.run actions)) := by
  unfold run
  rw [List.foldl_append, List.foldl_cons, List.foldl_nil, D.rooms_reducer]

/-- **Every slice lists the set of what it was given.** -/
theorem determined : D.Determined where
  once actions room hS := (D.lists_run hS).nodup
  ascending actions room hS := (D.lists_run hS).ascending.imp key_lt_iff.1
  same actions actions' room hS heq := by
    have h' : Lists (D.delivered room actions) (D.list actions' room) := by
      rw [heq] at hS ⊢
      exact D.lists_run hS
    exact (D.lists_run hS).ext h'
  merged actions room ms hS heq := by
    have hlist := D.lists_run hS
    have hmap : ms.map (fun m => m) = ms := List.map_id'' (fun _ => rfl) ms
    have hmerge := @lists_mergeUnique M _ M _ (fun m => m) (fun _ => rfl) (fun _ => rfl) ms
      (by rw [hmap, ← heq]; exact hS)
    rw [hmap, List.map_id'' fun _ => rfl, ← heq] at hmerge
    exact hlist.ext hmerge
  again actions room m hS hm r := by
    have hid : id m ∈ ((D.rooms (D.run actions)).list room).map id :=
      List.mem_map_of_mem (((D.lists_run hS).mem m).2 hm)
    have hsame : D.rooms (D.run (actions ++ [D.received room m])) = D.rooms (D.run actions) := by
      rw [rooms_run_concat, D.changes_received]
      exact SliceState.receive_of_id hid
    unfold list
    rw [hsame]
    exact ⟨rfl, rfl⟩
  loaded_again actions room ms hS hms r := by
    have hids : ∀ m ∈ ms, id m ∈ ((D.rooms (D.run actions)).list room).map id := fun m hm =>
      List.mem_map_of_mem (((D.lists_run hS).mem m).2 (hms m hm))
    have hstep : D.rooms (D.run (actions ++ [D.historyLoaded room ms])) =
        (D.rooms (D.run actions)).loadHistory room ms := by
      rw [rooms_run_concat, D.changes_historyLoaded]
      rfl
    unfold list
    rw [hstep]
    exact ⟨SliceState.list_loadHistory_of_ids hids r, rfl⟩

end Slice

/-- **Message lists depend only on the set of messages**, in both slices; and the events that are
merged for a channel make the list of its messages. -/
theorem messageLists_determined :
    chatSlice.Determined ∧ dmSlice.Determined ∧
      ∀ (actions : List ChatAction) (channelId : String) (events : List Subscriptions.Event),
        Consistent (chatSlice.delivered channelId actions) →
        chatSlice.delivered channelId actions = {m | m ∈ events.map (toChatMessage channelId)} →
        chatSlice.list actions channelId = (mergeUnique events).map (toChatMessage channelId) := by
  refine ⟨chatSlice.determined, dmSlice.determined, fun actions channelId events hS heq => ?_⟩
  have hlist : Lists _ (chatSlice.list actions channelId) := chatSlice.lists_run hS
  rw [heq] at hlist hS
  exact hlist.ext (@lists_mergeUnique ChatMessage _ Subscriptions.Event _ (toChatMessage channelId)
    (fun _ => rfl) (fun _ => rfl) events hS)

/-- A message of a channel. -/
def demoMessage (id : String) (created_at : ℤ) : ChatMessage :=
  { id, channel_id := "c", sender_pubkey := "", created_at, content := "" }

theorem messageLists_determined_two :
    chatSlice.list [.channelMessageReceived "c" (demoMessage "b" 2),
        .channelHistoryLoaded "c" [demoMessage "a" 2, demoMessage "b" 2]] "c" =
      chatSlice.list [.channelHistoryLoaded "c" [demoMessage "a" 2],
        .channelMessageReceived "c" (demoMessage "b" 2)] "c" := by
  have hleft : chatSlice.delivered "c" [.channelMessageReceived "c" (demoMessage "b" 2),
      .channelHistoryLoaded "c" [demoMessage "a" 2, demoMessage "b" 2]] =
        {demoMessage "a" 2, demoMessage "b" 2} := by
    ext m
    simp [Slice.delivered, delivered, chatSlice, ChatAction.changes, Change.deliver]
  have hright : chatSlice.delivered "c" [.channelHistoryLoaded "c" [demoMessage "a" 2],
      .channelMessageReceived "c" (demoMessage "b" 2)] = {demoMessage "a" 2, demoMessage "b" 2} := by
    ext m
    simp [Slice.delivered, delivered, chatSlice, ChatAction.changes, Change.deliver, or_comm]
  refine messageLists_determined.1.same _ _ "c" ?_ (hleft.trans hright.symm)
  rw [hleft]
  rintro a (rfl | rfl) b (rfl | rfl) hid
  · rfl
  · exact absurd hid (by decide)
  · exact absurd hid (by decide)
  · rfl

end MessageLists
end Chat
end Pwa
end SentinelMesh
