/-
# What becomes of a gift wrap

`useInboxSync` of `hooks/useInboxSync.ts`, `processGiftWrap` of `services/chat/inbox.ts`, and
`hasGiftWrap`, `markGiftWrapSeen` and `putMessage` of `services/chat/chatStore.ts`: the handler of a
delivery, as a task, for any number of deliveries to any number of mounts of the hook.

Every operation may fail, and then the handler stops there; a crash is the failure of what all
handlers of a page do next.  The handler marks a wrap as seen, then looks whether the hook has been
unmounted, encrypts the text and writes the message.  A handler that stops in between leaves a mark
without a message, and redelivery passes the wrap over (`lost_at_unmount`).  Where none does,
a wrap that is marked has its message stored, or a handler of it is still on its way
(`kept_or_in_flight`).

The events of the relay have ids that are digests: no two that verify share one (`Relay`).
-/

import SentinelMesh.Pwa.Chat.LocalKey
import SentinelMesh.Pwa.Chat.Messages
import Mathlib.Logic.Function.Basic

namespace SentinelMesh
namespace Pwa
namespace Chat
namespace Inbox

open Lib Lib.Task Lib.Async

/-! ### The store and its operations -/

/-- `ChatDeliveryState`. -/
inductive DeliveryState
  | pending
  | sent
  | delivered
  | failed
  deriving DecidableEq

/-- `StoredMessage`. -/
structure StoredMessage where
  id : String
  conversation_id : String
  sender_pubkey : Pubkey
  created_at : ℕ
  kind : ℕ
  ciphertext : LocalKey.Ciphertext
  delivery_state : DeliveryState
  deriving DecidableEq

/-- The stores `gift_wraps`, by the ids that have a row, `messages` and `crypto`; and of each mount
of the hook the set `seen` and the flag `disposed`. -/
structure InboxStore where
  giftWraps : List String
  messages : String → Option StoredMessage
  crypto : LocalKey.CryptoStore
  seen : ℕ → List String
  disposed : ℕ → Bool

/-- What a handler waits for, and what the page does at once. -/
inductive Op
  | seenHas (mount : ℕ) (id : String)
  | seenAdd (mount : ℕ) (id : String)
  | getGiftWrap (id : String)
  | putGiftWrap (id : String)
  | unwrapMessage (wrap : Wrap)
  | roomConversationId (participants : List Pubkey)
  | readDisposed (mount : ℕ)
  | crypto (op : LocalKey.Op)
  | putMessage (message : StoredMessage)
  | dispose (mount : ℕ)

/-- What it answers. -/
def Op.Ans : Op → Type
  | seenHas _ _ | getGiftWrap _ | readDisposed _ => Bool
  | unwrapMessage _ => Option UnwrappedMessage
  | roomConversationId _ => String
  | crypto op => op.Res
  | seenAdd _ _ | putGiftWrap _ | putMessage _ | dispose _ => Unit

variable (lib : Libraries) (me : Pubkey)

/-- What it answers and does, for the identity `me`. -/
def answer : (op : Op) → InboxStore → op.Ans × InboxStore
  | .seenHas mount id, s => ((s.seen mount).contains id, s)
  | .seenAdd mount id, s => ((), { s with seen := Function.update s.seen mount (id :: s.seen mount) })
  | .getGiftWrap id, s => (s.giftWraps.contains id, s)
  | .putGiftWrap id, s => ((), { s with giftWraps := id :: s.giftWraps })
  | .unwrapMessage wrap, s => (Chat.unwrapMessage lib me wrap, s)
  | .roomConversationId participants, s => (conversationIdFor lib.sha256 participants, s)
  | .readDisposed mount, s => (s.disposed mount, s)
  | .crypto op, s =>
    ((LocalKey.answer op s.crypto).1, { s with crypto := (LocalKey.answer op s.crypto).2 })
  | .putMessage message, s =>
    ((), { s with messages := Function.update s.messages message.id (some message) })
  | .dispose mount, s => ((), { s with disposed := Function.update s.disposed mount true })

/-! ### The handler -/

/-- A function of the page; `none` is a rejection. -/
abbrev InboxM := OptionT (Task Op fun op => Option op.Ans)

/-- `hasGiftWrap`. -/
def hasGiftWrap (outerId : String) : InboxM Bool := attempt (Op.getGiftWrap outerId)

/-- `markGiftWrapSeen`. -/
def markGiftWrapSeen (outerId : String) : InboxM Bool := do
  let existing : Bool ← attempt (Op.getGiftWrap outerId)
  if existing then pure false
  else
    attempt (Op.putGiftWrap outerId)
    pure true

/-- `isSeen`, of a mount. -/
def isSeen (mount : ℕ) (id : String) : InboxM Bool := do
  let has : Bool ← attempt (Op.seenHas mount id)
  if has then pure true else hasGiftWrap id

/-- `markSeen`, of a mount. -/
def markSeen (mount : ℕ) (id : String) : InboxM Unit := do
  attempt (Op.seenAdd mount id)
  let _ ← markGiftWrapSeen id
  pure ()

/-- `ProcessedInboxMessage`. -/
structure ProcessedInboxMessage where
  conversationId : String
  participants : List Pubkey
  senderPubkey : Pubkey
  content : String
  created_at : ℕ
  rumorId : String
  wrapId : String
  deriving DecidableEq

/-- The rest of `processGiftWrap`, once the wrap is unwrapped. -/
def processUnwrapped (wrap : Wrap) (markSeen : String → InboxM Unit) :
    Option UnwrappedMessage → InboxM (Option ProcessedInboxMessage)
  | none => pure none
  | some unwrapped => do
    let conversationId : String ← attempt (Op.roomConversationId unwrapped.participants)
    markSeen wrap.id
    pure (some
      { conversationId, participants := unwrapped.participants
        senderPubkey := unwrapped.rumor.pubkey, content := unwrapped.rumor.content
        created_at := unwrapped.rumor.created_at, rumorId := unwrapped.rumor.id
        wrapId := wrap.id })

/-- `processGiftWrap`. -/
def processGiftWrap (wrap : Wrap) (isSeen : String → InboxM Bool) (markSeen : String → InboxM Unit) :
    InboxM (Option ProcessedInboxMessage) := do
  if wrap.kind ≠ nip59KindGiftWrap then pure none
  else
    let seen ← isSeen wrap.id
    if seen then pure none
    else
      let unwrapped : Option UnwrappedMessage ← attempt (Op.unwrapMessage wrap)
      processUnwrapped wrap markSeen unwrapped

/-- The code points of a text. -/
def codePoints (s : String) : LocalKey.Text :=
  s.toList.map fun c => ⟨c.toNat % 0x110000, Nat.mod_lt _ (Nat.succ_pos _)⟩

/-- The row of a message. -/
def storedMessage (processed : ProcessedInboxMessage) (encrypted : LocalKey.Ciphertext) :
    StoredMessage :=
  { id := processed.rumorId, conversation_id := processed.conversationId
    sender_pubkey := processed.senderPubkey, created_at := processed.created_at, kind := 14
    ciphertext := encrypted, delivery_state := .delivered }

/-- The rest of the handler, once the wrap is processed. -/
def keepProcessed (mount : ℕ) : Option ProcessedInboxMessage → InboxM Unit
  | none => pure ()
  | some processed => do
    let disposed : Bool ← attempt (Op.readDisposed mount)
    if disposed then pure ()
    else
      let encrypted ← OptionT.mk
        ((LocalKey.encryptLocalPlaintext (codePoints processed.content)).lift Op.crypto fun _ r => r)
      attempt (Op.putMessage (storedMessage processed encrypted))

/-- The handler of a delivery, up to what it dispatches. -/
def deliver (mount : ℕ) (wrap : Wrap) : InboxM Unit := do
  let processed ← processGiftWrap wrap (isSeen mount) (markSeen mount)
  keepProcessed mount processed

/-! ### Calls -/

/-- What the relay sends: events that the relay library has verified have ids that are digests, and
so have rumors. -/
structure Relay where
  events : Set Wrap
  ids : ∀ w ∈ events, ∀ w' ∈ events, w.verifies = true → w'.verifies = true → w.id = w'.id → w = w'
  rumors : ∀ w ∈ events, ∀ w' ∈ events, ∀ m m', Chat.unwrapMessage lib me w = some m →
    Chat.unwrapMessage lib me w' = some m' → m.rumor.id = m'.rumor.id → m = m'

variable {lib me}

/-- What happens to the hook. -/
inductive Call (relay : Relay lib me)
  | deliver (mount : ℕ) (wrap : relay.events)
  | unmount (mount : ℕ)

/-- The calls of one origin. -/
def system (relay : Relay lib me) :
    System InboxStore (Call relay) Op (fun op => Option op.Ans) Fate (Option Unit) where
  body
    | .deliver mount wrap => (deliver mount wrap).run
    | .unmount mount => (attempt (Op.dispose mount) : InboxM Unit).run
  perform _ _ := attempted (answer lib me)

/-- What has happened to one origin. -/
def happened (relay : Relay lib me) (s : InboxStore) (as : List (Act (Call relay) Fate)) :
    Pool InboxStore (Call relay) Op (fun op => Option op.Ans) (Option Unit) :=
  run (step (system relay)) (Pool.init s) as

/-- What is made of a message that was unwrapped. -/
def processed (lib : Libraries) (wrap : Wrap) (m : UnwrappedMessage) : ProcessedInboxMessage :=
  { conversationId := conversationIdFor lib.sha256 m.participants, participants := m.participants
    senderPubkey := m.rumor.pubkey, content := m.rumor.content, created_at := m.rumor.created_at
    rumorId := m.rumor.id, wrapId := wrap.id }

/-- The store `messages` holds the message of a wrap. -/
def Stored (lib : Libraries) (wrap : Wrap) (m : UnwrappedMessage) (s : InboxStore) : Prop :=
  ∃ c, s.messages m.rumor.id = some (storedMessage (processed lib wrap m) c) ∧
    c.plain = LocalKey.textEncode (codePoints m.rumor.content)

/-- Every wrap that is marked as seen and valid for the identity has its message stored. -/
def Kept (relay : Relay lib me) (s : InboxStore) : Prop :=
  ∀ w ∈ relay.events, ∀ m, Chat.unwrapMessage lib me w = some m → w.id ∈ s.giftWraps →
    Stored lib w m s

/-- The handler goes on past its mark: the hook is not unmounted, and nothing fails. -/
def GoesOn {relay : Relay lib me} (_ : Call relay) (op : Op) (x : Fate) (s : InboxStore) : Prop :=
  match op with
  | .readDisposed mount => x = .succeeds ∧ s.disposed mount = false
  | .crypto _ | .putMessage _ => x = .succeeds
  | _ => True

instance {relay : Relay lib me} (c : Call relay) (op : Op) (x : Fate) (s : InboxStore) :
    Decidable (GoesOn c op x s) :=
  match op with
  | .readDisposed mount => inferInstanceAs (Decidable (x = .succeeds ∧ s.disposed mount = false))
  | .crypto _ | .putMessage _ => inferInstanceAs (Decidable (x = .succeeds))
  | .seenHas _ _ | .seenAdd _ _ | .getGiftWrap _ | .putGiftWrap _ | .unwrapMessage _
  | .roomConversationId _ | .dispose _ => isTrue trivial

/-! ### Marks -/

/-- By thread, the wrap it has marked and not yet stored. -/
abbrev Marks := ℕ → Option String

/-- The history of marks. -/
def record {relay : Relay lib me} (n : ℕ) (_ : Call relay) (op : Op) (x : Fate) (_ : InboxStore)
    (g : Marks) : Marks :=
  match op, x with
  | .putGiftWrap id, .succeeds => Function.update g n (some id)
  | .putMessage _, .succeeds => Function.update g n none
  | _, _ => g

/-- A wrap that is marked has its message stored, or a thread has marked it and is to store it. -/
def markDiscipline (relay : Relay lib me) :
    Discipline (InboxStore × Marks) (Call relay) Op Fate where
  Inv s := ∀ w ∈ relay.events, ∀ m, Chat.unwrapMessage lib me w = some m → w.id ∈ s.1.giftWraps →
    Stored lib w m s.1 ∨ ∃ n, s.2 n = some w.id
  Rely n s s' := s'.2 n = s.2 n
  Cond _ c op x s := GoesOn c op x s.1
  Local n i s := ∀ id, s.2 n = some id → ∃ mount, ∃ w : relay.events, ∃ b,
    i = some (Call.deliver mount w, b) ∧ w.1.id = id ∧ w.1.verifies = true
  refl _ _ := rfl
  trans _ _ _ _ h h' := h'.trans h
  stays _ _ _ _ h hown id hid := hown id (h.symm.trans hid)

/-- Operations that leave the marks and the messages. -/
def Op.Quiet : Op → Prop
  | putGiftWrap _ | putMessage _ => False
  | _ => True

variable {relay : Relay lib me} {n : ℕ} {i : Call relay × InboxStore × Marks}

/-- The calls, with the history of marks. -/
abbrev marked (relay : Relay lib me) :
    System (InboxStore × Marks) (Call relay) Op (fun op => Option op.Ans) Fate (Option Unit) :=
  (system relay).withHistory record

/-- What an operation does: it fails, or it does what it does and is recorded. -/
theorem perform_cases {op : Op} {x : Fate} {s s' : InboxStore × Marks} {r : Option op.Ans}
    (h : (marked relay).perform n i.1 op x s = some (r, s')) :
    (x = .fails ∧ r = none ∧ s' = (s.1, record n i.1 op x s.1 s.2)) ∨
      (x = .succeeds ∧ r = some (answer lib me op s.1).1 ∧
        s' = ((answer lib me op s.1).2, record n i.1 op x s.1 s.2)) :=
  history_cases h

/-- What is not recorded, and leaves marks and messages, is as good as nothing. -/
theorem guarantees_of_same {s s' : InboxStore × Marks} (hinv : (markDiscipline relay).Inv s)
    (hown : (markDiscipline relay).Local n (some i) s) (hgift : s'.1.giftWraps = s.1.giftWraps)
    (hmessages : s'.1.messages = s.1.messages) (hmarks : s'.2 = s.2) :
    (markDiscipline relay).Guarantees n i s s' where
  inv w hw m hm hseen := by
    rw [hgift] at hseen
    rw [Stored, hmessages, hmarks]
    exact hinv w hw m hm hseen
  others m _ := congrFun hmarks m
  own id hid := hown id (by rwa [hmarks] at hid)

theorem guarantees_of_quiet (op : Op) (hquiet : op.Quiet) {x : Fate} {s s' : InboxStore × Marks}
    {r : Option op.Ans} (hinv : (markDiscipline relay).Inv s)
    (hown : (markDiscipline relay).Local n (some i) s)
    (h : (marked relay).perform n i.1 op x s = some (r, s')) :
    (markDiscipline relay).Guarantees n i s s' ∧ s'.2 = s.2 := by
  have hrecord : record n i.1 op x s.1 s.2 = s.2 := by
    cases op with
    | putGiftWrap id => exact hquiet.elim
    | putMessage message => exact hquiet.elim
    | _ => rfl
  rcases perform_cases h with ⟨-, -, rfl⟩ | ⟨-, -, rfl⟩
  · exact ⟨guarantees_of_same hinv hown rfl rfl hrecord, hrecord⟩
  · refine ⟨guarantees_of_same hinv hown ?_ ?_ hrecord, hrecord⟩
    all_goals
      cases op with
      | putGiftWrap id => exact hquiet.elim
      | putMessage message => exact hquiet.elim
      | _ => rfl

/-- An operation that leaves marks and messages is safe if what follows is. -/
theorem safe_quiet {α : Type} {Q : α → InboxStore × Marks → Prop} (op : Op) (hquiet : op.Quiet)
    {k : Option op.Ans → Task Op (fun op => Option op.Ans) α} {s : InboxStore × Marks}
    (hk : ∀ s₁ r s', r = none ∨ r = some (answer lib me op s₁).1 → s'.2 n = s.2 n →
      (markDiscipline relay).Inv s' → (markDiscipline relay).Local n (some i) s' →
      Safe (markDiscipline relay) (marked relay).perform n i Q (k r) s') :
    Safe (markDiscipline relay) (marked relay).perform n i Q (.call op k) s := by
  intro s₁ hinv hown hrely x r s₂ _ hperform
  obtain ⟨hguar, hmarks⟩ := guarantees_of_quiet op hquiet hinv hown hperform
  have hr : r = none ∨ r = some (answer lib me op s₁.1).1 := by
    rcases perform_cases hperform with ⟨-, hr, -⟩ | ⟨-, hr, -⟩
    · exact Or.inl hr
    · exact Or.inr hr
  exact ⟨hguar, hk s₁.1 r s₂ hr ((congrFun hmarks n).trans hrely) hguar.inv hguar.own⟩

/-- What is said of the thread's own mark is stable. -/
theorem safe_marked {α : Type} {Q : α → InboxStore × Marks → Prop} {a : α} {s : InboxStore × Marks}
    (h : Q a s) (hQ : ∀ s', s'.2 n = s.2 n → Q a s → Q a s') :
    Safe (markDiscipline relay) (marked relay).perform n i Q (.done a) s :=
  safe_done h fun s' _ hrely => hQ s' hrely

/-- Looking for a mark leaves marks and messages. -/
theorem safe_isSeen {s : InboxStore × Marks} (mount : ℕ) (id : String) :
    Safe (markDiscipline relay) (marked relay).perform n i (fun _ s' => s'.2 n = s.2 n)
      (isSeen mount id).run s := by
  refine safe_quiet (.seenHas mount id) trivial fun _ r s' _ hs' _ _ => ?_
  have hstable : ∀ s₁ s₂ : InboxStore × Marks, s₂.2 n = s₁.2 n → s₁.2 n = s.2 n → s₂.2 n = s.2 n :=
    fun _ _ h h' => h.trans h'
  cases r with
  | none => exact safe_marked hs' (hstable s')
  | some has =>
      cases has with
      | true => exact safe_marked hs' (hstable s')
      | false =>
          refine safe_quiet (.getGiftWrap id) trivial fun _ r s'' _ hs'' _ _ => ?_
          have hmark : s''.2 n = s.2 n := hs''.trans hs'
          cases r with
          | none => exact safe_marked hmark (hstable s'')
          | some has => exact safe_marked hmark (hstable s'')

/-- A wrap that is valid verifies. -/
theorem verifies_of_unwrap {wrap : Wrap} {m : UnwrappedMessage}
    (h : Chat.unwrapMessage lib me wrap = some m) : wrap.verifies = true := by
  unfold Chat.unwrapMessage unwrapGiftWrap at h
  obtain ⟨rumor, hrumor, _⟩ := Option.bind_eq_some_iff.1 h
  obtain ⟨_, hguard, _⟩ := Option.bind_eq_some_iff.1 hrumor
  exact ((Option.guard_eq_some' _).1 hguard).1

/-- **Marking** leaves the thread with its mark, or with what it had. -/
theorem safe_markSeen {s : InboxStore × Marks} {mount : ℕ} {wrap : relay.events}
    (hcall : i.1 = .deliver mount wrap) {m : UnwrappedMessage}
    (hm : Chat.unwrapMessage lib me wrap = some m) (hnone : s.2 n = none) :
    Safe (markDiscipline relay) (marked relay).perform n i
      (fun a s' => (a = none → s'.2 n = none) ∧ (s'.2 n = none ∨ s'.2 n = some wrap.1.id))
      (markSeen mount wrap.1.id).run s := by
  have hunmarked : ∀ (a : Option Unit) {s' : InboxStore × Marks}, s'.2 n = none →
      Safe (markDiscipline relay) (marked relay).perform n i
        (fun a s' => (a = none → s'.2 n = none) ∧ (s'.2 n = none ∨ s'.2 n = some wrap.1.id))
        (.done a) s' := fun a s' h =>
    safe_marked ⟨fun _ => h, Or.inl h⟩ fun s'' hs'' _ => ⟨fun _ => hs''.trans h, Or.inl (hs''.trans h)⟩
  refine safe_quiet (.seenAdd mount wrap.1.id) trivial fun _ r s₁ _ hs₁ _ _ => ?_
  have hnone₁ : s₁.2 n = none := hs₁.trans hnone
  cases r with
  | none => exact hunmarked none hnone₁
  | some added =>
      refine safe_quiet (.getGiftWrap wrap.1.id) trivial fun _ r s₂ _ hs₂ _ _ => ?_
      have hnone₂ : s₂.2 n = none := hs₂.trans hnone₁
      cases r with
      | none => exact hunmarked none hnone₂
      | some existing =>
          cases existing with
          | true => exact hunmarked (some ()) hnone₂
          | false =>
              intro s₃ hinv hown hrely x r s₄ _ hperform
              have hnone₃ : s₃.2 n = none := hrely.trans hnone₂
              rcases perform_cases hperform with ⟨rfl, rfl, rfl⟩ | ⟨rfl, rfl, rfl⟩
              · exact ⟨guarantees_of_same hinv hown rfl rfl rfl, hunmarked none hnone₃⟩
              · have hmarked : record n i.1 (.putGiftWrap wrap.1.id) .succeeds s₃.1 s₃.2 n =
                    some wrap.1.id := Function.update_self ..
                refine ⟨⟨fun w hw m' hm' hseen => ?_, fun k hk => Function.update_of_ne hk _ _,
                  fun id hid => ?_⟩, ?_⟩
                · rcases List.mem_cons.1 hseen with heq | hseen
                  · exact Or.inr ⟨n, hmarked.trans (congrArg some heq.symm)⟩
                  · rcases hinv w hw m' hm' hseen with hstored | ⟨k, hk⟩
                    · exact Or.inl hstored
                    · have hne : k ≠ n := fun h => by
                        rw [h, hnone₃] at hk
                        cases hk
                      exact Or.inr ⟨k, (Function.update_of_ne hne _ _).trans hk⟩
                · refine ⟨mount, wrap, i.2, ?_, Option.some.inj (hmarked.symm.trans hid),
                    verifies_of_unwrap hm⟩
                  rw [← hcall]
                · refine safe_marked ⟨fun h => (nomatch h), Or.inr hmarked⟩ fun s' hs' _ => ?_
                  exact ⟨fun h => (nomatch h), Or.inr (hs'.trans hmarked)⟩

/-- **What is made of a wrap**: nothing, and the thread has marked nothing; or its message, and the
thread may have marked it. -/
theorem safe_processGiftWrap {s : InboxStore × Marks} {mount : ℕ} {wrap : relay.events}
    (hinv : (markDiscipline relay).Inv s) (hown : (markDiscipline relay).Local n (some i) s)
    (hcall : i.1 = .deliver mount wrap) (hnone : s.2 n = none) :
    Safe (markDiscipline relay) (marked relay).perform n i
      (fun a s' => match a with
        | some (some p) => (∃ m, Chat.unwrapMessage lib me wrap = some m ∧ p = processed lib wrap m) ∧
            (s'.2 n = none ∨ s'.2 n = some wrap.1.id)
        | _ => s'.2 n = none)
      (processGiftWrap wrap (isSeen mount) (markSeen mount)).run s := by
  unfold processGiftWrap
  by_cases hkind : wrap.1.kind ≠ nip59KindGiftWrap
  · rw [if_pos hkind]
    exact safe_marked hnone fun _ h h' => h.trans h'
  · rw [if_neg hkind]
    refine Safe.bindOption (P := fun _ s' => s'.2 n = none) hinv hown ?_
      (fun _ _ _ h h' => Eq.trans h h') fun seen s₁ hinv₁ hown₁ hnone₁ => ?_
    · refine (safe_isSeen mount wrap.1.id).mono fun a s' _ h => ?_
      cases a with
      | none => exact h.trans hnone
      | some seen => exact h.trans hnone
    · cases seen with
      | true => exact safe_marked hnone₁ fun _ h h' => h.trans h'
      | false =>
          refine safe_quiet (.unwrapMessage wrap) trivial fun _ r s₂ hr hs₂ _ _ => ?_
          have hnone₂ : s₂.2 n = none := hs₂.trans hnone₁
          cases r with
          | none => exact safe_marked hnone₂ fun _ h h' => h.trans h'
          | some unwrapped =>
              have hm : unwrapped = Chat.unwrapMessage lib me wrap :=
                hr.elim (fun h => nomatch h) fun h => Option.some.inj h
              cases unwrapped with
              | none => exact safe_marked hnone₂ fun _ h h' => h.trans h'
              | some m =>
                  refine safe_quiet (.roomConversationId m.participants) trivial
                    fun _ r s₃ hr hs₃ hinv₃ hown₃ => ?_
                  have hnone₃ : s₃.2 n = none := hs₃.trans hnone₂
                  cases r with
                  | none => exact safe_marked hnone₃ fun _ h h' => h.trans h'
                  | some id =>
                      have hid : id = conversationIdFor lib.sha256 m.participants :=
                        hr.elim (fun h => nomatch h) fun h => Option.some.inj h
                      refine Safe.bindOption (P := fun _ s' => s'.2 n = none ∨ s'.2 n = some wrap.1.id)
                        hinv₃ hown₃ ?_ (fun _ _ _ h h' => Eq.trans h h') fun _ s₄ _ _ hmark => ?_
                      · refine (safe_markSeen hcall hm.symm hnone₃).mono fun a s' _ h => ?_
                        cases a with
                        | none => exact h.1 rfl
                        | some _ => exact h.2
                      · refine safe_marked ⟨⟨m, hm.symm, ?_⟩, hmark⟩ fun s' hs' h => ⟨h.1, ?_⟩
                        · rw [hid]
                          rfl
                        · rw [hs']
                          exact h.2

/-- Storing the message of a wrap keeps what is stored, and settles its mark. -/
theorem inv_putMessage {s : InboxStore × Marks} (hinv : (markDiscipline relay).Inv s)
    {wrap : relay.events} {m : UnwrappedMessage} (hm : Chat.unwrapMessage lib me wrap = some m)
    (hmark : s.2 n = none ∨ s.2 n = some wrap.1.id) {c : LocalKey.Ciphertext}
    (hc : c.plain = LocalKey.textEncode (codePoints m.rumor.content)) :
    (markDiscipline relay).Inv
      ((answer lib me (.putMessage (storedMessage (processed lib wrap m) c)) s.1).2,
        Function.update s.2 n none) := by
  have hself : ∀ w ∈ relay.events, ∀ m', Chat.unwrapMessage lib me w = some m' →
      m'.rumor.id = m.rumor.id →
      Stored lib w m' (answer lib me (.putMessage (storedMessage (processed lib wrap m) c)) s.1).2 := by
    intro w hw m' hm' hid
    obtain rfl := relay.rumors w hw wrap.1 wrap.2 m' m hm' hm hid
    exact ⟨c, Function.update_self .., hc⟩
  intro w hw m' hm' hseen
  rcases hinv w hw m' hm' hseen with ⟨c', hrow, hc'⟩ | ⟨k, hk⟩
  · refine Or.inl ?_
    by_cases hid : m'.rumor.id = m.rumor.id
    · exact hself w hw m' hm' hid
    · exact ⟨c', (Function.update_of_ne hid _ _).trans hrow, hc'⟩
  · by_cases hkn : k = n
    · have hsame : w.id = wrap.1.id := by
        rw [hkn] at hk
        rcases hmark with hnone | hmark
        · exact nomatch hnone.symm.trans hk
        · exact Option.some.inj (hk.symm.trans hmark)
      have heq : w = wrap.1 := relay.ids w hw wrap.1 wrap.2 (verifies_of_unwrap hm')
        (verifies_of_unwrap hm) hsame
      refine Or.inl (hself w hw m' hm' ?_)
      rw [heq, hm] at hm'
      rw [Option.some.inj hm']
    · exact Or.inr ⟨k, (Function.update_of_ne hkn _ _).trans hk⟩

/-- **A handler that goes on past its mark** ends with nothing left to store. -/
theorem safe_deliver {s : InboxStore × Marks} {mount : ℕ} {wrap : relay.events}
    (hinv : (markDiscipline relay).Inv s) (hown : (markDiscipline relay).Local n (some i) s)
    (hcall : i.1 = .deliver mount wrap) (hnone : s.2 n = none) :
    Safe (markDiscipline relay) (marked relay).perform n i (fun _ s' => s'.2 n = none)
      (deliver mount wrap.1).run s := by
  unfold deliver
  refine Safe.bindOption (P := fun a s' => match a with
      | some p => (∃ m, Chat.unwrapMessage lib me wrap = some m ∧ p = processed lib wrap m) ∧
          (s'.2 n = none ∨ s'.2 n = some wrap.1.id)
      | none => s'.2 n = none) hinv hown ?_ (fun _ _ _ h h' => Eq.trans h h')
    fun p s₁ hinv₁ hown₁ hp => ?_
  · refine (safe_processGiftWrap hinv hown hcall hnone).mono fun a s' _ h => ?_
    match a with
    | none => exact h
    | some none => exact h
    | some (some p) => exact h
  · cases p with
    | none => exact safe_marked hp fun _ h h' => h.trans h'
    | some p =>
        obtain ⟨⟨m, hm, rfl⟩, hmark⟩ := hp
        intro s₂ hinv₂ hown₂ hrely x r s₃ hcond hperform
        obtain ⟨hguar, hmarks⟩ :=
          guarantees_of_quiet (.readDisposed mount) trivial hinv₂ hown₂ hperform
        have hdisposed : r = some false := by
          rcases perform_cases hperform with ⟨hx, -, -⟩ | ⟨-, hr, -⟩
          · exact nomatch hx.symm.trans hcond.1
          · exact hr.trans (congrArg some hcond.2)
        have hmark₃ : s₃.2 n = none ∨ s₃.2 n = some wrap.1.id := by
          rw [hmarks, show s₂.2 n = s₁.2 n from hrely]
          exact hmark
        refine ⟨hguar, ?_⟩
        rw [hdisposed]
        refine Safe.bindOption (P := fun c s' => (s'.2 n = none ∨ s'.2 n = some wrap.1.id) ∧
          c.plain = LocalKey.textEncode (codePoints m.rumor.content)) hguar.inv hguar.own ?_
          (fun _ _ _ h h' => Eq.trans h h') fun c s₄ hinv₄ hown₄ hc => ?_
        · refine (safe_lift (fun s => s.1.crypto) (fun s' => s'.2 n = none ∨ s'.2 n = some wrap.1.id)
            (fun s s' hrely h => ?_) (fun op x s r s' hinv hown hp hcond hperform => ?_) hmark₃
            (LocalKey.gives_encrypt (codePoints m.rumor.content))).mono fun b s' _ h => ?_
          · rw [show s'.2 n = s.2 n from hrely]
            exact h
          · obtain ⟨hguar, hmarks⟩ := guarantees_of_quiet (.crypto op) trivial hinv hown hperform
            refine ⟨hguar, by rwa [hmarks], (), (LocalKey.answer op s.1.crypto).1, ?_⟩
            rcases perform_cases hperform with ⟨hx, -, -⟩ | ⟨-, rfl, rfl⟩
            · exact nomatch hx.symm.trans hcond
            · exact ⟨rfl, rfl⟩
          · obtain ⟨hmark', c, rfl, hc⟩ := h
            exact ⟨hmark', hc⟩
        · intro s₅ hinv₅ hown₅ hrely x r s₆ hcond hperform
          have hmark₅ : s₅.2 n = none ∨ s₅.2 n = some wrap.1.id := by
            rw [show s₅.2 n = s₄.2 n from hrely]
            exact hc.1
          rcases perform_cases hperform with ⟨hx, -, -⟩ | ⟨rfl, rfl, rfl⟩
          · exact nomatch hx.symm.trans hcond
          · have hcleared : record n i.1 (.putMessage (storedMessage (processed lib wrap m) c))
                .succeeds s₅.1 s₅.2 n = none := Function.update_self ..
            refine ⟨⟨inv_putMessage hinv₅ hm hmark₅ hc.2, fun k hk => Function.update_of_ne hk _ _,
              fun id hid => nomatch hcleared.symm.trans hid⟩, ?_⟩
            exact safe_marked hcleared fun _ h h' => h.trans h'

/-- **Every call keeps to the marks**, wherever it begins. -/
theorem starts (relay : Relay lib me) :
    (markDiscipline relay).Starts (marked relay) fun n _ _ s => s.2 n = none := by
  intro n c s hinv hfresh
  have hnone : s.2 n = none := by
    cases hs : s.2 n with
    | none => rfl
    | some id =>
        obtain ⟨_, _, _, hcall, _⟩ := hfresh id hs
        cases hcall
  have hown : (markDiscipline relay).Local n (some (c, s)) s :=
    fun id hid => nomatch hnone.symm.trans hid
  refine ⟨hown, ?_⟩
  cases c with
  | deliver mount wrap => exact safe_deliver hinv hown rfl hnone
  | unmount mount =>
      refine safe_quiet (.dispose mount) trivial fun _ r s' _ hs' _ _ => ?_
      exact safe_marked (hs'.trans hnone) fun _ h h' => h.trans h'

/-- **A gift wrap is not consumed without its message**, where every handler goes on past its mark:
after every run, a wrap that is marked as seen and valid for the identity has its message stored,
or a handler of it is still on its way. -/
theorem kept_or_in_flight {s : InboxStore} (h₀ : Kept relay s) {as : List (Act (Call relay) Fate)}
    (hmeets : ∀ e ∈ events (step (system relay)) (Pool.init s) as, Meets GoesOn e.pre e.act)
    {w : relay.events} {m : UnwrappedMessage} (hvalid : Chat.unwrapMessage lib me w = some m)
    (hseen : w.1.id ∈ (happened relay s as).store.giftWraps) :
    Stored lib w m (happened relay s as).store ∨
      ∃ n mount, (happened relay s as).running n (.deliver mount w) := by
  have hinit : Sound (markDiscipline relay) (marked relay) (fun n _ _ s => s.2 n = none)
      (Pool.init (s, fun _ => none)) := by
    refine sound_init (fun w hw m hm hseen => Or.inl (h₀ w hw m hm hseen)) fun n id hid => ?_
    exact nomatch hid
  have hsound := sound_history rfl (starts relay) hinit hmeets
  have hforget : (run (step (marked relay)) (Pool.init (s, fun _ => none)) as).forget =
      happened relay s as := forget_run _ _ _
  generalize run (step (marked relay)) (Pool.init (s, fun _ => none)) as = p at hsound hforget
  rw [← hforget] at hseen ⊢
  rcases hsound.inv w w.2 m hvalid hseen with hstored | ⟨n, hmark⟩
  · exact Or.inl hstored
  · refine Or.inr ?_
    cases ht : p.threads[n]? with
    | none =>
        obtain ⟨_, _, _, hcall, _⟩ :=
          hsound.fresh n (List.getElem?_eq_none_iff.1 ht) w.1.id hmark
        cases hcall
    | some t =>
        obtain ⟨mount, w', b, hcall, hid, hverifies⟩ := hsound.own n t ht w.1.id hmark
        have heq : w' = w := Subtype.ext (relay.ids w'.1 w'.2 w.1 w.2 hverifies
          (verifies_of_unwrap hvalid) hid)
        refine ⟨n, mount, t.forget, ?_, ?_, fun a ha => ?_⟩
        · rw [getElem?_forget, ht]
          rfl
        · rw [← heq]
          exact (Prod.mk.inj (Option.some.inj hcall)).1
        · exact nomatch (hsound.ended ht ha).symm.trans hmark

/-! ### A message of two -/

/-- A message that is sent to a friend. -/
def demoBody : RumorBody := messageBody 5 (demoKey 'a') [demoKey 'b'] "hi"

/-- Its wrap. -/
def demoWrap : Wrap :=
  createWrap demoLibraries (createSeal (demoKey 'a') (createRumor demoLibraries demoBody) (demoKey 'b'))
    (demoKey 'b')

/-- What the friend reads. -/
def demoMessage : UnwrappedMessage :=
  { rumor := createRumor demoLibraries demoBody
    participants := normalizeParticipants [demoKey 'a', demoKey 'b'] }

theorem unwrapMessage_demoWrap :
    Chat.unwrapMessage demoLibraries (demoKey 'b') demoWrap = some demoMessage := by
  have hset : participantSet (createRumor demoLibraries demoBody) =
      some (normalizeParticipants [demoKey 'a', demoKey 'b']) :=
    participantSet_of_tags demoBody rfl rfl (List.cons_ne_nil _ _) (by decide)
      (List.forall_mem_singleton.2 (by decide)) (List.nodup_singleton _)
  exact unwrapMessage_createWrap demoBody (by decide) (by decide) hset
    (mem_normalizeParticipants_of_mem (by simp) (by decide))

/-- A relay that has nothing else. -/
def demoRelay : Relay demoLibraries (demoKey 'b') where
  events := {demoWrap}
  ids w hw w' hw' _ _ _ := hw.trans hw'.symm
  rumors w hw w' hw' m m' hm hm' _ := by
    rw [show w = demoWrap from hw] at hm
    rw [show w' = demoWrap from hw'] at hm'
    exact Option.some.inj (hm.symm.trans hm')

/-- A new device. -/
def newDevice : InboxStore :=
  { giftWraps := [], messages := fun _ => none, crypto := {}, seen := fun _ => []
    disposed := fun _ => false }

theorem kept_newDevice : Kept demoRelay newDevice := fun _ _ _ _ h => absurd h List.not_mem_nil

/-- The wrap is delivered, and the handler unwraps it. -/
def unwrapped : List (Act (Call demoRelay) Fate) :=
  [.start (.deliver 0 ⟨demoWrap, rfl⟩), .resume 0 .succeeds, .resume 0 .succeeds, .resume 0 .succeeds]

theorem happened_unwrapped : happened demoRelay newDevice unwrapped =
    { store := newDevice
      threads := [
        { call := .deliver 0 ⟨demoWrap, rfl⟩, began := newDevice
          task := (processUnwrapped demoWrap (markSeen 0) (some demoMessage) >>= keepProcessed 0).run }] } := by
  rw [← unwrapMessage_demoWrap]
  rfl

/-- The handler goes on to the end. -/
def goesOn : List (Act (Call demoRelay) Fate) := List.replicate 10 (.resume 0 .succeeds)

theorem kept_or_in_flight_demo :
    Stored demoLibraries demoWrap demoMessage
        (happened demoRelay newDevice (unwrapped ++ goesOn)).store ∨
      ∃ n mount, (happened demoRelay newDevice (unwrapped ++ goesOn)).running n
        (.deliver mount ⟨demoWrap, rfl⟩) := by
  have hmeets : ∀ e ∈ events (step (system demoRelay)) (Pool.init newDevice) (unwrapped ++ goesOn),
      Meets GoesOn e.pre e.act := by
    rw [events_append, List.forall_mem_append, ← happened, happened_unwrapped]
    exact ⟨by decide, by decide +kernel⟩
  have hgift : (happened demoRelay newDevice (unwrapped ++ goesOn)).store.giftWraps = [demoWrap.id] := by
    rw [happened, run_append, ← happened, happened_unwrapped]
    decide +kernel
  have hseen : demoWrap.id ∈ (happened demoRelay newDevice (unwrapped ++ goesOn)).store.giftWraps :=
    hgift ▸ List.mem_cons_self
  exact kept_or_in_flight kept_newDevice hmeets (w := ⟨demoWrap, rfl⟩)
    unwrapMessage_demoWrap hseen

/-- The page is left when the wrap is marked; the wrap is delivered again to the next one. -/
def leaves : List (Act (Call demoRelay) Fate) :=
  List.replicate 4 (.resume 0 .succeeds) ++
    [.start (.unmount 0), .resume 1 .succeeds, .resume 0 .succeeds,
      .start (.deliver 1 ⟨demoWrap, rfl⟩), .resume 2 .succeeds, .resume 2 .succeeds]

/-- **Not every wrap that is consumed is kept**: the hook is unmounted between the mark and the
look at it, and redelivery passes the wrap over. -/
theorem lost_at_unmount : ¬ ∀ (lib : Libraries) (me : Pubkey) (relay : Relay lib me) (s : InboxStore),
    Kept relay s → ∀ as : List (Act (Call relay) Fate), (happened relay s as).Settled →
      ∀ w ∈ relay.events, ∀ m, Chat.unwrapMessage lib me w = some m →
        w.id ∈ (happened relay s as).store.giftWraps → Stored lib w m (happened relay s as).store := by
  intro hclaim
  have hrun : happened demoRelay newDevice (unwrapped ++ leaves) =
      run (step (system demoRelay)) (happened demoRelay newDevice unwrapped) leaves := by
    rw [happened, run_append]
    rfl
  rw [happened_unwrapped] at hrun
  have hsettled : (happened demoRelay newDevice (unwrapped ++ leaves)).Settled := by
    rw [hrun]
    refine List.forall_mem_cons.2 ⟨⟨_, rfl⟩, List.forall_mem_cons.2 ⟨⟨_, rfl⟩, ?_⟩⟩
    exact List.forall_mem_singleton.2 ⟨_, rfl⟩
  have hgift : (happened demoRelay newDevice (unwrapped ++ leaves)).store.giftWraps = [demoWrap.id] := by
    rw [hrun]
    rfl
  have hseen : demoWrap.id ∈ (happened demoRelay newDevice (unwrapped ++ leaves)).store.giftWraps :=
    hgift ▸ List.mem_cons_self
  have hnone : (happened demoRelay newDevice (unwrapped ++ leaves)).store.messages
      demoMessage.rumor.id = none := by
    rw [hrun]
    rfl
  obtain ⟨c, hrow, -⟩ := hclaim demoLibraries (demoKey 'b') demoRelay newDevice
    kept_newDevice (unwrapped ++ leaves) hsettled demoWrap rfl demoMessage
    unwrapMessage_demoWrap hseen
  exact nomatch hnone.symm.trans hrow

end Inbox
end Chat
end Pwa
end SentinelMesh
