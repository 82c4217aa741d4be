/-
# Blocked senders

The lists of `services/chat/moderation.ts` beside the inbox of `Inbox`, over one set of stores,
for any calls and deliveries and any interleaving.

The lists are read and written back whole, with an `await` in between: of two calls that overlap
one may write without what the other has written (`lost_update`).  The handler of a delivery
reads neither list, so that what a blocked sender sends is stored and dispatched like the rest
(`blocked_kept`).  `suppressed` is what holds where the list is not read while another call is to
write it, an `unblockPubkey` reads before a `blockPubkey` of its key completes that it was called
before, and no message that has not been seen is looked at while its sender is blocked.
-/

import SentinelMesh.Pwa.Chat.Inbox

namespace SentinelMesh
namespace Pwa
namespace Chat
namespace Blocked

open Lib Lib.Task Lib.Async
open Inbox (InboxStore ProcessedInboxMessage isSeen markSeen processGiftWrap
  codePoints storedMessage)

/-! ### The stores and their operations -/

/-- The stores of the inbox, the store of preferences, as far as its values are lists of keys, and
the messages that were dispatched to the conversation store. -/
structure Stores where
  inbox : InboxStore
  prefs : String → Option (List Pubkey)
  dispatched : List ProcessedInboxMessage := []

/-- `BLOCKED_KEY`. -/
def blockedKey : String := "moderation:blocked_pubkeys"

/-- `MUTED_KEY`. -/
def mutedKey : String := "moderation:muted_pubkeys"

/-- The list of blocked keys, as it is stored. -/
def Stores.blocked (s : Stores) : List Pubkey := (s.prefs blockedKey).getD []

/-- What a function waits for, and what it does at once. -/
inductive Op
  | inbox (op : Inbox.Op)
  | getPreference (key : String)
  | setPreference (key : String) (value : List Pubkey)
  | dispatch (processed : ProcessedInboxMessage)

/-- What it answers. -/
def Op.Ans : Op → Type
  | inbox op => op.Ans
  | getPreference _ => Option (List Pubkey)
  | setPreference _ _ | dispatch _ => Unit

variable (lib : Libraries) (me : Pubkey)

/-- What it answers and does, for the identity `me`. -/
def answer : (op : Op) → Stores → op.Ans × Stores
  | .inbox op, s =>
    ((Inbox.answer lib me op s.inbox).1, { s with inbox := (Inbox.answer lib me op s.inbox).2 })
  | .getPreference key, s => (s.prefs key, s)
  | .setPreference key value, s => ((), { s with prefs := Function.update s.prefs key (some value) })
  | .dispatch processed, s => ((), { s with dispatched := s.dispatched ++ [processed] })

/-- A function of the page; `none` is a rejection. -/
abbrev PageM := OptionT (Task Op fun op => Option op.Ans)

/-! ### `moderation.ts` -/

/-- `[...new Set(list)]`. -/
def ofSet (list : List Pubkey) : List Pubkey :=
  list.foldl (fun set p => if p ∈ set then set else set ++ [p]) []

/-- `blockedPubkeys` and `mutedPubkeys`. -/
def pubkeysOf (key : String) : PageM (List Pubkey) := do
  let list : Option (List Pubkey) ← attempt (Op.getPreference key)
  pure (list.getD [])

/-- `isBlocked` and `isMuted`. -/
def isIn (key : String) (pubkey : Pubkey) : PageM Bool := do
  let list ← pubkeysOf key
  pure (decide (toAsciiLowercase pubkey ∈ list))

/-- `blockPubkey` and `mutePubkey`. -/
def add (key : String) (pubkey : Pubkey) : PageM Unit := do
  let list ← pubkeysOf key
  attempt (Op.setPreference key (ofSet (list ++ [toAsciiLowercase pubkey])))

/-- `unblockPubkey` and `unmutePubkey`. -/
def remove (key : String) (pubkey : Pubkey) : PageM Unit := do
  let list ← pubkeysOf key
  attempt (Op.setPreference key (list.filter fun p => decide (p ≠ toAsciiLowercase pubkey)))

/-- `isBlocked`. -/
def isBlocked (pubkey : Pubkey) : PageM Bool := isIn blockedKey pubkey

/-- `isMuted`. -/
def isMuted (pubkey : Pubkey) : PageM Bool := isIn mutedKey pubkey

/-- `blockPubkey`. -/
def blockPubkey (pubkey : Pubkey) : PageM Unit := add blockedKey pubkey

/-- `unblockPubkey`. -/
def unblockPubkey (pubkey : Pubkey) : PageM Unit := remove blockedKey pubkey

/-- `mutePubkey`. -/
def mutePubkey (pubkey : Pubkey) : PageM Unit := add mutedKey pubkey

/-- `unmutePubkey`. -/
def unmutePubkey (pubkey : Pubkey) : PageM Unit := remove mutedKey pubkey

/-! ### The handler -/

/-- A function of the inbox. -/
def ofInbox {α : Type} (t : Inbox.InboxM α) : PageM α :=
  OptionT.mk (t.run.embed Op.inbox fun (op : Inbox.Op) (r : Option op.Ans) => r)

/-- The rest of the handler of `useInboxSync`, once the wrap is processed. -/
def receive (mount : ℕ) : Option ProcessedInboxMessage → PageM Unit
  | none => pure ()
  | some processed => do
    let disposed : Bool ← attempt (Op.inbox (.readDisposed mount))
    if disposed then pure ()
    else
      let encrypted ← ofInbox (OptionT.mk
        ((LocalKey.encryptLocalPlaintext (codePoints processed.content)).lift Inbox.Op.crypto
          fun (op : LocalKey.Op) (r : Option op.Res) => r))
      attempt (Op.inbox (.putMessage (storedMessage processed encrypted)))
      attempt (Op.dispatch processed)

/-- The handler of a delivery; the conversation is added and the message received at once. -/
def deliver (mount : ℕ) (wrap : Wrap) : PageM Unit := do
  let processed ← ofInbox (processGiftWrap wrap (isSeen mount) (markSeen mount))
  receive mount processed

/-- What is called. -/
inductive Call
  | deliver (mount : ℕ) (wrap : Wrap)
  | unmount (mount : ℕ)
  | isBlocked (pubkey : Pubkey)
  | isMuted (pubkey : Pubkey)
  | blockPubkey (pubkey : Pubkey)
  | unblockPubkey (pubkey : Pubkey)
  | mutePubkey (pubkey : Pubkey)
  | unmutePubkey (pubkey : Pubkey)

/-- What a call returns. -/
inductive Outcome
  | returned
  | answered (b : Bool)
  deriving DecidableEq

/-- The calls of one origin. -/
def system : System Stores Call Op (fun op => Option op.Ans) Fate (Option Outcome) where
  body
    | .deliver mount wrap => OptionT.run do
      deliver mount wrap
      pure .returned
    | .unmount mount => OptionT.run do
      attempt (Op.inbox (.dispose mount))
      pure .returned
    | .isBlocked p => OptionT.run do
      let b ← isBlocked p
      pure (.answered b)
    | .isMuted p => OptionT.run do
      let b ← isMuted p
      pure (.answered b)
    | .blockPubkey p => OptionT.run do
      blockPubkey p
      pure .returned
    | .unblockPubkey p => OptionT.run do
      unblockPubkey p
      pure .returned
    | .mutePubkey p => OptionT.run do
      mutePubkey p
      pure .returned
    | .unmutePubkey p => OptionT.run do
      unmutePubkey p
      pure .returned
  perform _ _ := attempted (answer lib me)

/-! ### The history -/

/-- What is known beside the stores, of a key as the list has it: that it is blocked for good (no
`unblockPubkey` has begun to read since a `blockPubkey` completed), how often a `blockPubkey` has
completed, and how often an `unblockPubkey` has begun to read; which call is between the reading
and the writing of the list; and the messages that were stored or dispatched: by which call, from
whom, and how often an `unblockPubkey` of the sender had begun to read then. -/
structure Watch where
  standing : Pubkey → Bool := fun _ => false
  completed : Pubkey → ℕ := fun _ => 0
  lifted : Pubkey → ℕ := fun _ => 0
  editing : ℕ → Bool := fun _ => false
  kept : List (ℕ × Pubkey × ℕ) := []

/-- A call begins to read the list, or is done with it. -/
def Watch.edits (g : Watch) (n : ℕ) (b : Bool) : Watch :=
  { g with editing := Function.update g.editing n b }

/-- A key is blocked. -/
def Watch.blocks (g : Watch) (p : Pubkey) : Watch :=
  { g with
    standing := Function.update g.standing (toAsciiLowercase p) true
    completed := Function.update g.completed (toAsciiLowercase p)
      (g.completed (toAsciiLowercase p) + 1) }

/-- A key is about to be unblocked. -/
def Watch.lifts (g : Watch) (p : Pubkey) : Watch :=
  { g with
    standing := Function.update g.standing (toAsciiLowercase p) false
    lifted := Function.update g.lifted (toAsciiLowercase p) (g.lifted (toAsciiLowercase p) + 1) }

/-- A message of a sender is stored or dispatched. -/
def Watch.keeps (g : Watch) (n : ℕ) (sender : Pubkey) : Watch :=
  { g with kept := (n, toAsciiLowercase sender, g.lifted (toAsciiLowercase sender)) :: g.kept }

/-- The operation succeeds. -/
def succeeds (x : Fate) : Bool := decide (x = .succeeds)

/-- What is recorded. -/
def record (n : ℕ) (c : Call) (op : Op) (x : Fate) (_ : Stores) (g : Watch) : Watch :=
  match c, op, x with
  | .blockPubkey _, .getPreference _, x => g.edits n (succeeds x)
  | .unblockPubkey p, .getPreference _, x => (g.lifts p).edits n (succeeds x)
  | .blockPubkey p, .setPreference _ _, .succeeds => (g.blocks p).edits n false
  | .blockPubkey _, .setPreference _ _, .fails => g.edits n false
  | .unblockPubkey _, .setPreference _ _, _ => g.edits n false
  | _, .inbox (.putMessage message), .succeeds => g.keeps n message.sender_pubkey
  | _, .dispatch processed, .succeeds => g.keeps n processed.senderPubkey
  | _, _, _ => g

/-- The calls, with the history. -/
abbrev watched : System (Stores × Watch) Call Op (fun op => Option op.Ans) Fate (Option Outcome) :=
  (system lib me).withHistory record

/-- **The condition on a step.**  A call that is to change the list of blocked keys does not read it
while another is between the reading and the writing; and what a handler begins to look at while
the sender is blocked was seen before. -/
def Orderly (_ : ℕ) (c : Call) (op : Op) (x : Fate) (s : Stores × Watch) : Prop :=
  match c, op with
  | .blockPubkey _, .getPreference _ | .unblockPubkey _, .getPreference _ =>
    ∀ m, s.2.editing m = false
  | .deliver _ wrap, .inbox (.seenHas mount id) => x = .succeeds → ∀ m,
      Chat.unwrapMessage lib me wrap = some m →
        s.2.standing (toAsciiLowercase m.rumor.pubkey) = true →
          id ∈ s.1.inbox.seen mount ∨ id ∈ s.1.inbox.giftWraps
  | _, _ => True

/-- Blocked keys are in the list, one call at most is to write it, and what was kept was kept
before now. -/
structure Listed (s : Stores × Watch) : Prop where
  listed : ∀ p, s.2.standing p = true → p ∈ s.1.blocked
  alone : ∀ m n, s.2.editing m = true → s.2.editing n = true → m = n
  before : ∀ e ∈ s.2.kept, e.2.2 ≤ s.2.lifted e.2.1

/-- Since a moment a key has stayed blocked, or an `unblockPubkey` has begun to read. -/
structure Since (b s : Stores × Watch) : Prop where
  lifted : ∀ p, b.2.lifted p ≤ s.2.lifted p
  stands : ∀ p, b.2.standing p = true → s.2.standing p = true ∨ b.2.lifted p < s.2.lifted p

theorem Since.trans {b s s' : Stores × Watch} (h : Since b s) (h' : Since s s') : Since b s' where
  lifted p := (h.lifted p).trans (h'.lifted p)
  stands p hp := by
    rcases h.stands p hp with hp | hlt
    · exact (h'.stands p hp).imp_right (Nat.lt_of_le_of_lt (h.lifted p))
    · exact Or.inr (Nat.lt_of_lt_of_le hlt (h'.lifted p))

theorem since_of_eq {s s' : Stores × Watch} (h : s'.2 = s.2) : Since s s' where
  lifted p := (congrArg (fun g => g.lifted p) h).ge
  stands p hp := Or.inl ((congrArg (fun g => g.standing p) h).trans hp)

/-- What the others leave a call: the list while it is to write it, the marks, and what is known
of it. -/
structure Leaves (n : ℕ) (s s' : Stores × Watch) : Prop where
  since : Since s s'
  editing : s'.2.editing n = s.2.editing n
  list : s.2.editing n = true → s'.1.blocked = s.1.blocked
  standing : s.2.editing n = true → ∀ p, s'.2.standing p = true → s.2.standing p = true
  marks : ∀ id ∈ s.1.inbox.giftWraps, id ∈ s'.1.inbox.giftWraps
  kept : ∀ e ∈ s'.2.kept, e.1 = n → e ∈ s.2.kept

theorem Leaves.refl (n : ℕ) (s : Stores × Watch) : Leaves n s s where
  since := ⟨fun _ => Nat.le_refl _, fun _ => Or.inl⟩
  editing := rfl
  list _ := rfl
  standing _ _ h := h
  marks _ h := h
  kept _ h _ := h

theorem Leaves.trans {n : ℕ} {s s' s'' : Stores × Watch} (h : Leaves n s s')
    (h' : Leaves n s' s'') : Leaves n s s'' where
  since := h.since.trans h'.since
  editing := h'.editing.trans h.editing
  list hn := (h'.list (h.editing.trans hn)).trans (h.list hn)
  standing hn p hp := h.standing hn p (h'.standing (h.editing.trans hn) p hp)
  marks id hid := h'.marks id (h.marks id hid)
  kept e he hn := h.kept e (h'.kept e he hn) hn

/-- What a call keeps of a sender who was blocked when it began, it keeps after an `unblockPubkey` of
the sender has begun to read. -/
def Suppresses (n : ℕ) (b s : Stores × Watch) : Prop :=
  ∀ p k, (n, p, k) ∈ s.2.kept → b.2.standing p = true → b.2.lifted p < k

/-- How the calls use the stores. -/
def listDiscipline : Discipline (Stores × Watch) Call Op Fate where
  Inv := Listed
  Rely := Leaves
  Cond := Orderly lib me
  Local n i s := match i with
    | none => s.2.editing n = false ∧ ∀ e ∈ s.2.kept, e.1 ≠ n
    | some (_, b) => Since b s ∧ Suppresses n b s
  refl := Leaves.refl
  trans _ _ _ _ := Leaves.trans
  stays _ i _ _ h hown := match i with
    | none => ⟨h.editing.trans hown.1, fun e he hn => hown.2 e (h.kept e he hn) hn⟩
    | some _ => ⟨hown.1.trans h.since, fun p k hk => hown.2 p k (h.kept _ hk rfl)⟩

variable {lib me} {n : ℕ} {i : Call × Stores × Watch}

/-! ### What an operation does -/

/-- An operation fails, or does what it does; either is recorded. -/
theorem perform_cases {op : Op} {x : Fate} {s s' : Stores × Watch} {r : Option op.Ans}
    (h : (watched lib me).perform n i.1 op x s = some (r, s')) :
    (x = .fails ∧ r = none ∧ s' = (s.1, record n i.1 op x s.1 s.2)) ∨
      (x = .succeeds ∧ r = some (answer lib me op s.1).1 ∧
        s' = ((answer lib me op s.1).2, record n i.1 op x s.1 s.2)) :=
  history_cases h

/-- A step that leaves what the calls are to write, and keeps nothing new. -/
theorem guarantees_of_same {s s' : Stores × Watch} (hinv : Listed s) (hsince : Since i.2 s)
    (hkept : Suppresses n i.2 s) (hlist : s'.1.blocked = s.1.blocked)
    (hmarks : ∀ id ∈ s.1.inbox.giftWraps, id ∈ s'.1.inbox.giftWraps) (hwatch : s'.2 = s.2) :
    (listDiscipline lib me).Guarantees n i s s' := by
  have hsame : Since s s' := since_of_eq hwatch
  refine ⟨⟨fun p hp => ?_, fun m k hm hk => ?_, fun e he => ?_⟩, fun m _ => ⟨hsame, ?_, fun _ => hlist,
    fun _ p hp => ?_, hmarks, fun e he _ => ?_⟩, hsince.trans hsame, fun p k hk => ?_⟩
  · rw [hlist]
    exact hinv.listed p (hwatch ▸ hp)
  · rw [hwatch] at hm hk
    exact hinv.alone m k hm hk
  · rw [hwatch] at he ⊢
    exact hinv.before e he
  · rw [hwatch]
  · exact hwatch ▸ hp
  · exact hwatch ▸ he
  · exact hkept p k (hwatch ▸ hk)

/-- The sender was not blocked when a call began, or an `unblockPubkey` has begun to read since. -/
def Free (b : Stores × Watch) (sender : Pubkey) (s : Stores × Watch) : Prop :=
  b.2.standing (toAsciiLowercase sender) = true →
    b.2.lifted (toAsciiLowercase sender) < s.2.lifted (toAsciiLowercase sender)

theorem Free.since {b s s' : Stores × Watch} {sender : Pubkey} (hfree : Free b sender s)
    (h : Since s s') : Free b sender s' :=
  fun hp => Nat.lt_of_lt_of_le (hfree hp) (h.lifted _)

/-- A message is kept whose sender was not blocked when the call began, or has been unblocked. -/
theorem guarantees_of_keeps {s s' : Stores × Watch} (hinv : Listed s) (hsince : Since i.2 s)
    (hkept : Suppresses n i.2 s) {sender : Pubkey} (hfree : Free i.2 sender s)
    (hlist : s'.1.blocked = s.1.blocked)
    (hmarks : s'.1.inbox.giftWraps = s.1.inbox.giftWraps) (hwatch : s'.2 = s.2.keeps n sender) :
    (listDiscipline lib me).Guarantees n i s s' := by
  have hsame : Since s s' := by
    constructor
    · intro p
      rw [hwatch]
      exact Nat.le_refl _
    · intro p hp
      rw [hwatch]
      exact Or.inl hp
  refine ⟨⟨fun p hp => ?_, fun m k hm hk => ?_, fun e he => ?_⟩, fun m hm => ⟨hsame, ?_,
    fun _ => hlist, fun _ p hp => ?_, fun id hid => ?_, fun e he hem => ?_⟩, hsince.trans hsame,
    fun p k hk hp => ?_⟩
  · rw [hlist]
    rw [hwatch] at hp
    exact hinv.listed p hp
  · rw [hwatch] at hm hk
    exact hinv.alone m k hm hk
  · rw [hwatch] at he ⊢
    rcases List.mem_cons.1 he with rfl | he
    · exact Nat.le_refl _
    · exact hinv.before e he
  · rw [hwatch]
    rfl
  · rw [hwatch] at hp
    exact hp
  · rw [hmarks]
    exact hid
  · rw [hwatch] at he
    rcases List.mem_cons.1 he with rfl | he
    · exact absurd hem.symm hm
    · exact he
  · rw [hwatch] at hk
    rcases List.mem_cons.1 hk with heq | hk
    · obtain ⟨rfl, rfl⟩ := Prod.mk.inj (Prod.mk.inj heq).2
      exact hfree hp
    · exact hkept p k hk hp

/-- A step of the call that alone is to write the list. -/
theorem guarantees_of_edits {s s' : Stores × Watch} (hinv : Listed s) (hsince : Since i.2 s)
    (hkept : Suppresses n i.2 s) (halone : ∀ m, m ≠ n → s.2.editing m = false)
    (hinbox : s'.1.inbox = s.1.inbox) (hlisted : ∀ p, s'.2.standing p = true → p ∈ s'.1.blocked)
    (hstep : Since s s') {b : Bool} (hediting : s'.2.editing = Function.update s.2.editing n b)
    (hsame : s'.2.kept = s.2.kept) : (listDiscipline lib me).Guarantees n i s s' := by
  have hothers : ∀ m, m ≠ n → s'.2.editing m = s.2.editing m := by
    intro m hm
    rw [hediting]
    exact Function.update_of_ne hm _ _
  have honly : ∀ m, s'.2.editing m = true → m = n := by
    intro m hm
    by_contra hne
    rw [hothers m hne, halone m hne] at hm
    cases hm
  refine ⟨⟨hlisted, fun m k hm hk => (honly m hm).trans (honly k hk).symm, fun e he => ?_⟩,
    fun m hm => ⟨hstep, hothers m hm, fun hedit => ?_, fun hedit => ?_, fun id hid => ?_,
    fun e he _ => hsame ▸ he⟩, hsince.trans hstep, fun p k hk => hkept p k (hsame ▸ hk)⟩
  · exact (hinv.before e (hsame ▸ he)).trans (hstep.lifted _)
  · exact nomatch (halone m hm).symm.trans hedit
  · exact nomatch (halone m hm).symm.trans hedit
  · rw [hinbox]
    exact hid

/-! ### The handler -/

/-- A call that changes the list of blocked keys. -/
def Call.edits : Call → Bool
  | .blockPubkey _ | .unblockPubkey _ => true
  | _ => false

/-- Operations that leave the list and the history, in a call. -/
def Quiet (c : Call) : Op → Prop
  | .inbox (.putMessage _) | .dispatch _ => False
  | .inbox _ => True
  | .getPreference _ => c.edits = false
  | .setPreference key _ => c.edits = false ∧ key ≠ blockedKey

theorem record_of_quiet {c : Call} {op : Op} (h : Quiet c op) (x : Fate) (s : Stores) (g : Watch) :
    record n c op x s g = g := by
  cases op with
  | dispatch processed => exact h.elim
  | inbox op =>
      cases op with
      | putMessage message => exact h.elim
      | _ => cases c <;> rfl
  | getPreference key =>
      cases c with
      | blockPubkey p => exact nomatch h
      | unblockPubkey p => exact nomatch h
      | _ => rfl
  | setPreference key value =>
      cases c with
      | blockPubkey p => exact nomatch h.1
      | unblockPubkey p => exact nomatch h.1
      | _ => rfl

theorem blocked_of_quiet {c : Call} {op : Op} (h : Quiet c op) (s : Stores) :
    (answer lib me op s).2.blocked = s.blocked := by
  cases op with
  | setPreference key value =>
      exact congrArg (fun o => o.getD []) (Function.update_of_ne h.2.symm (some value) s.prefs)
  | _ => rfl

theorem marks_of_quiet {c : Call} {op : Op} (_ : Quiet c op) (s : Stores) :
    ∀ id ∈ s.inbox.giftWraps, id ∈ (answer lib me op s).2.inbox.giftWraps := by
  intro id hid
  cases op with
  | inbox op =>
      cases op with
      | putGiftWrap id' => exact List.mem_cons_of_mem _ hid
      | _ => exact hid
  | _ => exact hid

/-- A part of a call that keeps to the discipline. -/
abbrev SafeIn {α : Type} (lib : Libraries) (me : Pubkey) (n : ℕ) (i : Call × Stores × Watch)
    (Q : α → Stores × Watch → Prop) (t : Task Op (fun op => Option op.Ans) α)
    (s : Stores × Watch) : Prop :=
  Safe (listDiscipline lib me) (watched lib me).perform n i Q t s

/-- **What such an operation leaves.** -/
theorem guarantees_of_quiet (op : Op) (hquiet : Quiet i.1 op) {x : Fate} {s s' : Stores × Watch}
    {r : Option op.Ans} (hinv : Listed s) (hown : Since i.2 s ∧ Suppresses n i.2 s)
    (h : (watched lib me).perform n i.1 op x s = some (r, s')) :
    (listDiscipline lib me).Guarantees n i s s' ∧ s'.2 = s.2 ∧
      (r = none ∨ r = some (answer lib me op s.1).1) := by
  have hrecord : record n i.1 op x s.1 s.2 = s.2 := record_of_quiet hquiet x s.1 s.2
  rcases perform_cases h with ⟨-, hr, rfl⟩ | ⟨-, hr, rfl⟩
  · exact ⟨guarantees_of_same hinv hown.1 hown.2 rfl (fun _ h => h) hrecord, hrecord, Or.inl hr⟩
  · exact ⟨guarantees_of_same hinv hown.1 hown.2 (blocked_of_quiet hquiet s.1)
      (marks_of_quiet hquiet s.1) hrecord, hrecord, Or.inr hr⟩

/-- An operation that leaves the list and the history is safe, if what follows is. -/
theorem safe_quiet {α : Type} {Q : α → Stores × Watch → Prop} (op : Op) (hquiet : Quiet i.1 op)
    {k : Option op.Ans → Task Op (fun op => Option op.Ans) α} {s : Stores × Watch}
    (hk : ∀ s₁ r s', r = none ∨ r = some (answer lib me op s₁).1 → Since s s' → Listed s' →
      Since i.2 s' ∧ Suppresses n i.2 s' → SafeIn lib me n i Q (k r) s') :
    SafeIn lib me n i Q (.call op k) s := by
  intro s₁ hinv hown hrely x r s₂ _ hperform
  obtain ⟨hguar, hwatch, hr⟩ := guarantees_of_quiet op hquiet hinv hown hperform
  exact ⟨hguar, hk s₁.1 r s₂ hr (hrely.since.trans (since_of_eq hwatch)) hguar.inv hguar.own⟩

theorem safe_done_true {α : Type} {a : α} {s : Stores × Watch} :
    SafeIn lib me n i (fun _ _ => True) (.done a) s := fun _ _ _ _ => trivial

/-- A handler makes nothing of a wrap, or its sender is free. -/
def Screened (b : Stores × Watch) (a : Option (Option ProcessedInboxMessage)) (s : Stores × Watch) :
    Prop :=
  ∀ p, a = some (some p) → Free b p.senderPubkey s

theorem safe_screened {a : Option (Option ProcessedInboxMessage)} {s : Stores × Watch}
    (h : Screened i.2 a s) : SafeIn lib me n i (Screened i.2) (.done a) s :=
  safe_done h fun _ _ hrely h p hp => (h p hp).since hrely.since

/-- What is left of the processing once the wrap is unwrapped. -/
theorem safe_processUnwrapped (mount : ℕ) (wrap : Wrap) (m : UnwrappedMessage)
    {s : Stores × Watch} (hfree : Free i.2 m.rumor.pubkey s) :
    SafeIn lib me n i (Screened i.2)
      (ofInbox (Inbox.processUnwrapped wrap (markSeen mount) (some m))).run s := by
  have hnone : ∀ {s : Stores × Watch}, Screened i.2 none s := fun _ h => nomatch h
  refine safe_quiet (.inbox (.roomConversationId m.participants)) trivial
    fun _ r s₁ _ hsince₁ _ _ => ?_
  have hfree₁ : Free i.2 m.rumor.pubkey s₁ := hfree.since hsince₁
  cases r with
  | none => exact safe_screened hnone
  | some id =>
      refine safe_quiet (.inbox (.seenAdd mount wrap.id)) trivial fun _ r s₂ _ hsince₂ _ _ => ?_
      have hfree₂ : Free i.2 m.rumor.pubkey s₂ := hfree₁.since hsince₂
      cases r with
      | none => exact safe_screened hnone
      | some added =>
          refine safe_quiet (.inbox (.getGiftWrap wrap.id)) trivial fun _ r s₃ _ hsince₃ _ _ => ?_
          have hfree₃ : Free i.2 m.rumor.pubkey s₃ := hfree₂.since hsince₃
          cases r with
          | none => exact safe_screened hnone
          | some existing =>
              cases existing with
              | true =>
                  refine safe_screened fun p hp => ?_
                  obtain rfl := Option.some.inj (Option.some.inj hp)
                  exact hfree₃
              | false =>
                  refine safe_quiet (.inbox (.putGiftWrap wrap.id)) trivial
                    fun _ r s₄ _ hsince₄ _ _ => ?_
                  cases r with
                  | none => exact safe_screened hnone
                  | some put =>
                      refine safe_screened fun p hp => ?_
                      obtain rfl := Option.some.inj (Option.some.inj hp)
                      exact hfree₃.since hsince₄

/-- A wrap that is unwrapped has a free sender. -/
theorem safe_unwrapMessage (mount : ℕ) (wrap : Wrap) {s : Stores × Watch}
    (hfree : ∀ m, Chat.unwrapMessage lib me wrap = some m → Free i.2 m.rumor.pubkey s) :
    SafeIn lib me n i (Screened i.2)
      (ofInbox (do
        let unwrapped : Option UnwrappedMessage ← attempt (Inbox.Op.unwrapMessage wrap)
        Inbox.processUnwrapped wrap (markSeen mount) unwrapped)).run s := by
  refine safe_quiet (.inbox (.unwrapMessage wrap)) trivial fun s₁ r s₂ hr hsince _ _ => ?_
  rcases hr with rfl | rfl
  · exact safe_screened fun _ h => nomatch h
  · cases hm : Chat.unwrapMessage lib me wrap with
    | none =>
        have hanswer : (answer lib me (.inbox (.unwrapMessage wrap)) s₁).1 = none := hm
        rw [hanswer]
        exact safe_screened fun _ h => nomatch h
    | some m =>
        have hanswer : (answer lib me (.inbox (.unwrapMessage wrap)) s₁).1 = some m := hm
        rw [hanswer]
        exact safe_processUnwrapped mount wrap m ((hfree m hm).since hsince)

/-- An unseen wrap without a mark has a sender who is not blocked. -/
theorem free_of_unseen {mount : ℕ} {wrap : Wrap} (hcall : i.1 = .deliver mount wrap)
    {s : Stores × Watch} (hsince : Since i.2 s)
    (hcond : Orderly lib me n i.1 (.inbox (.seenHas mount wrap.id)) .succeeds s)
    (hseen : wrap.id ∉ s.1.inbox.seen mount) (hmark : wrap.id ∉ s.1.inbox.giftWraps)
    {m : UnwrappedMessage} (hm : Chat.unwrapMessage lib me wrap = some m) :
    Free i.2 m.rumor.pubkey s := by
  cases hstands : s.2.standing (toAsciiLowercase m.rumor.pubkey) with
  | true =>
      rw [hcall] at hcond
      exact absurd (hcond rfl m hm hstands) (not_or.2 ⟨hseen, hmark⟩)
  | false =>
      intro hbegan
      exact (hsince.stands _ hbegan).resolve_left (Bool.eq_false_iff.1 hstands)

/-- **What a handler makes of a wrap**: nothing, where its sender is blocked. -/
theorem safe_processGiftWrap {mount : ℕ} {wrap : Wrap} (hcall : i.1 = .deliver mount wrap)
    {s : Stores × Watch} : SafeIn lib me n i (Screened i.2)
      (ofInbox (processGiftWrap wrap (isSeen mount) (markSeen mount))).run s := by
  have hnone : ∀ {s : Stores × Watch}, Screened i.2 none s := fun _ h => nomatch h
  have hnothing : ∀ {s : Stores × Watch}, Screened i.2 (some none) s := fun _ h => nomatch h
  unfold ofInbox processGiftWrap
  by_cases hkind : wrap.kind ≠ nip59KindGiftWrap
  · rw [if_pos hkind]
    exact safe_screened hnothing
  · rw [if_neg hkind]
    intro s₁ hinv hown _ x r s₂ hcond hperform
    obtain ⟨hguar, hwatch, -⟩ :=
      guarantees_of_quiet (.inbox (.seenHas mount wrap.id)) trivial hinv hown hperform
    refine ⟨hguar, ?_⟩
    rcases perform_cases hperform with ⟨-, rfl, -⟩ | ⟨rfl, rfl, hs₂⟩
    · exact safe_screened hnone
    · cases hseen : (s₁.1.inbox.seen mount).contains wrap.id with
      | true =>
          have hanswer : (answer lib me (.inbox (.seenHas mount wrap.id)) s₁.1).1 = true := hseen
          rw [hanswer]
          exact safe_screened hnothing
      | false =>
          have hanswer : (answer lib me (.inbox (.seenHas mount wrap.id)) s₁.1).1 = false := hseen
          have hunseen : wrap.id ∉ s₁.1.inbox.seen mount :=
            fun hid => Bool.eq_false_iff.1 hseen (List.contains_iff_mem.2 hid)
          rw [hanswer]
          intro s₃ hinv₃ hown₃ hrely₃ x r s₄ _ hperform₃
          obtain ⟨hguar₃, hwatch₃, hr⟩ :=
            guarantees_of_quiet (.inbox (.getGiftWrap wrap.id)) trivial hinv₃ hown₃ hperform₃
          refine ⟨hguar₃, ?_⟩
          rcases hr with rfl | rfl
          · exact safe_screened hnone
          · cases hmarked : s₃.1.inbox.giftWraps.contains wrap.id with
            | true =>
                have hanswer : (answer lib me (.inbox (.getGiftWrap wrap.id)) s₃.1).1 = true :=
                  hmarked
                rw [hanswer]
                exact safe_screened hnothing
            | false =>
                have hanswer : (answer lib me (.inbox (.getGiftWrap wrap.id)) s₃.1).1 = false :=
                  hmarked
                have hsince : Since s₁ s₄ :=
                  (since_of_eq hwatch).trans (hrely₃.since.trans (since_of_eq hwatch₃))
                -- marks stay, so there was none at the look either
                have hmark : wrap.id ∉ s₁.1.inbox.giftWraps := by
                  intro hid
                  refine Bool.eq_false_iff.1 hmarked (List.contains_iff_mem.2 (hrely₃.marks _ ?_))
                  rw [hs₂]
                  exact hid
                rw [hanswer]
                exact safe_unwrapMessage mount wrap fun m hm =>
                  (free_of_unseen (n := n) hcall hown.1 hcond hunseen hmark hm).since hsince

/-- Encrypting leaves the sender free. -/
theorem safe_lift_free {Op₀ α : Type} {Res₀ : Op₀ → Type} {f : Op₀ → Inbox.Op}
    {g : ∀ op, Option (f op).Ans → Option (Res₀ op)}
    {f' : Inbox.Op → Op} {g' : ∀ op, Option (f' op).Ans → Option op.Ans} {sender : Pubkey}
    (hquiet : ∀ op, Quiet i.1 (f' (f op))) (t : Task Op₀ Res₀ α) {s : Stores × Watch}
    (hfree : Free i.2 sender s) :
    SafeIn lib me n i (fun _ => Free i.2 sender) ((t.lift f g).embed f' g') s := by
  rw [embed_lift]
  refine safe_lift_keeps (Free i.2 sender)
    (fun _ _ (hrely : Leaves n _ _) hfree => hfree.since hrely.since)
    (fun op x s r s' hinv hown hfree hperform => ?_) t hfree
  obtain ⟨hguar, hwatch, -⟩ := guarantees_of_quiet (f' (f op)) (hquiet op) hinv hown hperform
  exact ⟨hguar, hfree.since (since_of_eq hwatch)⟩

/-- A message of a free sender is stored or dispatched. -/
theorem safe_keeps {α : Type} {Q : α → Stores × Watch → Prop} (op : Op) {sender : Pubkey}
    {k : Option op.Ans → Task Op (fun op => Option op.Ans) α} {s : Stores × Watch}
    (hfails : ∀ s g, record n i.1 op .fails s g = g)
    (hkeeps : ∀ s g, record n i.1 op .succeeds s g = g.keeps n sender)
    (hlist : ∀ s, (answer lib me op s).2.blocked = s.blocked)
    (hmarks : ∀ s, (answer lib me op s).2.inbox.giftWraps = s.inbox.giftWraps)
    (hfree : Free i.2 sender s)
    (hk : ∀ r s', Free i.2 sender s' → SafeIn lib me n i Q (k r) s') :
    SafeIn lib me n i Q (.call op k) s := by
  intro s₁ hinv hown hrely x r s₂ _ hperform
  have hfree₁ : Free i.2 sender s₁ := hfree.since hrely.since
  rcases perform_cases hperform with ⟨rfl, rfl, rfl⟩ | ⟨rfl, rfl, rfl⟩
  · rw [hfails]
    exact ⟨guarantees_of_same hinv hown.1 hown.2 rfl (fun _ h => h) rfl, hk none _ hfree₁⟩
  · rw [hkeeps]
    exact ⟨guarantees_of_keeps hinv hown.1 hown.2 hfree₁ (hlist s₁.1) (hmarks s₁.1) rfl,
      hk _ _ hfree₁⟩

/-- **What a handler stores and dispatches** is of a free sender. -/
theorem safe_receive {mount : ℕ} {wrap : Wrap} (hcall : i.1 = .deliver mount wrap)
    {p : Option ProcessedInboxMessage} {s : Stores × Watch} (hp : Screened i.2 (some p) s) :
    SafeIn lib me n i (fun _ _ => True) (receive mount p).run s := by
  cases p with
  | none => exact safe_done_true
  | some p =>
      have hfree : Free i.2 p.senderPubkey s := hp p rfl
      refine safe_quiet (.inbox (.readDisposed mount)) trivial fun _ r s₁ _ hsince₁ hinv₁ hown₁ => ?_
      have hfree₁ : Free i.2 p.senderPubkey s₁ := hfree.since hsince₁
      cases r with
      | none => exact safe_done_true
      | some disposed =>
          cases disposed with
          | true => exact safe_done_true
          | false =>
              have hquiet : ∀ op, Quiet i.1 (.inbox (.crypto op)) := fun _ => trivial
              refine Safe.bindOption (P := fun _ => Free i.2 p.senderPubkey) hinv₁ hown₁
                ((safe_lift_free hquiet _ hfree₁).mono fun c s' _ h => ?_)
                (fun _ _ _ _ h => h) fun c s₂ _ _ hfree₂ => ?_
              · cases c with
                | none => trivial
                | some c => exact h
              · refine safe_keeps (.inbox (.putMessage (storedMessage p c)))
                  (fun _ _ => ?_) (fun _ _ => ?_) (fun _ => rfl) (fun _ => rfl) hfree₂
                  fun r s₃ hfree₃ => ?_
                · rw [hcall]
                  rfl
                · rw [hcall]
                  rfl
                · cases r with
                  | none => exact safe_done_true
                  | some put =>
                      refine safe_keeps (.dispatch p) (fun _ _ => ?_) (fun _ _ => ?_)
                        (fun _ => rfl) (fun _ => rfl) hfree₃ fun r s₄ _ => ?_
                      · rw [hcall]
                        rfl
                      · rw [hcall]
                        rfl
                      · cases r with
                        | none => exact safe_done_true
                        | some dispatched => exact safe_done_true

/-- **The handler** keeps to the discipline. -/
theorem safe_deliver {mount : ℕ} {wrap : Wrap} (hcall : i.1 = .deliver mount wrap)
    {s : Stores × Watch} (hinv : Listed s) (hown : Since i.2 s ∧ Suppresses n i.2 s) :
    SafeIn lib me n i (fun _ _ => True) (deliver mount wrap).run s := by
  refine Safe.bindOption (P := fun p => Screened i.2 (some p)) hinv hown
    ((safe_processGiftWrap hcall).mono fun a s' _ h => ?_) (fun _ _ _ _ h => h)
    fun p s₁ _ _ hp => safe_receive hcall hp
  cases a with
  | none => trivial
  | some p => exact h

/-! ### The calls that change the list -/

theorem mem_ofSet {list : List Pubkey} {p : Pubkey} : p ∈ ofSet list ↔ p ∈ list := by
  have hfold : ∀ (list set : List Pubkey),
      p ∈ list.foldl (fun set p => if p ∈ set then set else set ++ [p]) set ↔ p ∈ set ∨ p ∈ list := by
    intro list
    induction list with
    | nil => simp
    | cons q list ih =>
        intro set
        rw [List.foldl_cons, ih, List.mem_cons]
        split_ifs with hq
        · constructor
          · exact fun h => h.imp_right Or.inr
          · rintro (h | rfl | h)
            · exact Or.inl h
            · exact Or.inl hq
            · exact Or.inr h
        · rw [List.mem_append, List.mem_singleton, or_assoc]
  exact (hfold list []).trans (by simp)

/-- A call has read the list and is to write it. -/
def Reading (n : ℕ) (list : List Pubkey) (s : Stores × Watch) : Prop :=
  s.2.editing n = true ∧ s.1.blocked = list

theorem Reading.leaves {list : List Pubkey} {s s' : Stores × Watch} (h : Reading n list s)
    (hrely : Leaves n s s') : Reading n list s' :=
  ⟨hrely.editing.trans h.1, (hrely.list h.1).trans h.2⟩

theorem Reading.alone {list : List Pubkey} {s : Stores × Watch} (h : Reading n list s)
    (hinv : Listed s) : ∀ m, m ≠ n → s.2.editing m = false :=
  fun m hm => Bool.eq_false_iff.2 fun hedit => hm (hinv.alone m n hedit h.1)

theorem standing_blocks (g : Watch) (p q : Pubkey) :
    (g.blocks p).standing q = true ↔ q = toAsciiLowercase p ∨ g.standing q = true := by
  have heq : (g.blocks p).standing q = if q = toAsciiLowercase p then true else g.standing q :=
    Function.update_apply g.standing (toAsciiLowercase p) true q
  rw [heq]
  split_ifs with hq
  · simp [hq]
  · simp [hq]

theorem completed_blocks_self (g : Watch) (p : Pubkey) :
    (g.blocks p).completed (toAsciiLowercase p) = g.completed (toAsciiLowercase p) + 1 := by
  unfold Watch.blocks
  exact Function.update_self ..

theorem completed_blocks_of_ne (g : Watch) {p q : Pubkey} (h : q ≠ toAsciiLowercase p) :
    (g.blocks p).completed q = g.completed q := by
  unfold Watch.blocks
  exact Function.update_of_ne h _ _

theorem standing_lifts (g : Watch) (p q : Pubkey) :
    (g.lifts p).standing q = true ↔ q ≠ toAsciiLowercase p ∧ g.standing q = true := by
  have heq : (g.lifts p).standing q = if q = toAsciiLowercase p then false else g.standing q :=
    Function.update_apply g.standing (toAsciiLowercase p) false q
  rw [heq]
  split_ifs with hq
  · simp [hq]
  · simp [hq]

theorem lifted_lifts_self (g : Watch) (p : Pubkey) :
    (g.lifts p).lifted (toAsciiLowercase p) = g.lifted (toAsciiLowercase p) + 1 := by
  unfold Watch.lifts
  exact Function.update_self ..

theorem lifted_lifts_of_ne (g : Watch) {p q : Pubkey} (h : q ≠ toAsciiLowercase p) :
    (g.lifts p).lifted q = g.lifted q := by
  unfold Watch.lifts
  exact Function.update_of_ne h _ _

@[simp] theorem standing_edits (g : Watch) (n : ℕ) (b : Bool) : (g.edits n b).standing = g.standing :=
  rfl

@[simp] theorem completed_edits (g : Watch) (n : ℕ) (b : Bool) :
    (g.edits n b).completed = g.completed := rfl

@[simp] theorem lifted_edits (g : Watch) (n : ℕ) (b : Bool) : (g.edits n b).lifted = g.lifted := rfl

@[simp] theorem kept_edits (g : Watch) (n : ℕ) (b : Bool) : (g.edits n b).kept = g.kept := rfl

@[simp] theorem lifted_blocks (g : Watch) (p : Pubkey) : (g.blocks p).lifted = g.lifted := by
  rw [Watch.blocks]

@[simp] theorem kept_blocks (g : Watch) (p : Pubkey) : (g.blocks p).kept = g.kept := by
  rw [Watch.blocks]

@[simp] theorem completed_lifts (g : Watch) (p : Pubkey) : (g.lifts p).completed = g.completed := by
  rw [Watch.lifts]

@[simp] theorem kept_lifts (g : Watch) (p : Pubkey) : (g.lifts p).kept = g.kept := by
  rw [Watch.lifts]

/-- Blocking a key leaves the others as they were. -/
theorem since_blocks {s s' : Stores × Watch} {p : Pubkey}
    (hstanding : s'.2.standing = (s.2.blocks p).standing) (hlifted : s'.2.lifted = s.2.lifted) :
    Since s s' where
  lifted q := by rw [hlifted]
  stands q hq := by
    rw [hstanding]
    exact Or.inl ((standing_blocks _ _ _).2 (Or.inr hq))

/-- Beginning to unblock a key leaves the others as they were. -/
theorem since_lifts {s s' : Stores × Watch} {p : Pubkey}
    (hstanding : s'.2.standing = (s.2.lifts p).standing)
    (hlifted : s'.2.lifted = (s.2.lifts p).lifted) : Since s s' := by
  have hle : ∀ q, q ≠ toAsciiLowercase p → s'.2.lifted q = s.2.lifted q := by
    intro q hq
    rw [hlifted]
    exact lifted_lifts_of_ne s.2 hq
  have hlt : s.2.lifted (toAsciiLowercase p) < s'.2.lifted (toAsciiLowercase p) := by
    rw [hlifted, lifted_lifts_self]
    exact Nat.lt_succ_self _
  refine ⟨fun q => ?_, fun q hq => ?_⟩
  · by_cases hqp : q = toAsciiLowercase p
    · rw [hqp]
      exact hlt.le
    · exact (hle q hqp).ge
  · by_cases hqp : q = toAsciiLowercase p
    · rw [hqp]
      exact Or.inr hlt
    · rw [hstanding]
      exact Or.inl ((standing_lifts _ _ _).2 ⟨hqp, hq⟩)

/-- The list is written. -/
theorem blocked_set (s : Stores) (list : List Pubkey) :
    (answer lib me (.setPreference blockedKey list) s).2.blocked = list :=
  congrArg (fun o => o.getD []) (Function.update_self blockedKey (some list) s.prefs)

/-- What is recorded of a call that changes the list, where it gives up. -/
theorem guarantees_of_gives_up {s : Stores × Watch} {list : List Pubkey} (hinv : Listed s)
    (hown : Since i.2 s ∧ Suppresses n i.2 s) (hreading : Reading n list s) :
    (listDiscipline lib me).Guarantees n i s (s.1, s.2.edits n false) :=
  guarantees_of_edits hinv hown.1 hown.2 (hreading.alone hinv) rfl hinv.listed
    ⟨fun _ => Nat.le_refl _, fun _ => Or.inl⟩ rfl rfl

/-- **`blockPubkey`** keeps to the discipline. -/
theorem safe_blockPubkey {p : Pubkey} (hcall : i.1 = .blockPubkey p) {s : Stores × Watch} :
    SafeIn lib me n i (fun _ _ => True) ((system lib me).body (.blockPubkey p)) s := by
  have hreads : ∀ x s g, record n i.1 (.getPreference blockedKey) x s g = g.edits n (succeeds x) := by
    intro x s g
    rw [hcall]
    rfl
  have hfails : ∀ list s g, record n i.1 (.setPreference blockedKey list) .fails s g =
      g.edits n false := by
    intro list s g
    rw [hcall]
    rfl
  have hwrites : ∀ list s g, record n i.1 (.setPreference blockedKey list) .succeeds s g =
      (g.blocks p).edits n false := by
    intro list s g
    rw [hcall]
    rfl
  intro s₁ hinv hown _ x r s₂ hcond hperform
  rw [hcall] at hcond
  have hguar : (listDiscipline lib me).Guarantees n i s₁ (s₁.1, s₁.2.edits n (succeeds x)) :=
    guarantees_of_edits hinv hown.1 hown.2 (fun m _ => hcond m) rfl hinv.listed
      ⟨fun _ => Nat.le_refl _, fun _ => Or.inl⟩ rfl rfl
  rcases perform_cases hperform with ⟨rfl, rfl, rfl⟩ | ⟨rfl, rfl, rfl⟩
  · rw [hreads]
    exact ⟨hguar, safe_done_true⟩
  · rw [hreads]
    refine ⟨hguar, ?_⟩
    have hreading : Reading n s₁.1.blocked (s₁.1, s₁.2.edits n true) :=
      ⟨Function.update_self .., rfl⟩
    intro s₃ hinv₃ hown₃ hrely x r s₄ _ hperform₃
    have hreading₃ : Reading n s₁.1.blocked s₃ := hreading.leaves hrely
    rcases perform_cases hperform₃ with ⟨rfl, rfl, rfl⟩ | ⟨rfl, rfl, rfl⟩
    · rw [hfails]
      exact ⟨guarantees_of_gives_up hinv₃ hown₃ hreading₃, safe_done_true⟩
    · rw [hwrites]
      refine ⟨?_, safe_done_true⟩
      refine guarantees_of_edits hinv₃ hown₃.1 hown₃.2 (hreading₃.alone hinv₃) rfl (fun q hq => ?_)
        (since_blocks (standing_edits _ _ _) (lifted_blocks s₃.2 p)) rfl (kept_blocks s₃.2 p)
      rw [standing_edits] at hq
      rw [blocked_set, mem_ofSet, List.mem_append, List.mem_singleton]
      rcases (standing_blocks s₃.2 p q).1 hq with rfl | hq
      · exact Or.inr rfl
      · refine Or.inl ?_
        have hlisted : q ∈ s₃.1.blocked := hinv₃.listed q hq
        rw [hreading₃.2] at hlisted
        exact hlisted

/-- **`unblockPubkey`** keeps to the discipline. -/
theorem safe_unblockPubkey {p : Pubkey} (hcall : i.1 = .unblockPubkey p) {s : Stores × Watch} :
    SafeIn lib me n i (fun _ _ => True) ((system lib me).body (.unblockPubkey p)) s := by
  have hreads : ∀ x s g, record n i.1 (.getPreference blockedKey) x s g =
      (g.lifts p).edits n (succeeds x) := by
    intro x s g
    rw [hcall]
    rfl
  have hwrites : ∀ list x s g, record n i.1 (.setPreference blockedKey list) x s g =
      g.edits n false := by
    intro list x s g
    rw [hcall]
    rfl
  intro s₁ hinv hown _ x r s₂ hcond hperform
  rw [hcall] at hcond
  have hguar : (listDiscipline lib me).Guarantees n i s₁
      (s₁.1, (s₁.2.lifts p).edits n (succeeds x)) := by
    refine guarantees_of_edits hinv hown.1 hown.2 (fun m _ => hcond m) rfl (fun q hq => ?_)
      (since_lifts (standing_edits _ _ _) (lifted_edits _ _ _)) rfl (kept_lifts s₁.2 p)
    rw [standing_edits] at hq
    exact hinv.listed q ((standing_lifts s₁.2 p q).1 hq).2
  rcases perform_cases hperform with ⟨rfl, rfl, rfl⟩ | ⟨rfl, rfl, rfl⟩
  · rw [hreads]
    exact ⟨hguar, safe_done_true⟩
  · rw [hreads]
    refine ⟨hguar, ?_⟩
    have hreading : Reading n s₁.1.blocked (s₁.1, (s₁.2.lifts p).edits n true) :=
      ⟨Function.update_self .., rfl⟩
    intro s₃ hinv₃ hown₃ hrely x r s₄ _ hperform₃
    have hreading₃ : Reading n s₁.1.blocked s₃ := hreading.leaves hrely
    have hlifted : ∀ q, s₃.2.standing q = true → q ≠ toAsciiLowercase p := by
      intro q hq
      have hq₁ := hrely.standing hreading.1 q hq
      rw [standing_edits] at hq₁
      exact ((standing_lifts s₁.2 p q).1 hq₁).1
    rcases perform_cases hperform₃ with ⟨rfl, rfl, rfl⟩ | ⟨rfl, rfl, rfl⟩
    · rw [hwrites]
      exact ⟨guarantees_of_gives_up hinv₃ hown₃ hreading₃, safe_done_true⟩
    · rw [hwrites]
      refine ⟨?_, safe_done_true⟩
      refine guarantees_of_edits hinv₃ hown₃.1 hown₃.2 (hreading₃.alone hinv₃) rfl (fun q hq => ?_)
        ⟨fun _ => Nat.le_refl _, fun _ => Or.inl⟩ rfl rfl
      have hlisted : q ∈ s₃.1.blocked := hinv₃.listed q hq
      rw [hreading₃.2] at hlisted
      rw [blocked_set]
      exact List.mem_filter.2 ⟨hlisted, decide_eq_true (hlifted q hq)⟩

/-- A call that changes the list of muted keys. -/
theorem safe_mutes (hcall : i.1.edits = false) (value : List Pubkey → List Pubkey)
    {s : Stores × Watch} : SafeIn lib me n i (fun _ _ => True)
      (OptionT.run do
        (do
          let list ← pubkeysOf mutedKey
          attempt (Op.setPreference mutedKey (value list)) : PageM Unit)
        pure Outcome.returned) s := by
  refine safe_quiet (.getPreference mutedKey) hcall fun _ r _ _ _ _ _ => ?_
  cases r with
  | none => exact safe_done_true
  | some list =>
      have hkey : mutedKey ≠ blockedKey := by decide
      refine safe_quiet (.setPreference mutedKey _) ⟨hcall, hkey⟩ fun _ r _ _ _ _ _ => ?_
      cases r with
      | none => exact safe_done_true
      | some set => exact safe_done_true

/-- **Every call keeps to the discipline**, wherever it begins. -/
theorem starts (lib : Libraries) (me : Pubkey) :
    (listDiscipline lib me).Starts (watched lib me) fun _ _ _ _ => True := by
  intro n c s hinv hfresh
  have hown : Since s s ∧ Suppresses n s s :=
    ⟨since_of_eq rfl, fun p k hk => absurd rfl (hfresh.2 _ hk)⟩
  refine ⟨hown, ?_⟩
  cases c with
  | deliver mount wrap =>
      refine Safe.bindOption (P := fun _ _ => True) hinv hown
        ((safe_deliver rfl hinv hown).mono fun a s' _ h => ?_) (fun _ _ _ _ h => h)
        fun _ _ _ _ _ => safe_done_true
      cases a <;> exact h
  | unmount mount =>
      refine safe_quiet (.inbox (.dispose mount)) trivial fun _ r _ _ _ _ _ => ?_
      cases r <;> exact safe_done_true
  | blockPubkey p => exact safe_blockPubkey rfl
  | unblockPubkey p => exact safe_unblockPubkey rfl
  | isBlocked p =>
      refine safe_quiet (.getPreference blockedKey) (show Call.edits _ = false from ?_)
        fun _ r _ _ _ _ _ => ?_
      · rfl
      · cases r <;> exact safe_done_true
  | isMuted p =>
      refine safe_quiet (.getPreference mutedKey) (show Call.edits _ = false from ?_)
        fun _ r _ _ _ _ _ => ?_
      · rfl
      · cases r <;> exact safe_done_true
  | mutePubkey p =>
      have hcall : Call.edits (.mutePubkey p) = false := rfl
      exact @safe_mutes lib me n (.mutePubkey p, s) hcall
        (fun list => ofSet (list ++ [toAsciiLowercase p])) s
  | unmutePubkey p =>
      have hcall : Call.edits (.unmutePubkey p) = false := rfl
      exact @safe_mutes lib me n (.unmutePubkey p, s) hcall
        (fun list => list.filter fun q => decide (q ≠ toAsciiLowercase p)) s

/-! ### Over a run -/

/-- The calls that were made, with the history. -/
abbrev Calls := Pool (Stores × Watch) Call Op (fun op => Option op.Ans) (Option Outcome)

/-- A call that was made. -/
abbrev Made := Thread (Stores × Watch) Call Op (fun op => Option op.Ans) (Option Outcome)

/-- What has happened to one origin. -/
abbrev happened (lib : Libraries) (me : Pubkey) (s : Stores) (as : List (Act Call Fate)) : Calls :=
  run (step (watched lib me)) (Pool.init (s, {})) as

theorem happened_append (s : Stores) (as bs : List (Act Call Fate)) :
    happened lib me s (as ++ bs) = run (step (watched lib me)) (happened lib me s as) bs :=
  run_append _ _ _ _

/-- **The condition on when a call reads.**  An `unblockPubkey` does not begin to read once a
`blockPubkey` has completed that was to do so after it was called. -/
def Prompt (p : Calls) : Act Call Fate → Prop
  | .start _ => True
  | .resume n _ => ∀ t : Made, p.threads[n]? = some t → ∀ q key, t.call = .unblockPubkey q →
      t.task.next = some (.getPreference key) →
        p.store.2.completed (toAsciiLowercase q) = t.began.2.completed (toAsciiLowercase q)

/-- How often a key was blocked does not go down. -/
theorem completed_record (n : ℕ) (c : Call) (op : Op) (x : Fate) (s : Stores) (g : Watch)
    (q : Pubkey) : g.completed q ≤ (record n c op x s g).completed q := by
  have hblocks : ∀ p, g.completed q ≤ (g.blocks p).completed q := by
    intro p
    by_cases hqp : q = toAsciiLowercase p
    · rw [hqp, completed_blocks_self]
      exact Nat.le_succ _
    · exact (completed_blocks_of_ne g hqp).ge
  unfold record
  split
  case h_3 => exact (hblocks _).trans_eq (congrFun (completed_edits _ _ _) q).symm
  all_goals exact Nat.le_refl _

/-- **Only `unblockPubkey` lifts a key**, where it begins to read. -/
theorem stands_record {c : Call} {op : Op} {q : Pubkey} (x : Fate) (s : Stores) {g : Watch}
    (h : ∀ p key, c = .unblockPubkey p → op = .getPreference key → q ≠ toAsciiLowercase p)
    (hq : g.standing q = true) :
    (record n c op x s g).standing q = true ∧ (record n c op x s g).lifted q = g.lifted q := by
  unfold record
  split
  · exact ⟨hq, rfl⟩
  · have hne := h _ _ rfl rfl
    rw [standing_edits, lifted_edits]
    exact ⟨(standing_lifts g _ q).2 ⟨hne, hq⟩, lifted_lifts_of_ne g hne⟩
  · rw [standing_edits, lifted_edits]
    exact ⟨(standing_blocks g _ q).2 (Or.inr hq), rfl⟩
  all_goals exact ⟨hq, rfl⟩

/-- A key has been blocked for good since there were `N` calls. -/
structure Stands (N L : ℕ) (q : Pubkey) (p : Calls) : Prop where
  calls : N ≤ p.threads.length
  standing : p.store.2.standing q = true
  lifted : p.store.2.lifted q = L
  earlier : ∀ (m : ℕ) (t : Made), p.threads[m]? = some t → ∀ r, t.call = .unblockPubkey r →
    toAsciiLowercase r = q → t.began.2.completed q < p.store.2.completed q
  later : ∀ (m : ℕ) (t : Made), p.threads[m]? = some t → N ≤ m →
    t.began.2.standing q = true ∧ t.began.2.lifted q = L

/-- **It stays blocked** over a step, unless an `unblockPubkey` of the key is called. -/
theorem stands_step {N L : ℕ} {q : Pubkey} {p : Calls} {a : Act Call Fate} (h : Stands N L q p)
    (hprompt : Prompt p a) (hstart : ∀ r, a = .start (.unblockPubkey r) → toAsciiLowercase r ≠ q) :
    Stands N L q (step (watched lib me) p a) := by
  cases a with
  | start c =>
      refine ⟨h.calls.trans (by simp [step]), h.standing, h.lifted, fun m t ht r hr hrq => ?_,
        fun m t ht hm => ?_⟩
      · rcases getElem?_start ht with ht | ⟨rfl, rfl⟩
        · exact h.earlier m t ht r hr hrq
        · exact absurd hrq (hstart r (congrArg Act.start hr))
      · rcases getElem?_start ht with ht | ⟨rfl, rfl⟩
        · exact h.later m t ht hm
        · exact ⟨h.standing, h.lifted⟩
  | resume n x =>
      change Stands N L q (p.resume (watched lib me) n x)
      rcases resume_cases (watched lib me) p n x with
        hsame | ⟨t, op, k, r, s, ht, htask, hperform, hresume⟩
      · rw [hsame]
        exact h
      · have hrecord : s.2 = record n t.call op x p.store.1 p.store.2 := by
          rcases @perform_cases lib me n (t.call, t.began) op x p.store s r hperform with
            ⟨-, -, rfl⟩ | ⟨-, -, rfl⟩
          · rfl
          · rfl
        have hnot : ∀ u key, t.call = .unblockPubkey u → op = .getPreference key →
            q ≠ toAsciiLowercase u := by
          rintro u key hu rfl rfl
          have hlt := h.earlier n t ht u hu rfl
          have hnext : t.task.next = some (.getPreference key) := by
            rw [htask]
            rfl
          exact hlt.ne' (hprompt t ht u key hu hnext)
        obtain ⟨hstanding, hlifted⟩ := stands_record (n := n) x p.store.1 hnot h.standing
        rw [hresume]
        refine ⟨(List.length_set ..).symm ▸ h.calls, hrecord ▸ hstanding,
          hrecord ▸ hlifted.trans h.lifted, fun m t' ht' r hr hrq => ?_, fun m t' ht' hm => ?_⟩
        · have hle : p.store.2.completed q ≤ s.2.completed q := by
            rw [hrecord]
            exact completed_record _ _ _ _ _ _ _
          rcases getElem?_resumed ht' with ⟨rfl, rfl⟩ | ⟨-, ht'⟩
          · exact (h.earlier m t ht r hr hrq).trans_le hle
          · exact (h.earlier m t' ht' r hr hrq).trans_le hle
        · rcases getElem?_resumed ht' with ⟨rfl, rfl⟩ | ⟨-, ht'⟩
          · exact h.later m t ht hm
          · exact h.later m t' ht' hm

/-- A call is to write the list, and then ends. -/
def Writes (t : Task Op (fun op => Option op.Ans) (Option Outcome)) : Prop :=
  ∃ list k, t = .call (.setPreference blockedKey list) k ∧ ∀ r, ∃ a, k r = .done a ∧
    (r = none → a = none)

/-- Where a `blockPubkey` has come to: it is to read, or to write, or it has ended. -/
def Comes (t : Task Op (fun op => Option op.Ans) (Option Outcome)) : Prop :=
  (∃ k, t = .call (.getPreference blockedKey) k ∧ k none = .done none ∧
    ∀ list, Writes (k (some list))) ∨ Writes t ∨ ∃ a, t = .done a

theorem comes_body (lib : Libraries) (me : Pubkey) (p : Pubkey) :
    Comes ((system lib me).body (.blockPubkey p)) := by
  refine Or.inl ⟨_, rfl, rfl, fun list => ⟨_, _, rfl, fun r => ?_⟩⟩
  cases r with
  | none => exact ⟨none, rfl, fun _ => rfl⟩
  | some set => exact ⟨some .returned, rfl, fun h => nomatch h⟩

theorem comes_call {op : Op} {k : Option op.Ans → Task Op _ (Option Outcome)}
    (h : Comes (.call op k)) (r : Option op.Ans) : Comes (k r) := by
  rcases h with ⟨k', heq, hnone, hsome⟩ | ⟨list, k', heq, hk⟩ | ⟨a, heq⟩
  · cases heq
    cases r with
    | none => exact Or.inr (Or.inr ⟨none, hnone⟩)
    | some list => exact Or.inr (Or.inl (hsome list))
  · cases heq
    obtain ⟨a, ha, -⟩ := hk r
    exact Or.inr (Or.inr ⟨a, ha⟩)
  · cases heq

/-- What is known of a call: how often keys had been blocked when it began, and where a `blockPubkey`
has come to. -/
def Known (c : Call) (b : Stores × Watch) (t : Task Op (fun op => Option op.Ans) (Option Outcome))
    (s : Stores × Watch) : Prop :=
  (∀ q, b.2.completed q ≤ s.2.completed q) ∧ ∀ p, c = .blockPubkey p → Comes t

theorem known_of_run (s : Stores) (as : List (Act Call Fate)) : ∀ (n : ℕ) (t : Made),
    (happened lib me s as).threads[n]? = some t →
      Known t.call t.began t.task (happened lib me s as).store := by
  have hle : ∀ {n c op x s r s'} (q : Pubkey), (watched lib me).perform n c op x s = some (r, s') →
      s.2.completed q ≤ s'.2.completed q := by
    intro n c op x s r s' q hperform
    rcases @perform_cases lib me n (c, s) op x s s' r hperform with ⟨-, -, rfl⟩ | ⟨-, -, rfl⟩
    · exact completed_record n c op x s.1 s.2 q
    · exact completed_record n c op x s.1 s.2 q
  refine threads_run (p := Pool.init (s, {})) (P := Known) (fun c s => ⟨fun _ => Nat.le_refl _, ?_⟩)
    (fun n c b op k x s r s' h hperform => ?_) (fun n c c' b t op x s r s' h hperform => ?_)
    (fun _ _ h => nomatch h) as
  · rintro p rfl
    exact comes_body lib me p
  · exact ⟨fun q => (h.1 q).trans (hle q hperform), fun p hc => comes_call (h.2 p hc) r⟩
  · exact ⟨fun q => (h.1 q).trans (hle q hperform), h.2⟩

/-- **What completes a `blockPubkey`** is its writing. -/
theorem completes {s : Stores} {as : List (Act Call Fate)} {a : Act Call Fate} {p : Pubkey}
    (hnot : ¬ (happened lib me s as).ended n (.blockPubkey p) (some .returned))
    (hended : (step (watched lib me) (happened lib me s as) a).ended n (.blockPubkey p)
      (some .returned)) :
    (step (watched lib me) (happened lib me s as) a).store.2 =
      ((happened lib me s as).store.2.blocks p).edits n false := by
  obtain ⟨t, ht, hcall, hdone⟩ := hended
  cases a with
  | start c =>
      rcases getElem?_start ht with ht | ⟨-, rfl⟩
      · exact absurd ⟨t, ht, hcall, hdone⟩ hnot
      · obtain rfl : c = .blockPubkey p := hcall
        cases hdone
  | resume m x =>
      change ((happened lib me s as).resume (watched lib me) m x).threads[n]? = some t at ht
      change ((happened lib me s as).resume (watched lib me) m x).store.2 = _
      rcases resume_cases (watched lib me) (happened lib me s as) m x with
        hsame | ⟨u, op, k, r, s', hu, htask, hperform, hresume⟩
      · rw [hsame] at ht
        exact absurd ⟨t, ht, hcall, hdone⟩ hnot
      · rw [hresume] at ht ⊢
        rcases getElem?_resumed ht with ⟨rfl, rfl⟩ | ⟨-, ht⟩
        · have hcomes : Comes u.task := (known_of_run s as n u hu).2 p hcall
          have hk : k r = .done (some .returned) := hdone
          rw [htask] at hcomes
          rcases hcomes with ⟨k', heq, hnone, hsome⟩ | ⟨list, k', heq, hwrites⟩ | ⟨a, heq⟩
          · cases heq
            cases r with
            | none => exact nomatch hnone.symm.trans hk
            | some list =>
                obtain ⟨_, _, heq, -⟩ := hsome list
                exact nomatch heq.symm.trans hk
          · cases heq
            obtain ⟨b, hb, hnone⟩ := hwrites r
            obtain rfl : b = some .returned := by
              have hboth := hb.symm.trans hk
              cases hboth
              rfl
            rcases @perform_cases lib me n (u.call, u.began) _ x _ _ r hperform with
              ⟨-, rfl, -⟩ | ⟨rfl, -, rfl⟩
            · exact nomatch hnone rfl
            · have hu : u.call = .blockPubkey p := hcall
              simp only [hu]
              rfl
          · cases heq
        · exact absurd ⟨t, ht, hcall, hdone⟩ hnot

/-- **A key stands from the moment a `blockPubkey` has completed.** -/
theorem stands_of_ended {s : Stores} {as : List (Act Call Fate)} {a : Act Call Fate} {p : Pubkey}
    (hnot : ¬ (happened lib me s as).ended n (.blockPubkey p) (some .returned))
    (hended : (happened lib me s (as ++ [a])).ended n (.blockPubkey p) (some .returned)) :
    Stands (happened lib me s (as ++ [a])).threads.length
      ((happened lib me s (as ++ [a])).store.2.lifted (toAsciiLowercase p)) (toAsciiLowercase p)
      (happened lib me s (as ++ [a])) := by
  have hwatch : (happened lib me s (as ++ [a])).store.2 =
      ((happened lib me s as).store.2.blocks p).edits n false := by
    rw [happened, run_concat] at hended ⊢
    exact completes hnot hended
  refine ⟨Nat.le_refl _, ?_, rfl, fun m t ht r hr hrp => ?_, fun m t ht hm => ?_⟩
  · rw [hwatch, standing_edits]
    exact (standing_blocks _ p _).2 (Or.inl rfl)
  · have hle : t.began.2.completed (toAsciiLowercase p) ≤
        (happened lib me s as).store.2.completed (toAsciiLowercase p) := by
      rw [happened, run_concat] at ht
      rcases thread_step ht with ⟨t₀, ht₀, -, hbegan⟩ | ⟨-, -, hbegan⟩
      · rw [← hbegan]
        exact (known_of_run s as m t₀ ht₀).1 _
      · rw [hbegan]
    have hlt : t.began.2.completed (toAsciiLowercase p) <
        (happened lib me s as).store.2.completed (toAsciiLowercase p) + 1 := Nat.lt_succ_of_le hle
    rw [hwatch, completed_edits, completed_blocks_self]
    exact hlt
  · exact absurd (lt_length_of_getElem? ht) (Nat.not_lt.2 hm)

/-- **What a completed `blockPubkey` is for**: from then on, as long as no `unblockPubkey` of the key
is called, the list has the key, and no handler that begins keeps a message of the sender. -/
def Suppressed (lib : Libraries) (me : Pubkey) (s : Stores) (before : List (Act Call Fate))
    (a : Act Call Fate) (after : List (Act Call Fate)) : Prop :=
  ∀ n p, ¬ (happened lib me s before).ended n (.blockPubkey p) (some .returned) →
    (happened lib me s (before ++ [a])).ended n (.blockPubkey p) (some .returned) →
      (∀ q, toAsciiLowercase q = toAsciiLowercase p → Act.start (.unblockPubkey q) ∉ after) →
        toAsciiLowercase p ∈ (happened lib me s (before ++ [a] ++ after)).store.1.blocked ∧
          ∀ m k, (m, toAsciiLowercase p, k) ∈
              (happened lib me s (before ++ [a] ++ after)).store.2.kept →
            m < (happened lib me s (before ++ [a])).threads.length

/-- The calls keep to the discipline over any run whose steps meet the condition. -/
theorem sound_of_meets {s : Stores} {as : List (Act Call Fate)}
    (hmeets : ∀ e ∈ events (step (watched lib me)) (Pool.init (s, {})) as,
      MeetsAt (Orderly lib me) e.pre e.act) :
    Sound (listDiscipline lib me) (watched lib me) (fun _ _ _ _ => True) (happened lib me s as) := by
  refine sound_run (starts lib me) (sound_init ?_ fun n => ?_) hmeets
  · exact ⟨(fun _ h => nomatch h), (fun _ _ h => nomatch h), fun _ h => nomatch h⟩
  · exact ⟨rfl, fun _ h => nomatch h⟩

/-- **Blocked senders are suppressed**, over any run whose steps meet the conditions. -/
theorem suppressed (lib : Libraries) (me : Pubkey) (s : Stores) {before : List (Act Call Fate)}
    {a : Act Call Fate} {after : List (Act Call Fate)}
    (hmeets : ∀ e ∈ events (step (watched lib me)) (Pool.init (s, {})) (before ++ [a] ++ after),
      MeetsAt (Orderly lib me) e.pre e.act ∧ Prompt e.pre e.act) :
    Suppressed lib me s before a after := by
  intro n p hnot hended hstarts
  have hsound := sound_of_meets fun e he => (hmeets e he).1
  have hstands : Stands (happened lib me s (before ++ [a])).threads.length
      ((happened lib me s (before ++ [a])).store.2.lifted (toAsciiLowercase p)) (toAsciiLowercase p)
      (happened lib me s (before ++ [a] ++ after)) := by
    rw [happened_append s (before ++ [a])]
    refine run_induction_of (G := fun q b => Prompt q b ∧ ∀ r, b = .start (.unblockPubkey r) →
      toAsciiLowercase r ≠ toAsciiLowercase p) (stands_of_ended hnot hended)
      (fun q b hq hb => stands_step hq hb.1 hb.2) fun e he => ⟨?_, fun r hr hrp => ?_⟩
    · exact ((forall_events_append.1 hmeets).2 e he).2
    · obtain ⟨bs, cs, hafter, -, -⟩ := mem_events he
      refine hstarts r hrp ?_
      rw [hafter, hr]
      exact List.mem_append_right _ List.mem_cons_self
  refine ⟨hsound.inv.listed _ hstands.standing, fun m k hk => ?_⟩
  by_contra hm
  cases ht : (happened lib me s (before ++ [a] ++ after)).threads[m]? with
  | none => exact (hsound.fresh m (List.getElem?_eq_none_iff.1 ht)).2 _ hk rfl
  | some t =>
      obtain ⟨hstanding, hlifted⟩ := hstands.later m t ht (Nat.not_lt.1 hm)
      have hlt : t.began.2.lifted (toAsciiLowercase p) < k :=
        (hsound.own m t ht).2 (toAsciiLowercase p) k hk hstanding
      have hle : k ≤
          (happened lib me s (before ++ [a] ++ after)).store.2.lifted (toAsciiLowercase p) :=
        hsound.inv.before _ hk
      rw [hlifted, ← hstands.lifted] at hlt
      exact absurd hlt (Nat.not_lt.2 hle)

/-- What is stored or dispatched was so at first, or the history has it. -/
structure Accounted (s : Stores) (s' : Stores × Watch) : Prop where
  stored : ∀ id message, s'.1.inbox.messages id = some message →
    s.inbox.messages id = some message ∨
      ∃ m k, (m, toAsciiLowercase message.sender_pubkey, k) ∈ s'.2.kept
  dispatched : ∀ p ∈ s'.1.dispatched,
    p ∈ s.dispatched ∨ ∃ m k, (m, toAsciiLowercase p.senderPubkey, k) ∈ s'.2.kept

/-- What the history has, it keeps. -/
theorem kept_record (n : ℕ) (c : Call) (op : Op) (x : Fate) (s : Stores) (g : Watch) :
    ∀ e ∈ g.kept, e ∈ (record n c op x s g).kept := by
  intro e he
  unfold record
  split
  case h_2 => rwa [kept_edits, kept_lifts]
  case h_3 => rwa [kept_edits, kept_blocks]
  case h_6 => exact List.mem_cons_of_mem _ he
  case h_7 => exact List.mem_cons_of_mem _ he
  all_goals exact he

/-- Nothing new is stored or dispatched. -/
theorem Accounted.of_same {s : Stores} {s' s'' : Stores × Watch} (h : Accounted s s')
    (hmessages : s''.1.inbox.messages = s'.1.inbox.messages)
    (hdispatched : s''.1.dispatched = s'.1.dispatched) (hkept : ∀ e ∈ s'.2.kept, e ∈ s''.2.kept) :
    Accounted s s'' where
  stored id message hm := by
    rw [hmessages] at hm
    refine (h.stored id message hm).imp_right ?_
    rintro ⟨m, k, hk⟩
    exact ⟨m, k, hkept _ hk⟩
  dispatched p hp := by
    rw [hdispatched] at hp
    refine (h.dispatched p hp).imp_right ?_
    rintro ⟨m, k, hk⟩
    exact ⟨m, k, hkept _ hk⟩

/-- **An operation stores and dispatches nothing behind the history's back.** -/
theorem accounted_perform {s : Stores} {n : ℕ} {c : Call} {op : Op} {x : Fate}
    {s' s'' : Stores × Watch} {r : Option op.Ans} (h : Accounted s s')
    (hperform : (watched lib me).perform n c op x s' = some (r, s'')) : Accounted s s'' := by
  have hold : Accounted s (s'.1, record n c op x s'.1 s'.2) :=
    h.of_same rfl rfl (kept_record n c op x s'.1 s'.2)
  rcases @perform_cases lib me n (c, s') op x s' s'' r hperform with ⟨-, -, rfl⟩ | ⟨rfl, -, rfl⟩
  · exact hold
  · cases op with
    | dispatch p =>
        have hnew : (record n c (.dispatch p) .succeeds s'.1 s'.2).kept =
            (s'.2.keeps n p.senderPubkey).kept := by
          cases c <;> rfl
        refine ⟨hold.stored, fun q hq => ?_⟩
        rcases List.mem_append.1 hq with hq | hq
        · exact hold.dispatched q hq
        · obtain rfl := List.mem_singleton.1 hq
          refine Or.inr ⟨n, s'.2.lifted (toAsciiLowercase q.senderPubkey), ?_⟩
          rw [hnew]
          exact List.mem_cons_self
    | inbox op =>
        cases op with
        | putMessage message =>
            have hnew : (record n c (.inbox (.putMessage message)) .succeeds s'.1 s'.2).kept =
                (s'.2.keeps n message.sender_pubkey).kept := by
              cases c <;> rfl
            refine ⟨fun id message' hm => ?_, hold.dispatched⟩
            by_cases hid : id = message.id
            · subst hid
              have hrow : (answer lib me (.inbox (.putMessage message)) s'.1).2.inbox.messages
                  message.id = some message := Function.update_self ..
              obtain rfl : message = message' := Option.some.inj (hrow.symm.trans hm)
              refine Or.inr ⟨n, s'.2.lifted (toAsciiLowercase message.sender_pubkey), ?_⟩
              rw [hnew]
              exact List.mem_cons_self
            · exact hold.stored id message' ((Function.update_of_ne hid _ _).symm.trans hm)
        | _ => exact hold.of_same rfl rfl fun _ h => h
    | _ => exact hold.of_same rfl rfl fun _ h => h

/-- **Whatever is stored or dispatched, the history has**, over any run. -/
theorem accounted_of_run (lib : Libraries) (me : Pubkey) (s : Stores) (as : List (Act Call Fate)) :
    Accounted s (happened lib me s as).store := by
  refine run_induction (P := fun p : Calls => Accounted s p.store)
    ⟨fun _ _ => Or.inl, fun _ => Or.inl⟩ (fun p a hp => ?_) as
  cases a with
  | start c => exact hp
  | resume n x =>
      change Accounted s (p.resume (watched lib me) n x).store
      rcases resume_cases (watched lib me) p n x with hsame | ⟨t, op, k, r, s', -, -, hperform, hresume⟩
      · rw [hsame]
        exact hp
      · rw [hresume]
        exact accounted_perform hp hperform

/-! ### Two senders -/

/-- A new device. -/
def newDevice : Stores := { inbox := Inbox.newDevice, prefs := fun _ => none }

/-- A friend is blocked. -/
def blocking : List (Act Call Fate) := [.start (.blockPubkey (demoKey 'a')), .resume 0 .succeeds]

/-- A step that meets the conditions in a run that has met them, as far as it can be computed. -/
def allowed (p : Calls) : Act Call Fate → Bool
  | .start _ => true
  | .resume n _ =>
    match p.next n with
    | some (.unblockPubkey _, _) => false
    | some (.blockPubkey _, .getPreference _) =>
      (List.range p.threads.length).all fun m => !p.store.2.editing m
    | some (.deliver _ _, .inbox (.seenHas _ id)) => decide (id ∈ p.store.1.inbox.giftWraps)
    | _ => true

theorem meets_of_allowed {p : Calls} {a : Act Call Fate}
    (hfresh : ∀ m, p.threads.length ≤ m → p.store.2.editing m = false) (h : allowed p a = true) :
    MeetsAt (Orderly lib me) p a ∧ Prompt p a := by
  cases a with
  | start c => exact ⟨trivial, trivial⟩
  | resume n x =>
      dsimp only [allowed] at h
      refine ⟨fun i hi => ?_, fun t ht q key hcall hnext => ?_⟩
      · obtain ⟨c, op⟩ := i
        rw [Option.mem_def.1 hi] at h
        change Orderly lib me n c op x p.store
        unfold Orderly
        split
        · intro m
          rcases Nat.lt_or_ge m p.threads.length with hlt | hge
          · simpa using List.all_eq_true.1 h m (List.mem_range.2 hlt)
          · exact hfresh m hge
        · exact absurd h Bool.false_ne_true
        · exact fun _ m _ _ => Or.inr (of_decide_eq_true h)
        · trivial
      · have hthis : p.next n = some (.unblockPubkey q, .getPreference key) := by
          unfold Pool.next
          rw [ht, Option.bind_some, hnext, hcall, Option.map_some]
        rw [hthis] at h
        exact absurd h Bool.false_ne_true

/-- The run. -/
abbrev demoRun (as : List (Act Call Fate)) : Calls :=
  happened demoLibraries (demoKey 'b') newDevice as

/-- The friend's message is delivered before, and the handler unwraps it. -/
def received : List (Act Call Fate) :=
  [.start (.deliver 0 Inbox.demoWrap), .resume 0 .succeeds, .resume 0 .succeeds, .resume 0 .succeeds]

theorem happened_received : happened demoLibraries (demoKey 'b') newDevice received =
    { store := (newDevice, {})
      threads := [
        { call := .deliver 0 Inbox.demoWrap
          began := (newDevice, {})
          task := OptionT.run do
            (do
              let processed ← ofInbox (Inbox.processUnwrapped Inbox.demoWrap (markSeen 0)
                (some Inbox.demoMessage))
              receive 0 processed : PageM Unit)
            pure Outcome.returned }] } := by
  rw [← Inbox.unwrapMessage_demoWrap]
  rfl

/-- The message is kept; then the friend is blocked. -/
def keptThenBlocked : List (Act Call Fate) :=
  received ++ List.replicate 12 (.resume 0 .succeeds) ++
    [.start (.blockPubkey (demoKey 'a')), .resume 1 .succeeds]

/-- The relay delivers the wrap again, and another key is blocked. -/
def deliveredAgain : List (Act Call Fate) :=
  [.start (.deliver 0 Inbox.demoWrap), .resume 2 .succeeds, .start (.blockPubkey (demoKey 'c')),
    .resume 3 .succeeds, .resume 3 .succeeds]

theorem demoRun_received (as : List (Act Call Fate)) :
    demoRun (received ++ as) =
      run (step (watched demoLibraries (demoKey 'b'))) (demoRun received) as := run_append ..

/-- The rest of a run whose first steps meet the conditions meets them if it is allowed. -/
theorem meets_append (as bs : List (Act Call Fate))
    (h : ∀ e ∈ events (step (watched demoLibraries (demoKey 'b'))) (Pool.init (newDevice, {})) as,
      MeetsAt (Orderly demoLibraries (demoKey 'b')) e.pre e.act ∧ Prompt e.pre e.act)
    (hbs : ∀ e ∈ events (step (watched demoLibraries (demoKey 'b'))) (demoRun as) bs,
      allowed e.pre e.act = true) :
    ∀ e ∈ events (step (watched demoLibraries (demoKey 'b'))) (Pool.init (newDevice, {})) (as ++ bs),
      MeetsAt (Orderly demoLibraries (demoKey 'b')) e.pre e.act ∧ Prompt e.pre e.act := by
  refine forall_events_append.2 ⟨h, ?_⟩
  refine events_of_check (fun p a => allowed p a = true)
    (G := fun p a => MeetsAt (Orderly demoLibraries (demoKey 'b')) p a ∧ Prompt p a)
    (sound_of_meets fun e he => (h e he).1) (fun p a hp ha => ?_) (fun p a hp ha => ?_) hbs
  · exact (sound_step (starts _ _) hp ha.1).1
  · exact meets_of_allowed (fun m hm => (hp.fresh m hm).1) ha

theorem meets_received :
    ∀ e ∈ events (step (watched demoLibraries (demoKey 'b'))) (Pool.init (newDevice, {})) received,
      MeetsAt (Orderly demoLibraries (demoKey 'b')) e.pre e.act ∧ Prompt e.pre e.act := by
  refine meets_append [.start (.deliver 0 Inbox.demoWrap), .resume 0 .succeeds]
    (List.replicate 2 (.resume 0 .succeeds)) (List.forall_mem_cons.2 ⟨⟨trivial, trivial⟩,
      List.forall_mem_singleton.2 ⟨fun i hi => ?_, fun t ht q key hcall => ?_⟩⟩) (by decide)
  · obtain rfl : (Call.deliver 0 Inbox.demoWrap, Op.inbox (.seenHas 0 Inbox.demoWrap.id)) = i :=
      Option.some.inj hi
    -- Nobody is blocked yet.
    exact fun _ m _ hstanding => nomatch hstanding
  · cases ht
    cases hcall

/-- The rest of the run. -/
def demoRest : List (Act Call Fate) :=
  List.replicate 12 (.resume 0 .succeeds) ++
    [.start (.blockPubkey (demoKey 'a')), .resume 1 .succeeds] ++ [.resume 1 .succeeds] ++
    deliveredAgain

/-- **What a blocked friend sent is not kept again**, and the list goes on to have the friend. -/
theorem suppressed_demo :
    let s := demoRun (keptThenBlocked ++ [.resume 1 .succeeds] ++ deliveredAgain)
    Suppressed demoLibraries (demoKey 'b') newDevice keptThenBlocked (.resume 1 .succeeds)
        deliveredAgain ∧
      s.store.1.blocked = [demoKey 'a', demoKey 'c'] ∧
      s.store.2.kept.map Prod.fst = [0, 0] := by
  intro s
  have hsplit : keptThenBlocked ++ [.resume 1 .succeeds] ++ deliveredAgain =
      received ++ demoRest := by
    simp only [keptThenBlocked, demoRest, List.append_assoc]
  have hmeets : ∀ e ∈ events (step (watched demoLibraries (demoKey 'b'))) (Pool.init (newDevice, {}))
      (received ++ demoRest),
      MeetsAt (Orderly demoLibraries (demoKey 'b')) e.pre e.act ∧ Prompt e.pre e.act := by
    refine meets_append _ _ meets_received ?_
    rw [demoRun, happened_received]
    decide +kernel
  rw [← hsplit] at hmeets
  have hs : s = run (step (watched demoLibraries (demoKey 'b'))) (demoRun received) demoRest := by
    rw [← demoRun_received, ← hsplit]
  rw [hs, demoRun, happened_received]
  rw [demoRun, happened_received] at hs
  exact ⟨suppressed _ _ _ hmeets, by decide +kernel, by decide +kernel⟩

/-- Two keys are blocked, and both calls have read the list. -/
def bothRead : List (Act Call Fate) :=
  [.start (.blockPubkey (demoKey 'a')), .start (.blockPubkey (demoKey 'c')), .resume 0 .succeeds,
    .resume 1 .succeeds]

/-- **The list loses a key**: of two calls that overlap the second writes what it has read. -/
theorem lost_update : ¬ Suppressed demoLibraries (demoKey 'b') newDevice bothRead (.resume 0 .succeeds)
    [.resume 1 .succeeds] := by
  intro hclaim
  have hblocked : (happened demoLibraries (demoKey 'b') newDevice
      (bothRead ++ [.resume 0 .succeeds] ++ [.resume 1 .succeeds])).store.1.blocked =
        [toAsciiLowercase (demoKey 'c')] := by
    rfl
  have hnot : ¬ (happened demoLibraries (demoKey 'b') newDevice bothRead).ended 0
      (.blockPubkey (demoKey 'a')) (some .returned) := by
    rintro ⟨t, ht, -, hdone⟩
    cases ht
    cases hdone
  have hlist := (hclaim 0 (demoKey 'a') hnot ⟨_, rfl, rfl, rfl⟩ fun _ _ h => by
    cases List.mem_singleton.1 h).1
  rw [hblocked] at hlist
  exact absurd hlist (by decide)

/-- A message of the friend is delivered, and the handler unwraps it. -/
def delivered : List (Act Call Fate) :=
  [.start (.deliver 0 Inbox.demoWrap), .resume 1 .succeeds, .resume 1 .succeeds, .resume 1 .succeeds]

theorem happened_delivered : happened demoLibraries (demoKey 'b') newDevice
    (blocking ++ [.resume 0 .succeeds] ++ delivered) =
      { store := (happened demoLibraries (demoKey 'b') newDevice
          (blocking ++ [.resume 0 .succeeds])).store
        threads := [
          { call := .blockPubkey (demoKey 'a')
            began := (newDevice, {})
            task := .done (some .returned) },
          { call := .deliver 0 Inbox.demoWrap
            began := (happened demoLibraries (demoKey 'b') newDevice
              (blocking ++ [.resume 0 .succeeds])).store
            task := OptionT.run do
              (do
                let processed ← ofInbox (Inbox.processUnwrapped Inbox.demoWrap (markSeen 0)
                  (some Inbox.demoMessage))
                receive 0 processed : PageM Unit)
              pure Outcome.returned }] } := by
  rw [← Inbox.unwrapMessage_demoWrap]
  rfl

/-- The handler goes on to the end. -/
def goesOn : List (Act Call Fate) := List.replicate 12 (.resume 1 .succeeds)

/-- **What a blocked sender sends is kept**: the handler of its delivery does not read the list. -/
theorem blocked_kept : ¬ Suppressed demoLibraries (demoKey 'b') newDevice blocking
    (.resume 0 .succeeds) (delivered ++ goesOn) := by
  intro hclaim
  have hnot : ¬ (happened demoLibraries (demoKey 'b') newDevice blocking).ended 0
      (.blockPubkey (demoKey 'a')) (some .returned) := by
    rintro ⟨t, ht, -, hdone⟩
    cases ht
    cases hdone
  have hstarts : ∀ q, toAsciiLowercase q = toAsciiLowercase (demoKey 'a') →
      Act.start (.unblockPubkey q) ∉ delivered ++ goesOn := by
    intro q _ h
    rcases List.mem_append.1 h with h | h
    · simp [delivered] at h
    · simp [goesOn] at h
  have hkept : (1, toAsciiLowercase (demoKey 'a'), 0) ∈ (happened demoLibraries (demoKey 'b')
      newDevice (blocking ++ [.resume 0 .succeeds] ++ (delivered ++ goesOn))).store.2.kept := by
    rw [← List.append_assoc, happened_append, happened_delivered]
    decide +kernel
  exact absurd ((hclaim 0 (demoKey 'a') hnot ⟨_, rfl, rfl, rfl⟩ hstarts).2 1 0 hkept) (by decide)

end Blocked
end Chat
end Pwa
end SentinelMesh
