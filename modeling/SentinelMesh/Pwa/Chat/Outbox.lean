/-
# The outbox of gift wraps

`enqueueOutbox` and `deliverPendingOutbox` of `services/chat/outbox.ts`, and `putOutboxItem` and
`listPendingOutbox` of `services/chat/chatStore.ts`, as tasks over the store `outbox`, for any number
of runs and any number of wraps.

A run lists the items that are pending, publishes each and writes the whole item back, as it was
listed but for what the publication changes.  Where another run has written the item meanwhile,
what it wrote is lost, a delivery with it (`delivery_forgotten`).  Where no write-back is stale, what
is delivered stays so and is not published by a run that starts later (`delivered_stays`).

The relays answer, and the store fails, as the environment decides.  JSON of a wrap is read back as
it was written, and items are listed in the order of the table.
-/

import SentinelMesh.Lib.Async
import SentinelMesh.Lib.Table
import SentinelMesh.Pwa.Chat.Messages

namespace SentinelMesh
namespace Pwa
namespace Chat
namespace Outbox

open Lib Lib.Task Lib.Async

/-! ### The store and its operations -/

/-- `StoredOutboxItem`, without the key of the store. -/
structure OutboxRow where
  recipient_pubkey : Pubkey
  relays : List String
  wrap : Wrap
  attempts : ℕ
  next_retry_at : ℤ
  delivered : Bool
  deriving DecidableEq

/-- `StoredOutboxItem`. -/
structure StoredOutboxItem extends OutboxRow where
  id : String
  deriving DecidableEq

/-- The store `outbox`, and what the relays were sent: the run, and the id of the item. -/
structure OutboxStore where
  items : Table String OutboxRow := Table.empty
  published : List (ℕ × String) := []
  deriving DecidableEq

/-- What the functions wait for. -/
inductive Op
  | putOutboxItem (item : StoredOutboxItem)
  | listPendingOutbox (now : ℤ)
  | publish (item : StoredOutboxItem)

/-- What it answers; `publish` answers what `ok` is of each relay. -/
def Op.Ans : Op → Type
  | putOutboxItem _ => Unit
  | listPendingOutbox _ => List StoredOutboxItem
  | publish _ => List Bool

/-- What the environment decides: what becomes of an operation, and what the relays answer. -/
structure Env where
  fate : Fate
  results : List Bool := []
  deriving DecidableEq

/-- The item of a row. -/
def item (r : String × OutboxRow) : StoredOutboxItem := { r.2 with id := r.1 }

/-- `listPendingOutbox`. -/
def listPendingOutbox (now : ℤ) (s : OutboxStore) : List StoredOutboxItem :=
  (s.items.rows.map item).filter fun i => !i.delivered && decide (i.next_retry_at ≤ now)

/-- What an operation of run `n` answers and does. -/
def answer (n : ℕ) (results : List Bool) : (op : Op) → OutboxStore → op.Ans × OutboxStore
  | .putOutboxItem item, s => ((), { s with items := s.items.put item.id item.toOutboxRow })
  | .listPendingOutbox now, s => (listPendingOutbox now s, s)
  | .publish item, s => (results, { s with published := (n, item.id) :: s.published })

/-! ### The functions -/

/-- A function of the page; `none` is a rejection. -/
abbrev OutboxM := OptionT (Task Op fun op => Option op.Ans)

/-- `MAX_BACKOFF_MS`. -/
def maxBackoffMs : ℤ := 30 * 60000

/-- What `enqueueOutbox` puts. -/
def enqueued (recipientPubkey : Pubkey) (relays : List String) (wrap : Wrap) : StoredOutboxItem :=
  { id := wrap.id, recipient_pubkey := recipientPubkey, relays, wrap, attempts := 0
    next_retry_at := 0, delivered := false }

/-- `enqueueOutbox`. -/
def enqueueOutbox (recipientPubkey : Pubkey) (relays : List String) (wrap : Wrap) : OutboxM Unit :=
  attempt (Op.putOutboxItem (enqueued recipientPubkey relays wrap))

/-- An item that a relay has acknowledged. -/
def acknowledged (item : StoredOutboxItem) : StoredOutboxItem := { item with delivered := true }

/-- An item that no relay has acknowledged. -/
def retried (now : ℤ) (item : StoredOutboxItem) : StoredOutboxItem :=
  { item with
    attempts := item.attempts + 1
    next_retry_at := now + min maxBackoffMs (1000 * 2 ^ (item.attempts + 1)) }

/-- The loop of `deliverPendingOutbox`, with the counts so far. -/
def deliverEach (now : ℤ) : List StoredOutboxItem → ℕ × ℕ → OutboxM (ℕ × ℕ)
  | [], counts => pure counts
  | item :: pending, (delivered, failed) => do
    let results : List Bool ← attempt (Op.publish item)
    if results.any id then
      attempt (Op.putOutboxItem (acknowledged item))
      deliverEach now pending (delivered + 1, failed)
    else
      attempt (Op.putOutboxItem (retried now item))
      deliverEach now pending (delivered, failed + 1)

/-- `deliverPendingOutbox`. -/
def deliverPendingOutbox (now : ℤ) : OutboxM (ℕ × ℕ) := do
  let pending : List StoredOutboxItem ← attempt (Op.listPendingOutbox now)
  deliverEach now pending (0, 0)

/-- A call. -/
inductive Call
  | enqueue (recipientPubkey : Pubkey) (relays : List String) (wrap : Wrap)
  | deliver (now : ℤ)

/-- What a call returns: a run, how many items it has delivered and how many have failed. -/
inductive Outcome
  | enqueued
  | ran (delivered failed : ℕ)
  deriving DecidableEq

/-- The calls on one outbox; `none` is a rejection. -/
def system : System OutboxStore Call Op (fun op => Option op.Ans) Env (Option Outcome) where
  body
    | .enqueue recipientPubkey relays wrap => OptionT.run do
      enqueueOutbox recipientPubkey relays wrap
      pure .enqueued
    | .deliver now => OptionT.run do
      let counts ← deliverPendingOutbox now
      pure (.ran counts.1 counts.2)
  perform n _ op x := attempted (answer n x.results) op x.fate

/-- What the calls have made of an outbox. -/
def made (s : OutboxStore) (as : List (Act Call Env)) :
    Pool OutboxStore Call Op (fun op => Option op.Ans) (Option Outcome) :=
  run (step system) (Pool.init s) as

/-! ### What stays -/

/-- No write is stale: what is enqueued is new, and what a run writes back is still stored as it was
listed. -/
def Fresh (c : Call) (op : Op) (_ : Env) (s : OutboxStore) : Prop :=
  match c, op with
  | .enqueue _ _ _, .putOutboxItem i => s.items.find? i.id = none
  | .deliver now, .putOutboxItem i => ∃ row ∈ s.items.find? i.id, row.delivered = false ∧
      (i = acknowledged (item (i.id, row)) ∨ i = retried now (item (i.id, row)))
  | _, .listPendingOutbox _ | _, .publish _ => True

instance (c : Call) (op : Op) (x : Env) (s : OutboxStore) : Decidable (Fresh c op x s) :=
  match c, op with
  | .enqueue _ _ _, .putOutboxItem i => inferInstanceAs (Decidable (s.items.find? i.id = none))
  | .deliver now, .putOutboxItem i => inferInstanceAs (Decidable (∃ row ∈ s.items.find? i.id,
      row.delivered = false ∧
        (i = acknowledged (item (i.id, row)) ∨ i = retried now (item (i.id, row)))))
  | .enqueue _ _ _, .listPendingOutbox _ | .enqueue _ _ _, .publish _
  | .deliver _, .listPendingOutbox _ | .deliver _, .publish _ => isTrue trivial

/-- What is delivered stays so, attempts do not decrease, and items stay. -/
def Grows (s s' : OutboxStore) : Prop :=
  ∀ id row, s.items.find? id = some row → ∃ row', s'.items.find? id = some row' ∧
    (row.delivered = true → row'.delivered = true) ∧ row.attempts ≤ row'.attempts

theorem Grows.refl (s : OutboxStore) : Grows s s := fun _ row h => ⟨row, h, fun h => h, Nat.le_refl _⟩

theorem Grows.trans {s s' s'' : OutboxStore} (h : Grows s s') (h' : Grows s' s'') : Grows s s'' := by
  intro id row hrow
  obtain ⟨row', hrow', hdelivered, hattempts⟩ := h id row hrow
  obtain ⟨row'', hrow'', hdelivered', hattempts'⟩ := h' id row' hrow'
  exact ⟨row'', hrow'', fun hd => hdelivered' (hdelivered hd), Nat.le_trans hattempts hattempts'⟩

/-- The store says that an item was delivered. -/
def Delivered (id : String) (s : OutboxStore) : Prop :=
  ∃ row, s.items.find? id = some row ∧ row.delivered = true

theorem Grows.delivered {s s' : OutboxStore} (h : Grows s s') {id : String} (hd : Delivered id s) :
    Delivered id s' := by
  obtain ⟨row, hrow, hdelivered⟩ := hd
  obtain ⟨row', hrow', hstays, _⟩ := h id row hrow
  exact ⟨row', hrow', hstays hdelivered⟩

/-- Where no write is stale, items grow, and a run publishes nothing that was delivered when it
began. -/
def outboxDiscipline : Discipline OutboxStore Call Op Env where
  Inv _ := True
  Rely n s s' := Grows s s' ∧ ∀ id, (n, id) ∈ s'.published → (n, id) ∈ s.published
  Cond _ := Fresh
  Local n i s := match i with
    | none => ∀ id, (n, id) ∉ s.published
    | some (_, b) => Grows b s ∧ ∀ id, (n, id) ∈ s.published → ¬ Delivered id b
  refl _ s := ⟨Grows.refl s, fun _ h => h⟩
  trans _ _ _ _ h h' := ⟨h.1.trans h'.1, fun id hid => h.2 id (h'.2 id hid)⟩
  stays _ i _ _ h hown := match i with
    | none => fun id hid => hown id (h.2 id hid)
    | some _ => ⟨hown.1.trans h.1, fun id hid => hown.2 id (h.2 id hid)⟩

variable {n : ℕ} {i : Call × OutboxStore}

theorem grows_put {s : OutboxStore} {item : StoredOutboxItem}
    (h : ∀ row, s.items.find? item.id = some row →
      (row.delivered = true → item.delivered = true) ∧ row.attempts ≤ item.attempts) :
    Grows s { s with items := s.items.put item.id item.toOutboxRow } := by
  intro id row hrow
  by_cases hid : id = item.id
  · refine ⟨item.toOutboxRow, ?_, h row (hid ▸ hrow)⟩
    rw [Table.find?_put, if_pos hid]
  · refine ⟨row, ?_, fun h => h, Nat.le_refl _⟩
    rw [Table.find?_put, if_neg hid]
    exact hrow

/-- **A write that is not stale** lets the items grow. -/
theorem grows_of_fresh {c : Call} {x : Env} {s : OutboxStore} {i : StoredOutboxItem}
    (h : Fresh c (.putOutboxItem i) x s) :
    Grows s { s with items := s.items.put i.id i.toOutboxRow } := by
  refine grows_put fun row hrow => ?_
  cases c with
  | enqueue recipientPubkey relays wrap =>
      have hnone : s.items.find? i.id = none := h
      exact nomatch hnone.symm.trans hrow
  | deliver now =>
      obtain ⟨row', hrow', hpending, hmade⟩ := h
      obtain rfl := Option.some.inj (hrow'.symm.trans hrow)
      have hattempts : row'.attempts ≤ i.attempts := by
        rcases hmade with hi | hi
        · exact Nat.le_of_eq (congrArg (fun i => i.attempts) hi).symm
        · have hsucc : i.attempts = row'.attempts + 1 := congrArg (fun i => i.attempts) hi
          omega
      exact ⟨fun hd => (nomatch hpending.symm.trans hd), hattempts⟩

/-- A put is safe if what follows is. -/
theorem safe_put {α : Type} {Q : Option α → OutboxStore → Prop} {s : OutboxStore}
    (item : StoredOutboxItem) {k : Option Unit → Task Op (fun op => Option op.Ans) (Option α)}
    (hk : ∀ r s', outboxDiscipline.Rely n s s' → outboxDiscipline.Local n (some i) s' →
      Safe outboxDiscipline system.perform n i Q (k r) s') :
    Safe outboxDiscipline system.perform n i Q (.call (.putOutboxItem item) k) s := by
  intro s₁ _ hown hrely x r s₂ hcond hperform
  have hgrows : Grows s₁ s₂ ∧ s₂.published = s₁.published := by
    rcases attempted_cases hperform with ⟨-, -, rfl⟩ | ⟨-, -, rfl⟩
    · exact ⟨Grows.refl s₂, rfl⟩
    · exact ⟨grows_of_fresh (x := x) hcond, rfl⟩
  have hstep : ∀ m, outboxDiscipline.Rely m s₁ s₂ :=
    fun m => ⟨hgrows.1, fun id hid => hgrows.2 ▸ hid⟩
  have hown' := outboxDiscipline.stays n _ _ _ (hstep n) hown
  exact ⟨⟨trivial, fun m _ => hstep m, hown'⟩,
    hk r s₂ (outboxDiscipline.trans n _ _ _ hrely (hstep n)) hown'⟩

/-- Publishing is safe if the item was not delivered when the run began, and what follows is. -/
theorem safe_publish {α : Type} {Q : Option α → OutboxStore → Prop} {s : OutboxStore}
    {item : StoredOutboxItem} (hitem : ¬ Delivered item.id i.2)
    {k : Option (List Bool) → Task Op (fun op => Option op.Ans) (Option α)}
    (hk : ∀ r s', outboxDiscipline.Local n (some i) s' →
      Safe outboxDiscipline system.perform n i Q (k r) s') :
    Safe outboxDiscipline system.perform n i Q (.call (.publish item) k) s := by
  intro s₁ _ hown _ x r s₂ _ hperform
  rcases attempted_cases hperform with ⟨-, -, rfl⟩ | ⟨-, -, rfl⟩
  · exact ⟨⟨trivial, fun m _ => outboxDiscipline.refl m _, hown⟩, hk r _ hown⟩
  · have hown' : outboxDiscipline.Local n (some i)
        { s₁ with published := (n, item.id) :: s₁.published } := by
      refine ⟨hown.1, fun id hid => ?_⟩
      rcases List.mem_cons.1 hid with heq | hid
      · rw [(Prod.mk.inj heq).2]
        exact hitem
      · exact hown.2 id hid
    refine ⟨⟨trivial, fun m hm => ⟨Grows.refl _, fun id hid => ?_⟩, hown'⟩, hk r _ hown'⟩
    rcases List.mem_cons.1 hid with heq | hid
    · exact absurd (Prod.mk.inj heq).1 hm
    · exact hid

/-- **A run** over items that were not delivered when it began. -/
theorem safe_deliverEach (now : ℤ) {pending : List StoredOutboxItem} {s : OutboxStore}
    {counts : ℕ × ℕ} (hpending : ∀ item ∈ pending, ¬ Delivered item.id i.2) :
    Safe outboxDiscipline system.perform n i (fun _ _ => True)
      (deliverEach now pending counts).run s := by
  induction pending generalizing s counts with
  | nil => exact fun _ _ _ _ => trivial
  | cons item pending ih =>
      obtain ⟨delivered, failed⟩ := counts
      rw [List.forall_mem_cons] at hpending
      refine safe_publish hpending.1 fun r s₁ _ => ?_
      cases r with
      | none => exact fun _ _ _ _ => trivial
      | some results =>
          have hwrite : ∀ (written : StoredOutboxItem) (counts' : ℕ × ℕ),
              Safe outboxDiscipline system.perform n i (fun _ _ => True)
                (do attempt (Op.putOutboxItem written)
                    deliverEach now pending counts' : OutboxM (ℕ × ℕ)).run s₁ := by
            intro written counts'
            refine safe_put written fun r s₂ _ _ => ?_
            cases r with
            | none => exact fun _ _ _ _ => trivial
            | some _ => exact ih hpending.2
          change Safe outboxDiscipline system.perform n i (fun _ _ => True) (OptionT.run
            (if results.any id = true then _ else _)) s₁
          split_ifs
          · exact hwrite (acknowledged item) (delivered + 1, failed)
          · exact hwrite (retried now item) (delivered, failed + 1)

/-- What is listed as pending is not delivered. -/
theorem not_delivered_of_listed {now : ℤ} {s : OutboxStore} {i : StoredOutboxItem}
    (h : i ∈ listPendingOutbox now s) : ¬ Delivered i.id s := by
  rintro ⟨row, hrow, hdelivered⟩
  obtain ⟨hlisted, hpending⟩ := List.mem_filter.1 h
  obtain ⟨r, hr, rfl⟩ := List.mem_map.1 hlisted
  have hsame : r.2 = row := Option.some.inj ((Table.find?_eq_some_iff.2 hr).symm.trans hrow)
  have hnot : r.2.delivered = false := by
    rw [Bool.and_eq_true, Bool.not_eq_true'] at hpending
    exact hpending.1
  rw [hsame, hdelivered] at hnot
  cases hnot

/-- **Every call keeps to the outbox**, wherever it begins. -/
theorem starts : outboxDiscipline.Starts system fun _ _ _ _ => True := by
  intro n c s _ hfresh
  have hown : outboxDiscipline.Local n (some (c, s)) s :=
    ⟨Grows.refl s, fun id hid => absurd hid (hfresh id)⟩
  refine ⟨hown, ?_⟩
  cases c with
  | enqueue recipientPubkey relays wrap =>
      refine safe_put (enqueued recipientPubkey relays wrap) fun r s' _ _ => ?_
      cases r with
      | none => exact fun _ _ _ _ => trivial
      | some _ => exact fun _ _ _ _ => trivial
  | deliver now =>
      refine Safe.bindOption (P := fun _ _ => True) trivial hown ?_ (fun _ _ _ _ h => h)
        fun counts _ _ _ _ _ _ _ _ => trivial
      intro s₁ _ hown₁ _ x r s₂ _ hperform
      rcases attempted_cases hperform with ⟨-, rfl, rfl⟩ | ⟨-, rfl, rfl⟩
      · refine ⟨⟨trivial, fun m _ => outboxDiscipline.refl m _, hown₁⟩, fun _ _ _ _ => trivial⟩
      · refine ⟨⟨trivial, fun m _ => outboxDiscipline.refl m _, hown₁⟩, ?_⟩
        refine (safe_deliverEach now fun item hitem hdelivered => ?_).mono fun b _ _ _ => ?_
        · exact not_delivered_of_listed hitem (hown₁.1.delivered hdelivered)
        · cases b <;> exact trivial

/-- No write of a run of the calls is stale. -/
def NeverStale (s : OutboxStore) (as : List (Act Call Env)) : Prop :=
  ∀ e ∈ events (step system) (Pool.init s) as, Meets Fresh e.pre e.act

/-- **What is delivered stays delivered**, where no write is stale: an item that is stored stays, it
is not stored as undelivered again, its attempts do not decrease, and a run that begins after it was
stored as delivered does not publish it. -/
theorem delivered_stays {s : OutboxStore} (hempty : s.published = []) {as bs : List (Act Call Env)}
    (h : NeverStale s (as ++ bs)) {id : String} {row : OutboxRow}
    (hrow : (made s as).store.items.find? id = some row) :
    ∃ row', (made s (as ++ bs)).store.items.find? id = some row' ∧
      (row.delivered = true → row'.delivered = true ∧ ∀ m, (made s as).threads[m]? = none →
        (m, id) ∉ (made s (as ++ bs)).store.published) ∧
      row.attempts ≤ row'.attempts := by
  obtain ⟨hfirst, hrest⟩ := forall_events_append.1 h
  have hinit : Sound outboxDiscipline system (fun _ _ _ _ => True) (Pool.init s) :=
    sound_init trivial fun n id hid => by
      rw [hempty] at hid
      cases hid
  have hsound : Sound outboxDiscipline system _ (made s as) := sound_run starts hinit hfirst
  have hgrows : Grows (made s as).store (made s (as ++ bs)).store := by
    rw [made, made, run_append]
    exact stable_run starts (P := Grows (made s as).store) (fun _ _ _ hrely hg => hg.trans hrely.1)
      hsound (Grows.refl _) hrest
  obtain ⟨row', hrow', hdelivered, hattempts⟩ := hgrows id row hrow
  refine ⟨row', hrow', fun hd => ⟨hdelivered hd, fun m hnew hpublished => ?_⟩, hattempts⟩
  have hends : Sound outboxDiscipline system _ (made s (as ++ bs)) := sound_run starts hinit h
  cases ht : (made s (as ++ bs)).threads[m]? with
  | none => exact hends.fresh m (List.getElem?_eq_none_iff.1 ht) id hpublished
  | some t =>
      refine (hends.own m t ht).2 id hpublished ?_
      rw [made, run_append] at ht
      exact stable_began starts (P := Delivered id) (fun _ _ _ hrely hd => hrely.1.delivered hd)
        hsound ⟨row, hrow, hd⟩ hrest ht hnew

/-- A wrap for a recipient. -/
def demoWrap : Wrap :=
  { id := "w", pubkey := "e", kind := nip59KindGiftWrap, tags := [["p", "r"]], content := none
    verifies := true }

/-- Its item, after `attempts`. -/
def demoRow (attempts : ℕ) (next_retry_at : ℤ) (delivered : Bool) : OutboxRow :=
  { recipient_pubkey := "r", relays := ["wss://relay"], wrap := demoWrap, attempts, next_retry_at
    delivered }

/-- A wrap is enqueued, and a run finds no relay that takes it; a later run does. -/
def secondRun : List (Act Call Env) :=
  [.start (.enqueue "r" ["wss://relay"] demoWrap), .resume 0 ⟨.succeeds, []⟩,
    .start (.deliver 0), .resume 1 ⟨.succeeds, []⟩, .resume 1 ⟨.succeeds, [false]⟩,
    .resume 1 ⟨.succeeds, []⟩,
    .start (.deliver 2000), .resume 2 ⟨.succeeds, []⟩, .resume 2 ⟨.succeeds, [true]⟩,
    .resume 2 ⟨.succeeds, []⟩]

/-- One run more. -/
def thirdRun : List (Act Call Env) := [.start (.deliver 4000), .resume 3 ⟨.succeeds, []⟩]

theorem delivered_stays_third : ∃ row',
    (made {} (secondRun ++ thirdRun)).store.items.find? "w" = some row' ∧
      ((demoRow 1 2000 true).delivered = true → row'.delivered = true ∧
        ∀ m, (made {} secondRun).threads[m]? = none →
          (m, "w") ∉ (made {} (secondRun ++ thirdRun)).store.published) ∧
      (demoRow 1 2000 true).attempts ≤ row'.attempts := by
  have hfresh : NeverStale {} (secondRun ++ thirdRun) := by
    rw [NeverStale]
    decide
  have hrow : (made {} secondRun).store.items.find? "w" = some (demoRow 1 2000 true) := by decide
  exact delivered_stays rfl hfresh hrow

/-- Two runs list the item; the first delivers it. -/
def firstDelivers : List (Act Call Env) :=
  [.start (.enqueue "r" ["wss://relay"] demoWrap), .resume 0 ⟨.succeeds, []⟩,
    .start (.deliver 0), .start (.deliver 0), .resume 1 ⟨.succeeds, []⟩, .resume 2 ⟨.succeeds, []⟩,
    .resume 1 ⟨.succeeds, [true]⟩, .resume 1 ⟨.succeeds, []⟩]

/-- The second does not, and writes the item back. -/
def secondFails : List (Act Call Env) :=
  [.resume 2 ⟨.succeeds, [false]⟩, .resume 2 ⟨.succeeds, []⟩]

/-- **Not everything that is delivered stays so**: of two runs that overlap, the one that fails
writes the item back as it has listed it. -/
theorem delivery_forgotten : ¬ ∀ (s : OutboxStore), s.published = [] →
    ∀ (as bs : List (Act Call Env)) (id : String) (row : OutboxRow),
      (made s as).store.items.find? id = some row →
        ∃ row', (made s (as ++ bs)).store.items.find? id = some row' ∧
          (row.delivered = true → row'.delivered = true ∧
            ∀ m, (made s as).threads[m]? = none → (m, id) ∉ (made s (as ++ bs)).store.published) ∧
          row.attempts ≤ row'.attempts := by
  intro hclaim
  have hrow : (made {} firstDelivers).store.items.find? "w" = some (demoRow 0 0 true) := by decide
  have hrow' : (made {} (firstDelivers ++ secondFails)).store.items.find? "w" =
      some (demoRow 1 2000 false) := by decide
  obtain ⟨row', hfind, hstays, -⟩ := hclaim {} rfl firstDelivers secondFails "w" _ hrow
  obtain rfl := Option.some.inj (hrow'.symm.trans hfind)
  exact nomatch (hstays rfl).1

end Outbox
end Chat
end Pwa
end SentinelMesh
