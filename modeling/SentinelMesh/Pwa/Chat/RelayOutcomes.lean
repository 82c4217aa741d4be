/-
# What the relays answer, and what the outbox makes of it

`RelayPool.publish` of `services/relay/relayPool.ts`, which `RelayPoolAdapter` hands on, under
`deliverPendingOutbox`.  The promises of `pool.publish` are by the item and the place of the
relay in its list: one resolves with the text of the relay, or is rejected.

A run is taken alone, with a store that does not fail: `settle` is what its operations come to,
and the program is that of `Outbox`.  One refusal rejects all the promises of an item, and the
loop with them (`deliverEach_refused`); without a refusal every item is written back once
(`deliverEach_accepted`), by the texts of its relays.  `exact_iff` is what is left of an exact
delivery.
-/

import SentinelMesh.Lib.Linearizable
import SentinelMesh.Pwa.Chat.Outbox

namespace SentinelMesh
namespace Pwa
namespace Chat
namespace Outbox

open Lib Lib.Task

/-- What becomes of the promise of a relay for an item, by the id of the item and the place of
the relay: the text it resolves with; `none` is a rejection. -/
abbrev Outcomes := String → ℕ → Option String

/-- `pool.publish`: a promise for each relay. -/
def promises (outcomes : Outcomes) (item : StoredOutboxItem) : List (Option String) :=
  (List.range item.relays.length).map (outcomes item.id)

/-- `Promise.all`. -/
def promiseAll : List (Option String) → Option (List String)
  | [] => some []
  | none :: _ => none
  | some value :: ps => (promiseAll ps).map (value :: ·)

/-- What `RelayPool.publish` returns for a relay. -/
structure PublishResult where
  url : String
  ok : Bool
  message : String
  deriving DecidableEq

/-- `message === 'success' || message === 'duplicate'`. -/
def isOkText (message : String) : Bool := message = "success" || message = "duplicate"

/-- `RelayPool.publish`, and `RelayPoolAdapter.publish`. -/
def relayPoolPublish (outcomes : Outcomes) (item : StoredOutboxItem) :
    Option (List PublishResult) :=
  (promiseAll (promises outcomes item)).map fun results =>
    (item.relays.zip results).map fun r => { url := r.1, ok := isOkText r.2, message := r.2 }

/-- What `ok` is of the relays, where the promises are kept. -/
def oks (outcomes : Outcomes) (item : StoredOutboxItem) : Option (List Bool) :=
  (relayPoolPublish outcomes item).map fun results => results.map PublishResult.ok

/-- What an operation of a run comes to that is alone: the store does not fail, and the relays
do as they do. -/
def settle (outcomes : Outcomes) :
    (op : Op) → OutboxStore → Option (Option op.Ans × OutboxStore)
  | .putOutboxItem item, s =>
    some (some (), { s with items := s.items.put item.id item.toOutboxRow })
  | .listPendingOutbox now, s => some (some (listPendingOutbox now s), s)
  | .publish item, s =>
    some (oks outcomes item, { s with published := (0, item.id) :: s.published })

/-- `deliverPendingOutbox`, alone: what it returns, `none` for a rejection, and the outbox. -/
def deliverAlone (outcomes : Outcomes) (now : ℤ) (s : OutboxStore) :
    Option (Option (ℕ × ℕ) × OutboxStore) :=
  (deliverPendingOutbox now).run.alone (settle outcomes) s

/-- A relay of the item has accepted it. -/
def Accepted (outcomes : Outcomes) (item : StoredOutboxItem) : Prop :=
  ∃ i < item.relays.length, outcomes item.id i ≠ none

/-- **An exact delivery**: the run completes; it publishes every due item once; it marks as
delivered those that a relay has accepted, and gives the others an attempt more and a time to
come. -/
def Exact (outcomes : Outcomes) (now : ℤ) (s : OutboxStore) : Prop :=
  let due := listPendingOutbox now s
  ∃ counts s', deliverAlone outcomes now s = some (some counts, s') ∧
    s'.published = (due.map fun item => (0, item.id)).reverse ++ s.published ∧
    ∀ item ∈ due, ∃ row, s'.items.find? item.id = some row ∧
      (row.delivered = true ↔ Accepted outcomes item) ∧
      (¬ Accepted outcomes item →
        row.attempts = item.attempts + 1 ∧ now < row.next_retry_at)

/-- No relay of the item refuses it, and if it has relays, one answers a text that counts. -/
def Clear (outcomes : Outcomes) (item : StoredOutboxItem) : Prop :=
  (∀ i < item.relays.length, outcomes item.id i ≠ none) ∧
    (item.relays = [] ∨
      ∃ i < item.relays.length, ∃ text, outcomes item.id i = some text ∧ isOkText text = true)

/-! ### One item -/

/-- Without a rejection all the texts have come. -/
theorem promiseAll_of_forall {ps : List (Option String)} (h : ∀ p ∈ ps, p ≠ none) :
    ∃ texts, promiseAll ps = some texts ∧ ps = texts.map some := by
  induction ps with
  | nil => exact ⟨[], rfl, rfl⟩
  | cons p ps ih =>
      rw [List.forall_mem_cons] at h
      obtain ⟨text, rfl⟩ := Option.ne_none_iff_exists'.1 h.1
      obtain ⟨texts, htexts, rfl⟩ := ih h.2
      exact ⟨text :: texts, by rw [promiseAll, htexts, Option.map_some], rfl⟩

theorem promiseAll_of_mem_none {ps : List (Option String)} (h : none ∈ ps) :
    promiseAll ps = none := by
  induction ps with
  | nil => cases h
  | cons p ps ih =>
      cases p with
      | none => rfl
      | some value =>
          have hrest : none ∈ ps := (List.mem_cons.1 h).resolve_left (fun heq => nomatch heq)
          rw [promiseAll, ih hrest, Option.map_none]

/-- A text that counts has come for the item. -/
def acknowledges (outcomes : Outcomes) (item : StoredOutboxItem) : Bool :=
  (List.range item.relays.length).any fun i => (outcomes item.id i).any isOkText

theorem acknowledges_iff {outcomes : Outcomes} {item : StoredOutboxItem} :
    acknowledges outcomes item = true ↔
      ∃ i < item.relays.length, ∃ text, outcomes item.id i = some text ∧
        isOkText text = true := by
  unfold acknowledges
  rw [List.any_eq_true]
  refine exists_congr fun i => and_congr List.mem_range ?_
  rw [Option.any_eq_true]

/-- The promises are kept: the item counts as sent if one text counts. -/
theorem oks_accepted {outcomes : Outcomes} {item : StoredOutboxItem}
    (h : ∀ i < item.relays.length, outcomes item.id i ≠ none) :
    ∃ results, oks outcomes item = some results ∧
      results.any id = acknowledges outcomes item := by
  have hall : ∀ p ∈ promises outcomes item, p ≠ none := by
    intro p hp
    obtain ⟨i, hi, rfl⟩ := List.mem_map.1 hp
    exact h i (List.mem_range.1 hi)
  obtain ⟨texts, hresolved, htexts⟩ := promiseAll_of_forall hall
  have hlength : texts.length = item.relays.length := by
    have hboth := congrArg List.length htexts
    rw [promises, List.length_map, List.length_range, List.length_map] at hboth
    exact hboth.symm
  refine ⟨texts.map isOkText, ?_, ?_⟩
  · have hok : ((item.relays.zip texts).map fun r =>
        ({ url := r.1, ok := isOkText r.2, message := r.2 } : PublishResult)).map PublishResult.ok =
          texts.map isOkText := by
      rw [List.map_map]
      change (item.relays.zip texts).map (isOkText ∘ Prod.snd) = _
      rw [← List.map_map, List.map_snd_zip hlength.le]
    unfold oks relayPoolPublish
    rw [hresolved, Option.map_some, Option.map_some, hok]
  · have hany : (promises outcomes item).any (fun p => p.any isOkText) =
        acknowledges outcomes item := List.any_map
    rw [← hany, htexts, List.any_map, List.any_map]
    rfl

/-- One refusal rejects them all. -/
theorem oks_refused {outcomes : Outcomes} {item : StoredOutboxItem}
    (h : ∃ i < item.relays.length, outcomes item.id i = none) : oks outcomes item = none := by
  obtain ⟨i, hi, hnone⟩ := h
  have hmem : none ∈ promises outcomes item :=
    List.mem_map.2 ⟨i, List.mem_range.2 hi, hnone⟩
  unfold oks relayPoolPublish
  rw [promiseAll_of_mem_none hmem]
  rfl

/-! ### The loop -/

/-- How an item is written back. -/
def written (outcomes : Outcomes) (now : ℤ) (item : StoredOutboxItem) : StoredOutboxItem :=
  if acknowledges outcomes item then acknowledged item else retried now item

@[simp] theorem written_id (outcomes : Outcomes) (now : ℤ) (item : StoredOutboxItem) :
    (written outcomes now item).id = item.id := by
  unfold written
  split_ifs <;> rfl

/-- An item is published and written back. -/
def record (outcomes : Outcomes) (now : ℤ) (s : OutboxStore) (item : StoredOutboxItem) :
    OutboxStore :=
  { items := s.items.put item.id (written outcomes now item).toOutboxRow
    published := (0, item.id) :: s.published }

/-- The counts after an item. -/
def counted (outcomes : Outcomes) (item : StoredOutboxItem) (counts : ℕ × ℕ) : ℕ × ℕ :=
  if acknowledges outcomes item then (counts.1 + 1, counts.2) else (counts.1, counts.2 + 1)

/-- One turn of the loop, where no relay of the item refuses. -/
theorem deliverEach_cons_accepted {outcomes : Outcomes} (now : ℤ) {item : StoredOutboxItem}
    (h : ∀ i < item.relays.length, outcomes item.id i ≠ none) (pending : List StoredOutboxItem)
    (counts : ℕ × ℕ) (s : OutboxStore) :
    (deliverEach now (item :: pending) counts).run.alone (settle outcomes) s =
      (deliverEach now pending (counted outcomes item counts)).run.alone (settle outcomes)
        (record outcomes now s item) := by
  obtain ⟨results, hoks, hany⟩ := oks_accepted h
  have hsettle : settle outcomes (.publish item) s =
      some (some results, { s with published := (0, item.id) :: s.published }) :=
    congrArg (fun r => some (r, _)) hoks
  obtain ⟨delivered, failed⟩ := counts
  unfold counted record written
  rw [← hany]
  change ((settle outcomes (.publish item) s).bind fun _ => _) = _
  rw [hsettle]
  change Task.alone (settle outcomes) (OptionT.run
    (if results.any id = true then _ else _)) _ = _
  split_ifs
  · rfl
  · rfl

/-- **A loop without a refusal** records every item. -/
theorem deliverEach_accepted {outcomes : Outcomes} (now : ℤ) {pending : List StoredOutboxItem}
    (h : ∀ item ∈ pending, ∀ i < item.relays.length, outcomes item.id i ≠ none)
    (counts : ℕ × ℕ) (s : OutboxStore) :
    ∃ counts', (deliverEach now pending counts).run.alone (settle outcomes) s =
      some (some counts', pending.foldl (record outcomes now) s) := by
  induction pending generalizing counts s with
  | nil => exact ⟨counts, rfl⟩
  | cons item pending ih =>
      rw [List.forall_mem_cons] at h
      rw [deliverEach_cons_accepted now h.1, List.foldl_cons]
      exact ih h.2 _ _

/-- **A loop with a refusal** is rejected. -/
theorem deliverEach_refused {outcomes : Outcomes} (now : ℤ) {pending : List StoredOutboxItem}
    (h : ∃ item ∈ pending, ∃ i < item.relays.length, outcomes item.id i = none)
    (counts : ℕ × ℕ) (s : OutboxStore) :
    ∃ s', (deliverEach now pending counts).run.alone (settle outcomes) s = some (none, s') := by
  induction pending generalizing counts s with
  | nil =>
      obtain ⟨item, hitem, _⟩ := h
      cases hitem
  | cons item pending ih =>
      by_cases hrefused : ∃ i < item.relays.length, outcomes item.id i = none
      · have hsettle : settle outcomes (.publish item) s =
            some (none, { s with published := (0, item.id) :: s.published }) :=
          congrArg (fun r => some (r, _)) (oks_refused hrefused)
        obtain ⟨delivered, failed⟩ := counts
        refine ⟨{ s with published := (0, item.id) :: s.published }, ?_⟩
        change ((settle outcomes (.publish item) s).bind fun _ => _) = _
        rw [hsettle]
        rfl
      · have haccepted : ∀ i < item.relays.length, outcomes item.id i ≠ none :=
          fun i hi hnone => hrefused ⟨i, hi, hnone⟩
        rw [deliverEach_cons_accepted now haccepted]
        obtain ⟨item', hitem', hnone⟩ := h
        refine ih ⟨item', ?_, hnone⟩ _ _
        refine (List.mem_cons.1 hitem').resolve_left ?_
        rintro rfl
        exact hrefused hnone

/-! ### What is recorded -/

theorem published_foldl_record (outcomes : Outcomes) (now : ℤ) (pending : List StoredOutboxItem)
    (s : OutboxStore) :
    (pending.foldl (record outcomes now) s).published =
      (pending.map fun item => (0, item.id)).reverse ++ s.published := by
  induction pending generalizing s with
  | nil => rfl
  | cons item pending ih =>
      rw [List.foldl_cons, ih, List.map_cons, List.reverse_cons, List.append_assoc]
      rfl

theorem find?_foldl_record_of_notMem {outcomes : Outcomes} {now : ℤ}
    {pending : List StoredOutboxItem} {id : String} (h : ∀ item ∈ pending, item.id ≠ id)
    (s : OutboxStore) :
    (pending.foldl (record outcomes now) s).items.find? id = s.items.find? id := by
  induction pending generalizing s with
  | nil => rfl
  | cons item pending ih =>
      rw [List.forall_mem_cons] at h
      rw [List.foldl_cons, ih h.2]
      exact (Table.find?_put _ _ _ _).trans (if_neg (Ne.symm h.1))

/-- Each item is written back once, under its own id. -/
theorem find?_foldl_record {outcomes : Outcomes} {now : ℤ} {pending : List StoredOutboxItem}
    (hnodup : (pending.map StoredOutboxItem.id).Nodup) {item : StoredOutboxItem}
    (hitem : item ∈ pending) (s : OutboxStore) :
    (pending.foldl (record outcomes now) s).items.find? item.id =
      some (written outcomes now item).toOutboxRow := by
  induction pending generalizing s with
  | nil => cases hitem
  | cons head pending ih =>
      rw [List.map_cons, List.nodup_cons] at hnodup
      rw [List.foldl_cons]
      rcases List.mem_cons.1 hitem with rfl | hrest
      · have hothers : ∀ other ∈ pending, other.id ≠ item.id :=
          fun other hother heq => hnodup.1 (heq ▸ List.mem_map_of_mem hother)
        rw [find?_foldl_record_of_notMem hothers]
        exact (Table.find?_put _ _ _ _).trans (if_pos rfl)
      · exact ih hnodup.2 hrest _

/-- Items that are due have ids of their own. -/
theorem due_nodup (now : ℤ) (s : OutboxStore) :
    ((listPendingOutbox now s).map StoredOutboxItem.id).Nodup := by
  have hkeys : ((s.items.rows.map item).map StoredOutboxItem.id).Nodup := by
    rw [List.map_map]
    exact s.items.nodup
  exact hkeys.sublist (List.filter_sublist.map _)

/-- Items that are due have not been delivered. -/
theorem due_pending {now : ℤ} {s : OutboxStore} {item : StoredOutboxItem}
    (h : item ∈ listPendingOutbox now s) : item.delivered = false := by
  have hfilter := (List.mem_filter.1 h).2
  rw [Bool.and_eq_true, Bool.not_eq_true'] at hfilter
  exact hfilter.1

/-- The row that is written back. -/
theorem written_row (outcomes : Outcomes) (now : ℤ) {item : StoredOutboxItem}
    (hpending : item.delivered = false) :
    ((written outcomes now item).delivered = true ↔ acknowledges outcomes item = true) ∧
      (acknowledges outcomes item = false →
        (written outcomes now item).attempts = item.attempts + 1 ∧
          now < (written outcomes now item).next_retry_at) := by
  have hfuture : now < now + min maxBackoffMs (1000 * 2 ^ (item.attempts + 1)) := by
    have hmax : 0 < maxBackoffMs := by decide
    have hpow : (0 : ℤ) < 1000 * 2 ^ (item.attempts + 1) := by positivity
    exact lt_add_of_pos_right now (lt_min hmax hpow)
  unfold written
  cases acknowledges outcomes item with
  | true => exact ⟨iff_of_true rfl rfl, fun heq => nomatch heq⟩
  | false =>
      refine ⟨iff_of_false ?_ (fun heq => nomatch heq), fun _ => ⟨rfl, hfuture⟩⟩
      exact fun heq => nomatch hpending.symm.trans heq

/-- **When a delivery is exact**: if and only if no relay of a due item refuses, and of the
relays of each due item that has any, one answers with a text that counts. -/
theorem exact_iff (outcomes : Outcomes) (now : ℤ) (s : OutboxStore) :
    Exact outcomes now s ↔ ∀ item ∈ listPendingOutbox now s, Clear outcomes item := by
  constructor
  · rintro ⟨counts, s', hreturns, _, hrows⟩
    have haccepted : ∀ item ∈ listPendingOutbox now s, ∀ i < item.relays.length,
        outcomes item.id i ≠ none := by
      intro item hitem i hi hnone
      obtain ⟨s'', hrejected⟩ := deliverEach_refused now ⟨item, hitem, i, hi, hnone⟩ (0, 0) s
      cases hrejected.symm.trans hreturns
    obtain ⟨counts', hloop⟩ := deliverEach_accepted now haccepted (0, 0) s
    obtain ⟨-, rfl⟩ := Prod.mk.inj (Option.some.inj (hloop.symm.trans hreturns))
    intro item hitem
    refine ⟨haccepted item hitem, or_iff_not_imp_left.2 fun hrelays => ?_⟩
    obtain ⟨row, hrow, hdelivered, _⟩ := hrows item hitem
    obtain rfl := Option.some.inj ((find?_foldl_record (due_nodup now s) hitem s).symm.trans hrow)
    have hfirst : 0 < item.relays.length := List.length_pos_iff.2 hrelays
    have hreached : Accepted outcomes item := ⟨0, hfirst, haccepted item hitem 0 hfirst⟩
    exact acknowledges_iff.1 ((written_row outcomes now (due_pending hitem)).1.1 (hdelivered.2 hreached))
  · intro hclear
    obtain ⟨counts, hloop⟩ := deliverEach_accepted now (fun item hitem => (hclear item hitem).1)
      (0, 0) s
    refine ⟨counts, _, hloop, published_foldl_record outcomes now _ s, fun item hitem => ?_⟩
    refine ⟨_, find?_foldl_record (due_nodup now s) hitem s, ?_⟩
    obtain ⟨hdelivered, hretried⟩ := written_row outcomes now (due_pending hitem)
    obtain ⟨haccepted, htext⟩ := hclear item hitem
    have hsame : acknowledges outcomes item = true ↔ Accepted outcomes item := by
      rw [acknowledges_iff]
      constructor
      · rintro ⟨i, hi, text, hsome, _⟩
        exact ⟨i, hi, fun hnone => nomatch hnone.symm.trans hsome⟩
      · rintro ⟨i, hi, _⟩
        refine htext.resolve_left ?_
        intro hnil
        rw [hnil] at hi
        exact absurd hi (Nat.not_lt_zero i)
    exact ⟨hdelivered.trans hsame,
      fun hnot => hretried (Bool.eq_false_iff.2 fun htrue => hnot (hsame.1 htrue))⟩

/-! ### The usual text -/

/-- Two items that are due. -/
def twoDue : OutboxStore :=
  { items := (Table.empty.put "a" (demoRow 0 0 false)).put "w" (demoRow 0 0 false) }

/-- The second of them. -/
def demoItem : StoredOutboxItem := item ("w", demoRow 0 0 false)

/-- The relay of the first refuses it. -/
def firstRefused : Outcomes := fun id _ => if id = "a" then none else some "success"

/-- Every relay accepts, with the usual text. -/
def emptyTexts : Outcomes := fun _ _ => some ""

/-- With the refusal the run is rejected, and the second item is not attempted; without one, the
items are attempted, accepted, and not delivered. -/
theorem not_exact :
    ¬ Exact firstRefused 0 twoDue ∧
      (∀ r ∈ deliverAlone firstRefused 0 twoDue, r.1 = none ∧ (0, "w") ∉ r.2.published) ∧
      ¬ Exact emptyTexts 0 twoDue := by
  refine ⟨?_, by decide, ?_⟩
  · rintro ⟨counts, s', hreturns, _⟩
    have hrejected : (deliverAlone firstRefused 0 twoDue).map Prod.fst = some none := by decide
    rw [hreturns] at hrejected
    cases hrejected
  · rintro ⟨counts, s', hreturns, _, hrows⟩
    have hdue : demoItem ∈ listPendingOutbox 0 twoDue := by decide
    obtain ⟨row, hrow, hdelivered, _⟩ := hrows demoItem hdue
    have hpending : ((deliverAlone emptyTexts 0 twoDue).bind fun r => r.2.items.find? "w").map
        OutboxRow.delivered = some false := by decide
    rw [hreturns, Option.bind_some] at hpending
    have hnot : some row.delivered = some false := (congrArg (Option.map _) hrow).symm.trans hpending
    have haccepted : Accepted emptyTexts demoItem := ⟨0, by decide, nofun⟩
    exact absurd (hdelivered.2 haccepted) (Bool.eq_false_iff.1 (Option.some.inj hnot))

end Outbox
end Chat
end Pwa
end SentinelMesh
