/-
# Machine events: the stream reader

`read_loop` of `subscribers/event_subscriber.rs`: a consumer of a Redis stream that
asks only for entries never delivered to its group (`>`), takes up to a hundred at a
time, handles them in order and acknowledges them one by one.  Any error but that of
`handle_message` ends the loop, and `run` starts it again.

An entry leaves the batch with a row in `nlp_signals`, or without one; what leaves
without is never asked for again, acknowledged or not, and what has a row is not
asked for again either.  So the rows of entries, the rest of the batch and what has
gone (`gone`) make up what was delivered (`count_run`): no entry has two rows, and when
everything has been delivered and handled, the entries without one are those that went
(`staged_once_iff`).

How an entry is read is a parameter: the text of a value, the JSON of a text, the
validity of it and the message in it.  A handled message commits or not; if it does,
it may still be reported as failed.
-/

import SentinelMesh.Nlp.System
import Mathlib.Data.List.Count
import Mathlib.Data.List.Range

namespace SentinelMesh
namespace Nlp
namespace Reader

open Lib

/-- How entries are read: `redis::from_redis_value`, `serde_json::from_str`, the validator
of `event_schema.json`, and `serde_json::from_value`. -/
structure Codec (V J : Type) where
  text : V → Option String
  json : String → Option J
  validate : J → Bool
  payload : J → Option RedisEventPayload

/-- What the loop does with an entry. -/
inductive Verdict
  | skip
  | fail
  | handle (event : RedisEventPayload)
  deriving DecidableEq

variable {V J : Type}

/-- What the loop does with an entry, by its `payload` field: a value that is no text ends
the loop, everything else that cannot be read is acknowledged and skipped. -/
def Codec.verdict (c : Codec V J) : Option V → Verdict
  | none => .skip
  | some v =>
    match c.text v with
    | none => .fail
    | some t =>
      match c.json t with
      | none => .skip
      | some j =>
        if !c.validate j then .skip
        else match c.payload j with
          | none => .skip
          | some event => .handle event

/-- The entry is valid by the schema. -/
def Codec.schemaValid (c : Codec V J) (p : Option V) : Bool :=
  ((p.bind c.text).bind c.json).any c.validate

/-- `BATCH`. -/
def batchSize : ℕ := 100

/-- The stream, how much of it was delivered to the group, the entries of the last reply
still to do while the reader is connected, the tables, and, for the rows of
`nlp_signals` in order, the entry each is from. -/
structure Sys (V : Type) where
  entries : List (Option V) := []
  delivered : ℕ := 0
  batch : Option (List ℕ) := none
  sys : Nlp.Sys
  origins : List ℕ := []

/-- The start: an empty stream and no event. -/
def Sys.init (start : Timestamp) (subscriptions : Table Uuid (Option PushPreferences)) : Sys V :=
  { sys := Nlp.Sys.init start subscriptions }

/-- What goes wrong with a transaction: nothing, something before its commit, or something
after. -/
inductive Fault
  | none
  | before
  | after
  deriving DecidableEq

/-- How the next entry fares: what its transaction finds and the id it may give, what goes
wrong, and whether `XACK` succeeds. -/
structure Fate where
  existing : Option Uuid
  id : Uuid
  fault : Fault := .none
  acked : Bool := true
  deriving DecidableEq

/-- What can happen next: an entry is added, the reader connects, it reads, with a reply
that may be lost, it does the next entry, it loses its connection or is restarted, or
something happens to the tables elsewhere. -/
inductive Act (V : Type)
  | add (p : Option V)
  | connect
  | read (lost : Bool)
  | next (f : Fate)
  | drop
  | elsewhere (a : Nlp.Act)

/-- The tables after the transaction of `handle_message`, if it commits. -/
def handle (env : Env) (s : Nlp.Sys) (event : RedisEventPayload) (f : Fate) : Option Db :=
  if f.fault = .before ∨ (s.db.events.find? f.id).isSome then none
  else match (stage env { event, began := s.now, existing := f.existing } f.id).run s.db with
    | .ok (_, db) => some db
    | .error _ => none

/-- The entries the next read delivers. -/
def Sys.fresh (s : Sys V) : List ℕ :=
  List.range' s.delivered (min batchSize (s.entries.length - s.delivered))

/-- The rest of the batch after an acknowledgement: if it fails, the loop ends. -/
def afterAck (acked : Bool) (rest : List ℕ) : Option (List ℕ) := if acked then some rest else none

/-- The next state; an action that is not possible changes nothing. -/
def step (env : Env) (c : Codec V J) (s : Sys V) : Act V → Sys V
  | .add p => { s with entries := s.entries ++ [p] }
  | .connect => if s.batch = none then { s with batch := some [] } else s
  | .read lost =>
    if s.batch = some [] then
      { s with
        delivered := s.delivered + s.fresh.length
        batch := if lost then none else some s.fresh }
    else s
  | .next f =>
    match s.batch with
    | some (k :: rest) =>
      match c.verdict (s.entries[k]?.getD none) with
      | .skip => { s with batch := afterAck f.acked rest }
      | .fail => { s with batch := none }
      | .handle event =>
        match handle env s.sys event f with
        | none => { s with batch := some rest }
        | some db =>
          { s with
            sys := { s.sys with db }
            origins := s.origins ++ [k]
            batch := if f.fault = .after then some rest else afterAck f.acked rest }
    | _ => s
  | .drop => { s with batch := none }
  | .elsewhere a =>
    match a with
    | .begin _ _ | .commit _ _ | .abandon _ => s
    | a => { s with sys := Nlp.step env s.sys a }

/-- The entries that leave the reader in a step without a row. -/
def gone (env : Env) (c : Codec V J) (s : Sys V) : Act V → List ℕ
  | .read lost => if s.batch = some [] ∧ lost = true then s.fresh else []
  | .next f =>
    match s.batch with
    | some (k :: rest) =>
      match c.verdict (s.entries[k]?.getD none) with
      | .skip => k :: if f.acked then [] else rest
      | .fail => k :: rest
      | .handle event =>
        match handle env s.sys event f with
        | none => [k]
        | some _ => if f.fault = .after ∨ f.acked = true then [] else rest
    | _ => []
  | .drop => s.batch.getD []
  | .add _ | .connect | .elsewhere _ => []

/-- The rows of `nlp_signals` that are from an entry. -/
def Sys.rows (s : Sys V) (k : ℕ) : List Signal :=
  (s.origins.zip s.sys.db.signals).filterMap fun r => if r.1 = k then some r.2 else none

/-- The reader is connected and has done everything there is. -/
def Sys.Quiet (s : Sys V) : Prop := s.batch = some [] ∧ s.delivered = s.entries.length

instance (s : Sys V) : Decidable s.Quiet := inferInstanceAs (Decidable (_ ∧ _))

/-! ### Where entries are -/

variable {env : Env} {c : Codec V J} {s : Sys V}

/-- How often an entry is in the batch, or has a row. -/
def Sys.held (s : Sys V) (k : ℕ) : ℕ := (s.batch.getD []).count k + s.origins.count k

/-- The entries a read delivers, counted. -/
theorem count_fresh (s : Sys V) (k : ℕ) : s.fresh.count k =
    if s.delivered ≤ k ∧ k < s.delivered + s.fresh.length then 1 else 0 := by
  unfold Sys.fresh
  rw [List.length_range']
  split_ifs with hk
  · exact List.count_eq_one_of_mem (List.nodup_range' ..) (List.mem_range'_1.2 hk)
  · exact List.count_eq_zero.2 fun hmem => hk (List.mem_range'_1.1 hmem)

/-- The batch after an acknowledgement, and what goes if it fails. -/
theorem count_afterAck (acked : Bool) (rest : List ℕ) (k : ℕ) :
    ((afterAck acked rest).getD []).count k + (if acked then [] else rest).count k =
      rest.count k := by
  cases acked <;> simp [afterAck]

/-- A step on the next entry moves it, and perhaps the rest of the batch, to the rows or
away. -/
theorem held_next (f : Fate) (k : ℕ) :
    (step env c s (.next f)).delivered = s.delivered ∧
      (step env c s (.next f)).held k + (gone env c s (.next f)).count k = s.held k := by
  have hnone : ∀ t l, t = s → l = [] → t.delivered = s.delivered ∧ t.held k + l.count k = s.held k := by
    rintro t l rfl rfl
    exact ⟨rfl, rfl⟩
  cases hb : s.batch with
  | none => exact hnone _ _ (by simp only [step, hb]) (by simp only [gone, hb])
  | some batch =>
      cases batch with
      | nil => exact hnone _ _ (by simp only [step, hb]) (by simp only [gone, hb])
      | cons j rest =>
          have hcount : s.held k = (if j = k then 1 else 0) + rest.count k + s.origins.count k := by
            unfold Sys.held
            rw [hb, Option.getD_some, List.count_cons]
            simp only [beq_iff_eq]
            omega
          have hack := count_afterAck f.acked rest k
          rw [hcount]
          cases hv : c.verdict (s.entries[j]?.getD none) with
          | skip =>
              simp only [step, gone, hb, hv, Sys.held, List.count_cons, beq_iff_eq, true_and]
              omega
          | fail =>
              simp only [step, gone, hb, hv, Sys.held, List.count_cons, beq_iff_eq, true_and,
                Option.getD_none, List.count_nil]
              omega
          | handle event =>
              cases hh : handle env s.sys event f with
              | none =>
                  simp only [step, gone, hb, hv, hh, Sys.held, List.count_singleton, beq_iff_eq,
                    true_and, Option.getD_some]
                  omega
              | some db =>
                  simp only [step, gone, hb, hv, hh, Sys.held, List.count_append,
                    List.count_singleton, beq_iff_eq, true_and]
                  by_cases hafter : f.fault = .after
                  · simp only [hafter, if_true, true_or, Option.getD_some, List.count_nil]
                    omega
                  · simp only [hafter, if_false, false_or]
                    omega

/-- **Nothing leaves unseen, and nothing comes back**: what is in the batch or has a row,
with what has gone, grows by what is delivered. -/
theorem held_step (a : Act V) (k : ℕ) :
    (step env c s a).held k + (gone env c s a).count k =
      s.held k + if s.delivered ≤ k ∧ k < (step env c s a).delivered then 1 else 0 := by
  have hmoved : ∀ (t : Sys V) (l : List ℕ), t.delivered = s.delivered →
      t.held k + l.count k = s.held k →
      t.held k + l.count k = s.held k + if s.delivered ≤ k ∧ k < t.delivered then 1 else 0 := by
    intro t l hdel hheld
    rw [hdel, hheld, if_neg (by omega), Nat.add_zero]
  cases a with
  | add p => exact hmoved _ _ rfl rfl
  | connect =>
      by_cases hb : s.batch = none
      · refine hmoved _ _ ?_ ?_
        · simp only [step, hb, if_true]
        · simp only [step, gone, Sys.held, hb, if_true, Option.getD_some, Option.getD_none,
            List.count_nil, Nat.add_zero]
      · simp only [step, gone, hb, if_false]
        exact hmoved _ _ rfl rfl
  | read lost =>
      by_cases hb : s.batch = some []
      · have hfresh := count_fresh s k
        simp only [step, gone, Sys.held, hb, if_true, true_and, Option.getD_some, List.count_nil]
        rw [← hfresh]
        cases lost <;> simp [Nat.add_comm]
      · simp only [step, gone, hb, if_false, false_and]
        exact hmoved _ _ rfl rfl
  | next f => exact hmoved _ _ (held_next f k).1 (held_next f k).2
  | drop =>
      refine hmoved _ _ rfl ?_
      simp only [step, gone, Sys.held, Option.getD_none, List.count_nil]
      omega
  | elsewhere a =>
      cases a <;> exact hmoved _ _ rfl rfl

/-- The stream only grows. -/
theorem entries_step (a : Act V) : s.entries <+: (step env c s a).entries := by
  cases a with
  | add p => exact List.prefix_append _ _
  | connect =>
      unfold step
      split_ifs <;> exact List.prefix_refl _
  | read lost =>
      unfold step
      split_ifs <;> exact List.prefix_refl _
  | next f =>
      rw [step]
      split
      · split
        · exact List.prefix_refl _
        · exact List.prefix_refl _
        · split <;> exact List.prefix_refl _
      · exact List.prefix_refl _
  | drop => exact List.prefix_refl _
  | elsewhere a => cases a <;> exact List.prefix_refl _

/-- No more is delivered than there is. -/
theorem delivered_step (a : Act V) (h : s.delivered ≤ s.entries.length) :
    s.delivered ≤ (step env c s a).delivered ∧
      (step env c s a).delivered ≤ (step env c s a).entries.length := by
  have hlen : s.entries.length ≤ (step env c s a).entries.length := (entries_step a).length_le
  have hkeep : (step env c s a).delivered = s.delivered →
      s.delivered ≤ (step env c s a).delivered ∧
        (step env c s a).delivered ≤ (step env c s a).entries.length := by
    intro hdel
    omega
  cases a with
  | read lost =>
      by_cases hb : s.batch = some []
      · have hread : (step env c s (.read lost)).delivered = s.delivered + s.fresh.length := by
          simp only [step, hb, if_true]
        have hfresh : s.fresh.length ≤ s.entries.length - s.delivered := by
          unfold Sys.fresh
          rw [List.length_range']
          exact min_le_right _ _
        omega
      · exact hkeep (by simp only [step, hb, if_false])
  | next f => exact hkeep (held_next f 0).1
  | connect =>
      refine hkeep ?_
      unfold step
      split_ifs <;> rfl
  | add p => exact hkeep rfl
  | drop => exact hkeep rfl
  | elsewhere a => exact hkeep (by cases a <;> rfl)

/-- What has gone in the events of a run. -/
def allGone (env : Env) (c : Codec V J) (es : List (Event (Sys V) (Act V))) : List ℕ :=
  es.flatMap fun e => gone env c e.pre e.act

/-- **Every entry delivered is in one place**: in the batch, with a row, or gone. -/
theorem count_run (env : Env) (c : Codec V J) (start : Timestamp)
    (subscriptions : Table Uuid (Option PushPreferences)) (as : List (Act V)) :
    let s := run (step env c) (Sys.init start subscriptions) as
    s.delivered ≤ s.entries.length ∧ ∀ k,
      s.held k + (allGone env c (events (step env c) (Sys.init start subscriptions) as)).count k =
        if k < s.delivered then 1 else 0 := by
  refine run_events_induction
    (P := fun (s : Sys V) es => s.delivered ≤ s.entries.length ∧
      ∀ k, s.held k + (allGone env c es).count k = if k < s.delivered then 1 else 0) ?_ ?_ as
  · exact ⟨Nat.le_refl _, fun k => rfl⟩
  · rintro s es a ⟨hdel, hcount⟩
    have hgrow : s.delivered ≤ (step env c s a).delivered := (delivered_step a hdel).1
    have hbound : (step env c s a).delivered ≤ (step env c s a).entries.length :=
      (delivered_step a hdel).2
    refine ⟨hbound, fun k => ?_⟩
    have hstep : (step env c s a).held k + (gone env c s a).count k =
        s.held k + if s.delivered ≤ k ∧ k < (step env c s a).delivered then 1 else 0 := held_step a k
    have hk := hcount k
    have hone : allGone env c [⟨s, a, step env c s a⟩] = gone env c s a := List.append_nil _
    unfold allGone at hk hone ⊢
    rw [List.flatMap_append, List.count_append, hone]
    split_ifs at hk hstep ⊢ <;> omega

/-! ### Rows -/

/-- The signal is what `handle_message` makes of the entry, whatever has become of its
state. -/
def MadeOf (env : Env) (c : Codec V J) (s : Sys V) (k : ℕ) (g : Signal) : Prop :=
  ∃ p i id, s.entries[k]? = some p ∧ c.verdict p = .handle i.event ∧
    { g with trust_state := .pending } = newSignal env i id

/-- Every row is from an entry. -/
def Traced (env : Env) (c : Codec V J) (s : Sys V) : Prop :=
  List.Forall₂ (MadeOf env c s) s.origins s.sys.db.signals

/-- A transaction that commits leaves one more signal. -/
theorem signals_handle {s : Nlp.Sys} {event : RedisEventPayload} {f : Fate} {db : Db}
    (h : handle env s event f = some db) :
    ∃ i id, i.event = event ∧ db.signals = s.db.signals ++ [newSignal env i id] := by
  unfold handle at h
  split_ifs at h
  split at h
  · rename_i r db' hrun
    obtain rfl := Option.some.inj h
    rcases run_stage_eq_ok hrun with ⟨event_id, row, _, _, rfl⟩ | ⟨row, _, _, rfl⟩
    · exact ⟨_, event_id, rfl, rfl⟩
    · exact ⟨_, f.id, rfl, rfl⟩
  · cases h

/-- What happens to the tables elsewhere keeps the signals, up to their state. -/
theorem signals_elsewhere {R : ℕ → Signal → Prop} {s : Nlp.Sys} {l : List ℕ} (a : Nlp.Act)
    (ha : ∀ k id, a ≠ .commit k id)
    (hR : ∀ k g g', R k g → ({ g' with trust_state := .pending } : Signal) =
      { g with trust_state := .pending } → R k g')
    (h : List.Forall₂ R l s.db.signals) : List.Forall₂ R l (Nlp.step env s a).db.signals := by
  have hs := signals_step env s a
  generalize (Nlp.step env s a).db.signals = gs at hs ⊢
  cases hs with
  | same => exact h
  | staged k id hact => exact absurd hact (ha k id)
  | expired w hact ids =>
      rw [List.forall₂_map_right_iff]
      refine h.imp fun k g hg => hR k g _ hg ?_
      unfold Signal.expireIn
      split_ifs <;> rfl

theorem madeOf_mono {t : Sys V} {k : ℕ} {g : Signal} (hgrown : s.entries <+: t.entries)
    (h : MadeOf env c s k g) : MadeOf env c t k g := by
  obtain ⟨p, i, id, hp, hv, hg⟩ := h
  obtain ⟨new, hnew⟩ := hgrown
  refine ⟨p, i, id, ?_, hv, hg⟩
  rw [← hnew, List.getElem?_append_left (List.getElem?_eq_some_iff.1 hp).1, hp]

/-- **Every row keeps its entry.** -/
theorem traced_step (a : Act V) (hbatch : ∀ k ∈ s.batch.getD [], k < s.entries.length)
    (h : Traced env c s) : Traced env c (step env c s a) := by
  have hgrown : s.entries <+: (step env c s a).entries := entries_step a
  have hkeep : ∀ t : Sys V, s.entries <+: t.entries → t.origins = s.origins →
      t.sys.db.signals = s.sys.db.signals → Traced env c t := by
    intro t hpre horig hsig
    unfold Traced
    rw [horig, hsig]
    exact h.imp fun k g => madeOf_mono hpre
  cases a with
  | add p => exact hkeep _ hgrown rfl rfl
  | connect =>
      refine hkeep _ hgrown ?_ ?_ <;> unfold step <;> split_ifs <;> rfl
  | read lost =>
      refine hkeep _ hgrown ?_ ?_ <;> unfold step <;> split_ifs <;> rfl
  | drop => exact hkeep _ hgrown rfl rfl
  | elsewhere a =>
      have hmade : ∀ k g g', MadeOf env c s k g → ({ g' with trust_state := .pending } : Signal) =
          { g with trust_state := .pending } → MadeOf env c s k g' := by
        rintro k g g' ⟨p, i, id, hp, hv, hg⟩ hsame
        exact ⟨p, i, id, hp, hv, hsame.trans hg⟩
      cases a with
      | begin | commit | abandon => exact hkeep _ hgrown rfl rfl
      | wait | expireEvents | expireSignals | fetchStats | promote | finish | halt | unsubscribe
      | purge => exact signals_elsewhere _ (by simp) hmade h
  | next f =>
      cases hb : s.batch with
      | none => exact hkeep _ hgrown (by simp only [step, hb]) (by simp only [step, hb])
      | some batch =>
          cases batch with
          | nil => exact hkeep _ hgrown (by simp only [step, hb]) (by simp only [step, hb])
          | cons j rest =>
              cases hv : c.verdict (s.entries[j]?.getD none) with
              | skip | fail =>
                  exact hkeep _ hgrown (by simp only [step, hb, hv]) (by simp only [step, hb, hv])
              | handle event =>
                  cases hh : handle env s.sys event f with
                  | none =>
                      exact hkeep _ hgrown (by simp only [step, hb, hv, hh])
                        (by simp only [step, hb, hv, hh])
                  | some db =>
                      -- the entry is there, and this is its row
                      obtain ⟨i, id, hi, hsig⟩ := signals_handle hh
                      have hj : j < s.entries.length := hbatch j (by simp [hb])
                      have hnext : Traced env c { s with
                          sys := { s.sys with db }
                          origins := s.origins ++ [j] } := by
                        unfold Traced
                        dsimp only
                        rw [hsig]
                        refine List.rel_append (h.imp fun k g hg => hg) (.cons ?_ .nil)
                        refine ⟨s.entries[j], i, id, List.getElem?_eq_getElem hj, ?_, rfl⟩
                        rw [hi, ← hv, List.getElem?_eq_getElem hj]
                        rfl
                      simp only [step, hb, hv, hh]
                      exact hnext

/-- The rows of an entry are as many as the places it has among the origins. -/
theorem length_rows (h : Traced env c s) (k : ℕ) : (s.rows k).length = s.origins.count k := by
  unfold Traced at h
  unfold Sys.rows
  generalize s.origins = js, s.sys.db.signals = gs at h ⊢
  induction h with
  | nil => rfl
  | @cons j g js gs _ _ ih =>
      rw [List.zip_cons_cons, List.filterMap_cons, List.count_cons, ← ih]
      by_cases hj : j = k
      · simp [hj]
      · simp [hj]

/-- What holds of the reader in every run: every row is from an entry. -/
theorem traced_run (env : Env) (c : Codec V J) (start : Timestamp)
    (subscriptions : Table Uuid (Option PushPreferences)) (as : List (Act V)) :
    Traced env c (run (step env c) (Sys.init start subscriptions) as) := by
  induction as using List.reverseRecOn with
  | nil => exact .nil
  | append_singleton as a ih =>
      rw [run_concat]
      refine traced_step a (fun k hk => ?_) ih
      obtain ⟨hdel, hcount⟩ := count_run env c start subscriptions as
      have hheld := hcount k
      have hpos := List.count_pos_iff.2 hk
      unfold Sys.held at hheld
      split_ifs at hheld <;> omega

/-- **An entry has a row, or has gone.** -/
theorem rows_run (env : Env) (c : Codec V J) (start : Timestamp)
    (subscriptions : Table Uuid (Option PushPreferences)) (as : List (Act V)) (k : ℕ) :
    let s := run (step env c) (Sys.init start subscriptions) as
    (s.rows k).length ≤ 1 ∧ (s.Quiet → k < s.entries.length → ((s.rows k).length = 1 ↔
      k ∉ allGone env c (events (step env c) (Sys.init start subscriptions) as))) := by
  intro s
  obtain ⟨_, hcount⟩ := count_run env c start subscriptions as
  have hheld : s.held k +
      (allGone env c (events (step env c) (Sys.init start subscriptions) as)).count k =
        if k < s.delivered then 1 else 0 := hcount k
  have hlen : (s.rows k).length = s.origins.count k :=
    length_rows (traced_run env c start subscriptions as) k
  rw [hlen]
  unfold Sys.held at hheld
  refine ⟨by split_ifs at hheld <;> omega, ?_⟩
  rintro ⟨hbatch, hall⟩ hk
  rw [hbatch, Option.getD_some, List.count_nil, if_pos (by omega)] at hheld
  rw [← List.count_eq_zero]
  omega

/-- **Every entry is staged once, unless the reader lets one go.**  However often things
fail, no entry has two rows.  And when the reader is connected, has been delivered the
whole stream and has done all of it, every schema-valid entry has exactly one row if and
only if no step of the run let one go: no transaction of a valid entry was rolled back,
none was skipped as unreadable, and none was in the rest of a batch, or in a lost reply,
when the loop ended. -/
theorem staged_once_iff (env : Env) (c : Codec V J) (start : Timestamp)
    (subscriptions : Table Uuid (Option PushPreferences)) (as : List (Act V))
    (hquiet : (run (step env c) (Sys.init start subscriptions) as).Quiet) :
    (∀ k, ((run (step env c) (Sys.init start subscriptions) as).rows k).length ≤ 1) ∧
      ((∀ k p, (run (step env c) (Sys.init start subscriptions) as).entries[k]? = some p →
          c.schemaValid p = true →
          ((run (step env c) (Sys.init start subscriptions) as).rows k).length = 1) ↔
        ∀ e ∈ events (step env c) (Sys.init start subscriptions) as,
          ∀ k ∈ gone env c e.pre e.act, ∀ p,
            (run (step env c) (Sys.init start subscriptions) as).entries[k]? = some p →
            c.schemaValid p = false) := by
  have hrows := rows_run env c start subscriptions as
  refine ⟨fun k => (hrows k).1, ?_⟩
  constructor
  · intro hall e he k hgone p hp
    by_contra hvalid
    have hone := hall k p hp (by simpa using hvalid)
    have hnot := ((hrows k).2 hquiet (List.getElem?_eq_some_iff.1 hp).1).1 hone
    exact hnot (List.mem_flatMap.2 ⟨e, he, hgone⟩)
  · intro hkept k p hp hvalid
    refine ((hrows k).2 hquiet (List.getElem?_eq_some_iff.1 hp).1).2 fun hgone => ?_
    obtain ⟨e, he, hk⟩ := List.mem_flatMap.1 hgone
    have hinvalid := hkept e he k hk p hp
    rw [hvalid] at hinvalid
    cases hinvalid

/-- Entries that are messages themselves, all of them valid. -/
def demoCodec : Codec RedisEventPayload RedisEventPayload :=
  { text := fun event => some event.title
    json := fun _ => some (demoPayload (some "a") (some "rss"))
    validate := fun _ => true
    payload := some }

/-- One entry, read twice over: the first time its transaction succeeds, or not. -/
def demoRead (fault : Fault) : List (Act RedisEventPayload) :=
  [.add (some (demoPayload (some "a") (some "rss"))), .connect, .read false,
    .next { existing := none, id := "flood", fault }, .read false]

/-- Where something fails after the commit, no step lets the entry go, and it is staged; where
something fails before it, the entry is not staged, and so a step has let it go. -/
theorem staged_once_iff_one :
    ((run (step demoEnv demoCodec) (Sys.init 0 Table.empty) (demoRead .after)).rows 0).length = 1 ∧
      ¬ ∀ e ∈ events (step demoEnv demoCodec) (Sys.init 0 Table.empty) (demoRead .before),
        ∀ k ∈ gone demoEnv demoCodec e.pre e.act, ∀ p,
          (run (step demoEnv demoCodec) (Sys.init 0 Table.empty)
            (demoRead .before)).entries[k]? = some p → demoCodec.schemaValid p = false := by
  have hafter := (staged_once_iff demoEnv demoCodec 0 Table.empty (demoRead .after) (by decide)).2
  have hbefore := (staged_once_iff demoEnv demoCodec 0 Table.empty (demoRead .before) (by decide)).2
  constructor
  · have hgone : ∀ e ∈ events (step demoEnv demoCodec) (Sys.init 0 Table.empty) (demoRead .after),
        gone demoEnv demoCodec e.pre e.act = [] := by
      decide
    refine hafter.2 (fun e he k hk => ?_) 0 (some (demoPayload (some "a") (some "rss"))) (by decide)
      (by decide)
    rw [hgone e he] at hk
    cases hk
  · intro hkept
    have hone := hbefore.2 hkept 0 (some (demoPayload (some "a") (some "rss"))) (by decide) (by decide)
    exact absurd hone (by decide)

/-- **A transient error loses a message**: the transaction fails once, the entry is not
acknowledged, and the next read does not bring it again. -/
theorem message_lost :
    ¬ ((run (step demoEnv demoCodec) (Sys.init 0 Table.empty) (demoRead .before)).Quiet →
      ∀ k p, (run (step demoEnv demoCodec) (Sys.init 0 Table.empty) (demoRead .before)).entries[k]? =
          some p →
        demoCodec.schemaValid p = true →
        ((run (step demoEnv demoCodec) (Sys.init 0 Table.empty) (demoRead .before)).rows k).length =
          1) := by
  intro h
  have hone := h (by decide) 0 (some (demoPayload (some "a") (some "rss"))) (by decide)
    (by decide)
  exact absurd hone (by decide)

end Reader
end Nlp
end SentinelMesh
