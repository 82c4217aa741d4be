/-
# Acoustic synthesis: retention

`run_once` of `subscribers/retention_worker.rs` beside the synthesis: the exact coordinates of a signal
go after a day, its cell of some hundred metres after a week, and a public event that nothing has
corroborated for half an hour expires.

A pass is these statements, each of its own, and may end after any of them; so passes of any number of
replicas, beside the synthesis workers, are statements in any order.  The synthesis is the same with and
without them (`step_blurSys`): it looks at no signal of more than two minutes.  What a run leaves is
therefore what it leaves without any retention, with what was too old at the last statement taken away
(`retained`).  And an event that has expired stays as it is, if no synthesis worker is at one fetch for
longer than the half hour less those two minutes (`expired_stays`).
-/

import SentinelMesh.Acoustic.Incident

namespace SentinelMesh
namespace Acoustic
namespace Retention

open Lib

/-- `COORD_RETENTION_SECS`, in microseconds. -/
def coordRetention : ℤ := 24 * 60 * 60 * 1000000

/-- `H3R9_RETENTION_SECS`, in microseconds. -/
def h3r9Retention : ℤ := 7 * 24 * 60 * 60 * 1000000

/-- `PUBLIC_EVENT_TTL_SECS`, in microseconds. -/
def publicEventTtl : ℤ := 30 * 60 * 1000000

/-- The tables with the columns that the synthesis does not read. -/
structure Gateway where
  sys : Sys
  /-- `lat` and `lng` of a signal, where they are not `NULL`. -/
  coords : Uuid → Option (ℚ × ℚ) := fun _ => none
  /-- `expired_at` of the public event of a signal, if it has expired; any other is confirmed. -/
  expired_at : Uuid → Option Timestamp := fun _ => none
  /-- When each worker last fetched, which no column says. -/
  fetched_at : ℕ → Timestamp := fun _ => 0

/-- The first three statements of `run_once`. -/
inductive Statement
  | coords
  | cells
  | publicEvents
  deriving DecidableEq

/-- What can happen next. -/
inductive Act
  /-- An action of the synthesis; a signal that arrives comes with its coordinates. -/
  | synthesis (a : Acoustic.Act) (position : ℚ × ℚ)
  | retention (q : Statement)

/-- The signal was received too long before `now`. -/
def isPast (retention : ℤ) (now : Timestamp) (g : Signal) : Bool :=
  decide (g.received_at < now - retention)

/-- The row after the second statement. -/
def degraded (now : Timestamp) (g : Signal) : Signal :=
  if isPast h3r9Retention now g then { g with h3_r9 := none } else g

/-- The statements, at their time. -/
def Gateway.retain (s : Gateway) : Statement → Gateway
  | .coords =>
    { s with
      coords := fun id => (s.coords id).filter fun _ =>
        !(s.sys.db.signals.find? id).any (isPast coordRetention s.sys.now) }
  | .cells =>
    { s with
      sys := { s.sys with
        db := { s.sys.db with signals := s.sys.db.signals.map fun _ => degraded s.sys.now } } }
  | .publicEvents =>
    { s with
      expired_at := fun id => match s.expired_at id, s.sys.db.events.find? id with
        | none, some event =>
          if event.updated_at < s.sys.now - publicEventTtl then some s.sys.now else none
        | expired_at, _ => expired_at }

/-- The coordinates that an action of the synthesis writes. -/
def Gateway.coordsAfter (s : Gateway) (position : ℚ × ℚ) : Acoustic.Act → Uuid → Option (ℚ × ℚ)
  | .submit id _ =>
    if s.sys.db.signals.find? id = none then Function.update s.coords id (some position) else s.coords
  | _ => s.coords

/-- When the workers last fetched, after an action of the synthesis. -/
def Gateway.fetchedAfter (s : Gateway) : Acoustic.Act → ℕ → Timestamp
  | .fetch w _ =>
    if s.sys.workers w = .expired then Function.update s.fetched_at w s.sys.now else s.fetched_at
  | _ => s.fetched_at

/-- The next state. -/
def step (confirm_enabled : Bool) (s : Gateway) : Act → Gateway
  | .synthesis a position =>
    { s with
      sys := Acoustic.step confirm_enabled s.sys a
      coords := s.coordsAfter position a
      fetched_at := s.fetchedAfter a }
  | .retention q => s.retain q

/-- The start. -/
def Gateway.init (start : Timestamp) : Gateway := { sys := .init start }

/-! ### The synthesis is the same -/

/-- The row after the second statement has run at a time, or never. -/
def degradedAt (cut : Option Timestamp) (g : Signal) : Signal := cut.elim g (degraded · g)

/-- The synthesis with the cells that are too old taken away. -/
def blurSys (cut : Option Timestamp) (s : Sys) : Sys :=
  { s with db := { s.db with signals := s.db.signals.map fun _ => degradedAt cut } }

theorem degraded_degraded {t t' : Timestamp} (h : t ≤ t') (g : Signal) :
    degraded t' (degraded t g) = degraded t' g := by
  unfold degraded isPast
  by_cases hpast : g.received_at < t - h3r9Retention
  · have hlater : g.received_at < t' - h3r9Retention := hpast.trans_le (Int.sub_le_sub_right h _)
    simp [hpast, hlater]
  · simp [hpast]

@[simp] theorem received_at_degradedAt (cut : Option Timestamp) (g : Signal) :
    (degradedAt cut g).received_at = g.received_at := by
  cases cut with
  | none => rfl
  | some t =>
      unfold degradedAt degraded
      dsimp only [Option.elim]
      split_ifs <;> rfl

theorem degradedAt_of_le {cut : Option Timestamp} {g : Signal}
    (h : ∀ t ∈ cut, t - h3r9Retention ≤ g.received_at) : degradedAt cut g = g := by
  cases cut with
  | none => rfl
  | some t =>
      have hle := h t rfl
      unfold degradedAt degraded isPast
      simp [hle]

/-- What looks at a signal's other columns alone goes with the statement. -/
theorem degradedAt_comm (f : Signal → Signal) (cut : Option Timestamp) (g : Signal)
    (hreceived : (f g).received_at = g.received_at)
    (hcell : f { g with h3_r9 := none } = { f g with h3_r9 := none }) :
    f (degradedAt cut g) = degradedAt cut (f g) := by
  cases cut with
  | none => rfl
  | some t =>
      have hpast : isPast h3r9Retention t (f g) = isPast h3r9Retention t g := by
        unfold isPast
        rw [hreceived]
      unfold degradedAt degraded
      dsimp only [Option.elim]
      rw [hpast]
      split_ifs
      · exact hcell
      · rfl

variable {cut : Option Timestamp} {s : Sys}

/-- A worker fetches the same rows. -/
theorem fetchable_blurSys {now : Timestamp} (h : ∀ t ∈ cut, t ≤ now) :
    (blurSys cut s).db.fetchable now = s.db.fetchable now := by
  unfold Db.fetchable blurSys Table.map
  dsimp only
  -- a row that the statement has changed is of no use to the worker before and after
  have hrow : ∀ r : SignalRow, degradedAt cut r.2 = r.2 ∨ r.2.received_at ≤ now - fetchWindow := by
    intro r
    by_cases hle : ∀ t ∈ cut, t - h3r9Retention ≤ r.2.received_at
    · exact Or.inl (degradedAt_of_le hle)
    · simp only [not_forall, not_le] at hle
      obtain ⟨t, ht, hlt⟩ := hle
      have hwindow : fetchWindow ≤ h3r9Retention := by decide
      exact Or.inr (hlt.le.trans (Int.sub_le_sub (h t ht) hwindow))
  rw [List.filter_map]
  have hsame : ∀ r : SignalRow, ((fun r : SignalRow =>
      r.2.isOpen && decide (now - fetchWindow < r.2.received_at) && r.2.h3_r9.isSome) ∘
        fun r => (r.1, degradedAt cut r.2)) r =
      (r.2.isOpen && decide (now - fetchWindow < r.2.received_at) && r.2.h3_r9.isSome) := by
    intro r
    rw [Function.comp_apply]
    rcases hrow r with heq | hold
    · rw [heq]
    · simp [not_lt.2 hold]
  rw [List.filter_congr fun r _ => hsame r]
  refine (List.map_congr_left fun r hr => ?_).trans (List.map_id _)
  have hmem := (List.mem_filter.1 hr).2
  rcases hrow r with heq | hold
  · rw [heq]
    rfl
  · simp [not_lt.2 hold] at hmem

/-- A promotion and the blur are in either order. -/
theorem map_promote (cut : Option Timestamp) (s : Sys) (ids : List Uuid) (old new : SignalState) :
    (s.db.promote ids old new).signals.map (fun _ => degradedAt cut) =
      ((blurSys cut s).db.promote ids old new).signals := by
  unfold Db.promote blurSys
  dsimp only
  rw [Table.map_map, Table.map_map]
  congr 1
  funext id g
  have hcomm := degradedAt_comm (fun g =>
    if id ∈ ids ∧ g.trust_state = old then { g with trust_state := new } else g) cut g
  refine (hcomm ?_ ?_).symm <;> split_ifs <;> rfl

/-- And so are the expiry and the blur. -/
theorem map_expireStaleSignals (cut : Option Timestamp) (s : Sys) :
    (s.db.expireStaleSignals s.now).signals.map (fun _ => degradedAt cut) =
      ((blurSys cut s).db.expireStaleSignals s.now).signals := by
  unfold Db.expireStaleSignals blurSys
  dsimp only
  rw [Table.map_map, Table.map_map]
  congr 1
  funext id g
  have hcomm := degradedAt_comm (fun g =>
    if g.isOpen && decide (g.received_at < s.now - expiryWindow) then { g with trust_state := .expired }
    else g) cut g
  refine (hcomm ?_ ?_).symm
  · split_ifs <;> rfl
  · unfold Signal.isOpen
    split_ifs <;> rfl

/-- **The synthesis does not see the retention.** -/
theorem step_blurSys (confirm_enabled : Bool) (h : ∀ t ∈ cut, t ≤ s.now) (a : Acoustic.Act) :
    Acoustic.step confirm_enabled (blurSys cut s) a = blurSys cut (Acoustic.step confirm_enabled s a) := by
  have hput : ∀ w db db' p, db.signals.map (fun _ => degradedAt cut) = db'.signals → db.events = db'.events →
      (blurSys cut s).put w db' p = blurSys cut (s.put w db p) := by
    rintro w ⟨signals, events⟩ ⟨signals', events'⟩ p rfl rfl
    rfl
  have hphase : ∀ w, (blurSys cut s).workers w = s.workers w := fun w => rfl
  cases a with
  | wait d => rfl
  | submit id signal =>
      unfold Acoustic.step Db.submit blurSys
      dsimp only
      rw [Table.map_insert, degradedAt_of_le]
      intro t ht
      exact (Int.sub_le_self t (by decide)).trans (h t ht)
  | expire w =>
      rw [Acoustic.step, Acoustic.step, hphase w]
      cases s.workers w with
      | idle => exact hput w _ _ _ (map_expireStaleSignals cut s) rfl
      | expired | fetched | processing | corroborated | confirmed => rfl
  | fetch w groups =>
      rw [Acoustic.step, Acoustic.step, hphase w]
      cases s.workers w with
      | expired =>
          have hfetched : Fetched (blurSys cut s).db (blurSys cut s).now groups ↔
              Fetched s.db s.now groups := by
            unfold Fetched
            rw [show (blurSys cut s).now = s.now from rfl, fetchable_blurSys h]
          dsimp only
          rw [if_congr hfetched rfl rfl]
          split_ifs
          · exact hput w _ _ _ rfl rfl
          · rfl
      | idle | fetched | processing | corroborated | confirmed => rfl
  | start w =>
      rw [Acoustic.step, Acoustic.step, hphase w]
      cases s.workers w with
      | fetched groups => exact hput w _ _ _ rfl rfl
      | idle | expired | processing | corroborated | confirmed => rfl
  | corroborate w orders =>
      rw [Acoustic.step, Acoustic.step, hphase w]
      cases s.workers w with
      | processing now groups =>
          cases groups with
          | nil => rfl
          | cons group groups =>
              dsimp only
              cases assess orders group now with
              | none => exact hput w _ _ _ rfl rfl
              | some c => exact hput w _ _ _ (map_promote ..) rfl
      | idle | expired | fetched | corroborated | confirmed => rfl
  | confirm w =>
      rw [Acoustic.step, Acoustic.step, hphase w]
      cases s.workers w with
      | corroborated c groups => exact hput w _ _ _ (map_promote ..) rfl
      | idle | expired | fetched | processing | confirmed => rfl
  | upsert w id =>
      rw [Acoustic.step, Acoustic.step, hphase w]
      cases s.workers w with
      | confirmed c groups =>
          dsimp only
          cases c.firstSignal with
          | none => rfl
          | some first => exact hput w _ _ _ rfl rfl
      | idle | expired | fetched | processing | corroborated => rfl
  | finish w =>
      rw [Acoustic.step, Acoustic.step, hphase w]
      cases s.workers w with
      | processing now groups =>
          cases groups with
          | nil => exact hput w _ _ _ rfl rfl
          | cons => rfl
      | idle | expired | fetched | corroborated | confirmed => rfl
  | halt w => rfl

/-! ### Runs with and without -/

/-- When a statement last ran, in a run. -/
def lastAt (es : List (Event Gateway Act)) (q : Statement) : Option Timestamp :=
  es.foldl (fun last e => match e.act with
    | .retention q' => if q' = q then some e.pre.sys.now else last
    | .synthesis _ _ => last) none

theorem lastAt_retention (es : List (Event Gateway Act)) (s s' : Gateway) (q : Statement) :
    lastAt (es ++ [⟨s, .retention q, s'⟩]) = Function.update (lastAt es) q (some s.sys.now) := by
  funext q'
  unfold lastAt
  rw [List.foldl_concat, Function.update_apply, if_congr eq_comm rfl rfl]

theorem lastAt_synthesis (es : List (Event Gateway Act)) (s s' : Gateway) (a : Acoustic.Act)
    (position : ℚ × ℚ) : lastAt (es ++ [⟨s, .synthesis a position, s'⟩]) = lastAt es := by
  funext q
  unfold lastAt
  rw [List.foldl_concat]

/-- The actions of the synthesis. -/
def Act.isSynthesis : Act → Bool
  | .synthesis _ _ => true
  | .retention _ => false

/-- The signal, if there is one, was not too old for the first statement when that last ran. -/
def isRecent (cut : Option Timestamp) (g : Option Signal) : Bool :=
  !cut.any fun t => g.any (isPast coordRetention t)

theorem isRecent_iff {cut : Option Timestamp} {g : Option Signal} :
    isRecent cut g = true ↔ ∀ x, g = some x → ∀ t ∈ cut, t - coordRetention ≤ x.received_at := by
  unfold isRecent
  cases cut <;> cases g <;> simp [isPast]

@[simp] theorem isRecent_none (cut : Option Timestamp) : isRecent cut none = true := by
  cases cut <;> rfl

/-- What is too old at a time is so later, so that the last statement alone counts. -/
theorem isRecent_some {cut : Option Timestamp} {now : Timestamp} (h : ∀ t ∈ cut, t ≤ now)
    (g : Option Signal) :
    (isRecent cut g && !g.any (isPast coordRetention now)) = isRecent (some now) g := by
  unfold isRecent
  cases cut with
  | none => simp
  | some t =>
      cases g with
      | none => simp
      | some g =>
          have hlater : g.received_at < t - coordRetention → g.received_at < now - coordRetention :=
            fun hpast => hpast.trans_le (Int.sub_le_sub_right (h t rfl) _)
          rw [Bool.eq_iff_iff]
          simpa [isPast] using fun hrecent => not_lt.1 fun hpast => not_lt.2 hrecent (hlater hpast)

theorem degraded_degradedAt {cut : Option Timestamp} {now : Timestamp} (h : ∀ t ∈ cut, t ≤ now)
    (g : Signal) : degraded now (degradedAt cut g) = degraded now g := by
  cases cut with
  | none => rfl
  | some t => exact degraded_degraded (h t rfl) g

/-- A gateway beside one without retention. -/
structure Shadow (cuts : Statement → Option Timestamp) (s s₀ : Gateway) : Prop where
  sys : s.sys = blurSys (cuts .cells) s₀.sys
  coords : ∀ id, s.coords id =
    (s₀.coords id).filter fun _ => isRecent (cuts .coords) (s₀.sys.db.signals.find? id)
  past : ∀ q, ∀ t ∈ cuts q, t ≤ s₀.sys.now

theorem Shadow.isPast_find? {cuts : Statement → Option Timestamp} {s s₀ : Gateway} (h : Shadow cuts s s₀)
    (retention : ℤ) (now : Timestamp) (id : Uuid) :
    (s.sys.db.signals.find? id).any (isPast retention now) =
      (s₀.sys.db.signals.find? id).any (isPast retention now) := by
  rw [h.sys]
  unfold blurSys
  dsimp only
  rw [Table.find?_map, Option.any_map]
  congr 1
  funext g
  unfold isPast
  rw [received_at_degradedAt]

/-- A signal stays as recent as it was, and a new one is recent. -/
theorem isRecent_step (confirm_enabled : Bool) {cut : Option Timestamp} {s : Sys}
    (h : ∀ t ∈ cut, t ≤ s.now) (a : Acoustic.Act) (id : Uuid) :
    isRecent cut ((Acoustic.step confirm_enabled s a).db.signals.find? id) =
      isRecent cut (s.db.signals.find? id) := by
  have hkept := kept_step confirm_enabled s a
  unfold isRecent
  cases cut with
  | none => rfl
  | some t =>
      have hle := h t rfl
      rw [Option.any_some, Option.any_some]
      cases hold : s.db.signals.find? id with
      | some g =>
          obtain ⟨g', hg', -, hreceived⟩ := hkept.old id g hold
          rw [hg', Option.any_some, Option.any_some]
          unfold isPast
          rw [hreceived]
      | none =>
          cases hnew : (Acoustic.step confirm_enabled s a).db.signals.find? id with
          | none => rfl
          | some g' =>
              have hreceived := hkept.new id g' hold hnew
              have hrecent : ¬ g'.received_at < t - coordRetention := by
                rw [hreceived]
                exact not_lt.2 ((Int.sub_le_self t (by decide)).trans hle)
              simp [isPast, hrecent]

theorem Shadow.synthesis {cuts : Statement → Option Timestamp} {s s₀ : Gateway} (confirm_enabled : Bool)
    (h : Shadow cuts s s₀) (a : Acoustic.Act) (position : ℚ × ℚ) :
    Shadow cuts (step confirm_enabled s (.synthesis a position))
      (step confirm_enabled s₀ (.synthesis a position)) := by
  have hfind : ∀ id, s.sys.db.signals.find? id = none ↔ s₀.sys.db.signals.find? id = none := by
    intro id
    rw [h.sys]
    unfold blurSys
    dsimp only
    rw [Table.find?_map, Option.map_eq_none_iff]
  refine ⟨?_, fun id => ?_, fun q t ht => ?_⟩
  · unfold step
    dsimp only
    rw [h.sys]
    exact step_blurSys confirm_enabled (h.past .cells) a
  · unfold step
    dsimp only
    rw [isRecent_step confirm_enabled (h.past .coords) a id]
    cases a with
    | submit id' signal =>
        unfold Gateway.coordsAfter
        dsimp only
        rw [if_congr (hfind id') rfl rfl]
        split_ifs with hnew
        · by_cases hid : id = id'
          · subst hid
            rw [Function.update_self, Function.update_self, hnew, isRecent_none]
            rfl
          · rw [Function.update_of_ne hid, Function.update_of_ne hid]
            exact h.coords id
        · exact h.coords id
    | wait | expire | fetch | start | corroborate | confirm | upsert | finish | halt => exact h.coords id
  · exact (h.past q t ht).trans (now_step confirm_enabled s₀.sys a)

theorem Shadow.retention {cuts : Statement → Option Timestamp} {s s₀ : Gateway} (h : Shadow cuts s s₀)
    (q : Statement) : Shadow (Function.update cuts q (some s.sys.now)) (s.retain q) s₀ := by
  have hnow : s.sys.now = s₀.sys.now := by rw [h.sys]; rfl
  have hpast : ∀ q', ∀ t ∈ Function.update cuts q (some s.sys.now) q', t ≤ s₀.sys.now := by
    intro q' t ht
    rw [Function.update_apply] at ht
    split_ifs at ht
    · rw [← Option.some.inj ht, hnow]
    · exact h.past q' t ht
  cases q with
  | coords =>
      refine ⟨h.sys, fun id => ?_, hpast⟩
      unfold Gateway.retain
      dsimp only
      rw [h.coords, h.isPast_find?, Function.update_self, Option.filter_filter]
      congr 1
      funext _
      exact isRecent_some (hnow ▸ h.past .coords) _
  | cells =>
      refine ⟨?_, h.coords, hpast⟩
      unfold Gateway.retain
      dsimp only
      rw [h.sys, Function.update_self]
      unfold blurSys
      dsimp only
      rw [Table.map_map]
      congr 2
      congr 1
      funext _ g
      exact degraded_degradedAt (h.past .cells) g
  | publicEvents => exact ⟨h.sys, h.coords, hpast⟩

section Runs

variable (confirm_enabled : Bool) (start : Timestamp)

theorem shadow_run (as : List Act) :
    Shadow (lastAt (events (step confirm_enabled) (Gateway.init start) as))
      (run (step confirm_enabled) (Gateway.init start) as)
      (run (step confirm_enabled) (Gateway.init start) (as.filter Act.isSynthesis)) := by
  induction as using List.reverseRecOn with
  | nil => exact ⟨rfl, fun id => rfl, fun q t ht => by cases ht⟩
  | append_singleton as a ih =>
      rw [run_concat, events_concat, List.filter_append]
      cases a with
      | synthesis a position =>
          rw [lastAt_synthesis, List.filter_cons_of_pos rfl, List.filter_nil, run_concat]
          exact ih.synthesis confirm_enabled a position
      | retention q =>
          rw [lastAt_retention, List.filter_cons_of_neg Bool.false_ne_true, List.filter_nil, List.append_nil]
          exact ih.retention q

/-- **What the retention leaves**, after any run.  Without it the same run would be at the same time with
the same workers and the same public events, in the columns that the synthesis reads or changes; the two
others, `trust_state` and `expired_at`, the retention sets itself.  And of the signals there would be the
same, with their cells and coordinates but for those that were too old when the statement last ran. -/
theorem retained (as : List Act) :
    let s := run (step confirm_enabled) (Gateway.init start) as
    let s₀ := run (step confirm_enabled) (Gateway.init start) (as.filter Act.isSynthesis)
    let last := lastAt (events (step confirm_enabled) (Gateway.init start) as)
    s.sys.now = s₀.sys.now ∧ s.sys.workers = s₀.sys.workers ∧ s.sys.db.events = s₀.sys.db.events ∧
      ∀ id, s.sys.db.signals.find? id = (s₀.sys.db.signals.find? id).map (degradedAt (last .cells)) ∧
        ∀ position, s.coords id = some position ↔ s₀.coords id = some position ∧
          ∀ g, s₀.sys.db.signals.find? id = some g →
            ∀ t ∈ last .coords, t - coordRetention ≤ g.received_at := by
  intro s s₀ last
  have hshadow := shadow_run confirm_enabled start as
  have hsys : s.sys = blurSys (last .cells) s₀.sys := hshadow.sys
  refine ⟨by rw [hsys]; rfl, by rw [hsys]; rfl, by rw [hsys]; rfl, fun id => ⟨?_, fun position => ?_⟩⟩
  · rw [hsys]
    exact Table.find?_map _ _ id
  · have hcoords : s.coords id = (s₀.coords id).filter fun _ =>
        isRecent (last .coords) (s₀.sys.db.signals.find? id) := hshadow.coords id
    rw [hcoords, Option.filter_eq_some_iff, isRecent_iff]

end Runs

/-! ### Expired events -/

/-- When a worker began with its groups. -/
def Phase.started : Phase → Option Timestamp
  | .processing now _ => some now
  | .corroborated c _ | .confirmed c _ => some c.now
  | .idle | .expired | .fetched _ => none

/-- A worker goes on with the rows it has. -/
structure GoesOn (now : Timestamp) (p p' : Phase) : Prop where
  rows : ∀ r ∈ p'.rows, r ∈ p.rows
  fetched : ∀ groups, p' = .fetched groups → p = .fetched groups
  started : ∀ t, Phase.started p' = some t →
    Phase.started p = some t ∨ t = now ∧ ∃ groups, p = .fetched groups

theorem GoesOn.refl (now : Timestamp) (p : Phase) : GoesOn now p p :=
  ⟨fun _ hr => hr, fun _ hp => hp, fun _ ht => Or.inl ht⟩

/-- A worker without rows has nothing to go on with. -/
theorem GoesOn.of_empty {now : Timestamp} {p p' : Phase} (hrows : p'.rows = [])
    (hfetched : ∀ groups, p' ≠ .fetched groups) (hstarted : Phase.started p' = none) : GoesOn now p p' := by
  refine ⟨fun r hr => ?_, fun groups hp => absurd hp (hfetched groups), fun t ht => ?_⟩
  · rw [hrows] at hr
    cases hr
  · rw [hstarted] at ht
    cases ht

/-- A worker that has started goes on, at the time it started. -/
theorem GoesOn.of_started {now t : Timestamp} {p p' : Phase} (hrows : ∀ r ∈ p'.rows, r ∈ p.rows)
    (hp : Phase.started p = some t) (hp' : Phase.started p' = some t) : GoesOn now p p' := by
  refine ⟨hrows, fun groups hfetched => ?_, fun t' ht' => Or.inl ?_⟩
  · rw [hfetched] at hp'
    cases hp'
  · rw [hp, ← hp', ht']

/-- A worker fetches, or goes on with rows it has. -/
theorem worker_step (confirm_enabled : Bool) (s : Sys) (a : Acoustic.Act) (w : ℕ) :
    (∃ groups, a = .fetch w groups ∧ s.workers w = .expired ∧ Fetched s.db s.now groups ∧
        (Acoustic.step confirm_enabled s a).workers w = .fetched groups) ∨
      GoesOn s.now (s.workers w) ((Acoustic.step confirm_enabled s a).workers w) := by
  have hs := step_spec confirm_enabled s a
  have hput : ∀ v db p, GoesOn s.now (s.workers v) p →
      GoesOn s.now (s.workers w) ((s.put v db p).workers w) := by
    intro v db p hp
    rw [put_workers]
    split_ifs with hv
    · exact hv ▸ hp
    · exact .refl _ _
  generalize Acoustic.step confirm_enabled s a = s' at hs ⊢
  cases hs with
  | refused | waited | submitted => exact Or.inr (.refl _ _)
  | expired v hphase =>
      exact Or.inr (hput v _ _ (.of_empty rfl (fun groups hp => by cases hp) rfl))
  | fetched v groups hphase hanswer =>
      by_cases hv : w = v
      · subst hv
        exact Or.inl ⟨groups, rfl, hphase, hanswer, by rw [put_workers, if_pos rfl]⟩
      · rw [put_workers, if_neg hv]
        exact Or.inr (.refl _ _)
  | started v groups hphase =>
      refine Or.inr (hput v _ _ ⟨fun r hr => ?_, fun groups' hp => (by cases hp), fun t ht => Or.inr ?_⟩)
      · rw [hphase]
        exact hr
      · exact ⟨(Option.some.inj ht).symm, groups, hphase⟩
  | skipped v orders now group groups hphase =>
      refine Or.inr (hput v _ _ (.of_started (t := now) (fun r hr => ?_) (by rw [hphase]; rfl) rfl))
      rw [hphase]
      exact List.mem_append_right _ hr
  | corroborated v orders now group groups hphase c hassessed =>
      obtain ⟨hsignals, hnow, -⟩ := assess_spec hassessed
      refine Or.inr (hput v _ _ (.of_started (t := now) (fun r hr => ?_) (by rw [hphase]; rfl) ?_))
      · rw [hphase]
        unfold Cluster.next at hr
        split_ifs at hr
        · rw [← hsignals]
          exact hr
        · exact List.mem_append_right _ hr
      · unfold Cluster.next
        split_ifs
        · exact congrArg some hnow
        · rfl
  | confirmed v c groups hphase =>
      refine Or.inr (hput v _ _ (.of_started (t := c.now) (fun r hr => ?_) (by rw [hphase]; rfl) rfl))
      rw [hphase]
      exact hr
  | upserted v id c groups hphase first hfirst =>
      refine Or.inr (hput v _ _ (.of_started (t := c.now) (fun r hr => ?_) (by rw [hphase]; rfl) rfl))
      rw [hphase]
      exact List.mem_append_right _ hr
  | finished v now hphase =>
      exact Or.inr (hput v _ _ (.of_empty rfl (fun groups hp => by cases hp) rfl))
  | halted v => exact Or.inr (hput v _ _ (.of_empty rfl (fun groups hp => by cases hp) rfl))

/-- The times of a worker: of the rows it has, and of when it fetched them and started. -/
structure Times (signals : Table Uuid Signal) (now fetched_at : Timestamp) (p : Phase) : Prop where
  rows : ∀ r ∈ p.rows, fetched_at - fetchWindow < r.2.received_at ∧ r.2.received_at ≤ now ∧
    ∃ g, signals.find? r.1 = some g ∧ g.received_at = r.2.received_at
  fetched : ∀ groups, p = .fetched groups → fetched_at ≤ now
  started : ∀ t, Phase.started p = some t → fetched_at ≤ t ∧ t ≤ now ∧ ∀ r ∈ p.rows, r.2.received_at ≤ t

/-- Signals that are there stay, with their time. -/
def Stays (signals signals' : Table Uuid Signal) : Prop :=
  ∀ id g, signals.find? id = some g → ∃ g', signals'.find? id = some g' ∧ g'.received_at = g.received_at

section Workers

variable {signals signals' : Table Uuid Signal} {now now' fetched_at : Timestamp} {p p' : Phase}

theorem Times.goesOn (h : Times signals now fetched_at p) (hp : GoesOn now p p')
    (hstays : Stays signals signals') (hnow : now ≤ now') : Times signals' now' fetched_at p' := by
  refine ⟨fun r hr => ?_, fun groups hg => ?_, fun t ht => ?_⟩
  · obtain ⟨hfetched, hle, g, hg, hreceived⟩ := h.rows r (hp.rows r hr)
    obtain ⟨g', hg', hsame⟩ := hstays r.1 g hg
    exact ⟨hfetched, hle.trans hnow, g', hg', hsame.trans hreceived⟩
  · exact (h.fetched groups (hp.fetched groups hg)).trans hnow
  · rcases hp.started t ht with hold | ⟨rfl, groups, hg⟩
    · obtain ⟨hfetched, hle, hrows⟩ := h.started t hold
      exact ⟨hfetched, hle.trans hnow, fun r hr => hrows r (hp.rows r hr)⟩
    · exact ⟨h.fetched groups hg, hnow, fun r hr => (h.rows r (hp.rows r hr)).2.1⟩

/-- A worker without rows goes on without. -/
theorem Times.of_expired (hp : GoesOn now .expired p') : Times signals now' fetched_at p' := by
  refine ⟨fun r hr => ?_, fun groups hg => ?_, fun t ht => ?_⟩
  · cases hp.rows r hr
  · cases hp.fetched groups hg
  · rcases hp.started t ht with hold | ⟨-, groups, hg⟩
    · cases hold
    · cases hg

theorem Times.of_fetched {db : Db} {groups : List (List SignalRow)} (h : Fetched db now groups)
    (hpast : ∀ id g, db.signals.find? id = some g → g.received_at ≤ now) :
    Times db.signals now now (.fetched groups) := by
  refine ⟨fun r hr => ?_, fun _ _ => le_rfl, fun t ht => by cases ht⟩
  obtain ⟨hrow, hfetchable⟩ := List.mem_filter.1 (h.1.mem_iff.1 hr)
  have hfind := Table.find?_eq_some_iff.2 hrow
  simp only [Bool.and_eq_true, decide_eq_true_eq] at hfetchable
  exact ⟨hfetchable.1.2, hpast r.1 r.2 hfind, r.2, hfind, rfl⟩

end Workers

/-- The times of a gateway. -/
structure Timed (s : Gateway) : Prop where
  past : ∀ id g, s.sys.db.signals.find? id = some g → g.received_at ≤ s.sys.now
  workers : ∀ w, Times s.sys.db.signals s.sys.now (s.fetched_at w) (s.sys.workers w)
  events : ∀ id event, s.sys.db.events.find? id = some event →
    ∃ g, s.sys.db.signals.find? id = some g ∧ g.received_at ≤ event.updated_at

theorem fetchedAfter_cases (s : Gateway) (a : Acoustic.Act) (w : ℕ) :
    s.fetchedAfter a w = s.fetched_at w ∨ s.sys.workers w = .expired := by
  unfold Gateway.fetchedAfter
  split
  · rename_i v groups
    split_ifs with hv
    · by_cases hw : w = v
      · exact Or.inr (hw ▸ hv)
      · exact Or.inl (Function.update_of_ne hw _ _)
    · exact Or.inl rfl
  · exact Or.inl rfl

/-- The public events after one is written. -/
theorem find?_upsert_cases {events : Table Uuid PublicEvent} {c : Cluster} {first id new : Uuid}
    {event : PublicEvent} (h : (events.upsert first (c.event new) c.update).find? id = some event) :
    id = first ∧ event.updated_at = c.now ∨ id ≠ first ∧ events.find? id = some event := by
  rw [Table.find?_upsert] at h
  split_ifs at h with hid
  · refine Or.inl ⟨hid, ?_⟩
    obtain rfl := Option.some.inj h
    cases events.find? first <;> rfl
  · exact Or.inr ⟨hid, h⟩

/-- What a worker writes, and what it writes of. -/
theorem Timed.upserted {s : Gateway} (h : Timed s) {w : ℕ} {c : Cluster} {groups : List (List SignalRow)}
    {first : SignalRow} (hphase : s.sys.workers w = .confirmed c groups)
    (hfirst : c.firstSignal = some first) :
    s.fetched_at w - fetchWindow < first.2.received_at ∧ s.fetched_at w ≤ c.now ∧
      ∃ g, s.sys.db.signals.find? first.1 = some g ∧ g.received_at = first.2.received_at ∧
        g.received_at ≤ c.now := by
  have htimes := h.workers w
  rw [hphase] at htimes
  have hrow : first ∈ (Phase.confirmed c groups).rows := List.mem_append_left _ (firstSignal_mem hfirst)
  obtain ⟨hfetched, -, g, hg, hreceived⟩ := htimes.rows first hrow
  obtain ⟨hle, -, hrows⟩ := htimes.started c.now rfl
  exact ⟨hfetched, hle, g, hg, hreceived, hreceived.le.trans (hrows first hrow)⟩

theorem Timed.synthesis {s : Gateway} (confirm_enabled : Bool) (h : Timed s) (a : Acoustic.Act)
    (position : ℚ × ℚ) : Timed (step confirm_enabled s (.synthesis a position)) := by
  have hkept := kept_step confirm_enabled s.sys a
  have hnow := now_step confirm_enabled s.sys a
  have hstays : Stays s.sys.db.signals (Acoustic.step confirm_enabled s.sys a).db.signals := by
    intro id g hg
    obtain ⟨g', hg', -, hreceived⟩ := hkept.old id g hg
    exact ⟨g', hg', hreceived⟩
  refine ⟨fun id g' hg' => ?_, fun w => ?_, fun id event hevent => ?_⟩
  · cases hold : s.sys.db.signals.find? id with
    | none => exact (hkept.new id g' hold hg').le.trans hnow
    | some g =>
        obtain ⟨g₁, hg₁, hreceived⟩ := hstays id g hold
        obtain rfl := Option.some.inj (hg'.symm.trans hg₁)
        rw [hreceived]
        exact (h.past id g hold).trans hnow
  · rcases worker_step confirm_enabled s.sys a w with ⟨groups, rfl, hphase, hanswer, hnext⟩ | hgoes
    · have hfetched : s.fetchedAfter (.fetch w groups) w = s.sys.now := by
        unfold Gateway.fetchedAfter
        dsimp only
        rw [if_pos hphase, Function.update_self]
      unfold step
      dsimp only
      rw [hnext, hfetched]
      exact (Times.of_fetched hanswer h.past).goesOn (.refl _ _) hstays hnow
    · rcases fetchedAfter_cases s a w with hsame | hexpired
      · have htimes := (h.workers w).goesOn hgoes hstays hnow
        rw [← hsame] at htimes
        exact htimes
      · rw [hexpired] at hgoes
        exact .of_expired hgoes
  · have hold : ∀ event : PublicEvent, (∃ g, s.sys.db.signals.find? id = some g ∧ g.received_at ≤ event.updated_at) →
        ∃ g, (Acoustic.step confirm_enabled s.sys a).db.signals.find? id = some g ∧
          g.received_at ≤ event.updated_at := by
      rintro event ⟨g, hg, hle⟩
      obtain ⟨g', hg', hreceived⟩ := hstays id g hg
      exact ⟨g', hg', hreceived.le.trans hle⟩
    rcases events_step confirm_enabled s.sys a with hsame | ⟨w, new, c, groups, first, -, hphase, hf, hevents⟩
    · have hevent : (Acoustic.step confirm_enabled s.sys a).db.events.find? id = some event := hevent
      rw [hsame] at hevent
      exact hold event (h.events id event hevent)
    · obtain ⟨-, -, g, hg, -, hle⟩ := h.upserted hphase hf
      have hevent : (Acoustic.step confirm_enabled s.sys a).db.events.find? id = some event := hevent
      rw [hevents] at hevent
      rcases find?_upsert_cases hevent with ⟨rfl, hupdated⟩ | ⟨-, hevent⟩
      · exact hold event ⟨g, hg, by rw [hupdated]; exact hle⟩
      · exact hold event (h.events id event hevent)

theorem Timed.retention {s : Gateway} (h : Timed s) (q : Statement) : Timed (s.retain q) := by
  cases q with
  | coords => exact ⟨h.past, h.workers, h.events⟩
  | publicEvents => exact ⟨h.past, h.workers, h.events⟩
  | cells =>
      have hstays : Stays s.sys.db.signals (s.sys.db.signals.map fun _ => degraded s.sys.now) := by
        intro id g hg
        refine ⟨degraded s.sys.now g, ?_, received_at_degradedAt (some s.sys.now) g⟩
        rw [Table.find?_map, hg]
        rfl
      refine ⟨fun id g' hg' => ?_, fun w => (h.workers w).goesOn (.refl _ _) hstays le_rfl,
        fun id event hevent => ?_⟩
      · have hfind := (Table.find?_map _ _ id).symm.trans hg'
        obtain ⟨g, hg, rfl⟩ := Option.map_eq_some_iff.1 hfind
        exact (received_at_degradedAt (some s.sys.now) g).le.trans (h.past id g hg)
      · obtain ⟨g, hg, hle⟩ := h.events id event hevent
        obtain ⟨g', hg', hreceived⟩ := hstays id g hg
        exact ⟨g', hg', hreceived.le.trans hle⟩

/-- A worker that writes has fetched less than the half hour before, less the window of its query. -/
def Prompt (s : Gateway) (a : Act) : Prop :=
  ∀ w id position, a = .synthesis (.upsert w id) position →
    s.sys.now ≤ s.fetched_at w + (publicEventTtl - fetchWindow)

/-- The public events, after the statement that expires them has last run. -/
structure Expiry (s : Gateway) (last : Option Timestamp) : Prop where
  expired : ∀ id t, s.expired_at id = some t → t ≤ s.sys.now ∧ ∃ event,
    s.sys.db.events.find? id = some event ∧ event.updated_at < t - publicEventTtl
  confirmed : ∀ id event, s.sys.db.events.find? id = some event → s.expired_at id = none →
    ∀ t ∈ last, t - publicEventTtl ≤ event.updated_at
  past : ∀ t ∈ last, t ≤ s.sys.now

/-- What has expired stays as it is. -/
def Final (s s' : Gateway) : Prop :=
  ∀ id t, s.expired_at id = some t →
    s'.expired_at id = some t ∧ s'.sys.db.events.find? id = s.sys.db.events.find? id

theorem Expiry.synthesis {s : Gateway} {last : Option Timestamp} (confirm_enabled : Bool) (ht : Timed s)
    (h : Expiry s last) {a : Acoustic.Act} {position : ℚ × ℚ} (hprompt : Prompt s (.synthesis a position)) :
    Final s (step confirm_enabled s (.synthesis a position)) ∧
      Expiry (step confirm_enabled s (.synthesis a position)) last := by
  have hnow := now_step confirm_enabled s.sys a
  have hpast : ∀ t ∈ last, t ≤ (Acoustic.step confirm_enabled s.sys a).now :=
    fun t hlast => (h.past t hlast).trans hnow
  rcases events_step confirm_enabled s.sys a with hsame | ⟨w, new, c, groups, first, rfl, hphase, hf, hevents⟩
  · have hevents : (step confirm_enabled s (.synthesis a position)).sys.db.events = s.sys.db.events := hsame
    refine ⟨fun id t hexpired => ⟨hexpired, by rw [hevents]⟩, fun id t hexpired => ?_, ?_, hpast⟩
    · rw [hevents]
      exact ⟨(h.expired id t hexpired).1.trans hnow, (h.expired id t hexpired).2⟩
    · rw [hevents]
      exact h.confirmed
  · obtain ⟨hfetched, hstarted, g, hg, hreceived, -⟩ := ht.upserted hphase hf
    have hprompt := hprompt w new position rfl
    -- the event of a signal that was fetched so lately has not expired
    have hopen : s.expired_at first.1 = none := by
      cases hexpired : s.expired_at first.1 with
      | none => rfl
      | some t =>
          obtain ⟨hle, event, hevent, hlt⟩ := h.expired first.1 t hexpired
          obtain ⟨g', hg', hle'⟩ := ht.events first.1 event hevent
          obtain rfl := Option.some.inj (hg.symm.trans hg')
          linarith
    have hfind : ∀ id t, s.expired_at id = some t →
        (step confirm_enabled s (.synthesis (.upsert w new) position)).sys.db.events.find? id =
          s.sys.db.events.find? id := by
      intro id t hexpired
      refine (congrArg (fun events => events.find? id) hevents).trans ?_
      rw [Table.find?_upsert, if_neg]
      rintro rfl
      rw [hopen] at hexpired
      cases hexpired
    refine ⟨fun id t hexpired => ⟨hexpired, hfind id t hexpired⟩, fun id t hexpired => ?_,
      fun id event hevent hnone t hlast => ?_, hpast⟩
    · rw [hfind id t hexpired]
      exact ⟨(h.expired id t hexpired).1.trans hnow, (h.expired id t hexpired).2⟩
    · have hevent : (Acoustic.step confirm_enabled s.sys (.upsert w new)).db.events.find? id = some event :=
        hevent
      rw [hevents] at hevent
      rcases find?_upsert_cases hevent with ⟨rfl, hupdated⟩ | ⟨-, hevent⟩
      · have hle := h.past t hlast
        have hwindow : 0 ≤ fetchWindow := by decide
        rw [hupdated]
        linarith
      · exact h.confirmed id event hevent hnone t hlast

theorem expired_at_publicEvents {s : Gateway} {id : Uuid} {t : Timestamp} :
    (s.retain .publicEvents).expired_at id = some t ↔ s.expired_at id = some t ∨
      s.expired_at id = none ∧ t = s.sys.now ∧ ∃ event, s.sys.db.events.find? id = some event ∧
        event.updated_at < s.sys.now - publicEventTtl := by
  unfold Gateway.retain
  dsimp only
  cases s.expired_at id with
  | some t' => simp
  | none =>
      cases s.sys.db.events.find? id with
      | none => simp
      | some event => simp [eq_comm, and_comm]

theorem Expiry.retention {s : Gateway} {last : Statement → Option Timestamp} (h : Expiry s (last .publicEvents))
    (q : Statement) : Final s (s.retain q) ∧
      Expiry (s.retain q) (Function.update last q (some s.sys.now) .publicEvents) := by
  cases q with
  | coords => exact ⟨fun id t hexpired => ⟨hexpired, rfl⟩, h.expired, h.confirmed, h.past⟩
  | cells => exact ⟨fun id t hexpired => ⟨hexpired, rfl⟩, h.expired, h.confirmed, h.past⟩
  | publicEvents =>
      rw [Function.update_self]
      refine ⟨fun id t hexpired => ⟨expired_at_publicEvents.2 (Or.inl hexpired), rfl⟩, fun id t hexpired => ?_,
        fun id event hevent hnone t hlast => ?_, fun t hlast => (Option.some.inj hlast).ge⟩
      · rcases expired_at_publicEvents.1 hexpired with hold | ⟨-, rfl, event, hevent, hlt⟩
        · exact h.expired id t hold
        · exact ⟨le_rfl, event, hevent, hlt⟩
      · obtain rfl := Option.some.inj hlast
        by_contra hlt
        have hnew : (s.retain .publicEvents).expired_at id = some s.sys.now := by
          cases hold : s.expired_at id with
          | some t =>
              have hstays := expired_at_publicEvents.2 (Or.inl hold)
              rw [hnone] at hstays
              cases hstays
          | none => exact expired_at_publicEvents.2 (Or.inr ⟨hold, rfl, event, hevent, not_le.1 hlt⟩)
        rw [hnone] at hnew
        cases hnew

theorem timed_init (start : Timestamp) : Timed (Gateway.init start) where
  past id g hg := by cases hg
  workers w := ⟨fun r hr => (by cases hr), fun groups hp => (by cases hp), fun t ht => (by cases ht)⟩
  events id event hevent := by cases hevent

theorem expiry_init (start : Timestamp) : Expiry (Gateway.init start) none where
  expired id t ht := by cases ht
  confirmed id event hevent := by cases hevent
  past t ht := by cases ht

/-- **An expired event stays as it is**, in any run whose workers are prompt.  An event that is there is
expired, and was last written more than half an hour before; or it is confirmed, and when the statement
last ran it had been written in the half hour before, or has been since. -/
theorem expired_stays (confirm_enabled : Bool) (start : Timestamp) (as : List Act)
    (hprompt : ∀ e ∈ events (step confirm_enabled) (Gateway.init start) as, Prompt e.pre e.act) :
    (∀ e ∈ events (step confirm_enabled) (Gateway.init start) as, Final e.pre e.post) ∧
      let s := run (step confirm_enabled) (Gateway.init start) as
      ∀ id event, s.sys.db.events.find? id = some event →
        (∃ t, s.expired_at id = some t ∧ event.updated_at < t - publicEventTtl) ∨
          s.expired_at id = none ∧
            ∀ t ∈ lastAt (events (step confirm_enabled) (Gateway.init start) as) .publicEvents,
              t - publicEventTtl ≤ event.updated_at := by
  have hrun : Timed (run (step confirm_enabled) (Gateway.init start) as) ∧
      Expiry (run (step confirm_enabled) (Gateway.init start) as)
        (lastAt (events (step confirm_enabled) (Gateway.init start) as) .publicEvents) ∧
      ∀ e ∈ events (step confirm_enabled) (Gateway.init start) as, Final e.pre e.post := by
    induction as using List.reverseRecOn with
    | nil => exact ⟨timed_init start, expiry_init start, fun e he => by cases he⟩
    | append_singleton as a ih =>
        rw [forall_events_append] at hprompt
        obtain ⟨htimed, hexpiry, hfinal⟩ := ih hprompt.1
        have hlast := hprompt.2 ⟨run (step confirm_enabled) (Gateway.init start) as, a, _⟩
          (List.mem_singleton_self _)
        rw [run_concat, events_concat, List.forall_mem_append, List.forall_mem_singleton]
        cases a with
        | synthesis a position =>
            rw [lastAt_synthesis]
            have hstep := hexpiry.synthesis confirm_enabled htimed hlast
            exact ⟨htimed.synthesis confirm_enabled a position, hstep.2, hfinal, hstep.1⟩
        | retention q =>
            rw [lastAt_retention]
            have hstep := hexpiry.retention q
            exact ⟨htimed.retention q, hstep.2, hfinal, hstep.1⟩
  obtain ⟨-, hexpiry, hfinal⟩ := hrun
  refine ⟨hfinal, fun id event hevent => ?_⟩
  cases hexpired : (run (step confirm_enabled) (Gateway.init start) as).expired_at id with
  | none => exact Or.inr ⟨rfl, hexpiry.confirmed id event hevent hexpired⟩
  | some t =>
      obtain ⟨-, event', hevent', hlt⟩ := hexpiry.expired id t hexpired
      obtain rfl := Option.some.inj (hevent.symm.trans hevent')
      exact Or.inl ⟨t, rfl, hlt⟩

/-- Three signals, their event, and a pass after half an hour. -/
def demoPass : List Act :=
  demoWritten.map (.synthesis · (0, 0)) ++
    [.synthesis (.wait 1800000001) (0, 0), .retention .coords, .retention .cells, .retention .publicEvents]

theorem expired_stays_demo :
    (∀ e ∈ events (step true) (Gateway.init 0) demoPass, Final e.pre e.post) ∧
      (run (step true) (Gateway.init 0) demoPass).expired_at "1" = some 1800000001 := by
  refine ⟨(expired_stays true 0 demoPass fun e he => ?_).1, by decide +kernel⟩
  intro w id position hact
  simp only [demoPass, demoWritten, demoArrivals, demoGroup, demoConfirm, List.map_cons, List.map_nil,
    List.cons_append, List.nil_append, events_cons, events_nil, List.mem_cons, List.not_mem_nil,
    or_false] at he
  rcases he with rfl | rfl | rfl | rfl | rfl | rfl | rfl | rfl | rfl | rfl | rfl | rfl | rfl | rfl <;>
    cases hact
  decide +kernel

end Retention
end Acoustic
end SentinelMesh
