/-
# Machine events: signals of dead clusters

Expiry makes an event inactive in one statement and takes its signals out of reach
in another, and a message chooses its event by the signals alone.  So a message that
comes between the two statements, or that has chosen before the first and commits
after it, joins an event that is off the map; and if the worker stops between them,
the signals stay pending for good and every later message of the cell joins the dead
event (`joins_dead_cluster`).

This is all that goes wrong.  In a run in which none of this happens (`Orderly`),
every signal is committed to an active event, and at the end of a tick no inactive
event has a pending signal (`joins_active_cluster`).
-/

import SentinelMesh.Nlp.System

namespace SentinelMesh
namespace Nlp

open Lib

variable {env : Env} {s : Sys} {id : Uuid}

/-- The event is on the map. -/
def Active (db : Db) (id : Uuid) : Prop :=
  ∃ row, db.events.find? id = some row ∧ row.is_active = true ∧ row.state ≠ .expired

instance (db : Db) (id : Uuid) : Decidable (Active db id) :=
  match h : db.events.find? id with
  | none => .isFalse fun ⟨_, hrow, _⟩ => by rw [h] at hrow; cases hrow
  | some row =>
    decidable_of_iff (row.is_active = true ∧ row.state ≠ .expired)
      ⟨fun hc => ⟨row, h, hc⟩, fun ⟨_, hrow, hc⟩ => Option.some.inj (h.symm.trans hrow) ▸ hc⟩

/-- No message chooses an event that is being expired, no event is expired that a
message has chosen, no worker stops between the statements of an expiry, and no tick
ends while another worker is there. -/
def Orderly (env : Env) (s : Sys) : Act → Prop
  | .begin event (some id) => s.db.finds env event s.now (some id) = true → Active s.db id
  | .expireEvents w => s.workers w = .idle →
      ∀ i ∈ s.ingests, ∀ id, i.existing = some id → id ∉ s.db.staleIds s.now
  | .halt w => ∀ ids, s.workers w ≠ .expiring ids
  | .finish w => s.workers w = .promoting [] → ∀ v ids, s.workers v ≠ .expiring ids
  | _ => True

/-- What holds in an orderly run: the events messages have chosen are active, and so are
those of pending signals, but for those a worker is about to take out of reach. -/
structure Alive (s : Sys) : Prop where
  ingests : ∀ i ∈ s.ingests, ∀ id, i.existing = some id → Active s.db id
  pending : ∀ g ∈ s.db.signals, g.trust_state = .pending →
    Active s.db g.event_id ∨ ∃ w ids, s.workers w = .expiring ids ∧ g.event_id ∈ ids

/-! ### One step -/

/-- An active event stays active, or is expired. -/
theorem active_step (env : Env) (a : Act) (h : Active s.db id) :
    Active (step env s a).db id ∨
      ∃ w, a = .expireEvents w ∧ s.workers w = .idle ∧ id ∈ s.db.staleIds s.now := by
  obtain ⟨row, hrow, hactive, hstate⟩ := h
  have he := event_step env s a id
  have hstale : row.stale s.now = true → id ∈ s.db.staleIds s.now :=
    fun hst => (mem_staleIds _ _ _).2 ⟨row, hrow, hst⟩
  rw [hrow] at he
  unfold Active
  generalize (step env s a).db.events.find? id = o at he ⊢
  cases he with
  | same => exact Or.inl ⟨row, rfl, hactive, hstate⟩
  | expired w hact hw _ hst => exact Or.inr ⟨w, hact, hw, hstale hst⟩
  | promoted w k hact queue hw stats hk _ _ =>
      obtain ⟨_, _, _, hkeep, hkeep', _⟩ := row.promote_fields
        (max row.trust_state (decideTier stats.independence)) stats
      exact Or.inl ⟨_, rfl, hkeep.trans hactive, fun hexp => hstate (hkeep'.symm.trans hexp)⟩

/-- A new event is active. -/
theorem active_create (env : Env) {db : Db} {i : Ingest} {row : SafetyEvent}
    (hfree : db.events.find? id = none) (hnew : newEvent i.event = .ok row) :
    Active (db.create env i id row) id := by
  refine ⟨row, ?_, (newEvent_eq_ok hnew).2⟩
  change (db.events.insert id row).find? id = some row
  rw [Table.find?_insert, if_pos rfl, hfree, Option.getD_none]

/-- A message under way was there before, or has just chosen. -/
theorem ingests_step (env : Env) (a : Act) {i : Ingest} (h : i ∈ (step env s a).ingests) :
    i ∈ s.ingests ∨ ∃ event existing, a = .begin event existing ∧
      s.db.finds env event s.now existing = true ∧ i.existing = existing := by
  have hs := step_spec env s a
  generalize step env s a = s' at hs h
  cases hs with
  | began event existing hfinds =>
      rcases List.mem_append.1 h with hold | hnew
      · exact Or.inl hold
      · exact Or.inr ⟨event, existing, rfl, hfinds, by rw [List.mem_singleton.1 hnew]⟩
  | rolledBack k | attached k | created k | abandoned k => exact Or.inl (List.mem_of_mem_eraseIdx h)
  | refused | wait | expiredEvents | expiredSignals | fetched | dropped | promoted | finished | halted
  | unsubscribed | purged => exact Or.inl h

/-- A pending signal was there before and is not of an event whose signals were just
expired, or has just been staged. -/
theorem pending_step (env : Env) (a : Act) {g : Signal} (h : g ∈ (step env s a).db.signals)
    (hg : g.trust_state = .pending) :
    (g ∈ s.db.signals ∧
        ∀ w ids, a = .expireSignals w → s.workers w = .expiring ids → g.event_id ∉ ids) ∨
      ∃ k new i event_id, a = .commit k new ∧ s.ingests[k]? = some i ∧ g = newSignal env i event_id ∧
        (i.existing = some event_id ∨ Active (step env s a).db event_id) := by
  have hs := step_spec env s a
  generalize step env s a = s' at hs h ⊢
  have hkeep : g ∈ s.db.signals → (∀ w, a ≠ .expireSignals w) → g ∈ s.db.signals ∧
      ∀ w ids, a = .expireSignals w → s.workers w = .expiring ids → g.event_id ∉ ids :=
    fun hmem hne => ⟨hmem, fun w ids hact => absurd hact (hne w)⟩
  cases hs with
  | attached k new i hi event_id row hex hrow =>
      rcases List.mem_append.1 h with hold | hnew
      · exact Or.inl (hkeep hold (by simp))
      · exact Or.inr ⟨k, new, i, event_id, rfl, hi, List.mem_singleton.1 hnew, Or.inl hex⟩
  | created k new i hi hfree row hex hnew =>
      rcases List.mem_append.1 h with hold | hlast
      · exact Or.inl (hkeep hold (by simp))
      · exact Or.inr ⟨k, new, i, new, rfl, hi, List.mem_singleton.1 hlast,
          Or.inr (active_create env hfree hnew)⟩
  | expiredSignals w ids hw =>
      obtain ⟨g₀, hg₀, rfl⟩ := List.mem_map.1 h
      unfold Signal.expireIn at hg ⊢
      split_ifs at hg ⊢ with hin
      refine Or.inl ⟨hg₀, fun w' ids' hact hw' hmem => ?_⟩
      cases hact
      rw [hw] at hw'
      cases hw'
      exact hin ⟨Or.inl hg, hmem⟩
  | promoted w k queue event_id stats hw hk p db' hran =>
      change g ∈ db'.signals at h
      rw [(run_promoteCluster_eq_ok hran).signals] at h
      exact Or.inl (hkeep h (by simp))
  | refused _ hother => exact Or.inl ⟨h, fun w ids hact hw => absurd hw (hother w ids hact)⟩
  | wait | began | rolledBack | abandoned | expiredEvents | fetched | dropped
  | finished | halted | unsubscribed | purged => exact Or.inl (hkeep h (by simp))

/-- A worker between its two statements goes on to the second, or stops. -/
theorem expiring_step (env : Env) (a : Act) {w : ℕ} {ids : List Uuid}
    (h : s.workers w = .expiring ids) :
    (step env s a).workers w = .expiring ids ∨ a = .expireSignals w ∨ a = .halt w := by
  by_cases hw : a.worker = some w
  · cases a with
    | expireSignals v => exact Or.inr (Or.inl (congrArg Act.expireSignals (Option.some.inj hw)))
    | halt v => exact Or.inr (Or.inr (congrArg Act.halt (Option.some.inj hw)))
    | expireEvents v | fetchStats v | promote v | finish v =>
        obtain rfl : v = w := Option.some.inj hw
        refine Or.inl ?_
        simp only [step, h]
    | wait | begin | commit | abandon | unsubscribe | purge => cases hw
  · exact Or.inl ((workers_step env hw).trans h)

/-- **One orderly step keeps clusters alive.** -/
theorem alive_step (env : Env) (a : Act) (h : Alive s) (hord : Orderly env s a) : Alive (step env s a) := by
  refine ⟨fun i hi id hex => ?_, fun g hg hpend => ?_⟩
  · rcases ingests_step env a hi with hold | ⟨event, existing, rfl, hfinds, hnew⟩
    · rcases active_step env a (h.ingests i hold id hex) with hact | ⟨w, rfl, hw, hstale⟩
      · exact hact
      · exact absurd hstale (hord hw i hold id hex)
    · rw [hex] at hnew
      subst hnew
      rcases active_step env _ (hord hfinds) with hact | ⟨w, hbad, _⟩
      · exact hact
      · cases hbad
  · rcases pending_step env a hg hpend with ⟨hold, hout⟩ | ⟨k, new, i, event_id, rfl, hi, rfl, hch⟩
    · rcases h.pending g hold hpend with hact | ⟨w, ids, hw, hin⟩
      · rcases active_step env a hact with hact' | ⟨w, rfl, hw, hstale⟩
        · exact Or.inl hact'
        · -- just expired: the worker has it among its ids
          refine Or.inr ⟨w, s.db.staleIds s.now, ?_, hstale⟩
          have hafter : afterExpiry (s.db.staleIds s.now) = .expiring (s.db.staleIds s.now) :=
            if_neg (List.ne_nil_of_mem hstale)
          simp only [step, hw, hafter]
          exact Function.update_self ..
      · rcases expiring_step env a hw with hstay | rfl | rfl
        · exact Or.inr ⟨w, ids, hstay, hin⟩
        · exact absurd hin (hout w ids rfl hw)
        · exact absurd hw (hord ids)
    · rcases hch with hex | hact
      · rcases active_step env (.commit k new)
          (h.ingests i (List.mem_of_getElem? hi) event_id hex) with hact | ⟨w, hbad, _⟩
        · exact Or.inl hact
        · cases hbad
      · exact Or.inl hact

/-- A signal is committed to an active event. -/
theorem active_of_staged (h : Alive s) {k : ℕ} {new : Uuid} {g : Signal}
    (hg : (step env s (.commit k new)).db.signals = s.db.signals ++ [g]) :
    Active (step env s (.commit k new)).db g.event_id := by
  have hne : s.db.signals ≠ s.db.signals ++ [g] := by simp
  have hchosen : ∀ i event_id row, s.ingests[k]? = some i → i.existing = some event_id →
      s.db.events.find? event_id = some row → Active (s.db.attach env i event_id) event_id :=
    fun i event_id _ hi hex _ => h.ingests i (List.mem_of_getElem? hi) event_id hex
  have hs := step_spec env s (.commit k new)
  generalize step env s (.commit k new) = s' at hs hg ⊢
  cases hs with
  | refused => exact absurd hg hne
  | rolledBack => exact absurd hg hne
  | attached _ _ i hi event_id row hex hrow =>
      obtain rfl : newSignal env i event_id = g := by simpa using List.append_cancel_left hg
      exact hchosen i event_id row hi hex hrow
  | created _ _ i _ hfree row _ hnew =>
      obtain rfl : newSignal env i new = g := by simpa using List.append_cancel_left hg
      exact active_create env hfree hnew

/-! ### Whole runs -/

/-- **Signals join live clusters, in orderly runs.**  Every signal that is committed is of
an active event in the state it is committed to, and when a tick ends no inactive
event has a pending signal. -/
theorem joins_active_cluster (env : Env) (start : Timestamp)
    (subscriptions : Table Uuid (Option PushPreferences)) (as : List Act)
    (hord : ∀ e ∈ events (step env) (Sys.init start subscriptions) as, Orderly env e.pre e.act) :
    (∀ e ∈ events (step env) (Sys.init start subscriptions) as, ∀ k id g, e.act = .commit k id →
        e.post.db.signals = e.pre.db.signals ++ [g] → Active e.post.db g.event_id) ∧
      ∀ e ∈ events (step env) (Sys.init start subscriptions) as, ∀ w, e.act = .finish w →
        e.pre.workers w = .promoting [] →
        ∀ g ∈ e.post.db.signals, g.trust_state = .pending → Active e.post.db g.event_id := by
  have hinit : Alive (Sys.init start subscriptions) := by
    refine ⟨fun i hi => ?_, fun g hg => ?_⟩
    · cases hi
    · cases hg
  have halive : ∀ e ∈ events (step env) (Sys.init start subscriptions) as,
      Alive e.pre ∧ e.post = step env e.pre e.act :=
    fun e he => events_induction_of hinit (fun s a => alive_step env a) hord he
  refine ⟨fun e he k id g hact hg => ?_, fun e he w hact hw g hg hpend => ?_⟩
  · obtain ⟨hpre, hpost⟩ := halive e he
    rw [hact] at hpost
    rw [hpost] at hg ⊢
    exact active_of_staged hpre hg
  · obtain ⟨hpre, hpost⟩ := halive e he
    have hquiet := hord e he
    rw [hact] at hpost hquiet
    have hdb : e.post.db = e.pre.db := by
      rw [hpost]
      simp only [step, hw]
      rfl
    rw [hdb] at hg ⊢
    rcases hpre.pending g hg hpend with hactive | ⟨v, ids, hv, _⟩
    · exact hactive
    · exact absurd hv (hquiet hw v ids)

/-- Half an hour and a minute, in microseconds. -/
def demoLater : ℕ := 31 * 60 * 1000000

/-- A flood that is over, and a new one after it. -/
def demoOver : List Act :=
  demoReports [(some "a", some "rss")] ++
    [.wait demoLater, .expireEvents 0, .expireSignals 0, .fetchStats 0, .finish 0] ++
    demoReport none "flood again" (some "b", some "rss")

theorem joins_active_cluster_again :
    (∀ e ∈ events (step demoEnv) (Sys.init 0 Table.empty) demoOver, Orderly demoEnv e.pre e.act) ∧
      (run (step demoEnv) (Sys.init 0 Table.empty) demoOver).db.signals.map Signal.event_id =
        ["flood", "flood again"] ∧
      (∀ e ∈ events (step demoEnv) (Sys.init 0 Table.empty) demoOver, ∀ k id g,
        e.act = .commit k id → e.post.db.signals = e.pre.db.signals ++ [g] →
          Active e.post.db g.event_id) := by
  have hord : ∀ e ∈ events (step demoEnv) (Sys.init 0 Table.empty) demoOver,
      Orderly demoEnv e.pre e.act := by
    simp only [demoOver, demoReports, demoReport, List.flatMap_nil, List.cons_append, List.nil_append,
      List.append_nil, events_cons, events_nil, List.forall_mem_cons]
    refine ⟨trivial, trivial, trivial, ?_, trivial, trivial, ?_, trivial, trivial, by simp⟩
    · intro _ i hi
      cases hi
    · intro hw v ids hv
      by_cases hv0 : v = 0
      · subst hv0
        rw [hw] at hv
        cases hv
      · have hidle : (run (step demoEnv) (Sys.init 0 Table.empty) (demoReports [(some "a", some "rss")] ++
            [.wait demoLater, .expireEvents 0, .expireSignals 0, .fetchStats 0])).workers v = .idle :=
          workers_run demoEnv (by simp [demoReports, demoReport, Act.worker, Ne.symm hv0])
        cases hidle.symm.trans hv
  exact ⟨hord, by decide, (joins_active_cluster _ _ _ _ hord).1⟩

/-- A worker stops between its two statements, ticks once more, and then there is one more
message. -/
def demoStopped : List Act :=
  demoReports [(some "a", some "rss")] ++ [.expireEvents 0, .halt 0] ++
    [.expireEvents 0, .fetchStats 0, .promote 0 0 false, .finish 0] ++
    demoReport (some "flood") "none" (some "b", some "rss")

/-- **A signal joins a dead cluster**, and the signals of the cluster outlive the next tick. -/
theorem joins_dead_cluster :
    (¬ ∀ e ∈ events (step demoEnv) (Sys.init demoLater Table.empty) demoStopped, ∀ k id g,
        e.act = .commit k id → e.post.db.signals = e.pre.db.signals ++ [g] →
          Active e.post.db g.event_id) ∧
      ¬ ∀ e ∈ events (step demoEnv) (Sys.init demoLater Table.empty) demoStopped, ∀ w,
        e.act = .finish w → e.pre.workers w = .promoting [] →
        ∀ g ∈ e.post.db.signals, g.trust_state = .pending → Active e.post.db g.event_id := by
  constructor
  · intro h
    have hfail : ∃ e ∈ events (step demoEnv) (Sys.init demoLater Table.empty) demoStopped,
        e.act = .commit 0 "none" ∧
          (∃ g ∈ e.post.db.signals.getLast?, e.post.db.signals = e.pre.db.signals ++ [g] ∧
            ¬ Active e.post.db g.event_id) := by
      decide +kernel
    obtain ⟨e, he, hact, g, _, hg, hdead⟩ := hfail
    exact hdead (h e he 0 "none" g hact hg)
  · intro h
    have hfail : ∃ e ∈ events (step demoEnv) (Sys.init demoLater Table.empty) demoStopped,
        e.act = .finish 0 ∧ e.pre.workers 0 = .promoting [] ∧
          ∃ g ∈ e.post.db.signals, g.trust_state = .pending ∧ ¬ Active e.post.db g.event_id := by
      decide
    obtain ⟨e, he, hact, hw, g, hg, hpend, hdead⟩ := hfail
    exact hdead (h e he 0 hact hw g hg hpend)

end Nlp
end SentinelMesh
