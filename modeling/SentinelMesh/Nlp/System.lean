/-
# Machine events: the system

Any number of transactions of `handle_message` and any number of synthesis workers
on one set of tables, one statement at a time where others may come between.

A message is taken up (`begin`), which reads the signals, and committed later, or
never.  A worker goes through its tick: `expireEvents` and `expireSignals` are the two
statements of `expire_stale_events`, `fetchStats` counts, `promote` is one
transaction on a count that may be old by then, and `halt` is an error or a crash
that ends the tick anywhere.  A promotion is one action, since it holds the lock of
the row it writes.  Deliveries go away with their subscription (`unsubscribe`) or
with age (`purge`); which subscriptions there are is given with the start.

`Step` says everything an action can do, and `step_spec` that it does.
-/

import SentinelMesh.Nlp.Synthesis
import SentinelMesh.Lib.Run
import Mathlib.Logic.Function.Basic

namespace SentinelMesh
namespace Nlp

open Lib

/-- Where a worker is in its tick. -/
inductive Phase
  | idle
  | expiring (ids : List Uuid)
  | expired
  | promoting (queue : List (Uuid × ClusterStats))
  deriving DecidableEq

/-- The state of the gateway's machine events. -/
structure Sys where
  now : Timestamp
  db : Db
  ingests : List Ingest := []
  workers : ℕ → Phase := fun _ => .idle

/-- The start: no event yet, and some subscriptions. -/
def Sys.init (start : Timestamp) (subscriptions : Table Uuid (Option PushPreferences)) : Sys :=
  { now := start, db := { subscriptions } }

/-- What can happen next. -/
inductive Act
  | wait (d : ℕ)
  | begin (event : RedisEventPayload) (existing : Option Uuid)
  | commit (k : ℕ) (id : Uuid)
  | abandon (k : ℕ)
  | expireEvents (w : ℕ)
  | expireSignals (w : ℕ)
  | fetchStats (w : ℕ)
  | promote (w k : ℕ) (fails : Bool)
  | finish (w : ℕ)
  | halt (w : ℕ)
  | unsubscribe (id : Uuid)
  | purge (gone : List (Uuid × Uuid))
  deriving DecidableEq

/-- A worker moves on. -/
def Sys.move (s : Sys) (w : ℕ) (p : Phase) : Sys :=
  { s with workers := Function.update s.workers w p }

/-- The phase after the first statement of `expire_stale_events`: the second is only for
events there are. -/
def afterExpiry (ids : List Uuid) : Phase := if ids = [] then .expired else .expiring ids

/-- The tables without a subscription and its deliveries. -/
def Db.unsubscribe (db : Db) (id : Uuid) : Db :=
  { db with
    subscriptions := db.subscriptions.filter fun k _ => decide (k ≠ id)
    deliveries := db.deliveries.filter fun k _ => decide (k.2 ≠ id) }

/-- The tables without some deliveries. -/
def Db.purge (db : Db) (gone : List (Uuid × Uuid)) : Db :=
  { db with deliveries := db.deliveries.filter fun k _ => decide (k ∉ gone) }

/-- The next state; an action that is not possible changes nothing. -/
def step (env : Env) (s : Sys) : Act → Sys
  | .wait d => { s with now := s.now + d }
  | .begin event existing =>
    if s.db.finds env event s.now existing then
      { s with ingests := s.ingests ++ [{ event, began := s.now, existing }] }
    else s
  | .commit k id =>
    match s.ingests[k]? with
    | none => s
    | some i =>
      if (s.db.events.find? id).isSome then s
      else { s with db := ((stage env i id).commit s.db).1, ingests := s.ingests.eraseIdx k }
  | .abandon k => { s with ingests := s.ingests.eraseIdx k }
  | .expireEvents w =>
    match s.workers w with
    | .idle =>
      { s with db := s.db.expireEvents s.now }.move w (afterExpiry (s.db.staleIds s.now))
    | _ => s
  | .expireSignals w =>
    match s.workers w with
    | .expiring ids => { s with db := s.db.expireSignals ids }.move w .expired
    | _ => s
  | .fetchStats w =>
    match s.workers w with
    | .expired => s.move w (.promoting s.db.fetchClusterStats)
    | _ => s
  | .promote w k fails =>
    match s.workers w with
    | .promoting queue =>
      match queue[k]? with
      | none => s
      | some c =>
        { s with db := if fails then s.db else s.db.promoteOrSkip env c }.move w
          (.promoting (queue.eraseIdx k))
    | _ => s
  | .finish w =>
    match s.workers w with
    | .promoting [] => s.move w .idle
    | _ => s
  | .halt w => s.move w .idle
  | .unsubscribe id => { s with db := s.db.unsubscribe id }
  | .purge gone => { s with db := s.db.purge gone }

/-- **Everything an action can do.** -/
inductive Step (env : Env) (s : Sys) : Act → Sys → Prop
  | refused (a : Act) (other : ∀ w ids, a = .expireSignals w → s.workers w ≠ .expiring ids) :
      Step env s a s
  | wait (d : ℕ) : Step env s (.wait d) { s with now := s.now + d }
  | began (event : RedisEventPayload) (existing : Option Uuid)
      (finds : s.db.finds env event s.now existing = true) :
      Step env s (.begin event existing)
        { s with ingests := s.ingests ++ [{ event, began := s.now, existing }] }
  | rolledBack (k : ℕ) (id : Uuid) :
      Step env s (.commit k id) { s with ingests := s.ingests.eraseIdx k }
  | attached (k : ℕ) (id : Uuid) (i : Ingest) (taken : s.ingests[k]? = some i) (event_id : Uuid)
      (row : SafetyEvent) (existing : i.existing = some event_id)
      (found : s.db.events.find? event_id = some row) :
      Step env s (.commit k id)
        { s with db := s.db.attach env i event_id, ingests := s.ingests.eraseIdx k }
  | created (k : ℕ) (id : Uuid) (i : Ingest) (taken : s.ingests[k]? = some i)
      (free : s.db.events.find? id = none) (row : SafetyEvent) (existing : i.existing = none)
      (new : newEvent i.event = .ok row) :
      Step env s (.commit k id)
        { s with db := s.db.create env i id row, ingests := s.ingests.eraseIdx k }
  | abandoned (k : ℕ) : Step env s (.abandon k) { s with ingests := s.ingests.eraseIdx k }
  | expiredEvents (w : ℕ) (idle : s.workers w = .idle) :
      Step env s (.expireEvents w)
        ({ s with db := s.db.expireEvents s.now }.move w (afterExpiry (s.db.staleIds s.now)))
  | expiredSignals (w : ℕ) (ids : List Uuid) (expiring : s.workers w = .expiring ids) :
      Step env s (.expireSignals w) ({ s with db := s.db.expireSignals ids }.move w .expired)
  | fetched (w : ℕ) (expired : s.workers w = .expired) :
      Step env s (.fetchStats w) (s.move w (.promoting s.db.fetchClusterStats))
  | dropped (w k : ℕ) (fails : Bool) (queue : List (Uuid × ClusterStats))
      (promoting : s.workers w = .promoting queue) :
      Step env s (.promote w k fails) (s.move w (.promoting (queue.eraseIdx k)))
  | promoted (w k : ℕ) (queue : List (Uuid × ClusterStats)) (id : Uuid) (stats : ClusterStats)
      (promoting : s.workers w = .promoting queue) (next : queue[k]? = some (id, stats))
      (p : Promotion) (db' : Db) (ran : (promoteCluster env id stats).run s.db = .ok (p, db')) :
      Step env s (.promote w k false)
        ({ s with db := db' }.move w (.promoting (queue.eraseIdx k)))
  | finished (w : ℕ) (done : s.workers w = .promoting []) :
      Step env s (.finish w) (s.move w .idle)
  | halted (w : ℕ) : Step env s (.halt w) (s.move w .idle)
  | unsubscribed (id : Uuid) : Step env s (.unsubscribe id) { s with db := s.db.unsubscribe id }
  | purged (gone : List (Uuid × Uuid)) : Step env s (.purge gone) { s with db := s.db.purge gone }

theorem step_spec (env : Env) (s : Sys) (a : Act) : Step env s a (step env s a) := by
  cases a with
  | wait d => exact .wait d
  | begin event existing =>
      rw [step]
      split_ifs with h
      · exact .began event existing h
      · exact .refused _ (by simp)
  | commit k id =>
      rw [step]
      split
      · exact .refused _ (by simp)
      · rename_i i hi
        split_ifs with hfree
        · exact .refused _ (by simp)
        · rcases Txn.commit_fst (stage env i id) s.db with hsame | ⟨r, hok⟩
          · rw [hsame]
            exact .rolledBack k id
          · rcases run_stage_eq_ok hok with ⟨event_id, row, hex, hrow, hdb⟩ | ⟨row, hex, hnew, hdb⟩
            · rw [hdb]
              exact .attached k id i hi event_id row hex hrow
            · rw [hdb]
              exact .created k id i hi (by simpa using hfree) row hex hnew
  | abandon k => exact .abandoned k
  | expireEvents w =>
      rw [step]
      split
      · rename_i h
        exact .expiredEvents w h
      · exact .refused _ (by simp)
  | expireSignals w =>
      rw [step]
      split
      · rename_i ids h
        exact .expiredSignals w ids h
      · rename_i h
        refine .refused _ fun v ids hv hids => ?_
        cases hv
        exact h ids hids
  | fetchStats w =>
      rw [step]
      split
      · rename_i h
        exact .fetched w h
      · exact .refused _ (by simp)
  | promote w k fails =>
      rw [step]
      split
      · rename_i queue h
        split
        · exact .refused _ (by simp)
        · rename_i c hc
          cases fails with
          | true => exact .dropped w k true queue h
          | false =>
              rcases promoteOrSkip_cases env s.db c with hsame | ⟨p, hp⟩
              · rw [if_neg Bool.false_ne_true, hsame]
                exact .dropped w k false queue h
              · exact .promoted w k queue c.1 c.2 h hc p _ hp
      · exact .refused _ (by simp)
  | finish w =>
      rw [step]
      split
      · rename_i h
        exact .finished w h
      · exact .refused _ (by simp)
  | halt w => exact .halted w
  | unsubscribe id => exact .unsubscribed id
  | purge gone => exact .purged gone

/-- The worker an action is of. -/
def Act.worker : Act → Option ℕ
  | .expireEvents w | .expireSignals w | .fetchStats w | .promote w _ _ | .finish w | .halt w => some w
  | .wait _ | .begin _ _ | .commit _ _ | .abandon _ | .unsubscribe _ | .purge _ => none

/-- An action moves no other worker. -/
theorem workers_step (env : Env) {s : Sys} {a : Act} {v : ℕ} (h : a.worker ≠ some v) :
    (step env s a).workers v = s.workers v := by
  have hs := step_spec env s a
  have hmove : ∀ (t : Sys) w p, some w ≠ some v → (t.move w p).workers v = t.workers v := by
    intro t w p hne
    have hvw : v ≠ w := fun hv => hne (congrArg some hv.symm)
    exact Function.update_of_ne hvw p t.workers
  generalize step env s a = s' at hs ⊢
  cases hs with
  | expiredEvents w | expiredSignals w | fetched w | dropped w | promoted w | finished w | halted w =>
      exact hmove _ w _ h
  | refused | wait | began | rolledBack | attached | created | abandoned | unsubscribed | purged => rfl

theorem workers_run (env : Env) {s : Sys} {as : List Act} {v : ℕ} (h : ∀ a ∈ as, a.worker ≠ some v) :
    (run (step env) s as).workers v = s.workers v := by
  induction as generalizing s with
  | nil => rfl
  | cons a as ih =>
      rw [List.forall_mem_cons] at h
      rw [run_cons, ih h.2, workers_step env h.1]

/-- Only messages change what messages there are. -/
theorem ingests_kept (env : Env) (s : Sys) {a : Act}
    (hbegin : ∀ event existing, a ≠ .begin event existing) (hcommit : ∀ k id, a ≠ .commit k id)
    (habandon : ∀ k, a ≠ .abandon k) : (step env s a).ingests = s.ingests := by
  have hs := step_spec env s a
  generalize step env s a = s' at hs ⊢
  cases hs with
  | began event existing => exact absurd rfl (hbegin event existing)
  | rolledBack k id => exact absurd rfl (hcommit k id)
  | attached k id => exact absurd rfl (hcommit k id)
  | created k id => exact absurd rfl (hcommit k id)
  | abandoned k => exact absurd rfl (habandon k)
  | refused | wait | expiredEvents | expiredSignals | fetched | dropped | promoted | finished | halted
  | unsubscribed | purged => rfl

/-! ### What happens to a row -/

/-- What an action can do to the row of an event. -/
inductive EventStep (env : Env) (s : Sys) (a : Act) (id : Uuid) :
    Option SafetyEvent → Option SafetyEvent → Prop
  | same (o : Option SafetyEvent) : EventStep env s a id o o
  | created (k : ℕ) (i : Ingest) (act : a = .commit k id) (taken : s.ingests[k]? = some i)
      (row : SafetyEvent) (new : newEvent i.event = .ok row) : EventStep env s a id none (some row)
  | expired (w : ℕ) (act : a = .expireEvents w) (idle : s.workers w = .idle) (row : SafetyEvent)
      (stale : row.stale s.now = true) : EventStep env s a id (some row) (some row.expire)
  | promoted (w k : ℕ) (act : a = .promote w k false) (queue : List (Uuid × ClusterStats))
      (promoting : s.workers w = .promoting queue) (stats : ClusterStats)
      (next : queue[k]? = some (id, stats)) (row : SafetyEvent) (active : row.is_active = true) :
      EventStep env s a id (some row)
        (some (row.promote (max row.trust_state (decideTier stats.independence)) stats))

/-- **The row of a promoted event** has the higher of the two tiers. -/
theorem Promoted.find? {env : Env} {db db' : Db} {event_id : Uuid} {stats : ClusterStats}
    {p : Promotion} (h : Promoted env db event_id stats p db') (id : Uuid) :
    db'.events.find? id = db.events.find? id ∨
      ∃ row, event_id = id ∧ db.events.find? id = some row ∧ row.is_active = true ∧
        db'.events.find? id =
          some (row.promote (max row.trust_state (decideTier stats.independence)) stats) := by
  have hset : ∀ row target, db.events.find? event_id = some row → row.is_active = true →
      target = max row.trust_state (decideTier stats.independence) →
      (db.refresh event_id target stats).events.find? id = db.events.find? id ∨
        ∃ row, event_id = id ∧ db.events.find? id = some row ∧ row.is_active = true ∧
          (db.refresh event_id target stats).events.find? id =
            some (row.promote (max row.trust_state (decideTier stats.independence)) stats) := by
    intro row target hrow hactive htarget
    unfold Db.refresh
    rw [Table.find?_modify]
    split_ifs with hid
    · subst hid
      refine Or.inr ⟨row, rfl, hrow, hactive, ?_⟩
      rw [hrow, htarget]
      rfl
    · exact Or.inl rfl
  cases h with
  | skipped _ => exact Or.inl rfl
  | unchanged row hrow hactive _ hsame => exact hset row _ hrow hactive (max_eq_left hsame).symm
  | corroborated row hrow hactive _ hhigher _ =>
      exact hset row _ hrow hactive (max_eq_right hhigher.le).symm
  | confirmed row hrow hactive _ _ henough =>
      refine hset row _ hrow hactive ?_
      rw [henough]
      exact (max_eq_right row.trust_state.le_confirmed).symm

/-- A promotion leaves the signals alone. -/
theorem Promoted.signals {env : Env} {db db' : Db} {event_id : Uuid} {stats : ClusterStats}
    {p : Promotion} (h : Promoted env db event_id stats p db') : db'.signals = db.signals := by
  cases h <;> rfl

theorem event_step (env : Env) (s : Sys) (a : Act) (id : Uuid) :
    EventStep env s a id (s.db.events.find? id) ((step env s a).db.events.find? id) := by
  have hs := step_spec env s a
  generalize step env s a = s' at hs ⊢
  cases hs with
  | created k id' i hi hfree row _ hnew =>
      change EventStep env s _ id (s.db.events.find? id) ((s.db.events.insert id' row).find? id)
      rw [Table.find?_insert]
      split_ifs with hid
      · subst hid
        rw [hfree]
        exact .created k i rfl hi row hnew
      · exact .same _
  | expiredEvents w hw =>
      change EventStep env s _ id (s.db.events.find? id) ((Table.map _ _).find? id)
      rw [Table.find?_map]
      cases hrow : s.db.events.find? id with
      | none => exact .same _
      | some row =>
          rw [Option.map_some]
          split_ifs with hstale
          · exact .expired w rfl hw row hstale
          · exact .same _
  | promoted w k queue event_id stats hw hk p db' hran =>
      change EventStep env s _ id (s.db.events.find? id) (db'.events.find? id)
      rcases (run_promoteCluster_eq_ok hran).find? id with hsame | ⟨row, rfl, hrow, hactive, hnew⟩
      · rw [hsame]
        exact .same _
      · rw [hrow, hnew]
        exact .promoted w k rfl queue hw stats hk row hactive
  | refused | wait | began | rolledBack | attached | abandoned | expiredSignals | fetched | dropped
  | finished | halted | unsubscribed | purged => exact .same _

/-- What an action can do to the signals. -/
inductive SignalsStep (env : Env) (s : Sys) (a : Act) : List Signal → Prop
  | same : SignalsStep env s a s.db.signals
  | staged (k : ℕ) (id : Uuid) (act : a = .commit k id) (i : Ingest) (taken : s.ingests[k]? = some i)
      (event_id : Uuid) (chosen : i.existing = some event_id ∨ i.existing = none ∧ event_id = id) :
      SignalsStep env s a (s.db.signals ++ [newSignal env i event_id])
  | expired (w : ℕ) (act : a = .expireSignals w) (ids : List Uuid)
      (expiring : s.workers w = .expiring ids) :
      SignalsStep env s a (s.db.signals.map (Signal.expireIn ids))

theorem signals_step (env : Env) (s : Sys) (a : Act) :
    SignalsStep env s a (step env s a).db.signals := by
  have hs := step_spec env s a
  generalize step env s a = s' at hs ⊢
  cases hs with
  | attached k id i hi event_id row hex _ => exact .staged k id rfl i hi event_id (Or.inl hex)
  | created k id i hi _ row hex _ => exact .staged k id rfl i hi id (Or.inr ⟨hex, rfl⟩)
  | expiredSignals w ids hw => exact .expired w rfl ids hw
  | promoted w k queue event_id stats hw hk p db' hran =>
      change SignalsStep env s _ db'.signals
      rw [(run_promoteCluster_eq_ok hran).signals]
      exact .same
  | refused | wait | began | rolledBack | abandoned | expiredEvents | fetched | dropped
  | finished | halted | unsubscribed | purged => exact .same

/-! ### A small world -/

/-- One cell for every point, and everybody near. -/
def demoEnv : Env :=
  { h3Cells := fun _ _ => ("891fb46622bffff", "871fb4662ffffff"), dWithin := fun _ _ _ => true }

/-- A message about one flood. -/
def demoPayload (source_id origin_channel : Option String) : RedisEventPayload :=
  { event_type := "FLOOD", severity := "HIGH", title := "Flooding downtown", lat := 0, lng := 0
    started_at := 0, source_id, origin_channel, created_at := 0 }

/-- A message taken up and committed. -/
def demoReport (existing : Option Uuid) (id : Uuid) (c : Option String × Option String) : List Act :=
  [.begin (demoPayload c.1 c.2) existing, .commit 0 id]

/-- Messages about the flood, the first of which makes an event of it. -/
def demoReports : List (Option String × Option String) → List Act
  | [] => []
  | c :: cs => demoReport none "flood" c ++ cs.flatMap (demoReport (some "flood") "none")

/-- A tick up to its first promotion, with nothing to expire. -/
def demoTick : List Act := [.expireEvents 0, .fetchStats 0, .promote 0 0 false]

end Nlp
end SentinelMesh
