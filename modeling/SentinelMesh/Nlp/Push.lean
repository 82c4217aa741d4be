/-
# Machine events: push on confirmation

The transaction that writes `confirmed` into an event is the one that enqueues its
deliveries, and there is one such transaction for an event over a whole run
(`push_on_confirmation`): a promotion reads the tier under the lock of the row, a
confirmed event is never less than confirmed again (`confirmed_step`), and a
promotion of a confirmed event enqueues nothing.  Before it, no delivery of the
event exists, so the deliveries right after it are those of its own `INSERT`.
-/

import SentinelMesh.Nlp.System

namespace SentinelMesh
namespace Nlp

open Lib

variable {env : Env} {s : Sys} {id : Uuid}

/-- The event is stored as confirmed. -/
def Confirmed (db : Db) (id : Uuid) : Prop :=
  ∃ row, db.events.find? id = some row ∧ row.trust_state = .confirmed

instance (db : Db) (id : Uuid) : Decidable (Confirmed db id) :=
  match h : db.events.find? id with
  | none => .isFalse fun ⟨_, hrow, _⟩ => by rw [h] at hrow; cases hrow
  | some row =>
    decidable_of_iff (row.trust_state = .confirmed)
      ⟨fun hc => ⟨row, h, hc⟩, fun ⟨_, hrow, hc⟩ => Option.some.inj (h.symm.trans hrow) ▸ hc⟩

/-- The action executed commits a transaction of `promote_cluster` that enqueues the
deliveries of the event. -/
def Enqueues (env : Env) (id : Uuid) (e : Event Sys Act) : Prop :=
  ∃ w k queue stats db', e.act = .promote w k false ∧ e.pre.workers w = .promoting queue ∧
    queue[k]? = some (id, stats) ∧
    (promoteCluster env id stats).run e.pre.db = .ok (.confirmed, db')

/-- The preferences of a subscription want the event. -/
def Wants (env : Env) (row : SafetyEvent) (p : PushPreferences) : Prop :=
  p.min_severity.rank ≤ row.severity.rank ∧
    env.dWithin (p.center_lat, p.center_lng) (row.lat, row.lng) (p.radius_km * 1000) = true

/-! ### Deliveries -/

/-- The deliveries after some were added. -/
theorem find?_deliver (db : Db) (event_id : Uuid) (row : SafetyEvent) (subscriptions : List Uuid)
    (id sub : Uuid) :
    ((db.deliver event_id row subscriptions).deliveries.find? (id, sub)).isSome = true ↔
      (db.deliveries.find? (id, sub)).isSome = true ∨ id = event_id ∧ sub ∈ subscriptions := by
  change ((subscriptions.foldl (addDelivery event_id row) db.deliveries).find? (id, sub)).isSome =
    true ↔ _
  generalize db.deliveries = t
  induction subscriptions generalizing t with
  | nil => simp
  | cons sub' rest ih =>
      rw [List.foldl_cons, ih]
      unfold addDelivery
      rw [Table.find?_insert, List.mem_cons]
      split_ifs with heq
      · obtain ⟨rfl, rfl⟩ := Prod.mk.inj heq
        simp
      · constructor
        · rintro (h | ⟨hid, hsub⟩)
          · exact Or.inl h
          · exact Or.inr ⟨hid, Or.inr hsub⟩
        · rintro (h | ⟨hid, rfl | hsub⟩)
          · exact Or.inl h
          · exact absurd (congrArg (·, sub) hid) heq
          · exact Or.inr ⟨hid, hsub⟩

/-- The subscriptions an event is delivered to are those whose preferences want it. -/
theorem mem_targets (db : Db) (row : SafetyEvent) (sub : Uuid) :
    sub ∈ db.targets env row ↔
      ∃ p, db.subscriptions.find? sub = some (some p) ∧ Wants env row p := by
  have hkey : sub ∈ db.targets env row ↔ ∃ o,
      (db.subscriptions.filter fun _ p => p.any fun p => p.selects env row).find? sub = some o := by
    unfold Db.targets
    rw [List.mem_map]
    constructor
    · rintro ⟨r, hr, rfl⟩
      exact ⟨r.2, Table.find?_eq_some_iff.2 hr⟩
    · rintro ⟨o, ho⟩
      exact ⟨(sub, o), Table.find?_eq_some_iff.1 ho, rfl⟩
  rw [hkey]
  simp only [Table.find?_filter, Option.filter_eq_some_iff]
  unfold Wants PushPreferences.selects
  constructor
  · rintro ⟨o, ho, hany⟩
    obtain ⟨p, rfl, hp⟩ := (Option.any_eq_true _ _).1 hany
    exact ⟨p, ho, by simpa using hp⟩
  · rintro ⟨p, hp, hwants⟩
    exact ⟨some p, hp, by simpa using hwants⟩

/-! ### One step -/

/-- **A confirmed event stays confirmed.** -/
theorem confirmed_step (a : Act) (h : Confirmed s.db id) : Confirmed (step env s a).db id := by
  obtain ⟨row, hrow, hconf⟩ := h
  have he := event_step env s a id
  rw [hrow] at he
  unfold Confirmed
  generalize (step env s a).db.events.find? id = o at he ⊢
  cases he with
  | same => exact ⟨row, rfl, hconf⟩
  | expired => exact ⟨_, rfl, hconf⟩
  | promoted w k hact queue hw stats hk _ hactive =>
      refine ⟨_, rfl, ?_⟩
      change max row.trust_state _ = .confirmed
      rw [hconf]
      exact max_eq_left (TrustTier.le_confirmed _)

/-- What an enqueuing transaction found and left. -/
theorem Enqueues.spec {e : Event Sys Act} (h : Enqueues env id e) (he : e.post = step env e.pre e.act) :
    ∃ row row', e.pre.db.events.find? id = some row ∧ row.trust_state < .confirmed ∧
      e.post.db.events.find? id = some row' ∧ row'.trust_state = .confirmed ∧
      row'.severity = row.severity ∧ row'.lat = row.lat ∧ row'.lng = row.lng ∧
      e.post.db.subscriptions = e.pre.db.subscriptions ∧
      ∀ id' sub, (e.post.db.deliveries.find? (id', sub)).isSome = true ↔
        (e.pre.db.deliveries.find? (id', sub)).isSome = true ∨
          id' = id ∧ sub ∈ e.pre.db.targets env row := by
  obtain ⟨w, k, queue, stats, db', hact, hw, hk, hrun⟩ := h
  have hpost : e.post.db = db' := by
    rw [he, hact]
    simp only [step, hw, hk, if_neg Bool.false_ne_true]
    exact congrArg Prod.fst (Txn.commit_eq_ok_iff.2 hrun)
  rw [hpost]
  cases run_promoteCluster_eq_ok hrun with
  | confirmed row hrow hactive hfits hlower henough =>
      obtain ⟨htier, _, _, _, _, hsev, hlat, hlng⟩ := row.promote_fields .confirmed stats
      refine ⟨row, row.promote .confirmed stats, hrow, hlower, ?_, htier, hsev, hlat, hlng, rfl, ?_⟩
      · change (e.pre.db.events.modify id _).find? id = _
        rw [Table.find?_modify, if_pos rfl, hrow]
        rfl
      · intro id' sub
        exact find?_deliver (e.pre.db.refresh id .confirmed stats) id row _ id' sub

/-- **Enqueuing is the transition into confirmed.** -/
theorem enqueues_iff (env : Env) {e : Event Sys Act} (he : e.post = step env e.pre e.act) :
    Enqueues env id e ↔ ¬ Confirmed e.pre.db id ∧ Confirmed e.post.db id := by
  constructor
  · intro h
    obtain ⟨row, row', hrow, hlower, hrow', hconf, _⟩ := h.spec he
    refine ⟨?_, row', hrow', hconf⟩
    rintro ⟨row₀, hrow₀, hconf₀⟩
    obtain rfl := Option.some.inj (hrow.symm.trans hrow₀)
    exact hlower.ne hconf₀
  · rintro ⟨hnot, row', hrow', hconf⟩
    have hs := step_spec env e.pre e.act
    rw [he] at hrow'
    generalize hact : e.act = a at hs hrow'
    generalize step env e.pre a = s' at hs hrow'
    cases hs with
    | created k id' i hi hfree row _ hnew =>
        change (e.pre.db.events.insert id' row).find? id = some row' at hrow'
        rw [Table.find?_insert] at hrow'
        split_ifs at hrow' with hid
        · rw [hfree] at hrow'
          obtain rfl := Option.some.inj hrow'
          rw [Option.getD_none, (newEvent_eq_ok hnew).1] at hconf
          cases hconf
        · exact absurd ⟨row', hrow', hconf⟩ hnot
    | expiredEvents w _ =>
        change (Table.map _ _).find? id = some row' at hrow'
        rw [Table.find?_map] at hrow'
        obtain ⟨row, hrow, rfl⟩ := Option.map_eq_some_iff.1 hrow'
        refine absurd ⟨row, hrow, ?_⟩ hnot
        split_ifs at hconf
        · exact hconf
        · exact hconf
    | promoted w k queue event_id stats hw hk p db' hran =>
        change db'.events.find? id = some row' at hrow'
        rcases (run_promoteCluster_eq_ok hran).find? id with hsame | ⟨row, rfl, hrow, hactive, hnew⟩
        · exact absurd ⟨row', hsame ▸ hrow', hconf⟩ hnot
        · -- the tier rose to confirmed, so this is the last branch of the source
          rw [hnew] at hrow'
          obtain rfl := Option.some.inj hrow'
          have hlow : row.trust_state ≠ .confirmed := fun hc => hnot ⟨row, hrow, hc⟩
          have htier : max row.trust_state (decideTier stats.independence) = .confirmed := hconf
          have hdec : decideTier stats.independence = .confirmed := by
            rcases max_choice row.trust_state (decideTier stats.independence) with hmax | hmax
            · exact absurd (hmax.symm.trans htier) hlow
            · exact hmax.symm.trans htier
          have hp : p = .confirmed := by
            cases run_promoteCluster_eq_ok hran with
            | skipped hin =>
                rw [hin row hrow] at hactive
                cases hactive
            | unchanged row₀ hrow₀ _ _ hsame =>
                obtain rfl := Option.some.inj (hrow.symm.trans hrow₀)
                rw [hdec] at hsame
                exact absurd (le_antisymm (TrustTier.le_confirmed _) hsame) hlow
            | corroborated _ _ _ _ _ hbelow => exact absurd hdec hbelow
            | confirmed => rfl
          subst hp
          exact ⟨w, k, queue, stats, db', hact, hw, hk, hran⟩
    | refused | wait | began | rolledBack | attached | abandoned | expiredSignals | fetched | dropped
    | finished | halted | unsubscribed | purged => exact absurd ⟨row', hrow', hconf⟩ hnot

/-- Deliveries are of confirmed events. -/
def DeliveriesConfirmed (db : Db) : Prop :=
  ∀ id sub, (db.deliveries.find? (id, sub)).isSome = true → Confirmed db id

/-- A promotion adds deliveries for the event it confirms, if for any. -/
theorem Promoted.deliveries {db db' : Db} {event_id : Uuid} {stats : ClusterStats} {p : Promotion}
    (h : Promoted env db event_id stats p db') {id sub : Uuid}
    (hd : (db'.deliveries.find? (id, sub)).isSome = true) :
    (db.deliveries.find? (id, sub)).isSome = true ∨ Confirmed db' id := by
  cases h with
  | skipped | unchanged | corroborated => exact Or.inl hd
  | confirmed row hrow =>
      rcases (find?_deliver _ event_id row _ id sub).1 hd with hold | ⟨rfl, _⟩
      · exact Or.inl hold
      · refine Or.inr ⟨row.promote .confirmed stats, ?_, (row.promote_fields _ _).1⟩
        change (db.events.modify id _).find? id = _
        rw [Table.find?_modify, if_pos rfl, hrow]
        rfl

/-- Fewer deliveries are found in fewer rows. -/
theorem isSome_find?_filter {κ ν : Type} [DecidableEq κ] {t : Table κ ν} {q : κ → ν → Bool} {k : κ}
    (h : ((t.filter q).find? k).isSome = true) : (t.find? k).isSome = true := by
  rw [Table.find?_filter] at h
  obtain ⟨v, hv⟩ := Option.isSome_iff_exists.1 h
  rw [(Option.filter_eq_some_iff.1 hv).1]
  rfl

theorem deliveriesConfirmed_step (a : Act) (h : DeliveriesConfirmed s.db) :
    DeliveriesConfirmed (step env s a).db := by
  have hold : ∀ id sub, ((step env s a).db.deliveries.find? (id, sub)).isSome = true →
      (s.db.deliveries.find? (id, sub)).isSome = true ∨ Confirmed (step env s a).db id := by
    intro id sub hd
    have hs := step_spec env s a
    generalize step env s a = s' at hs hd ⊢
    cases hs with
    | promoted w k queue event_id stats hw hk p db' hran =>
        exact (run_promoteCluster_eq_ok hran).deliveries hd
    | unsubscribed | purged => exact Or.inl (isSome_find?_filter hd)
    | refused | wait | began | rolledBack | attached | created | abandoned | expiredEvents
    | expiredSignals | fetched | dropped | finished | halted => exact Or.inl hd
  intro id sub hd
  rcases hold id sub hd with hbefore | hconf
  · exact confirmed_step a (h id sub hbefore)
  · exact hconf

/-! ### Whole runs -/

/-- What a run so far says about deliveries: those there are belong to confirmed
events, an event that was enqueued is confirmed now, none was enqueued twice, and each
was delivered to those who want it. -/
structure PushSound (env : Env) (s : Sys) (es : List (Event Sys Act)) : Prop where
  confirmed : DeliveriesConfirmed s.db
  enqueued : ∀ e ∈ es, ∀ id, Enqueues env id e → Confirmed s.db id
  once : ∀ id, es.Pairwise fun e e' => ¬ (Enqueues env id e ∧ Enqueues env id e')
  exact : ∀ e ∈ es, ∀ id, Enqueues env id e → ∃ row, e.post.db.events.find? id = some row ∧
    ∀ sub, (e.post.db.deliveries.find? (id, sub)).isSome = true ↔
      ∃ p, e.post.db.subscriptions.find? sub = some (some p) ∧ Wants env row p
  transition : ∀ e ∈ es, ∀ id,
    Enqueues env id e ↔ ¬ Confirmed e.pre.db id ∧ Confirmed e.post.db id

/-- The deliveries right after the transaction that enqueues them. -/
theorem Enqueues.exact {e : Event Sys Act} (h : Enqueues env id e)
    (he : e.post = step env e.pre e.act) (hpre : DeliveriesConfirmed e.pre.db) :
    ∃ row, e.post.db.events.find? id = some row ∧
      ∀ sub, (e.post.db.deliveries.find? (id, sub)).isSome = true ↔
        ∃ p, e.post.db.subscriptions.find? sub = some (some p) ∧ Wants env row p := by
  have hnew : ¬ Confirmed e.pre.db id := ((enqueues_iff env he).1 h).1
  obtain ⟨row, row', hrow, _, hrow', _, hsev, hlat, hlng, hsubs, hdel⟩ := h.spec he
  refine ⟨row', hrow', fun sub => ?_⟩
  have hnone : ¬ (e.pre.db.deliveries.find? (id, sub)).isSome = true :=
    fun hd => hnew (hpre id sub hd)
  have hwants : ∀ p, Wants env row p ↔ Wants env row' p := by
    intro p
    unfold Wants
    rw [hsev, hlat, hlng]
  rw [hdel, hsubs, mem_targets, or_iff_right hnone]
  simp only [hwants, true_and]

theorem pushSound_step (es : List (Event Sys Act)) (a : Act) (h : PushSound env s es) :
    PushSound env (step env s a) (es ++ [⟨s, a, step env s a⟩]) := by
  refine
    { confirmed := deliveriesConfirmed_step a h.confirmed
      enqueued := fun e he id henq => ?_
      once := fun id => ?_
      exact := fun e he id henq => ?_
      transition := fun e he id => ?_ }
  · rcases List.mem_append.1 he with he | he
    · exact confirmed_step a (h.enqueued e he id henq)
    · obtain rfl := List.mem_singleton.1 he
      exact ((enqueues_iff env rfl).1 henq).2
  · refine List.pairwise_append.2 ⟨h.once id, List.pairwise_singleton _ _, ?_⟩
    rintro e he e' he' ⟨henq, henq'⟩
    obtain rfl := List.mem_singleton.1 he'
    exact ((enqueues_iff env rfl).1 henq').1 (h.enqueued e he id henq)
  · rcases List.mem_append.1 he with he | he
    · exact h.exact e he id henq
    · obtain rfl := List.mem_singleton.1 he
      exact henq.exact rfl h.confirmed
  · rcases List.mem_append.1 he with he | he
    · exact h.transition e he id
    · obtain rfl := List.mem_singleton.1 he
      exact enqueues_iff env rfl

/-- **Push fires exactly on the transition into confirmed.**  In every run, with any
number of workers and stale counts: deliveries exist only for confirmed events; the
transaction that enqueues the deliveries of an event is the one that makes it
confirmed, and commits at most once; there is at most one delivery for an event and a
subscription; and right after that commit there is one for exactly the subscriptions
with preferences whose least severity is at most that of the event and whose radius
the event is in. -/
theorem push_on_confirmation (env : Env) (start : Timestamp)
    (subscriptions : Table Uuid (Option PushPreferences)) (as : List Act) :
    (∀ id sub payload,
        (run (step env) (Sys.init start subscriptions) as).db.deliveries.find? (id, sub) =
          some payload →
        ∃ row, (run (step env) (Sys.init start subscriptions) as).db.events.find? id = some row ∧
          row.trust_state = .confirmed) ∧
      (∀ id, (events (step env) (Sys.init start subscriptions) as).Pairwise fun e e' =>
        ¬ (Enqueues env id e ∧ Enqueues env id e')) ∧
      (∀ id sub, (run (step env) (Sys.init start subscriptions) as).db.deliveries.count
        (fun k _ => decide (k = (id, sub))) ≤ 1) ∧
      (∀ e ∈ events (step env) (Sys.init start subscriptions) as, ∀ id, Enqueues env id e →
        ∃ row, e.post.db.events.find? id = some row ∧
          ∀ sub, (e.post.db.deliveries.find? (id, sub)).isSome = true ↔
            ∃ p, e.post.db.subscriptions.find? sub = some (some p) ∧
              p.min_severity.rank ≤ row.severity.rank ∧
              env.dWithin (p.center_lat, p.center_lng) (row.lat, row.lng) (p.radius_km * 1000) =
                true) ∧
      ∀ e ∈ events (step env) (Sys.init start subscriptions) as, ∀ id,
        Enqueues env id e ↔ ¬ Confirmed e.pre.db id ∧ Confirmed e.post.db id := by
  have hinit : PushSound env (Sys.init start subscriptions) [] := by
    refine ⟨fun id sub hd => ?_, ?_, fun id => List.Pairwise.nil, ?_, ?_⟩
    · cases hd
    · intro e he
      cases he
    · intro e he
      cases he
    · intro e he
      cases he
  have hsound := run_events_induction hinit (fun s es a => pushSound_step es a) as
  refine ⟨fun id sub payload hd => ?_, hsound.once, fun id sub => ?_, hsound.exact,
    hsound.transition⟩
  · exact hsound.confirmed id sub (by rw [hd]; rfl)
  · exact Table.count_key_le_one _ _

/-- One of three subscriptions is told: one has no preferences, and one wants to hear of
worse. -/
example :
    (run (step demoEnv) (Sys.init 0 (((Table.empty.insert "near" (some ⟨.high, 0, 0, 5⟩)).insert
        "unset" none).insert "worst" (some ⟨.critical, 0, 0, 5⟩)))
      (demoReports [(some "a", some "rss"), (some "b", some "sms"), (some "c", some "rss")] ++
        demoTick)).db.deliveries.rows.map Prod.fst = [("flood", "near")] := by
  decide

end Nlp
end SentinelMesh
