/-
# Machine events: tiers only rise, and duplicates do not matter, up to a point

The tier of an event never falls (`tier_run`), and the trigger that would stop it
never has to (`promoteCluster_ne_invalid`).

A tick reads the pending signals of an event as distinct sources and channels, so
signals that repeat a source and its channel should change nothing.  But their number
is written as well, as a 32-bit integer into a column that must not be negative: with
`2 ^ 31` signals the whole update fails, tier included (`promotion_lost_to_duplicates`).
`trust_of_duplicates` says exactly when a tick after duplicates leaves the event as a
tick without them would.
-/

import SentinelMesh.Nlp.System

namespace SentinelMesh
namespace Nlp

open Lib

variable {env : Env} {s : Sys} {id : Uuid} {now : Timestamp}

/-! ### Tiers -/

/-- A tier does not fall in a step. -/
theorem tier_step (env : Env) (a : Act) {row : SafetyEvent} (h : s.db.events.find? id = some row) :
    ∃ row', (step env s a).db.events.find? id = some row' ∧ row.trust_state ≤ row'.trust_state := by
  have he := event_step env s a id
  rw [h] at he
  generalize (step env s a).db.events.find? id = o at he ⊢
  cases he with
  | same => exact ⟨row, rfl, le_rfl⟩
  | expired => exact ⟨row.expire, rfl, le_rfl⟩
  | promoted w k hact queue hw stats hk _ hactive =>
      refine ⟨_, rfl, ?_⟩
      rw [(row.promote_fields _ _).1]
      exact le_max_left _ _

/-- **A tier does not fall in a run.** -/
theorem tier_run (as : List Act) {row : SafetyEvent} (h : s.db.events.find? id = some row) :
    ∃ row', (run (step env) s as).db.events.find? id = some row' ∧
      row.trust_state ≤ row'.trust_state := by
  refine run_induction
    (P := fun t : Sys => ∃ row', t.db.events.find? id = some row' ∧ row.trust_state ≤ row'.trust_state)
    ⟨row, h, le_rfl⟩ ?_ as
  rintro t a ⟨row₁, hrow₁, hle₁⟩
  obtain ⟨row₂, hrow₂, hle₂⟩ := tier_step env a hrow₁
  exact ⟨row₂, hrow₂, hle₁.trans hle₂⟩

/-- A promotion fails only where a count cannot be stored. -/
theorem run_promoteCluster_eq_error {db : Db} {stats : ClusterStats} {e : DbError}
    (h : (promoteCluster env id stats).run db = .error e) :
    stats.fits = false ∧ ∃ column, e = .checkViolation column := by
  have hunfit : ∀ column, decide (0 ≤ asI32 stats.total_signals) = false ∨
      decide (0 ≤ asI32 stats.distinct_sources) = false ∨
      decide (0 ≤ asI32 stats.distinct_channels) = false → e = .checkViolation column →
      stats.fits = false ∧ ∃ column, e = .checkViolation column := by
    intro column hneg he
    refine ⟨decide_eq_false ?_, column, he⟩
    rintro ⟨htotal, hsources, hchannels⟩
    simp only [htotal, hsources, hchannels, decide_true, Bool.true_eq_false, or_self] at hneg
  unfold promoteCluster at h
  rcases Txn.run_bind_eq_error.1 h with h | ⟨db₁, db₂, _, h⟩
  · cases h
  · split at h
    · cases h
    · rename_i row _
      rcases Txn.run_bind_eq_error.1 h with h | ⟨_, db₃, _, h⟩
      · -- the first statement of the update is the trigger, the others are checks
        unfold updateEvent at h
        rw [enforce_max] at h
        rcases Txn.run_bind_eq_error.1 h with h | ⟨_, _, _, h⟩
        · cases h
        rcases Txn.run_bind_eq_error.1 h with h | ⟨_, _, _, h⟩
        · obtain ⟨hneg, he⟩ := Txn.run_require_eq_error h
          exact hunfit _ (Or.inl hneg) he
        rcases Txn.run_bind_eq_error.1 h with h | ⟨_, _, _, h⟩
        · obtain ⟨hneg, he⟩ := Txn.run_require_eq_error h
          exact hunfit _ (Or.inr (Or.inl hneg)) he
        rcases Txn.run_bind_eq_error.1 h with h | ⟨_, _, _, h⟩
        · obtain ⟨hneg, he⟩ := Txn.run_require_eq_error h
          exact hunfit _ (Or.inr (Or.inr hneg)) he
        · cases h
      · split_ifs at h
        · cases h
        · cases h
        · cases h

/-- **The trigger never raises.** -/
theorem promoteCluster_ne_invalid (env : Env) (db : Db) (id : Uuid) (stats : ClusterStats)
    (old new : TrustTier) :
    (promoteCluster env id stats).run db ≠ .error (.invalidTrustTransition old new) := by
  intro h
  obtain ⟨_, column, he⟩ := run_promoteCluster_eq_error h
  cases he

/-! ### A tick -/

/-- `expire_stale_events`, both statements. -/
def Db.expireStaleEvents (db : Db) (now : Timestamp) : Db :=
  (db.expireEvents now).expireSignals (db.staleIds now)

/-- `tick` from one state of the tables to another, the clusters in some order. -/
def Ticked (env : Env) (now : Timestamp) (db db' : Db) : Prop :=
  ∃ queue : List (Uuid × ClusterStats), queue.Perm (db.expireStaleEvents now).fetchClusterStats ∧
    db' = queue.foldl (Db.promoteOrSkip env) (db.expireStaleEvents now)

/-- The row of an event after a turn of the loop with these counts. -/
def SafetyEvent.brought (row : SafetyEvent) (stats : ClusterStats) : SafetyEvent :=
  if row.is_active = true ∧ stats.fits = true then
    row.promote (max row.trust_state (decideTier stats.independence)) stats
  else row

/-- The row of an event after a tick that finds these signals of it pending. -/
def SafetyEvent.ticked (row : SafetyEvent) (now : Timestamp) (gs : List Signal) : SafetyEvent :=
  if row.stale now then row.expire else if gs = [] then row else row.brought (clusterStats gs)

/-- A turn of the loop on the event it is about. -/
theorem find?_promoteOrSkip {db : Db} {row : SafetyEvent} (stats : ClusterStats)
    (hrow : db.events.find? id = some row) :
    (db.promoteOrSkip env (id, stats)).events.find? id = some (row.brought stats) := by
  unfold SafetyEvent.brought
  cases hrun : (promoteCluster env id stats).run db with
  | error e =>
      have hsame : db.promoteOrSkip env (id, stats) = db := by
        unfold Db.promoteOrSkip Txn.commit
        rw [hrun]
      have hunfit := (run_promoteCluster_eq_error hrun).1
      rw [hsame, if_neg fun h => Bool.false_ne_true (hunfit.symm.trans h.2), hrow]
  | ok r =>
      obtain ⟨p, db'⟩ := r
      have hnext : db.promoteOrSkip env (id, stats) = db' := by
        unfold Db.promoteOrSkip
        rw [Txn.commit_eq_ok_iff.2 hrun]
      rw [hnext]
      have hset : ∀ target, (db.refresh id target stats).events.find? id =
          some (row.promote target stats) := by
        intro target
        unfold Db.refresh
        rw [Table.find?_modify, if_pos rfl, hrow]
        rfl
      have hdone := run_promoteCluster_eq_ok hrun
      cases hdone with
      | skipped hin =>
          rw [if_neg fun h => Bool.false_ne_true ((hin row hrow).symm.trans h.1), hrow]
      | unchanged row₀ hrow₀ hactive hfits hle =>
          obtain rfl := Option.some.inj (hrow.symm.trans hrow₀)
          rw [if_pos ⟨hactive, hfits⟩, max_eq_left hle]
          exact hset _
      | corroborated row₀ hrow₀ hactive hfits hlt _ =>
          obtain rfl := Option.some.inj (hrow.symm.trans hrow₀)
          rw [if_pos ⟨hactive, hfits⟩, max_eq_right hlt.le]
          exact hset _
      | confirmed row₀ hrow₀ hactive hfits _ henough =>
          obtain rfl := Option.some.inj (hrow.symm.trans hrow₀)
          rw [if_pos ⟨hactive, hfits⟩, henough, max_eq_right row.trust_state.le_confirmed]
          exact hset _

/-- A turn of the loop on other events. -/
theorem find?_promoteOrSkip_of_ne {db : Db} {c : Uuid × ClusterStats} (h : c.1 ≠ id) :
    (db.promoteOrSkip env c).events.find? id = db.events.find? id := by
  rcases promoteOrSkip_cases env db c with hsame | ⟨p, hran⟩
  · rw [hsame]
  · rcases (run_promoteCluster_eq_ok hran).find? id with hsame | ⟨_, hid, _⟩
    · exact hsame
    · exact absurd hid h

/-- The loop on an event that is not in the queue. -/
theorem find?_loop_of_not_mem (queue : List (Uuid × ClusterStats)) (db : Db)
    (h : id ∉ queue.map Prod.fst) :
    (queue.foldl (Db.promoteOrSkip env) db).events.find? id = db.events.find? id := by
  induction queue generalizing db with
  | nil => rfl
  | cons c queue ih =>
      rw [List.map_cons, List.mem_cons, not_or] at h
      rw [List.foldl_cons, ih _ h.2, find?_promoteOrSkip_of_ne (Ne.symm h.1)]

/-- **The loop brings each count to its event.** -/
theorem find?_loop {queue : List (Uuid × ClusterStats)} (hnd : (queue.map Prod.fst).Nodup) {db : Db}
    {row : SafetyEvent} (hrow : db.events.find? id = some row) {stats : ClusterStats}
    (hmem : (id, stats) ∈ queue) :
    (queue.foldl (Db.promoteOrSkip env) db).events.find? id = some (row.brought stats) := by
  induction queue generalizing db with
  | nil => cases hmem
  | cons c queue ih =>
      rw [List.map_cons, List.nodup_cons] at hnd
      rw [List.foldl_cons]
      rcases List.mem_cons.1 hmem with rfl | hmem
      · rw [find?_loop_of_not_mem queue _ hnd.1, find?_promoteOrSkip stats hrow]
      · refine ih hnd.2 ?_ hmem
        have hne : c.1 ≠ id := by
          rintro rfl
          exact hnd.1 (List.mem_map.2 ⟨_, hmem, rfl⟩)
        rw [find?_promoteOrSkip_of_ne hne, hrow]

/-- The events that are counted are those with pending signals. -/
theorem mem_fetchClusterStats (db : Db) (stats : ClusterStats) :
    (id, stats) ∈ db.fetchClusterStats ↔
      db.pending id ≠ [] ∧ stats = clusterStats (db.pending id) := by
  have hpending : (∃ g ∈ db.signals.filter (fun g => decide (g.trust_state = .pending)),
      g.event_id = id) ↔ db.pending id ≠ [] := by
    unfold Db.pending Db.staged
    constructor
    · rintro ⟨g, hg, hid⟩
      obtain ⟨hg, hpend⟩ := List.mem_filter.1 hg
      exact List.ne_nil_of_mem
        (List.mem_filter.2 ⟨List.mem_filter.2 ⟨hg, decide_eq_true hid⟩, hpend⟩)
    · intro hne
      obtain ⟨g, hg⟩ := List.exists_mem_of_ne_nil _ hne
      obtain ⟨hg, hpend⟩ := List.mem_filter.1 hg
      obtain ⟨hg, hid⟩ := List.mem_filter.1 hg
      exact ⟨g, List.mem_filter.2 ⟨hg, hpend⟩, of_decide_eq_true hid⟩
  unfold Db.fetchClusterStats
  rw [← hpending]
  simp only [List.mem_map, List.mem_dedup, Prod.mk.injEq]
  constructor
  · rintro ⟨_, ⟨g, hg, rfl⟩, rfl, rfl⟩
    exact ⟨⟨g, hg, rfl⟩, rfl⟩
  · rintro ⟨⟨g, hg, rfl⟩, rfl⟩
    exact ⟨g.event_id, ⟨g, hg, rfl⟩, rfl, rfl⟩

theorem nodup_fetchClusterStats (db : Db) : (db.fetchClusterStats.map Prod.fst).Nodup := by
  unfold Db.fetchClusterStats
  rw [List.map_map]
  have hid : Prod.fst ∘ (fun id => (id, clusterStats (db.pending id))) = id := rfl
  rw [hid, List.map_id]
  exact List.nodup_dedup _

/-- The row of an event after expiry. -/
theorem find?_expireStaleEvents (now : Timestamp) {db : Db} {row : SafetyEvent}
    (h : db.events.find? id = some row) :
    (db.expireStaleEvents now).events.find? id =
      some (if row.stale now then row.expire else row) := by
  change (db.events.map fun _ e => if e.stale now then e.expire else e).find? id = _
  rw [Table.find?_map, h]
  rfl

/-- Expiry leaves the signals of other events alone. -/
theorem staged_expireSignals (db : Db) {ids : List Uuid} (h : id ∉ ids) :
    (db.expireSignals ids).staged id = db.staged id := by
  unfold Db.staged Db.expireSignals
  dsimp only
  induction db.signals with
  | nil => rfl
  | cons g gs ih =>
      rw [List.map_cons, List.filter_cons, List.filter_cons, ih]
      by_cases hid : g.event_id = id
      · have hsame : g.expireIn ids = g := by
          unfold Signal.expireIn
          rw [if_neg fun hin => h (hid ▸ hin.2)]
        rw [hsame]
      · have hother : (g.expireIn ids).event_id = g.event_id := by
          unfold Signal.expireIn
          split_ifs
          · rfl
          · rfl
        rw [hother, if_neg (by simpa using hid), if_neg (by simpa using hid)]

/-- **What a tick does to an event** depends on its row and its pending signals. -/
theorem find?_ticked {db db' : Db} {row : SafetyEvent} (h : Ticked env now db db')
    (hrow : db.events.find? id = some row) :
    db'.events.find? id = some (row.ticked now (db.pending id)) := by
  obtain ⟨queue, hperm, rfl⟩ := h
  have hnd : (queue.map Prod.fst).Nodup :=
    (hperm.map Prod.fst).nodup_iff.2 (nodup_fetchClusterStats _)
  have hexp := find?_expireStaleEvents now hrow
  have hin : ∀ stats, (id, stats) ∈ queue ↔ (db.expireStaleEvents now).pending id ≠ [] ∧
      stats = clusterStats ((db.expireStaleEvents now).pending id) :=
    fun stats => (hperm.mem_iff).trans (mem_fetchClusterStats _ stats)
  unfold SafetyEvent.ticked
  cases hstale : row.stale now with
  | true =>
      rw [hstale, if_pos rfl] at hexp
      rw [if_pos rfl]
      by_cases hnil : (db.expireStaleEvents now).pending id = []
      · have hout : id ∉ queue.map Prod.fst := by
          rintro hmem
          obtain ⟨⟨id', stats⟩, hc, rfl⟩ := List.mem_map.1 hmem
          exact ((hin stats).1 hc).1 hnil
        rw [find?_loop_of_not_mem queue _ hout, hexp]
      · rw [find?_loop hnd hexp ((hin _).2 ⟨hnil, rfl⟩)]
        rfl
  | false =>
      rw [hstale, if_neg Bool.false_ne_true] at hexp
      rw [if_neg Bool.false_ne_true]
      have hfresh : id ∉ db.staleIds now := by
        rw [mem_staleIds]
        rintro ⟨row₀, hrow₀, hstale₀⟩
        obtain rfl := Option.some.inj (hrow.symm.trans hrow₀)
        exact Bool.false_ne_true (hstale.symm.trans hstale₀)
      have hpend : (db.expireStaleEvents now).pending id = db.pending id :=
        congrArg _ (staged_expireSignals (db.expireEvents now) hfresh)
      rw [hpend] at hin
      split_ifs with hnil
      · have hout : id ∉ queue.map Prod.fst := by
          rintro hmem
          obtain ⟨⟨id', stats⟩, hc, rfl⟩ := List.mem_map.1 hmem
          exact ((hin stats).1 hc).1 hnil
        rw [find?_loop_of_not_mem queue _ hout, hexp]
      · exact find?_loop hnd hexp ((hin _).2 ⟨hnil, rfl⟩)

/-! ### A tick in the system -/

/-! ### Duplicates -/

/-- Messages handled one after another, whatever each has found. -/
inductive Ingested (env : Env) : Db → List RedisEventPayload → Db → Prop
  | done (db : Db) : Ingested env db [] db
  | next {db db₁ db₂ : Db} {events : List RedisEventPayload} (i : Ingest) (id : Uuid)
      (r : Uuid × TrustTier) (free : db.events.find? id = none)
      (ran : (stage env i id).run db = .ok (r, db₁)) (rest : Ingested env db₁ events db₂) :
      Ingested env db (i.event :: events) db₂

/-- What counts of a signal. -/
def Signal.origin (g : Signal) : Option String × String := (g.source_id, g.origin_channel)

/-- What will count of a message. -/
def RedisEventPayload.origin (event : RedisEventPayload) : Option String × String :=
  (event.source_id, channelOrUnknown event.origin_channel)

/-- One more message leaves an event alone, but for a signal it may get. -/
theorem run_stage_pending {db db' : Db} {i : Ingest} {new : Uuid} {r : Uuid × TrustTier}
    {row : SafetyEvent} (hrun : (stage env i new).run db = .ok (r, db'))
    (hfree : db.events.find? new = none) (hrow : db.events.find? id = some row) :
    db'.events.find? id = some row ∧
      (db'.pending id = db.pending id ∨ ∃ g, db'.pending id = db.pending id ++ [g] ∧
        g.origin = i.event.origin) := by
  have happend : ∀ event_id, (db.attach env i event_id).pending id = db.pending id ∨
      ∃ g, (db.attach env i event_id).pending id = db.pending id ++ [g] ∧
        g.origin = i.event.origin := by
    intro event_id
    unfold Db.attach Db.pending Db.staged
    dsimp only
    rw [List.filter_append, List.filter_append]
    by_cases hid : (newSignal env i event_id).event_id = id
    · refine Or.inr ⟨newSignal env i event_id, ?_, rfl⟩
      rw [List.filter_cons, if_pos (decide_eq_true hid)]
      rfl
    · refine Or.inl ?_
      rw [List.filter_cons, if_neg (by simpa using hid), List.filter_nil, List.filter_nil,
        List.append_nil]
  rcases run_stage_eq_ok hrun with ⟨event_id, row₀, _, _, rfl⟩ | ⟨row₀, _, _, rfl⟩
  · exact ⟨hrow, happend event_id⟩
  · have hne : id ≠ new := by
      rintro rfl
      rw [hrow] at hfree
      cases hfree
    refine ⟨?_, happend new⟩
    change (db.events.insert new row₀).find? id = some row
    rw [Table.find?_insert, if_neg hne, hrow]

/-- **Messages leave an event alone, but for signals it may get.** -/
theorem Ingested.pending {db db' : Db} {events : List RedisEventPayload} {row : SafetyEvent}
    (h : Ingested env db events db') (hrow : db.events.find? id = some row) :
    db'.events.find? id = some row ∧ ∃ gs, db'.pending id = db.pending id ++ gs ∧
      ∀ g ∈ gs, ∃ event ∈ events, g.origin = event.origin := by
  induction h with
  | done db => exact ⟨hrow, [], by rw [List.append_nil], by simp⟩
  | @next _ _ _ events i new r hfree hrun _ ih =>
      obtain ⟨hrow₁, hpend⟩ := run_stage_pending hrun hfree hrow
      obtain ⟨hrow₂, gs, hgs, horigin⟩ := ih hrow₁
      have hlater : ∀ g ∈ gs, ∃ event ∈ i.event :: events, g.origin = event.origin := by
        intro g hg
        obtain ⟨event, hev, heq⟩ := horigin g hg
        exact ⟨event, List.mem_cons_of_mem _ hev, heq⟩
      refine ⟨hrow₂, ?_⟩
      rcases hpend with hsame | ⟨g, hg, hgo⟩
      · exact ⟨gs, by rw [hgs, hsame], hlater⟩
      · refine ⟨g :: gs, by rw [hgs, hg, List.append_assoc, List.singleton_append], ?_⟩
        rw [List.forall_mem_cons]
        exact ⟨⟨i.event, List.mem_cons_self, hgo⟩, hlater⟩

/-- Lists with the same elements have as many distinct ones. -/
theorem distinct_append_of_subset {α : Type} [DecidableEq α] {l l' : List α} (h : l' ⊆ l) :
    distinct (l ++ l') = distinct l := by
  unfold distinct
  rw [List.toFinset_append, Finset.union_eq_left.2]
  intro x hx
  exact List.mem_toFinset.2 (h (List.mem_toFinset.1 hx))

/-- Signals that repeat others do not move the counts that matter. -/
theorem clusterStats_append {gs gs' : List Signal}
    (h : ∀ g ∈ gs', g.origin ∈ gs.map Signal.origin) :
    (clusterStats (gs ++ gs')).independence = (clusterStats gs).independence := by
  have hsources : distinct ((gs ++ gs').filterMap Signal.source_id) =
      distinct (gs.filterMap Signal.source_id) := by
    rw [List.filterMap_append]
    refine distinct_append_of_subset fun x hx => ?_
    obtain ⟨g', hg', hsrc⟩ := List.mem_filterMap.1 hx
    obtain ⟨g, hg, heq⟩ := List.mem_map.1 (h g' hg')
    exact List.mem_filterMap.2 ⟨g, hg, (congrArg Prod.fst heq).trans hsrc⟩
  have hchannels : distinct ((gs ++ gs').map Signal.origin_channel) =
      distinct (gs.map Signal.origin_channel) := by
    rw [List.map_append]
    refine distinct_append_of_subset fun x hx => ?_
    obtain ⟨g', hg', rfl⟩ := List.mem_map.1 hx
    obtain ⟨g, hg, heq⟩ := List.mem_map.1 (h g' hg')
    exact List.mem_map.2 ⟨g, hg, congrArg Prod.snd heq⟩
  unfold clusterStats ClusterStats.independence
  rw [hsources, hchannels]

/-- What is stored of the trust in an event. -/
def SafetyEvent.trust (e : SafetyEvent) : TrustTier × ℤ × ℤ :=
  (e.trust_state, e.distinct_source_count, e.distinct_channel_count)

/-- What a tick that sees this evidence wants to store. -/
def SafetyEvent.nextTrust (e : SafetyEvent) (ev : Independence) : TrustTier × ℤ × ℤ :=
  (max e.trust_state (decideTier ev), asI32 ev.distinct_sources, asI32 ev.distinct_channels)

/-- A tick treats the event alike with either pending signals: it does not look at it, or
can store both counts or neither, or has nothing new to store. -/
def Alike (row : SafetyEvent) (now : Timestamp) (gs gs' : List Signal) : Prop :=
  row.stale now = true ∨ row.is_active = false ∨
    (clusterStats gs).fits = (clusterStats gs').fits ∨
    row.trust = row.nextTrust (clusterStats gs).independence

theorem trust_brought (row : SafetyEvent) (stats : ClusterStats) :
    (row.brought stats).trust =
      if row.is_active = true ∧ stats.fits = true then row.nextTrust stats.independence
      else row.trust := by
  unfold SafetyEvent.brought
  split_ifs
  · obtain ⟨htier, hsources, hchannels, _⟩ := row.promote_fields
      (max row.trust_state (decideTier stats.independence)) stats
    unfold SafetyEvent.trust
    rw [htier, hsources, hchannels]
    rfl
  · rfl

/-- **Duplicates change nothing exactly when a tick treats the event alike.** -/
theorem trust_ticked_append {row : SafetyEvent} {gs gs' : List Signal}
    (h : ∀ g ∈ gs', g.origin ∈ gs.map Signal.origin) :
    (row.ticked now (gs ++ gs')).trust = (row.ticked now gs).trust ↔
      Alike row now gs (gs ++ gs') := by
  have hind := clusterStats_append h
  unfold SafetyEvent.ticked Alike
  split_ifs with hstale happ hnil hnil
  · simp [hstale]
  · -- there are no signals at all
    rw [happ, hnil]
    simp
  · exact absurd (List.append_eq_nil_iff.1 happ).1 hnil
  · -- none to repeat, so none repeated
    subst hnil
    cases gs' with
    | nil => exact absurd rfl happ
    | cons g gs' => cases h g List.mem_cons_self
  · rw [trust_brought, trust_brought, hind]
    cases hactive : row.is_active with
    | false => simp
    | true =>
        cases hfit : (clusterStats gs).fits <;> cases hfit' : (clusterStats (gs ++ gs')).fits <;>
          simp [hstale, eq_comm]

/-- **A tick after duplicates** leaves the trust in an event as a tick without them would,
exactly if it treats the event alike. -/
theorem trust_ingested {db db₁ db' db₁' : Db} {row : SafetyEvent} {events : List RedisEventPayload}
    (hrow : db.events.find? id = some row) (hing : Ingested env db events db₁)
    (hdup : ∀ event ∈ events, event.origin ∈ (db.pending id).map Signal.origin)
    (htick : Ticked env now db db') (htick₁ : Ticked env now db₁ db₁') :
    (db₁'.events.find? id).map SafetyEvent.trust = (db'.events.find? id).map SafetyEvent.trust ↔
      Alike row now (db.pending id) (db₁.pending id) := by
  obtain ⟨hrow₁, gs, hgs, horigin⟩ := hing.pending hrow
  rw [find?_ticked htick hrow, find?_ticked htick₁ hrow₁, hgs]
  simp only [Option.map_some, Option.some.injEq]
  refine trust_ticked_append fun g hg => ?_
  obtain ⟨event, hev, heq⟩ := horigin g hg
  rw [heq]
  exact hdup event hev

/-- **Trust is monotone, and duplicates change nothing while the counts can be stored.**
In every run the tier of an event only rises, and the trigger never raises.  And for
every event, messages whose origins its pending signals already have leave its tier
and its distinct counts after the next tick as they would be without them, exactly if
that tick treats the event alike. -/
theorem trust_of_duplicates (env : Env) :
    (∀ start subscriptions as bs id row,
        (run (step env) (Sys.init start subscriptions) as).db.events.find? id = some row →
        ∃ row', (run (step env) (Sys.init start subscriptions) (as ++ bs)).db.events.find? id =
          some row' ∧ row.trust_state ≤ row'.trust_state) ∧
      (∀ db id stats old new,
        (promoteCluster env id stats).run db ≠ .error (.invalidTrustTransition old new)) ∧
      ∀ now db db₁ db' db₁' id row events, db.events.find? id = some row →
        Ingested env db events db₁ →
        (∀ event ∈ events, event.origin ∈ (db.pending id).map Signal.origin) →
        Ticked env now db db' → Ticked env now db₁ db₁' →
        ((db₁'.events.find? id).map SafetyEvent.trust = (db'.events.find? id).map SafetyEvent.trust ↔
          Alike row now (db.pending id) (db₁.pending id)) := by
  refine ⟨fun start subscriptions as bs id row hrow => ?_, promoteCluster_ne_invalid env, ?_⟩
  · rw [run_append]
    exact tier_run bs hrow
  · intro now db db₁ db' db₁' id row events hrow hing hdup htick htick₁
    exact trust_ingested hrow hing hdup htick htick₁

/-! ### Too many duplicates -/

/-- `tick`, the clusters in the order of their first signals. -/
def Db.tick (env : Env) (db : Db) (now : Timestamp) : Db :=
  (db.expireStaleEvents now).fetchClusterStats.foldl (Db.promoteOrSkip env) (db.expireStaleEvents now)

theorem ticked_tick (db : Db) : Ticked env now db (db.tick env now) := ⟨_, List.Perm.refl _, rfl⟩

/-- The flood of the small world, as its first message makes it. -/
def demoRow : SafetyEvent :=
  { event_type := "FLOOD", severity := .high, title := "Flooding downtown", lat := 0, lng := 0
    started_at := 0, summary := none, place_name := none, county := none, created_at := 0 }

/-- A message about it, on its way to the tables. -/
def demoIngest (c : Option String × Option String) : Ingest :=
  { event := demoPayload c.1 c.2, began := 0, existing := some "flood" }

/-- The small world after messages about the flood. -/
def demoFlood (cs : List (Option String × Option String)) : Sys :=
  { now := 0
    db :=
      { events := Table.empty.insert "flood" demoRow
        signals := cs.map fun c => newSignal demoEnv (demoIngest c) "flood" } }

theorem find?_demoFlood (cs : List (Option String × Option String)) :
    (demoFlood cs).db.events.find? "flood" = some demoRow :=
  (Table.find?_insert Table.empty "flood" "flood" demoRow).trans (if_pos rfl)

theorem find?_demoFlood_none (cs : List (Option String × Option String)) :
    (demoFlood cs).db.events.find? "none" = none :=
  (Table.find?_insert Table.empty "flood" "none" demoRow).trans (if_neg (by decide))

theorem pending_demoFlood (cs : List (Option String × Option String)) :
    (demoFlood cs).db.pending "flood" = (demoFlood cs).db.signals := by
  unfold Db.pending Db.staged
  have hall : ∀ g ∈ (demoFlood cs).db.signals, g.event_id = "flood" ∧ g.trust_state = .pending := by
    intro g hg
    obtain ⟨c, _, rfl⟩ := List.mem_map.1 hg
    exact ⟨rfl, rfl⟩
  rw [List.filter_eq_self.2 fun g hg => decide_eq_true (hall g hg).1,
    List.filter_eq_self.2 fun g hg => decide_eq_true (hall g hg).2]

/-- The next message finds the flood. -/
theorem finds_demoFlood (c d : Option String × Option String)
    (cs : List (Option String × Option String)) :
    (demoFlood (c :: cs)).db.finds demoEnv (demoPayload d.1 d.2) 0 (some "flood") = true := by
  have hall : (demoFlood (c :: cs)).db.candidates demoEnv (demoPayload d.1 d.2) 0 =
      (demoFlood (c :: cs)).db.signals := by
    refine List.filter_eq_self.2 fun g hg => decide_eq_true ?_
    obtain ⟨e, _, rfl⟩ := List.mem_map.1 hg
    have hnew : (0 : ℤ) - clusterWindow < 0 := by decide
    exact ⟨rfl, rfl, Or.inl rfl, hnew⟩
  have hfirst : newSignal demoEnv (demoIngest c) "flood" ∈ (demoFlood (c :: cs)).db.signals :=
    List.mem_cons_self
  unfold Db.finds
  rw [hall]
  refine List.any_eq_true.2 ⟨_, hfirst, ?_⟩
  rw [Bool.and_eq_true, List.all_eq_true]
  refine ⟨rfl, fun g hg => ?_⟩
  obtain ⟨e, _, rfl⟩ := List.mem_map.1 hg
  rfl

/-- One more message about the flood. -/
theorem run_demoReport (c d : Option String × Option String)
    (cs : List (Option String × Option String)) :
    run (step demoEnv) (demoFlood (c :: cs)) (demoReport (some "flood") "none" d) =
      demoFlood (c :: cs ++ [d]) := by
  have hbegin : step demoEnv (demoFlood (c :: cs)) (.begin (demoPayload d.1 d.2) (some "flood")) =
      { demoFlood (c :: cs) with ingests := [demoIngest d] } :=
    if_pos (finds_demoFlood c d cs)
  have hstage := run_stage_attach demoEnv "none" (i := demoIngest d) rfl (find?_demoFlood (c :: cs))
  unfold demoReport
  rw [run_cons, run_cons, run_nil, hbegin, step]
  dsimp only [List.getElem?_cons_zero]
  rw [find?_demoFlood_none, if_neg (by simp), Txn.commit_eq_ok_iff.2 hstage]
  unfold demoFlood Db.attach
  rw [List.map_append]
  rfl

/-- Any number of messages about the flood. -/
theorem run_demoReports (c : Option String × Option String)
    (cs : List (Option String × Option String)) :
    run (step demoEnv) (Sys.init 0 Table.empty) (demoReports (c :: cs)) = demoFlood (c :: cs) := by
  have hrest : ∀ ds, run (step demoEnv) (demoFlood (c :: ds))
      (cs.flatMap (demoReport (some "flood") "none")) = demoFlood (c :: ds ++ cs) := by
    induction cs with
    | nil =>
        intro ds
        rw [List.append_nil]
        rfl
    | cons d cs ih =>
        intro ds
        rw [List.flatMap_cons, run_append, run_demoReport, List.cons_append, ih,
          List.cons_append, List.append_assoc, List.singleton_append, List.cons_append]
  have hfirst : run (step demoEnv) (Sys.init 0 Table.empty) (demoReport none "flood" c) =
      demoFlood [c] := rfl
  unfold demoReports
  rw [run_append, hfirst]
  exact hrest []

/-- Signals of two sources, one of them again and again. -/
def demoTwo (n : ℕ) : List (Option String × Option String) :=
  (some "a", some "rss") :: (some "b", some "rss") :: List.replicate n (some "a", some "rss")

theorem independence_demoTwo (n : ℕ) :
    (clusterStats (demoFlood (demoTwo n)).db.signals).independence =
      { distinct_sources := 2, distinct_channels := 1 } := by
  have hsplit : (demoFlood (demoTwo n)).db.signals = (demoFlood (demoTwo 0)).db.signals ++
      List.replicate n (newSignal demoEnv (demoIngest (some "a", some "rss")) "flood") := by
    unfold demoFlood demoTwo
    simp
  have htwo : (clusterStats (demoFlood (demoTwo 0)).db.signals).independence =
      { distinct_sources := 2, distinct_channels := 1 } := by decide
  rw [hsplit, clusterStats_append, htwo]
  intro g hg
  rw [List.eq_of_mem_replicate hg]
  exact List.mem_cons_self

theorem fits_demoTwo (n : ℕ) :
    (clusterStats (demoFlood (demoTwo n)).db.signals).fits = decide (0 ≤ asI32 (n + 2)) := by
  obtain ⟨hsources, hchannels⟩ := (Independence.mk.injEq ..).mp (independence_demoTwo n)
  have htotal : (clusterStats (demoFlood (demoTwo n)).db.signals).total_signals = n + 2 := by
    simp [clusterStats, demoFlood, demoTwo]
  have htwo : 0 ≤ asI32 2 := by decide
  have hone : 0 ≤ asI32 1 := by decide
  unfold ClusterStats.fits
  rw [hsources, hchannels, htotal]
  simp only [htwo, hone, and_true]

theorem attach_demoTwo (n : ℕ) :
    (demoFlood (demoTwo n)).db.attach demoEnv (demoIngest (some "a", some "rss")) "flood" =
      (demoFlood (demoTwo (n + 1))).db := by
  unfold Db.attach demoFlood demoTwo
  simp [List.replicate_succ']

/-- One more message of a source that is already there. -/
theorem ingested_demoTwo (n : ℕ) :
    Ingested demoEnv (demoFlood (demoTwo n)).db [demoPayload (some "a") (some "rss")]
      (demoFlood (demoTwo (n + 1))).db := by
  have hstage := run_stage_attach demoEnv "none" (i := demoIngest (some "a", some "rss")) rfl
    (find?_demoFlood (demoTwo n))
  rw [← attach_demoTwo]
  exact .next (demoIngest (some "a", some "rss")) "none" _ (find?_demoFlood_none _) hstage (.done _)

theorem origin_demoTwo (n : ℕ) : ∀ event ∈ [demoPayload (some "a") (some "rss")],
    event.origin ∈ ((demoFlood (demoTwo n)).db.pending "flood").map Signal.origin := by
  intro event hev
  rw [List.mem_singleton.1 hev, pending_demoFlood]
  exact List.mem_cons_self

/-- Two sources corroborate, and one of them once more does not change that. -/
theorem trust_of_duplicates_two :
    (((demoFlood (demoTwo 0)).db.tick demoEnv 0).events.find? "flood").map SafetyEvent.trust =
        some (.corroborating, 2, 1) ∧
      (((demoFlood (demoTwo 1)).db.tick demoEnv 0).events.find? "flood").map SafetyEvent.trust =
        (((demoFlood (demoTwo 0)).db.tick demoEnv 0).events.find? "flood").map SafetyEvent.trust := by
  have halike : Alike demoRow 0 ((demoFlood (demoTwo 0)).db.pending "flood")
      ((demoFlood (demoTwo 1)).db.pending "flood") := by
    refine Or.inr (Or.inr (Or.inl ?_))
    rw [pending_demoFlood, pending_demoFlood, fits_demoTwo, fits_demoTwo]
    decide
  exact ⟨by decide, ((trust_of_duplicates demoEnv).2.2 0 _ _ _ _ "flood" demoRow _
    (find?_demoFlood _) (ingested_demoTwo 0) (origin_demoTwo 0) (ticked_tick _)
    (ticked_tick _)).2 halike⟩

/-- **One duplicate too many and the promotion is lost**: with `2 ^ 31` pending signals of
two sources the flood stays heuristic, where one signal less makes it corroborating. -/
theorem promotion_lost_to_duplicates :
    ¬ ∀ (as : List Act) (db₁ db' db₁' : Db) (id : Uuid) (row : SafetyEvent)
        (events : List RedisEventPayload),
        (run (step demoEnv) (Sys.init 0 Table.empty) as).db.events.find? id = some row →
        Ingested demoEnv (run (step demoEnv) (Sys.init 0 Table.empty) as).db events db₁ →
        (∀ event ∈ events, event.origin ∈
          ((run (step demoEnv) (Sys.init 0 Table.empty) as).db.pending id).map Signal.origin) →
        Ticked demoEnv 0 (run (step demoEnv) (Sys.init 0 Table.empty) as).db db' →
        Ticked demoEnv 0 db₁ db₁' →
        (db₁'.events.find? id).map SafetyEvent.trust =
          (db'.events.find? id).map SafetyEvent.trust := by
  intro h
  have hrun : run (step demoEnv) (Sys.init 0 Table.empty) (demoReports (demoTwo (2 ^ 31 - 3))) =
      demoFlood (demoTwo (2 ^ 31 - 3)) := run_demoReports _ _
  have hrow := find?_demoFlood (demoTwo (2 ^ 31 - 3))
  have hing := ingested_demoTwo (2 ^ 31 - 3)
  have hdup := origin_demoTwo (2 ^ 31 - 3)
  have hsame := h (demoReports (demoTwo (2 ^ 31 - 3))) _ _ _ "flood" demoRow _
    (by rw [hrun]; exact hrow) (by rw [hrun]; exact hing) (by rw [hrun]; exact hdup) (ticked_tick _)
    (ticked_tick _)
  rw [hrun] at hsame
  have halike := (trust_ingested hrow hing hdup (ticked_tick _) (ticked_tick _)).1 hsame
  rw [pending_demoFlood, pending_demoFlood] at halike
  rcases halike with hstale | hinactive | hfits | htrust
  · exact absurd hstale (by decide)
  · exact absurd hinactive (by decide)
  · rw [fits_demoTwo, fits_demoTwo] at hfits
    exact absurd hfits (by decide)
  · rw [independence_demoTwo] at htrust
    exact absurd htrust (by decide)

end Nlp
end SentinelMesh
