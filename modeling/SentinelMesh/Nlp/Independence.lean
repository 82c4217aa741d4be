/-
# Machine events: independence of sources

`fetch_cluster_stats` counts sources and channels apart.  A signal without a
`source_id` is no source, but its channel is a channel, and so is the filler
`unknown` of a signal without one: three sources on one channel and one anonymous
signal make a confirmed event (`confirmed_by_anonymous`), where three sources on one
channel are to stay corroborating.

This is all that goes wrong.  If, whenever a worker counts, no open event owes its
second channel to anonymous or unlabelled signals (`LabelledFetch`), then every event
that becomes confirmed in the run has three sources, and the signals of its sources
name two channels (`confirmed_independent`).  A count may be old when it is used;
signals stay with their event, so what was counted is still there (`Backed`).
-/

import SentinelMesh.Nlp.Push

namespace SentinelMesh
namespace Nlp

open Lib

variable {env : Env} {s : Sys} {id : Uuid}

/-- The channels of identified sources, as the emitters gave them. -/
def identifiedChannels (gs : List Signal) : List String :=
  gs.filterMap fun g => if g.source_id.isSome then g.emitted else none

/-- Enough sources, and enough channels among the signals of the sources. -/
def Independent (gs : List Signal) : Prop :=
  confirmMinSources ≤ distinct (gs.filterMap Signal.source_id) ∧
    confirmMinChannels ≤ distinct (identifiedChannels gs)

instance (gs : List Signal) : Decidable (Independent gs) := inferInstanceAs (Decidable (_ ∧ _))

/-- The signals do not owe the channels they are counted with to anonymous or unlabelled
ones. -/
def Labelled (gs : List Signal) : Prop :=
  confirmMinSources ≤ distinct (gs.filterMap Signal.source_id) →
    confirmMinChannels ≤ distinct (gs.map Signal.origin_channel) →
    confirmMinChannels ≤ distinct (identifiedChannels gs)

instance (gs : List Signal) : Decidable (Labelled gs) := inferInstanceAs (Decidable (_ → _ → _))

/-- The event is past promotion into confirmed: it is confirmed, or not active any more. -/
def Settled (db : Db) (id : Uuid) : Prop :=
  ∃ row, db.events.find? id = some row ∧ (row.is_active = false ∨ row.trust_state = .confirmed)

instance (db : Db) (id : Uuid) : Decidable (Settled db id) :=
  match h : db.events.find? id with
  | none => .isFalse fun ⟨_, hrow, _⟩ => by rw [h] at hrow; cases hrow
  | some row =>
    decidable_of_iff (row.is_active = false ∨ row.trust_state = .confirmed)
      ⟨fun hc => ⟨row, h, hc⟩, fun ⟨_, hrow, hc⟩ => Option.some.inj (h.symm.trans hrow) ▸ hc⟩

/-- A worker that counts finds every event settled or labelled. -/
def LabelledFetch (s : Sys) : Act → Prop
  | .fetchStats w => s.workers w = .expired →
      ∀ g ∈ s.db.signals, Settled s.db g.event_id ∨ Labelled (s.db.pending g.event_id)
  | _ => True

instance (s : Sys) : (a : Act) → Decidable (LabelledFetch s a)
  | .fetchStats w => inferInstanceAs (Decidable (s.workers w = .expired → ∀ g ∈ s.db.signals,
      Settled s.db g.event_id ∨ Labelled (s.db.pending g.event_id)))
  | .wait _ | .begin _ _ | .commit _ _ | .abandon _ | .expireEvents _ | .expireSignals _
  | .promote _ _ _ | .finish _ | .halt _ | .unsubscribe _ | .purge _ => .isTrue trivial

/-! ### Counting -/

/-- A longer list has no fewer distinct elements. -/
theorem distinct_le {α : Type} [DecidableEq α] {l l' : List α} (h : l ⊆ l') :
    distinct l ≤ distinct l' :=
  Finset.card_le_card fun _ hx => List.mem_toFinset.2 (h (List.mem_toFinset.1 hx))

/-- Signals that are found again with their source and their channel. -/
def Kept (gs gs' : List Signal) : Prop :=
  ∀ g ∈ gs, ∃ g' ∈ gs', g'.source_id = g.source_id ∧ g'.emitted = g.emitted

theorem kept_sources {gs gs' : List Signal} (h : Kept gs gs') :
    distinct (gs.filterMap Signal.source_id) ≤ distinct (gs'.filterMap Signal.source_id) := by
  refine distinct_le fun x hx => ?_
  obtain ⟨g, hg, hsrc⟩ := List.mem_filterMap.1 hx
  obtain ⟨g', hg', hsame, _⟩ := h g hg
  exact List.mem_filterMap.2 ⟨g', hg', hsame.trans hsrc⟩

theorem kept_channels {gs gs' : List Signal} (h : Kept gs gs') :
    distinct (identifiedChannels gs) ≤ distinct (identifiedChannels gs') := by
  refine distinct_le fun x hx => ?_
  obtain ⟨g, hg, hch⟩ := List.mem_filterMap.1 hx
  obtain ⟨g', hg', hsrc, hem⟩ := h g hg
  refine List.mem_filterMap.2 ⟨g', hg', ?_⟩
  rw [hsrc, hem]
  exact hch

/-- The pending signals of an event are among its staged ones. -/
theorem pending_kept (db : Db) (id : Uuid) : Kept (db.pending id) (db.staged id) :=
  fun g hg => ⟨g, List.mem_of_mem_filter hg, rfl, rfl⟩

/-- Signals stay with their event. -/
theorem staged_kept (env : Env) (s : Sys) (a : Act) (id : Uuid) :
    Kept (s.db.staged id) ((step env s a).db.staged id) := by
  have hs := signals_step env s a
  intro g hg
  obtain ⟨hmem, hid⟩ := List.mem_filter.1 hg
  unfold Db.staged
  generalize (step env s a).db.signals = gs at hs ⊢
  cases hs with
  | same => exact ⟨g, hg, rfl, rfl⟩
  | staged => exact ⟨g, List.mem_filter.2 ⟨List.mem_append_left _ hmem, hid⟩, rfl, rfl⟩
  | expired w hact ids =>
      have hsame : (g.expireIn ids).event_id = g.event_id ∧
          (g.expireIn ids).source_id = g.source_id ∧ (g.expireIn ids).emitted = g.emitted := by
        unfold Signal.expireIn
        split_ifs
        · exact ⟨rfl, rfl, rfl⟩
        · exact ⟨rfl, rfl, rfl⟩
      refine ⟨g.expireIn ids, List.mem_filter.2 ⟨List.mem_map_of_mem hmem, ?_⟩, hsame.2⟩
      rw [hsame.1]
      exact hid

/-! ### Counts under way -/

/-- A count a worker has taken is borne out by the signals there are now, where the
event can still be confirmed. -/
def Backed (db : Db) (id : Uuid) (stats : ClusterStats) : Prop :=
  decideTier stats.independence = .confirmed → Settled db id ∨ Independent (db.staged id)

/-- Every count under way is borne out. -/
def AllBacked (s : Sys) : Prop :=
  ∀ w queue, s.workers w = .promoting queue → ∀ c ∈ queue, Backed s.db c.1 c.2

/-- A settled event stays settled. -/
theorem settled_step (a : Act) (h : Settled s.db id) : Settled (step env s a).db id := by
  obtain ⟨row, hrow, hset⟩ := h
  have he := event_step env s a id
  rw [hrow] at he
  unfold Settled
  generalize (step env s a).db.events.find? id = o at he ⊢
  cases he with
  | same => exact ⟨row, rfl, hset⟩
  | expired => exact ⟨_, rfl, Or.inl rfl⟩
  | promoted w k hact queue hw stats hk _ hactive =>
      refine ⟨_, rfl, Or.inr ?_⟩
      have hconf := hset.resolve_left (by rw [hactive]; decide)
      rw [(row.promote_fields _ _).1, hconf]
      exact max_eq_left (TrustTier.le_confirmed _)

theorem backed_step (a : Act) {stats : ClusterStats} (h : Backed s.db id stats) :
    Backed (step env s a).db id stats := by
  intro hconf
  rcases h hconf with hset | ⟨hsources, hchannels⟩
  · exact Or.inl (settled_step a hset)
  · have hk := staged_kept env s a id
    exact Or.inr ⟨hsources.trans (kept_sources hk), hchannels.trans (kept_channels hk)⟩

/-- What a worker counts, if the fetch is labelled. -/
theorem backed_fetch {w : ℕ} (hfetch : LabelledFetch s (.fetchStats w)) (hw : s.workers w = .expired)
    {c : Uuid × ClusterStats} (hc : c ∈ s.db.fetchClusterStats) : Backed s.db c.1 c.2 := by
  obtain ⟨id, hid, rfl⟩ := List.mem_map.1 hc
  obtain ⟨g, hg, rfl⟩ := List.mem_map.1 (List.mem_dedup.1 hid)
  intro hconf
  obtain ⟨hsources, hchannels⟩ := decideTier_eq_confirmed.1 hconf
  rcases hfetch hw g (List.mem_of_mem_filter hg) with hset | hlab
  · exact Or.inl hset
  · have hk := pending_kept s.db g.event_id
    exact Or.inr ⟨hsources.trans (kept_sources hk),
      (hlab hsources hchannels).trans (kept_channels hk)⟩

/-- The counts of a worker after a step were there before, or are just fetched. -/
theorem queue_step (env : Env) (s : Sys) (a : Act) {w : ℕ} {queue : List (Uuid × ClusterStats)}
    (h : (step env s a).workers w = .promoting queue) :
    (∃ queue', s.workers w = .promoting queue' ∧ queue ⊆ queue') ∨
      a = .fetchStats w ∧ s.workers w = .expired ∧ queue = s.db.fetchClusterStats := by
  by_cases hown : a.worker = some w
  · have hs := step_spec env s a
    have hmove : ∀ (t : Sys) (p : Phase), (t.move w p).workers w = p := by simp [Sys.move]
    generalize step env s a = s' at hs h
    cases hs with
    | expiredEvents v idle =>
        obtain rfl := Option.some.inj hown
        rw [hmove, afterExpiry] at h
        split_ifs at h
    | expiredSignals v ids expiring =>
        obtain rfl := Option.some.inj hown
        rw [hmove] at h
        cases h
    | fetched v expired =>
        obtain rfl := Option.some.inj hown
        rw [hmove] at h
        exact Or.inr ⟨rfl, expired, (Phase.promoting.inj h).symm⟩
    | dropped v k fails queue₀ promoting =>
        obtain rfl := Option.some.inj hown
        rw [hmove] at h
        exact Or.inl ⟨queue₀, promoting, Phase.promoting.inj h ▸ List.eraseIdx_subset⟩
    | promoted v k queue₀ id stats promoting =>
        obtain rfl := Option.some.inj hown
        rw [hmove] at h
        exact Or.inl ⟨queue₀, promoting, Phase.promoting.inj h ▸ List.eraseIdx_subset⟩
    | finished v done =>
        obtain rfl := Option.some.inj hown
        rw [hmove] at h
        cases h
    | halted v =>
        obtain rfl := Option.some.inj hown
        rw [hmove] at h
        cases h
    | refused a other => exact Or.inl ⟨queue, h, List.Subset.refl _⟩
    | wait | began | rolledBack | attached | created | abandoned | unsubscribed | purged =>
        cases hown
  · -- the other workers keep their counts
    rw [workers_step env hown] at h
    exact Or.inl ⟨queue, h, List.Subset.refl _⟩

theorem allBacked_step (env : Env) (a : Act) (h : AllBacked s) (hfetch : LabelledFetch s a) :
    AllBacked (step env s a) := by
  intro w queue hw c hc
  refine backed_step a ?_
  rcases queue_step env s a hw with ⟨queue', hw', hsub⟩ | ⟨rfl, hexp, rfl⟩
  · exact h w queue' hw' c (hsub hc)
  · exact backed_fetch hfetch hexp hc

/-- An event becomes confirmed on a count that is borne out. -/
theorem independent_of_confirmed (a : Act) (h : AllBacked s) (hpre : ¬ Confirmed s.db id)
    (hpost : Confirmed (step env s a).db id) : Independent ((step env s a).db.staged id) := by
  obtain ⟨w, k, queue, stats, db', hact, hw, hk, hrun⟩ :=
    (enqueues_iff env (e := ⟨s, a, step env s a⟩) rfl).2 ⟨hpre, hpost⟩
  cases run_promoteCluster_eq_ok hrun with
  | confirmed row hrow hactive hfits hlower henough =>
      have hback : Backed s.db id stats := h w queue hw (id, stats) (List.mem_of_getElem? hk)
      rcases hback henough with ⟨row₀, hrow₀, hset⟩ | ⟨hsources, hchannels⟩
      · obtain rfl := Option.some.inj (hrow.symm.trans hrow₀)
        rcases hset with hinactive | hconf
        · rw [hactive] at hinactive
          cases hinactive
        · exact absurd hconf hlower.ne
      · have hkept := staged_kept env s a id
        exact ⟨hsources.trans (kept_sources hkept), hchannels.trans (kept_channels hkept)⟩

/-- **Confirmation needs independence, where channels are labelled.**  In every run in
which workers that count find no open event whose channels are owed to anonymous or
unlabelled signals, an event becomes confirmed only when its staged signals have three
sources and the signals of sources name two channels. -/
theorem confirmed_independent (env : Env) (start : Timestamp)
    (subscriptions : Table Uuid (Option PushPreferences)) (as : List Act)
    (hlab : ∀ e ∈ events (step env) (Sys.init start subscriptions) as, LabelledFetch e.pre e.act) :
    ∀ e ∈ events (step env) (Sys.init start subscriptions) as, ∀ id,
      ¬ Confirmed e.pre.db id → Confirmed e.post.db id →
        confirmMinSources ≤ distinct ((e.post.db.staged id).filterMap Signal.source_id) ∧
          confirmMinChannels ≤ distinct (identifiedChannels (e.post.db.staged id)) := by
  intro e he id hpre hpost
  have hinit : AllBacked (Sys.init start subscriptions) := by
    intro w queue hw
    cases hw
  obtain ⟨hback, hafter⟩ :=
    events_induction_of hinit (fun s a => allBacked_step env a) hlab he
  rw [hafter] at hpost ⊢
  exact independent_of_confirmed e.act hback hpre hpost

/-- Three sources on two channels make a confirmed event. -/
def demoIndependent : List Act :=
  demoReports [(some "a", some "rss"), (some "b", some "rss"), (some "c", some "sms"), (none, none)] ++
    demoTick

theorem confirmed_independent_three :
    (∀ e ∈ events (step demoEnv) (Sys.init 0 Table.empty) demoIndependent,
        LabelledFetch e.pre e.act) ∧
      Confirmed (run (step demoEnv) (Sys.init 0 Table.empty) demoIndependent).db "flood" ∧
      ∀ e ∈ events (step demoEnv) (Sys.init 0 Table.empty) demoIndependent, ∀ id,
        ¬ Confirmed e.pre.db id → Confirmed e.post.db id →
          confirmMinSources ≤ distinct ((e.post.db.staged id).filterMap Signal.source_id) ∧
            confirmMinChannels ≤ distinct (identifiedChannels (e.post.db.staged id)) := by
  have hlab : ∀ e ∈ events (step demoEnv) (Sys.init 0 Table.empty) demoIndependent,
      LabelledFetch e.pre e.act := by decide
  exact ⟨hlab, by decide, confirmed_independent _ _ _ _ hlab⟩

/-- Three sources on one channel, and one signal that names neither. -/
def demoAnonymous : List Act :=
  demoReports [(some "a", some "rss"), (some "b", some "rss"), (some "c", some "rss"), (none, none)] ++
    demoTick

/-- **An anonymous signal makes up for a second channel.** -/
theorem confirmed_by_anonymous :
    ¬ ∀ e ∈ events (step demoEnv) (Sys.init 0 Table.empty) demoAnonymous, ∀ id,
        ¬ Confirmed e.pre.db id → Confirmed e.post.db id →
          confirmMinSources ≤ distinct ((e.post.db.staged id).filterMap Signal.source_id) ∧
            confirmMinChannels ≤ distinct (identifiedChannels (e.post.db.staged id)) := by
  have hfail : ∃ e ∈ events (step demoEnv) (Sys.init 0 Table.empty) demoAnonymous,
      ¬ Confirmed e.pre.db "flood" ∧ Confirmed e.post.db "flood" ∧
        ¬ confirmMinChannels ≤ distinct (identifiedChannels (e.post.db.staged "flood")) := by
    decide
  obtain ⟨e, he, hpre, hpost, hchannels⟩ := hfail
  intro h
  exact hchannels (h e he "flood" hpre hpost).2

end Nlp
end SentinelMesh
