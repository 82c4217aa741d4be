/-
# What is broadcast of machine events

`handle_message` of `subscribers/event_subscriber.rs` and `promote_cluster` with `on_confirm` of
`subscribers/nlp_synthesis_worker.rs`, with what they send on `event_tx`.

A message that joins an event reads the tier of the event in its transaction, without a lock, and
sends what it has read after the commit.  A promotion that confirms commits, and then sends.  In
between there may be any step of another: what is committed and not yet sent is `outgoing`, and
`log` is what has been sent.  A process that ends sends no more.

Only the events of `safety_events` are here; those of the acoustic worker are of another table.
-/

import SentinelMesh.Nlp.Monotone
import SentinelMesh.Ws.EventsSocket

namespace SentinelMesh
namespace Ws
namespace Feed

open Lib
open Nlp (Env SafetyEvent TrustTier RedisEventPayload Ingest ClusterStats stage promoteCluster)
open Events (ViewportEvent ingestedEvent confirmedEvent)

/-! ### The system -/

/-- The machine events, and what is on its way to the viewports. -/
structure Sys where
  nlp : Nlp.Sys
  /-- The tier each message has read, if it has. -/
  labels : List (Option TrustTier) := []
  outgoing : List ViewportEvent := []
  log : List ViewportEvent := []

/-- The start: nothing is there, and nothing was sent. -/
def Sys.init (start : Timestamp) (subscriptions : Table Uuid (Option Nlp.PushPreferences)) : Sys :=
  { nlp := Nlp.Sys.init start subscriptions }

/-- What can happen next. -/
inductive Act
  | nlp (a : Nlp.Act)
  /-- A message reads the tier of the event it joins. -/
  | read (k : ℕ)
  /-- A broadcast. -/
  | send (j : ℕ)
  /-- A process ends before its broadcast. -/
  | lose (j : ℕ)
  deriving DecidableEq

/-- The tier a message has read. -/
def Sys.label (s : Sys) (k : ℕ) : Option TrustTier := (s.labels[k]?).join

/-- A message has read what it reads. -/
def Sys.ready (s : Sys) (k : ℕ) (i : Ingest) : Bool := i.existing.isNone || (s.label k).isSome

/-- The `trust_state` a message is sent with. -/
def Sys.trustState (s : Sys) (k : ℕ) (i : Ingest) : TrustTier :=
  match i.existing with
  | some _ => (s.label k).getD .heuristic
  | none => .heuristic

/-- What `handle_message` sends when its transaction has committed. -/
def Sys.ingested (env : Env) (s : Sys) (k : ℕ) (i : Ingest) (id : Uuid) : List ViewportEvent :=
  match ((stage env i id).commit s.nlp.db).2 with
  | .ok (event_id, _) => [ingestedEvent event_id i.event (s.trustState k i)]
  | .error _ => []

/-- What `on_confirm` sends when a promotion has committed. -/
def Sys.confirmed (env : Env) (s : Sys) (id : Uuid) (stats : ClusterStats) : List ViewportEvent :=
  match ((promoteCluster env id stats).commit s.nlp.db).2, s.nlp.db.events.find? id with
  | .ok .confirmed, some row => [confirmedEvent id row]
  | _, _ => []

/-- The next state; an action that is not possible changes nothing. -/
def step (env : Env) (s : Sys) : Act → Sys
  | .nlp (.begin event existing) =>
    if s.nlp.db.finds env event s.nlp.now existing then
      { s with nlp := Nlp.step env s.nlp (.begin event existing), labels := s.labels ++ [none] }
    else s
  | .nlp (.commit k id) =>
    match s.nlp.ingests[k]? with
    | none => s
    | some i =>
      if (s.nlp.db.events.find? id).isSome || !s.ready k i then s
      else
        { s with
          nlp := Nlp.step env s.nlp (.commit k id)
          labels := s.labels.eraseIdx k
          outgoing := s.outgoing ++ s.ingested env k i id }
  | .nlp (.abandon k) =>
    { s with nlp := Nlp.step env s.nlp (.abandon k), labels := s.labels.eraseIdx k }
  | .nlp (.promote w k fails) =>
    let outgoing := match s.nlp.workers w with
      | .promoting queue => match queue[k]? with
        | some (id, stats) => if fails then [] else s.confirmed env id stats
        | none => []
      | _ => []
    { s with nlp := Nlp.step env s.nlp (.promote w k fails), outgoing := s.outgoing ++ outgoing }
  | .nlp a => { s with nlp := Nlp.step env s.nlp a }
  | .read k =>
    match s.nlp.ingests[k]? with
    | none => s
    | some i =>
      if s.ready k i then s
      else match i.existing.bind s.nlp.db.events.find? with
        | none => s
        | some row => { s with labels := s.labels.set k (some row.trust_state) }
  | .send j =>
    match s.outgoing[j]? with
    | none => s
    | some vpe => { s with outgoing := s.outgoing.eraseIdx j, log := s.log ++ [vpe] }
  | .lose j => { s with outgoing := s.outgoing.eraseIdx j }

/-! ### What a step does -/

/-- **Everything an action can do.** -/
inductive Step (env : Env) (s : Sys) : Act → Sys → Prop
  | refused (a : Act) : Step env s a s
  | moved (a : Nlp.Act) (ingests : (Nlp.step env s.nlp a).ingests = s.nlp.ingests) :
      Step env s (.nlp a) { s with nlp := Nlp.step env s.nlp a }
  | began (event : RedisEventPayload) (existing : Option Uuid) :
      Step env s (.nlp (.begin event existing))
        { s with
          nlp := { s.nlp with
            ingests := s.nlp.ingests ++ [{ event, began := s.nlp.now, existing }] }
          labels := s.labels ++ [none] }
  | ended (a : Nlp.Act) (k : ℕ) :
      Step env s (.nlp a)
        { s with
          nlp := { s.nlp with ingests := s.nlp.ingests.eraseIdx k }
          labels := s.labels.eraseIdx k }
  | attached (k : ℕ) (id : Uuid) (i : Ingest) (taken : s.nlp.ingests[k]? = some i) (event_id : Uuid)
      (row : SafetyEvent) (existing : i.existing = some event_id)
      (found : s.nlp.db.events.find? event_id = some row) (tier : TrustTier)
      (read : s.labels[k]? = some (some tier)) :
      Step env s (.nlp (.commit k id))
        { s with
          nlp := { s.nlp with
            db := s.nlp.db.attach env i event_id, ingests := s.nlp.ingests.eraseIdx k }
          labels := s.labels.eraseIdx k
          outgoing := s.outgoing ++ [ingestedEvent event_id i.event tier] }
  | created (k : ℕ) (id : Uuid) (i : Ingest) (taken : s.nlp.ingests[k]? = some i)
      (free : s.nlp.db.events.find? id = none) (row : SafetyEvent) :
      Step env s (.nlp (.commit k id))
        { s with
          nlp := { s.nlp with
            db := s.nlp.db.create env i id row, ingests := s.nlp.ingests.eraseIdx k }
          labels := s.labels.eraseIdx k
          outgoing := s.outgoing ++ [ingestedEvent id i.event .heuristic] }
  | confirmed (w k : ℕ) (fails : Bool) (id : Uuid) (row row' : SafetyEvent)
      (found : s.nlp.db.events.find? id = some row)
      (now : (Nlp.step env s.nlp (.promote w k fails)).db.events.find? id = some row')
      (tier : row'.trust_state = .confirmed)
      (ingests : (Nlp.step env s.nlp (.promote w k fails)).ingests = s.nlp.ingests) :
      Step env s (.nlp (.promote w k fails))
        { s with
          nlp := Nlp.step env s.nlp (.promote w k fails)
          outgoing := s.outgoing ++ [confirmedEvent id row] }
  | read (k : ℕ) (i : Ingest) (id : Uuid) (row : SafetyEvent) (taken : s.nlp.ingests[k]? = some i)
      (existing : i.existing = some id) (found : s.nlp.db.events.find? id = some row) :
      Step env s (.read k) { s with labels := s.labels.set k (some row.trust_state) }
  | sent (j : ℕ) (vpe : ViewportEvent) (next : s.outgoing[j]? = some vpe) :
      Step env s (.send j) { s with outgoing := s.outgoing.eraseIdx j, log := s.log ++ [vpe] }
  | lost (j : ℕ) : Step env s (.lose j) { s with outgoing := s.outgoing.eraseIdx j }

variable {env : Env} {s : Sys}

/-- What a commit does to a message that has read what it reads. -/
theorem step_commit {k : ℕ} {id : Uuid} {i : Ingest} (htaken : s.nlp.ingests[k]? = some i)
    (hfree : s.nlp.db.events.find? id = none) (hready : s.ready k i = true) :
    Step env s (.nlp (.commit k id))
      { s with
        nlp := Nlp.step env s.nlp (.commit k id)
        labels := s.labels.eraseIdx k
        outgoing := s.outgoing ++ s.ingested env k i id } := by
  have hnlp : Nlp.step env s.nlp (.commit k id) =
      { s.nlp with
        db := ((stage env i id).commit s.nlp.db).1, ingests := s.nlp.ingests.eraseIdx k } := by
    rw [Nlp.step, htaken]
    dsimp only
    rw [hfree, if_neg (by simp)]
  rw [hnlp]
  unfold Sys.ingested
  cases hcommit : (stage env i id).commit s.nlp.db with
  | mk db' r =>
      cases r with
      | error e =>
          have hsame : db' = s.nlp.db := by
            have hrollback := Txn.commit_of_error (congrArg Prod.snd hcommit)
            rwa [hcommit] at hrollback
          rw [hsame, List.append_nil]
          exact .ended (.commit k id) k
      | ok r =>
          have hrun := Txn.commit_eq_ok_iff.1 hcommit
          have hevent := Nlp.run_stage_event hrun
          dsimp only
          rcases Nlp.run_stage_eq_ok hrun with ⟨event_id, row, hex, hrow, rfl⟩ | ⟨row, hex, _, rfl⟩
          · rw [hevent]
            unfold Sys.trustState
            unfold Sys.ready Sys.label at hready
            unfold Sys.label
            rw [hex] at hready ⊢
            obtain ⟨tier, htier⟩ := Option.isSome_iff_exists.1 (by simpa using hready)
            rw [htier]
            exact .attached k id i htaken event_id row hex hrow tier (Option.join_eq_some_iff.1 htier)
          · rw [hevent]
            unfold Sys.trustState
            rw [hex]
            exact .created k id i htaken hfree row

/-- What a promotion does. -/
theorem step_promote (env : Env) (s : Sys) (w k : ℕ) (fails : Bool) :
    Step env s (.nlp (.promote w k fails)) (step env s (.nlp (.promote w k fails))) := by
  have hingests : (Nlp.step env s.nlp (.promote w k fails)).ingests = s.nlp.ingests :=
    Nlp.ingests_kept env s.nlp (by simp) (by simp) (by simp)
  have hquiet : Step env s (.nlp (.promote w k fails))
      { s with
        nlp := Nlp.step env s.nlp (.promote w k fails), outgoing := s.outgoing ++ [] } := by
    rw [List.append_nil]
    exact .moved _ hingests
  unfold step
  dsimp only
  split
  · rename_i queue hqueue
    split
    · rename_i id stats hnext
      cases fails with
      | true => exact hquiet
      | false =>
          rw [if_neg Bool.false_ne_true]
          unfold Sys.confirmed
          split
          · rename_i row hconfirmed hrow
            obtain ⟨db', hdb⟩ : ∃ db', (promoteCluster env id stats).commit s.nlp.db =
                (db', .ok .confirmed) := ⟨_, Prod.ext rfl hconfirmed⟩
            have hnlp : Nlp.step env s.nlp (.promote w k false) =
                { s.nlp with db := db' }.move w (.promoting (queue.eraseIdx k)) := by
              rw [Nlp.step, hqueue]
              dsimp only
              rw [hnext]
              dsimp only
              unfold Nlp.Db.promoteOrSkip
              rw [hdb]
              rfl
            have hpromoted := Nlp.run_promoteCluster_eq_ok (Txn.commit_eq_ok_iff.1 hdb)
            obtain ⟨row', hrow', htier⟩ :
                ∃ row', db'.events.find? id = some row' ∧ row'.trust_state = .confirmed := by
              cases hpromoted with
              | confirmed row₁ hrow₁ hactive hfits hlower henough =>
                  refine ⟨row₁.promote .confirmed stats, ?_, rfl⟩
                  refine (Table.find?_modify _ _ _ _).trans ?_
                  rw [if_pos rfl, hrow₁]
                  rfl
            refine .confirmed w k false id row row' hrow ?_ htier hingests
            rw [hnlp]
            exact hrow'
          · exact hquiet
    · exact hquiet
  · exact hquiet

theorem step_spec (env : Env) (s : Sys) (a : Act) : Step env s a (step env s a) := by
  cases a with
  | nlp a =>
      cases a with
      | begin event existing =>
          unfold step
          dsimp only
          split_ifs with hfinds
          · rw [Nlp.step, if_pos hfinds]
            exact .began event existing
          · exact .refused _
      | commit k id =>
          unfold step
          dsimp only
          split
          · exact .refused _
          · rename_i i htaken
            split_ifs with hrefused
            · exact .refused _
            · rw [Bool.or_eq_true, not_or] at hrefused
              exact step_commit htaken (by simpa using hrefused.1) (by simpa using hrefused.2)
      | abandon k => exact .ended (.abandon k) k
      | promote w k fails => exact step_promote env s w k fails
      | wait | expireEvents | expireSignals | fetchStats | finish | halt | unsubscribe | purge =>
          exact .moved _ (Nlp.ingests_kept env s.nlp (by simp) (by simp) (by simp))
  | read k =>
      unfold step
      dsimp only
      split
      · exact .refused _
      · rename_i i htaken
        split_ifs with hready
        · exact .refused _
        · split
          · exact .refused _
          · rename_i row hrow
            obtain ⟨id, hid, hfound⟩ := Option.bind_eq_some_iff.1 hrow
            exact .read k i id row htaken hid hfound
  | send j =>
      unfold step
      dsimp only
      split
      · exact .refused _
      · rename_i vpe hnext
        exact .sent j vpe hnext
  | lose j => exact .lost j

/-! ### Rows -/

/-- What a row keeps: its place and its type, and that it is not active. -/
def Follows (row row' : SafetyEvent) : Prop :=
  row'.lat = row.lat ∧ row'.lng = row.lng ∧ row'.event_type = row.event_type ∧
    (row'.is_active = true → row.is_active = true)

theorem Follows.refl (row : SafetyEvent) : Follows row row := ⟨rfl, rfl, rfl, id⟩

theorem Follows.trans {row row' row'' : SafetyEvent} (h : Follows row row') (h' : Follows row' row'') :
    Follows row row'' :=
  ⟨h'.1.trans h.1, h'.2.1.trans h.2.1, h'.2.2.1.trans h.2.2.1, fun hactive =>
    h.2.2.2 (h'.2.2.2 hactive)⟩

theorem promote_event_type (row : SafetyEvent) (target : TrustTier) (stats : ClusterStats) :
    (row.promote target stats).event_type = row.event_type := by
  unfold SafetyEvent.promote SafetyEvent.set
  rfl

/-- A step of the feed is one of the machine events, or leaves them. -/
theorem nlp_step (env : Env) (s : Sys) (a : Act) :
    (step env s a).nlp = s.nlp ∨ ∃ b, a = .nlp b ∧ (step env s a).nlp = Nlp.step env s.nlp b := by
  cases a with
  | nlp a =>
      cases a with
      | begin event existing =>
          unfold step
          dsimp only
          split_ifs
          · exact .inr ⟨_, rfl, rfl⟩
          · exact .inl rfl
      | commit k id =>
          unfold step
          dsimp only
          split
          · exact .inl rfl
          · split_ifs
            · exact .inl rfl
            · exact .inr ⟨_, rfl, rfl⟩
      | abandon | promote | wait | expireEvents | expireSignals | fetchStats | finish | halt
      | unsubscribe | purge => exact .inr ⟨_, rfl, rfl⟩
  | read k =>
      unfold step
      dsimp only
      split
      · exact .inl rfl
      · split_ifs
        · exact .inl rfl
        · split <;> exact .inl rfl
  | send j =>
      unfold step
      dsimp only
      split <;> exact .inl rfl
  | lose j => exact .inl rfl

/-- The row of an event. -/
def Sys.row (s : Sys) (id : Uuid) : Option SafetyEvent := s.nlp.db.events.find? id

/-- **What a step does to a row**: it follows, and its tier does not fall. -/
theorem row_step (env : Env) (a : Act) {id : Uuid} {row : SafetyEvent} (h : s.row id = some row) :
    ∃ row', (step env s a).row id = some row' ∧ Follows row row' ∧
      row.trust_state ≤ row'.trust_state := by
  unfold Sys.row at h ⊢
  rcases nlp_step env s a with hsame | ⟨b, -, hb⟩
  · rw [hsame]
    exact ⟨row, h, .refl row, le_rfl⟩
  · rw [hb]
    have he := Nlp.event_step env s.nlp b id
    rw [h] at he
    generalize (Nlp.step env s.nlp b).db.events.find? id = o at he ⊢
    cases he with
    | same => exact ⟨row, rfl, .refl row, le_rfl⟩
    | expired w hact hidle _ hstale => exact ⟨row.expire, rfl, ⟨rfl, rfl, rfl, nofun⟩, le_rfl⟩
    | promoted w k hact queue hw stats hk _ hactive =>
        obtain ⟨htier, -, -, -, -, -, hlat, hlng⟩ :=
          row.promote_fields (max row.trust_state (Nlp.decideTier stats.independence)) stats
        refine ⟨_, rfl, ⟨hlat, hlng, promote_event_type row _ stats, fun _ => hactive⟩, ?_⟩
        rw [htier]
        exact le_max_left _ _

/-! ### What is in flight -/

/-- The tier of a broadcast. -/
def Says (vpe : ViewportEvent) (tier : TrustTier) : Prop :=
  ∃ e, vpe.event_json = some e ∧ e.id = vpe.id ∧ e.trust_state = tier.text

theorem text_injective : Function.Injective TrustTier.text := by
  intro a b h
  cases a <;> cases b <;> first | rfl | (revert h; decide)

theorem heuristic_le (tier : TrustTier) : .heuristic ≤ tier := by
  cases tier <;> decide

theorem says_ingested (event_id : Uuid) (event : RedisEventPayload) (tier : TrustTier) :
    Says (ingestedEvent event_id event tier) tier := ⟨_, rfl, rfl, rfl⟩

theorem says_confirmed (event_id : Uuid) (row : SafetyEvent) :
    Says (confirmedEvent event_id row) .confirmed := ⟨_, rfl, rfl, rfl⟩

theorem Says.eq {vpe : ViewportEvent} {tier tier' : TrustTier} (h : Says vpe tier)
    (h' : Says vpe tier') : tier = tier' := by
  obtain ⟨e, he, -, htier⟩ := h
  obtain ⟨e', he', -, htier'⟩ := h'
  obtain rfl := Option.some.inj (he.symm.trans he')
  exact text_injective (htier.symm.trans htier')

/-- A tier of an event that has been read, and not yet broadcast. -/
inductive InFlight (s : Sys) (id : Uuid) (tier : TrustTier) : Prop
  | read (k : ℕ) (i : Ingest) (taken : s.nlp.ingests[k]? = some i) (existing : i.existing = some id)
      (label : s.labels[k]? = some (some tier))
  | outgoing (vpe : ViewportEvent) (mem : vpe ∈ s.outgoing) (id_eq : vpe.id = id)
      (tier_eq : Says vpe tier)

/-- A tier of an event that has been broadcast. -/
def Heard (s : Sys) (id : Uuid) (tier : TrustTier) : Prop := ∃ vpe ∈ s.log, vpe.id = id ∧ Says vpe tier

/-- The tiers that a step puts in flight: of a new event, of the row, or that it has just been
confirmed. -/
inductive Fresh (s s' : Sys) (id : Uuid) : TrustTier → Prop
  | created (free : s.row id = none) (row' : SafetyEvent) (now : s'.row id = some row') :
      Fresh s s' id .heuristic
  | read (row : SafetyEvent) (found : s.row id = some row) : Fresh s s' id row.trust_state
  | confirmed (row' : SafetyEvent) (now : s'.row id = some row') (tier : row'.trust_state = .confirmed) :
      Fresh s s' id .confirmed

/-- Of two lists from which the same place is taken, what is left was there. -/
theorem getElem?_eraseIdx_both {α β : Type} {l : List α} {l' : List β} {k j : ℕ} {x : α} {y : β}
    (hx : (l.eraseIdx k)[j]? = some x) (hy : (l'.eraseIdx k)[j]? = some y) :
    ∃ j' : ℕ, l[j']? = some x ∧ l'[j']? = some y := by
  rw [List.getElem?_eraseIdx] at hx hy
  split_ifs at hx hy with hlt
  · exact ⟨j, hx, hy⟩
  · exact ⟨j + 1, hx, hy⟩

/-- What is in flight was before, if nothing was added. -/
theorem InFlight.of_subset {s' : Sys} {id : Uuid} {tier : TrustTier} (h : InFlight s' id tier)
    (hingests : s'.nlp.ingests = s.nlp.ingests) (hlabels : s'.labels = s.labels)
    (houtgoing : s'.outgoing ⊆ s.outgoing) : InFlight s id tier := by
  cases h with
  | read k i htaken hexisting hlabel =>
      rw [hingests] at htaken
      rw [hlabels] at hlabel
      exact .read k i htaken hexisting hlabel
  | outgoing vpe hmem hid hbrought => exact .outgoing vpe (houtgoing hmem) hid hbrought

/-- What is in flight when a transaction has ended was before, or is what it sends. -/
theorem inFlight_of_erase {s' : Sys} {k : ℕ} {id : Uuid} {tier : TrustTier} (news : List ViewportEvent)
    (hingests : s'.nlp.ingests = s.nlp.ingests.eraseIdx k) (hlabels : s'.labels = s.labels.eraseIdx k)
    (houtgoing : s'.outgoing = s.outgoing ++ news) (h : InFlight s' id tier) :
    InFlight s id tier ∨ ∃ vpe ∈ news, vpe.id = id ∧ Says vpe tier := by
  cases h with
  | read j i htaken hexisting hlabel =>
      rw [hingests] at htaken
      rw [hlabels] at hlabel
      obtain ⟨j', htaken', hlabel'⟩ := getElem?_eraseIdx_both htaken hlabel
      exact .inl (.read j' i htaken' hexisting hlabel')
  | outgoing vpe hmem hid hbrought =>
      rw [houtgoing] at hmem
      rcases List.mem_append.1 hmem with hold | hnew
      · exact .inl (.outgoing vpe hold hid hbrought)
      · exact .inr ⟨vpe, hnew, hid, hbrought⟩

/-- **What a step puts in flight.** -/
theorem inFlight_step (env : Env) (a : Act) (hlength : s.labels.length = s.nlp.ingests.length)
    {id : Uuid} {tier : TrustTier} (h : InFlight (step env s a) id tier) :
    InFlight s id tier ∨ Fresh s (step env s a) id tier := by
  have hs := step_spec env s a
  generalize step env s a = s' at hs h ⊢
  cases hs with
  | refused => exact .inl h
  | moved a hingests => exact .inl (h.of_subset hingests rfl (List.Subset.refl _))
  | began event existing =>
      refine .inl ?_
      cases h with
      | read k i htaken hexisting hlabel =>
          dsimp only at htaken hlabel
          by_cases hk : k < s.labels.length
          · rw [List.getElem?_append_left hk] at hlabel
            rw [List.getElem?_append_left (hlength ▸ hk)] at htaken
            exact .read k i htaken hexisting hlabel
          · rw [List.getElem?_append_right (by omega)] at hlabel
            have hnone := List.mem_of_getElem? hlabel
            simp at hnone
      | outgoing vpe hmem hid hbrought => exact .outgoing vpe hmem hid hbrought
  | ended a k =>
      rcases inFlight_of_erase (s := s) (k := k) [] (by rfl) (by rfl) (by simp) h with
        hold | ⟨vpe, hvpe, -⟩
      · exact .inl hold
      · cases hvpe
  | attached k new i htaken event_id row hexisting hfound label hread =>
      rcases inFlight_of_erase (s := s) (k := k) _ rfl rfl rfl h with hold | ⟨vpe, hvpe, hid, hbrought⟩
      · exact .inl hold
      · obtain rfl := List.mem_singleton.1 hvpe
        obtain rfl := hbrought.eq (says_ingested event_id i.event label)
        exact .inl (.read k i htaken (hexisting.trans (congrArg some hid)) hread)
  | created k new i htaken hfree row =>
      rcases inFlight_of_erase (s := s) (k := k) _ rfl rfl rfl h with hold | ⟨vpe, hvpe, hid, hbrought⟩
      · exact .inl hold
      · obtain rfl := List.mem_singleton.1 hvpe
        obtain rfl := hbrought.eq (says_ingested new i.event .heuristic)
        obtain rfl : new = id := hid
        refine .inr (.created hfree row ?_)
        exact (Table.find?_insert s.nlp.db.events new new row).trans (by rw [if_pos rfl, hfree]; rfl)
  | confirmed w k fails new row row' hfound hnow htier hingests =>
      cases h with
      | read k i htaken hexisting hlabel =>
          dsimp only at htaken
          rw [hingests] at htaken
          exact .inl (.read k i htaken hexisting hlabel)
      | outgoing vpe hmem hid hbrought =>
          rcases List.mem_append.1 hmem with hold | hnew
          · exact .inl (.outgoing vpe hold hid hbrought)
          · obtain rfl := List.mem_singleton.1 hnew
            obtain rfl := hbrought.eq (says_confirmed new row)
            obtain rfl : new = id := hid
            exact .inr (.confirmed row' hnow htier)
  | read k i new row htaken hexisting hfound =>
      cases h with
      | read j i' htaken' hexisting' hlabel =>
          dsimp only at htaken' hlabel
          rw [List.getElem?_set] at hlabel
          split_ifs at hlabel with hkj hlt
          · subst hkj
            obtain rfl := Option.some.inj (htaken.symm.trans htaken')
            obtain rfl := Option.some.inj (hexisting.symm.trans hexisting')
            obtain rfl := Option.some.inj (Option.some.inj hlabel)
            exact .inr (.read row hfound)
          · exact .inl (.read j i' htaken' hexisting' hlabel)
      | outgoing vpe hmem hid hbrought => exact .inl (.outgoing vpe hmem hid hbrought)
  | sent j vpe hnext => exact .inl (h.of_subset rfl rfl fun _ => List.mem_of_mem_eraseIdx)
  | lost j => exact .inl (h.of_subset rfl rfl fun _ => List.mem_of_mem_eraseIdx)

/-- **What a step broadcasts** was on its way. -/
theorem log_step (env : Env) (s : Sys) (a : Act) :
    (step env s a).log = s.log ∨ ∃ j vpe, a = .send j ∧ s.outgoing[j]? = some vpe ∧
      step env s a = { s with outgoing := s.outgoing.eraseIdx j, log := s.log ++ [vpe] } := by
  have hs := step_spec env s a
  generalize step env s a = s' at hs ⊢
  cases hs with
  | sent j vpe hnext => exact .inr ⟨j, vpe, rfl, hnext, rfl⟩
  | refused | moved | began | ended | attached | created | confirmed | read | lost => exact .inl rfl

/-- What is broadcast was in flight, or has been broadcast before. -/
theorem heard_step (env : Env) (a : Act) {id : Uuid} {tier : TrustTier}
    (h : Heard (step env s a) id tier) : Heard s id tier ∨ InFlight s id tier := by
  obtain ⟨vpe, hvpe, hid, hbrought⟩ := h
  rcases log_step env s a with hsame | ⟨j, next, -, hnext, hlog⟩
  · rw [hsame] at hvpe
    exact .inl ⟨vpe, hvpe, hid, hbrought⟩
  · rw [hlog] at hvpe
    rcases List.mem_append.1 hvpe with hold | hnew
    · exact .inl ⟨vpe, hold, hid, hbrought⟩
    · obtain rfl := List.mem_singleton.1 hnew
      exact .inr (.outgoing vpe (List.mem_of_getElem? hnext) hid hbrought)

/-! ### The invariant -/

/-- Every broadcast has a tier, and every tier that was read has been reached by the row. -/
structure Sound (s : Sys) : Prop where
  length : s.labels.length = s.nlp.ingests.length
  tiered : ∀ vpe ∈ s.outgoing ++ s.log, ∃ tier, Says vpe tier
  reached : ∀ id tier, InFlight s id tier ∨ Heard s id tier →
    ∃ row, s.row id = some row ∧ tier ≤ row.trust_state

theorem length_step (env : Env) (a : Act) (h : s.labels.length = s.nlp.ingests.length) :
    (step env s a).labels.length = (step env s a).nlp.ingests.length := by
  have herase : ∀ k, (s.labels.eraseIdx k).length = (s.nlp.ingests.eraseIdx k).length := by
    intro k
    rw [List.length_eraseIdx, List.length_eraseIdx, h]
  have hs := step_spec env s a
  generalize step env s a = s' at hs ⊢
  cases hs with
  | refused => exact h
  | moved a hingests =>
      dsimp only
      rw [hingests]
      exact h
  | began event existing => simp [h]
  | ended a k => exact herase k
  | attached k | created k => exact herase k
  | confirmed w k fails id row row' hfound hnow htier hingests =>
      dsimp only
      rw [hingests]
      exact h
  | read k i id row => simpa using h
  | sent | lost => exact h

theorem tiered_step (env : Env) (a : Act) (h : ∀ vpe ∈ s.outgoing ++ s.log, ∃ tier, Says vpe tier) :
    ∀ vpe ∈ (step env s a).outgoing ++ (step env s a).log, ∃ tier, Says vpe tier := by
  have hnew : ∀ new tier, Says new tier →
      ∀ vpe ∈ (s.outgoing ++ [new]) ++ s.log, ∃ tier, Says vpe tier := by
    intro new tier hbrought vpe hvpe
    rw [List.append_assoc, List.mem_append, List.mem_append, List.mem_singleton] at hvpe
    rcases hvpe with hold | rfl | hlog
    · exact h vpe (List.mem_append_left _ hold)
    · exact ⟨tier, hbrought⟩
    · exact h vpe (List.mem_append_right _ hlog)
  have hs := step_spec env s a
  generalize step env s a = s' at hs ⊢
  cases hs with
  | refused | moved | began | ended | read => exact h
  | attached k id i htaken event_id row hexisting hfound tier hread =>
      exact hnew _ tier (says_ingested event_id i.event tier)
  | created k id i htaken hfree row => exact hnew _ .heuristic (says_ingested id i.event .heuristic)
  | confirmed w k fails id row => exact hnew _ .confirmed (says_confirmed id row)
  | sent j next hnext =>
      intro vpe hvpe
      rw [← List.append_assoc, List.mem_append, List.mem_append, List.mem_singleton] at hvpe
      rcases hvpe with (hold | hlog) | rfl
      · exact h vpe (List.mem_append_left _ (List.mem_of_mem_eraseIdx hold))
      · exact h vpe (List.mem_append_right _ hlog)
      · exact h vpe (List.mem_append_left _ (List.mem_of_getElem? hnext))
  | lost j =>
      intro vpe hvpe
      rcases List.mem_append.1 hvpe with hold | hlog
      · exact h vpe (List.mem_append_left _ (List.mem_of_mem_eraseIdx hold))
      · exact h vpe (List.mem_append_right _ hlog)

/-- **The invariant is kept by every step.** -/
theorem sound_step (env : Env) (a : Act) (h : Sound s) : Sound (step env s a) := by
  refine ⟨length_step env a h.length, tiered_step env a h.tiered, ?_⟩
  intro id tier htold
  have hold : InFlight s id tier ∨ Heard s id tier →
      ∃ row', (step env s a).row id = some row' ∧ tier ≤ row'.trust_state := by
    intro hbefore
    obtain ⟨row, hrow, hle⟩ := h.reached id tier hbefore
    obtain ⟨row', hrow', -, hle'⟩ := row_step env a hrow
    exact ⟨row', hrow', hle.trans hle'⟩
  rcases htold with hflight | hheard
  · rcases inFlight_step env a h.length hflight with hbefore | hfresh
    · exact hold (.inl hbefore)
    · cases hfresh with
      | created hfree row' hnow => exact ⟨row', hnow, heuristic_le row'.trust_state⟩
      | read row hfound =>
          obtain ⟨row', hrow', -, hle⟩ := row_step env a hfound
          exact ⟨row', hrow', hle⟩
      | confirmed row' hnow htier => exact ⟨row', hnow, htier.ge⟩
  · rcases heard_step env a hheard with hbefore | hbefore
    · exact hold (.inr hbefore)
    · exact hold (.inl hbefore)

theorem sound_init (start : Timestamp) (subscriptions : Table Uuid (Option Nlp.PushPreferences)) :
    Sound (Sys.init start subscriptions) := by
  refine ⟨rfl, (by rintro vpe ⟨⟩), ?_⟩
  rintro id tier (hflight | ⟨vpe, hvpe, -⟩)
  · cases hflight with
    | read k i htaken => cases htaken
    | outgoing vpe hmem => cases hmem
  · cases hvpe

end Feed
end Ws
end SentinelMesh
