/-
# The label of an event

What a client shows of the trust in an event when it applies the broadcasts of the channel one by
one.  Each brings a tier that was read some time before it was sent, and the client shows the last.

The tier that is stored only rises (`Nlp.tier_run`).  The label does too, as long as no broadcast
overtakes another of the same event with a lower tier (`labels_rise`); if one does, the label goes
back (`label_goes_back`).
-/

import SentinelMesh.Pwa.Viewport
import SentinelMesh.Ws.Feed

namespace SentinelMesh
namespace Pwa
namespace Viewport

open Lib
open Nlp (Env TrustTier)
open Ws.Events (ViewportEvent)
open Ws.Feed (Act Sys InFlight Heard Says Sound)

/-! ### The client -/

/-- A broadcast that is passed on: as an update of what is in the viewport, or as new. -/
def EventsState.told (state : EventsState) (vpe : ViewportEvent) : EventsState :=
  match vpe.event_json with
  | none => state
  | some e =>
    state.onmessage (.diffPatch
      (if vpe.id ∈ state.viewportIds then { added := [], removed := [], updated := [e] }
        else { added := [e], removed := [], updated := [] }))

/-- The `trust_state` a client shows. -/
def EventsState.label (state : EventsState) (id : Uuid) : Option TrustTier :=
  (stored state.items id).bind SafetyEvent.trust_state

/-- **A client shows what it was told last.** -/
theorem label_told (state : EventsState) {vpe : ViewportEvent} {tier : TrustTier} (h : Says vpe tier)
    (id : Uuid) : (state.told vpe).label id = if vpe.id = id then some tier else state.label id := by
  obtain ⟨e, he, hid, htier⟩ := h
  have hitems : (state.told vpe).items = upsert state.items (toSafetyEvent e) := by
    unfold EventsState.told
    rw [he]
    dsimp only
    split_ifs <;> rfl
  have hstored : stored (upsert state.items (toSafetyEvent e)) id =
      if e.id = id then
        some ((stored state.items id).elim (toSafetyEvent e) fun current =>
          mergeEvent current (toSafetyEvent e))
      else stored state.items id := stored_upsert state.items rfl id
  have hnew : (toSafetyEvent e).trust_state = some tier := by
    unfold toSafetyEvent
    rw [htier, normalizeTrustState_text]
  unfold EventsState.label
  rw [hitems, hstored, hid]
  split_ifs with hsame
  · cases stored state.items id with
    | none => exact hnew
    | some current =>
        change (toSafetyEvent e).trust_state.or current.trust_state = some tier
        rw [hnew, Option.some_or]
  · rfl

/-! ### Broadcasts in order -/

/-- Of two broadcasts of an event the later has no lower tier. -/
def Rising (log : List ViewportEvent) : Prop :=
  log.Pairwise fun a b => a.id = b.id → ∀ tier tier', Says a tier → Says b tier' → tier ≤ tier'

/-- **The label never goes back**, for a client that joins anywhere and applies what follows. -/
def NeverBack (log : List ViewportEvent) : Prop :=
  ∀ id before seen later, log = before ++ seen ++ later →
    ∀ tier, (seen.foldl EventsState.told {}).label id = some tier →
      ∃ tier', ((seen ++ later).foldl EventsState.told {}).label id = some tier' ∧ tier ≤ tier'

/-- What a client shows it was told. -/
theorem says_of_label {msgs : List ViewportEvent} (htiered : ∀ vpe ∈ msgs, ∃ tier, Says vpe tier)
    {id : Uuid} {tier : TrustTier} (h : (msgs.foldl EventsState.told {}).label id = some tier) :
    ∃ vpe ∈ msgs, vpe.id = id ∧ Says vpe tier := by
  induction msgs using List.reverseRecOn with
  | nil => cases h
  | append_singleton msgs vpe ih =>
      obtain ⟨tier', hbrought⟩ := htiered vpe (by simp)
      rw [List.foldl_append, List.foldl_cons, List.foldl_nil, label_told _ hbrought] at h
      split_ifs at h with hid
      · obtain rfl := Option.some.inj h
        exact ⟨vpe, by simp, hid, hbrought⟩
      · obtain ⟨old, hold, hold_id, hold_says⟩ :=
          ih (fun v hv => htiered v (List.mem_append_left _ hv)) h
        exact ⟨old, List.mem_append_left _ hold, hold_id, hold_says⟩

/-- **Rising broadcasts make rising labels.** -/
theorem neverBack_of_rising {log : List ViewportEvent} (htiered : ∀ vpe ∈ log, ∃ tier, Says vpe tier)
    (hrising : Rising log) : NeverBack log := by
  rintro id before seen later rfl tier hlabel
  have hseen : ∀ vpe ∈ seen, ∃ tier, Says vpe tier := fun vpe hvpe => htiered vpe (by simp [hvpe])
  obtain ⟨shown, hshown, hshown_id, hshown_brought⟩ := says_of_label hseen hlabel
  have hlater : ∀ vpe ∈ later, vpe.id = id → ∀ tier', Says vpe tier' → tier ≤ tier' := by
    intro vpe hvpe hid tier' hbrought
    have hpair := (List.pairwise_append.1 hrising).2.2 shown (List.mem_append_right _ hshown) vpe hvpe
    exact hpair (hshown_id.trans hid.symm) tier tier' hshown_brought hbrought
  have htiered' : ∀ vpe ∈ later, ∃ tier, Says vpe tier := fun vpe hvpe => htiered vpe (by simp [hvpe])
  clear htiered hrising
  induction later using List.reverseRecOn with
  | nil => exact ⟨tier, by rw [List.append_nil]; exact hlabel, le_rfl⟩
  | append_singleton later vpe ih =>
      obtain ⟨tier', hbrought⟩ := htiered' vpe (by simp)
      rw [← List.append_assoc, List.foldl_append, List.foldl_cons, List.foldl_nil,
        label_told _ hbrought]
      split_ifs with hid
      · exact ⟨tier', rfl, hlater vpe (by simp) hid tier' hbrought⟩
      · exact ih (fun v hv => hlater v (List.mem_append_left _ hv))
          fun v hv => htiered' v (List.mem_append_left _ hv)

/-! ### Runs -/

/-- No broadcast overtakes one of the same event with a lower tier, which was read before. -/
def Orderly (s : Sys) : Act → Prop
  | .send j => ∀ vpe, s.outgoing[j]? = some vpe → ∀ tier, Says vpe tier →
      ∀ tier', InFlight s vpe.id tier' → tier ≤ tier'
  | _ => True

/-- The broadcasts are rising, and what is in flight is not below them. -/
structure InOrder (s : Sys) : Prop where
  sound : Sound s
  rising : Rising s.log
  above : ∀ id tier tier', Heard s id tier → InFlight s id tier' → tier ≤ tier'

theorem inOrder_step (env : Env) {s : Sys} {a : Act} (h : InOrder s) (hord : Orderly s a) :
    InOrder (Ws.Feed.step env s a) := by
  have hsound := Ws.Feed.sound_step env a h.sound
  -- What is in flight is of the row as it is now, or was in flight before.
  have hflight : ∀ id tier tier', Heard s id tier → InFlight (Ws.Feed.step env s a) id tier' →
      tier ≤ tier' := by
    intro id tier tier' hheard hafter
    rcases Ws.Feed.inFlight_step env a h.sound.length hafter with hbefore | hfresh
    · exact h.above id tier tier' hheard hbefore
    · obtain ⟨row, hrow, hle⟩ := h.sound.reached id tier (.inr hheard)
      cases hfresh with
      | created hfree row' hnow => exact absurd (hfree.symm.trans hrow) (by simp)
      | read row₁ hfound =>
          obtain rfl := Option.some.inj (hfound.symm.trans hrow)
          exact hle
      | confirmed row' hnow htier => exact tier.le_confirmed
  rcases Ws.Feed.log_step env s a with hsame | ⟨j, vpe, rfl, hnext, hafter⟩
  · refine ⟨hsound, by rw [hsame]; exact h.rising, fun id tier tier' hheard => hflight id tier tier' ?_⟩
    obtain ⟨v, hv, hid, hbrought⟩ := hheard
    rw [hsame] at hv
    exact ⟨v, hv, hid, hbrought⟩
  · have hlog : (Ws.Feed.step env s (.send j)).log = s.log ++ [vpe] := by rw [hafter]
    have hmem := List.mem_of_getElem? hnext
    refine ⟨hsound, ?_, ?_⟩
    · rw [hlog]
      refine List.pairwise_append.2 ⟨h.rising, List.pairwise_singleton _ _, ?_⟩
      intro old hold new hnew hid tier tier' hbrought hbrought'
      obtain rfl := List.mem_singleton.1 hnew
      exact h.above new.id tier tier' ⟨old, hold, hid, hbrought⟩ (.outgoing new hmem rfl hbrought')
    · rintro id tier tier' ⟨v, hv, hid, hbrought⟩ hin
      rw [hlog] at hv
      rcases List.mem_append.1 hv with hold | hnew
      · exact hflight id tier tier' ⟨v, hold, hid, hbrought⟩ hin
      · obtain rfl := List.mem_singleton.1 hnew
        subst hid
        rw [hafter] at hin
        exact hord v hnext tier hbrought tier'
          (hin.of_subset rfl rfl fun _ => List.mem_of_mem_eraseIdx)

theorem inOrder_init (start : Timestamp) (subscriptions : Table Uuid (Option Nlp.PushPreferences)) :
    InOrder (Sys.init start subscriptions) :=
  ⟨Ws.Feed.sound_init start subscriptions, .nil, fun _ _ _ ⟨_, hvpe, _⟩ => nomatch hvpe⟩

/-- **Labels rise.**  In every run in which no broadcast overtakes one of the same event with a lower
tier, no client sees the label of an event go back. -/
theorem labels_rise (env : Env) (start : Timestamp)
    (subscriptions : Table Uuid (Option Nlp.PushPreferences)) (as : List Act)
    (horderly : ∀ e ∈ events (Ws.Feed.step env) (Sys.init start subscriptions) as,
      Orderly e.pre e.act) :
    NeverBack (run (Ws.Feed.step env) (Sys.init start subscriptions) as).log := by
  have h : InOrder (run (Ws.Feed.step env) (Sys.init start subscriptions) as) :=
    run_induction_of (G := fun s a => Orderly s a) (inOrder_init start subscriptions)
      (fun s a hs ha => inOrder_step env hs ha) horderly
  exact neverBack_of_rising (fun vpe hvpe => h.sound.tiered vpe (List.mem_append_right _ hvpe)) h.rising

/-! ### A message that is overtaken -/

/-- A message is taken up, committed and broadcast. -/
def demoMessage (existing : Option Uuid) (id : Uuid) (c : Option String × Option String) : List Act :=
  [.nlp (.begin (Nlp.demoPayload c.1 c.2) existing), .read 0, .nlp (.commit 0 id), .send 0]

/-- A broadcast of the lowest tier, or with nothing else on its way. -/
def overtakesNone (s : Sys) : Act → Bool
  | .send j =>
    s.outgoing[j]?.all (fun vpe =>
      vpe.event_json.all fun e => decide (e.trust_state = TrustTier.heuristic.text)) ||
      (s.nlp.ingests.isEmpty && decide (s.outgoing.length = 1))
  | _ => true

theorem orderly_of_overtakesNone {s : Sys} {a : Act} (h : overtakesNone s a = true) :
    Orderly s a := by
  cases a with
  | nlp a => trivial
  | read k => trivial
  | lose j => trivial
  | send j =>
      intro vpe hvpe tier hbrought tier' hflight
      rcases Bool.or_eq_true_iff.1 h with hlowest | halone
      · rw [hvpe] at hlowest
        obtain ⟨e, he, -, htier⟩ := hbrought
        rw [Option.all_some, he, Option.all_some, decide_eq_true_eq, htier] at hlowest
        rw [Ws.Feed.text_injective hlowest]
        exact Ws.Feed.heuristic_le tier'
      · obtain ⟨hingests, houtgoing⟩ := Bool.and_eq_true_iff.1 halone
        obtain ⟨only, honly⟩ := List.length_eq_one_iff.1 (of_decide_eq_true houtgoing)
        cases hflight with
        | read k i htaken =>
            rw [List.isEmpty_iff.1 hingests] at htaken
            cases htaken
        | outgoing vpe' hmem hid hbrought' =>
            -- Both are the one broadcast there is.
            have hthis := List.mem_of_getElem? hvpe
            rw [honly, List.mem_singleton] at hmem hthis
            subst hmem hthis
            exact (hbrought.eq hbrought').le

/-- A flood is reported, and a second source is taken up before the broadcast of the first.  A third
one has it confirmed; the confirmation is broadcast, and then what a fourth has read. -/
def demoInOrder : List Act :=
  (demoMessage none "flood" (some "a", some "rss")).take 3 ++
    (demoMessage (some "flood") "none" (some "b", some "rss")).take 2 ++ [.send 0] ++
    (demoMessage (some "flood") "none" (some "b", some "rss")).drop 2 ++
    demoMessage (some "flood") "none" (some "c", some "twitter") ++ Nlp.demoTick.map .nlp ++
    [.send 0] ++ demoMessage (some "flood") "none" (some "d", some "rss")

/-- The label of the flood rises from heuristic to confirmed, and stays there. -/
theorem labels_rise_demo :
    let log := (run (Ws.Feed.step Nlp.demoEnv) (Sys.init 0 Table.empty) demoInOrder).log
    NeverBack log ∧
      (List.range 6).map (fun n => ((log.take n).foldl EventsState.told {}).label "flood") =
        [none, some .heuristic, some .heuristic, some .heuristic, some .confirmed,
          some .confirmed] := by
  intro log
  have hnone : ∀ e ∈ events (Ws.Feed.step Nlp.demoEnv) (Sys.init 0 Table.empty) demoInOrder,
      overtakesNone e.pre e.act = true := by decide +kernel
  exact ⟨labels_rise Nlp.demoEnv 0 Table.empty demoInOrder fun e he =>
    orderly_of_overtakesNone (hnone e he), by decide +kernel⟩

/-- Three sources report a flood.  A fourth message reads that it is heuristic, and is committed and
broadcast when the flood has been confirmed. -/
def demoOvertaken : List Act :=
  demoMessage none "flood" (some "a", some "rss") ++
    demoMessage (some "flood") "none" (some "b", some "rss") ++
    demoMessage (some "flood") "none" (some "c", some "twitter") ++
    [.nlp (.begin (Nlp.demoPayload (some "d") (some "rss")) (some "flood")), .read 0] ++
    Nlp.demoTick.map .nlp ++ [.send 0, .nlp (.commit 0 "none"), .send 0]

/-- The broadcasts up to the confirmation. -/
def demoSeen : List ViewportEvent :=
  (run (Ws.Feed.step Nlp.demoEnv) (Sys.init 0 Table.empty) demoOvertaken).log.take 4

/-- The one after it. -/
def demoLater : List ViewportEvent :=
  (run (Ws.Feed.step Nlp.demoEnv) (Sys.init 0 Table.empty) demoOvertaken).log.drop 4

/-- **The label goes back**, from confirmed to heuristic. -/
theorem label_goes_back :
    ¬ ∀ as, NeverBack (run (Ws.Feed.step Nlp.demoEnv) (Sys.init 0 Table.empty) as).log := by
  intro hall
  have hsplit : (run (Ws.Feed.step Nlp.demoEnv) (Sys.init 0 Table.empty) demoOvertaken).log =
      [] ++ demoSeen ++ demoLater := (List.take_append_drop 4 _).symm
  obtain ⟨tier, htier, hle⟩ := hall demoOvertaken "flood" [] demoSeen demoLater hsplit .confirmed
    (by decide)
  have hback : ((demoSeen ++ demoLater).foldl EventsState.told {}).label "flood" = some .heuristic := by
    decide
  obtain rfl := Option.some.inj (hback.symm.trans htier)
  exact absurd hle (by decide)

end Viewport
end Pwa
end SentinelMesh
