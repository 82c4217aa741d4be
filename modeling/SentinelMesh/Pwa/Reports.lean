/-
# The newest report and the newest event

Reports and events reach a client in no order: a list fetched once, then single ones as they are
sent.  `store/reportSlice.ts` keeps a hundred reports and `store/eventsSlice.ts` any number of
events, and both take an update for older if its `updated_at` is the smaller string.

The gateway writes `updated_at` with as many digits of the fraction as it has, so a string can be
the smaller one of the later time.  Both slices are keepers of the newest, and `newest_wins` says of
each when it is.
-/

import SentinelMesh.Lib.Newest
import SentinelMesh.Lib.Rfc3339
import SentinelMesh.Pwa.Viewport

namespace SentinelMesh
namespace Pwa
namespace Reports

open Lib Lib.Replica
open Viewport (SafetyEvent mergeEvent isOlder)

/-! ### The slice of reports -/

/-- `CommunityReport` of `shared/types`. -/
structure CommunityReport where
  id : Uuid
  report_type : String
  description : Option String
  lat : ℚ
  lng : ℚ
  place_name : Option String
  reporter_tier : String
  consensus_score : ℤ
  status : String
  confirmation_count : ℤ
  denial_count : ℤ
  photo_ipfs_cid : Option String
  linked_event_id : Option Uuid
  created_at : String
  updated_at : String
  deriving DecidableEq

/-- `ReportsState`. -/
structure ReportsState where
  items : List CommunityReport := []
  initialized : Bool := false
  error : Option String := none

/-- `state.items.findIndex(r => r.id === id)`, and the item there. -/
def stored (items : List CommunityReport) (id : Uuid) : Option CommunityReport :=
  items.find? fun r => decide (r.id = id)

/-- `upsert`.  An older report returns before the list is cut. -/
def upsert (items : List CommunityReport) (report : CommunityReport) : List CommunityReport :=
  match stored items report.id with
  | some item =>
    if report.updated_at < item.updated_at then items
    else (items.replaceF fun r => if r.id = report.id then some report else none).take 100
  | none => (report :: items).take 100

/-- What is dispatched to the slice. -/
inductive Action
  | reportReceived (report : CommunityReport)
  | reportsHydrated (reports : List CommunityReport)
  | reportsHydrationFailed (error : String)

/-- `reportReducer`. -/
def reducer (state : ReportsState) : Action → ReportsState
  | .reportReceived report => { state with items := upsert state.items report }
  | .reportsHydrated reports =>
    { items := reports.foldl upsert state.items, initialized := true, error := none }
  | .reportsHydrationFailed error => { state with initialized := true, error := some error }

theorem length_upsert {items : List CommunityReport} (h : items.length ≤ 100)
    (report : CommunityReport) : (upsert items report).length ≤ 100 := by
  unfold upsert
  split
  · split_ifs
    · exact h
    · exact List.length_take_le _ _
  · exact List.length_take_le _ _

/-- What the first items have under an id is what all have, or nothing. -/
theorem stored_take (items : List CommunityReport) (n : ℕ) (id : Uuid) :
    stored (items.take n) id = stored items id ∨ stored (items.take n) id = none := by
  unfold stored
  cases hfirst : (items.take n).find? fun r => decide (r.id = id) with
  | none => exact .inr rfl
  | some item =>
      left
      rw [← List.take_append_drop n items, List.find?_append, hfirst]
      rfl

/-- **What an update does**, in a list that is not too long. -/
theorem stored_upsert {items : List CommunityReport} (hlen : items.length ≤ 100)
    (report : CommunityReport) :
    (∀ item, stored items report.id = some item → report.updated_at < item.updated_at →
      upsert items report = items) ∧
    (∀ item, stored items report.id = some item → ¬ report.updated_at < item.updated_at →
      stored (upsert items report) report.id = some report) ∧
    (stored items report.id = none →
      stored (upsert items report) report.id = some report) ∧
    ∀ id ≠ report.id, stored (upsert items report) id = stored items id ∨
      stored (upsert items report) id = none := by
  have hcut : ∀ l : List CommunityReport, l.length = items.length → l.take 100 = l := fun l hl =>
    List.take_of_length_le (hl.trans_le hlen)
  have hreplaced := hcut _ (List.length_replaceF
    (f := fun r => if r.id = report.id then some report else none) (l := items))
  refine ⟨fun item hitem hlt => ?_, fun item hitem hlt => ?_, fun hnone => ?_, fun id hid => ?_⟩
  · unfold upsert
    rw [hitem]
    exact if_pos hlt
  · unfold upsert
    rw [hitem]
    dsimp only
    rw [if_neg hlt, hreplaced]
    refine (find?_replaceF CommunityReport.id items report report.id).trans ?_
    rw [if_pos rfl]
    exact congrArg (Option.map fun _ => report) hitem
  · unfold upsert
    rw [hnone]
    simp [stored]
  · unfold upsert
    split
    · split_ifs
      · exact .inl rfl
      · left
        rw [hreplaced]
        exact (find?_replaceF CommunityReport.id items report id).trans (if_neg (Ne.symm hid))
    · have hcons : stored (report :: items) id = stored items id := by
        unfold stored
        rw [List.find?_cons_of_neg (by simpa using Ne.symm hid)]
      rw [← hcons]
      exact stored_take _ _ _

/-! ### Updates -/

/-- A report as the gateway serialises it. -/
structure ReportUpdate where
  report : CommunityReport
  time : UtcTime
  updated_at : report.updated_at = time.rfc3339

/-- An event with the time of its update, as the gateway serialises it. -/
structure EventUpdate where
  event : SafetyEvent
  time : UtcTime
  updated_at : event.updated_at = some time.rfc3339

/-- The lists of reports a client can have. -/
abbrev Shown := { items : List CommunityReport // items.length ≤ 100 }

/-- The strings of two times are in the order of the times. -/
def Comparable (s t : UtcTime) : Prop := ¬ s.Cut t ∧ ¬ t.Cut s

/-- The slice of reports keeps reports. -/
def reportKeeper : Keeper Shown ReportUpdate Uuid CommunityReport UtcTime where
  step items u := ⟨upsert items.1 u.report, length_upsert items.2 u.report⟩
  item items id := stored items.1 id
  key u := u.report.id
  time u := u.time
  isOf item u := item = u.report
  before s t := s.rfc3339 < t.rfc3339
  before_irrefl _ := lt_irrefl _
  time_eq := by
    intro item u v hu hv
    refine UtcTime.rfc3339_injective ?_
    rw [← u.updated_at, ← v.updated_at, ← hu, hv]
  put := fun {items u} hnone => ⟨_, (stored_upsert items.2 u.report).2.2.1 hnone, rfl⟩
  keep := by
    intro items u v item hitem hof hbefore
    rw [← u.updated_at, ← v.updated_at, ← hof] at hbefore
    dsimp only
    rw [(stored_upsert items.2 u.report).1 item hitem hbefore]
    exact hitem
  merge := by
    intro items u v item hitem hof hbefore
    rw [← u.updated_at, ← v.updated_at, ← hof] at hbefore
    exact ⟨_, (stored_upsert items.2 u.report).2.1 item hitem hbefore, rfl⟩
  other := fun {items u id} hid => (stored_upsert items.2 u.report).2.2.2 id hid

/-! ### The slice of events -/

/-- `eventReceived`. -/
def eventReceived (state : Viewport.EventsState) (event : SafetyEvent) : Viewport.EventsState :=
  { state with items := Viewport.upsert state.items event }

/-- The strings are compared if the item has a time. -/
theorem isOlder_iff {event current : SafetyEvent} {s t : UtcTime}
    (hs : event.updated_at = some s.rfc3339) (ht : current.updated_at = some t.rfc3339) :
    isOlder event current = true ↔ s.rfc3339 < t.rfc3339 := by
  unfold isOlder
  rw [hs, ht]
  simp [UtcTime.rfc3339_ne_empty]

/-- Merging an event twice is merging it once. -/
theorem mergeEvent_mergeEvent (current event : SafetyEvent) :
    mergeEvent (mergeEvent current event) event = mergeEvent current event := by
  unfold mergeEvent
  simp only [← Option.or_assoc, Option.or_self]

theorem upsert_of_older {items : List SafetyEvent} {event current : SafetyEvent}
    (hstored : Viewport.stored items event.id = some current) (holder : isOlder event current = true) :
    Viewport.upsert items event = items := by
  unfold Viewport.upsert
  rw [hstored]
  exact if_pos holder

/-- The items of other ids stay. -/
theorem stored_upsert_of_ne (items : List SafetyEvent) {event : SafetyEvent} {id : Uuid}
    (hid : id ≠ event.id) :
    Viewport.stored (Viewport.upsert items event) id = Viewport.stored items id := by
  by_cases hnew : ∀ current, Viewport.stored items event.id = some current →
      isOlder event current = false
  · exact (Viewport.stored_upsert_of_newer items hnew id).trans (if_neg (Ne.symm hid))
  · push Not at hnew
    obtain ⟨current, hcurrent, holder⟩ := hnew
    rw [upsert_of_older hcurrent (by simpa using holder)]

/-- An event that is received has an item. -/
theorem isSome_stored_upsert (items : List SafetyEvent) (event : SafetyEvent) :
    (Viewport.stored (Viewport.upsert items event) event.id).isSome = true := by
  by_cases hnew : ∀ current, Viewport.stored items event.id = some current →
      isOlder event current = false
  · rw [Viewport.stored_upsert_of_newer items hnew, if_pos rfl]
    rfl
  · push Not at hnew
    obtain ⟨current, hcurrent, holder⟩ := hnew
    rw [upsert_of_older hcurrent (by simpa using holder), hcurrent]
    rfl

/-- The slice of events keeps events: an item is of an update if merging that changes nothing. -/
def eventKeeper : Keeper (List SafetyEvent) EventUpdate Uuid SafetyEvent UtcTime where
  step items u := Viewport.upsert items u.event
  item items id := Viewport.stored items id
  key u := u.event.id
  time u := u.time
  isOf item u := item.updated_at = u.event.updated_at ∧ mergeEvent item u.event = item
  before s t := s.rfc3339 < t.rfc3339
  before_irrefl _ := lt_irrefl _
  time_eq := by
    intro item u v hu hv
    refine UtcTime.rfc3339_injective (Option.some.inj ?_)
    rw [← u.updated_at, ← v.updated_at, ← hu.1, hv.1]
  put := by
    intro items u hnone
    refine ⟨u.event, ?_, rfl, ?_⟩
    · refine (Viewport.stored_upsert_of_newer items (fun current hcurrent => ?_) _).trans ?_
      · exact nomatch hnone.symm.trans hcurrent
      · rw [if_pos rfl, hnone]
        rfl
    · unfold mergeEvent
      simp only [Option.or_self]
  keep := by
    intro items u v item hitem hof hbefore
    have holder := (isOlder_iff u.updated_at (hof.1.trans v.updated_at)).2 hbefore
    exact (congrArg (Viewport.stored · u.event.id) (upsert_of_older hitem holder)).trans hitem
  merge := by
    intro items u v item hitem hof hbefore
    have hnew : isOlder u.event item = false := by
      rw [← Bool.not_eq_true, isOlder_iff u.updated_at (hof.1.trans v.updated_at)]
      exact hbefore
    refine ⟨mergeEvent item u.event, ?_, ?_, mergeEvent_mergeEvent item u.event⟩
    · refine (Viewport.stored_upsert_of_newer items (fun current hcurrent => ?_) _).trans ?_
      · rw [← Option.some.inj (hitem.symm.trans hcurrent)]
        exact hnew
      · rw [if_pos rfl, hitem]
        rfl
    · unfold mergeEvent
      rw [u.updated_at]
      rfl
  other := fun hid => .inl (stored_upsert_of_ne _ hid)

/-- An event that was received has an item. -/
theorem isSome_stored_of_received {us : List EventUpdate} {u : EventUpdate} (hu : u ∈ us) :
    (Viewport.stored (run eventKeeper.step [] us) u.event.id).isSome = true := by
  induction us using List.reverseRecOn with
  | nil => cases hu
  | append_singleton us v ih =>
      rw [run_concat]
      by_cases hid : u.event.id = v.event.id
      · rw [hid]
        exact isSome_stored_upsert _ v.event
      · rcases List.mem_append.1 hu with hu | hu
        · exact (congrArg Option.isSome (stored_upsert_of_ne _ hid)).trans (ih hu)
        · exact absurd (congrArg (·.event.id) (List.mem_singleton.1 hu)) hid

/-! ### What is received -/

/-- The reports of an action. -/
def Action.reports : Action → List CommunityReport
  | .reportReceived report => [report]
  | .reportsHydrated reports => reports
  | .reportsHydrationFailed _ => []

/-- An action whose reports are as the gateway serialises them. -/
structure Delivery where
  action : Action
  updates : List ReportUpdate
  reports : action.reports = updates.map ReportUpdate.report

/-- One report alone. -/
def ReportUpdate.delivery (u : ReportUpdate) : Delivery := ⟨.reportReceived u.report, [u], rfl⟩

/-- The reports a client shows after what it received. -/
def reportsAfter (ds : List Delivery) : List CommunityReport :=
  (run reducer {} (ds.map Delivery.action)).items

/-- The events a client shows after what it received. -/
def eventsAfter (us : List EventUpdate) : List SafetyEvent :=
  (run eventReceived {} (us.map EventUpdate.event)).items

/-- Each stored report is the newest of those received with its id. -/
def NewestReports (us : List ReportUpdate) (items : List CommunityReport) : Prop :=
  ∀ id item, stored items id = some item → ∃ u, reportKeeper.IsNewest us id u ∧ item = u.report

/-- Each stored event is the newest of those received with its id. -/
def NewestEvents (us : List EventUpdate) (items : List SafetyEvent) : Prop :=
  ∀ id item, Viewport.stored items id = some item →
    ∃ u, eventKeeper.IsNewest us id u ∧ item.updated_at = u.event.updated_at ∧
      mergeEvent item u.event = item

/-- Each update has digits that compare with those of the newest report of its id before it; if that
has been dropped, the update is not older than what came before. -/
def ReportsInOrder (us : List ReportUpdate) : Prop :=
  ∀ vs u ws, us = vs ++ u :: ws →
    if (stored (reportsAfter (vs.map ReportUpdate.delivery)) u.report.id).isSome then
      ∀ v, reportKeeper.IsNewest vs u.report.id v → Comparable u.time v.time
    else ∀ v ∈ vs, v.report.id = u.report.id → v.time ≤ u.time

/-- Each update has digits that compare with those of the newest event of its id before it. -/
def EventsInOrder (us : List EventUpdate) : Prop :=
  ∀ vs u ws, us = vs ++ u :: ws →
    ∀ v, eventKeeper.IsNewest vs u.event.id v → Comparable u.time v.time

/-- No reports. -/
def noReports : Shown := ⟨[], by simp⟩

/-- What an action does is what its reports do, one by one. -/
theorem items_run_reducer (state : ReportsState) (actions : List Action) :
    (run reducer state actions).items = (actions.flatMap Action.reports).foldl upsert state.items := by
  induction actions generalizing state with
  | nil => rfl
  | cons action actions ih =>
      rw [run_cons, ih, List.flatMap_cons, List.foldl_append]
      cases action <;> rfl

theorem run_reportKeeper (items : Shown) (us : List ReportUpdate) :
    (run reportKeeper.step items us).1 = (us.map ReportUpdate.report).foldl upsert items.1 := by
  induction us generalizing items with
  | nil => rfl
  | cons u us ih => exact ih (reportKeeper.step items u)

/-- **The slice of reports is the keeper.** -/
theorem reportsAfter_eq (ds : List Delivery) :
    reportsAfter ds = (run reportKeeper.step noReports (ds.flatMap Delivery.updates)).1 := by
  have hreports : (ds.map Delivery.action).flatMap Action.reports =
      (ds.flatMap Delivery.updates).map ReportUpdate.report := by
    induction ds with
    | nil => rfl
    | cons d ds ih =>
        rw [List.map_cons, List.flatMap_cons, List.flatMap_cons, List.map_append, ih, d.reports]
  unfold reportsAfter
  rw [items_run_reducer, hreports, run_reportKeeper]
  rfl

theorem updates_delivery (us : List ReportUpdate) :
    (us.map ReportUpdate.delivery).flatMap Delivery.updates = us := by
  rw [List.flatMap_map]
  exact List.flatMap_singleton' us

theorem reportsAfter_delivery (us : List ReportUpdate) :
    reportsAfter (us.map ReportUpdate.delivery) = (run reportKeeper.step noReports us).1 := by
  rw [reportsAfter_eq, updates_delivery]

/-- **The slice of events is the keeper.** -/
theorem eventsAfter_eq (us : List EventUpdate) : eventsAfter us = run eventKeeper.step [] us := by
  have hrun : ∀ state : Viewport.EventsState,
      (run eventReceived state (us.map EventUpdate.event)).items =
        run eventKeeper.step state.items us := by
    induction us with
    | nil => exact fun _ => rfl
    | cons u us ih => exact fun state => ih (eventReceived state u.event)
  exact hrun {}

/-! ### The newest -/

theorem reportsInOrder_iff (us : List ReportUpdate) :
    ReportsInOrder us ↔ reportKeeper.AllInOrder noReports us := by
  unfold ReportsInOrder Keeper.AllInOrder Keeper.InOrder
  refine forall₄_congr fun vs u ws _ => ?_
  rw [reportsAfter_delivery]
  have hagrees : ∀ v, Comparable u.time v.time ↔ reportKeeper.Agrees u v := fun v =>
    UtcTime.rfc3339_lt_iff_lt.symm
  simp only [hagrees]
  rfl

theorem newestReports_iff (us : List ReportUpdate) :
    (∀ vs ws, us = vs ++ ws → NewestReports vs (reportsAfter (vs.map ReportUpdate.delivery))) ↔
      ReportsInOrder us := by
  rw [reportsInOrder_iff, ← Keeper.newest_iff fun _ => rfl]
  refine forall₃_congr fun vs ws _ => ?_
  rw [reportsAfter_delivery]
  rfl

theorem newestEvents_iff (us : List EventUpdate) :
    (∀ vs ws, us = vs ++ ws → NewestEvents vs (eventsAfter vs)) ↔ EventsInOrder us := by
  have hagrees : ∀ u v, Comparable u.time v.time ↔ eventKeeper.Agrees u v := fun u v =>
    UtcTime.rfc3339_lt_iff_lt.symm
  have hkept : ∀ {vs v}, v ∈ vs →
      (eventKeeper.item (run eventKeeper.step [] vs) (eventKeeper.key v)).isSome = true :=
    isSome_stored_of_received
  unfold EventsInOrder
  simp only [hagrees, eventsAfter_eq]
  exact Keeper.newest_iff_of_kept (fun _ => rfl) hkept us

/-- **Newest wins**, among reports exactly if the digits compare and nothing older than a dropped
report is received, and among events exactly if the digits compare. -/
theorem newest_wins (ds : List Delivery) (us : List ReportUpdate) (es : List EventUpdate) :
    (ReportsInOrder (ds.flatMap Delivery.updates) →
      NewestReports (ds.flatMap Delivery.updates) (reportsAfter ds)) ∧
    ((∀ vs ws, us = vs ++ ws → NewestReports vs (reportsAfter (vs.map ReportUpdate.delivery))) ↔
      ReportsInOrder us) ∧
    ((∀ vs ws, es = vs ++ ws → NewestEvents vs (eventsAfter vs)) ↔ EventsInOrder es) := by
  refine ⟨fun horder => ?_, newestReports_iff us, newestEvents_iff es⟩
  have hall := (newestReports_iff _).2 horder _ [] (List.append_nil _).symm
  rwa [reportsAfter_delivery, ← reportsAfter_eq] at hall

/-! ### A newer report that is discarded -/

theorem noon_year : 2026 < 10 ^ 4 := by decide

theorem noon_minute : 0 < 60 := by decide

theorem noon_microsecond : 0 < 10 ^ 6 := by decide

/-- A time within the second after noon. -/
def demoTime (microsecond : ℕ) (h : microsecond < 10 ^ 6) : UtcTime where
  year := 2026
  month := 7
  day := 1
  hour := 12
  minute := 0
  second := 0
  microsecond := microsecond
  year_lt := noon_year
  month_mem := by decide
  day_mem := by decide
  hour_lt := by decide
  minute_lt := noon_minute
  second_lt := noon_minute
  microsecond_lt := h

/-- A flood, last changed at a time. -/
def demoReport (t : UtcTime) : ReportUpdate where
  report :=
    { id := "r1", report_type := "FLOODING", description := none, lat := -1, lng := 36
      place_name := none, reporter_tier := "TRUSTED", consensus_score := 2, status := "UNVERIFIED"
      confirmation_count := 1, denial_count := 0, photo_ipfs_cid := none, linked_event_id := none
      created_at := "2026-07-01T11:00:00Z", updated_at := t.rfc3339 }
  time := t
  updated_at := rfl

/-- The event of a flood, last changed at a time. -/
def demoUpdate (t : UtcTime) : EventUpdate where
  event :=
    { id := "e1", event_type := "FLOOD", severity := "HIGH", title := "Flood", lat := -1, lng := 36
      is_active := true, state := "ACTIVE", started_at := 0, created_at := 0
      updated_at := some t.rfc3339 }
  time := t
  updated_at := rfl

/-- The digits after noon are cut off those of half a second later. -/
theorem demoTime_cut : (demoTime 0 (by decide)).Cut (demoTime 500000 (by decide)) := by decide

/-- **Half a second later is smaller**: after `12:00:00Z`, what was changed at `12:00:00.500Z` is
discarded, in both slices. -/
theorem newer_is_discarded :
    (¬ ∀ ds : List Delivery, NewestReports (ds.flatMap Delivery.updates) (reportsAfter ds)) ∧
    ¬ ∀ us : List EventUpdate, NewestEvents us (eventsAfter us) := by
  constructor
  · intro hnewest
    have hall : ∀ us : List ReportUpdate,
        NewestReports us (reportsAfter (us.map ReportUpdate.delivery)) := fun us => by
      have hthese := hnewest (us.map ReportUpdate.delivery)
      rwa [updates_delivery] at hthese
    have horder := (newestReports_iff [demoReport (demoTime 0 (by decide)),
      demoReport (demoTime 500000 (by decide))]).1 fun vs _ _ => hall vs
    have hcompare := (iff_of_eq (if_pos (by rfl))).1
      (horder [demoReport (demoTime 0 (by decide))] _ [] rfl)
    exact (hcompare (demoReport (demoTime 0 (by decide))) ⟨by simp, rfl, by simp⟩).2 demoTime_cut
  · intro hnewest
    have horder := (newestEvents_iff [demoUpdate (demoTime 0 (by decide)),
      demoUpdate (demoTime 500000 (by decide))]).1 fun vs _ _ => hnewest vs
    have hcompare := horder [demoUpdate (demoTime 0 (by decide))] _ [] rfl
      (demoUpdate (demoTime 0 (by decide))) ⟨by simp, rfl, by simp⟩
    exact hcompare.2 demoTime_cut

end Reports
end Pwa
end SentinelMesh
