/-
# The markers of the map

`components/map/EventClusterLayer.tsx`: above a zoom every active event has its marker, below another one
the events of a cell of the map share one, and between the two the layer keeps what it last did.

What it last did is a ref, written after each render that is committed, so the layer is a state machine
over the zooms of those renders; `Clustered` says what a history of zooms leaves it at
(`commits_eq_true_iff`).  The cells are a `Map` with a string for a key, and the string names the cell
(`cellKey_eq_iff`), so what the layer draws is a partition of the active events: `drawn_of_commits`.
-/

import SentinelMesh.Lib.Groups
import SentinelMesh.Lib.Since
import SentinelMesh.Pwa.Listening
import SentinelMesh.Pwa.LocationRoundTrip
import SentinelMesh.Pwa.Viewport

namespace SentinelMesh
namespace Pwa
namespace Clusters

open Lib
open Viewport (SafetyEvent)

/-! ### The cells -/

/-- The arithmetic of the machine, rounded as it does. -/
structure Arith where
  add : ℚ → ℚ → ℚ
  div : ℚ → ℚ → ℚ
  /-- `Math.pow`, at an integer. -/
  pow : ℚ → ℤ → ℚ

/-- The double next to `13.2`. -/
def DISSOLVE_ZOOM : ℚ := 3715469692580659 / 281474976710656

/-- The double next to `12.8`. -/
def FORM_ZOOM : ℚ := 3602879701896397 / 281474976710656

variable (A : Arith)

/-- `cellSize`. -/
def cellSize (zoom : ℚ) : ℚ := A.div 180 (A.pow 2 ⌊zoom⌋)

/-- The cell of an event, by longitude and latitude. -/
def cell (size : ℚ) (e : SafetyEvent) : ℤ × ℤ := (⌊A.div e.lng size⌋, ⌊A.div e.lat size⌋)

/-- `${ci},${cj}`. -/
def cellKey (size : ℚ) (e : SafetyEvent) : String :=
  toString (cell A size e).1 ++ (String.singleton ',' ++ toString (cell A size e).2)

theorem cellKey_eq_iff {size : ℚ} {e e' : SafetyEvent} :
    cellKey A size e = cellKey A size e' ↔ cell A size e = cell A size e' := by
  unfold cellKey
  rw [field_inj (Listening.comma_notMem _) (Listening.comma_notMem _), Prod.ext_iff]
  exact and_congr ⟨CircleLocation.toString_int_inj, congrArg toString⟩
    ⟨CircleLocation.toString_int_inj, congrArg toString⟩

/-- `Cluster`. -/
structure Cluster where
  id : String
  lat : ℚ
  lng : ℚ
  events : List SafetyEvent
  criticalCount : ℕ
  highCount : ℕ
  mediumCount : ℕ
  lowCount : ℕ
  totalCount : ℕ

/-- How many of the events are of a severity. -/
def severityCount (evts : List SafetyEvent) (severity : String) : ℕ :=
  (evts.filter fun e => decide (e.severity = severity)).length

/-- The mean of a coordinate. -/
def mean (coordinate : SafetyEvent → ℚ) (evts : List SafetyEvent) : ℚ :=
  A.div (evts.foldl (fun s e => A.add s (coordinate e)) 0) evts.length

/-- What `buildClusters` makes of an entry of the `Map`. -/
def clusterOf (entry : String × List SafetyEvent) : Cluster where
  id := entry.1
  lat := mean A SafetyEvent.lat entry.2
  lng := mean A SafetyEvent.lng entry.2
  events := entry.2
  criticalCount := severityCount entry.2 "CRITICAL"
  highCount := severityCount entry.2 "HIGH"
  mediumCount := severityCount entry.2 "MEDIUM"
  lowCount := severityCount entry.2 "LOW"
  totalCount := entry.2.length

/-- `buildClusters`: the entries of a `Map`, in the order in which their keys came. -/
def buildClusters (events : List SafetyEvent) (zoom : ℚ) : List Cluster :=
  (Groups.groups (cellKey A (cellSize A zoom)) events).rows.map (clusterOf A)

/-! ### The layer -/

/-- What a marker holds: an event, with whether it is the selected one, or a cluster. -/
inductive Child where
  | event (e : SafetyEvent) (selected : Bool)
  | cluster (c : Cluster)

/-- `Marker`. -/
structure Marker where
  key : String
  longitude : ℚ
  latitude : ℚ
  child : Child

/-- What a click on a marker hands on: the event, or the events of the cluster. -/
def Child.events : Child → List SafetyEvent
  | .event e _ => [e]
  | .cluster c => c.events

/-- What a render of the layer is given. -/
structure Render where
  zoom : ℚ
  events : List SafetyEvent
  selectedEventId : Option String

/-- The events it shows. -/
def Render.activeEvents (r : Render) : List SafetyEvent := r.events.filter SafetyEvent.is_active

/-- The mode of a render, from the one that was committed before it. -/
def showClustered (clusteredRef : Bool) (zoom : ℚ) : Bool :=
  let dissolved := if DISSOLVE_ZOOM ≤ zoom then false else clusteredRef
  if zoom ≤ FORM_ZOOM then true else dissolved

/-- The marker of an event. -/
def eventMarker (selectedEventId : Option String) (e : SafetyEvent) : Marker :=
  ⟨e.id, e.lng, e.lat, .event e (decide (some e.id = selectedEventId))⟩

/-- The marker of a cluster; one of a single event shows the event. -/
def clusterMarker (selectedEventId : Option String) (c : Cluster) : Marker :=
  ⟨c.id, c.lng, c.lat,
    match c.totalCount, c.events with
    | 1, e :: _ => .event e (decide (some e.id = selectedEventId))
    | _, _ => .cluster c⟩

/-- The markers of a render. -/
def markers (clusteredRef : Bool) (r : Render) : List Marker :=
  if showClustered clusteredRef r.zoom then
    (buildClusters A r.activeEvents r.zoom).map (clusterMarker r.selectedEventId)
  else r.activeEvents.map (eventMarker r.selectedEventId)

/-- What `EventClusterLayer` returns; `none` is `null`. -/
def eventClusterLayer (clusteredRef : Bool) (r : Render) : Option (List Marker) :=
  if r.activeEvents = [] then none else some (markers A clusteredRef r)

/-! ### The mode -/

/-- The ref after the renders that were committed, the first of which made it. -/
def commits : List ℚ → Bool
  | [] => false
  | zoom :: zooms => run showClustered (decide (zoom < DISSOLVE_ZOOM)) (zoom :: zooms)

/-- **What a history of zooms leaves the layer at.**  One was low enough to form the clusters and none
since then high enough to dissolve them, or none ever was. -/
def Clustered (zooms : List ℚ) : Prop :=
  Since (· < DISSOLVE_ZOOM) (· ≤ FORM_ZOOM) zooms ∨ zooms ≠ [] ∧ ∀ zoom ∈ zooms, zoom < DISSOLVE_ZOOM

theorem showClustered_eq_true_iff {clusteredRef : Bool} {zoom : ℚ} :
    showClustered clusteredRef zoom = true ↔
      zoom ≤ FORM_ZOOM ∨ clusteredRef = true ∧ zoom < DISSOLVE_ZOOM := by
  have hband : FORM_ZOOM < DISSOLVE_ZOOM := by unfold FORM_ZOOM DISSOLVE_ZOOM; norm_num
  unfold showClustered
  by_cases hform : zoom ≤ FORM_ZOOM
  · simp [hform]
  · by_cases hdissolve : DISSOLVE_ZOOM ≤ zoom
    · simp [hform, hdissolve, not_lt.2 hdissolve]
    · simp [hform, hdissolve, not_le.1 hdissolve]

theorem commits_eq_true_iff {zooms : List ℚ} : commits zooms = true ↔ Clustered zooms := by
  unfold Clustered
  cases zooms with
  | nil => simp [commits]
  | cons zoom zooms =>
      have hstep : ∀ ref z, showClustered ref z = true ↔ z ≤ FORM_ZOOM ∨ ref = true ∧ z < DISSOLVE_ZOOM :=
        fun _ _ => showClustered_eq_true_iff
      refine (run_iff_since_inputs (R := (· = true)) hstep).trans ?_
      -- the zoom of the first render is one of the history
      refine or_congr_right (and_congr_left fun hall => ?_)
      simp only [decide_eq_true_iff, ne_eq, reduceCtorEq, not_false_eq_true, iff_true]
      exact hall zoom List.mem_cons_self

/-- The ref that a render reads after others, or makes. -/
def refAt (zooms : List ℚ) (zoom : ℚ) : Bool := match zooms with
  | [] => decide (zoom < DISSOLVE_ZOOM)
  | _ :: _ => commits zooms

/-- What is on the map in a render, after others that were committed. -/
def drawn (rs : List Render) (r : Render) : List Marker :=
  (eventClusterLayer A (refAt (rs.map Render.zoom) r.zoom) r).getD []

theorem showClustered_refAt_iff {zooms : List ℚ} {zoom : ℚ} :
    showClustered (refAt zooms zoom) zoom = true ↔ Clustered (zooms ++ [zoom]) := by
  rw [← commits_eq_true_iff]
  cases zooms with
  | nil => rfl
  | cons z zooms => rw [refAt, List.cons_append, commits, commits, ← List.cons_append, run_concat]

/-! ### What is drawn -/

/-- A marker shows what its child was made of. -/
theorem events_clusterMarker (selectedEventId : Option String) (entry : String × List SafetyEvent) :
    (clusterMarker selectedEventId (clusterOf A entry)).child.events = entry.2 := by
  obtain ⟨key, evts⟩ := entry
  match evts with
  | [] => rfl
  | [e] => rfl
  | e :: e' :: evts => rfl

/-- The markers of a render hold its active events, each once. -/
theorem perm_markers (clusteredRef : Bool) (r : Render) :
    ((markers A clusteredRef r).flatMap fun m => m.child.events).Perm r.activeEvents := by
  unfold markers
  split_ifs with hmode
  · unfold buildClusters
    rw [List.flatMap_map, List.flatMap_map]
    simp only [events_clusterMarker]
    exact Groups.perm_groups _ _
  · rw [List.flatMap_map]
    exact List.Perm.of_eq (List.flatMap_singleton' _)

/-- No two markers have one key. -/
theorem nodup_keys (clusteredRef : Bool) {r : Render} (hids : (r.activeEvents.map (·.id)).Nodup) :
    ((markers A clusteredRef r).map Marker.key).Nodup := by
  unfold markers
  split_ifs with hmode
  · unfold buildClusters
    rw [List.map_map, List.map_map]
    exact (Groups.groups _ _).nodup
  · rw [List.map_map]
    exact hids

/-- **Which events share a marker.**  Those of one cell, if the layer is in its clustered mode. -/
theorem mem_marker_iff (clusteredRef : Bool) {r : Render} {m : Marker}
    (hm : m ∈ markers A clusteredRef r) {e e' : SafetyEvent} (he : e ∈ m.child.events) :
    e' ∈ m.child.events ↔ e' ∈ r.activeEvents ∧ (e' = e ∨ showClustered clusteredRef r.zoom = true ∧
      cell A (cellSize A r.zoom) e' = cell A (cellSize A r.zoom) e) := by
  unfold markers at hm
  split_ifs at hm with hmode
  · unfold buildClusters at hm
    simp only [List.mem_map, exists_exists_and_eq_and] at hm
    obtain ⟨entry, hentry, rfl⟩ := hm
    rw [events_clusterMarker] at he ⊢
    have hkey := ((Groups.mem_row_iff hentry).1 he).2
    rw [Groups.mem_row_iff hentry, ← hkey, cellKey_eq_iff]
    refine and_congr_right fun _ => ⟨fun hcell => Or.inr ⟨hmode, hcell⟩, ?_⟩
    rintro (rfl | ⟨-, hcell⟩)
    · rfl
    · exact hcell
  · obtain ⟨e₀, he₀, rfl⟩ := List.mem_map.1 hm
    obtain rfl := List.mem_singleton.1 he
    simp only [hmode, Bool.false_eq_true, false_and, or_false]
    exact ⟨fun he' => by rw [List.mem_singleton.1 he']; exact ⟨he₀, rfl⟩,
      fun he' => List.mem_singleton.2 he'.2⟩

/-- A cluster is shown as one from two events on. -/
theorem two_le_totalCount (clusteredRef : Bool) {r : Render} {m : Marker}
    (hm : m ∈ markers A clusteredRef r) {c : Cluster} (hc : m.child = .cluster c) :
    2 ≤ c.totalCount ∧ ∃ key evts, c = clusterOf A (key, evts) := by
  unfold markers at hm
  split_ifs at hm
  · unfold buildClusters at hm
    simp only [List.mem_map, exists_exists_and_eq_and] at hm
    obtain ⟨⟨key, evts⟩, hentry, rfl⟩ := hm
    have hne := Groups.row_ne_nil hentry
    match evts with
    | [] => exact absurd rfl hne
    | [e] => cases hc
    | e :: e' :: evts =>
        cases hc
        exact ⟨by simp [clusterOf], key, _, rfl⟩
  · obtain ⟨e, -, rfl⟩ := List.mem_map.1 hm
    cases hc

/-- The counts of a cluster add up, for events of the four severities. -/
theorem counts_clusterOf (key : String) {evts : List SafetyEvent}
    (h : ∀ e ∈ evts, e.severity ∈ ["CRITICAL", "HIGH", "MEDIUM", "LOW"]) :
    (clusterOf A (key, evts)).criticalCount + (clusterOf A (key, evts)).highCount +
      (clusterOf A (key, evts)).mediumCount + (clusterOf A (key, evts)).lowCount =
        (clusterOf A (key, evts)).totalCount := by
  unfold clusterOf severityCount
  dsimp only
  induction evts with
  | nil => rfl
  | cons e evts ih =>
      rw [List.forall_mem_cons] at h
      have hrest := ih h.2
      have hseverity := h.1
      simp only [List.mem_cons, List.not_mem_nil, or_false] at hseverity
      simp only [List.filter_cons, List.length_cons]
      rcases hseverity with heq | heq | heq | heq <;>
      · simp only [heq, String.reduceEq, decide_true, decide_false, if_true, Bool.false_eq_true, if_false,
          List.length_cons]
        omega

theorem drawn_eq (rs : List Render) (r : Render) :
    drawn A rs r = markers A (refAt (rs.map Render.zoom) r.zoom) r := by
  unfold drawn eventClusterLayer
  split_ifs with hempty
  · unfold markers buildClusters
    rw [hempty]
    exact (ite_self _).symm
  · rfl

/-- **The map over a session.**  After any renders, the layer draws each active event once, under keys
that differ; the events of one marker are those of one cell, and only if the zooms so far have left it
clustered; and what a cluster counts are its events. -/
theorem drawn_of_commits (rs : List Render) (r : Render) (hids : (r.activeEvents.map (·.id)).Nodup)
    (hseverity : ∀ e ∈ r.activeEvents, e.severity ∈ ["CRITICAL", "HIGH", "MEDIUM", "LOW"]) :
    ((drawn A rs r).flatMap fun m => m.child.events).Perm r.activeEvents ∧
      ((drawn A rs r).map Marker.key).Nodup ∧
      (∀ m ∈ drawn A rs r, ∀ e ∈ m.child.events, ∀ e' ∈ r.activeEvents, e' ∈ m.child.events ↔
        e' = e ∨ Clustered (rs.map Render.zoom ++ [r.zoom]) ∧
          cell A (cellSize A r.zoom) e' = cell A (cellSize A r.zoom) e) ∧
      ∀ m ∈ drawn A rs r, ∀ c, m.child = .cluster c → 2 ≤ c.totalCount ∧
        c.totalCount = c.events.length ∧
        c.criticalCount + c.highCount + c.mediumCount + c.lowCount = c.totalCount := by
  have hperm := perm_markers A (refAt (rs.map Render.zoom) r.zoom) r
  rw [drawn_eq]
  refine ⟨hperm, nodup_keys A _ hids, ?_, ?_⟩
  · intro m hm e he e' he'
    rw [mem_marker_iff A _ hm he, showClustered_refAt_iff]
    exact and_iff_right he'
  · intro m hm c hc
    obtain ⟨htwo, key, evts, rfl⟩ := two_le_totalCount A _ hm hc
    refine ⟨htwo, rfl, counts_clusterOf A key fun e he => hseverity e ?_⟩
    refine hperm.mem_iff.1 (List.mem_flatMap.2 ⟨m, hm, ?_⟩)
    rw [hc]
    exact he

/-- A zoom out of the streets, over two events in one town and one far from it. -/
def zoomedOut : Render :=
  let robbery : SafetyEvent :=
    { id := "e1", event_type := "SECURITY_INCIDENT", severity := "CRITICAL", title := "Robbery",
      lat := -32 / 25, lng := 1841 / 50, is_active := true, state := "ACTIVE", started_at := 0, created_at := 0 }
  ⟨10, [robbery, { robbery with id := "e2", severity := "HIGH" },
    { robbery with id := "e3", severity := "LOW", lat := 1, lng := 30 }], none⟩

theorem drawn_of_commits_demo :
    ((drawn ⟨(· + ·), (· / ·), fun x n => x ^ n⟩ [⟨14, [], none⟩] zoomedOut).flatMap fun m =>
      m.child.events).Perm zoomedOut.activeEvents :=
  (drawn_of_commits ⟨(· + ·), (· / ·), fun x n => x ^ n⟩ [⟨14, [], none⟩] zoomedOut (by decide)
    (by decide)).1

end Clusters
end Pwa
end SentinelMesh
