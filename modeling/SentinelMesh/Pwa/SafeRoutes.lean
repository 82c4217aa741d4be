/-
# Safe routes and danger zones

`fetchSafeRoutes` of `services/routingService.ts` and the functions of `utils/geo.ts` it uses, over the
real numbers.

It asks the route provider for polylines and tests them against a zone: it takes the distance of the
centre from the vertices, one at a time, each as the distance to a line of one point, where
`fetchRouteToHome` takes it from the whole polyline.  The distances are a parameter, `Distance`;
`haversine` is the one of `geo.ts`.

`le_pointToLineDistance_iff` reads the distance of a polyline as the distances of its segments.
`safe_iff` is what the vertices decide: a route that is returned keeps out of the zone exactly
when no polyline with its vertices outside has a segment that enters.
-/

import Mathlib.Analysis.SpecialFunctions.Trigonometric.Inverse
import Mathlib.Analysis.SpecialFunctions.Complex.Arg
import Mathlib.Analysis.Real.Pi.Bounds

namespace SentinelMesh
namespace Pwa
namespace Routing

noncomputable section

/-- What the numeral two rests on. -/
local instance atLeastTwo_km : Nat.AtLeastTwo 2 := ⟨le_rfl⟩

/-! ### Geometry -/

/-- `LatLng`. -/
structure LatLng where
  lat : ℝ
  lng : ℝ

/-- A pair `[lng, lat]` of a polyline. -/
abbrev Coordinate := ℝ × ℝ

/-- The point of a coordinate. -/
def toLatLng (c : Coordinate) : LatLng := { lat := c.2, lng := c.1 }

/-- `DEG_TO_RAD`. -/
def degToRad : ℝ := Real.pi / 180

/-- `RAD_TO_DEG`. -/
def radToDeg : ℝ := 180 / Real.pi

/-- `EARTH_RADIUS_KM`. -/
def earthRadiusKm : ℝ := 6371

/-- `Math.atan2`. -/
def atan2 (y x : ℝ) : ℝ := Complex.arg ⟨x, y⟩

/-- The remainder `x % m`, of the sign of `x`. -/
def remainder (x m : ℝ) : ℝ := x - m * if 0 ≤ x / m then (⌊x / m⌋ : ℝ) else (⌈x / m⌉ : ℝ)

/-- `Math.round`. -/
def mathRound (x : ℝ) : ℤ := ⌊x + 1 / 2⌋

/-- `bearingBetween`. -/
def bearingBetween (p q : LatLng) : ℝ :=
  let lat1 := p.lat * degToRad
  let lat2 := q.lat * degToRad
  let dLng := (q.lng - p.lng) * degToRad
  let y := Real.sin dLng * Real.cos lat2
  let x := Real.cos lat1 * Real.sin lat2 - Real.sin lat1 * Real.cos lat2 * Real.cos dLng
  remainder (atan2 y x * radToDeg + 360) 360

/-- `destinationPoint`. -/
def destinationPoint (origin : LatLng) (distanceKm bearingDeg : ℝ) : LatLng :=
  let d := distanceKm / earthRadiusKm
  let bearing := bearingDeg * degToRad
  let lat1 := origin.lat * degToRad
  let lng1 := origin.lng * degToRad
  let lat2 := Real.arcsin
    (Real.sin lat1 * Real.cos d + Real.cos lat1 * Real.sin d * Real.cos bearing)
  let lng2 := lng1 + atan2 (Real.sin bearing * Real.sin d * Real.cos lat1)
    (Real.cos d - Real.sin lat1 * Real.sin lat2)
  { lat := lat2 * radToDeg, lng := lng2 * radToDeg }

/-- `haversineKm`. -/
def haversineKm (a b : LatLng) : ℝ :=
  let dLat := (b.lat - a.lat) * degToRad
  let dLng := (b.lng - a.lng) * degToRad
  let sinDLat := Real.sin (dLat / 2)
  let sinDLng := Real.sin (dLng / 2)
  let h := sinDLat * sinDLat +
    Real.cos (a.lat * degToRad) * Real.cos (b.lat * degToRad) * sinDLng * sinDLng
  2 * earthRadiusKm * Real.arcsin (Real.sqrt h)

open Classical in
/-- `pointToSegmentDistance`. -/
def pointToSegmentDistance (p a b : LatLng) : ℝ :=
  if haversineKm a b = 0 then haversineKm p a
  else
    let t := max 0 (min 1
      (((p.lat - a.lat) * (b.lat - a.lat) + (p.lng - a.lng) * (b.lng - a.lng)) /
        ((b.lat - a.lat) ^ 2 + (b.lng - a.lng) ^ 2)))
    haversineKm p { lat := a.lat + t * (b.lat - a.lat), lng := a.lng + t * (b.lng - a.lng) }

/-- A distance of points from points and from segments. -/
structure Distance where
  point : LatLng → LatLng → ℝ
  segment : LatLng → LatLng → LatLng → ℝ
  symm : ∀ p q, point p q = point q p
  /-- A segment of one point. -/
  degenerate : ∀ p a, segment p a a = point p a

theorem haversineKm_comm (a b : LatLng) : haversineKm a b = haversineKm b a := by
  have hlat : (a.lat - b.lat) * degToRad / 2 = -((b.lat - a.lat) * degToRad / 2) := by ring
  have hlng : (a.lng - b.lng) * degToRad / 2 = -((b.lng - a.lng) * degToRad / 2) := by ring
  unfold haversineKm
  dsimp only
  rw [hlat, hlng, Real.sin_neg, Real.sin_neg]
  congr 3
  ring

theorem haversineKm_self (a : LatLng) : haversineKm a a = 0 := by
  unfold haversineKm
  simp

/-- The distance of `geo.ts`. -/
def haversine : Distance where
  point := haversineKm
  segment := pointToSegmentDistance
  symm := haversineKm_comm
  degenerate _ a := if_pos (haversineKm_self a)

/-- The segments of a polyline. -/
def segments (coords : List Coordinate) : List (Coordinate × Coordinate) :=
  coords.zip coords.tail

/-- `pointToLineDistance`; that of no points is infinite. -/
def pointToLineDistance (D : Distance) (point : LatLng) (lineCoords : List Coordinate) :
    WithTop ℝ :=
  match lineCoords with
  | [c] => D.point point (toLatLng c)
  | _ => (segments lineCoords).foldl
      (fun minDist s => min minDist (D.segment point (toLatLng s.1) (toLatLng s.2) : WithTop ℝ)) ⊤

/-! ### Routes -/

/-- `RouteResult`, as far as routes are made of it. -/
structure RouteResult where
  id : String
  coordinates : List Coordinate
  distance : ℝ
  duration : ℝ

/-- `SafeRoute`. -/
structure SafeRoute where
  coordinates : List Coordinate
  distanceKm : ℝ
  durationMin : ℤ
  label : String

open Classical in

/-- `ESCAPE_DISTANCE_KM`. -/
def escapeDistanceKm : ℝ := 2

/-- `SAFETY_BUFFER_KM`. -/
def safetyBufferKm : ℝ := 1 / 5

/-- The waypoints of `fetchSafeRoutes`. -/
def waypoints (userLocation eventLocation : LatLng) : List LatLng :=
  let safeBearing := bearingBetween eventLocation userLocation
  [safeBearing, remainder (safeBearing + 45) 360, remainder (safeBearing - 45 + 360) 360].map
    (destinationPoint userLocation escapeDistanceKm)

/-- `exclusionRadiusKm`. -/
def exclusionRadiusKm (eventRadiusKm : ℝ) : ℝ := eventRadiusKm + safetyBufferKm

/-- `passesThrough`: a vertex is nearer than the exclusion radius. -/
def PassesThrough (D : Distance) (eventLocation : LatLng) (eventRadiusKm : ℝ)
    (coords : List Coordinate) : Prop :=
  let event := (eventLocation.lng, eventLocation.lat)
  ∃ c ∈ coords, pointToLineDistance D (toLatLng c) [event, event] <
    (exclusionRadiusKm eventRadiusKm : WithTop ℝ)

/-- What `getRoute` answers to the calls of one run, by their number: nothing when it throws. -/
abbrev Provider := ℕ → LatLng → LatLng → Option (List RouteResult)

section Fetch

variable (D : Distance) (numberText : ℝ → String) (getRoute : Provider)

open Classical in
/-- One turn of the loop of `fetchSafeRoutes`. -/
def tryWaypoint (userLocation eventLocation : LatLng) (eventRadiusKm : ℝ)
    (safeRoutes : List SafeRoute) (wp : LatLng × ℕ) : List SafeRoute :=
  match getRoute wp.2 userLocation wp.1 with
  | none => safeRoutes
  | some [] => safeRoutes
  | some (result :: _) =>
    if PassesThrough D eventLocation eventRadiusKm result.coordinates then safeRoutes
    else
      let distanceKm : ℝ := mathRound (result.distance / 100) / 10
      safeRoutes ++ [{
        coordinates := result.coordinates
        distanceKm
        durationMin := mathRound (result.duration / 60)
        label := "Route " ++ toString (safeRoutes.length + 1) ++ " — " ++ numberText distanceKm ++
          " km" }]

/-- `fetchSafeRoutes`. -/
def fetchSafeRoutes (userLocation eventLocation : LatLng) (eventRadiusKm : ℝ) : List SafeRoute :=
  (((waypoints userLocation eventLocation).zipIdx).foldl
    (tryWaypoint D numberText getRoute userLocation eventLocation eventRadiusKm) []).take 3

end Fetch

/-! ### The two tests -/

theorem le_foldl_min {α : Type} (f : α → WithTop ℝ) (R a : WithTop ℝ) (xs : List α) :
    R ≤ xs.foldl (fun m x => min m (f x)) a ↔ R ≤ a ∧ ∀ x ∈ xs, R ≤ f x := by
  induction xs generalizing a with
  | nil => simp
  | cons x xs ih =>
      rw [List.foldl_cons, ih, le_min_iff, List.forall_mem_cons, and_assoc]

/-- **The distance of a polyline** is that of its segments, of a single point that of the point. -/
theorem le_pointToLineDistance_iff (D : Distance) (R : ℝ) (p : LatLng) (coords : List Coordinate) :
    (R : WithTop ℝ) ≤ pointToLineDistance D p coords ↔
      (∀ c, coords = [c] → R ≤ D.point p (toLatLng c)) ∧
        ∀ s ∈ segments coords, R ≤ D.segment p (toLatLng s.1) (toLatLng s.2) := by
  unfold pointToLineDistance
  split
  · rename_i c
    rw [WithTop.coe_le_coe]
    constructor
    · intro h
      refine ⟨?_, List.forall_mem_nil _⟩
      rintro c' heq
      rw [← List.singleton_inj.1 heq]
      exact h
    · exact fun h => h.1 c rfl
  · rename_i hsingle
    rw [le_foldl_min]
    simp only [WithTop.coe_le_coe, le_top, true_and]
    exact ⟨fun h => ⟨fun c heq => (hsingle c heq).elim, h⟩, fun h => h.2⟩

/-- A vertex is tested by its distance from the event. -/
theorem not_passesThrough_iff (D : Distance) (eventLocation : LatLng) (eventRadiusKm : ℝ)
    (coords : List Coordinate) :
    ¬ PassesThrough D eventLocation eventRadiusKm coords ↔
      ∀ c ∈ coords, exclusionRadiusKm eventRadiusKm ≤ D.point eventLocation (toLatLng c) := by
  unfold PassesThrough
  simp only [not_exists, not_and, not_lt]
  refine forall₂_congr fun c _ => ?_
  rw [le_pointToLineDistance_iff]
  have hvertex : D.segment (toLatLng c) eventLocation eventLocation =
      D.point eventLocation (toLatLng c) := by
    rw [D.degenerate, D.symm]
  constructor
  · intro h
    rw [← hvertex]
    exact h.2 _ (List.mem_singleton_self _)
  · intro h
    refine ⟨fun c' heq => (by cases heq), fun s hs => ?_⟩
    rw [List.mem_singleton.1 hs]
    exact hvertex ▸ h

/-- The polyline keeps its vertices out of the zone and enters it on a segment. -/
def EntersBetween (D : Distance) (eventLocation : LatLng) (eventRadiusKm : ℝ)
    (coords : List Coordinate) : Prop :=
  (∀ c ∈ coords, exclusionRadiusKm eventRadiusKm ≤ D.point eventLocation (toLatLng c)) ∧
    ∃ s ∈ segments coords,
      D.segment eventLocation (toLatLng s.1) (toLatLng s.2) < exclusionRadiusKm eventRadiusKm

/-- A polyline with its vertices outside is outside unless it enters on a segment. -/
theorem outside_iff {D : Distance} {eventLocation : LatLng} {eventRadiusKm : ℝ}
    {coords : List Coordinate} (hvertices : ¬ PassesThrough D eventLocation eventRadiusKm coords) :
    (exclusionRadiusKm eventRadiusKm : WithTop ℝ) ≤ pointToLineDistance D eventLocation coords ↔
      ¬ EntersBetween D eventLocation eventRadiusKm coords := by
  rw [not_passesThrough_iff] at hvertices
  rw [le_pointToLineDistance_iff]
  unfold EntersBetween
  simp only [not_and, not_exists, not_lt]
  constructor
  · exact fun h _ => h.2
  · intro h
    refine ⟨?_, h hvertices⟩
    rintro c rfl
    exact hvertices c (List.mem_singleton_self c)

/-! ### What is returned -/

section Returned

variable {D : Distance} {numberText : ℝ → String} {getRoute : Provider}
  {userLocation eventLocation : LatLng} {eventRadiusKm : ℝ}

/-- A polyline that is recommended at a waypoint. -/
def Recommends (D : Distance) (getRoute : Provider) (userLocation eventLocation : LatLng)
    (eventRadiusKm : ℝ) (wp : LatLng × ℕ) (coords : List Coordinate) : Prop :=
  ∃ result rest, getRoute wp.2 userLocation wp.1 = some (result :: rest) ∧
    result.coordinates = coords ∧ ¬ PassesThrough D eventLocation eventRadiusKm coords

/-- **One turn of the loop** adds the polyline that is recommended, if there is one. -/
theorem tryWaypoint_spec (safeRoutes : List SafeRoute) (wp : LatLng × ℕ) :
    let next := tryWaypoint D numberText getRoute userLocation eventLocation eventRadiusKm
      safeRoutes wp
    next.length ≤ safeRoutes.length + 1 ∧ ∀ coords,
      coords ∈ next.map SafeRoute.coordinates ↔ coords ∈ safeRoutes.map SafeRoute.coordinates ∨
        Recommends D getRoute userLocation eventLocation eventRadiusKm wp coords := by
  dsimp only
  unfold tryWaypoint Recommends
  cases getRoute wp.2 userLocation wp.1 with
  | none => simp
  | some results =>
      cases results with
      | nil => simp
      | cons result rest =>
          dsimp only
          split_ifs with hpasses
          · refine ⟨Nat.le_succ _, fun coords => ⟨Or.inl, fun h => h.resolve_right ?_⟩⟩
            rintro ⟨result', rest', heq, rfl, hnot⟩
            cases heq
            exact hnot hpasses
          · refine ⟨by rw [List.length_append]; rfl, fun coords => ?_⟩
            rw [List.map_append, List.mem_append]
            refine or_congr_right ?_
            rw [List.map_singleton, List.mem_singleton]
            constructor
            · rintro rfl
              exact ⟨result, rest, rfl, rfl, hpasses⟩
            · rintro ⟨result', rest', heq, rfl, _⟩
              cases heq
              rfl

/-- The loop. -/
theorem foldl_tryWaypoint (wps : List (LatLng × ℕ)) (safeRoutes : List SafeRoute) :
    let all := wps.foldl
      (tryWaypoint D numberText getRoute userLocation eventLocation eventRadiusKm) safeRoutes
    all.length ≤ safeRoutes.length + wps.length ∧ ∀ coords,
      coords ∈ all.map SafeRoute.coordinates ↔ coords ∈ safeRoutes.map SafeRoute.coordinates ∨
        ∃ wp ∈ wps, Recommends D getRoute userLocation eventLocation eventRadiusKm wp coords := by
  induction wps generalizing safeRoutes with
  | nil => simp
  | cons wp wps ih =>
      obtain ⟨hlength, hmem⟩ := @tryWaypoint_spec D numberText getRoute userLocation
        eventLocation eventRadiusKm safeRoutes wp
      obtain ⟨hrest, hall⟩ := ih (tryWaypoint D numberText getRoute userLocation eventLocation
        eventRadiusKm safeRoutes wp)
      rw [List.foldl_cons]
      refine ⟨?_, fun coords => ?_⟩
      · rw [List.length_cons]
        omega
      · rw [hall, hmem, List.exists_mem_cons_iff, or_assoc]

/-- **What `fetchSafeRoutes` returns**: the polylines that are recommended at the waypoints; the
slice to three cuts none off. -/
theorem mem_fetchSafeRoutes {coords : List Coordinate} :
    coords ∈ (fetchSafeRoutes D numberText getRoute userLocation eventLocation eventRadiusKm).map
        SafeRoute.coordinates ↔
      ∃ wp ∈ (waypoints userLocation eventLocation).zipIdx,
        Recommends D getRoute userLocation eventLocation eventRadiusKm wp coords := by
  obtain ⟨hlength, hmem⟩ := @foldl_tryWaypoint D numberText getRoute userLocation
    eventLocation eventRadiusKm (waypoints userLocation eventLocation).zipIdx []
  have hthree := List.take_of_length_le (i := 3) hlength
  unfold fetchSafeRoutes
  rw [hthree, hmem]
  simp

/-- **Where the safe routes are safe.**  Every route that is returned keeps the exclusion radius
along its whole length if and only if no answer for a waypoint comes first with a polyline that
enters the zone between vertices outside it. -/
theorem safe_iff (D : Distance) (numberText : ℝ → String) (getRoute : Provider)
    (userLocation eventLocation : LatLng) (eventRadiusKm : ℝ) :
    (∀ r ∈ fetchSafeRoutes D numberText getRoute userLocation eventLocation eventRadiusKm,
        ((eventRadiusKm + safetyBufferKm : ℝ) : WithTop ℝ) ≤
          pointToLineDistance D eventLocation r.coordinates) ↔
      ∀ wp ∈ (waypoints userLocation eventLocation).zipIdx, ∀ result rest,
        getRoute wp.2 userLocation wp.1 = some (result :: rest) →
          ¬ EntersBetween D eventLocation eventRadiusKm result.coordinates := by
  constructor
  · intro h wp hwp result rest hanswer henters
    have hvertices := (not_passesThrough_iff D eventLocation eventRadiusKm _).2 henters.1
    have hmem : result.coordinates ∈ (fetchSafeRoutes D numberText getRoute userLocation
        eventLocation eventRadiusKm).map SafeRoute.coordinates :=
      mem_fetchSafeRoutes.2 ⟨wp, hwp, result, rest, hanswer, rfl, hvertices⟩
    obtain ⟨r, hr, hcoords⟩ := List.mem_map.1 hmem
    exact (outside_iff hvertices).1 (hcoords ▸ h r hr) henters
  · intro h r hr
    obtain ⟨wp, hwp, result, rest, hanswer, hcoords, hvertices⟩ :=
      mem_fetchSafeRoutes.1 (List.mem_map_of_mem hr)
    exact (outside_iff hvertices).2 (hcoords ▸ h wp hwp result rest hanswer)

end Returned

/-! ### A straight road through the zone -/

/-- The event, at the origin. -/
def origin : LatLng := { lat := 0, lng := 0 }

/-- The road along the equator, from a degree west of the event to a degree east. -/
def straight : List Coordinate := [(-1, 0), (1, 0)]

/-- The provider that knows one road. -/
def oneRoad : Provider :=
  fun _ _ _ => some [{ id := "", coordinates := straight, distance := 222400, duration := 10000 }]

/-- The distance of two points of the equator within half a turn. -/
theorem haversineKm_equator {x y : ℝ} (hle : x ≤ y) (hturn : y - x ≤ 180) :
    haversineKm { lat := 0, lng := x } { lat := 0, lng := y } =
      earthRadiusKm * ((y - x) * degToRad) := by
  have hpi := Real.pi_pos
  have hhalf : (y - x) * degToRad / 2 = (y - x) * (Real.pi / 360) := by
    unfold degToRad
    ring
  have hnonneg : 0 ≤ (y - x) * degToRad / 2 := by
    rw [hhalf]
    exact mul_nonneg (sub_nonneg.2 hle) (by positivity)
  have hright : (y - x) * degToRad / 2 ≤ Real.pi / 2 := by
    rw [hhalf]
    nlinarith only [hturn, hpi]
  have hsin : 0 ≤ Real.sin ((y - x) * degToRad / 2) :=
    Real.sin_nonneg_of_nonneg_of_le_pi hnonneg (by linarith)
  unfold haversineKm
  simp only [sub_zero, zero_mul, zero_div, Real.sin_zero, Real.cos_zero, mul_zero, one_mul,
    zero_add]
  rw [Real.sqrt_mul_self hsin, Real.arcsin_sin (by linarith) hright]
  ring

/-- A degree is longer than a hundred kilometres. -/
theorem degree_km : 100 < earthRadiusKm * (1 * degToRad) := by
  have hpi := Real.pi_gt_three
  unfold earthRadiusKm degToRad
  linarith

/-- The ends of the road are a degree from the event. -/
theorem straight_outside : ¬ PassesThrough haversine origin 1 straight := by
  rw [not_passesThrough_iff]
  have hfar : exclusionRadiusKm 1 ≤ 100 := by
    norm_num [exclusionRadiusKm, safetyBufferKm]
  have hwest : haversineKm origin { lat := 0, lng := -1 } = earthRadiusKm * (1 * degToRad) := by
    rw [haversineKm_comm]
    unfold origin
    rw [haversineKm_equator (by norm_num) (by norm_num)]
    norm_num
  have heast : haversineKm origin { lat := 0, lng := 1 } = earthRadiusKm * (1 * degToRad) := by
    unfold origin
    rw [haversineKm_equator (by norm_num) (by norm_num)]
    norm_num
  have hdegree := degree_km
  intro c hc
  rcases List.mem_pair.1 hc with rfl | rfl
  · exact (hfar.trans hdegree.le).trans hwest.ge
  · exact (hfar.trans hdegree.le).trans heast.ge

/-- Its middle is the event. -/
theorem straight_through : pointToLineDistance haversine origin straight = (0 : ℝ) := by
  have hlong : haversineKm { lat := 0, lng := -1 } { lat := 0, lng := 1 } ≠ 0 := by
    rw [haversineKm_equator (by norm_num) (by norm_num)]
    have hdegree := degree_km
    nlinarith only [hdegree]
  have hsegment : pointToSegmentDistance origin { lat := 0, lng := -1 } { lat := 0, lng := 1 } =
      0 := by
    unfold pointToSegmentDistance
    rw [if_neg hlong]
    norm_num [origin, haversineKm_self]
  change min ⊤ ((pointToSegmentDistance origin _ _ : ℝ) : WithTop ℝ) = (0 : ℝ)
  rw [top_inf_eq]
  exact congrArg _ hsegment

/-- The first answer is such a road: it is recommended, and runs through the event. -/
theorem recommended_through :
    ∃ r ∈ fetchSafeRoutes haversine (fun _ => "222.4") oneRoad { lat := 0, lng := 1 } origin 1,
      pointToLineDistance haversine origin r.coordinates < ((1 + safetyBufferKm : ℝ) : WithTop ℝ) := by
  have hrecommends : Recommends haversine oneRoad { lat := 0, lng := 1 } origin 1
      ((waypoints { lat := 0, lng := 1 } origin).head (List.cons_ne_nil _ _), 0) straight :=
    ⟨_, [], rfl, rfl, straight_outside⟩
  have hmem : straight ∈ (fetchSafeRoutes haversine (fun _ => "222.4") oneRoad
      { lat := 0, lng := 1 } origin 1).map SafeRoute.coordinates :=
    mem_fetchSafeRoutes.2 ⟨_, List.mem_cons_self, hrecommends⟩
  obtain ⟨r, hr, hcoords⟩ := List.mem_map.1 hmem
  refine ⟨r, hr, ?_⟩
  rw [hcoords, straight_through, WithTop.coe_lt_coe]
  norm_num [safetyBufferKm]

end

end Routing
end Pwa
end SentinelMesh
