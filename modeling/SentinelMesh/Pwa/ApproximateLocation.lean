/-
# Approximate locations

`approximateLocationForSession` of `services/e2eeService.ts`, over exact rationals,
and what `encryptCircleLocationV1` makes of it.  The first call of a session draws
a grid: the size of its cells, two offsets, and a step of longitude from the cosine
of the latitude of that call.  Every location of the session is then moved to the
centre of its cell.

The centre is what is checked before signing, so a valid location is refused when
the centre of its cell is not on the map: less than half a cell from a pole, or from
the antimeridian.  `approximate_works_iff` says exactly which locations a grid
serves; all that keep half a cell from the edges are among them
(`onMap_of_half`).
-/

import Mathlib.Data.Rat.Floor
import SentinelMesh.Lib.Grid
import SentinelMesh.Pwa.LocationRoundTrip

namespace SentinelMesh
namespace Pwa
namespace CircleLocation

open Lib

/-! ### The grid of a session -/

/-- `approximateSessionGrid`. -/
structure SessionGrid where
  cellM : ℕ
  latStep : ℚ
  lngStep : ℚ
  latOffset : ℚ
  lngOffset : ℚ
  cellM_mem : 250 ≤ cellM ∧ cellM ≤ 500
  latStep_pos : 0 < latStep
  lngStep_pos : 0 < lngStep
  latOffset_mem : 0 ≤ latOffset ∧ latOffset < 1
  lngOffset_mem : 0 ≤ lngOffset ∧ lngOffset < 1

/-- A random 32-bit number as a fraction of all. -/
theorem fraction_mem (r : UInt32) :
    0 ≤ (r.toNat : ℚ) / 0x100000000 ∧ (r.toNat : ℚ) / 0x100000000 < 1 := by
  have hlt : (r.toNat : ℚ) < 0x100000000 := by exact_mod_cast r.toNat_lt
  exact ⟨by positivity, (div_lt_one (by norm_num)).mpr hlt⟩

/-- The grid that the first call makes, from three random numbers and its latitude;
`cos` is the cosine of an angle in degrees. -/
def SessionGrid.create (cos : ℚ → ℚ) (random : UInt32 × UInt32 × UInt32) (lat : ℚ) : SessionGrid :=
  let cellM := 250 + random.1.toNat % 251
  let referenceCos := max (cos lat) (1 / 100)
  have hcell : (0 : ℚ) < cellM := by positivity
  have hcos : 0 < referenceCos := lt_max_of_lt_right (by norm_num)
  { cellM
    latStep := cellM / 111320
    lngStep := cellM / (111320 * referenceCos)
    latOffset := random.2.1.toNat / 0x100000000
    lngOffset := random.2.2.toNat / 0x100000000
    cellM_mem := by omega
    latStep_pos := by positivity
    lngStep_pos := by positivity
    latOffset_mem := fraction_mem _
    lngOffset_mem := fraction_mem _ }

/-- The location of a cell's centre, and the size of the cell. -/
def SessionGrid.transform (g : SessionGrid) (lat lng : ℚ) : ℚ × ℚ × ℕ :=
  ((⌊lat / g.latStep - g.latOffset⌋ + g.latOffset + 1 / 2) * g.latStep,
    (⌊lng / g.lngStep - g.lngOffset⌋ + g.lngOffset + 1 / 2) * g.lngStep, g.cellM)

/-- `approximateLocationForSession`, with the grid of the session before and after. -/
def approximateLocationForSession (cos : ℚ → ℚ) (random : UInt32 × UInt32 × UInt32)
    (session : Option SessionGrid) (lat lng : ℚ) : SessionGrid × ℚ × ℚ × ℕ :=
  let g := session.getD (.create cos random lat)
  (g, g.transform lat lng)

/-- Both coordinates are snapped. -/
theorem SessionGrid.transform_eq (g : SessionGrid) (lat lng : ℚ) :
    g.transform lat lng =
      (snap g.latStep g.latOffset lat, snap g.lngStep g.lngOffset lng, g.cellM) := rfl

/-- `Number` through a function of finite numbers. -/
def Number.map (f : ℚ → ℚ) : Number → Number
  | .finite x => .finite (f x)
  | .nonFinite => .nonFinite

/-- The libraries, with the grid of the session for approximate locations. -/
def Crypto.withGrid (crypto : Crypto) (g : SessionGrid) : Crypto :=
  { crypto with
    approximateLocation := fun lat lng =>
      (lat.map fun x => (g.transform x 0).1, lng.map fun x => (g.transform 0 x).2.1,
        .finite g.cellM) }

/-! ### Which locations a grid serves -/

variable {g : SessionGrid} {lat lng acc : ℚ}

/-- The centre of the cell is on the map, in terms of the location: it lies
between the first and the last cell whose centres are. -/
def SessionGrid.OnMap (g : SessionGrid) (lat lng : ℚ) : Prop :=
  (firstEdge g.latStep g.latOffset (-90) ≤ lat ∧ lat < lastEdge g.latStep g.latOffset 90) ∧
    (firstEdge g.lngStep g.lngOffset (-180) ≤ lng ∧ lng < lastEdge g.lngStep g.lngOffset 180)

theorem SessionGrid.onMap_iff :
    g.OnMap lat lng ↔
      (-90 ≤ (g.transform lat lng).1 ∧ (g.transform lat lng).1 ≤ 90) ∧
        (-180 ≤ (g.transform lat lng).2.1 ∧ (g.transform lat lng).2.1 ≤ 180) := by
  rw [g.transform_eq]
  unfold OnMap
  rw [← le_snap_iff g.latStep_pos, ← snap_le_iff g.latStep_pos, ← le_snap_iff g.lngStep_pos,
    ← snap_le_iff g.lngStep_pos]

/-- Half a cell from the poles and from the antimeridian, every location is
served. -/
theorem SessionGrid.onMap_of_half (hlat : |lat| ≤ 90 - g.latStep / 2)
    (hlng : |lng| ≤ 180 - g.lngStep / 2) : g.OnMap lat lng := by
  have h₁ := abs_le.mp (abs_snap_sub_le g.latStep_pos g.latOffset lat)
  have h₂ := abs_le.mp (abs_snap_sub_le g.lngStep_pos g.lngOffset lng)
  have h₃ := abs_le.mp hlat
  have h₄ := abs_le.mp hlng
  rw [onMap_iff, g.transform_eq]
  refine ⟨⟨?_, ?_⟩, ?_, ?_⟩ <;> dsimp only <;> linarith

/-- The content of an approximate location. -/
theorem contentOf_withGrid (crypto : Crypto) (g : SessionGrid) (captured_at : ℤ) :
    contentOf (crypto.withGrid g) ⟨.finite lat, .finite lng, .finite acc, captured_at⟩ .approximate =
      contentFields (.finite (g.transform lat lng).1) (.finite (g.transform lat lng).2.1)
        (.finite (if acc < g.cellM then (g.cellM : ℚ) else acc)) (.finite captured_at)
        .approximate := rfl

/-- What approximate sharing promises: the location moves by half a cell at most and
not again, stays a valid one, and an envelope is made. -/
def ApproximateWorks (g : SessionGrid) (lat lng : ℚ) (envelope : Option String) : Prop :=
  (|(g.transform lat lng).1 - lat| ≤ g.latStep / 2 ∧
    |(g.transform lat lng).2.1 - lng| ≤ g.lngStep / 2) ∧
  g.transform (g.transform lat lng).1 (g.transform lat lng).2.1 = g.transform lat lng ∧
  ((-90 ≤ (g.transform lat lng).1 ∧ (g.transform lat lng).1 ≤ 90) ∧
    (-180 ≤ (g.transform lat lng).2.1 ∧ (g.transform lat lng).2.1 ≤ 180)) ∧
  envelope.isSome = true

/-- The half cell and the second transform, of every location. -/
theorem SessionGrid.transform_near (g : SessionGrid) (lat lng : ℚ) :
    (|(g.transform lat lng).1 - lat| ≤ g.latStep / 2 ∧
      |(g.transform lat lng).2.1 - lng| ≤ g.lngStep / 2) ∧
    g.transform (g.transform lat lng).1 (g.transform lat lng).2.1 = g.transform lat lng := by
  rw [g.transform_eq lat lng, g.transform_eq]
  refine ⟨⟨abs_snap_sub_le g.latStep_pos _ _, abs_snap_sub_le g.lngStep_pos _ _⟩, ?_⟩
  rw [snap_snap g.latStep_pos, snap_snap g.lngStep_pos]

section Envelope

variable (crypto : Crypto) {sign : EventTemplate → Option VerifiedEvent}
  (hsign : ∀ template, (sign template).isSome = true) {circleId : Uuid} (hid : circleId ≠ "")
  {keyEpoch : ℤ} (hepoch : 1 ≤ keyEpoch ∧ keyEpoch ≤ maxSafeInteger)
  {captured_at expiresAt : ℤ} (hcap : |captured_at| ≤ maxSafeInteger)
  (hsafe : |expiresAt| ≤ maxSafeInteger) (hlt : captured_at < expiresAt)
  (hage : expiresAt ≤ captured_at + locationMaxAgeSeconds) (hacc : 0 ≤ acc ∧ acc ≤ 100000)
  (nonce : String) (iv : ℕ) (circleKey : Bytes) (g : SessionGrid) (lat lng : ℚ)

include hsign hid hepoch hcap hsafe hlt hage hacc

/-- An envelope is made exactly where the centre of the cell is on the map. -/
theorem encrypt_approximate_isSome_iff :
    (encryptCircleLocationV1 (crypto.withGrid g) sign nonce iv circleKey circleId keyEpoch
        ⟨.finite lat, .finite lng, .finite acc, captured_at⟩ .approximate expiresAt).isSome = true ↔
      g.OnMap lat lng := by
  have hcell : (0 : ℚ) ≤ g.cellM ∧ (g.cellM : ℚ) ≤ 100000 :=
    ⟨Nat.cast_nonneg _, by exact_mod_cast g.cellM_mem.2.trans (by decide)⟩
  have haccuracy : 0 ≤ (if acc < g.cellM then (g.cellM : ℚ) else acc) ∧
      (if acc < g.cellM then (g.cellM : ℚ) else acc) ≤ 100000 := by
    split_ifs
    · exact hcell
    · exact hacc
  rw [encrypt_isSome_iff hsign hid hepoch hsafe hlt hage, contentOf_withGrid,
    valid_contentFields_iff hcap, SessionGrid.onMap_iff]
  exact ⟨fun h => ⟨h.1, h.2.1⟩, fun h => ⟨h.1, h.2, haccuracy⟩⟩

/-- **When approximate sharing works**, for every grid and every location with a
valid accuracy and expiry: exactly when the location lies between the first and the
last cell whose centres are on the map, in both coordinates. -/
theorem approximate_works_iff :
    ApproximateWorks g lat lng
        (encryptCircleLocationV1 (crypto.withGrid g) sign nonce iv circleKey circleId keyEpoch
          ⟨.finite lat, .finite lng, .finite acc, captured_at⟩ .approximate expiresAt) ↔
      g.OnMap lat lng := by
  have hmade := encrypt_approximate_isSome_iff crypto hsign hid hepoch hcap hsafe hlt hage hacc nonce
    iv circleKey g lat lng
  obtain ⟨hnear, hagain⟩ := g.transform_near lat lng
  exact ⟨fun h => hmade.mp h.2.2.2,
    fun h => ⟨hnear, hagain, SessionGrid.onMap_iff.mp h, hmade.mpr h⟩⟩

end Envelope

/-! ### A grid of the equator -/

/-- The grid of a first call on the equator, with zeros for random numbers. -/
def equatorGrid : SessionGrid := .create (fun _ => 1) (0, 0, 0) 0

theorem equatorGrid_steps : equatorGrid.latStep = 250 / 111320 ∧ equatorGrid.lngStep = 250 / 111320 ∧
    equatorGrid.lngOffset = 0 := by
  unfold equatorGrid SessionGrid.create
  norm_num

/-- A city far from the edges is served. -/
theorem approximate_works_iff_city :
    ApproximateWorks equatorGrid (-12921 / 10000) (368219 / 10000)
      (encryptCircleLocationV1 (idealCrypto.withGrid equatorGrid)
        (CircleClient.demoSign Circles.demoOwner) "00000000-0000-0000-0000-000000000000" 0 [] "c" 2
        ⟨.finite (-12921 / 10000), .finite (368219 / 10000), .finite 12, 0⟩ .approximate 60) := by
  obtain ⟨hlat, hlng, _⟩ := equatorGrid_steps
  refine (approximate_works_iff idealCrypto (fun _ => rfl) (by decide) (by decide) (by decide)
    (by decide) (by decide) (by decide) (by norm_num) _ 0 [] equatorGrid _ _).mpr
      (SessionGrid.onMap_of_half ?_ ?_)
  · rw [hlat, abs_le]
    norm_num
  · rw [hlng, abs_le]
    norm_num

/-- On the antimeridian the centre of the cell is beyond it, and no envelope is
made. -/
theorem approximate_fails_antimeridian :
    180 < (equatorGrid.transform 0 180).2.1 ∧
      encryptCircleLocationV1 (idealCrypto.withGrid equatorGrid)
        (CircleClient.demoSign Circles.demoOwner) "00000000-0000-0000-0000-000000000000" 0 [] "c" 2
        ⟨.finite 0, .finite 180, .finite 12, 0⟩ .approximate 60 = none := by
  have hbeyond : 180 < (equatorGrid.transform 0 180).2.1 := by
    obtain ⟨_, hstep, hoffset⟩ := equatorGrid_steps
    have hcell : ⌊(180 : ℚ) / (250 / 111320) - 0⌋ = 80150 := by
      rw [Int.floor_eq_iff]
      norm_num
    unfold SessionGrid.transform
    dsimp only
    rw [hstep, hoffset, hcell]
    norm_num
  refine ⟨hbeyond, ?_⟩
  rw [← Option.not_isSome_iff_eq_none]
  intro hmade
  have hon := (encrypt_approximate_isSome_iff idealCrypto (fun _ => rfl) (by decide) (by decide)
    (by decide) (by decide) (by decide) (by decide) (by norm_num) _ 0 [] equatorGrid 0 180).mp hmade
  exact hbeyond.not_ge (SessionGrid.onMap_iff.mp hon).2.2

end CircleLocation
end Pwa
end SentinelMesh
