/-
# Encoded polylines

`decode_polyline6` of `maps/stadia_adapter.rs`.  The bytes of a route are numbers in groups of five
bits, each the difference of a coordinate to the one before it in millionths of a degree, latitude and
longitude in turn (`polyline`).

`decodeFrom_eq_ok` is what the two loops do: the bytes are read as numbers of at most thirteen groups,
each number is what its 64 bits are as a signed integer, and no sum leaves the range.  So every
polyline is read back (`decodePolyline6_encode`), and nothing that ends inside a pair is accepted.

Thirteen groups are 65 bits.  The bound on the shift admits the last group whole, and its upper bit is
lost: `decode_exact_iff` says that nothing else is misread.
-/

import SentinelMesh.Lib.MachineInt
import SentinelMesh.Lib.Varint
import SentinelMesh.Basic
import Mathlib.Data.Rat.Defs
import Mathlib.Tactic.Linarith
import Mathlib.Tactic.Ring

namespace SentinelMesh
namespace Maps

open Lib

/-- `MapProviderError`. -/
inductive MapProviderError
  | unavailable
  | timeout
  | rateLimited
  | noRoute
  | upstream
  deriving DecidableEq

/-! ### Decoding -/

/-- `component`: the number at the beginning of the bytes, and the bytes after it.  The accumulator is
an `i64`, whose right shift keeps the sign. -/
def component (result : BitVec 64) (shift : ℕ) :
    List UInt8 → Except MapProviderError (ℤ × List UInt8)
  | [] => .error .upstream
  | byte :: bytes =>
    if ¬ (63 ≤ byte ∧ byte ≤ 126) ∨ 60 < shift then .error .upstream
    else
      let value := byte.toNat - 63
      let result := result ||| BitVec.ofNat 64 (value &&& 0x1f) <<< shift
      if value < 0x20 then
        let half := result.sshiftRight 1
        .ok ((if result &&& 1 = 1 then ~~~ half else half).toInt, bytes)
      else component result (shift + 5) bytes

/-- `i64::checked_add`, with the error for a sum that overflows. -/
def checkedAdd (a b : ℤ) : Except MapProviderError ℤ :=
  if InRange 63 (a + b) then .ok (a + b) else .error .upstream

/-- Millionths of a degree as degrees, without the rounding of the quotient. -/
def degrees (n : ℤ) : ℚ := n / 1000000

theorem component_length {result : BitVec 64} {shift : ℕ} {bytes rest : List UInt8} {d : ℤ}
    (h : component result shift bytes = .ok (d, rest)) : rest.length < bytes.length := by
  induction bytes generalizing result shift with
  | nil => cases h
  | cons byte bytes ih =>
      rw [component] at h
      split at h
      · cases h
      · dsimp only at h
        split at h
        · cases h
          exact Nat.lt_succ_self _
        · exact (ih h).trans (Nat.lt_succ_self _)

/-- The loop of `decode_polyline6`: the coordinates of the bytes, after a latitude and a longitude. -/
def decodeFrom (lat lng : ℤ) (bytes : List UInt8) : Except MapProviderError (List (ℚ × ℚ)) :=
  if bytes = [] then .ok []
  else
    match _hlat : component 0 0 bytes with
    | .error e => .error e
    | .ok (dlat, afterLat) =>
      match checkedAdd lat dlat with
      | .error e => .error e
      | .ok lat =>
        match _hlng : component 0 0 afterLat with
        | .error e => .error e
        | .ok (dlng, afterLng) =>
          match checkedAdd lng dlng with
          | .error e => .error e
          | .ok lng =>
            (decodeFrom lat lng afterLng).map fun coordinates =>
              (degrees lng, degrees lat) :: coordinates
termination_by bytes.length
decreasing_by exact (component_length _hlng).trans (component_length _hlat)

/-- `decode_polyline6`. -/
def decodePolyline6 (bytes : List UInt8) : Except MapProviderError (List (ℚ × ℚ)) :=
  decodeFrom 0 0 bytes

/-! ### One number -/

/-- The alphabet: groups of five bits, from the sixty-third character of ASCII on. -/
def polyline : Varint UInt8 where
  width := 5
  width_pos := by decide
  byte v := UInt8.ofNat (v + 63)
  symbol byte := if 63 ≤ byte ∧ byte ≤ 126 then some (byte.toNat - 63) else none
  symbol_byte v hv := by
    have hnat : (UInt8.ofNat (v + 63)).toNat = v + 63 := UInt8.toNat_ofNat_of_lt' (by
      have : v < 64 := hv
      have : UInt8.size = 256 := rfl
      omega)
    have hv : v < 64 := hv
    have hrange : 63 ≤ UInt8.ofNat (v + 63) ∧ UInt8.ofNat (v + 63) ≤ 126 := by
      rw [UInt8.le_iff_toNat_le, UInt8.le_iff_toNat_le, hnat]
      exact ⟨Nat.le_add_left 63 v, show v + 63 ≤ 126 by omega⟩
    rw [if_pos hrange, hnat, Nat.add_sub_cancel]

/-- What the code takes the value of some groups for. -/
def word (v : ℕ) : ℤ := unzigzag (wrap 64 v)

/-- The end of `component`: half of the accumulator, complemented if its first bit is set. -/
theorem toInt_half (v : ℕ) :
    (if BitVec.ofNat 64 v &&& 1 = 1 then ~~~ (BitVec.ofNat 64 v).sshiftRight 1
      else (BitVec.ofNat 64 v).sshiftRight 1).toInt = word v := by
  have hint : (BitVec.ofNat 64 v).toInt = wrap 64 v := BitVec.toInt_ofNat' v
  have hhalf : ((BitVec.ofNat 64 v).sshiftRight 1).toInt = wrap 64 v / 2 := by
    rw [BitVec.toInt_sshiftRight, hint, Int.shiftRight_eq_div_pow]
    rfl
  have hodd : BitVec.ofNat 64 v &&& 1 = 1 ↔ wrap 64 v % 2 = 1 := by
    rw [← BitVec.toNat_inj, BitVec.toNat_and, BitVec.toNat_ofNat]
    change v % 2 ^ 64 &&& (2 ^ 1 - 1) = 1 ↔ _
    rw [Nat.and_two_pow_sub_one_eq_mod]
    unfold wrap
    rw [Int.bmod_def]
    split_ifs <;> omega
  have hnot : ∀ x : BitVec 64, (~~~ x).toInt = -x.toInt - 1 := by
    intro x
    rw [BitVec.toInt_not, BitVec.toInt_eq_toNat_bmod]
    have hlt := x.isLt
    rw [Int.bmod_def, Int.bmod_def]
    split_ifs <;> omega
  unfold word unzigzag
  split_ifs with h h' h'
  · rw [hnot, hhalf]
  · exact absurd (hodd.1 h) h'
  · exact absurd (hodd.2 h') h
  · exact hhalf

/-- A group goes beside the bits that are there. -/
theorem or_shiftLeft {r shift : ℕ} (hr : r < 2 ^ shift) (g : ℕ) :
    BitVec.ofNat 64 r ||| BitVec.ofNat 64 g <<< shift = BitVec.ofNat 64 (r + 2 ^ shift * g) := by
  have hor : r + 2 ^ shift * g = r ||| g <<< shift := by
    rw [Nat.or_comm, ← Nat.shiftLeft_add_eq_or_of_lt hr, Nat.shiftLeft_eq]
    ring
  have hshift : BitVec.ofNat 64 g <<< shift = BitVec.ofNat 64 (g <<< shift) := by
    rw [← BitVec.toNat_inj, BitVec.toNat_shiftLeft, BitVec.toNat_ofNat, BitVec.toNat_ofNat,
      Nat.shiftLeft_eq, Nat.shiftLeft_eq, Nat.mul_mod, Nat.mod_mod, ← Nat.mul_mod]
  rw [hor, BitVec.ofNat_or, hshift]

/-- **What `component` returns**: the value of the groups that are read, as its 64 bits have it, if the
last of them is not shifted too far. -/
theorem component_eq {r shift : ℕ} (hr : r < 2 ^ shift) (bytes : List UInt8) :
    component (BitVec.ofNat 64 r) shift bytes =
      match polyline.read bytes with
      | none => .error .upstream
      | some (gs, rest) =>
        if shift + 5 * (gs.length - 1) ≤ 60 then .ok (word (r + 2 ^ shift * polyline.value gs), rest)
        else .error .upstream := by
  induction bytes generalizing r shift with
  | nil => rfl
  | cons byte bytes ih =>
      rw [component, Varint.read]
      by_cases hbyte : 63 ≤ byte ∧ byte ≤ 126
      · have hsymbol : polyline.symbol byte = some (byte.toNat - 63) := if_pos hbyte
        rw [hsymbol]
        dsimp only
        generalize byte.toNat - 63 = v
        have hmask : v &&& 0x1f = v % 2 ^ 5 := Nat.and_two_pow_sub_one_eq_mod v 5
        have hnext : r + 2 ^ shift * (v % 2 ^ 5) < 2 ^ (shift + 5) := by
          have hdigit : v % 2 ^ 5 ≤ 2 ^ 5 - 1 := Nat.le_sub_one_of_lt (Nat.mod_lt _ (by decide))
          calc r + 2 ^ shift * (v % 2 ^ 5) < 2 ^ shift + 2 ^ shift * (2 ^ 5 - 1) :=
                Nat.add_lt_add_of_lt_of_le hr (Nat.mul_le_mul_left _ hdigit)
            _ = 2 ^ (shift + 5) := by rw [pow_add]; omega
        rw [hmask, or_shiftLeft hr, toInt_half, ih hnext]
        have hguard : (¬ (63 ≤ byte ∧ byte ≤ 126) ∨ 60 < shift) ↔ 60 < shift :=
          or_iff_right (not_not_intro hbyte)
        rw [if_congr hguard rfl rfl]
        by_cases hlast : v < 2 ^ 5
        · have hv : v % 2 ^ 5 = v := Nat.mod_eq_of_lt hlast
          rw [if_pos (show v < 0x20 from hlast), if_pos (show v < 2 ^ polyline.width from hlast), hv]
          dsimp only
          rw [Varint.value_singleton, List.length_singleton]
          split_ifs <;> first | rfl | omega
        · rw [if_neg (show ¬ v < 0x20 from hlast), if_neg (show ¬ v < 2 ^ polyline.width from hlast)]
          cases hread : polyline.read bytes with
          | none =>
              split_ifs
              · rfl
              · rfl
          | some rest =>
              have hpos : 0 < rest.1.length :=
                List.length_pos_of_ne_nil (Varint.ne_nil_of_read (hread.trans rfl))
              have hvalue : r + 2 ^ shift * (v % 2 ^ 5) + 2 ^ (shift + 5) * polyline.value rest.1 =
                  r + 2 ^ shift * polyline.value (v % 2 ^ polyline.width :: rest.1) := by
                rw [Varint.value_cons, pow_add]
                change _ = r + 2 ^ shift * (v % 2 ^ 5 + 2 ^ 5 * _)
                ring
              rw [Option.map_some]
              dsimp only
              rw [hvalue, List.length_cons]
              split_ifs <;> first | rfl | omega
      · have hsymbol : polyline.symbol byte = none := if_neg hbyte
        rw [if_pos (Or.inl hbyte), hsymbol]

/-- The first number of some bytes. -/
theorem component_eq_ok {bytes rest : List UInt8} {d : ℤ} : component 0 0 bytes = .ok (d, rest) ↔
    ∃ gs, polyline.read bytes = some (gs, rest) ∧ gs.length ≤ 13 ∧ d = word (polyline.value gs) := by
  have heq := @component_eq 0 0 Nat.zero_lt_one bytes
  simp only [zero_add, pow_zero, one_mul] at heq
  change component 0 0 bytes = _ at heq
  rw [heq]
  cases polyline.read bytes with
  | none => simp
  | some r =>
      obtain ⟨gs, rest'⟩ := r
      dsimp only
      by_cases hlength : 5 * (gs.length - 1) ≤ 60
      · rw [if_pos hlength]
        constructor
        · intro h
          obtain ⟨hd, rfl⟩ := Prod.mk.inj (Except.ok.inj h)
          exact ⟨gs, rfl, by omega, hd.symm⟩
        · rintro ⟨gs', hgs, _, hd⟩
          obtain ⟨rfl, rfl⟩ := Prod.mk.inj (Option.some.inj hgs)
          rw [hd]
      · rw [if_neg hlength]
        constructor
        · exact fun h => nomatch h
        · rintro ⟨gs', hgs, hshort, _⟩
          obtain ⟨rfl, _⟩ := Prod.mk.inj (Option.some.inj hgs)
          omega

theorem component_eq_error {bytes : List UInt8} (h : polyline.read bytes = none) :
    component 0 0 bytes = .error .upstream := by
  have heq := @component_eq 0 0 Nat.zero_lt_one bytes
  rw [h] at heq
  exact heq

theorem checkedAdd_eq_ok {a b s : ℤ} : checkedAdd a b = .ok s ↔ InRange 63 (a + b) ∧ s = a + b := by
  unfold checkedAdd
  split_ifs with h
  · exact ⟨fun heq => ⟨h, (Except.ok.inj heq).symm⟩, fun hs => by rw [hs.2]⟩
  · exact ⟨fun heq => (nomatch heq), fun hs => absurd hs.1 h⟩

/-! ### All of them -/

theorem ok_bind {α β : Type} (a : α) (f : α → Except MapProviderError β) :
    (Except.ok a >>= f) = f a := rfl

/-- One turn of the loop. -/
theorem decodeFrom_of_ne {lat lng : ℤ} {bytes : List UInt8} (hne : bytes ≠ []) :
    decodeFrom lat lng bytes = (do
      let first ← component 0 0 bytes
      let lat ← checkedAdd lat first.1
      let second ← component 0 0 first.2
      let lng ← checkedAdd lng second.1
      let coordinates ← decodeFrom lat lng second.2
      pure ((degrees lng, degrees lat) :: coordinates)) := by
  rw [decodeFrom, if_neg hne]
  split
  · rename_i e hlat
    rw [hlat]
    rfl
  · rename_i dlat afterLat hlat
    rw [hlat]
    change _ = (checkedAdd lat dlat).bind _
    cases hsum : checkedAdd lat dlat with
    | error e => rfl
    | ok lat =>
        change _ = (component 0 0 afterLat).bind _
        dsimp only
        split
        · rename_i e hlng
          rw [hlng]
          rfl
        · rename_i dlng afterLng hlng
          rw [hlng]
          change _ = (checkedAdd lng dlng).bind _
          cases hsum : checkedAdd lng dlng with
          | error e => rfl
          | ok lng =>
              change (decodeFrom lat lng afterLng).map _ = (decodeFrom lat lng afterLng).bind _
              cases decodeFrom lat lng afterLng <;> rfl

/-- The coordinates of some numbers, two for each, with what the value of their groups is taken for. -/
def points (reading : ℕ → Option ℤ) : ℤ → ℤ → List (List ℕ) → Option (List (ℚ × ℚ))
  | _, _, [] => some []
  | _, _, [_] => none
  | lat, lng, a :: b :: comps => do
    let dlat ← reading (polyline.value a)
    let dlng ← reading (polyline.value b)
    let coordinates ← points reading (lat + dlat) (lng + dlng) comps
    pure ((degrees (lng + dlng), degrees (lat + dlat)) :: coordinates)

/-- No sum of the numbers, as 64 bits each, leaves the range. -/
def SumsFit : ℤ → ℤ → List (List ℕ) → Prop
  | lat, lng, a :: b :: comps =>
    InRange 63 (lat + word (polyline.value a)) ∧ InRange 63 (lng + word (polyline.value b)) ∧
      SumsFit (lat + word (polyline.value a)) (lng + word (polyline.value b)) comps
  | _, _, _ => True

theorem points_cons_eq_some {reading : ℕ → Option ℤ} {lat lng : ℤ} {a b : List ℕ}
    {comps : List (List ℕ)} {pts : List (ℚ × ℚ)} :
    points reading lat lng (a :: b :: comps) = some pts ↔
      ∃ dlat, reading (polyline.value a) = some dlat ∧ ∃ dlng, reading (polyline.value b) = some dlng ∧
        ∃ pts', points reading (lat + dlat) (lng + dlng) comps = some pts' ∧
          (degrees (lng + dlng), degrees (lat + dlat)) :: pts' = pts := by
  rw [points]
  simp only [Option.bind_eq_bind, Option.bind_eq_some_iff, Option.pure_def, Option.some.injEq]

/-- A turn of the loop that goes well, as two numbers that are read. -/
theorem decodeFrom_eq_ok_of_ne {lat lng : ℤ} {bytes : List UInt8} {pts : List (ℚ × ℚ)}
    (hne : bytes ≠ []) : decodeFrom lat lng bytes = .ok pts ↔
      ∃ a afterLat b afterLng pts', (polyline.read bytes = some (a, afterLat) ∧ a.length ≤ 13 ∧
          InRange 63 (lat + word (polyline.value a))) ∧
        (polyline.read afterLat = some (b, afterLng) ∧ b.length ≤ 13 ∧
          InRange 63 (lng + word (polyline.value b))) ∧
        decodeFrom (lat + word (polyline.value a)) (lng + word (polyline.value b)) afterLng =
          .ok pts' ∧
        (degrees (lng + word (polyline.value b)), degrees (lat + word (polyline.value a))) :: pts' =
          pts := by
  rw [decodeFrom_of_ne hne]
  constructor
  · intro h
    obtain ⟨⟨dlat, afterLat⟩, hlat, h⟩ := bind_eq_ok.1 h
    obtain ⟨lat', hlatSum, h⟩ := bind_eq_ok.1 h
    obtain ⟨⟨dlng, afterLng⟩, hlng, h⟩ := bind_eq_ok.1 h
    obtain ⟨lng', hlngSum, h⟩ := bind_eq_ok.1 h
    obtain ⟨pts', hrest, hpts⟩ := bind_eq_ok.1 h
    obtain ⟨a, hreada, hshorta, hdlat⟩ := component_eq_ok.1 hlat
    obtain ⟨b, hreadb, hshortb, hdlng⟩ := component_eq_ok.1 hlng
    obtain ⟨hfita, hlat'⟩ := checkedAdd_eq_ok.1 hlatSum
    obtain ⟨hfitb, hlng'⟩ := checkedAdd_eq_ok.1 hlngSum
    dsimp only at hfita hfitb hlat' hlng'
    rw [hdlat] at hfita hlat'
    rw [hdlng] at hfitb hlng'
    rw [hlat', hlng'] at hrest hpts
    exact ⟨a, afterLat, b, afterLng, pts', ⟨hreada, hshorta, hfita⟩, ⟨hreadb, hshortb, hfitb⟩, hrest,
      Except.ok.inj hpts⟩
  · rintro ⟨a, afterLat, b, afterLng, pts', ⟨hreada, hshorta, hfita⟩, ⟨hreadb, hshortb, hfitb⟩, hrest,
      hpts⟩
    have hlat : component 0 0 bytes = .ok (word (polyline.value a), afterLat) :=
      component_eq_ok.2 ⟨a, hreada, hshorta, Eq.refl _⟩
    have hlng : component 0 0 afterLat = .ok (word (polyline.value b), afterLng) :=
      component_eq_ok.2 ⟨b, hreadb, hshortb, Eq.refl _⟩
    have hlatSum : checkedAdd lat (word (polyline.value a)) = .ok (lat + word (polyline.value a)) :=
      if_pos hfita
    have hlngSum : checkedAdd lng (word (polyline.value b)) = .ok (lng + word (polyline.value b)) :=
      if_pos hfitb
    rw [hlat, ok_bind]
    dsimp only
    rw [hlatSum, ok_bind, hlng, ok_bind]
    dsimp only
    rw [hlngSum, ok_bind, hrest, ok_bind, hpts]
    rfl

/-- **What the loops do.**  The bytes are read as numbers of at most thirteen groups, no sum leaves the
range, and the points are the sums. -/
theorem decodeFrom_eq_ok {lat lng : ℤ} {bytes : List UInt8} {pts : List (ℚ × ℚ)} :
    decodeFrom lat lng bytes = .ok pts ↔ ∃ comps, polyline.Reads bytes comps ∧
      (∀ gs ∈ comps, gs.length ≤ 13) ∧ SumsFit lat lng comps ∧
        points (fun v => some (word v)) lat lng comps = some pts := by
  induction hn : bytes.length using Nat.strong_induction_on generalizing lat lng bytes pts with
  | _ n ih =>
      by_cases hne : bytes = []
      · subst hne
        rw [decodeFrom, if_pos rfl]
        constructor
        · rintro h
          obtain rfl := Except.ok.inj h
          exact ⟨[], .nil, List.forall_mem_nil _, trivial, rfl⟩
        · rintro ⟨comps, hreads, _, _, hpts⟩
          cases hreads with
          | nil => rw [Option.some.inj hpts]
          | cons h _ => cases h
      · rw [decodeFrom_eq_ok_of_ne hne]
        constructor
        · rintro ⟨a, afterLat, b, afterLng, pts', ⟨hreada, hshorta, hfita⟩, ⟨hreadb, hshortb, hfitb⟩,
            hrest, hpts⟩
          have hlength := (Varint.length_of_read hreadb).trans (Varint.length_of_read hreada)
          obtain ⟨comps, hreads, hshort, hfits, hpoints⟩ := (ih _ (hn ▸ hlength) rfl).1 hrest
          refine ⟨a :: b :: comps, .cons hreada (.cons hreadb hreads),
            List.forall_mem_cons.2 ⟨hshorta, List.forall_mem_cons.2 ⟨hshortb, hshort⟩⟩,
            ⟨hfita, hfitb, hfits⟩, ?_⟩
          exact points_cons_eq_some.2 ⟨_, rfl, _, rfl, pts', hpoints, hpts⟩
        · rintro ⟨comps, hreads, hshort, hfits, hpoints⟩
          cases hreads with
          | nil => exact absurd rfl hne
          | @cons _ afterLat a comps hreada hreads =>
              cases hreads with
              | nil => cases hpoints
              | @cons _ afterLng b comps hreadb hreads =>
                  rw [List.forall_mem_cons, List.forall_mem_cons] at hshort
                  obtain ⟨hfita, hfitb, hfits⟩ := hfits
                  obtain ⟨_, hdlat, _, hdlng, pts', htail, hpts⟩ := points_cons_eq_some.1 hpoints
                  obtain rfl := Option.some.inj hdlat
                  obtain rfl := Option.some.inj hdlng
                  have hlength := (Varint.length_of_read hreadb).trans (Varint.length_of_read hreada)
                  have hrest := (ih _ (hn ▸ hlength) rfl).2 ⟨comps, hreads, hshort.2.2, hfits, htail⟩
                  exact ⟨a, afterLat, b, afterLng, pts', ⟨hreada, hshort.1, hfita⟩,
                    ⟨hreadb, hshort.2.1, hfitb⟩, hrest, hpts⟩

/-! ### Encoding -/

/-- A point in millionths of a degree. -/
structure Point where
  lat : ℤ
  lng : ℤ
  lat_mem : -90000000 ≤ lat ∧ lat ≤ 90000000
  lng_mem : -180000000 ≤ lng ∧ lng ≤ 180000000

/-- Where the first differences are taken from. -/
def origin : Point := ⟨0, 0, by decide, by decide⟩

/-- A point as it is decoded. -/
def Point.degrees (p : Point) : ℚ × ℚ := (Maps.degrees p.lng, Maps.degrees p.lat)

/-- The encoding of a difference: shifted by one, complemented if it is negative, and written in groups
of five bits. -/
def encodeComponent (n : ℤ) : List UInt8 := polyline.write (zigzag n)

/-- The encoding of some points after another. -/
def encodeFrom (previous : Point) : List Point → List UInt8
  | [] => []
  | p :: ps => encodeComponent (p.lat - previous.lat) ++
      (encodeComponent (p.lng - previous.lng) ++ encodeFrom p ps)

/-- The encoding of some points. -/
def encode (ps : List Point) : List UInt8 := encodeFrom origin ps

theorem word_zigzag {n : ℤ} (h : InRange 62 n) : word (zigzag n) = n := by
  unfold InRange at h
  have hrange : InRange 63 (zigzag n : ℤ) := by
    unfold InRange
    rw [zigzag_cast]
    split_ifs <;> omega
  unfold word
  rw [wrap_of_mem hrange, unzigzag_zigzag]

/-- **A difference is read back**, with whatever comes after it. -/
theorem component_encode {n : ℤ} (h : InRange 62 n) (rest : List UInt8) :
    component 0 0 (encodeComponent n ++ rest) = .ok (n, rest) := by
  obtain ⟨gs, hvalue, hlength, hread⟩ := polyline.read_write (zigzag n)
  have hsmall : zigzag n < (2 ^ polyline.width) ^ 13 := by
    have hlt : zigzag n < (2 ^ 5) ^ 13 := by
      unfold InRange at h
      zify
      rw [zigzag_cast]
      split_ifs <;> omega
    exact hlt
  refine component_eq_ok.2 ⟨gs, hread rest, hlength 13 (by decide) hsmall, ?_⟩
  rw [hvalue, word_zigzag h]

/-- What ends inside a difference is no number. -/
theorem component_of_prefix {n : ℤ} {bytes : List UInt8} (h : bytes <+: encodeComponent n)
    (hne : bytes ≠ encodeComponent n) : component 0 0 bytes = .error .upstream :=
  component_eq_error (Varint.read_of_prefix h hne)

theorem inRange_lat (p q : Point) : InRange 62 (q.lat - p.lat) := by
  have hp := p.lat_mem
  have hq := q.lat_mem
  unfold InRange
  omega

theorem inRange_lng (p q : Point) : InRange 62 (q.lng - p.lng) := by
  have hp := p.lng_mem
  have hq := q.lng_mem
  unfold InRange
  omega

theorem checkedAdd_lat (p q : Point) : checkedAdd p.lat (q.lat - p.lat) = .ok q.lat := by
  have hq := q.lat_mem
  refine checkedAdd_eq_ok.2 ⟨?_, by omega⟩
  unfold InRange
  omega

theorem checkedAdd_lng (p q : Point) : checkedAdd p.lng (q.lng - p.lng) = .ok q.lng := by
  have hq := q.lng_mem
  refine checkedAdd_eq_ok.2 ⟨?_, by omega⟩
  unfold InRange
  omega

theorem encodeComponent_append_ne_nil (n : ℤ) (bytes : List UInt8) : encodeComponent n ++ bytes ≠ [] :=
  fun h => polyline.write_ne_nil _ (List.append_eq_nil_iff.1 h).1

/-- The turn of the loop that decodes a point. -/
theorem decodeFrom_point (p q : Point) (rest : List UInt8) :
    decodeFrom p.lat p.lng
        (encodeComponent (q.lat - p.lat) ++ (encodeComponent (q.lng - p.lng) ++ rest)) =
      (decodeFrom q.lat q.lng rest).map fun coordinates => q.degrees :: coordinates := by
  rw [decodeFrom_of_ne (encodeComponent_append_ne_nil _ _), component_encode (inRange_lat p q), ok_bind]
  dsimp only
  rw [checkedAdd_lat, ok_bind, component_encode (inRange_lng p q), ok_bind]
  dsimp only
  rw [checkedAdd_lng, ok_bind]
  cases decodeFrom q.lat q.lng rest <;> rfl

theorem decodeFrom_encodeFrom (p : Point) (ps : List Point) :
    decodeFrom p.lat p.lng (encodeFrom p ps) = .ok (ps.map Point.degrees) := by
  induction ps generalizing p with
  | nil =>
      unfold encodeFrom
      rw [decodeFrom, if_pos rfl]
      rfl
  | cons q ps ih =>
      unfold encodeFrom
      rw [decodeFrom_point, ih]
      rfl

/-- A part from the beginning ends in the first text, or has all of it. -/
theorem prefix_append_cases {α : Type*} {l s t : List α} (h : l <+: s ++ t) :
    (l <+: s ∧ l ≠ s) ∨ ∃ r, l = s ++ r ∧ r <+: t := by
  rcases List.prefix_or_prefix_of_prefix h (List.prefix_append s t) with hl | ⟨r, rfl⟩
  · by_cases hne : l = s
    · exact Or.inr ⟨[], by rw [hne, List.append_nil], List.nil_prefix⟩
    · exact Or.inl ⟨hl, hne⟩
  · exact Or.inr ⟨r, rfl, (List.prefix_append_right_inj s).1 h⟩

/-- **What ends inside a pair is rejected.** -/
theorem decodeFrom_of_prefix (p : Point) (ps : List Point) {bytes : List UInt8}
    (h : bytes <+: encodeFrom p ps) (hinside : ∀ k, bytes ≠ encodeFrom p (ps.take k)) :
    decodeFrom p.lat p.lng bytes = .error .upstream := by
  have hne : bytes ≠ [] := hinside 0
  induction ps generalizing p bytes with
  | nil => exact absurd (List.prefix_nil.1 h) hne
  | cons q ps ih =>
      unfold encodeFrom at h
      rcases prefix_append_cases h with ⟨hlat, hshort⟩ | ⟨afterLat, rfl, hlng⟩
      · rw [decodeFrom_of_ne hne, component_of_prefix hlat hshort]
        rfl
      · rcases prefix_append_cases hlng with ⟨hlng, hshort⟩ | ⟨afterLng, rfl, hrest⟩
        · rw [decodeFrom_of_ne hne, component_encode (inRange_lat p q), ok_bind]
          dsimp only
          rw [checkedAdd_lat, ok_bind, component_of_prefix hlng hshort]
          rfl
        · have hafter : ∀ k, afterLng ≠ encodeFrom q (ps.take k) := by
            rintro k rfl
            exact hinside (k + 1) rfl
          rw [decodeFrom_point, ih q hrest hafter (hafter 0)]
          rfl

/-- **Decoding inverts encoding**, and of the beginnings of an encoding only those of whole pairs are
accepted. -/
theorem decodePolyline6_encode (ps : List Point) :
    decodePolyline6 (encode ps) = .ok (ps.map Point.degrees) ∧
    ∀ bytes, bytes <+: encode ps → (∀ k, bytes ≠ encode (ps.take k)) →
      decodePolyline6 bytes = .error .upstream :=
  ⟨decodeFrom_encodeFrom origin ps, fun _ h hinside => decodeFrom_of_prefix origin ps h hinside⟩

/-- A millionth of a degree north and east of the origin. -/
def demoPoints : List Point := [origin, ⟨1, 1, by decide, by decide⟩]

theorem encode_demoPoints (k : ℕ) :
    encode (demoPoints.take k) = [63, 63, 65, 65].take (2 * k) := by
  have hzero : encodeComponent 0 = [63] := polyline.write_of_lt (by decide)
  have hone : encodeComponent 1 = [65] := polyline.write_of_lt (by decide)
  match k with
  | 0 => rfl
  | 1 =>
      change encodeComponent 0 ++ (encodeComponent 0 ++ []) = _
      rw [hzero]
      rfl
  | k + 2 =>
      have hall : demoPoints.take (k + 2) = demoPoints := List.take_of_length_le (Nat.le_add_left 2 k)
      rw [hall, List.take_of_length_le (show 4 ≤ 2 * (k + 2) by omega)]
      change encodeComponent 0 ++ (encodeComponent 0 ++ (encodeComponent 1 ++ (encodeComponent 1 ++ [])))
        = _
      rw [hzero, hone]
      rfl

theorem decodePolyline6_encode_fixture :
    decodePolyline6 [63, 63, 65, 65] = .ok [(0, 0), (1 / 1000000, 1 / 1000000)] ∧
      decodePolyline6 [63, 63, 65] = .error .upstream := by
  have h := decodePolyline6_encode demoPoints
  have hall : encode demoPoints = [63, 63, 65, 65] := encode_demoPoints 2
  rw [hall] at h
  refine ⟨h.1.trans ?_, h.2 [63, 63, 65] (by decide) fun k hk => ?_⟩
  · simp [demoPoints, Point.degrees, origin, degrees]
  · have hlength := congrArg List.length hk
    rw [encode_demoPoints, List.length_take] at hlength
    simp only [List.length_cons, List.length_nil] at hlength
    omega

/-! ### What is misread -/

/-- How the groups of a number are read without losing a bit: as an unbounded number, or as the 64 bits
of a signed one. -/
inductive Reading
  | unbounded
  | word

/-- What a number is exactly, on a reading; more than 64 bits are no signed number of 64. -/
def Reading.value : Reading → ℕ → Option ℤ
  | .unbounded, v => some (unzigzag v)
  | .word, v => if v < 2 ^ 64 then some (unzigzag (wrap 64 v)) else none

/-- Up to where the code has the exact number. -/
def Reading.bound : Reading → ℕ
  | .unbounded => 2 ^ 63
  | .word => 2 ^ 64

/-- The points of some bytes, exactly: no bit of a group is lost, and no sum overflows. -/
def Exact (reading : Reading) (bytes : List UInt8) (pts : List (ℚ × ℚ)) : Prop :=
  ∃ comps, polyline.Reads bytes comps ∧ points reading.value 0 0 comps = some pts

/-- Some bytes that have nothing else wrong with them: they are read as pairs of numbers, none of more
than thirteen groups, and no sum of the numbers, as 64 bits each, leaves the range. -/
structure Regular (bytes : List UInt8) (comps : List (List ℕ)) : Prop where
  reads : polyline.Reads bytes comps
  short : ∀ gs ∈ comps, gs.length ≤ 13
  even : Even comps.length
  fits : SumsFit 0 0 comps

theorem value_lt_of_short {bytes : List UInt8} {comps : List (List ℕ)}
    (hreads : polyline.Reads bytes comps) {gs : List ℕ} (hgs : gs ∈ comps) (hshort : gs.length ≤ 13) :
    polyline.value gs < 2 ^ 65 := by
  have hlt := Varint.value_lt (hreads.lt gs hgs)
  have hpow : (2 ^ polyline.width) ^ gs.length ≤ (2 ^ 5) ^ 13 :=
    Nat.pow_le_pow_right (by decide) hshort
  exact hlt.trans_le (hpow.trans (by norm_num))

/-- The code has the exact number up to the bound, and from there on another. -/
theorem value_eq_word_iff (reading : Reading) {v : ℕ} (hv : v < 2 ^ 65) :
    reading.value v = some (word v) ↔ v < reading.bound := by
  unfold Reading.value Reading.bound word
  cases reading with
  | unbounded =>
      dsimp only
      rw [Option.some.injEq]
      unfold unzigzag wrap
      rw [Int.bmod_def]
      split_ifs <;> omega
  | word =>
      dsimp only
      split_ifs with hlt
      · exact iff_of_true rfl hlt
      · exact iff_of_false (fun h => nomatch h) hlt

/-- Points are known from what their numbers are taken for. -/
theorem points_congr {f g : ℕ → Option ℤ} {comps : List (List ℕ)}
    (h : ∀ gs ∈ comps, f (polyline.value gs) = g (polyline.value gs)) (lat lng : ℤ) :
    points f lat lng comps = points g lat lng comps := by
  induction comps using List.twoStepInduction generalizing lat lng with
  | nil => rfl
  | singleton a => rfl
  | cons_cons a b comps ih _ =>
      rw [List.forall_mem_cons, List.forall_mem_cons] at h
      rw [points, points, h.1, h.2.1]
      refine congrArg _ (funext fun dlat => congrArg _ (funext fun dlng => ?_))
      rw [ih h.2.2]

theorem degrees_injective : Function.Injective degrees := by
  intro m n h
  unfold degrees at h
  have hcast : (m : ℚ) = n := by linarith
  exact_mod_cast hcast

/-- What numbers are taken for is known from the points. -/
theorem points_inj {f g : ℕ → Option ℤ} {comps : List (List ℕ)} {lat lng : ℤ} {pts : List (ℚ × ℚ)}
    (hf : points f lat lng comps = some pts) (hg : points g lat lng comps = some pts) :
    ∀ gs ∈ comps, f (polyline.value gs) = g (polyline.value gs) := by
  induction comps using List.twoStepInduction generalizing lat lng pts with
  | nil => exact List.forall_mem_nil _
  | singleton a => cases hf
  | cons_cons a b comps ih _ =>
      obtain ⟨dlat, hdlat, dlng, hdlng, pts', htail, rfl⟩ := points_cons_eq_some.1 hf
      obtain ⟨dlat', hdlat', dlng', hdlng', pts'', htail', hpts⟩ := points_cons_eq_some.1 hg
      obtain ⟨hpoint, rfl⟩ := List.cons.inj hpts
      obtain ⟨hlng, hlat⟩ := Prod.mk.inj hpoint
      obtain rfl : dlng' = dlng := by
        have := degrees_injective hlng
        omega
      obtain rfl : dlat' = dlat := by
        have := degrees_injective hlat
        omega
      refine List.forall_mem_cons.2 ⟨hdlat.trans hdlat'.symm, List.forall_mem_cons.2
        ⟨hdlng.trans hdlng'.symm, ih htail htail'⟩⟩

/-- Pairs of numbers are points. -/
theorem exists_points_iff {f : ℕ → ℤ} {comps : List (List ℕ)} (lat lng : ℤ) :
    (∃ pts, points (fun v => some (f v)) lat lng comps = some pts) ↔ Even comps.length := by
  induction comps using List.twoStepInduction generalizing lat lng with
  | nil => exact iff_of_true ⟨[], rfl⟩ (by decide)
  | singleton a => exact iff_of_false (fun h => nomatch h.choose_spec) (by simp)
  | cons_cons a b comps ih _ =>
      have hlength : Even (a :: b :: comps).length ↔ Even comps.length := by
        rw [List.length_cons, List.length_cons]
        exact Nat.even_add_one.trans (by rw [Nat.even_add_one, not_not])
      rw [hlength, ← ih (lat + f (polyline.value a)) (lng + f (polyline.value b))]
      constructor
      · rintro ⟨pts, hpts⟩
        obtain ⟨_, hdlat, _, hdlng, pts', htail, _⟩ := points_cons_eq_some.1 hpts
        obtain rfl := Option.some.inj hdlat
        obtain rfl := Option.some.inj hdlng
        exact ⟨pts', htail⟩
      · rintro ⟨pts', htail⟩
        exact ⟨_, points_cons_eq_some.2 ⟨_, rfl, _, rfl, pts', htail, rfl⟩⟩

/-- **What is decoded exactly.**  On either reading some bytes are rejected or decoded exactly if and
only if, where nothing else is wrong with them, no number reaches the bound of the reading. -/
theorem decode_exact_iff (reading : Reading) (bytes : List UInt8) :
    (∀ pts, decodePolyline6 bytes = .ok pts → Exact reading bytes pts) ↔
      ∀ comps, Regular bytes comps → ∀ gs ∈ comps, polyline.value gs < reading.bound := by
  constructor
  · intro h comps hregular gs hgs
    obtain ⟨pts, hpts⟩ := (@exists_points_iff word comps 0 0).2 hregular.even
    obtain ⟨comps', hreads, hexact⟩ := h pts
      (decodeFrom_eq_ok.2 ⟨comps, hregular.reads, hregular.short, hregular.fits, hpts⟩)
    obtain rfl := hregular.reads.unique hreads
    have hlt := value_lt_of_short hreads hgs (hregular.short gs hgs)
    exact (value_eq_word_iff reading hlt).1 (points_inj hexact hpts gs hgs)
  · intro h pts hpts
    obtain ⟨comps, hreads, hshort, hfits, hpoints⟩ := decodeFrom_eq_ok.1 hpts
    have heven : Even comps.length := (exists_points_iff 0 0).1 ⟨pts, hpoints⟩
    refine ⟨comps, hreads, ?_⟩
    rw [← hpoints]
    refine points_congr (fun gs hgs => ?_) 0 0
    exact (value_eq_word_iff reading (value_lt_of_short hreads hgs (hshort gs hgs))).2
      (h comps ⟨hreads, hshort, heven, hfits⟩ gs hgs)

/-- A latitude of thirteen groups with the upper bit of the last, and a longitude of zero. -/
def demoWide : List UInt8 := List.replicate 12 95 ++ [79, 63]

theorem reads_demoWide : polyline.Reads demoWide [List.replicate 12 0 ++ [16], [0]] := by
  have hlat : polyline.read demoWide = some (List.replicate 12 0 ++ [16], [63]) := by decide
  have hlng : polyline.read [63] = some ([0], []) := by decide
  exact .cons hlat (.cons hlng .nil)

theorem value_demoWide : polyline.value (List.replicate 12 0 ++ [16]) = 2 ^ 64 := by decide

/-- The bit is lost, and the point is the origin. -/
theorem decode_demoWide : decodePolyline6 demoWide = .ok [(0, 0)] := by
  refine decodeFrom_eq_ok.2 ⟨_, reads_demoWide, by decide, ⟨by decide, by decide, trivial⟩, ?_⟩
  refine points_cons_eq_some.2 ⟨0, by decide, 0, by decide, [], rfl, ?_⟩
  simp [degrees]

/-- **A number of 65 bits is accepted**, and what is returned is on no reading what the bytes say. -/
theorem decode_not_exact : decodePolyline6 demoWide = .ok [(0, 0)] ∧
    ∀ reading, ¬ Exact reading demoWide [(0, 0)] := by
  refine ⟨decode_demoWide, fun reading h => ?_⟩
  obtain ⟨comps, hreads, hexact⟩ := h
  obtain rfl := reads_demoWide.unique hreads
  obtain ⟨comps', hreads', _, _, hpoints⟩ := decodeFrom_eq_ok.1 decode_demoWide
  obtain rfl := reads_demoWide.unique hreads'
  have hvalue := points_inj hexact hpoints _ (List.mem_cons_self ..)
  rw [value_demoWide, value_eq_word_iff reading (by norm_num)] at hvalue
  cases reading with
  | unbounded => exact absurd hvalue (by decide)
  | word => exact absurd hvalue (by decide)

end Maps
end SentinelMesh
