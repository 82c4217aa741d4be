/-
# Where a text is

`extract_locations` of `nlp/location_extractor.py`, over the map of `gazetteer/loader.py`.  The names
of places are those that spaCy takes for places and the gazetteer knows, and those of the gazetteer
that are in the text; at most three places are returned, the surer ones first.

Which entities spaCy finds is a parameter.  Whatever they are, a place comes from the gazetteer, with
its coordinates (`extractLocations_spec`), and a text with a name of the gazetteer in it has one, so
that it passes the gate that asks for a location with coordinates (`located_of_name`).
-/

import SentinelMesh.Signal.Classifier
import SentinelMesh.Signal.Event
import Mathlib.Data.List.Sort

namespace SentinelMesh
namespace Signal

/-- What Python and spaCy make of a text. -/
structure LocationTools extends TextTools where
  /-- `str.strip`. -/
  strip : String → String
  /-- The texts of the entities of spaCy that are labelled `GPE`, `LOC` or `FAC`. -/
  entities : String → List String

namespace Locations

open Classifier (isIn)

/-- An entry of `kenya_places.json`. -/
structure GazetteerEntry where
  lat : ℚ
  lng : ℚ
  county : String
  type : String
  aliases : List String

/-- `kenya_places.json`. -/
def kenyaPlaces : List (String × GazetteerEntry) :=
  [("nairobi", ⟨-12921 / 10000, 368219 / 10000, "Nairobi", "city",
     ["nai", "the city", "CBD", "jiji", "nairobi city"]⟩),
   ("mombasa", ⟨-40435 / 10000, 396682 / 10000, "Mombasa", "city", ["msa", "the coast"]⟩),
   ("kisumu", ⟨-917 / 10000, 347680 / 10000, "Kisumu", "city", ["ksm"]⟩),
   ("nakuru", ⟨-3031 / 10000, 360800 / 10000, "Nakuru", "city", []⟩),
   ("eldoret", ⟨5143 / 10000, 352698 / 10000, "Uasin Gishu", "city", ["eld", "30 arap moi"]⟩),
   ("thika", ⟨-10332 / 10000, 370693 / 10000, "Kiambu", "town", []⟩),
   ("mathare", ⟨-12572 / 10000, 368572 / 10000, "Nairobi", "informal_settlement",
     ["mathare valley", "mathare north"]⟩),
   ("kibera", ⟨-13135 / 10000, 367845 / 10000, "Nairobi", "informal_settlement", ["kibra"]⟩),
   ("westlands", ⟨-12642 / 10000, 368018 / 10000, "Nairobi", "estate", ["westy", "west lands"]⟩),
   ("karen", ⟨-13197 / 10000, 367058 / 10000, "Nairobi", "estate", []⟩),
   ("langata", ⟨-13490 / 10000, 367360 / 10000, "Nairobi", "area", ["lang'ata"]⟩),
   ("kasarani", ⟨-12199 / 10000, 368972 / 10000, "Nairobi", "area", ["mwiki"]⟩),
   ("embakasi", ⟨-13161 / 10000, 368929 / 10000, "Nairobi", "area", []⟩),
   ("eastleigh", ⟨-12750 / 10000, 368450 / 10000, "Nairobi", "area", ["little mogadishu"]⟩),
   ("huruma", ⟨-12480 / 10000, 368580 / 10000, "Nairobi", "area", []⟩),
   ("kariobangi", ⟨-12519 / 10000, 368769 / 10000, "Nairobi", "area",
     ["kariobangi north", "kariobangi south"]⟩),
   ("kayole", ⟨-12885 / 10000, 369070 / 10000, "Nairobi", "area", []⟩),
   ("juja", ⟨-11031 / 10000, 370141 / 10000, "Kiambu", "town", []⟩),
   ("kiambu", ⟨-11711 / 10000, 368356 / 10000, "Kiambu", "town", []⟩),
   ("ruiru", ⟨-11467 / 10000, 369609 / 10000, "Kiambu", "town", []⟩),
   ("athi_river", ⟨-14574 / 10000, 369769 / 10000, "Machakos", "town", ["athi river", "mavoko"]⟩),
   ("machakos", ⟨-15177 / 10000, 372634 / 10000, "Machakos", "town", []⟩),
   ("kitui", ⟨-13669 / 10000, 380106 / 10000, "Kitui", "town", []⟩),
   ("meru", ⟨472 / 10000, 376491 / 10000, "Meru", "town", []⟩),
   ("nyeri", ⟨-4165 / 10000, 369508 / 10000, "Nyeri", "town", []⟩),
   ("embu", ⟨-5357 / 10000, 374584 / 10000, "Embu", "town", []⟩),
   ("garissa", ⟨-4532 / 10000, 396461 / 10000, "Garissa", "town", []⟩),
   ("kakamega", ⟨2827 / 10000, 347519 / 10000, "Kakamega", "town", []⟩),
   ("bungoma", ⟨5635 / 10000, 345606 / 10000, "Bungoma", "town", []⟩),
   ("kericho", ⟨-3686 / 10000, 352863 / 10000, "Kericho", "town", []⟩),
   ("bomet", ⟨-7812 / 10000, 353410 / 10000, "Bomet", "town", []⟩),
   ("narok", ⟨-10872 / 10000, 358704 / 10000, "Narok", "town", []⟩),
   ("kajiado", ⟨-18516 / 10000, 367766 / 10000, "Kajiado", "town", []⟩),
   ("ngong", ⟨-13584 / 10000, 366572 / 10000, "Kajiado", "town", []⟩),
   ("isiolo", ⟨3544 / 10000, 375820 / 10000, "Isiolo", "town", []⟩),
   ("malindi", ⟨-32138 / 10000, 401169 / 10000, "Kilifi", "town", []⟩),
   ("kilifi", ⟨-35103 / 10000, 398499 / 10000, "Kilifi", "town", []⟩),
   ("kwale", ⟨-41728 / 10000, 394520 / 10000, "Kwale", "town", []⟩),
   ("uhuru_highway", ⟨-12921 / 10000, 368160 / 10000, "Nairobi", "road",
     ["uhuru hwy", "uhuru highway"]⟩),
   ("mombasa_road", ⟨-13200 / 10000, 368700 / 10000, "Nairobi", "road",
     ["mombasa rd", "enterprise road"]⟩),
   ("thika_road", ⟨-12000 / 10000, 368700 / 10000, "Nairobi", "road",
     ["thika superhighway", "thika hwy"]⟩),
   ("waiyaki_way", ⟨-12642 / 10000, 367900 / 10000, "Nairobi", "road",
     ["waiyaki", "westlands road"]⟩),
   ("jkia", ⟨-13192 / 10000, 369275 / 10000, "Nairobi", "landmark",
     ["jomo kenyatta airport", "nairobi airport", "nbo"]⟩),
   ("westgate", ⟨-12625 / 10000, 368030 / 10000, "Nairobi", "landmark",
     ["westgate mall", "westgate shopping"]⟩),
   ("kenyatta_hospital", ⟨-13009 / 10000, 368072 / 10000, "Nairobi", "landmark",
     ["KNH", "knh", "kenyatta national hospital"]⟩),
   ("kicc", ⟨-12864 / 10000, 368222 / 10000, "Nairobi", "landmark",
     ["kenyatta international convention centre"]⟩),
   ("parliament", ⟨-12896 / 10000, 368192 / 10000, "Nairobi", "landmark",
     ["parliament buildings", "parliament road"]⟩),
   ("gikomba", ⟨-12841 / 10000, 368497 / 10000, "Nairobi", "market", ["gikomba market"]⟩),
   ("ngara", ⟨-12740 / 10000, 368300 / 10000, "Nairobi", "area", []⟩),
   ("pangani", ⟨-12660 / 10000, 368390 / 10000, "Nairobi", "area", []⟩),
   ("buru_buru", ⟨-12837 / 10000, 368762 / 10000, "Nairobi", "estate", ["buruburu", "buru buru"]⟩),
   ("donholm", ⟨-12920 / 10000, 368860 / 10000, "Nairobi", "estate", []⟩),
   ("pipeline", ⟨-13135 / 10000, 368900 / 10000, "Nairobi", "area", ["pipeline estate"]⟩),
   ("south_b", ⟨-13050 / 10000, 368300 / 10000, "Nairobi", "estate", ["south b"]⟩),
   ("south_c", ⟨-13115 / 10000, 368250 / 10000, "Nairobi", "estate", ["south c"]⟩),
   ("lavington", ⟨-12830 / 10000, 367770 / 10000, "Nairobi", "estate", []⟩),
   ("kilimani", ⟨-12900 / 10000, 367850 / 10000, "Nairobi", "estate", []⟩),
   ("upperhill", ⟨-12970 / 10000, 368120 / 10000, "Nairobi", "area", ["upper hill"]⟩),
   ("cbd", ⟨-12833 / 10000, 368172 / 10000, "Nairobi", "area",
     ["city centre", "town", "nairobi cbd"]⟩),
   ("parklands", ⟨-12570 / 10000, 368090 / 10000, "Nairobi", "estate", []⟩),
   ("ruaraka", ⟨-12350 / 10000, 368750 / 10000, "Nairobi", "area", []⟩)]

/-- The record of a place, without the confidence it is found with. -/
def GazetteerEntry.record (name : String) (entry : GazetteerEntry) (confidence : ℚ) : Place :=
  { lat := some entry.lat
    lng := some entry.lng
    county := some entry.county
    type := some entry.type
    aliases := entry.aliases
    place_name := some name
    confidence }

variable (tools : LocationTools)

/-- The assignments of `_load` to `_alias_map`, in their order. -/
def aliasMap : List (String × String × GazetteerEntry) :=
  kenyaPlaces.flatMap fun p =>
    (tools.lower p.1, p) :: p.2.aliases.map fun name => (tools.lower name, p)

/-- `lookup_place`: the last assignment counts. -/
def lookupPlace (text : String) : Option (String × GazetteerEntry) :=
  ((aliasMap tools).reverse.find? fun a =>
    decide (a.1 = tools.lower (tools.strip text))).map Prod.snd

/-- `list_aliases`: the keys of a dictionary are in the order of their first assignment. -/
def listAliases : List String := ((aliasMap tools).map Prod.fst).eraseDups

/-- `_all_aliases`, the longest first. -/
def allAliases : List String :=
  (listAliases tools).insertionSort fun a b => b.length ≤ a.length

/-- A place is found, unless it was found before. -/
def find (confidence : ℚ) (found : List Place) : Option (String × GazetteerEntry) → List Place
  | none => found
  | some (name, entry) =>
    if found.any fun p => decide (p.place_name = some name) then found
    else found ++ [entry.record name confidence]

/-- The places of both strategies: by the entities of spaCy, and by the names in the text. -/
def found (text : String) : List Place :=
  let byEntity := (tools.entities text).foldl (fun found ent =>
    find (85 / 100) found (lookupPlace tools ent)) []
  ((allAliases tools).filter fun name => isIn name (tools.lower text)).foldl (fun found name =>
    find (65 / 100) found (lookupPlace tools name)) byEntity

/-- `extract_locations`. -/
def extractLocations (text : String) : List Place :=
  ((found tools text).insertionSort fun p q => q.confidence ≤ p.confidence).take 3

/-! ### What is found -/

variable {tools} {found : List Place}

/-- What is looked up is in the gazetteer. -/
theorem mem_of_lookupPlace {text : String} {p : String × GazetteerEntry}
    (h : lookupPlace tools text = some p) : p ∈ kenyaPlaces := by
  obtain ⟨a, ha, rfl⟩ := Option.map_eq_some_iff.1 h
  have hmem := List.mem_of_find?_eq_some ha
  rw [List.mem_reverse, aliasMap, List.mem_flatMap] at hmem
  obtain ⟨p, hp, hmem⟩ := hmem
  rcases List.mem_cons.1 hmem with rfl | hmem
  · exact hp
  · obtain ⟨_, _, rfl⟩ := List.mem_map.1 hmem
    exact hp

/-- A place of the gazetteer, with the confidence of one of the strategies. -/
def OfGazetteer (p : Place) : Prop :=
  ∃ name entry, (name, entry) ∈ kenyaPlaces ∧
    (p = entry.record name (85 / 100) ∨ p = entry.record name (65 / 100))

/-- The places that are found are of the gazetteer, and none is found twice. -/
structure Sound (found : List Place) : Prop where
  ofGazetteer : ∀ p ∈ found, OfGazetteer p
  distinct : found.Pairwise fun p q => p.place_name ≠ q.place_name

/-- **One name more** keeps what is found sound. -/
theorem Sound.find (h : Sound found) {confidence : ℚ}
    (hconfidence : confidence = 85 / 100 ∨ confidence = 65 / 100) (text : String) :
    Sound (find confidence found (lookupPlace tools text)) := by
  unfold Locations.find
  split
  · exact h
  · rename_i name entry hlookup
    split_ifs with hany
    · exact h
    · constructor
      · intro p hp
        rcases List.mem_append.1 hp with hp | hp
        · exact h.ofGazetteer p hp
        · obtain rfl := List.mem_singleton.1 hp
          refine ⟨name, entry, mem_of_lookupPlace hlookup, ?_⟩
          rcases hconfidence with rfl | rfl
          · exact Or.inl rfl
          · exact Or.inr rfl
      · refine List.pairwise_append.2 ⟨h.distinct, List.pairwise_singleton _ _, fun p hp q hq hpq => ?_⟩
        obtain rfl := List.mem_singleton.1 hq
        exact hany (List.any_eq_true.2 ⟨p, hp, decide_eq_true hpq⟩)

/-- So do any names. -/
theorem Sound.foldl (h : Sound found) {confidence : ℚ}
    (hconfidence : confidence = 85 / 100 ∨ confidence = 65 / 100) (texts : List String) :
    Sound (texts.foldl (fun found text => Locations.find confidence found (lookupPlace tools text))
      found) := by
  induction texts generalizing found with
  | nil => exact h
  | cons text texts ih => exact ih (h.find hconfidence text)

theorem sound_found (tools : LocationTools) (text : String) : Sound (Locations.found tools text) := by
  have hnone : Sound [] := ⟨fun p hp => (nomatch hp), List.Pairwise.nil⟩
  exact (hnone.foldl (Or.inl rfl) (tools.entities text)).foldl (Or.inr rfl) _

/-- Nothing is found by names that are not in the gazetteer, and something by one that is. -/
theorem foldl_find_eq_nil {confidence : ℚ} {texts : List String} :
    texts.foldl (fun found text => find confidence found (lookupPlace tools text)) found = [] ↔
      found = [] ∧ ∀ text ∈ texts, lookupPlace tools text = none := by
  induction texts generalizing found with
  | nil => simp
  | cons text texts ih =>
    rw [List.foldl_cons, ih, List.forall_mem_cons, ← and_assoc]
    refine and_congr_left fun _ => ?_
    unfold find
    cases lookupPlace tools text with
    | none => simp
    | some p =>
      dsimp only
      split_ifs with hany
      · refine iff_of_false (fun h => ?_) (fun h => nomatch h.2)
        subst h
        cases hany
      · exact iff_of_false (List.append_ne_nil_of_right_ne_nil _ (List.cons_ne_nil _ _))
          fun h => nomatch h.2

/-- **What is extracted of a text**: at most three places of the gazetteer, with their coordinates,
none twice and the surer ones first; and none at all exactly if the gazetteer knows no entity of
the text and no name that is in it. -/
theorem extractLocations_spec (tools : LocationTools) (text : String) :
    (∀ p ∈ extractLocations tools text, OfGazetteer p) ∧
      ((extractLocations tools text).Pairwise fun p q => p.place_name ≠ q.place_name) ∧
      ((extractLocations tools text).Pairwise fun p q => q.confidence ≤ p.confidence) ∧
      (extractLocations tools text).length ≤ 3 ∧
      (extractLocations tools text = [] ↔
        (∀ ent ∈ tools.entities text, lookupPlace tools ent = none) ∧
          ∀ name ∈ listAliases tools, isIn name (tools.lower text) = true →
            lookupPlace tools name = none) := by
  have hsound := sound_found tools text
  have hperm := List.perm_insertionSort (fun p q : Place => q.confidence ≤ p.confidence)
    (Locations.found tools text)
  refine ⟨fun p hp => ?_, ?_, ?_, List.length_take_le _ _, ?_⟩
  · exact hsound.ofGazetteer p (hperm.mem_iff.1 (List.mem_of_mem_take hp))
  · refine List.Pairwise.sublist (List.take_sublist _ _) ?_
    exact (hperm.pairwise_iff fun hpq => Ne.symm hpq).2 hsound.distinct
  · have : Std.Total fun p q : Place => q.confidence ≤ p.confidence := ⟨fun _ _ => le_total _ _⟩
    have : IsTrans Place fun p q => q.confidence ≤ p.confidence := ⟨fun _ _ _ h h' => h'.trans h⟩
    exact (List.pairwise_insertionSort _ _).sublist (List.take_sublist _ _)
  · unfold extractLocations
    rw [List.take_eq_nil_iff, or_iff_right (by decide), ← List.length_eq_zero_iff,
      List.length_insertionSort, List.length_eq_zero_iff, Locations.found, foldl_find_eq_nil,
      foldl_find_eq_nil, and_iff_right rfl]
    refine and_congr_right fun _ => forall_congr' fun name => ?_
    rw [List.mem_filter, allAliases, List.mem_insertionSort, and_imp]

/-- **A text in which a name is known has a place** with coordinates. -/
theorem located_of_name {tools : LocationTools} {text name : String} (hname : name ∈ listAliases tools)
    (hin : isIn name (tools.lower text) = true) (hknown : lookupPlace tools name ≠ none) :
    ∃ location rest lat lng, extractLocations tools text = location :: rest ∧
      location.lat = some lat ∧ location.lng = some lng := by
  obtain ⟨hgazetteer, -, -, -, hnil⟩ := extractLocations_spec tools text
  cases hplaces : extractLocations tools text with
  | nil => exact absurd ((hnil.1 hplaces).2 name hname hin) hknown
  | cons location rest =>
    obtain ⟨_, entry, -, h | h⟩ := hgazetteer location (hplaces ▸ List.mem_cons_self)
    · exact ⟨location, rest, entry.lat, entry.lng, rfl, h ▸ rfl, h ▸ rfl⟩
    · exact ⟨location, rest, entry.lat, entry.lng, rfl, h ▸ rfl, h ▸ rfl⟩

end Locations
end Signal
end SentinelMesh
