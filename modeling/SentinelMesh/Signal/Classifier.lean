/-
# What a text is classified as

`classify_event` of `nlp/classifier.py`.  Of each type of event the keywords are counted that occur
in the text and are not taken back (`Suppression`); the type with the most of them wins, and the
count makes the confidence, which is cut at `CONFIDENCE_CAP`.

Three keywords would be full confidence, but the cap leaves two steps: a text with one keyword of a
type has 0.333, and one with two or more has 0.6 (`confidence_eq`).  So the gate of the feeds and of
the stream, at 0.3, lets every keyword pass, and that of the radio, at 0.4, asks for two keywords of
one type (`classify_gates`).
-/

import SentinelMesh.Lib.Decimal
import SentinelMesh.Signal.Suppression
import Mathlib.Data.List.MinMax

namespace SentinelMesh
namespace Signal

open Lib

/-- `ClassificationResult`. -/
structure ClassificationResult where
  event_type : String
  confidence : ℚ

/-- What Python makes of a text: `str.lower` and `\w`. -/
structure TextTools where
  lower : String → String
  isWord : Char → Bool

namespace Classifier

/-- `CONFIDENCE_CAP`. -/
def confidenceCap : ℚ := 6 / 10

/-- `_KEYWORDS`. -/
def keywords : List (String × List String) :=
  [("FLOOD",
     ["flood", "flooding", "mafuriko", "inundation", "submerged", "overflow", "river burst",
      "imefurika", "water level", "flash flood"]),
   ("TRAFFIC_INCIDENT",
     ["accident", "ajali", "crash", "collision", "matatu", "lorry", "msongamano", "congestion",
      "road block", "traffic", "barabara", "blocked", "overturned", "pileup"]),
   ("CIVIL_UNREST",
     ["protest", "maandamano", "demonstration", "riot", "teargas", "police", "polisi", "dispersed",
      "chaos", "clashes", "agitation", "strike", "mgomo"]),
   ("SECURITY_INCIDENT",
     ["robbery", "armed", "shooting", "gunshot", "carjacking", "mugging", "abduction", "kidnap",
      "terror", "bomb", "explosion", "wezi", "bunduki", "hijack"]),
   ("FIRE",
     ["fire", "moto", "blaze", "inferno", "burning", "smoke", "flames", "inachoma", "arson",
      "gutted"]),
   ("MEDICAL_EMERGENCY",
     ["ambulance", "hospital", "emergency", "injured", "casualty", "dead", "killed", "wounded",
      "hospitalized", "death toll"]),
   ("INFRASTRUCTURE_FAILURE",
     ["power outage", "blackout", "umeme", "electricity", "water shortage", "bridge", "collapse",
      "kenya power", "kplc", "no water"])]

/-- `_DEFAULT`. -/
def default : String := "FALSE_ALARM"

/-- `kw in text`. -/
def isIn (kw text : String) : Bool := decide (kw.toList <:+: text.toList)

variable (tools : TextTools)

/-- `_is_suppressed`, in as many turns as it can take. -/
def isSuppressed (text_lower keyword : String) : Bool :=
  (Suppression.isSuppressedFrom tools.isWord text_lower.toList keyword.toList
    (text_lower.toList.length + 1) 0 0 0).getD false

/-- The keywords of a type that count. -/
def hits (text_lower : String) (kws : List String) : ℕ :=
  kws.countP fun kw => isIn kw text_lower && !isSuppressed tools text_lower kw

/-- `scores`. -/
def scores (text_lower : String) : List (String × ℚ) :=
  keywords.filterMap fun k =>
    if 0 < hits tools text_lower k.2 then some (k.1, min (hits tools text_lower k.2 / 3) 1) else none

/-- `round(x, 3)`. -/
def roundThree (x : ℚ) : ℚ := roundHalfEven (x * 1000) / 1000

/-- `classify_event`. -/
def classifyEvent (text : String) : ClassificationResult :=
  match (scores tools (tools.lower text)).argmax Prod.snd with
  | none => { event_type := default, confidence := 1 / 10 }
  | some (best_type, score) =>
    { event_type := best_type, confidence := roundThree (min score confidenceCap) }

/-! ### The keywords that count -/

/-- The confidence that a number of keywords of one type makes. -/
def confidenceOf : ℕ → ℚ
  | 0 => 1 / 10
  | 1 => 333 / 1000
  | _ + 2 => 6 / 10

/-- **Two steps are left of the scale.**  A third is rounded to three digits, and from two thirds on
the cap cuts. -/
theorem roundThree_score {n : ℕ} (h : 0 < n) :
    roundThree (min (min ((n : ℚ) / 3) 1) confidenceCap) = confidenceOf n := by
  match n with
  | 1 => decide +kernel
  | n + 2 =>
    have hcapped : confidenceCap ≤ min (((n + 2 : ℕ) : ℚ) / 3) 1 := by
      refine le_min ?_ (by norm_num [confidenceCap])
      have hn : (0 : ℚ) ≤ n := Nat.cast_nonneg n
      rw [Nat.cast_add, Nat.cast_ofNat, confidenceCap]
      linarith
    rw [min_eq_right hcapped, confidenceOf]
    decide +kernel

theorem mem_scores {text_lower : String} {s : String × ℚ} :
    s ∈ scores tools text_lower ↔ ∃ k ∈ keywords, 0 < hits tools text_lower k.2 ∧
      s = (k.1, min ((hits tools text_lower k.2 : ℚ) / 3) 1) := by
  unfold scores
  rw [List.mem_filterMap]
  refine exists_congr fun k => and_congr_right fun _ => ?_
  split_ifs with hpos
  · rw [Option.some.injEq, eq_comm]
    exact (and_iff_right hpos).symm
  · exact iff_of_false (fun h => nomatch h) fun h => hpos h.1

/-- **What a text is classified as.**  Where no keyword counts it is a false alarm, with 0.1.
Otherwise it is of a type that has a keyword which counts, and of no other type do more count, as
long as three are not reached; the number of them makes the confidence. -/
theorem classifyEvent_spec (text : String) :
    ((∀ k ∈ keywords, hits tools (tools.lower text) k.2 = 0) ∧
        classifyEvent tools text = { event_type := default, confidence := 1 / 10 }) ∨
      ∃ k ∈ keywords, 0 < hits tools (tools.lower text) k.2 ∧
        (∀ k' ∈ keywords, min (hits tools (tools.lower text) k'.2) 3 ≤
          hits tools (tools.lower text) k.2) ∧
        classifyEvent tools text =
          { event_type := k.1, confidence := confidenceOf (hits tools (tools.lower text) k.2) } := by
  unfold classifyEvent
  cases hbest : (scores tools (tools.lower text)).argmax Prod.snd with
  | none =>
    left
    refine ⟨fun k hk => ?_, rfl⟩
    rw [List.argmax_eq_none, List.eq_nil_iff_forall_not_mem] at hbest
    by_contra hne
    exact hbest _ ((mem_scores tools).2 ⟨k, hk, Nat.pos_of_ne_zero hne, rfl⟩)
  | some best =>
    right
    obtain ⟨k, hk, hpos, rfl⟩ := (mem_scores tools).1 (List.argmax_mem hbest)
    refine ⟨k, hk, hpos, fun k' hk' => ?_, ?_⟩
    · rcases Nat.eq_zero_or_pos (hits tools (tools.lower text) k'.2) with hzero | hpos'
      · rw [hzero]
        exact Nat.zero_le _
      · have hle := List.le_of_mem_argmax ((mem_scores tools).2 ⟨k', hk', hpos', rfl⟩) hbest
        dsimp only at hle
        have hscore := hle.trans (min_le_left _ _)
        rcases le_total (hits tools (tools.lower text) k'.2) 3 with hfew | hmany
        · have hfew' : ((hits tools (tools.lower text) k'.2 : ℕ) : ℚ) / 3 ≤ 1 := by
            rw [div_le_one (by norm_num)]
            exact_mod_cast hfew
          rw [min_eq_left hfew', div_le_div_iff_of_pos_right (by norm_num), Nat.cast_le] at hscore
          rwa [min_eq_left hfew]
        · have hmany' : 1 ≤ ((hits tools (tools.lower text) k'.2 : ℕ) : ℚ) / 3 := by
            rw [one_le_div (by norm_num)]
            exact_mod_cast hmany
          rw [min_eq_right hmany', one_le_div (by norm_num)] at hscore
          rw [min_eq_right hmany]
          exact_mod_cast hscore
    · dsimp only
      rw [roundThree_score hpos]

/-- No type of the table is the false alarm. -/
theorem ne_default : ∀ k ∈ keywords, k.1 ≠ default := by decide

theorem confidenceOf_gates {n : ℕ} (h : 0 < n) :
    confidenceOf n ≤ confidenceCap ∧ 3 / 10 ≤ confidenceOf n ∧ (4 / 10 ≤ confidenceOf n ↔ 2 ≤ n) := by
  match n with
  | 1 => norm_num [confidenceOf, confidenceCap]
  | n + 2 => norm_num [confidenceOf, confidenceCap]

/-- **What the gates of the producers let pass.**  The confidence is never above the cap.  The gate of
the feeds and of the stream, at 0.3, lets a text pass exactly if a keyword counts, and then it is no
false alarm; the gate of the radio, at 0.4, exactly if two keywords of one type count. -/
theorem classify_gates (text : String) :
    (classifyEvent tools text).confidence ≤ confidenceCap ∧
      (3 / 10 ≤ (classifyEvent tools text).confidence ↔
        ∃ k ∈ keywords, 1 ≤ hits tools (tools.lower text) k.2) ∧
      ((classifyEvent tools text).event_type = default ↔
        ∀ k ∈ keywords, hits tools (tools.lower text) k.2 = 0) ∧
      (4 / 10 ≤ (classifyEvent tools text).confidence ↔
        ∃ k ∈ keywords, 2 ≤ hits tools (tools.lower text) k.2) := by
  rcases classifyEvent_spec tools text with ⟨hnone, hresult⟩ | ⟨k, hk, hpos, hmost, hresult⟩
  · have hfew : ∀ n > 0, ¬ ∃ k ∈ keywords, n ≤ hits tools (tools.lower text) k.2 := by
      rintro n hn ⟨k, hk, hle⟩
      rw [hnone k hk] at hle
      omega
    rw [hresult]
    refine ⟨by norm_num [confidenceCap], iff_of_false (by norm_num) (hfew 1 (by omega)),
      iff_of_true rfl hnone, iff_of_false (by norm_num) (hfew 2 (by omega))⟩
  · obtain ⟨hcap, hlow, hhigh⟩ := confidenceOf_gates hpos
    rw [hresult]
    refine ⟨hcap, iff_of_true hlow ⟨k, hk, hpos⟩, iff_of_false (ne_default k hk) fun hnone => ?_,
      hhigh.trans ⟨fun h => ⟨k, hk, h⟩, ?_⟩⟩
    · exact hpos.ne' (hnone k hk)
    · rintro ⟨k', hk', hle⟩
      have hmost' := hmost k' hk'
      omega

end Classifier
end Signal
end SentinelMesh
