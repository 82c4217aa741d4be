/-
# What a signature is bound to

`report_binding_content` of `routes/reports.rs` and `reportBindingContent` of the
PWA's `nostrService.ts`, and the four kinds of signed content together.

The content of a signed event is recomputed by the gateway from the submitted
fields, so the two sides must print a coordinate alike.  They use formatters that
treat ties and negative zero differently (`Lib.Double`), and
`Pwa.reportBindingContent_eq_iff` says on which coordinates that shows.

A content must also say only one thing.  A description is free text and comes
last, after fields that hold no separator; `SignedAction.content_eq_iff` is that
equal contents of any two of the four kinds mean the same.
-/

import SentinelMesh.Lib.Double
import SentinelMesh.Routes.Reports
import SentinelMesh.Routes.Vouches
import Mathlib.Data.List.Basic
import Mathlib.Tactic.NormNum

namespace SentinelMesh

open Lib

namespace Pwa

/-- `reportBindingContent` of `nostrService.ts`. -/
def reportBindingContent (numberToString : ℚ → String) (reportType : String) (lat lng : Double)
    (description : Option String) : String :=
  "r1|" ++ reportType ++ "|" ++ lat.toFixed numberToString 6 ++ "|"
    ++ lng.toFixed numberToString 6 ++ "|" ++ description.getD ""

end Pwa

namespace Ledger

/-- `VALID_REPORT_TYPES`. -/
def validReportTypes : List String :=
  ["ROAD_BLOCKED", "FLOODING", "SECURITY_INCIDENT", "FIRE", "PROTEST_MARCH", "ACCIDENT",
    "INFRASTRUCTURE", "ALL_CLEAR", "OTHER"]

/-- The range check of `post_report`. -/
def inRange (lat lng : Double) : Bool :=
  decide (-90 ≤ lat.value) && decide (lat.value ≤ 90)
    && (decide (-180 ≤ lng.value) && decide (lng.value ≤ 180))

/-- `report_binding_content`. -/
def reportBindingContent (report_type : String) (lat lng : Double) (description : Option String) :
    String :=
  "r1|" ++ report_type ++ "|" ++ lat.format 6 ++ "|" ++ lng.format 6 ++ "|" ++ description.getD ""

/-- Fields that hold no separator can be told apart from what follows them. -/
theorem field_inj {s s' t t' : String} (hs : '|' ∉ s.toList) (hs' : '|' ∉ s'.toList) :
    s ++ ("|" ++ t) = s' ++ ("|" ++ t') ↔ s = s' ∧ t = t' :=
  SentinelMesh.field_inj hs hs'

/-- A printed number holds no separator. -/
theorem separator_notMem_signedText (b : Bool) (f n : ℕ) :
    '|' ∉ (signedText b (fixedText f n)).toList := by
  intro h
  rcases mem_signedText h with h | h | h
  · exact absurd h (by decide)
  · exact absurd h (by decide)
  · exact absurd h (by decide)

theorem separator_notMem_format (x : Double) (f : ℕ) : '|' ∉ (x.format f).toList :=
  separator_notMem_signedText _ _ _

/-- No report type holds the separator. -/
theorem separator_notMem_type {t : String} (h : t ∈ validReportTypes) : '|' ∉ t.toList := by
  have hall : ∀ t ∈ validReportTypes, '|' ∉ t.toList := by decide
  exact hall t h

/-- A coordinate in range is far below what `toFixed` prints otherwise. -/
theorem magnitude_lt_of_inRange {lat lng : Double} (h : inRange lat lng = true) :
    lat.magnitude < 10 ^ 21 ∧ lng.magnitude < 10 ^ 21 := by
  unfold inRange at h
  simp only [Bool.and_eq_true, decide_eq_true_eq] at h
  obtain ⟨⟨h₁, h₂⟩, h₃, h₄⟩ := h
  have hbound : ∀ (x : Double), -180 ≤ x.value → x.value ≤ 180 → x.magnitude < 10 ^ 21 := by
    intro x hlo hhi
    unfold Double.value at hlo hhi
    cases hneg : x.negative with
    | false =>
        rw [hneg, if_neg (by decide)] at hhi
        linarith
    | true =>
        rw [hneg, if_pos rfl] at hlo
        linarith
  exact ⟨hbound lat (by linarith) (by linarith), hbound lng h₃ h₄⟩

end Ledger

namespace Pwa

/-- The coordinates that both formatters print alike: neither negative zero nor
of magnitude `m / 128` with `m` equal to `1` modulo `4`. -/
def PrintsAlike (x : Double) : Prop :=
  x.isNegZero = false ∧ ∀ k : ℕ, x.magnitude ≠ (4 * k + 1) / 128

/-- **Client and gateway compute one binding** for coordinates in range exactly
when both coordinates print alike. -/
theorem reportBindingContent_eq_iff (numberToString : ℚ → String) (report_type : String)
    {lat lng : Double} (description : Option String) (hrange : Ledger.inRange lat lng = true) :
    reportBindingContent numberToString report_type lat lng description =
        Ledger.reportBindingContent report_type lat lng description ↔
      PrintsAlike lat ∧ PrintsAlike lng := by
  obtain ⟨hlat, hlng⟩ := Ledger.magnitude_lt_of_inRange hrange
  have hlat' := Double.toFixed_eq_format_iff numberToString 6 hlat
  have hlng' := Double.toFixed_eq_format_iff numberToString 6 hlng
  have h128 : (2 : ℚ) ^ (6 + 1) = 128 := by norm_num
  rw [h128] at hlat' hlng'
  unfold PrintsAlike
  rw [← hlat', ← hlng']
  unfold reportBindingContent Ledger.reportBindingContent
  simp only [String.append_assoc, String.append_right_inj]
  -- both sides print numbers, so the separators fall in the same places
  have hnumber : ∀ x : Double, x.magnitude < 10 ^ 21 →
      '|' ∉ (x.toFixed numberToString 6).toList := by
    intro x hx
    unfold Double.toFixed
    rw [if_neg hx.not_ge]
    exact Ledger.separator_notMem_signedText _ _ _
  rw [Ledger.field_inj (hnumber lat hlat) (Ledger.separator_notMem_format lat 6),
    Ledger.field_inj (hnumber lng hlng) (Ledger.separator_notMem_format lng 6)]
  simp

/-- One half, which prints alike. -/
def half : Double := ⟨false, 2 ^ 52, -53, by decide, by decide, by decide, by decide⟩

/-- `1 / 128 = 0.0078125`, a tie above `0.007812`. -/
def tie : Double := ⟨false, 2 ^ 52, -59, by decide, by decide, by decide, by decide⟩

theorem printsAlike_half : PrintsAlike half := by
  refine ⟨by decide, fun k hk => ?_⟩
  have hhalf : half.magnitude = 1 / 2 := by decide +kernel
  rw [hhalf, div_eq_div_iff (by norm_num) (by norm_num)] at hk
  norm_cast at hk
  omega

/-- At one half both sides compute one binding. -/
theorem reportBindingContent_half :
    reportBindingContent (fun _ => "") "FIRE" half half none =
      Ledger.reportBindingContent "FIRE" half half none :=
  (reportBindingContent_eq_iff (fun _ => "") "FIRE" none (by decide +kernel)).2
    ⟨printsAlike_half, printsAlike_half⟩

/-- **A report at a tie** is bound to one text by the client and to another by
the gateway. -/
theorem reportBindingContent_tie :
    Ledger.inRange tie half = true ∧
      reportBindingContent (fun _ => "") "FIRE" tie half none =
        "r1|FIRE|0.007813|0.500000|" ∧
      Ledger.reportBindingContent "FIRE" tie half none = "r1|FIRE|0.007812|0.500000|" := by
  refine ⟨?_, ?_, ?_⟩ <;> decide +kernel

end Pwa

namespace Ledger

/-- What a signed event of one of the four kinds is for. -/
inductive SignedAction
  | report (report_type : String) (lat lng : Double) (description : Option String)
  | vote (choice : String) (report_id : Uuid)
  | vouch (vouchee : Pubkey)
  | revocation (vouchee : Pubkey)

/-- A coordinate to six decimals. -/
structure SixDecimals where
  negative : Bool
  millionths : ℕ
  deriving DecidableEq

/-- What a content stands for: the fields it was made from, coordinates to six
decimals, no description as the empty one. -/
inductive SignedMeaning
  | report (report_type : String) (lat lng : SixDecimals) (description : String)
  | vote (choice : String) (report_id : Uuid)
  | vouch (vouchee : Pubkey)
  | revocation (vouchee : Pubkey)
  deriving DecidableEq

/-- The six decimals of a coordinate. -/
def sixDecimals (x : Double) : SixDecimals :=
  ⟨x.negative, (roundHalfEven (x.magnitude * 10 ^ 6)).toNat⟩

namespace SignedAction

/-- The content the route recomputes. -/
def content : SignedAction → String
  | report report_type lat lng description => reportBindingContent report_type lat lng description
  | vote choice report_id => voteBindingContent choice report_id
  | vouch vouchee => vouchBindingContent vouchee
  | revocation vouchee => vouchRevokeBindingContent vouchee

/-- What the route checks of the fields before it recomputes the content. -/
def accepted : SignedAction → Bool
  | report report_type lat lng _ => decide (report_type ∈ validReportTypes) && inRange lat lng
  | vote choice _ => (VoteChoice.ofText? choice).isSome
  | vouch vouchee => isHex64 vouchee
  | revocation _ => true

def meaning : SignedAction → SignedMeaning
  | report report_type lat lng description =>
      .report report_type (sixDecimals lat) (sixDecimals lng) (description.getD "")
  | vote choice report_id => .vote choice report_id
  | vouch vouchee => .vouch vouchee
  | revocation vouchee => .revocation vouchee

end SignedAction

/-- A printed coordinate determines its six decimals. -/
theorem format_eq_iff {x y : Double} : x.format 6 = y.format 6 ↔ sixDecimals x = sixDecimals y := by
  unfold Double.format sixDecimals
  rw [signedText_inj, SixDecimals.mk.injEq]

/-- A choice is one of two texts, and neither holds the separator. -/
theorem separator_notMem_vote {v : String} (h : (VoteChoice.ofText? v).isSome = true) :
    '|' ∉ v.toList := by
  obtain ⟨c, hc⟩ := Option.isSome_iff_exists.1 h
  rw [VoteChoice.text_of_ofText? hc]
  cases c <;> decide

/-- **A report's content says its type, its coordinates to six decimals and its
description.** -/
theorem reportBindingContent_inj {t t' : String} {lat lng lat' lng' : Double}
    {d d' : Option String} (ht : t ∈ validReportTypes) (ht' : t' ∈ validReportTypes) :
    reportBindingContent t lat lng d = reportBindingContent t' lat' lng' d' ↔
      t = t' ∧ sixDecimals lat = sixDecimals lat' ∧ sixDecimals lng = sixDecimals lng' ∧
        d.getD "" = d'.getD "" := by
  unfold reportBindingContent
  simp only [String.append_assoc, String.append_right_inj]
  rw [field_inj (separator_notMem_type ht) (separator_notMem_type ht'),
    field_inj (separator_notMem_format lat 6) (separator_notMem_format lat' 6),
    field_inj (separator_notMem_format lng 6) (separator_notMem_format lng' 6),
    format_eq_iff, format_eq_iff]

/-- A vote's content says the choice and the report. -/
theorem voteBindingContent_eq_iff {v v' : String} {id id' : Uuid}
    (hv : (VoteChoice.ofText? v).isSome = true) (hv' : (VoteChoice.ofText? v').isSome = true) :
    voteBindingContent v id = voteBindingContent v' id' ↔ v = v' ∧ id = id' := by
  unfold voteBindingContent
  simp only [String.append_assoc, String.append_right_inj]
  exact field_inj (separator_notMem_vote hv) (separator_notMem_vote hv')

/-- The four kinds of signed content. -/
inductive SignedKind
  | report
  | vote
  | vouch
  | revocation
  deriving DecidableEq

/-- How the contents of a kind begin. -/
def SignedKind.tag : SignedKind → List Char
  | report => "r1|".toList
  | vote => "v1|".toList
  | vouch => "sentinelmesh:vouch:".toList
  | revocation => "sentinelmesh:vouch-".toList

/-- No tag begins another. -/
theorem SignedKind.eq_of_tag_prefix {k k' : SignedKind} (h : k.tag <+: k'.tag) : k = k' := by
  revert h
  cases k <;> cases k' <;> decide

def SignedAction.kind : SignedAction → SignedKind
  | report .. => .report
  | vote .. => .vote
  | vouch _ => .vouch
  | revocation _ => .revocation

theorem SignedAction.tag_prefix (a : SignedAction) : a.kind.tag <+: a.content.toList := by
  cases a with
  | report t lat lng d =>
      simp only [content, reportBindingContent, String.append_assoc, String.toList_append]
      exact List.prefix_append _ _
  | vote v id =>
      simp only [content, voteBindingContent, String.append_assoc, String.toList_append]
      exact List.prefix_append _ _
  | vouch pk =>
      show SignedKind.vouch.tag <+: ("sentinelmesh:vouch:v1:" ++ pk).toList
      rw [String.toList_append]
      exact (by decide : _ <+: _).trans (List.prefix_append _ _)
  | revocation pk =>
      show SignedKind.revocation.tag <+: ("sentinelmesh:vouch-revoke:v1:" ++ pk).toList
      rw [String.toList_append]
      exact (by decide : _ <+: _).trans (List.prefix_append _ _)

/-- Equal contents are of one kind. -/
theorem SignedAction.kind_eq {a b : SignedAction} (h : a.content = b.content) :
    a.kind = b.kind := by
  have ha := a.tag_prefix
  rw [h] at ha
  rcases List.prefix_or_prefix_of_prefix ha b.tag_prefix with hab | hba
  · exact SignedKind.eq_of_tag_prefix hab
  · exact (SignedKind.eq_of_tag_prefix hba).symm

/-- **Signed contents are injective and domain-separated.**  Two contents the
routes accept are equal exactly when they are of one kind and mean the same. -/
theorem SignedAction.content_eq_iff {a b : SignedAction} (ha : a.accepted = true)
    (hb : b.accepted = true) : a.content = b.content ↔ a.meaning = b.meaning := by
  have hkind : a.content = b.content ∨ a.meaning = b.meaning → a.kind = b.kind := by
    rintro (h | h)
    · exact kind_eq h
    · cases a <;> cases b <;> first | rfl | cases h
  cases a with
  | report t lat lng d =>
      cases b with
      | report t' lat' lng' d' =>
          simp only [accepted, Bool.and_eq_true, decide_eq_true_eq] at ha hb
          simp only [content, meaning, SignedMeaning.report.injEq]
          exact reportBindingContent_inj ha.1 hb.1
      | _ => exact iff_of_false (fun h => nomatch hkind (.inl h)) fun h => nomatch hkind (.inr h)
  | vote v id =>
      cases b with
      | vote v' id' =>
          simp only [content, meaning, SignedMeaning.vote.injEq]
          exact voteBindingContent_eq_iff ha hb
      | _ => exact iff_of_false (fun h => nomatch hkind (.inl h)) fun h => nomatch hkind (.inr h)
  | vouch pk =>
      cases b with
      | vouch pk' =>
          simp only [meaning, SignedMeaning.vouch.injEq]
          exact String.append_right_inj _
      | _ => exact iff_of_false (fun h => nomatch hkind (.inl h)) fun h => nomatch hkind (.inr h)
  | revocation pk =>
      cases b with
      | revocation pk' =>
          simp only [meaning, SignedMeaning.revocation.injEq]
          exact String.append_right_inj _
      | _ => exact iff_of_false (fun h => nomatch hkind (.inl h)) fun h => nomatch hkind (.inr h)

/-- No description and an empty one are bound alike. -/
theorem SignedAction.meaning_of_content :
    (report "FIRE" Pwa.half Pwa.tie none).meaning =
      (report "FIRE" Pwa.half Pwa.tie (some "")).meaning :=
  (content_eq_iff (by decide +kernel) (by decide +kernel)).1 rfl

end Ledger
end SentinelMesh
