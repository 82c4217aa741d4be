/-
# What takes a keyword back

`_is_suppressed` of `nlp/classifier.py`.  A keyword that is found in a text does not count if a
negation is among the words before it or a resolution among those after it, at every occurrence.

The words are read from the two parts of the text that are left beside the occurrence, so of a word
that has the occurrence in it a fragment is read (`suppressedAt_iff`).  The fragment may be a cue
itself, and it takes a place among the words that are looked at: `isSuppressed_iff` says where that
makes a difference.
-/

import SentinelMesh.Lib.Words
import SentinelMesh.Basic
import Mathlib.Order.Bounds.Basic

namespace SentinelMesh
namespace Signal
namespace Suppression

open Lib

/-- `NEGATION_WINDOW`. -/
def negationWindow : ℕ := 5

/-- `_NEGATION_CUES`. -/
def negationCues : List (List Char) :=
  ["no", "not", "without", "hakuna", "hapana", "si"].map String.toList

/-- `_RESOLUTION_CUES`. -/
def resolutionCues : List (List Char) :=
  ["ended", "contained", "cleared", "resolved", "imeisha", "imezimwa"].map String.toList

/-- The keyword is in the text at a position. -/
def Found (text keyword : List Char) (i : ℕ) : Prop :=
  ∃ a b, text = a ++ (keyword ++ b) ∧ a.length = i

/-- `text.find(keyword, start)`. -/
def find (text keyword : List Char) (start : ℕ) : Option ℕ :=
  (List.range (text.length + 1)).find? fun i => start ≤ i ∧ keyword <+: text.drop i

section Words

variable (isWord : Char → Bool)

/-- `_WORD_RE.findall`; `isWord` is `\w`. -/
def findall (text : List Char) : List (List Char) := (words isWord text).map Word.text

/-- What the body of the loop makes of an occurrence. -/
def suppressedAt (text keyword : List Char) (idx : ℕ) : Bool :=
  let before := (findall isWord (text.take idx)).rtake negationWindow
  let after := (findall isWord (text.drop (idx + keyword.length))).take negationWindow
  let negated := before.any (· ∈ negationCues)
  let resolved := after.any (· ∈ resolutionCues)
  negated || resolved

/-- The loop of `_is_suppressed`, as far as some turns of it go. -/
def isSuppressedFrom (text keyword : List Char) : ℕ → ℕ → ℕ → ℕ → Option Bool
  | 0, _, _, _ => none
  | turns + 1, start, occurrences, suppressed =>
    match find text keyword start with
    | none => some (decide (0 < occurrences) && suppressed == occurrences)
    | some idx => isSuppressedFrom text keyword turns (idx + keyword.length) (occurrences + 1)
        (if suppressedAt isWord text keyword idx then suppressed + 1 else suppressed)

/-- `_is_suppressed` returns. -/
def IsSuppressed (text keyword : List Char) (result : Bool) : Prop :=
  ∃ turns, isSuppressedFrom isWord text keyword turns 0 0 0 = some result

end Words

/-! ### The occurrences -/

/-- The occurrences from a position on: the first, and those from its end on. -/
inductive Occurs (text keyword : List Char) : ℕ → ℕ → Prop
  | first {start i : ℕ} (h : IsLeast {i | start ≤ i ∧ Found text keyword i} i) :
    Occurs text keyword start i
  | later {start i j : ℕ} (h : IsLeast {i | start ≤ i ∧ Found text keyword i} i)
    (hlater : Occurs text keyword (i + keyword.length) j) : Occurs text keyword start j

variable {text keyword : List Char} {start i : ℕ}

theorem found_iff : Found text keyword i ↔ i ≤ text.length ∧ keyword <+: text.drop i := by
  constructor
  · rintro ⟨a, b, rfl, rfl⟩
    rw [List.drop_left, List.length_append]
    exact ⟨Nat.le_add_right _ _, List.prefix_append _ _⟩
  · rintro ⟨hle, b, hb⟩
    exact ⟨text.take i, b, by rw [hb, List.take_append_drop], List.length_take_of_le hle⟩

theorem Found.le (h : Found text keyword i) : i + keyword.length ≤ text.length := by
  obtain ⟨a, b, rfl, rfl⟩ := h
  rw [List.length_append, List.length_append]
  omega

/-- The first occurrence is found. -/
theorem find_eq_some_iff : find text keyword start = some i ↔
    IsLeast {i | start ≤ i ∧ Found text keyword i} i := by
  rw [find, List.find?_range_eq_some]
  constructor
  · rintro ⟨hi, hmem, hleast⟩
    obtain ⟨hstart, hprefix⟩ := of_decide_eq_true hi
    have hle : i ≤ text.length := Nat.lt_succ_iff.1 (List.mem_range.1 hmem)
    refine ⟨⟨hstart, found_iff.2 ⟨hle, hprefix⟩⟩, fun j hj => not_lt.1 fun hlt => ?_⟩
    have hnot := hleast j hlt
    rw [decide_eq_true (show start ≤ j ∧ _ from ⟨hj.1, (found_iff.1 hj.2).2⟩)] at hnot
    exact absurd hnot (by decide)
  · rintro ⟨⟨hstart, hfound⟩, hleast⟩
    obtain ⟨hle, hprefix⟩ := found_iff.1 hfound
    refine ⟨decide_eq_true ⟨hstart, hprefix⟩, List.mem_range.2 (Nat.lt_succ_of_le hle), fun j hj => ?_⟩
    rw [Bool.not_eq_true', decide_eq_false_iff_not]
    rintro ⟨hstart', hprefix'⟩
    exact absurd (hleast ⟨hstart', found_iff.2 ⟨hj.le.trans hle, hprefix'⟩⟩) hj.not_ge

theorem find_eq_none_iff : find text keyword start = none ↔
    ∀ i, start ≤ i → ¬ Found text keyword i := by
  rw [find, List.find?_range_eq_none]
  constructor
  · intro h i hstart hfound
    obtain ⟨hle, hprefix⟩ := found_iff.1 hfound
    have hnot := h i (Nat.lt_succ_of_le hle)
    rw [decide_eq_true (show start ≤ i ∧ _ from ⟨hstart, hprefix⟩)] at hnot
    exact absurd hnot (by decide)
  · intro h i hi
    rw [Bool.not_eq_true', decide_eq_false_iff_not]
    rintro ⟨hstart, hprefix⟩
    exact h i hstart (found_iff.2 ⟨Nat.lt_succ_iff.1 hi, hprefix⟩)

theorem Occurs.found (h : Occurs text keyword start i) : start ≤ i ∧ Found text keyword i := by
  induction h with
  | first h => exact h.1
  | later h _ ih => exact ⟨(h.1.1.trans (Nat.le_add_right _ _)).trans ih.1, ih.2⟩

theorem not_occurs (h : find text keyword start = none) (i : ℕ) : ¬ Occurs text keyword start i :=
  fun hi => find_eq_none_iff.1 h i hi.found.1 hi.found.2

/-- The occurrences are the one that is found, and those from its end on. -/
theorem occurs_iff {j : ℕ} (h : find text keyword start = some i) :
    Occurs text keyword start j ↔ j = i ∨ Occurs text keyword (i + keyword.length) j := by
  have hleast := find_eq_some_iff.1 h
  constructor
  · rintro (hfirst | ⟨hfirst, hlater⟩)
    · exact Or.inl (hfirst.unique hleast)
    · rw [hfirst.unique hleast] at hlater
      exact Or.inr hlater
  · rintro (rfl | hlater)
    · exact .first hleast
    · exact .later hleast hlater

/-! ### The loop -/

section Loop

variable (isWord : Char → Bool)

theorem isSuppressedFrom_of_none (h : find text keyword start = none) (turns occurrences suppressed : ℕ) :
    isSuppressedFrom isWord text keyword (turns + 1) start occurrences suppressed =
      some (decide (0 < occurrences) && suppressed == occurrences) := by
  rw [isSuppressedFrom, h]

theorem isSuppressedFrom_of_some {idx : ℕ} (h : find text keyword start = some idx)
    (turns occurrences suppressed : ℕ) :
    isSuppressedFrom isWord text keyword (turns + 1) start occurrences suppressed =
      isSuppressedFrom isWord text keyword turns (idx + keyword.length) (occurrences + 1)
        (if suppressedAt isWord text keyword idx then suppressed + 1 else suppressed) := by
  rw [isSuppressedFrom, h]

/-- **What the loop returns.** -/
theorem isSuppressedFrom_eq {turns occurrences suppressed : ℕ} {result : Bool}
    (hle : suppressed ≤ occurrences)
    (h : isSuppressedFrom isWord text keyword turns start occurrences suppressed = some result) :
    result = true ↔ (0 < occurrences ∨ ∃ i, Occurs text keyword start i) ∧ suppressed = occurrences ∧
      ∀ i, Occurs text keyword start i → suppressedAt isWord text keyword i = true := by
  induction turns generalizing start occurrences suppressed with
  | zero => cases h
  | succ turns ih =>
      cases hfind : find text keyword start with
      | none =>
          rw [isSuppressedFrom_of_none isWord hfind] at h
          obtain rfl := Option.some.inj h
          have hnone := not_occurs hfind
          rw [Bool.and_eq_true, decide_eq_true_iff, beq_iff_eq]
          constructor
          · rintro ⟨hpos, heq⟩
            exact ⟨Or.inl hpos, heq, fun i hi => absurd hi (hnone i)⟩
          · rintro ⟨hpos | ⟨i, hi⟩, heq, _⟩
            · exact ⟨hpos, heq⟩
            · exact absurd hi (hnone i)
      | some idx =>
          rw [isSuppressedFrom_of_some isWord hfind] at h
          have hoccurs := fun j => @occurs_iff text keyword start idx j hfind
          by_cases hidx : suppressedAt isWord text keyword idx = true
          · rw [if_pos hidx] at h
            rw [ih (Nat.succ_le_succ hle) h, Nat.succ_inj]
            constructor
            · rintro ⟨_, heq, hall⟩
              refine ⟨Or.inr ⟨idx, (hoccurs idx).2 (Or.inl rfl)⟩, heq, fun j hj => ?_⟩
              rcases (hoccurs j).1 hj with rfl | hj
              · exact hidx
              · exact hall j hj
            · rintro ⟨_, heq, hall⟩
              exact ⟨Or.inl (Nat.succ_pos _), heq, fun j hj => hall j ((hoccurs j).2 (Or.inr hj))⟩
          · -- one that is not suppressed is never made good
            rw [if_neg hidx] at h
            rw [ih (hle.trans (Nat.le_succ _)) h]
            constructor
            · rintro ⟨_, heq, _⟩
              omega
            · rintro ⟨_, _, hall⟩
              exact absurd (hall idx ((hoccurs idx).2 (Or.inl rfl))) hidx

/-- The loop ends, as an occurrence of a keyword has a length. -/
theorem exists_isSuppressedFrom (hkeyword : keyword ≠ []) {turns : ℕ} (hstart : start ≤ text.length)
    (hturns : text.length < start + turns) (occurrences suppressed : ℕ) :
    ∃ result, isSuppressedFrom isWord text keyword turns start occurrences suppressed = some result := by
  induction turns generalizing start occurrences suppressed with
  | zero => omega
  | succ turns ih =>
      cases hfind : find text keyword start with
      | none => exact ⟨_, isSuppressedFrom_of_none isWord hfind ..⟩
      | some idx =>
          rw [isSuppressedFrom_of_some isWord hfind]
          obtain ⟨⟨hidx, hfound⟩, _⟩ := find_eq_some_iff.1 hfind
          have hlength := List.length_pos_iff.2 hkeyword
          exact ih hfound.le (by omega) _ _

/-- For the empty keyword it does not: every occurrence ends where it begins. -/
theorem isSuppressedFrom_nil (hstart : start ≤ text.length) (turns occurrences suppressed : ℕ) :
    isSuppressedFrom isWord text [] turns start occurrences suppressed = none := by
  have hfound : Found text [] start := found_iff.2 ⟨hstart, List.nil_prefix⟩
  have hfind : find text [] start = some start :=
    find_eq_some_iff.2 ⟨⟨le_rfl, hfound⟩, fun _ hj => hj.1⟩
  induction turns generalizing occurrences suppressed with
  | zero => rfl
  | succ turns ih =>
      rw [isSuppressedFrom_of_some isWord hfind]
      exact ih _ _

/-- **What is returned**: whether there is an occurrence, and all are suppressed. -/
theorem isSuppressed_eq {result : Bool} (h : IsSuppressed isWord text keyword result) :
    result = true ↔ (∃ i, Occurs text keyword 0 i) ∧
      ∀ i, Occurs text keyword 0 i → suppressedAt isWord text keyword i = true := by
  obtain ⟨turns, h⟩ := h
  rw [isSuppressedFrom_eq isWord le_rfl h, or_iff_right (Nat.lt_irrefl 0), and_iff_right rfl]

/-- Whether something is returned. -/
theorem exists_isSuppressed_iff : (∃ result, IsSuppressed isWord text keyword result) ↔ keyword ≠ [] := by
  constructor
  · rintro ⟨result, turns, h⟩ rfl
    rw [isSuppressedFrom_nil isWord (Nat.zero_le _)] at h
    cases h
  · intro hkeyword
    obtain ⟨result, h⟩ := exists_isSuppressedFrom isWord hkeyword (Nat.zero_le text.length)
      (show text.length < 0 + (text.length + 1) by omega) 0 0
    exact ⟨result, text.length + 1, h⟩

end Loop

/-! ### The words beside an occurrence -/

section Fragments

variable (isWord : Char → Bool)

/-- What the occurrence leaves of a word that it begins inside of. -/
def fragmentBefore (text : List Char) (i : ℕ) : Option (List Char) :=
  (wordAcross isWord text i).map fun w => w.left i

/-- What the occurrence leaves of a word that it ends inside of. -/
def fragmentAfter (text keyword : List Char) (i : ℕ) : Option (List Char) :=
  (wordAcross isWord text (i + keyword.length)).map fun w => w.right (i + keyword.length)

/-- There is a negation among the last whole words before the occurrence, or a resolution among the
first whole words after it. -/
def CueAmong (text keyword : List Char) (i before after : ℕ) : Prop :=
  (∃ t ∈ ((wordsBefore isWord text i).map Word.text).rtake before, t ∈ negationCues) ∨
    ∃ t ∈ ((wordsAfter isWord text (i + keyword.length)).map Word.text).take after, t ∈ resolutionCues

/-- A fragment is a negation before the occurrence, or a resolution after it. -/
def FragmentCue (text keyword : List Char) (i : ℕ) : Prop :=
  (∃ t ∈ fragmentBefore isWord text i, t ∈ negationCues) ∨
    ∃ t ∈ fragmentAfter isWord text keyword i, t ∈ resolutionCues

/-- There is a cue among as many whole words as the fragments leave of the window. -/
def CueBeside (text keyword : List Char) (i : ℕ) : Prop :=
  CueAmong isWord text keyword i
    (negationWindow - (fragmentBefore isWord text i).toList.length)
    (negationWindow - (fragmentAfter isWord text keyword i).toList.length)

variable {isWord}

theorem any_cue {cues tokens : List (List Char)} :
    tokens.any (· ∈ cues) = true ↔ ∃ t ∈ tokens, t ∈ cues := by
  simp only [List.any_eq_true, decide_eq_true_eq]

/-- A token at the end takes a place of those that are looked at. -/
theorem exists_mem_rtake {α : Type*} (l : List α) (o : Option α) (n : ℕ) (P : α → Prop) :
    (∃ t ∈ (l ++ o.toList).rtake (n + 1), P t) ↔
      (∃ t ∈ o, P t) ∨ ∃ t ∈ l.rtake (n + 1 - o.toList.length), P t := by
  cases o with
  | none =>
      rw [Option.toList_none, List.append_nil]
      exact (or_iff_right fun ⟨_, h, _⟩ => nomatch h).symm
  | some a =>
      rw [Option.toList_some, List.rtake_concat_succ, or_comm]
      simp only [List.mem_append, List.mem_singleton, or_and_right, exists_or, Option.mem_some_iff,
        eq_comm, List.length_singleton, Nat.add_sub_cancel]

/-- So does a token at the beginning. -/
theorem exists_mem_take {α : Type*} (l : List α) (o : Option α) (n : ℕ) (P : α → Prop) :
    (∃ t ∈ (o.toList ++ l).take (n + 1), P t) ↔
      (∃ t ∈ o, P t) ∨ ∃ t ∈ l.take (n + 1 - o.toList.length), P t := by
  cases o with
  | none =>
      rw [Option.toList_none, List.nil_append]
      exact (or_iff_right fun ⟨_, h, _⟩ => nomatch h).symm
  | some a =>
      rw [Option.toList_some, List.singleton_append, List.take_succ_cons]
      simp only [List.mem_cons, or_and_right, exists_or, Option.mem_some_iff, eq_comm,
        List.length_singleton, Nat.add_sub_cancel]

/-- **What the loop makes of an occurrence**: it is suppressed if a fragment is a cue, or if there is
one among the whole words that are left. -/
theorem suppressedAt_iff (h : Found text keyword i) : suppressedAt isWord text keyword i = true ↔
    FragmentCue isWord text keyword i ∨ CueBeside isWord text keyword i := by
  obtain ⟨a, b, rfl, rfl⟩ := h
  have hbefore : findall isWord ((a ++ (keyword ++ b)).take a.length) =
      (wordsBefore isWord (a ++ (keyword ++ b)) a.length).map Word.text ++
        (fragmentBefore isWord (a ++ (keyword ++ b)) a.length).toList := by
    rw [List.take_left]
    exact words_left isWord a (keyword ++ b)
  have hlength : a.length + keyword.length = (a ++ keyword).length := List.length_append.symm
  have hafter : findall isWord ((a ++ (keyword ++ b)).drop (a.length + keyword.length)) =
      (fragmentAfter isWord (a ++ (keyword ++ b)) keyword a.length).toList ++
        (wordsAfter isWord (a ++ (keyword ++ b)) (a.length + keyword.length)).map Word.text := by
    rw [fragmentAfter, hlength, ← List.append_assoc, List.drop_left]
    exact words_right isWord (a ++ keyword) b
  unfold suppressedAt FragmentCue CueBeside CueAmong
  dsimp only
  rw [hbefore, hafter, Bool.or_eq_true, any_cue, any_cue, negationWindow, exists_mem_rtake,
    exists_mem_take]
  exact or_or_or_comm ..

/-- The window is wide enough for what is left of it. -/
theorem cueAmong_of_cueBeside (h : CueBeside isWord text keyword i) :
    CueAmong isWord text keyword i negationWindow negationWindow := by
  rcases h with ⟨t, ht, hcue⟩ | ⟨t, ht, hcue⟩
  · exact Or.inl ⟨t, List.drop_subset_drop_left _ (by omega) ht, hcue⟩
  · exact Or.inr ⟨t, List.take_subset_take_left _ (Nat.sub_le _ _) ht, hcue⟩

/-! ### Whole words -/

variable (isWord)

/-- What the window is of: the keyword occurs, and every occurrence has a cue among the whole words
before it or after it. -/
def SuppressedByWords (text keyword : List Char) : Prop :=
  (∃ i, Occurs text keyword 0 i) ∧
    ∀ i, Occurs text keyword 0 i → CueAmong isWord text keyword i negationWindow negationWindow

/-- An occurrence that has a cue in a fragment only. -/
def Added (text keyword : List Char) (i : ℕ) : Prop :=
  Occurs text keyword 0 i ∧ FragmentCue isWord text keyword i ∧
    ¬ CueAmong isWord text keyword i negationWindow negationWindow

/-- An occurrence whose cue has lost its place to a fragment. -/
def Dropped (text keyword : List Char) (i : ℕ) : Prop :=
  Occurs text keyword 0 i ∧ CueAmong isWord text keyword i negationWindow negationWindow ∧
    ¬ FragmentCue isWord text keyword i ∧ ¬ CueBeside isWord text keyword i

/-- An occurrence that has no cue at all. -/
def Uncued (text keyword : List Char) (i : ℕ) : Prop :=
  Occurs text keyword 0 i ∧ ¬ FragmentCue isWord text keyword i ∧
    ¬ CueAmong isWord text keyword i negationWindow negationWindow

/-- Two properties that are asked of all: one that has neither decides, and otherwise they fail
together. -/
theorem forall_iff_forall {ι : Type*} (O P Q : ι → Prop) :
    ((∀ i, O i → P i) ↔ ∀ i, O i → Q i) ↔
      (∃ i, O i ∧ ¬ P i ∧ ¬ Q i) ∨ ((∃ i, O i ∧ P i ∧ ¬ Q i) ↔ ∃ i, O i ∧ Q i ∧ ¬ P i) := by
  by_cases hneither : ∃ i, O i ∧ ¬ P i ∧ ¬ Q i
  · obtain ⟨i, hi, hp, hq⟩ := hneither
    exact iff_of_true (iff_of_false (fun h => hp (h i hi)) fun h => hq (h i hi))
      (Or.inl ⟨i, hi, hp, hq⟩)
  · rw [or_iff_right hneither]
    have hall : (∀ i, O i → P i) ↔ ¬ ∃ i, O i ∧ Q i ∧ ¬ P i := by
      constructor
      · rintro h ⟨i, hi, _, hp⟩
        exact hp (h i hi)
      · intro h i hi
        by_contra hp
        exact hneither ⟨i, hi, hp, fun hq => h ⟨i, hi, hq, hp⟩⟩
    have hall' : (∀ i, O i → Q i) ↔ ¬ ∃ i, O i ∧ P i ∧ ¬ Q i := by
      constructor
      · rintro h ⟨i, hi, _, hq⟩
        exact hq (h i hi)
      · intro h i hi
        by_contra hq
        exact hneither ⟨i, hi, fun hp => h ⟨i, hi, hp, hq⟩, hq⟩
    rw [hall, hall', not_iff_not]
    exact iff_comm

/-- **What is returned is what the whole words say** where the two agree on all occurrences. -/
theorem exists_isSuppressed_and_iff (text keyword : List Char) :
    (∃ result, IsSuppressed isWord text keyword result ∧
        (result = true ↔ SuppressedByWords isWord text keyword)) ↔
      keyword ≠ [] ∧ ((∀ i, Occurs text keyword 0 i → suppressedAt isWord text keyword i = true) ↔
        ∀ i, Occurs text keyword 0 i →
          CueAmong isWord text keyword i negationWindow negationWindow) := by
  have hagree : ∀ A B : Prop, (¬ (∃ i, Occurs text keyword 0 i) → A ∧ B) →
      (((∃ i, Occurs text keyword 0 i) ∧ A ↔ (∃ i, Occurs text keyword 0 i) ∧ B) ↔ (A ↔ B)) := by
    intro A B hnone
    by_cases hoccurs : ∃ i, Occurs text keyword 0 i
    · rw [and_iff_right hoccurs, and_iff_right hoccurs]
    · obtain ⟨hA, hB⟩ := hnone hoccurs
      exact iff_of_true (iff_of_false (fun h => hoccurs h.1) fun h => hoccurs h.1)
        (iff_of_true hA hB)
  have hvacuous : ∀ P : ℕ → Prop, ¬ (∃ i, Occurs text keyword 0 i) →
      ∀ i, Occurs text keyword 0 i → P i := fun P hnone i hi => absurd ⟨i, hi⟩ hnone
  rw [← @exists_isSuppressed_iff text keyword isWord, ← hagree _ _ fun hnone =>
    ⟨hvacuous _ hnone, hvacuous _ hnone⟩]
  constructor
  · rintro ⟨result, h, hresult⟩
    exact ⟨⟨result, h⟩, (isSuppressed_eq isWord h).symm.trans hresult⟩
  · rintro ⟨⟨result, h⟩, hagree⟩
    exact ⟨result, h, (isSuppressed_eq isWord h).trans hagree⟩

/-- **Where suppression looks at whole words.**  Something is returned, and it is what the whole words
say, if and only if the keyword is not empty, and an occurrence has no cue at all, or there is one with
a cue in a fragment only just if there is one whose cue has lost its place to a fragment. -/
theorem isSuppressed_iff (text keyword : List Char) :
    (∃ result, IsSuppressed isWord text keyword result ∧
        (result = true ↔ SuppressedByWords isWord text keyword)) ↔
      keyword ≠ [] ∧ ((∃ i, Uncued isWord text keyword i) ∨
        ((∃ i, Added isWord text keyword i) ↔ ∃ i, Dropped isWord text keyword i)) := by
  rw [exists_isSuppressed_and_iff, forall_iff_forall]
  have huncued : ∀ i, (Occurs text keyword 0 i ∧ ¬ suppressedAt isWord text keyword i = true ∧
      ¬ CueAmong isWord text keyword i negationWindow negationWindow) ↔ Uncued isWord text keyword i := by
    intro i
    refine and_congr_right fun hi => ?_
    have hbeside := @cueAmong_of_cueBeside text keyword i isWord
    rw [suppressedAt_iff hi.found.2]
    tauto
  have hadded : ∀ i, (Occurs text keyword 0 i ∧ suppressedAt isWord text keyword i = true ∧
      ¬ CueAmong isWord text keyword i negationWindow negationWindow) ↔ Added isWord text keyword i := by
    intro i
    refine and_congr_right fun hi => ?_
    have hbeside := @cueAmong_of_cueBeside text keyword i isWord
    rw [suppressedAt_iff hi.found.2]
    tauto
  have hdropped : ∀ i, (Occurs text keyword 0 i ∧
      CueAmong isWord text keyword i negationWindow negationWindow ∧
      ¬ suppressedAt isWord text keyword i = true) ↔ Dropped isWord text keyword i := by
    intro i
    refine and_congr_right fun hi => and_congr_right fun _ => ?_
    rw [suppressedAt_iff hi.found.2, not_or]
  rw [exists_congr huncued, exists_congr hadded, exists_congr hdropped]

/-- The characters of words that are ASCII. -/
def isAsciiWord (c : Char) : Bool := c.isAlphanum || c == '_'

/-- The last letter of a keyword in the plural takes the place of the fifth word after it. -/
def demoDropped : List Char := "fires at the market are contained".toList

/-- A keyword with a cue written before it. -/
def demoAdded : List Char := "nofire".toList

/-- **Fragments make a difference**, either way. -/
theorem isSuppressed_fragments :
    (IsSuppressed isAsciiWord demoDropped "fire".toList false ∧
      SuppressedByWords isAsciiWord demoDropped "fire".toList) ∧
    IsSuppressed isAsciiWord demoAdded "fire".toList true ∧
      ¬ SuppressedByWords isAsciiWord demoAdded "fire".toList := by
  have hdropped : find demoDropped "fire".toList 0 = some 0 := by decide
  have hadded : find demoAdded "fire".toList 0 = some 2 := by decide
  refine ⟨⟨⟨2, by decide⟩, ⟨0, (occurs_iff hdropped).2 (Or.inl rfl)⟩, fun i hi => ?_⟩,
    ⟨2, by decide⟩, fun h => ?_⟩
  · rcases (occurs_iff hdropped).1 hi with rfl | hlater
    · exact Or.inr ⟨"contained".toList, by decide, by decide⟩
    · exact absurd hlater (not_occurs (by decide) i)
  · rcases h.2 2 ((occurs_iff hadded).2 (Or.inl rfl)) with hcue | hcue
    · revert hcue
      decide
    · revert hcue
      decide

variable {isWord}

end Fragments

end Suppression
end Signal
end SentinelMesh
