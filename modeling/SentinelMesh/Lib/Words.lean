/-
# The words of a text

A word is a run of characters of some kind that cannot be extended, with the position at which it
begins.  `words` reads them from left to right.

A position cuts a text in two.  The words of the two parts are the words of the text before and after
the position, and if the position is inside a word, a fragment of it on either side
(`words_left`, `words_right`).
-/

import Mathlib.Data.List.DropRight
import Mathlib.Data.List.Basic

namespace Lib

/-- A word of a text. -/
structure Word (α : Type*) where
  start : ℕ
  text : List α
  deriving DecidableEq

/-- Where a word has ended. -/
def Word.stop {α : Type*} (w : Word α) : ℕ := w.start + w.text.length

section Words

variable {α : Type*}

/-- The word that has been read, if there is one. -/
def close (start : ℕ) : List α → List (Word α)
  | [] => []
  | c :: cs => [⟨start, c :: cs⟩]

variable (p : α → Bool)

/-- The words of a text, after a part of a word that begins at some position. -/
def scan (start : ℕ) (current : List α) : List α → List (Word α)
  | [] => close start current
  | c :: cs =>
    if p c then scan start (current ++ [c]) cs
    else close start current ++ scan (start + current.length + 1) [] cs

/-- The words of a text. -/
def words (s : List α) : List (Word α) := scan p 0 [] s

variable {p} {start pos : ℕ} {s l r f g : List α} {w : Word α}

theorem mem_close : w ∈ close start s ↔ s ≠ [] ∧ w = ⟨start, s⟩ := by
  cases s with
  | nil => exact iff_of_false List.not_mem_nil fun h => h.1 rfl
  | cons c cs => exact List.mem_singleton.trans (and_iff_right (List.cons_ne_nil c cs)).symm

/-! ### A text in two parts -/

/-- What the first part of a text leaves to the second: some words, and the beginning of one. -/
theorem scan_left (l : List α) (start : ℕ) {current : List α} (hcurrent : ∀ c ∈ current, p c) :
    ∃ (before : List (Word α)) (start' : ℕ) (f : List α),
      start' + f.length = start + current.length + l.length ∧
      f <:+ current ++ l ∧ (∀ c ∈ f, p c) ∧ (∀ w ∈ before, w.stop < start') ∧
      ∀ r, scan p start current (l ++ r) = before ++ scan p start' f r := by
  induction l generalizing start current with
  | nil =>
      have hsuffix : current <:+ current ++ [] := ⟨[], (List.append_nil current).symm⟩
      exact ⟨[], start, current, rfl, hsuffix, hcurrent, List.forall_mem_nil _, fun r => rfl⟩
  | cons c cs ih =>
      by_cases hc : p c
      · have hcurrent' : ∀ d ∈ current ++ [c], p d :=
          List.forall_mem_append.2 ⟨hcurrent, List.forall_mem_singleton.2 hc⟩
        obtain ⟨before, start', f, hpos, hsuffix, hf, hstop, hscan⟩ := ih start hcurrent'
        rw [List.append_assoc] at hsuffix
        refine ⟨before, start', f, ?_, hsuffix, hf, hstop, fun r => ?_⟩
        · rw [hpos, List.length_append, List.length_singleton, List.length_cons]
          omega
        · rw [List.cons_append, scan, if_pos hc, hscan]
      · -- the word ends here, and none has begun after it
        obtain ⟨before, start', f, hpos, hsuffix, hf, hstop, hscan⟩ :=
          ih (start + current.length + 1) (List.forall_mem_nil _)
        refine ⟨close start current ++ before, start', f, ?_, ?_, hf, ?_, fun r => ?_⟩
        · rw [hpos, List.length_nil, List.length_cons]
          omega
        · exact hsuffix.trans ⟨current ++ [c], by simp⟩
        · refine List.forall_mem_append.2 ⟨fun w hw => ?_, hstop⟩
          obtain ⟨_, rfl⟩ := mem_close.1 hw
          have hlength := hsuffix.length_le
          rw [List.nil_append] at hlength
          rw [List.length_nil] at hpos
          change start + current.length < start'
          omega
        · rw [List.cons_append, scan, if_neg hc, hscan, List.append_assoc]

/-- What the second part of a text adds to a word that has begun, and the words after it. -/
theorem scan_right (p : α → Bool) (r : List α) (pos : ℕ) :
    ∃ (g : List α) (after : List (Word α)), (∀ w ∈ after, pos + g.length < w.start) ∧
      ∀ start f, start + f.length = pos → scan p start f r = close start (f ++ g) ++ after := by
  induction r generalizing pos with
  | nil =>
      refine ⟨[], [], List.forall_mem_nil _, fun start f _ => ?_⟩
      rw [List.append_nil, List.append_nil, scan]
  | cons c cs ih =>
      by_cases hc : p c
      · obtain ⟨g, after, hstart, hscan⟩ := ih (pos + 1)
        refine ⟨c :: g, after, fun w hw => ?_, fun start f hpos => ?_⟩
        · have := hstart w hw
          rw [List.length_cons]
          omega
        · have hpos' : start + (f ++ [c]).length = pos + 1 := by
            rw [List.length_append, List.length_singleton]
            omega
          rw [scan, if_pos hc, hscan start _ hpos', List.append_assoc, List.singleton_append]
      · obtain ⟨g, after, hstart, hscan⟩ := ih (pos + 1)
        refine ⟨[], close (pos + 1) g ++ after, ?_, fun start f hpos => ?_⟩
        · refine List.forall_mem_append.2 ⟨fun w hw => ?_, fun w hw => ?_⟩
          · obtain ⟨_, rfl⟩ := mem_close.1 hw
            exact Nat.lt_succ_self pos
          · have := hstart w hw
            rw [List.length_nil]
            omega
        · rw [scan, if_neg hc, hpos, hscan (pos + 1) [] rfl, List.append_nil, List.nil_append]

/-- The words of a text in two parts: words before, a word that has a part in each, and words after. -/
structure Cut (p : α → Bool) (l r : List α) where
  before : List (Word α)
  after : List (Word α)
  start : ℕ
  front : List α
  back : List α
  length_eq : start + front.length = l.length
  stop_lt : ∀ w ∈ before, w.stop < start
  lt_start : ∀ w ∈ after, l.length + back.length < w.start
  left_eq : words p l = before ++ close start front
  right_eq : scan p l.length [] r = close l.length back ++ after
  whole_eq : words p (l ++ r) = before ++ (close start (front ++ back) ++ after)

/-- **A text is cut anywhere.** -/
theorem nonempty_cut (p : α → Bool) (l r : List α) : Nonempty (Cut p l r) := by
  obtain ⟨before, start, front, hlength, _, _, hstop, hleft⟩ :=
    scan_left (p := p) l 0 (List.forall_mem_nil _)
  obtain ⟨back, after, hstart, hright⟩ := scan_right p r l.length
  rw [List.length_nil, Nat.zero_add] at hlength
  refine ⟨⟨before, after, start, front, back, hlength, hstop, hstart, ?_, ?_, ?_⟩⟩
  · have hwhole := hleft []
    rw [List.append_nil] at hwhole
    exact hwhole
  · exact hright l.length [] rfl
  · exact (hleft r).trans (congrArg (before ++ ·) (hright start front hlength))

/-! ### What the words are -/

/-! ### A position of a text -/

theorem map_text_close (start start' : ℕ) (f : List α) :
    (close start f).map Word.text = (close start' f).map Word.text := by
  cases f <;> rfl

/-- The texts of words do not depend on where they begin. -/
theorem map_text_scan (p : α → Bool) (start start' : ℕ) (f s : List α) :
    (scan p start f s).map Word.text = (scan p start' f s).map Word.text := by
  induction s generalizing start start' f with
  | nil => exact map_text_close start start' f
  | cons c cs ih =>
      rw [scan, scan]
      split_ifs with hc
      · exact ih _ _ _
      · rw [List.map_append, List.map_append, map_text_close start start',
          ih (start + f.length + 1) (start' + f.length + 1) []]

variable (p)

/-- The words that have ended at a position. -/
def wordsBefore (s : List α) (i : ℕ) : List (Word α) := (words p s).filter fun w => w.stop ≤ i

/-- The words that have not begun before a position. -/
def wordsAfter (s : List α) (i : ℕ) : List (Word α) := (words p s).filter fun w => i ≤ w.start

/-- The word that a position is inside of. -/
def wordAcross (s : List α) (i : ℕ) : Option (Word α) :=
  (words p s).find? fun w => w.start < i ∧ i < w.stop

/-- The fragment of a word before a position. -/
def Word.left (w : Word α) (i : ℕ) : List α := w.text.take (i - w.start)

/-- The fragment of a word after a position. -/
def Word.right (w : Word α) (i : ℕ) : List α := w.text.drop (i - w.start)

variable {p}

theorem close_of_ne (start : ℕ) (h : s ≠ []) : close start s = [⟨start, s⟩] := by
  cases s with
  | nil => exact absurd rfl h
  | cons c cs => rfl

namespace Cut

variable (c : Cut p l r)

theorem start_lt : ∀ w ∈ c.before, w.start < c.start := fun w hw =>
  (Nat.le_add_right _ _).trans_lt (c.stop_lt w hw)

theorem lt_stop : ∀ w ∈ c.after, l.length + c.back.length < w.stop := fun w hw =>
  (c.lt_start w hw).trans_le (Nat.le_add_right _ _)

theorem map_text_right :
    (words p r).map Word.text = (close 0 c.back).map Word.text ++ c.after.map Word.text := by
  rw [words, map_text_scan p 0 l.length, c.right_eq, List.map_append, map_text_close l.length 0]

/-- The words before are those of the first part, unless the last of them goes on. -/
theorem wordsBefore_eq : wordsBefore p (l ++ r) l.length =
    c.before ++ if c.back = [] then close c.start c.front else [] := by
  have hlength := c.length_eq
  have hkept : c.before.filter (fun w => w.stop ≤ l.length) = c.before := by
    refine List.filter_eq_self.2 fun w hw => decide_eq_true ?_
    have := c.stop_lt w hw
    omega
  have hdropped : c.after.filter (fun w => w.stop ≤ l.length) = [] := by
    refine List.filter_eq_nil_iff.2 fun w hw => ?_
    have := c.lt_stop w hw
    rw [decide_eq_true_iff]
    omega
  rw [wordsBefore, c.whole_eq, List.filter_append, List.filter_append, hkept, hdropped, List.append_nil]
  refine congrArg (c.before ++ ·) ?_
  split_ifs with hback
  · rw [hback, List.append_nil]
    refine List.filter_eq_self.2 fun w hw => ?_
    obtain ⟨_, rfl⟩ := mem_close.1 hw
    exact decide_eq_true hlength.le
  · refine List.filter_eq_nil_iff.2 fun w hw => ?_
    obtain ⟨_, rfl⟩ := mem_close.1 hw
    have hpositive := List.length_pos_iff.2 hback
    rw [decide_eq_true_iff]
    change ¬ c.start + (c.front ++ c.back).length ≤ l.length
    rw [List.length_append]
    omega

/-- The words after are those of the second part, unless the first of them had begun. -/
theorem wordsAfter_eq : wordsAfter p (l ++ r) l.length =
    (if c.front = [] then close l.length c.back else []) ++ c.after := by
  have hlength := c.length_eq
  have hkept : c.after.filter (fun w => l.length ≤ w.start) = c.after := by
    refine List.filter_eq_self.2 fun w hw => decide_eq_true ?_
    have := c.lt_start w hw
    omega
  have hdropped : c.before.filter (fun w => l.length ≤ w.start) = [] := by
    refine List.filter_eq_nil_iff.2 fun w hw => ?_
    have := c.start_lt w hw
    rw [decide_eq_true_iff]
    omega
  rw [wordsAfter, c.whole_eq, List.filter_append, List.filter_append, hkept, hdropped, List.nil_append]
  refine congrArg (· ++ c.after) ?_
  split_ifs with hfront
  · rw [hfront, List.length_nil, Nat.add_zero] at hlength
    rw [hfront, List.nil_append, hlength]
    refine List.filter_eq_self.2 fun w hw => ?_
    obtain ⟨_, rfl⟩ := mem_close.1 hw
    exact decide_eq_true le_rfl
  · refine List.filter_eq_nil_iff.2 fun w hw => ?_
    obtain ⟨_, rfl⟩ := mem_close.1 hw
    have hpositive := List.length_pos_iff.2 hfront
    rw [decide_eq_true_iff]
    change ¬ l.length ≤ c.start
    omega

/-- The position is inside the word that has a part on either side. -/
theorem wordAcross_eq : wordAcross p (l ++ r) l.length =
    if c.front = [] ∨ c.back = [] then none else some ⟨c.start, c.front ++ c.back⟩ := by
  have hlength := c.length_eq
  have hbefore : c.before.find? (fun w => w.start < l.length ∧ l.length < w.stop) = none := by
    refine List.find?_eq_none.2 fun w hw => ?_
    have := c.stop_lt w hw
    rw [decide_eq_true_iff]
    omega
  have hafter : c.after.find? (fun w => w.start < l.length ∧ l.length < w.stop) = none := by
    refine List.find?_eq_none.2 fun w hw => ?_
    have := c.lt_start w hw
    rw [decide_eq_true_iff]
    omega
  rw [wordAcross, c.whole_eq, List.find?_append, List.find?_append, hbefore, hafter, Option.none_or,
    Option.or_none]
  split_ifs with hside
  · refine List.find?_eq_none.2 fun w hw => ?_
    obtain ⟨_, rfl⟩ := mem_close.1 hw
    rw [decide_eq_true_iff]
    change ¬ (c.start < l.length ∧ l.length < c.start + (c.front ++ c.back).length)
    rw [List.length_append]
    rcases hside with hfront | hback
    · rw [hfront, List.length_nil] at hlength
      omega
    · rw [hback, List.length_nil]
      omega
  · obtain ⟨hfront, hback⟩ := not_or.1 hside
    have hfront' := List.length_pos_iff.2 hfront
    have hback' := List.length_pos_iff.2 hback
    rw [close_of_ne _ (fun h => hfront (List.append_eq_nil_iff.1 h).1)]
    refine List.find?_cons_of_pos (decide_eq_true ?_)
    change c.start < l.length ∧ l.length < c.start + (c.front ++ c.back).length
    rw [List.length_append]
    omega

end Cut

/-- **The words of the first part** are the words before the position, and the fragment there. -/
theorem words_left (p : α → Bool) (l r : List α) : (words p l).map Word.text =
    (wordsBefore p (l ++ r) l.length).map Word.text ++
      ((wordAcross p (l ++ r) l.length).map fun w => w.left l.length).toList := by
  obtain ⟨c⟩ := nonempty_cut p l r
  rw [c.wordsBefore_eq, c.wordAcross_eq, c.left_eq]
  by_cases hback : c.back = []
  · rw [if_pos hback, if_pos (Or.inr hback), Option.map_none, Option.toList_none, List.append_nil]
  · rw [if_neg hback, List.append_nil, List.map_append]
    by_cases hfront : c.front = []
    · rw [if_pos (Or.inl hfront), hfront]
      rfl
    · have hlength : l.length - c.start = c.front.length := by
        have := c.length_eq
        omega
      have hleft : Word.left ⟨c.start, c.front ++ c.back⟩ l.length = c.front := by
        rw [Word.left, hlength, List.take_left]
      rw [if_neg (not_or.2 ⟨hfront, hback⟩), Option.map_some, hleft, close_of_ne _ hfront]
      rfl

/-- **The words of the second part** are the fragment at the position, and the words after it. -/
theorem words_right (p : α → Bool) (l r : List α) : (words p r).map Word.text =
    ((wordAcross p (l ++ r) l.length).map fun w => w.right l.length).toList ++
      (wordsAfter p (l ++ r) l.length).map Word.text := by
  obtain ⟨c⟩ := nonempty_cut p l r
  rw [c.wordsAfter_eq, c.wordAcross_eq, c.map_text_right]
  by_cases hfront : c.front = []
  · rw [if_pos hfront, if_pos (Or.inl hfront), Option.map_none, Option.toList_none, List.nil_append,
      List.map_append, map_text_close l.length 0]
  · rw [if_neg hfront, List.nil_append]
    by_cases hback : c.back = []
    · rw [if_pos (Or.inr hback), hback]
      rfl
    · have hlength : l.length - c.start = c.front.length := by
        have := c.length_eq
        omega
      have hright : Word.right ⟨c.start, c.front ++ c.back⟩ l.length = c.back := by
        rw [Word.right, hlength, List.drop_left]
      rw [if_neg (not_or.2 ⟨hfront, hback⟩), Option.map_some, hright, close_of_ne _ hback]
      rfl

end Words
end Lib
