/-
# The order of RFC 3339 texts

A UTC time is its civil fields, and of two times the later is the one whose fields are
lexicographically larger.  `rfc3339` writes a time down to the second with a fixed number of digits
a field, then as many digits of the fraction as are needed, none, three or six, and a `Z`: the
serialisation of `DateTime<Utc>` by chrono.

Texts of one width are in the order of their times.  `rfc3339_lt_iff` says what becomes of the
others: two texts are in the wrong order exactly if the digits of the earlier fraction are cut off
those of the later one within one second (`Cut`), since a digit and the point come before `Z`.
-/

import SentinelMesh.Lib.Decimal
import Mathlib.Data.List.Lex
import Mathlib.Data.String.Basic

namespace Lib

/-! ### Digits in lexicographic order -/

/-- Lists that begin with lists of one length are compared there first. -/
theorem append_lt_append_iff {α : Type*} [LinearOrder α] {l l' r r' : List α}
    (h : l.length = l'.length) : l ++ r < l' ++ r' ↔ l < l' ∨ l = l' ∧ r < r' := by
  induction l generalizing l' with
  | nil =>
      obtain rfl : l' = [] := List.length_eq_zero_iff.1 h.symm
      simp
  | cons a l ih =>
      cases l' with
      | nil => cases h
      | cons a' l' =>
          have hlen : l.length = l'.length := Nat.succ.inj h
          rw [List.cons_append, List.cons_append, List.cons_lt_cons_iff, List.cons_lt_cons_iff,
            ih hlen, List.cons.injEq]
          tauto

/-- A digit more is one at the end. -/
theorem paddedDigits_succ {w : ℕ} (hw : 0 < w) (n : ℕ) :
    paddedDigits (w + 1) n = paddedDigits w (n / 10) ++ [(n % 10).digitChar] := by
  unfold paddedDigits List.leftpad
  rw [Nat.toDigits_eq_if (by omega : 1 < 10)]
  split_ifs with hn
  · rw [Nat.div_eq_of_lt hn, Nat.mod_eq_of_lt hn, Nat.toDigits_zero]
    obtain ⟨v, rfl⟩ := Nat.exists_eq_succ_of_ne_zero hw.ne'
    simp [← List.replicate_succ']
  · rw [← List.append_assoc]
    simp

theorem length_paddedDigits {w n : ℕ} (hw : 0 < w) (hn : n < 10 ^ w) :
    (paddedDigits w n).length = w := by
  have hdigits := (Nat.length_toDigits_le_iff (by omega : 1 < 10) hw).2 hn
  unfold paddedDigits
  rw [List.length_leftpad]
  exact max_eq_left hdigits

theorem digitChar_lt_iff {a b : ℕ} (ha : a < 10) (hb : b < 10) :
    a.digitChar < b.digitChar ↔ a < b := by
  have hall : ∀ a b : Fin 10, a.val.digitChar < b.val.digitChar ↔ a.val < b.val := by decide
  exact hall ⟨a, ha⟩ ⟨b, hb⟩

/-- **Digits of one width are in the order of their numbers.** -/
theorem paddedDigits_lt_iff {w n m : ℕ} (hw : 0 < w) (hn : n < 10 ^ w) (hm : m < 10 ^ w) :
    paddedDigits w n < paddedDigits w m ↔ n < m := by
  induction w, hw using Nat.le_induction generalizing n m with
  | base =>
      have hone : ∀ k, k < 10 → paddedDigits 1 k = [k.digitChar] := by
        intro k hk
        unfold paddedDigits
        rw [Nat.toDigits_of_lt_base hk]
        rfl
      rw [pow_one] at hn hm
      rw [hone n hn, hone m hm, List.cons_lt_cons_iff, digitChar_lt_iff hn hm]
      simp
  | succ w hw ih =>
      rw [pow_succ] at hn hm
      have hn' : n / 10 < 10 ^ w := by omega
      have hm' : m / 10 < 10 ^ w := by omega
      have hlen : (paddedDigits w (n / 10)).length = (paddedDigits w (m / 10)).length := by
        rw [length_paddedDigits hw hn', length_paddedDigits hw hm']
      have hsame : paddedDigits w (n / 10) = paddedDigits w (m / 10) ↔ n / 10 = m / 10 :=
        ⟨paddedDigits_inj, fun h => by rw [h]⟩
      rw [paddedDigits_succ hw, paddedDigits_succ hw, append_lt_append_iff hlen, ih hn' hm', hsame,
        List.cons_lt_cons_iff, digitChar_lt_iff (by omega) (by omega)]
      simp only [List.not_lt_nil, and_false, or_false]
      omega

/-- The first digits and the last ones. -/
theorem paddedDigits_add {w v : ℕ} (hw : 0 < w) (hv : 0 < v) (n : ℕ) :
    paddedDigits (w + v) n = paddedDigits w (n / 10 ^ v) ++ paddedDigits v (n % 10 ^ v) := by
  induction v, hv using Nat.le_induction generalizing n with
  | base =>
      have hlast : paddedDigits 1 (n % 10) = [(n % 10).digitChar] := by
        unfold paddedDigits
        rw [Nat.toDigits_of_lt_base (Nat.mod_lt n (by omega))]
        rfl
      rw [paddedDigits_succ hw, pow_one, hlast]
  | succ v hv ih =>
      have hdiv : n / 10 / 10 ^ v = n / 10 ^ (v + 1) := by
        rw [Nat.div_div_eq_div_mul, pow_succ']
      have hmod : n % 10 ^ (v + 1) / 10 = n / 10 % 10 ^ v := by
        rw [pow_succ', Nat.mod_mul_right_div_self]
      have hlast : n % 10 ^ (v + 1) % 10 = n % 10 :=
        Nat.mod_mod_of_dvd n (dvd_pow_self 10 (Nat.succ_ne_zero v))
      rw [← Nat.add_assoc, paddedDigits_succ (by omega), ih, hdiv, paddedDigits_succ hv, hmod, hlast,
        List.append_assoc]

/-- **Before a larger end, what goes on comes first.**  Of two lists that end in `z`, above all
their elements, the smaller is the smaller without `z`, unless it is cut off the other. -/
theorem append_end_lt_iff {α : Type*} [LinearOrder α] {z : α} {l l' : List α}
    (hl : ∀ a ∈ l, a < z) (hl' : ∀ a ∈ l', a < z) :
    l ++ [z] < l' ++ [z] ↔ l < l' ∧ ¬ l <+: l' ∨ l' <+: l ∧ l' ≠ l := by
  induction l generalizing l' with
  | nil =>
      cases l' with
      | nil => simp
      | cons a' l' =>
          have ha' := (hl' a' List.mem_cons_self).not_gt
          have hne := (hl' a' List.mem_cons_self).ne'
          simp [List.cons_lt_cons_iff, ha', hne]
  | cons a l ih =>
      have ha := hl a List.mem_cons_self
      cases l' with
      | nil => simp [List.cons_lt_cons_iff, ha]
      | cons a' l' =>
          rw [List.cons_append, List.cons_append, List.cons_lt_cons_iff, List.cons_lt_cons_iff,
            ih (fun b hb => hl b (List.mem_cons_of_mem _ hb))
              fun b hb => hl' b (List.mem_cons_of_mem _ hb),
            List.cons_prefix_cons, List.cons_prefix_cons, Ne, Ne, List.cons.injEq]
          rcases lt_trichotomy a a' with h | rfl | h
          · simp [h, h.ne]
          · simp
          · simp [h.not_gt, h.ne', h.ne]

/-! ### Times and their texts -/

/-- The days of a month. -/
def daysIn (year month : ℕ) : ℕ :=
  if month = 2 then if year % 4 = 0 ∧ (year % 100 ≠ 0 ∨ year % 400 = 0) then 29 else 28
  else if month ∈ [4, 6, 9, 11] then 30 else 31

/-- A UTC time of a year with four digits, to the microsecond. -/
structure UtcTime where
  year : ℕ
  month : ℕ
  day : ℕ
  hour : ℕ
  minute : ℕ
  second : ℕ
  microsecond : ℕ
  year_lt : year < 10 ^ 4
  month_mem : 1 ≤ month ∧ month ≤ 12
  day_mem : 1 ≤ day ∧ day ≤ daysIn year month
  hour_lt : hour < 24
  minute_lt : minute < 60
  second_lt : second < 60
  microsecond_lt : microsecond < 10 ^ 6
  deriving DecidableEq

namespace UtcTime

/-- The fields down to the second. -/
def whole (t : UtcTime) : List ℕ := [t.year, t.month, t.day, t.hour, t.minute, t.second]

/-- All fields, from the largest. -/
def fields (t : UtcTime) : List ℕ := t.whole ++ [t.microsecond]

theorem fields_injective : Function.Injective fields := by
  intro s t h
  cases s
  cases t
  simp only [fields, whole, List.cons_append, List.nil_append, List.cons.injEq, and_true] at h
  obtain ⟨rfl, rfl, rfl, rfl, rfl, rfl, rfl⟩ := h
  rfl

/-- Chronological order. -/
instance : LinearOrder UtcTime := LinearOrder.lift' fields fields_injective

/-- The point and the digits of the fraction, as many as are needed. -/
def fraction (t : UtcTime) : List Char :=
  if t.microsecond = 0 then []
  else if t.microsecond % 1000 = 0 then '.' :: paddedDigits 3 (t.microsecond / 1000)
  else '.' :: paddedDigits 6 t.microsecond

/-- The text without the `Z`, to the second. -/
def wholeChars (t : UtcTime) : List Char :=
  paddedDigits 4 t.year ++ '-' :: (paddedDigits 2 t.month ++ '-' :: (paddedDigits 2 t.day ++ 'T' ::
    (paddedDigits 2 t.hour ++ ':' :: (paddedDigits 2 t.minute ++ ':' :: paddedDigits 2 t.second))))

/-- `SecondsFormat::AutoSi` with a `Z`. -/
def rfc3339 (t : UtcTime) : String := String.ofList (t.wholeChars ++ (t.fraction ++ ['Z']))

/-- The digits of the earlier fraction are cut off those of the later one, within one second. -/
def Cut (a b : UtcTime) : Prop :=
  a.whole = b.whole ∧ a.fraction <+: b.fraction ∧ a.fraction ≠ b.fraction

instance (a b : UtcTime) : Decidable (a.Cut b) := by
  unfold Cut
  infer_instance

theorem lt_iff_fields {a b : UtcTime} : a < b ↔ a.fields < b.fields := Iff.rfl

/-- The later time is in the later second, or has the larger fraction. -/
theorem lt_iff {a b : UtcTime} :
    a < b ↔ a.whole < b.whole ∨ a.whole = b.whole ∧ a.microsecond < b.microsecond := by
  have hlen : a.whole.length = b.whole.length := rfl
  rw [lt_iff_fields, fields, fields, append_lt_append_iff hlen, List.cons_lt_cons_iff]
  simp

theorem day_lt (t : UtcTime) : t.day < 10 ^ 2 := by
  have hday := t.day_mem.2
  have hdays : daysIn t.year t.month ≤ 31 := by
    unfold daysIn
    split_ifs <;> omega
  omega

/-- A field of fixed width and what follows it. -/
theorem field_lt_iff {w n m : ℕ} (c : Char) {r r' : List Char} (hw : 0 < w) (hn : n < 10 ^ w)
    (hm : m < 10 ^ w) : paddedDigits w n ++ c :: r < paddedDigits w m ++ c :: r' ↔
      n < m ∨ n = m ∧ r < r' := by
  have hlen : (paddedDigits w n).length = (paddedDigits w m).length := by
    rw [length_paddedDigits hw hn, length_paddedDigits hw hm]
  have hsame : paddedDigits w n = paddedDigits w m ↔ n = m :=
    ⟨paddedDigits_inj, fun h => by rw [h]⟩
  rw [append_lt_append_iff hlen, paddedDigits_lt_iff hw hn hm, hsame, List.cons_lt_cons_self]

theorem length_wholeChars (t : UtcTime) : t.wholeChars.length = 19 := by
  have hmonth : t.month < 10 ^ 2 := t.month_mem.2.trans_lt (by norm_num)
  have hhour : t.hour < 10 ^ 2 := t.hour_lt.trans (by norm_num)
  have hminute : t.minute < 10 ^ 2 := t.minute_lt.trans (by norm_num)
  have hsecond : t.second < 10 ^ 2 := t.second_lt.trans (by norm_num)
  simp only [wholeChars, List.length_append, List.length_cons,
    length_paddedDigits (by omega : 0 < 4) t.year_lt, length_paddedDigits (by omega : 0 < 2) hmonth,
    length_paddedDigits (by omega : 0 < 2) t.day_lt, length_paddedDigits (by omega : 0 < 2) hhour,
    length_paddedDigits (by omega : 0 < 2) hminute, length_paddedDigits (by omega : 0 < 2) hsecond]

/-- **The texts of seconds are in the order of the seconds.** -/
theorem wholeChars_lt_iff {a b : UtcTime} : a.wholeChars < b.wholeChars ↔ a.whole < b.whole := by
  have hmonth : ∀ t : UtcTime, t.month < 10 ^ 2 := fun t => t.month_mem.2.trans_lt (by norm_num)
  have hhour : ∀ t : UtcTime, t.hour < 10 ^ 2 := fun t => t.hour_lt.trans (by norm_num)
  have hminute : ∀ t : UtcTime, t.minute < 10 ^ 2 := fun t => t.minute_lt.trans (by norm_num)
  have hsecond : ∀ t : UtcTime, t.second < 10 ^ 2 := fun t => t.second_lt.trans (by norm_num)
  have htwo : 0 < 2 := by omega
  unfold wholeChars whole
  rw [field_lt_iff '-' (by omega) a.year_lt b.year_lt, field_lt_iff '-' htwo (hmonth a) (hmonth b),
    field_lt_iff 'T' htwo a.day_lt b.day_lt, field_lt_iff ':' htwo (hhour a) (hhour b),
    field_lt_iff ':' htwo (hminute a) (hminute b),
    paddedDigits_lt_iff htwo (hsecond a) (hsecond b)]
  simp only [List.cons_lt_cons_iff, List.not_lt_nil, and_false, or_false]

theorem wholeChars_eq_iff {a b : UtcTime} : a.wholeChars = b.wholeChars ↔ a.whole = b.whole := by
  constructor
  · intro h
    refine le_antisymm (not_lt.1 fun hba => ?_) (not_lt.1 fun hab => ?_)
    · exact (wholeChars_lt_iff.2 hba).ne h.symm
    · exact (wholeChars_lt_iff.2 hab).ne h
  · intro h
    refine le_antisymm (not_lt.1 fun hba => ?_) (not_lt.1 fun hab => ?_)
    · exact (wholeChars_lt_iff.1 hba).ne h.symm
    · exact (wholeChars_lt_iff.1 hab).ne h

/-- **Fractions are in the order of their digits**, as many as there are. -/
theorem fraction_lt_iff {a b : UtcTime} :
    a.fraction < b.fraction ↔ a.microsecond < b.microsecond := by
  have ha : a.microsecond < 1000 * 1000 := a.microsecond_lt
  have hb : b.microsecond < 1000 * 1000 := b.microsecond_lt
  have hlen : ∀ {n m}, n < 1000 → m < 1000 →
      (paddedDigits 3 n).length = (paddedDigits 3 m).length := fun hn hm => by
    rw [length_paddedDigits (by omega) hn, length_paddedDigits (by omega) hm]
  have hsame : ∀ {n m}, paddedDigits 3 n = paddedDigits 3 m ↔ n = m :=
    ⟨paddedDigits_inj, fun h => by rw [h]⟩
  have hthree : ∀ {n m}, n < 1000 → m < 1000 → (paddedDigits 3 n < paddedDigits 3 m ↔ n < m) :=
    fun hn hm => paddedDigits_lt_iff (by omega) hn hm
  have hsix : ∀ n, paddedDigits 6 n = paddedDigits 3 (n / 1000) ++ paddedDigits 3 (n % 1000) :=
    paddedDigits_add (w := 3) (v := 3) (by omega) (by omega)
  -- a fraction of three digits is compared with the first three of the other
  have hcut : ∀ {n m k}, n < 1000 → m < 1000 → k < 1000 →
      (paddedDigits 3 n < paddedDigits 3 m ++ paddedDigits 3 k ↔ n ≤ m) := fun {n m k} hn hm hk => by
    have hnil : [] < paddedDigits 3 k := by
      have hthree := length_paddedDigits (by omega : 0 < 3) hk
      cases hdigits : paddedDigits 3 k with
      | nil =>
          rw [hdigits] at hthree
          cases hthree
      | cons c l => exact List.nil_lt_cons c l
    rw [← List.append_nil (paddedDigits 3 n), append_lt_append_iff (hlen hn hm), hthree hn hm, hsame]
    simp only [hnil, and_true]
    omega
  have hcut' : ∀ {n m k}, n < 1000 → m < 1000 →
      (paddedDigits 3 n ++ paddedDigits 3 k < paddedDigits 3 m ↔ n < m) := fun {n m k} hn hm => by
    rw [← List.append_nil (paddedDigits 3 m), append_lt_append_iff (hlen hn hm), hthree hn hm]
    simp
  unfold fraction
  split_ifs with ha₀ hb₀ hb₁ ha₁ hb₀ hb₁ hb₀ hb₁
  · simp [ha₀, hb₀]
  · simp; omega
  · simp; omega
  · simp; omega
  · rw [List.cons_lt_cons_self, hthree (by omega) (by omega)]
    omega
  · rw [List.cons_lt_cons_self, hsix, hcut (by omega) (by omega) (by omega)]
    omega
  · simp; omega
  · rw [List.cons_lt_cons_self, hsix, hcut' (by omega) (by omega)]
    omega
  · rw [List.cons_lt_cons_self, paddedDigits_lt_iff (by omega) ha hb]

/-- The characters of a fraction come before `Z`. -/
theorem lt_of_mem_fraction {t : UtcTime} {c : Char} (h : c ∈ t.fraction) : c < 'Z' := by
  have hdigit : ∀ {w n}, c ∈ paddedDigits w n → c < 'Z' := fun {w n} hc => by
    have hc := isDigit_of_mem_paddedDigits hc
    simp only [Char.isDigit, Bool.and_eq_true, decide_eq_true_eq] at hc
    exact lt_of_le_of_lt (Char.le_def.2 hc.2 : c ≤ '9') (by decide)
  unfold fraction at h
  split_ifs at h
  · cases h
  · rcases List.mem_cons.1 h with rfl | h
    · decide
    · exact hdigit h
  · rcases List.mem_cons.1 h with rfl | h
    · decide
    · exact hdigit h

/-- **When a text comes before another.**  The earlier time has the smaller text, unless its digits
are cut off; and then the later one has. -/
theorem rfc3339_lt_iff {a b : UtcTime} :
    a.rfc3339 < b.rfc3339 ↔ a < b ∧ ¬ a.Cut b ∨ b.Cut a := by
  have hlen : a.wholeChars.length = b.wholeChars.length := by
    rw [length_wholeChars, length_wholeChars]
  have hfraction : a.fraction < b.fraction → a.fraction ≠ b.fraction := ne_of_lt
  rw [String.lt_iff_toList_lt, rfc3339, rfc3339, String.toList_ofList, String.toList_ofList,
    append_lt_append_iff hlen, append_end_lt_iff (fun _ h => lt_of_mem_fraction h)
      (fun _ h => lt_of_mem_fraction h), wholeChars_lt_iff, wholeChars_eq_iff, lt_iff,
    ← fraction_lt_iff]
  unfold Cut
  by_cases hwhole : a.whole = b.whole
  · rw [hwhole]
    have hirrefl := lt_irrefl b.whole
    tauto
  · have hwhole' : ¬ b.whole = a.whole := fun h => hwhole h.symm
    tauto

/-- What is cut off is of the later time. -/
theorem Cut.lt {a b : UtcTime} (h : a.Cut b) : a < b := by
  obtain ⟨hwhole, ⟨rest, hrest⟩, hne⟩ := h
  rw [lt_iff, ← fraction_lt_iff]
  refine .inr ⟨hwhole, ?_⟩
  cases rest with
  | nil => exact absurd ((List.append_nil _).symm.trans hrest) hne
  | cons c rest =>
      rw [← hrest, ← List.append_nil a.fraction, List.append_assoc, append_lt_append_iff rfl]
      exact .inr ⟨rfl, List.nil_lt_cons c rest⟩

/-- **When texts are in the order of the times**: unless the digits of one are cut off the other. -/
theorem rfc3339_lt_iff_lt {a b : UtcTime} :
    (a.rfc3339 < b.rfc3339 ↔ a < b) ↔ ¬ a.Cut b ∧ ¬ b.Cut a := by
  have hab := Cut.lt (a := a) (b := b)
  have hba := Cut.lt (a := b) (b := a)
  have hasymm := lt_asymm (a := a) (b := b)
  rw [rfc3339_lt_iff]
  tauto

theorem rfc3339_injective : Function.Injective rfc3339 := by
  intro a b h
  have hnot : ¬ a.rfc3339 < b.rfc3339 := h ▸ lt_irrefl _
  have hnot' : ¬ b.rfc3339 < a.rfc3339 := h ▸ lt_irrefl _
  rw [rfc3339_lt_iff] at hnot hnot'
  rcases lt_trichotomy a b with hlt | heq | hlt
  · tauto
  · exact heq
  · tauto

theorem rfc3339_ne_empty (t : UtcTime) : t.rfc3339 ≠ "" := by
  intro h
  have hnil := congrArg String.toList h
  rw [rfc3339, String.toList_ofList] at hnil
  simp at hnil

end UtcTime
end Lib
