/-
# The size of JSON

A text of JavaScript is its units of UTF-16, a surrogate alone among them.  `Json.bytes` is what
the text of a value takes in UTF-8, without white space: quotes, backslashes and control characters
are escaped, and so is a surrogate that is alone.

A text of plain units takes a byte for each (`quotedBytes_plain`).
-/

import Mathlib.Data.List.Basic
import Mathlib.Data.Nat.Digits.Defs
import Mathlib.Data.UInt

namespace Lib
namespace JsonText

/-! ### Texts -/

/-- The units of UTF-16 of a text. -/
abbrev Text := List UInt16

/-- The first unit of a pair. -/
def isHigh (u : UInt16) : Bool := decide (0xD800 ≤ u) && decide (u ≤ 0xDBFF)

/-- The second unit of a pair. -/
def isLow (u : UInt16) : Bool := decide (0xDC00 ≤ u) && decide (u ≤ 0xDFFF)

/-- The units of a character. -/
def charUnits (c : Char) : Text :=
  if c.val < 0x10000 then [UInt16.ofNat c.toNat]
  else
    [UInt16.ofNat (0xD800 + (c.toNat - 0x10000) / 0x400),
      UInt16.ofNat (0xDC00 + (c.toNat - 0x10000) % 0x400)]

/-- The units of a string. -/
def ofString (s : String) : Text := s.toList.flatMap charUnits

/-- The units of a text as numbers; texts are compared by these. -/
def units (s : String) : List ℕ := (ofString s).map UInt16.toNat

/-- A character of the basic plane is one unit. -/
theorem charUnits_of_lt {c : Char} (h : c.toNat < 0x10000) :
    charUnits c = [UInt16.ofNat c.toNat] := by
  have hval : c.val < 0x10000 := UInt32.lt_iff_toNat_lt.2 h
  exact if_pos hval

theorem charUnits_ne_nil (c : Char) : charUnits c ≠ [] := by
  unfold charUnits
  split_ifs
  · exact List.cons_ne_nil _ _
  · exact List.cons_ne_nil _ _

/-- A character is read back from the units that a text begins with. -/
theorem charUnits_append_inj {c d : Char} {t t' : Text}
    (h : charUnits c ++ t = charUnits d ++ t') : c = d ∧ t = t' := by
  have hsmall : ∀ e : Char, e.val < 0x10000 ↔ e.toNat < 0x10000 := fun e => UInt32.lt_iff_toNat_lt
  have hchar : ∀ e : Char, e.toNat < 0xD800 ∨ 0xDFFF < e.toNat ∧ e.toNat < 0x110000 := fun e => e.valid
  have hc := hchar c
  have hd := hchar d
  have hunit : ∀ m n : ℕ, UInt16.ofNat m = UInt16.ofNat n → m % 65536 = n % 65536 := by
    intro m n hmn
    exact congrArg UInt16.toNat hmn
  unfold charUnits at h
  simp only [hsmall] at h
  split_ifs at h with hcs hds hds
  · obtain ⟨hhead, htail⟩ := List.cons.inj h
    have := hunit _ _ hhead
    exact ⟨Char.toNat_inj.1 (by omega), htail⟩
  · obtain ⟨hhead, _⟩ := List.cons.inj h
    have := hunit _ _ hhead
    omega
  · obtain ⟨hhead, _⟩ := List.cons.inj h
    have := hunit _ _ hhead
    omega
  · obtain ⟨hhead, htail⟩ := List.cons.inj h
    obtain ⟨hsecond, htail⟩ := List.cons.inj htail
    have := hunit _ _ hhead
    have := hunit _ _ hsecond
    exact ⟨Char.toNat_inj.1 (by omega), htail⟩

/-- **A string is known from its units.** -/
theorem ofString_injective : Function.Injective ofString := by
  have hlist : ∀ cs ds : List Char, cs.flatMap charUnits = ds.flatMap charUnits → cs = ds := by
    intro cs
    induction cs with
    | nil =>
        intro ds h
        cases ds with
        | nil => rfl
        | cons d ds =>
            rw [List.flatMap_nil, List.flatMap_cons] at h
            exact absurd (List.append_eq_nil_iff.1 h.symm).1 (charUnits_ne_nil d)
    | cons c cs ih =>
        intro ds h
        cases ds with
        | nil =>
            rw [List.flatMap_nil, List.flatMap_cons] at h
            exact absurd (List.append_eq_nil_iff.1 h).1 (charUnits_ne_nil c)
        | cons d ds =>
            rw [List.flatMap_cons, List.flatMap_cons] at h
            obtain ⟨hhead, htail⟩ := charUnits_append_inj h
            rw [hhead, ih ds htail]
  intro s s' h
  exact String.toList_inj.1 (hlist _ _ h)

theorem units_injective : Function.Injective units := fun _ _ h =>
  ofString_injective ((List.map_injective_iff.2 fun _ _ => UInt16.toNat_inj.1) h)

/-- What a unit takes that is not one of a pair: control characters have an escape of two characters
or one of six, and a surrogate has one of six. -/
def unitBytes (u : UInt16) : ℕ :=
  if u = 0x22 ∨ u = 0x5C then 2
  else if u < 0x20 then
    if u = 0x08 ∨ u = 0x09 ∨ u = 0x0A ∨ u = 0x0C ∨ u = 0x0D then 2 else 6
  else if u < 0x80 then 1
  else if u < 0x800 then 2
  else if isHigh u || isLow u then 6
  else 3

/-- What a text takes between its quotes. -/
def quotedBytes : Text → ℕ
  | [] => 0
  | [u] => unitBytes u
  | u :: v :: rest =>
    if isHigh u && isLow v then 4 + quotedBytes rest else unitBytes u + quotedBytes (v :: rest)

/-- A unit that is written as it is, in a byte. -/
def Plain (u : UInt16) : Prop := isHigh u = false ∧ unitBytes u = 1

instance (u : UInt16) : Decidable (Plain u) :=
  inferInstanceAs (Decidable (isHigh u = false ∧ unitBytes u = 1))

/-- Between the space and the last of ASCII the quote and the backslash alone are escaped. -/
theorem plain_of_lt {u : UInt16} (hspace : 0x20 ≤ u.toNat) (hascii : u.toNat < 0x80)
    (hquote : u.toNat ≠ 0x22) (hslash : u.toNat ≠ 0x5C) : Plain u := by
  have hne : ¬(u = 0x22 ∨ u = 0x5C) := by
    rintro (rfl | rfl)
    · exact hquote rfl
    · exact hslash rfl
  have hcontrol : ¬u < 0x20 := fun h => absurd (UInt16.lt_iff_toNat_lt.1 h) hspace.not_gt
  have hbyte : u < 0x80 := UInt16.lt_iff_toNat_lt.2 hascii
  refine ⟨?_, ?_⟩
  · have hhigh : ¬0xD800 ≤ u := fun h =>
      absurd (UInt16.le_iff_toNat_le.1 h) (Nat.not_le.2 (hascii.trans (by decide)))
    unfold isHigh
    rw [decide_eq_false hhigh, Bool.false_and]
  · unfold unitBytes
    rw [if_neg hne, if_neg hcontrol, if_pos hbyte]

/-- A unit that begins no pair is written on its own. -/
theorem quotedBytes_cons {u : UInt16} (h : isHigh u = false) (rest : Text) :
    quotedBytes (u :: rest) = unitBytes u + quotedBytes rest := by
  cases rest with
  | nil => rfl
  | cons v rest =>
      have hpair : (isHigh u && isLow v) = false := by rw [h, Bool.false_and]
      rw [quotedBytes, hpair, if_neg Bool.false_ne_true]

/-- **A plain text takes a byte for each unit.** -/
theorem quotedBytes_plain {t : Text} (h : ∀ u ∈ t, Plain u) : quotedBytes t = t.length := by
  induction t with
  | nil => rfl
  | cons u rest ih =>
      have hu := h u List.mem_cons_self
      rw [quotedBytes_cons hu.1, hu.2, ih fun v hv => h v (List.mem_cons_of_mem u hv),
        List.length_cons, Nat.add_comm]

/-- A unit over and over. -/
theorem quotedBytes_replicate {u : UInt16} (h : isHigh u = false) (n : ℕ) :
    quotedBytes (List.replicate n u) = n * unitBytes u := by
  induction n with
  | zero => rw [List.replicate_zero, Nat.zero_mul, quotedBytes]
  | succ n ih => rw [List.replicate_succ, quotedBytes_cons h, ih, Nat.succ_mul, Nat.add_comm]

/-! ### Values -/

/-- A value whose numbers are integers. -/
inductive Json where
  | num (n : ℤ)
  | str (t : Text)
  | arr (elems : List Json)
  | obj (fields : List (Text × Json))

/-- What an array or an object takes, from what is in it: brackets, and a comma after each but the
last. -/
def bracketed (sizes : List ℕ) : ℕ := 2 + sizes.sum + (sizes.length - 1)

namespace Json

mutual

/-- What the text of a value takes in UTF-8. -/
def bytes : Json → ℕ
  | num n => (toString n).length
  | str t => 2 + quotedBytes t
  | arr elems => bracketed (bytesList elems)
  | obj fields => bracketed (bytesFields fields)

/-- What each of the elements takes. -/
def bytesList : List Json → List ℕ
  | [] => []
  | j :: rest => bytes j :: bytesList rest

/-- What each of the fields takes, with its name. -/
def bytesFields : List (Text × Json) → List ℕ
  | [] => []
  | (name, j) :: rest => (2 + quotedBytes name + 1 + bytes j) :: bytesFields rest

end

theorem bytesList_eq_map (elems : List Json) : bytesList elems = elems.map bytes := by
  induction elems with
  | nil => rfl
  | cons j rest ih => rw [bytesList, ih, List.map_cons]

theorem bytes_str_plain {t : Text} (h : ∀ u ∈ t, Plain u) : (str t).bytes = 2 + t.length := by
  rw [bytes, quotedBytes_plain h]

/-- A number takes its digits, and a sign. -/
theorem bytes_num_le {n : ℤ} {d : ℕ} (hd : 0 < d) (h : n.natAbs < 10 ^ d) :
    (num n).bytes ≤ d + 1 := by
  rw [bytes]
  cases n with
  | ofNat m =>
      have hm : (Nat.repr m).length ≤ d := Nat.repr_length m d hd h
      exact hm.trans (Nat.le_succ d)
  | negSucc m =>
      have hm : (Nat.repr (m + 1)).length ≤ d := Nat.repr_length (m + 1) d hd h
      have hsign : (toString (Int.negSucc m)).length = "-".length + (Nat.repr (m + 1)).length :=
        String.length_append "-" (Nat.repr (m + 1))
      have hone : "-".length = 1 := rfl
      omega

end Json

end JsonText
end Lib
