/-
# Numbers in groups of bits

A number is written in groups of some bits each, the low ones first, and every group but the last has
a bit more, which says that another follows.  A group is one symbol of an alphabet.

What is written is read back, with whatever comes after it (`read_write`), and what ends before its
last group is not read (`read_of_prefix`).  Texts of several numbers are read number by number
(`Reads`), in one way only.

A signed number is twice its value, complemented if it is negative, so that its sign is in the first
bit (`unzigzag_zigzag`).
-/

import Mathlib.Algebra.Order.Ring.Nat
import Mathlib.Data.Nat.Digits.Defs

namespace Lib

/-- An alphabet for groups of `width` bits: symbols for the numbers of one bit more. -/
structure Varint (β : Type*) where
  width : ℕ
  width_pos : 0 < width
  byte : ℕ → β
  symbol : β → Option ℕ
  symbol_byte : ∀ v < 2 * 2 ^ width, symbol (byte v) = some v

namespace Varint

variable {β : Type*} (c : Varint β)

/-! ### Writing and reading -/

theorem base_gt_one : 1 < 2 ^ c.width := Nat.one_lt_two_pow c.width_pos.ne'

/-- The symbols of a number. -/
def write (v : ℕ) : List β :=
  if v < 2 ^ c.width then [c.byte v]
  else c.byte (v % 2 ^ c.width + 2 ^ c.width) :: write (v / 2 ^ c.width)
termination_by v
decreasing_by
  rename_i hlarge
  exact Nat.div_lt_self ((Nat.two_pow_pos c.width).trans_le (not_lt.1 hlarge)) c.base_gt_one

/-- The groups of a number and what comes after them. -/
def read : List β → Option (List ℕ × List β)
  | [] => none
  | b :: bs =>
    match c.symbol b with
    | none => none
    | some v =>
      if v < 2 ^ c.width then some ([v], bs)
      else (read bs).map fun r => (v % 2 ^ c.width :: r.1, r.2)

/-- The number of some groups. -/
def value (gs : List ℕ) : ℕ := Nat.ofDigits (2 ^ c.width) gs

@[simp] theorem value_singleton (g : ℕ) : c.value [g] = g := by
  unfold value
  exact Nat.ofDigits_singleton ..

@[simp] theorem value_cons (g : ℕ) (gs : List ℕ) :
    c.value (g :: gs) = g + 2 ^ c.width * c.value gs := by
  unfold value
  exact Nat.ofDigits_cons ..

variable {c} {gs gs' : List ℕ} {bs rest rest' : List β}

theorem read_cons_eq_some {b : β} : c.read (b :: bs) = some (gs, rest) ↔
    ∃ v, c.symbol b = some v ∧
      ((v < 2 ^ c.width ∧ gs = [v] ∧ rest = bs) ∨
        (2 ^ c.width ≤ v ∧ ∃ gs', c.read bs = some (gs', rest) ∧ gs = v % 2 ^ c.width :: gs')) := by
  rw [read]
  cases hv : c.symbol b with
  | none => simp
  | some v =>
      dsimp only
      by_cases hlt : v < 2 ^ c.width
      · rw [if_pos hlt]
        constructor
        · intro h
          obtain ⟨rfl, rfl⟩ := Prod.mk.inj (Option.some.inj h)
          exact ⟨v, rfl, Or.inl ⟨hlt, rfl, rfl⟩⟩
        · rintro ⟨v', hv', ⟨_, rfl, rfl⟩ | ⟨hle, _⟩⟩
          · rw [Option.some.inj hv']
          · rw [← Option.some.inj hv'] at hle
            exact absurd hlt hle.not_gt
      · rw [if_neg hlt, Option.map_eq_some_iff]
        constructor
        · rintro ⟨⟨gs', rest'⟩, hread, heq⟩
          obtain ⟨rfl, rfl⟩ := Prod.mk.inj heq
          exact ⟨v, rfl, Or.inr ⟨not_lt.1 hlt, gs', hread, rfl⟩⟩
        · rintro ⟨v', hv', ⟨hlt', _⟩ | ⟨_, gs', hread, rfl⟩⟩
          · rw [← Option.some.inj hv'] at hlt'
            exact absurd hlt' hlt
          · rw [← Option.some.inj hv']
            exact ⟨(gs', rest), hread, rfl⟩

/-- Something is read. -/
theorem length_of_read (h : c.read bs = some (gs, rest)) : rest.length < bs.length := by
  induction bs generalizing gs with
  | nil => cases h
  | cons b bs ih =>
      obtain ⟨v, _, ⟨_, _, rfl⟩ | ⟨_, gs', hread, _⟩⟩ := read_cons_eq_some.1 h
      · exact Nat.lt_succ_self _
      · exact (ih hread).trans (Nat.lt_succ_self _)

/-- Groups are below the base. -/
theorem lt_of_read (h : c.read bs = some (gs, rest)) : ∀ g ∈ gs, g < 2 ^ c.width := by
  induction bs generalizing gs with
  | nil => cases h
  | cons b bs ih =>
      obtain ⟨v, _, ⟨hlt, rfl, _⟩ | ⟨_, gs', hread, rfl⟩⟩ := read_cons_eq_some.1 h
      · exact List.forall_mem_singleton.2 hlt
      · exact List.forall_mem_cons.2 ⟨Nat.mod_lt _ (Nat.two_pow_pos _), ih hread⟩

theorem ne_nil_of_read (h : c.read bs = some (gs, rest)) : gs ≠ [] := by
  cases bs with
  | nil => cases h
  | cons b bs =>
      obtain ⟨v, _, ⟨_, rfl, _⟩ | ⟨_, gs', _, rfl⟩⟩ := read_cons_eq_some.1 h
      · exact List.cons_ne_nil _ _
      · exact List.cons_ne_nil _ _

/-- What comes after is not looked at. -/
theorem read_append (h : c.read bs = some (gs, rest)) (more : List β) :
    c.read (bs ++ more) = some (gs, rest ++ more) := by
  induction bs generalizing gs with
  | nil => cases h
  | cons b bs ih =>
      rw [List.cons_append, read_cons_eq_some]
      obtain ⟨v, hv, ⟨hlt, hgs, rfl⟩ | ⟨hle, gs', hread, hgs⟩⟩ := read_cons_eq_some.1 h
      · exact ⟨v, hv, Or.inl ⟨hlt, hgs, rfl⟩⟩
      · exact ⟨v, hv, Or.inr ⟨hle, gs', ih hread, hgs⟩⟩

/-- **What is written is read back**, in as many groups as its size asks for. -/
theorem read_write (c : Varint β) (v : ℕ) : ∃ gs, c.value gs = v ∧
    (∀ n, 0 < n → v < (2 ^ c.width) ^ n → gs.length ≤ n) ∧
      ∀ rest, c.read (c.write v ++ rest) = some (gs, rest) := by
  induction v using Nat.strong_induction_on with
  | _ v ih =>
      have hpos : 0 < 2 ^ c.width := Nat.two_pow_pos c.width
      unfold write
      by_cases hlt : v < 2 ^ c.width
      · rw [if_pos hlt]
        refine ⟨[v], c.value_singleton v, fun n hn _ => hn, fun rest => ?_⟩
        exact read_cons_eq_some.2 ⟨v, c.symbol_byte v (by omega), Or.inl ⟨hlt, rfl, rfl⟩⟩
      · rw [if_neg hlt]
        obtain ⟨gs, hvalue, hlength, hread⟩ := ih (v / 2 ^ c.width)
          (Nat.div_lt_self (by omega) c.base_gt_one)
        have hdigit : v % 2 ^ c.width < 2 ^ c.width := Nat.mod_lt _ hpos
        refine ⟨v % 2 ^ c.width :: gs, ?_, fun n hn hsize => ?_, fun rest => ?_⟩
        · rw [value_cons, hvalue, Nat.mod_add_div]
        · -- the number is not below the base, so there is a power more
          obtain ⟨k, rfl⟩ := Nat.exists_eq_succ_of_ne_zero hn.ne'
          rw [List.length_cons]
          refine Nat.succ_le_succ (hlength k (Nat.pos_of_ne_zero ?_) ?_)
          · rintro rfl
            rw [Nat.succ_eq_add_one, zero_add, pow_one] at hsize
            exact hlt hsize
          · rw [Nat.div_lt_iff_lt_mul hpos, ← pow_succ]
            exact hsize
        · refine read_cons_eq_some.2 ⟨v % 2 ^ c.width + 2 ^ c.width, c.symbol_byte _ (by omega),
            Or.inr ⟨Nat.le_add_left _ _, gs, hread rest, ?_⟩⟩
          rw [Nat.add_mod_right, Nat.mod_mod]

/-- A number of one group. -/
theorem write_of_lt (c : Varint β) {v : ℕ} (h : v < 2 ^ c.width) : c.write v = [c.byte v] := by
  rw [write, if_pos h]

theorem write_ne_nil (c : Varint β) (v : ℕ) : c.write v ≠ [] := by
  unfold write
  split_ifs
  · exact List.cons_ne_nil _ _
  · exact List.cons_ne_nil _ _

/-- **What ends before its last group is not read.** -/
theorem read_of_prefix {v : ℕ} (h : bs <+: c.write v) (hne : bs ≠ c.write v) : c.read bs = none := by
  obtain ⟨more, hmore⟩ := h
  obtain ⟨gs, _, _, hread⟩ := c.read_write v
  cases hbs : c.read bs with
  | none => rfl
  | some r =>
      have hall := read_append (hbs : c.read bs = some (r.1, r.2)) more
      have hwhole := hread []
      rw [List.append_nil, ← hmore, hall] at hwhole
      obtain ⟨_, hnil⟩ := Prod.mk.inj (Option.some.inj hwhole)
      rw [(List.append_eq_nil_iff.1 hnil).2, List.append_nil] at hmore
      exact absurd hmore hne

/-! ### Several numbers -/

/-- A text is read as some numbers, in groups. -/
inductive Reads (c : Varint β) : List β → List (List ℕ) → Prop
  | nil : Reads c [] []
  | cons {bs rest : List β} {gs : List ℕ} {comps : List (List ℕ)} (h : c.read bs = some (gs, rest))
    (hrest : Reads c rest comps) : Reads c bs (gs :: comps)

theorem Reads.unique {comps comps' : List (List ℕ)} (h : c.Reads bs comps) (h' : c.Reads bs comps') :
    comps = comps' := by
  induction h generalizing comps' with
  | nil =>
      cases h' with
      | nil => rfl
      | cons hread _ => cases hread
  | cons hread _ ih =>
      cases h' with
      | nil => cases hread
      | cons hread' hrest' =>
          obtain ⟨rfl, rfl⟩ := Prod.mk.inj (Option.some.inj (hread.symm.trans hread'))
          rw [ih hrest']

/-- Groups are below the base. -/
theorem Reads.lt {comps : List (List ℕ)} (h : c.Reads bs comps) :
    ∀ gs ∈ comps, ∀ g ∈ gs, g < 2 ^ c.width := by
  induction h with
  | nil => exact fun _ hgs => absurd hgs List.not_mem_nil
  | cons hread _ ih => exact List.forall_mem_cons.2 ⟨lt_of_read hread, ih⟩

/-- A number is below the power that has as many groups. -/
theorem value_lt {gs : List ℕ} (h : ∀ g ∈ gs, g < 2 ^ c.width) :
    c.value gs < (2 ^ c.width) ^ gs.length := Nat.ofDigits_lt_base_pow_length c.base_gt_one h

end Varint

/-! ### Signs -/

/-- Twice the number, complemented if it is negative. -/
def zigzag (n : ℤ) : ℕ := (if n < 0 then -(2 * n) - 1 else 2 * n).toNat

/-- Half the number, rounded down, and complemented if the number is odd. -/
def unzigzag (v : ℤ) : ℤ := if v % 2 = 1 then -(v / 2) - 1 else v / 2

theorem zigzag_cast (n : ℤ) : (zigzag n : ℤ) = if n < 0 then -(2 * n) - 1 else 2 * n := by
  unfold zigzag
  split_ifs <;> omega

/-- **A signed number is read back.** -/
@[simp] theorem unzigzag_zigzag (n : ℤ) : unzigzag (zigzag n) = n := by
  rw [zigzag_cast]
  unfold unzigzag
  split_ifs <;> omega

end Lib
