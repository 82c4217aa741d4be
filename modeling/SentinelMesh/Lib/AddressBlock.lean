/-
# Blocks of addresses

A block has the addresses of some width that begin with the bits of its first one, as many as its
length says.  It is a range (`mem_iff`), a mask says whether an address is in it
(`and_mask_eq_iff`), and two blocks are nested or apart, which their first addresses decide
(`mem_congr`, `not_mem_of_apart`).
-/

import Mathlib.Data.Nat.Basic
import Mathlib.Algebra.Order.Ring.Nat

namespace Lib

/-- A block of addresses. -/
structure Block (width : ℕ) where
  first : ℕ
  length : ℕ
  length_le : length ≤ width := by decide
  aligned : first % 2 ^ (width - length) = 0 := by decide

namespace Block

variable {width : ℕ}

/-- How many addresses a block has. -/
def size (b : Block width) : ℕ := 2 ^ (width - b.length)

instance : Membership ℕ (Block width) := ⟨fun b x => x / b.size = b.first / b.size⟩

instance (x : ℕ) (b : Block width) : Decidable (x ∈ b) :=
  inferInstanceAs (Decidable (x / b.size = b.first / b.size))

variable {x : ℕ} {b b' : Block width}

theorem mem_def : x ∈ b ↔ x / b.size = b.first / b.size := Iff.rfl

theorem size_pos (b : Block width) : 0 < b.size := Nat.two_pow_pos _

theorem size_mul_div (b : Block width) : b.size * (b.first / b.size) = b.first :=
  Nat.mul_div_cancel' (Nat.dvd_of_mod_eq_zero b.aligned)

/-- **A block is a range.** -/
theorem mem_iff : x ∈ b ↔ b.first ≤ x ∧ x < b.first + b.size := by
  have hpos := b.size_pos
  have hfirst := b.size_mul_div
  rw [mem_def, Nat.div_eq_iff hpos, Nat.mul_comm, hfirst]
  omega

/-- **Blocks are nested or apart**: those of a block that is not shorter are in the other or not as the
first of them is. -/
theorem mem_congr (hlength : b.length ≤ b'.length) (h : x ∈ b') : x ∈ b ↔ b'.first ∈ b := by
  have hsize : b.size = b'.size * 2 ^ (b'.length - b.length) := by
    have := b'.length_le
    rw [size, size, ← pow_add]
    congr 1
    omega
  rw [mem_def, mem_def, hsize, ← Nat.div_div_eq_div_mul, ← Nat.div_div_eq_div_mul,
    ← Nat.div_div_eq_div_mul, mem_def.1 h]

/-- Blocks are apart if neither has the first address of the other. -/
theorem not_mem_of_apart (hfirst : b.first ∉ b') (hfirst' : b'.first ∉ b) (h : x ∈ b') : x ∉ b := by
  intro hx
  rcases le_total b.length b'.length with hlength | hlength
  · exact hfirst' ((mem_congr hlength h).1 hx)
  · exact hfirst ((mem_congr hlength hx).1 h)

theorem and_shiftLeft (x m k : ℕ) : x &&& m <<< k = ((x >>> k) &&& m) <<< k := by
  refine Nat.eq_of_testBit_eq fun i => ?_
  rw [Nat.testBit_and, Nat.testBit_shiftLeft, Nat.testBit_shiftLeft, Nat.testBit_and,
    Nat.testBit_shiftRight]
  by_cases hi : k ≤ i
  · rw [Nat.add_sub_cancel' hi, decide_eq_true hi, Bool.true_and, Bool.true_and]
  · rw [decide_eq_false hi, Bool.false_and, Bool.false_and, Bool.and_false]

/-- **A mask says what is in a block.** -/
theorem and_mask_eq_iff (hx : x < 2 ^ width) : x &&& (2 ^ width - b.size) = b.first ↔ x ∈ b := by
  have hmask : 2 ^ width - b.size = (2 ^ b.length - 1) <<< (width - b.length) := by
    rw [size, Nat.shiftLeft_eq, Nat.sub_mul, ← pow_add, Nat.add_sub_cancel' b.length_le, Nat.one_mul]
  have hlow : x >>> (width - b.length) < 2 ^ b.length := by
    rw [Nat.shiftRight_eq_div_pow, Nat.div_lt_iff_lt_mul (Nat.two_pow_pos _), ← pow_add,
      Nat.add_sub_cancel' b.length_le]
    exact hx
  have hhigh : x &&& (2 ^ width - b.size) = b.size * (x / b.size) := by
    calc x &&& (2 ^ width - b.size)
        = ((x >>> (width - b.length)) &&& (2 ^ b.length - 1)) <<< (width - b.length) := by
          rw [hmask, and_shiftLeft]
      _ = (x >>> (width - b.length)) <<< (width - b.length) := by
          rw [Nat.and_two_pow_sub_one_eq_mod, Nat.mod_eq_of_lt hlow]
      _ = b.size * (x / b.size) := by
          rw [Nat.shiftLeft_eq, Nat.shiftRight_eq_div_pow, Nat.mul_comm, size]
  rw [hhigh, mem_def]
  constructor
  · intro h
    rw [← h, Nat.mul_div_cancel_left _ b.size_pos]
  · intro h
    rw [h, b.size_mul_div]

end Block
end Lib
