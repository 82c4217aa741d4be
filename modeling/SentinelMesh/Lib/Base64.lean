/-
# Base64

`encode` writes bytes in groups of three as four digits of six bits, with padding, and `decode`
reads a text the way the web platform does: white space is left out, the padding may be missing, and
bits that are left over are dropped.

`decode_encode` is that what was written is read.
-/

import Mathlib.Data.List.Basic
import Mathlib.Data.UInt

namespace Lib
namespace Base64

/-! ### Digits -/

/-- The 64 digits. -/
def alphabet : List Char :=
  "ABCDEFGHIJKLMNOPQRSTUVWXYZabcdefghijklmnopqrstuvwxyz0123456789+/".toList

/-- The digit of a value. -/
def digit (n : ℕ) : Char := alphabet.getD n 'A'

/-- The value of a digit. -/
def value (c : Char) : Option ℕ := alphabet.idxOf? c

/-- White space of ASCII. -/
def isSpace (c : Char) : Bool :=
  decide (c = ' ' ∨ c = '\t' ∨ c = '\n' ∨ c = '\x0c' ∨ c = '\r')

set_option maxRecDepth 2000 in
theorem value_digit {n : ℕ} (h : n < 64) : value (digit n) = some n := by
  have hall : ∀ n < 64, value (digit n) = some n := by decide
  exact hall n h

set_option maxRecDepth 2000 in
/-- A digit is neither white space nor padding. -/
theorem digit_spec {n : ℕ} (h : n < 64) : isSpace (digit n) = false ∧ digit n ≠ '=' := by
  have hall : ∀ n < 64, isSpace (digit n) = false ∧ digit n ≠ '=' := by decide
  exact hall n h

/-! ### Groups of bits -/

/-- The values of the digits of some bytes: four for three bytes, two for one and three for two. -/
def sextets : List UInt8 → List ℕ
  | [] => []
  | [a] => [a.toNat / 4, a.toNat % 4 * 16]
  | [a, b] => [a.toNat / 4, a.toNat % 4 * 16 + b.toNat / 16, b.toNat % 16 * 4]
  | a :: b :: c :: rest =>
    a.toNat / 4 :: (a.toNat % 4 * 16 + b.toNat / 16) :: (b.toNat % 16 * 4 + c.toNat / 64) ::
      c.toNat % 64 :: sextets rest

/-- The bytes of some digits; one digit alone is none. -/
def octets : List ℕ → Option (List UInt8)
  | [] => some []
  | [_] => none
  | [p, q] => some [UInt8.ofNat (p * 4 + q / 16)]
  | [p, q, r] => some [UInt8.ofNat (p * 4 + q / 16), UInt8.ofNat (q % 16 * 16 + r / 4)]
  | p :: q :: r :: s :: rest => (octets rest).map fun bs =>
    UInt8.ofNat (p * 4 + q / 16) :: UInt8.ofNat (q % 16 * 16 + r / 4) ::
      UInt8.ofNat (r % 4 * 64 + s) :: bs

/-- A byte from its value. -/
theorem ofNat_eq {n : ℕ} {a : UInt8} (h : n = a.toNat) : UInt8.ofNat n = a := by
  rw [h, UInt8.ofNat_toNat]

theorem sextets_lt (bs : List UInt8) : ∀ n ∈ sextets bs, n < 64 := by
  induction bs using sextets.induct with
  | case1 => exact fun n h => nomatch h
  | case2 a =>
      intro n h
      have ha := a.toNat_lt
      simp only [sextets, List.mem_cons, List.not_mem_nil, or_false] at h
      omega
  | case3 a b =>
      intro n h
      have ha := a.toNat_lt
      have hb := b.toNat_lt
      simp only [sextets, List.mem_cons, List.not_mem_nil, or_false] at h
      omega
  | case4 a b c rest ih =>
      intro n h
      have ha := a.toNat_lt
      have hb := b.toNat_lt
      have hc := c.toNat_lt
      simp only [sextets, List.mem_cons] at h
      rcases h with h | h | h | h | h
      · omega
      · omega
      · omega
      · omega
      · exact ih n h

/-- **The bits of some bytes are those of their digits.** -/
theorem octets_sextets (bs : List UInt8) : octets (sextets bs) = some bs := by
  induction bs using sextets.induct with
  | case1 => rfl
  | case2 a =>
      have ha := a.toNat_lt
      rw [sextets, octets, ofNat_eq (a := a) (by omega)]
  | case3 a b =>
      have ha := a.toNat_lt
      have hb := b.toNat_lt
      rw [sextets, octets, ofNat_eq (a := a) (by omega), ofNat_eq (a := b) (by omega)]
  | case4 a b c rest ih =>
      have ha := a.toNat_lt
      have hb := b.toNat_lt
      have hc := c.toNat_lt
      rw [sextets, octets, ih, Option.map_some, ofNat_eq (a := a) (by omega),
        ofNat_eq (a := b) (by omega), ofNat_eq (a := c) (by omega)]

theorem length_sextets (bs : List UInt8) :
    (sextets bs).length = bs.length / 3 * 4 + (bs.length % 3 * 4 + 2) / 3 := by
  induction bs using sextets.induct with
  | case1 => rfl
  | case2 a =>
      simp only [sextets, List.length_cons, List.length_nil]
  | case3 a b =>
      simp only [sextets, List.length_cons, List.length_nil]
  | case4 a b c rest ih =>
      rw [sextets]
      simp only [List.length_cons]
      omega

/-! ### Texts -/

/-- What fills up the last group. -/
def padding (n : ℕ) : List Char := List.replicate ((3 - n % 3) % 3) '='

/-- The base64 form of some bytes. -/
def encode (bs : List UInt8) : String :=
  String.ofList ((sextets bs).map digit ++ padding bs.length)

/-- A text without its padding, of which there are at most two characters. -/
def unpad (cs : List Char) : List Char :=
  match cs.reverse with
  | '=' :: '=' :: rest => rest.reverse
  | '=' :: rest => rest.reverse
  | _ => cs

/-- The bytes that a text is the base64 form of. -/
def decode (s : String) : Option (List UInt8) :=
  let cs := s.toList.filter fun c => !isSpace c
  ((if cs.length % 4 = 0 then unpad cs else cs).mapM value).bind octets

theorem mapM_digit {ns : List ℕ} (h : ∀ n ∈ ns, n < 64) : (ns.map digit).mapM value = some ns := by
  induction ns with
  | nil => rfl
  | cons n ns ih =>
      have hn : value (digit n) = some n := value_digit (h n List.mem_cons_self)
      rw [List.map_cons, List.mapM_cons, hn, ih fun m hm => h m (List.mem_cons_of_mem n hm)]
      rfl

/-- Digits that are followed by padding. -/
theorem unpad_digits {ns : List ℕ} (h : ∀ n ∈ ns, n < 64) {k : ℕ} (hk : k ≤ 2) :
    unpad (ns.map digit ++ List.replicate k '=') = ns.map digit := by
  have hlast : ∀ c cs, (ns.map digit).reverse = c :: cs → c ≠ '=' := by
    intro c cs hrev
    have hmem : c ∈ (ns.map digit).reverse := by
      rw [hrev]
      exact List.mem_cons_self
    obtain ⟨n, hn, rfl⟩ := List.mem_map.1 (List.mem_reverse.1 hmem)
    exact (digit_spec (h n hn)).2
  have hrev : (ns.map digit ++ List.replicate k '=').reverse =
      List.replicate k '=' ++ (ns.map digit).reverse := by
    rw [List.reverse_append, List.reverse_replicate]
  have hback : (ns.map digit).reverse.reverse = ns.map digit := List.reverse_reverse _
  unfold unpad
  rw [hrev]
  match k, hk with
  | 0, _ =>
      cases hr : (ns.map digit).reverse with
      | nil =>
          rw [hr] at hback
          rw [← hback]
          rfl
      | cons c cs =>
          have hc := hlast c cs hr
          simp only [List.replicate_zero, List.nil_append, List.append_nil]
          split
          · rename_i heq
            exact absurd (List.cons.inj heq).1 hc
          · rename_i heq
            exact absurd (List.cons.inj heq).1 hc
          · rfl
  | 1, _ =>
      cases hr : (ns.map digit).reverse with
      | nil =>
          rw [hr] at hback
          rw [← hback]
          rfl
      | cons c cs =>
          have hc := hlast c cs hr
          rw [hr] at hback
          simp only [List.replicate_one, List.singleton_append]
          split
          · rename_i heq
            exact absurd (List.cons.inj (List.cons.inj heq).2).1 hc
          · rename_i heq
            rw [← (List.cons.inj heq).2, hback]
          · rename_i hnot
            exact absurd rfl (hnot _)
  | 2, _ => exact hback

/-- **What was written is read.** -/
theorem decode_encode (bs : List UInt8) : decode (encode bs) = some bs := by
  have hlt := sextets_lt bs
  have hspace : ((encode bs).toList.filter fun c => !isSpace c) =
      (sextets bs).map digit ++ padding bs.length := by
    rw [encode, String.toList_ofList, List.filter_eq_self]
    intro c hc
    rcases List.mem_append.1 hc with hc | hc
    · obtain ⟨n, hn, rfl⟩ := List.mem_map.1 hc
      rw [(digit_spec (hlt n hn)).1]
      rfl
    · rw [List.eq_of_mem_replicate hc]
      rfl
  have hlen : ((sextets bs).map digit ++ padding bs.length).length % 4 = 0 := by
    rw [List.length_append, List.length_map, length_sextets, padding, List.length_replicate]
    have hrest : bs.length % 3 = 0 ∨ bs.length % 3 = 1 ∨ bs.length % 3 = 2 := by omega
    rcases hrest with h | h | h
    · rw [h]
      omega
    · rw [h]
      omega
    · rw [h]
      omega
  have hpad : unpad ((sextets bs).map digit ++ padding bs.length) = (sextets bs).map digit :=
    unpad_digits hlt (by omega)
  unfold decode
  rw [hspace]
  dsimp only
  rw [if_pos hlen, hpad, mapM_digit hlt, Option.bind_some, octets_sextets]

/-- The padding is there to be read, or to be left out. -/
example : encode [77, 97] = "TWE=" ∧ decode " TWE=\n" = some [77, 97] ∧
    decode "TWE" = some [77, 97] ∧ decode "T" = none := by decide

end Base64
end Lib
