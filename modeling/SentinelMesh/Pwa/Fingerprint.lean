/-
# What a fingerprint tells

`fingerprintPayload` of `services/identityStore.ts`: SHA-256 of the public key and the sorted lines of
the circles, a line being the id of a circle and the digest of its key.

Where SHA-256 is injective, nothing is lost from the digest back to the lines, for circle ids without
line breaks: the text is taken apart at its line breaks and a line at its last colon.  The lines do
not name the epochs, and so `fingerprint_eq_iff` is about the public key and the keys of the circles
alone, and `fingerprint_exact_iff` says for which payloads that is enough.
-/

import SentinelMesh.Pwa.Backup
import Mathlib.Data.List.Nodup

namespace SentinelMesh
namespace Pwa
namespace Backup

open Lib

variable {crypto : Crypto}

/-- **What the digests are relied on for.**  Different bytes have different digests, a digest is not
empty, and a public key is written without a line break. -/
structure Crypto.Digests (crypto : Crypto) : Prop where
  sha256_injective : Function.Injective crypto.sha256
  sha256_ne_nil : ∀ bytes, crypto.sha256 bytes ≠ []
  publicKey_line : ∀ sk, '\n' ∉ (crypto.getPublicKey sk).toList

/-! ### Hexadecimal digits -/

/-- Digits of different values differ, and they are neither line breaks nor colons. -/
theorem hexDigit_inj {m n : ℕ} (hm : m < 16) (hn : n < 16) (h : hexDigit m = hexDigit n) : m = n := by
  have hall : ∀ m < 16, ∀ n < 16, hexDigit m = hexDigit n → m = n := by decide
  exact hall m hm n hn h

theorem hexDigit_spec {n : ℕ} (h : n < 16) : hexDigit n ≠ '\n' ∧ hexDigit n ≠ ':' := by
  have hall : ∀ n < 16, hexDigit n ≠ '\n' ∧ hexDigit n ≠ ':' := by decide
  exact hall n h

theorem hexDigits_inj {bs bs' : Bytes}
    (h : (bs.flatMap fun b => [hexDigit (b.toNat / 16), hexDigit (b.toNat % 16)]) =
      bs'.flatMap fun b => [hexDigit (b.toNat / 16), hexDigit (b.toNat % 16)]) : bs = bs' := by
  induction bs generalizing bs' with
  | nil =>
      cases bs' with
      | nil => rfl
      | cons b' bs' => cases h
  | cons b bs ih =>
      cases bs' with
      | nil => cases h
      | cons b' bs' =>
          rw [List.flatMap_cons, List.flatMap_cons] at h
          obtain ⟨hhi, hrest⟩ := List.cons.inj h
          obtain ⟨hlo, hrest⟩ := List.cons.inj hrest
          have hb := b.toNat_lt
          have hb' := b'.toNat_lt
          have hdiv := hexDigit_inj (by omega) (by omega) hhi
          have hmod := hexDigit_inj (by omega) (by omega) hlo
          have heq : b = b' := UInt8.toNat_inj.1 (by omega)
          rw [heq, ih hrest]

theorem hexOf_injective : Function.Injective hexOf :=
  fun _ _ h => hexDigits_inj (String.ofList_injective h)

theorem mem_hexOf {c : Char} {bs : Bytes} (h : c ∈ (hexOf bs).toList) : c ≠ '\n' ∧ c ≠ ':' := by
  rw [hexOf, String.toList_ofList, List.mem_flatMap] at h
  obtain ⟨b, -, hc⟩ := h
  have hb := b.toNat_lt
  rcases List.mem_cons.1 hc with rfl | hc
  · exact hexDigit_spec (by omega)
  · obtain rfl := List.mem_singleton.1 hc
    exact hexDigit_spec (by omega)

/-! ### Lines -/

/-- A list is cut at the first occurrence of an element. -/
theorem cut_inj {α : Type} {c : α} {xs ys as bs : List α} (hx : c ∉ xs) (hy : c ∉ ys)
    (h : xs ++ c :: as = ys ++ c :: bs) : xs = ys ∧ as = bs := by
  induction xs generalizing ys with
  | nil =>
      cases ys with
      | nil => exact ⟨rfl, (List.cons.inj h).2⟩
      | cons y ys =>
          have hc : c = y := (List.cons.inj h).1
          exact absurd (hc ▸ List.mem_cons_self) hy
  | cons x xs ih =>
      cases ys with
      | nil =>
          have hc : x = c := (List.cons.inj h).1
          exact absurd (hc ▸ List.mem_cons_self) hx
      | cons y ys =>
          obtain ⟨hxy, hrest⟩ := List.cons.inj h
          obtain ⟨hxs, has⟩ := ih (fun hc => hx (List.mem_cons_of_mem x hc))
            (fun hc => hy (List.mem_cons_of_mem y hc)) hrest
          exact ⟨by rw [hxy, hxs], has⟩

theorem sha256Hex_inj (hdigests : crypto.Digests) {bs bs' : Bytes}
    (h : crypto.sha256Hex bs = crypto.sha256Hex bs') : bs = bs' :=
  hdigests.sha256_injective (hexOf_injective h)

theorem sha256Hex_ne_empty (hdigests : crypto.Digests) (bs : Bytes) : crypto.sha256Hex bs ≠ "" := by
  intro h
  have hempty : hexOf (crypto.sha256 bs) = hexOf [] := h
  exact hdigests.sha256_ne_nil bs (hexOf_injective hempty)

/-- The characters of a line. -/
theorem toList_line (c : VaultCircle) : (crypto.line c).toList =
    c.id.toList ++ ':' :: (crypto.sha256Hex c.key).toList := by
  unfold Crypto.line
  rw [String.toList_append, String.toList_append, List.append_assoc]
  rfl

/-- **A line tells the circle and its key.** -/
theorem line_inj (hdigests : crypto.Digests) {c c' : VaultCircle}
    (h : crypto.line c = crypto.line c') : c.id = c'.id ∧ c.key = c'.key := by
  have hchars : (crypto.line c).toList.reverse = (crypto.line c').toList.reverse := by rw [h]
  rw [toList_line, toList_line, List.reverse_append, List.reverse_append, List.reverse_cons,
    List.reverse_cons, List.append_assoc, List.append_assoc, List.singleton_append,
    List.singleton_append] at hchars
  have hcolon : ∀ c : VaultCircle, ':' ∉ (crypto.sha256Hex c.key).toList.reverse :=
    fun c hc => (mem_hexOf (List.mem_reverse.1 hc)).2 rfl
  obtain ⟨hkey, hid⟩ := cut_inj (hcolon c) (hcolon c') hchars
  exact ⟨String.toList_injective (List.reverse_injective hid),
    sha256Hex_inj hdigests (String.toList_injective (List.reverse_injective hkey))⟩

/-- The circle ids are without line breaks. -/
def NoBreaks (circles : List VaultCircle) : Prop := ∀ c ∈ circles, '\n' ∉ c.id.toList

theorem line_noBreak {c : VaultCircle} (h : '\n' ∉ c.id.toList) : '\n' ∉ (crypto.line c).toList := by
  intro hmem
  rw [toList_line] at hmem
  rcases List.mem_append.1 hmem with hmem | hmem
  · exact h hmem
  · rcases List.mem_cons.1 hmem with hcolon | hmem
    · exact absurd hcolon (by decide)
    · exact (mem_hexOf hmem).1 rfl

theorem line_ne_empty (c : VaultCircle) : (crypto.line c).toList ≠ [] := by
  rw [toList_line]
  simp

/-- Lines that are not empty are told from their text. -/
theorem intercalate_inj {ls ls' : List (List Char)} (h : ∀ l ∈ ls, '\n' ∉ l ∧ l ≠ [])
    (h' : ∀ l ∈ ls', '\n' ∉ l ∧ l ≠ []) (heq : ['\n'].intercalate ls = ['\n'].intercalate ls') :
    ls = ls' := by
  have hempty : ∀ {ls : List (List Char)}, (∀ l ∈ ls, '\n' ∉ l ∧ l ≠ []) →
      ['\n'].intercalate ls = [] → ls = [] := by
    intro ls h hnil
    by_contra hne
    have hsplit := List.splitOn_intercalate '\n' (fun l hl => (h l hl).1) hne
    rw [hnil] at hsplit
    have hmem : [] ∈ ls := by
      rw [← hsplit]
      exact List.mem_singleton_self []
    exact (h [] hmem).2 rfl
  by_cases hnil : ls = []
  · subst hnil
    exact (hempty h' heq.symm).symm
  · by_cases hnil' : ls' = []
    · subst hnil'
      exact hempty h heq
    · rw [← List.splitOn_intercalate '\n' (fun l hl => (h l hl).1) hnil, heq,
        List.splitOn_intercalate '\n' (fun l hl => (h' l hl).1) hnil']

/-! ### Fingerprints -/

/-- What a line is of. -/
def VaultCircle.named (c : VaultCircle) : Uuid × Bytes := (c.id, c.key)

/-- The line of a circle and a key. -/
def Crypto.lineOf (crypto : Crypto) (named : Uuid × Bytes) : String :=
  named.1 ++ ":" ++ crypto.sha256Hex named.2

theorem lineOf_injective (hdigests : crypto.Digests) : Function.Injective crypto.lineOf := by
  rintro ⟨id, key⟩ ⟨id', key'⟩ h
  have hline : crypto.line ⟨id, key, 1⟩ = crypto.line ⟨id', key', 1⟩ := h
  obtain ⟨hid, hkey⟩ := line_inj hdigests hline
  exact Prod.ext hid hkey

theorem map_line (crypto : Crypto) (cs : List VaultCircle) :
    cs.map crypto.line = (cs.map VaultCircle.named).map crypto.lineOf := by
  rw [List.map_map]
  rfl

/-- Lists that have the same elements are equal when sorted, and only they. -/
theorem insertionSort_eq_iff {xs ys : List String} :
    xs.insertionSort (· ≤ ·) = ys.insertionSort (· ≤ ·) ↔ xs.Perm ys := by
  constructor
  · intro h
    have hx := (List.perm_insertionSort (· ≤ ·) xs).symm
    rw [h] at hx
    exact hx.trans (List.perm_insertionSort (· ≤ ·) ys)
  · intro h
    have hperm := ((List.perm_insertionSort (· ≤ ·) xs).trans h).trans
      (List.perm_insertionSort (· ≤ ·) ys).symm
    exact hperm.eq_of_pairwise' (List.pairwise_insertionSort (· ≤ ·) xs)
      (List.pairwise_insertionSort (· ≤ ·) ys)

/-- The material tells the public key and the lines. -/
theorem material_inj (hdigests : crypto.Digests) {p q : VaultPayload} (hp : NoBreaks p.circles)
    (hq : NoBreaks q.circles) (h : crypto.material p = crypto.material q) :
    crypto.getPublicKey p.identitySk = crypto.getPublicKey q.identitySk ∧
      (p.circles.map crypto.line).Perm (q.circles.map crypto.line) := by
  have hchars : ∀ p : VaultPayload, (crypto.material p).toList =
      (crypto.getPublicKey p.identitySk).toList ++ '\n' ::
        ['\n'].intercalate (((p.circles.map crypto.line).insertionSort (· ≤ ·)).map String.toList) := by
    intro p
    unfold Crypto.material
    rw [String.toList_append, String.toList_append, String.toList_intercalate, List.append_assoc]
    rfl
  have hlines : ∀ {p : VaultPayload}, NoBreaks p.circles →
      ∀ l ∈ ((p.circles.map crypto.line).insertionSort (· ≤ ·)).map String.toList,
        '\n' ∉ l ∧ l ≠ [] := by
    intro p hp l hl
    obtain ⟨line, hline, rfl⟩ := List.mem_map.1 hl
    obtain ⟨c, hc, rfl⟩ := List.mem_map.1 ((List.mem_insertionSort (· ≤ ·)).1 hline)
    exact ⟨line_noBreak (hp c hc), line_ne_empty c⟩
  have heq : (crypto.material p).toList = (crypto.material q).toList := by rw [h]
  rw [hchars, hchars] at heq
  obtain ⟨hkey, htext⟩ := cut_inj (hdigests.publicKey_line _) (hdigests.publicKey_line _) heq
  have hinj : Function.Injective String.toList := fun _ _ => String.toList_injective
  have hsorted := List.map_injective_iff.2 hinj (intercalate_inj (hlines hp) (hlines hq) htext)
  exact ⟨String.toList_injective hkey, insertionSort_eq_iff.1 hsorted⟩

/-- **What a fingerprint tells**: the public key, and the keys of the circles, whatever their order. -/
theorem fingerprint_eq_iff (hdigests : crypto.Digests) {p q : VaultPayload} (hp : NoBreaks p.circles)
    (hq : NoBreaks q.circles) : crypto.fingerprint p = crypto.fingerprint q ↔
      crypto.getPublicKey p.identitySk = crypto.getPublicKey q.identitySk ∧
        (p.circles.map VaultCircle.named).Perm (q.circles.map VaultCircle.named) := by
  have hnamed : (p.circles.map crypto.line).Perm (q.circles.map crypto.line) ↔
      (p.circles.map VaultCircle.named).Perm (q.circles.map VaultCircle.named) := by
    rw [map_line, map_line, List.map_perm_map_iff (lineOf_injective hdigests)]
  constructor
  · intro h
    obtain ⟨hkey, hperm⟩ := material_inj hdigests hp hq
      (textEncode_injective (sha256Hex_inj hdigests h))
    exact ⟨hkey, hnamed.1 hperm⟩
  · rintro ⟨hkey, hperm⟩
    unfold Crypto.fingerprint Crypto.material
    rw [hkey, insertionSort_eq_iff.2 (hnamed.2 hperm)]

theorem fingerprint_ne_empty (hdigests : crypto.Digests) (p : VaultPayload) :
    crypto.fingerprint p ≠ "" :=
  sha256Hex_ne_empty hdigests _

/-- The same identity, as far as it is public, and the same entries. -/
def Same (crypto : Crypto) (p q : VaultPayload) : Prop :=
  crypto.getPublicKey p.identitySk = crypto.getPublicKey q.identitySk ∧
    ∀ c, c ∈ p.circles ↔ c ∈ q.circles

/-- **Payloads of one identity with the same keys of the same circles** have them at the same
epochs. -/
def SameEpochs (crypto : Crypto) (p q : VaultPayload) : Prop :=
  crypto.getPublicKey p.identitySk = crypto.getPublicKey q.identitySk →
    (p.circles.map VaultCircle.named).Perm (q.circles.map VaultCircle.named) →
      ∀ c, c ∈ p.circles ↔ c ∈ q.circles

/-- **When a fingerprint tells the entries**: exactly where none of the same keys is at another
epoch. -/
theorem fingerprint_exact_iff (hdigests : crypto.Digests) {p q : VaultPayload}
    (hp : NoBreaks p.circles) (hq : NoBreaks q.circles) (hnodup : p.circles.Nodup)
    (hnodup' : q.circles.Nodup) :
    (crypto.fingerprint p = crypto.fingerprint q ↔ Same crypto p q) ↔ SameEpochs crypto p q := by
  rw [fingerprint_eq_iff hdigests hp hq]
  constructor
  · intro h hkey hperm
    exact (h.1 ⟨hkey, hperm⟩).2
  · intro h
    refine ⟨fun ⟨hkey, hperm⟩ => ⟨hkey, h hkey hperm⟩, fun ⟨hkey, hsame⟩ => ⟨hkey, ?_⟩⟩
    exact ((List.perm_ext_iff_of_nodup hnodup hnodup').2 hsame).map _

end Backup
end Pwa
end SentinelMesh
