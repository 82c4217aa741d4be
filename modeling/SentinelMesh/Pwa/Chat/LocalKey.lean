/-
# The key that local messages are encrypted under

`getOrCreateEncryptionKey`, `encryptLocalPlaintext` and `decryptLocalPlaintext` of
`services/chat/chatStore.ts`, as tasks over the row of the key, called any number of times from any
number of tabs.

The key is made by a read, a generation and a write, with others in between.  A write that finds a
key there replaces it, and what was encrypted under it is lost (`overwritten_key`).  Where every
write finds the row absent, a key that is there stays (`keyDiscipline`), and a ciphertext is read
back by every later call (`readable`).

AES-GCM is ideal: a ciphertext is a key and a plaintext.  A text is a list of code points, of
which a lone surrogate is one; the bytes of `TextEncoder` are given by the code points they
encode.  Operations on the database do not fail.
-/

import SentinelMesh.Lib.Async

namespace SentinelMesh
namespace Pwa
namespace Chat
namespace LocalKey

open Lib Lib.Async

/-! ### Texts -/

/-- A code point, surrogates included. -/
abbrev CodePoint := Fin 0x110000

/-- A JavaScript string. -/
abbrev Text := List CodePoint

/-- The code point is a surrogate that has no partner. -/
def isSurrogate (c : CodePoint) : Bool := decide (0xD800 ≤ c.val) && decide (c.val < 0xE000)

/-- `new TextEncoder().encode`: a lone surrogate becomes the replacement character. -/
def textEncode (text : Text) : Text := text.map fun c => if isSurrogate c then 0xFFFD else c

/-- `new TextDecoder().decode`: a byte order mark at the start is left out. -/
def textDecode : Text → Text
  | [] => []
  | c :: cs => if c = 0xFEFF then cs else c :: cs

/-- A text that encoding and decoding leave as it is. -/
def Plain (text : Text) : Prop := (∀ c ∈ text, isSurrogate c = false) ∧ text.head? ≠ some 0xFEFF

theorem textEncode_eq_self_iff {text : Text} :
    textEncode text = text ↔ ∀ c ∈ text, isSurrogate c = false := by
  induction text with
  | nil => simp [textEncode]
  | cons c cs ih =>
      have hhead : (if isSurrogate c then 0xFFFD else c) = c ↔ isSurrogate c = false := by
        cases hc : isSurrogate c with
        | false => simp
        | true =>
            have hne : (0xFFFD : CodePoint) ≠ c := fun h => by
              rw [← h] at hc
              exact absurd hc (by decide)
            simp [hne]
      have htail : (cs.map fun c => if isSurrogate c then 0xFFFD else c) = cs ↔
          ∀ c ∈ cs, isSurrogate c = false := ih
      rw [textEncode, List.map_cons, List.cons.injEq, hhead, htail, List.forall_mem_cons]

/-- **Encoding and decoding** give back exactly the texts without lone surrogates and without a
mark at the start. -/
theorem textDecode_textEncode_iff {text : Text} :
    textDecode (textEncode text) = text ↔ Plain text := by
  cases text with
  | nil => simp [textDecode, textEncode, Plain]
  | cons c cs =>
      by_cases hmark : (if isSurrogate c then 0xFFFD else c) = 0xFEFF
      · have hc : c = 0xFEFF := by
          split_ifs at hmark with hs
          · exact absurd hmark (by decide)
          · exact hmark
        have hshort : (textDecode (textEncode (c :: cs))).length ≠ (c :: cs).length := by
          rw [textEncode, List.map_cons, textDecode, if_pos hmark, List.length_map, List.length_cons]
          omega
        refine iff_of_false (fun h => hshort (congrArg List.length h)) fun h => h.2 ?_
        rw [hc]
        rfl
      · have hdecode : textDecode (textEncode (c :: cs)) = textEncode (c :: cs) := by
          rw [textEncode, List.map_cons, textDecode, if_neg hmark]
        have hhead : isSurrogate c = false → (c :: cs).head? ≠ some 0xFEFF := by
          intro hs h
          rw [hs] at hmark
          exact hmark (Option.some.inj h)
        rw [hdecode, textEncode_eq_self_iff]
        exact ⟨fun h => ⟨h, hhead (h c List.mem_cons_self)⟩, fun h => h.1⟩

/-! ### The tasks -/

/-- A non-extractable `CryptoKey`, by when it was generated. -/
abbrev CryptoKey := ℕ

/-- What `encrypt` returns: it decrypts under the key, to the plaintext. -/
structure Ciphertext where
  key : CryptoKey
  plain : Text
  deriving DecidableEq

/-- The row `local-encryption-key` of the store `crypto`, and the next key `generateKey` makes. -/
structure CryptoStore where
  key : Option CryptoKey := none
  nextKey : CryptoKey := 0
  deriving DecidableEq

/-- What the functions wait for. -/
inductive Op
  | getKey
  | generateKey
  | putKey (key : CryptoKey)
  | encrypt (key : CryptoKey) (data : Text)
  | decrypt (key : CryptoKey) (data : Ciphertext)

/-- What it answers; `none` of `decrypt` is a throw. -/
def Op.Res : Op → Type
  | getKey => Option CryptoKey
  | generateKey => CryptoKey
  | putKey _ => Unit
  | encrypt _ _ => Ciphertext
  | decrypt _ _ => Option Text

/-- What it answers, and does to the database. -/
def answer : (op : Op) → CryptoStore → op.Res × CryptoStore
  | .getKey, s => (s.key, s)
  | .generateKey, s => (s.nextKey, { s with nextKey := s.nextKey + 1 })
  | .putKey key, s => ((), { s with key := some key })
  | .encrypt key data, s => ({ key, plain := data }, s)
  | .decrypt key data, s => (if data.key = key then some data.plain else none, s)

/-- No operation is blocked. -/
def perform (op : Op) (_ : Unit) (s : CryptoStore) : Option (op.Res × CryptoStore) :=
  some (answer op s)

/-- `getOrCreateEncryptionKey`. -/
def getOrCreateEncryptionKey : Task Op Op.Res CryptoKey := do
  let row : Option CryptoKey ← Task.await Op.getKey
  match row with
  | some key => pure key
  | none =>
    let key : CryptoKey ← Task.await Op.generateKey
    Task.await (Op.putKey key)
    pure key

/-- `encryptLocalPlaintext`. -/
def encryptLocalPlaintext (plaintext : Text) : Task Op Op.Res Ciphertext := do
  let key ← getOrCreateEncryptionKey
  Task.await (Op.encrypt key (textEncode plaintext))

/-- `decryptLocalPlaintext`. -/
def decryptLocalPlaintext (ciphertext : Ciphertext) : Task Op Op.Res (Option Text) := do
  let key ← getOrCreateEncryptionKey
  let plain : Option Text ← Task.await (Op.decrypt key ciphertext)
  pure (plain.map textDecode)

/-- A call. -/
inductive Call
  | encrypt (plaintext : Text)
  | decrypt (ciphertext : Ciphertext)
  deriving DecidableEq

/-- What a call returns. -/
inductive Outcome
  | encrypted (c : Ciphertext)
  | decrypted (text : Option Text)
  deriving DecidableEq

/-- The calls on one database. -/
def system : System CryptoStore Call Op Op.Res Unit Outcome where
  body
    | .encrypt plaintext => do pure (.encrypted (← encryptLocalPlaintext plaintext))
    | .decrypt ciphertext => do pure (.decrypted (← decryptLocalPlaintext ciphertext))
  perform _ _ := perform

/-! ### Keys that stay -/

/-- A write of a key finds none there. -/
def FindsNoKey (_ : Call) (op : Op) (_ : Unit) (s : CryptoStore) : Prop :=
  match op with
  | .putKey _ => s.key = none
  | .getKey | .generateKey | .encrypt _ _ | .decrypt _ _ => True

instance (c : Call) (op : Op) (x : Unit) (s : CryptoStore) : Decidable (FindsNoKey c op x s) :=
  match op with
  | .putKey _ => inferInstanceAs (Decidable (s.key = none))
  | .getKey | .generateKey | .encrypt _ _ | .decrypt _ _ => isTrue trivial

/-- Where writes find no key, a key that is there stays. -/
def keyDiscipline : Discipline CryptoStore Call Op Unit where
  Inv _ := True
  Rely _ s s' := ∀ k, s.key = some k → s'.key = some k
  Cond _ := FindsNoKey
  Local _ _ _ := True
  refl _ _ _ h := h
  trans _ _ _ _ h h' k hk := h' k (h k hk)
  stays _ _ _ _ _ _ := trivial

/-- What a call has shown when it ends. -/
def Shows (_ : ℕ) (i : Call × CryptoStore) (a : Outcome) (s : CryptoStore) : Prop :=
  match i.1, a with
  | .encrypt plaintext, .encrypted c => c.plain = textEncode plaintext ∧ s.key = some c.key
  | .decrypt c, .decrypted text => i.2.key = some c.key → text = some (textDecode c.plain)
  | _, _ => False

/-- A step that leaves the key is one the others count on. -/
theorem guarantees_of_key {n : ℕ} {i : Call × CryptoStore} {s s' : CryptoStore}
    (h : s'.key = s.key) : keyDiscipline.Guarantees n i s s' :=
  ⟨trivial, fun _ _ _ hk => h.trans hk, trivial⟩

/-- **The key a call has** is the one that is stored, and the one that was stored before. -/
theorem safe_getOrCreate (n : ℕ) (i : Call × CryptoStore) (s : CryptoStore) :
    Safe keyDiscipline system.perform n i
      (fun key s' => s'.key = some key ∧ ∀ k, s.key = some k → key = k)
      getOrCreateEncryptionKey s := by
  intro s₁ _ _ hrely x r s₂ _ hperform
  obtain ⟨rfl, rfl⟩ := Prod.mk.inj (Option.some.inj hperform)
  refine ⟨guarantees_of_key rfl, ?_⟩
  cases hkey : s₁.key with
  | some key =>
      refine safe_done ⟨hkey, fun k hk => ?_⟩ fun s' _ hstay h => ⟨hstay key h.1, h.2⟩
      exact Option.some.inj (hkey.symm.trans (hrely k hk))
  | none =>
      have hnone : ∀ k, s.key ≠ some k := fun k hk => nomatch hkey.symm.trans (hrely k hk)
      intro s₂ _ _ _ x r s₃ _ hperform
      obtain ⟨rfl, rfl⟩ := Prod.mk.inj (Option.some.inj hperform)
      refine ⟨guarantees_of_key rfl, ?_⟩
      intro s₃ _ _ _ x r s₄ hcond hperform
      obtain ⟨rfl, rfl⟩ := Prod.mk.inj (Option.some.inj hperform)
      have habsent : s₃.key = none := hcond
      refine ⟨⟨trivial, fun _ _ k hk => (nomatch habsent.symm.trans hk), trivial⟩, ?_⟩
      exact safe_done ⟨rfl, fun k hk => absurd hk (hnone k)⟩ fun s' _ hstay h => ⟨hstay _ h.1, h.2⟩

/-- The ciphertext of a text is under the key that is stored. -/
theorem safe_encrypt (n : ℕ) (i : Call × CryptoStore) (s : CryptoStore) (plaintext : Text) :
    Safe keyDiscipline system.perform n i
      (fun c s' => c.plain = textEncode plaintext ∧ s'.key = some c.key)
      (encryptLocalPlaintext plaintext) s := by
  refine Safe.bind trivial trivial (safe_getOrCreate n i s) fun key s' _ _ hkey => ?_
  intro s₁ _ _ hstay x r s₂ _ hperform
  obtain ⟨rfl, rfl⟩ := Prod.mk.inj (Option.some.inj hperform)
  refine ⟨guarantees_of_key rfl, ?_⟩
  exact safe_done ⟨rfl, hstay key hkey.1⟩ fun _ _ hstay' h => ⟨h.1, hstay' _ h.2⟩

/-- A ciphertext under the key that was stored when the call began is decrypted. -/
theorem safe_decrypt (n : ℕ) (i : Call × CryptoStore) (s : CryptoStore) (c : Ciphertext) :
    Safe keyDiscipline system.perform n i
      (fun text _ => s.key = some c.key → text = some (textDecode c.plain))
      (decryptLocalPlaintext c) s := by
  refine Safe.bind trivial trivial (safe_getOrCreate n i s) fun key s' _ _ hkey => ?_
  intro s₁ _ _ _ x r s₂ _ hperform
  obtain ⟨rfl, rfl⟩ := Prod.mk.inj (Option.some.inj hperform)
  refine ⟨guarantees_of_key rfl, safe_done (fun hbegan => ?_) fun _ _ _ h => h⟩
  have hsame : c.key = key := (hkey.2 c.key hbegan).symm
  exact congrArg (Option.map textDecode) (if_pos hsame)

/-- **What each call shows when it ends**, wherever it begins. -/
theorem starts : keyDiscipline.Starts system Shows := by
  intro n c s _ _
  refine ⟨trivial, ?_⟩
  cases c with
  | encrypt plaintext =>
      refine Safe.bind trivial trivial (safe_encrypt n _ s plaintext) fun c s' _ _ hc => ?_
      exact safe_done hc fun _ _ hstay h => ⟨h.1, hstay _ h.2⟩
  | decrypt c =>
      refine Safe.bind trivial trivial (safe_decrypt n _ s c) fun text s' _ _ htext => ?_
      exact safe_done htext fun _ _ _ h => h

/-- Whatever happens, the ciphertext of a text is one of it. -/
theorem gives_encrypt (plaintext : Text) :
    Task.Gives perform (fun c => c.plain = textEncode plaintext) (encryptLocalPlaintext plaintext) := by
  refine Task.Gives.bind (P := fun _ => True) ?_ fun key _ => ?_
  · intro x s r s' hget
    change Task.Gives perform _ (match (r : Option CryptoKey) with
      | some key => .done key
      | none => .call .generateKey fun key => .call (.putKey key) fun _ => .done key)
    cases r with
    | some key => exact trivial
    | none => exact fun _ _ _ _ _ _ _ _ _ _ => trivial
  · intro x s r s' hencrypt
    obtain ⟨rfl, rfl⟩ := Prod.mk.inj (Option.some.inj hencrypt)
    rfl

/-- The calls made on a database that holds what `s` holds. -/
def made (s : CryptoStore) (as : List (Act Call Unit)) : Pool CryptoStore Call Op Op.Res Outcome :=
  run (step system) (Pool.init s) as

/-- Every write of a key finds none there: first uses do not overlap. -/
def FirstUseAlone (s : CryptoStore) (as : List (Act Call Unit)) : Prop :=
  ∀ e ∈ events (step system) (Pool.init s) as, Meets FindsNoKey e.pre e.act

theorem sound_made {s : CryptoStore} {as : List (Act Call Unit)} (h : FirstUseAlone s as) :
    Sound keyDiscipline system Shows (made s as) :=
  sound_run starts (sound_init trivial fun _ => trivial) h

/-- **A ciphertext that was returned is read back** by every later call, where first uses do not
overlap: exactly the texts that encoding keeps come back as they were. -/
theorem readable {s : CryptoStore} {as bs : List (Act Call Unit)} (h : FirstUseAlone s (as ++ bs))
    {n : ℕ} {plaintext : Text} {c : Ciphertext}
    (hreturned : (made s as).ended n (.encrypt plaintext) (.encrypted c)) {m : ℕ}
    (hlater : (made s as).threads[m]? = none) {text : Option Text}
    (hdecrypted : (made s (as ++ bs)).ended m (.decrypt c) (.decrypted text)) :
    text = some plaintext ↔ Plain plaintext := by
  obtain ⟨hfirst, hrest⟩ := forall_events_append.1 h
  have hsound := sound_made hfirst
  obtain ⟨t, ht, hcall, hdone⟩ := hreturned
  have hshown : c.plain = textEncode plaintext ∧ (made s as).store.key = some c.key := by
    have hends : Shows n (t.call, t.began) (.encrypted c) _ := hsound.ended ht hdone
    rw [hcall] at hends
    exact hends
  obtain ⟨t', ht', hcall', hdone'⟩ := hdecrypted
  have hreads : t'.began.key = some c.key → text = some (textDecode c.plain) := by
    have hends : Shows m (t'.call, t'.began) (.decrypted text) _ := (sound_made h).ended ht' hdone'
    rw [hcall'] at hends
    exact hends
  have hbegan : t'.began.key = some c.key := by
    rw [made, run_append] at ht'
    exact stable_began starts (P := fun s => s.key = some c.key) (fun _ _ _ hstay hk => hstay _ hk)
      hsound hshown.2 hrest ht' hlater
  rw [hreads hbegan, hshown.1, Option.some.injEq]
  exact textDecode_textEncode_iff

/-- A message is kept, and read when it is opened. -/
def keptAndRead : List (Act Call Unit) × List (Act Call Unit) :=
  ([.start (.encrypt [97]), .resume 0 (), .resume 0 (), .resume 0 (), .resume 0 ()],
    [.start (.decrypt ⟨0, [97]⟩), .resume 1 (), .resume 1 ()])

theorem readable_one : (some [97] : Option Text) = some [97] ↔ Plain [97] := by
  have halone : FirstUseAlone {} (keptAndRead.1 ++ keptAndRead.2) := by
    rw [FirstUseAlone]
    decide
  have hkept : (made {} keptAndRead.1).ended 0 (.encrypt [97]) (.encrypted ⟨0, [97]⟩) :=
    ⟨_, rfl, rfl, rfl⟩
  have hread : (made {} (keptAndRead.1 ++ keptAndRead.2)).ended 1 (.decrypt ⟨0, [97]⟩)
      (.decrypted (some [97])) := ⟨_, rfl, rfl, rfl⟩
  exact readable halone hkept rfl hread

/-- Two messages arrive on a new device: both find no key, and both make one. -/
def bothMakeKeys : List (Act Call Unit) :=
  [.start (.encrypt [97]), .start (.encrypt [98]), .resume 0 (), .resume 1 (), .resume 0 (),
    .resume 1 (), .resume 0 (), .resume 0 (), .resume 1 (), .resume 1 ()]

/-- The first message is opened later. -/
def openFirst : List (Act Call Unit) := [.start (.decrypt ⟨0, [97]⟩), .resume 2 (), .resume 2 ()]

/-- **Not every returned ciphertext is read back**: of two overlapping first uses, the second
writes its key over the first's. -/
theorem overwritten_key : ¬ ∀ (s : CryptoStore) (as bs : List (Act Call Unit)) (n m : ℕ)
    (plaintext : Text) (c : Ciphertext) (text : Option Text), Plain plaintext →
    (made s as).ended n (.encrypt plaintext) (.encrypted c) → (made s as).threads[m]? = none →
    (made s (as ++ bs)).ended m (.decrypt c) (.decrypted text) → text = some plaintext := by
  intro hclaim
  have hplain : Plain [97] := ⟨List.forall_mem_singleton.mpr rfl, fun h =>
    absurd (Fin.val_eq_of_eq (Option.some.inj h)) (by decide)⟩
  have hkept : (made {} bothMakeKeys).ended 0 (.encrypt [97]) (.encrypted ⟨0, [97]⟩) :=
    ⟨_, rfl, rfl, rfl⟩
  have hread : (made {} (bothMakeKeys ++ openFirst)).ended 2 (.decrypt ⟨0, [97]⟩)
      (.decrypted none) := ⟨_, rfl, rfl, rfl⟩
  exact nomatch hclaim {} bothMakeKeys openFirst 0 2 [97] ⟨0, [97]⟩ none hplain hkept rfl hread

end LocalKey
end Chat
end Pwa
end SentinelMesh
