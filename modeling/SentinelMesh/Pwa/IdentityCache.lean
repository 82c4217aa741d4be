/-
# The cached identity

`loadIdentity`, `getCachedKeypair`, `generateNewIdentity`, `restoreIdentityFromSecretKey` and
`importFromNsec` of `services/nostrService.ts`, as tasks over what the page shares with the vault, for
any number of calls in one tab, with or without web locks.

What a call has read from the vault or written to it, it puts into the cache one await later, and
nothing keeps others from writing in between: a boot that is under way overwrites the key that was
imported meanwhile (`boot_overwrites_import`).  Where no other call writes to the vault between the
read or the write of a call and its assignment, the cache holds what the vault holds
(`cached_is_stored`).

An identity is held by a call that has read or written it, by a promise that has resolved to it, and
by the cache.  A write to the vault makes stale what others hold than the one who writes; the history
says what is stale.
-/

import SentinelMesh.Pwa.Identity
import SentinelMesh.Pwa.Origin
import Mathlib.Logic.Function.Basic

namespace SentinelMesh
namespace Pwa
namespace IdentityCache

open Lib Lib.Task Lib.Async

variable (text : PayloadText)

/-! ### `nostrService.ts` -/

/-- The end of the init that `loadIdentity` starts: the key is put into the cache, and the promise
resolves. -/
def finishInit (promise : ℕ) (sk : Bytes) : OriginM Unit :=
  Task.attempt (Op.finishInit promise sk)

/-- The init that `loadIdentity` starts. -/
def init (promise : ℕ) (sk inMemory : Bytes) : OriginM Unit := OptionT.mk do
  let loaded ← (Tasks.loadOrCreateSecretKey text sk).run
  (finishInit promise (loaded.getD inMemory)).run

/-- What awaits a promise of such an init. -/
def awaitInit (promise : ℕ) : OriginM Bytes := Task.attempt (Op.awaitInit promise)

/-- `loadIdentity`, with the keys `generateSecretKey` makes for the vault and where that fails. -/
def loadIdentity (sk inMemory : Bytes) : OriginM Bytes := do
  let found : Boot ← Task.attempt Op.boot
  match found with
  | .cached cached => pure cached
  | .shared promise => awaitInit promise
  | .made promise =>
    init text promise sk inMemory
    awaitInit promise

/-- `getCachedKeypair`, with the key `generateSecretKey` makes where nothing is cached. -/
def getCachedKeypair (minted : Bytes) : OriginM Bytes := Task.attempt (Op.getCachedKeypair minted)

/-- `restoreIdentityFromSecretKey`. -/
def restoreIdentityFromSecretKey (sk : Bytes) : OriginM Bytes := do
  Tasks.saveSecretKey text sk
  Task.attempt (Op.replaceKeypair sk)
  pure sk

/-- `generateNewIdentity`, with the key `generateSecretKey` makes. -/
def generateNewIdentity (sk : Bytes) : OriginM Bytes := restoreIdentityFromSecretKey text sk

/-- `importFromNsec`, with the key the text decodes to: everything that is thrown is `null`. -/
def importFromNsec (decoded : Option Bytes) : OriginM (Option Bytes) := OptionT.mk do
  match decoded with
  | none => pure (some none)
  | some sk =>
    let kept ← (restoreIdentityFromSecretKey text sk).run
    pure (some kept)

/-- A call of the page. -/
inductive Call
  | loadIdentity (sk inMemory : Bytes)
  | getCachedKeypair (minted : Bytes)
  | generateNewIdentity (sk : Bytes)
  | restoreIdentityFromSecretKey (sk : Bytes)
  | importFromNsec (decoded : Option Bytes)

/-- The calls of a page: the key they return, or `null`; `none` is a rejection. -/
def system (locks : Bool) :
    System Origin Call Op (fun op => Option op.Ans) Fate (Option (Option Bytes)) where
  body
    | .loadIdentity sk inMemory => (some <$> loadIdentity text sk inMemory : OriginM _).run
    | .getCachedKeypair minted => (some <$> getCachedKeypair minted : OriginM _).run
    | .generateNewIdentity sk => (some <$> generateNewIdentity text sk : OriginM _).run
    | .restoreIdentityFromSecretKey sk =>
      (some <$> restoreIdentityFromSecretKey text sk : OriginM _).run
    | .importFromNsec decoded => (importFromNsec text decoded).run
  perform n _ := perform locks n

/-- The identity in the vault. -/
def identity (s : Origin) : Option Bytes := (s.device.vault text).map VaultPayload.identitySk

/-! ### What is stale -/

/-- What holds an identity. -/
inductive Holder
  | call (n : ℕ)
  | promise (promise : ℕ)
  | cache
  deriving DecidableEq

/-- Whose identity is stale, since others have written to the vault; which call has written to the
vault and is to put its key into the cache, and which has stored a record; and the identity that was
in the vault after the last operation of a call. -/
structure Seen where
  stale : Holder → Bool := fun _ => false
  wrote : ℕ → Bool := fun _ => false
  stored : ℕ → Bool := fun _ => false
  last : ℕ → Option Bytes := fun _ => none

/-- A call writes to the vault. -/
def Seen.written (g : Seen) (n : ℕ) : Seen :=
  { g with
    stale := fun h => if h = .call n then g.stale h else true
    wrote := Function.update g.wrote n true }

/-- A call puts its key into the cache. -/
def Seen.filled (g : Seen) (n : ℕ) : Seen :=
  { g with
    stale := Function.update g.stale .cache false
    wrote := Function.update g.wrote n false }

theorem stale_filled {g : Seen} {n : ℕ} {h : Holder} (hne : h ≠ .cache) :
    (g.filled n).stale h = g.stale h :=
  Function.update_of_ne hne _ _

/-- What an operation makes of it.  A call that reads the wrapping key looks at the vault anew; but
where it has stored a record and there is nothing now, what it holds is still what it stored. -/
def Seen.after (n : ℕ) (op : Op) (s : Origin) (g : Seen) : Seen :=
  match op with
  | .getWrapKey =>
    if g.stored n = true ∧ identity text s = none then g
    else { g with stale := Function.update g.stale (.call n) false }
  | .putWrapKey _ => g.written n
  | .putRecord _ => { g.written n with stored := Function.update g.stored n true }
  | .finishInit promise _ =>
    { g.filled n with stale := Function.update (g.filled n).stale (.promise promise) false }
  | .replaceKeypair _ => g.filled n
  | _ => g

/-- The page after an operation. -/
def performed (locks : Bool) (n : ℕ) (op : Op) (x : Fate) (s : Origin) : Origin :=
  ((perform locks n op x s).map Prod.snd).getD s

/-- The history of a page. -/
def record (locks : Bool) (n : ℕ) (_ : Call) (op : Op) (x : Fate) (s : Origin) (g : Seen) : Seen :=
  { g.after text n op s with
    last := Function.update g.last n (identity text (performed locks n op x s)) }

/-- The calls of a page, with the history. -/
abbrev watched (locks : Bool) :
    System (Origin × Seen) Call Op (fun op => Option op.Ans) Fate (Option (Option Bytes)) :=
  (system text locks).withHistory (record text locks)

/-- Storage is available, and no identity is taken over that is stale: not by a call that puts its
key into the cache, nor by one that finds the cache filled or the promise of another; and
`getCachedKeypair` finds the cache filled. -/
def Undisturbed (n : ℕ) (_ : Call) (op : Op) (x : Fate) (s : Origin × Seen) : Prop :=
  x = .succeeds ∧ match op with
  | .boot => s.1.keypair ≠ none → s.2.stale .cache = false
  | .awaitInit promise => s.2.stale (.promise promise) = false
  | .finishInit _ _ | .replaceKeypair _ => s.2.stale (.call n) = false
  | .getCachedKeypair _ => s.1.keypair ≠ none
  | _ => True

instance (n : ℕ) (c : Call) (op : Op) (x : Fate) (s : Origin × Seen) :
    Decidable (Undisturbed n c op x s) :=
  match op with
  | .boot | .awaitInit _ | .finishInit _ _ | .replaceKeypair _ | .getCachedKeypair _ | .lock | .unlock
  | .getWrapKey | .getRecord | .generateKey | .putWrapKey _ | .putRecord _ | .deleteRecord
  | .deleteMeta | .webCrypto | .getKey _ | .putKey _ _ | .deleteKey _ | .getLegacy _
  | .removeLegacy _ => by
    unfold Undisturbed
    infer_instance

/-- A page that has just been loaded. -/
def Cold (s : Origin) : Prop := s.keypair = none ∧ s.initPromise = none ∧ s.resolved = []

/-! ### What the calls keep -/

/-- What the cache and the promises hold is in the vault unless it is stale, what made the cache stale
is to put its key there, and the cache is filled once a promise has resolved. -/
structure Kept (s : Origin × Seen) : Prop where
  cache : ∀ k, s.1.keypair = some k → s.2.stale .cache = false → identity text s.1 = some k
  promise : ∀ p k, s.1.resolved[p]?.join = some k → s.2.stale (.promise p) = false →
    identity text s.1 = some k
  pending : s.2.stale .cache = true → ∃ n, s.2.wrote n = true
  filled : ∀ (p : ℕ) k, s.1.resolved[p]?.join = some k → s.1.keypair ≠ none

/-- What call `n` counts on: the vault stays as it was unless what the call holds is stale, and the
cache stays filled. -/
structure View (n : ℕ) (s s' : Origin × Seen) : Prop where
  vault : s'.2.stale (.call n) = false → s.2.stale (.call n) = false ∧
    s'.1.device.wrapKey = s.1.device.wrapKey ∧ s'.1.device.record = s.1.device.record
  wrote : s'.2.wrote n = s.2.wrote n
  stored : s'.2.stored n = s.2.stored n
  keypair : s.1.keypair ≠ none → s'.1.keypair ≠ none

theorem View.refl (n : ℕ) (s : Origin × Seen) : View n s s :=
  ⟨fun h => ⟨h, rfl, rfl⟩, rfl, rfl, fun h => h⟩

theorem View.trans {n : ℕ} {s s' s'' : Origin × Seen} (h : View n s s') (h' : View n s' s'') :
    View n s s'' where
  vault hstale :=
    have h₂ := h'.vault hstale
    have h₁ := h.vault h₂.1
    ⟨h₁.1, h₂.2.1.trans h₁.2.1, h₂.2.2.trans h₁.2.2⟩
  wrote := h'.wrote.trans h.wrote
  stored := h'.stored.trans h.stored
  keypair hfilled := h'.keypair (h.keypair hfilled)

theorem identity_congr {s s' : Origin} (hkey : s'.device.wrapKey = s.device.wrapKey)
    (hrecord : s'.device.record = s.device.record) : identity text s' = identity text s :=
  congrArg (Option.map VaultPayload.identitySk) (vault_congr text hkey hrecord)

/-- The vault of a call that has stored a record holds something, as long as it is not stale. -/
def Holds (n : ℕ) (s : Origin × Seen) : Prop :=
  s.2.stored n = true → s.2.stale (.call n) = false → identity text s.1 ≠ none

/-- How the calls use the page and the vault. -/
def cacheDiscipline : Discipline (Origin × Seen) Call Op Fate where
  Inv := Kept text
  Rely n s s' := View n s s' ∧ s'.2.last n = s.2.last n
  Cond := Undisturbed
  Local n i s := match i with
    | none => s.2.wrote n = false ∧ s.2.stored n = false
    | some _ => Holds text n s
  refl n s := ⟨View.refl n s, rfl⟩
  trans _ _ _ _ h h' := ⟨h.1.trans h'.1, h'.2.trans h.2⟩
  stays n i s s' h hown := match i with
    | none => ⟨h.1.wrote.trans hown.1, h.1.stored.trans hown.2⟩
    | some _ => fun hstored hstale => by
        obtain ⟨hstale, hkey, hrecord⟩ := h.1.vault hstale
        rw [identity_congr text hkey hrecord]
        exact hown (h.1.stored.symm.trans hstored) hstale

variable {text} {locks : Bool} {n : ℕ} {i : Call × Origin × Seen}

/-- What an operation does where storage is available: it is recorded. -/
theorem answered {op : Op} {x : Fate} {s s' : Origin × Seen} {r : Option op.Ans}
    (hcond : Undisturbed n i.1 op x s)
    (h : (watched text locks).perform n i.1 op x s = some (r, s')) :
    ∃ a, answer locks n op s.1 = some (a, s'.1) ∧ r = some a ∧ s'.2 =
      { s.2.after text n op s.1 with last := Function.update s.2.last n (identity text s'.1) } := by
  obtain ⟨⟨r', o⟩, hperform, heq⟩ := Option.map_eq_some_iff.1 h
  obtain ⟨rfl, rfl⟩ := Prod.mk.inj heq
  have ho : performed locks n op x s.1 = o := by
    have hp : perform locks n op x s.1 = some (r', o) := hperform
    rw [performed, hp]
    rfl
  rcases perform_cases hperform with ⟨hx, -⟩ | ⟨a, ha, hr, -⟩
  · rw [hcond.1] at hx
    cases hx
  · refine ⟨a, ha, hr, ?_⟩
    rw [record, ho]

/-- Operations that leave the vault alone, and what holds an identity. -/
def Quiet : Op → Prop
  | .lock | .unlock | .getRecord | .generateKey | .webCrypto | .boot | .awaitInit _
  | .getCachedKeypair _ => True
  | _ => False

/-- What such an operation leaves as it was. -/
structure Same (s s' : Origin) : Prop where
  wrapKey : s'.device.wrapKey = s.device.wrapKey
  record : s'.device.record = s.device.record
  keypair : s'.keypair = s.keypair
  resolved : ∀ p : ℕ, s'.resolved[p]?.join = s.resolved[p]?.join

theorem Same.refl (s : Origin) : Same s s := ⟨rfl, rfl, rfl, fun _ => rfl⟩

/-- A promise that has not resolved has resolved to nothing. -/
theorem join_getElem?_append_none (l : List (Option Bytes)) (p : ℕ) :
    (l ++ [none])[p]?.join = l[p]?.join := by
  rw [List.getElem?_append]
  split_ifs with hlt
  · rfl
  · rw [List.getElem?_eq_none (Nat.le_of_not_lt hlt), List.getElem?_singleton]
    split_ifs <;> rfl

theorem same_of_quiet {op : Op} {a : op.Ans} {s : Origin × Seen} {s' : Origin} (hquiet : Quiet op)
    (hcond : Undisturbed n i.1 op .succeeds s) (h : answer locks n op s.1 = some (a, s')) :
    Same s.1 s' := by
  cases op with
  | lock =>
      rcases answer_lock h with ⟨-, rfl⟩ | ⟨-, -, rfl⟩
      · exact Same.refl _
      · exact ⟨rfl, rfl, rfl, fun _ => rfl⟩
  | unlock =>
      obtain ⟨-, rfl⟩ := Prod.mk.inj (Option.some.inj h)
      split_ifs
      · exact Same.refl _
      · exact ⟨rfl, rfl, rfl, fun _ => rfl⟩
  | getRecord =>
      obtain ⟨-, rfl⟩ := Prod.mk.inj (Option.some.inj h)
      exact Same.refl _
  | generateKey =>
      obtain ⟨-, rfl⟩ := Prod.mk.inj (Option.some.inj h)
      exact ⟨rfl, rfl, rfl, fun _ => rfl⟩
  | webCrypto =>
      obtain ⟨-, rfl⟩ := Prod.mk.inj (Option.some.inj h)
      exact Same.refl _
  | boot =>
      rcases answer_boot h with ⟨_, -, -, rfl⟩ | ⟨_, -, -, rfl⟩ | ⟨-, -, rfl⟩
      · exact Same.refl _
      · exact Same.refl _
      · exact ⟨rfl, rfl, rfl, join_getElem?_append_none _⟩
  | awaitInit promise =>
      obtain ⟨sk, -, heq⟩ := Option.map_eq_some_iff.1 h
      obtain ⟨-, rfl⟩ := Prod.mk.inj heq
      exact Same.refl _
  | getCachedKeypair minted =>
      obtain ⟨-, rfl⟩ := Prod.mk.inj (Option.some.inj h)
      have hfilled : s.1.keypair ≠ none := hcond.2
      obtain ⟨k, hk⟩ := Option.ne_none_iff_exists'.1 hfilled
      refine ⟨rfl, rfl, ?_, fun _ => rfl⟩
      rw [hk]
      rfl
  | _ => exact hquiet.elim

/-- What leaves the vault, and what others hold, is as good as nothing. -/
theorem guarantees_of_same {s s' : Origin × Seen} (hinv : Kept text s) (hown : Holds text n s')
    (hsame : Same s.1 s'.1) (hstale : ∀ h, h ≠ .call n → s'.2.stale h = s.2.stale h)
    (hwrote : s'.2.wrote = s.2.wrote) (hstored : s'.2.stored = s.2.stored)
    (hlast : ∀ m, m ≠ n → s'.2.last m = s.2.last m) :
    (cacheDiscipline text).Guarantees n i s s' where
  inv := by
    have hidentity : identity text s'.1 = identity text s.1 :=
      identity_congr text hsame.wrapKey hsame.record
    refine ⟨fun k hk h => ?_, fun p k hk h => ?_, fun h => ?_, fun p k hk => ?_⟩
    · rw [hidentity]
      rw [hsame.keypair] at hk
      rw [hstale .cache nofun] at h
      exact hinv.cache k hk h
    · rw [hidentity]
      rw [hsame.resolved] at hk
      rw [hstale (.promise p) nofun] at h
      exact hinv.promise p k hk h
    · rw [hstale .cache nofun] at h
      rw [hwrote]
      exact hinv.pending h
    · rw [hsame.resolved] at hk
      rw [hsame.keypair]
      exact hinv.filled p k hk
  others m hm :=
    ⟨{ vault := fun h => by
        rw [hstale _ fun heq => hm (Holder.call.inj heq)] at h
        exact ⟨h, hsame.wrapKey, hsame.record⟩
       wrote := congrFun hwrote m
       stored := congrFun hstored m
       keypair := fun h => by rwa [hsame.keypair] }, hlast m hm⟩
  own := hown

/-- A quiet operation of call `n` has been answered. -/
structure Answered (text : PayloadText) (locks : Bool) (n : ℕ) (c : Call) (op : Op)
    (s : Origin × Seen) (a : op.Ans) (s' : Origin × Seen) : Prop where
  kept : Kept text s
  cond : Undisturbed n c op .succeeds s
  answer : answer locks n op s.1 = some (a, s'.1)
  same : Same s.1 s'.1
  last : s'.2.last n = identity text s'.1
  holds : Holds text n s'

/-- A task keeps to the rules of the cache, and ends where `Q` holds. -/
abbrev Goes (text : PayloadText) (locks : Bool) (n : ℕ) (i : Call × Origin × Seen) {α : Type}
    (Q : α → Origin × Seen → Prop) : OriginTask α → Origin × Seen → Prop :=
  Safe (cacheDiscipline text) (watched text locks).perform n i Q

/-- **A quiet operation** is safe if what follows is. -/
theorem safe_quiet {α : Type} {Q : α → Origin × Seen → Prop} (op : Op) (hquiet : Quiet op)
    {k : Option op.Ans → OriginTask α} {s : Origin × Seen}
    (hk : ∀ s₁ a s', Answered text locks n i.1 op s₁ a s' → View n s s' →
      Goes text locks n i Q (k (some a)) s') :
    Goes text locks n i Q (.call op k) s := by
  intro s₁ hinv hown hrely x r s₂ hcond hperform
  have hcond' : Undisturbed n i.1 op .succeeds s₁ := ⟨rfl, hcond.2⟩
  obtain ⟨a, ha, rfl, hseen⟩ := answered hcond hperform
  have hafter : s₁.2.after text n op s₁.1 = s₁.2 := by
    cases op with
    | getWrapKey => exact hquiet.elim
    | putWrapKey key => exact hquiet.elim
    | putRecord rec => exact hquiet.elim
    | finishInit promise sk => exact hquiet.elim
    | replaceKeypair sk => exact hquiet.elim
    | _ => rfl
  rw [hafter] at hseen
  have hsame : Same s₁.1 s₂.1 := same_of_quiet hquiet hcond' ha
  have hview : View n s₁ s₂ :=
    { vault := fun h => ⟨by rwa [hseen] at h, hsame.wrapKey, hsame.record⟩
      wrote := by rw [hseen]
      stored := by rw [hseen]
      keypair := fun h => by rwa [hsame.keypair] }
  have hown' : Holds text n s₂ := fun hstored hstale => by
    rw [identity_congr text hsame.wrapKey hsame.record]
    exact hown (hview.stored.symm.trans hstored) (hview.vault hstale).1
  refine ⟨guarantees_of_same hinv hown' hsame (fun _ _ => by rw [hseen]) (by rw [hseen])
    (by rw [hseen]) fun m hm => ?_,
    hk s₁ a s₂ ⟨hinv, hcond', ha, hsame, ?_, hown'⟩ (hrely.1.trans hview)⟩
  · rw [hseen]
    exact Function.update_of_ne hm _ _
  · rw [hseen]
    exact Function.update_self ..

/-- **Reading the wrapping key** is safe if what follows is. -/
theorem safe_getWrapKey {α : Type} {Q : α → Origin × Seen → Prop}
    {k : Option (Option WrapKey) → OriginTask α} {s : Origin × Seen}
    (hk : ∀ s', s'.2.stored n = s.2.stored n →
      Goes text locks n i Q (k (some s'.1.device.wrapKey)) s') :
    Goes text locks n i Q (.call .getWrapKey k) s := by
  intro s₁ hinv hown hrely x r s₂ hcond hperform
  have hcond' : Undisturbed n i.1 .getWrapKey x s₁ := hcond
  obtain ⟨a, ha, rfl, hseen⟩ := answered hcond' hperform
  obtain ⟨rfl, hsame⟩ := Prod.mk.inj (Option.some.inj ha)
  have hafter : ∃ b, s₁.2.after text n .getWrapKey s₁.1 =
      { s₁.2 with stale := Function.update s₁.2.stale (.call n) b } ∧
        (b = s₁.2.stale (.call n) ∨ ¬ (s₁.2.stored n = true ∧ identity text s₁.1 = none)) := by
    by_cases hkeep : s₁.2.stored n = true ∧ identity text s₁.1 = none
    · refine ⟨s₁.2.stale (.call n), ?_, Or.inl rfl⟩
      rw [Function.update_eq_self]
      exact if_pos hkeep
    · exact ⟨false, if_neg hkeep, Or.inr hkeep⟩
  obtain ⟨b, hafter, hb⟩ := hafter
  rw [hafter] at hseen
  have hown' : Holds text n s₂ := by
    intro hstored hstale
    rw [hseen] at hstored hstale
    rw [← hsame]
    rcases hb with rfl | hsees
    · exact hown hstored ((Function.update_self ..).symm.trans hstale)
    · exact fun hnone => hsees ⟨hstored, hnone⟩
  have hnext := hk s₂ (by rw [hseen]; exact hrely.1.stored)
  rw [← hsame] at hnext
  refine ⟨guarantees_of_same hinv hown' (hsame ▸ Same.refl s₁.1) (fun h hne => ?_) (by rw [hseen])
    (by rw [hseen]) fun m hm => ?_, hnext⟩
  · rw [hseen]
    exact Function.update_of_ne hne _ _
  · rw [hseen]
    exact Function.update_of_ne hm _ _

/-- **A write to the vault** makes stale what the others hold. -/
theorem guarantees_of_write {s s' : Origin × Seen} {g : Seen} (hinv : Kept text s)
    (hown : Holds text n s') (hkeypair : s'.1.keypair = s.1.keypair)
    (hresolved : s'.1.resolved = s.1.resolved) (hseen : s'.2 = g)
    (hstale : g.stale = (s.2.written n).stale) (hwrote : g.wrote = (s.2.written n).wrote)
    (hstored : ∀ m, m ≠ n → g.stored m = s.2.stored m)
    (hlast : ∀ m, m ≠ n → g.last m = s.2.last m) :
    (cacheDiscipline text).Guarantees n i s s' := by
  subst hseen
  have hothers : ∀ h, h ≠ .call n → s'.2.stale h = true := fun h hne => by
    rw [hstale]
    exact if_neg hne
  refine ⟨⟨fun k _ h => ?_, fun p k _ h => ?_, fun _ => ⟨n, ?_⟩, fun p k hk => ?_⟩, fun m hm =>
    ⟨⟨fun h => ?_, ?_, hstored m hm, fun h => by rwa [hkeypair]⟩, hlast m hm⟩, hown⟩
  · exact nomatch (hothers .cache nofun).symm.trans h
  · exact nomatch (hothers (.promise p) nofun).symm.trans h
  · rw [hwrote]
    exact Function.update_self ..
  · rw [hresolved] at hk
    rw [hkeypair]
    exact hinv.filled p k hk
  · exact nomatch (hothers _ fun heq => hm (Holder.call.inj heq)).symm.trans h
  · rw [hwrote]
    exact Function.update_of_ne hm _ _

/-- The wrapping key, unless what the call holds is stale. -/
def KeyIs (n : ℕ) (key : Option WrapKey) (s : Origin × Seen) : Prop :=
  s.2.stale (.call n) = false → s.1.device.wrapKey = key

theorem KeyIs.view {key : Option WrapKey} {s s' : Origin × Seen} (h : KeyIs n key s)
    (hview : View n s s') : KeyIs n key s' := fun hstale =>
  (hview.vault hstale).2.1.trans (h (hview.vault hstale).1)

variable (text) in
/-- What is in the vault, unless what the call holds is stale. -/
def Finds (n : ℕ) (payload : Option VaultPayload) (s : Origin × Seen) : Prop :=
  s.2.stale (.call n) = false → s.1.device.vault text = payload

theorem Finds.view {payload : Option VaultPayload} {s s' : Origin × Seen}
    (h : Finds text n payload s) (hview : View n s s') : Finds text n payload s' := by
  intro hstale
  obtain ⟨hstale, hkey, hrecord⟩ := hview.vault hstale
  rw [vault_congr text hkey hrecord]
  exact h hstale

/-- **A new wrapping key** is safe to put where there was none, if what follows is. -/
theorem safe_putWrapKey {α : Type} {Q : α → Origin × Seen → Prop} {key : WrapKey}
    {k : Option Unit → OriginTask α} {s : Origin × Seen}
    (hnone : KeyIs n none s) (hk : ∀ s', KeyIs n (some key) s' →
      Goes text locks n i Q (k (some ())) s') :
    Goes text locks n i Q (.call (.putWrapKey key) k) s := by
  intro s₁ hinv hown hrely x r s₂ hcond hperform
  have hcond' : Undisturbed n i.1 (.putWrapKey key) x s₁ := hcond
  obtain ⟨a, ha, rfl, hseen⟩ := answered hcond' hperform
  obtain ⟨-, hstore⟩ := Prod.mk.inj (Option.some.inj ha)
  have hstale : s₂.2.stale (.call n) = s₁.2.stale (.call n) := by
    rw [hseen]
    exact if_pos rfl
  refine ⟨guarantees_of_write hinv (fun hstored hfresh => ?_) (by rw [← hstore])
    (by rw [← hstore]) hseen rfl rfl (fun _ _ => rfl) fun m hm => Function.update_of_ne hm _ _, hk s₂ fun _ => by rw [← hstore]⟩
  rw [hstale] at hfresh
  rw [hseen] at hstored
  refine absurd ?_ (hown hstored hfresh)
  rw [identity, vault_of_no_key text (hnone.view hrely.1 hfresh), Option.map_none]

/-- **A record** that is sealed under the key there is makes the vault hold its payload. -/
theorem safe_putRecord {α : Type} {Q : α → Origin × Seen → Prop} {key : WrapKey}
    {payload : VaultPayload} {k : Option Unit → OriginTask α}
    {s : Origin × Seen} (hkey : KeyIs n (some key) s)
    (hk : ∀ s', Finds text n (some payload) s' → s'.2.stored n = true →
      Goes text locks n i Q (k (some ())) s') :
    Goes text locks n i Q (.call (.putRecord
      { version := vaultVersion, blob := some (sealBlob key (text.encode payload)) }) k) s := by
  intro s₁ hinv hown hrely x r s₂ hcond hperform
  have hcond' : Undisturbed n i.1 (.putRecord
    { version := vaultVersion, blob := some (sealBlob key (text.encode payload)) }) x s₁ := hcond
  obtain ⟨a, ha, rfl, hseen⟩ := answered hcond' hperform
  obtain ⟨-, hstore⟩ := Prod.mk.inj (Option.some.inj ha)
  have hstale : s₂.2.stale (.call n) = s₁.2.stale (.call n) := by
    rw [hseen]
    exact if_pos rfl
  have hfinds : Finds text n (some payload) s₂ := by
    intro hfresh
    rw [hstale] at hfresh
    refine vault_sealed text ?_ (by rw [← hstore])
    rw [← hstore]
    exact hkey.view hrely.1 hfresh
  refine ⟨guarantees_of_write hinv (fun _ hfresh => ?_) (by rw [← hstore]) (by rw [← hstore])
    hseen rfl rfl (fun m hm => Function.update_of_ne hm _ _) fun m hm => Function.update_of_ne hm _ _,
    hk s₂ hfinds ?_⟩
  · rw [identity, hfinds hfresh]
    nofun
  · rw [hseen]
    exact Function.update_self ..

/-! ### The functions on the vault -/

/-- **A read of the vault** finds what is there. -/
theorem safe_loadVault {α : Type} {Q : α → Origin × Seen → Prop}
    {k : Option (Option VaultPayload) → OriginTask α} {s : Origin × Seen}
    (hk : ∀ v s', Finds text n v s' → s'.2.stored n = s.2.stored n → Holds text n s' →
      Goes text locks n i Q (k (some v)) s') :
    Goes text locks n i Q ((Tasks.loadVault text).run >>= k) s := by
  refine safe_getWrapKey fun s₁ hs₁ => ?_
  have hkey : KeyIs n s₁.1.device.wrapKey s₁ := fun _ => rfl
  refine safe_quiet .getRecord trivial fun s₂ a s₃ ha hview => ?_
  obtain ⟨rfl, hsame⟩ := Prod.mk.inj (Option.some.inj ha.answer)
  obtain ⟨b, hb, hopen⟩ := Tasks.openRecord_cases text s₁.1.device.wrapKey s₂.1.device.record
  have hfinds : Finds text n b.join s₃ := by
    intro hstale
    rw [hb]
    refine vault_congr text (hkey.view hview hstale) ?_
    rw [← hsame]
  have hstored : s₃.2.stored n = s.2.stored n := hview.stored.trans hs₁
  change Safe _ _ n i Q (((Tasks.openRecord text s₁.1.device.wrapKey s₂.1.device.record).run >>=
    fun v => pure (some v.join)) >>= k) s₃
  rw [Task.bind_assoc]
  rcases hopen with hopen | hopen
  · rw [hopen]
    exact hk b.join s₃ hfinds hstored ha.holds
  · rw [hopen]
    refine safe_quiet .webCrypto trivial fun _ _ s₄ ha₄ hview₄ => ?_
    exact hk b.join s₄ (hfinds.view hview₄) (hview₄.stored.trans hstored) ha₄.holds

/-- **A payload that is saved** is what the vault holds. -/
theorem safe_saveVaultUnlocked {α : Type} {Q : α → Origin × Seen → Prop} {payload : VaultPayload}
    {k : Option Unit → OriginTask α} {s : Origin × Seen}
    (hk : ∀ s', Finds text n (some payload) s' → s'.2.stored n = true →
      Goes text locks n i Q (k (some ())) s') :
    Goes text locks n i Q ((Tasks.saveVaultUnlocked text payload).run >>= k) s := by
  have hseal : ∀ key s₁, KeyIs n (some key) s₁ →
      Goes text locks n i Q
        ((do Task.attempt Op.webCrypto
             Task.attempt (Op.putRecord
               { version := vaultVersion, blob := some (sealBlob key (text.encode payload)) }) :
          OriginM Unit).run >>= k) s₁ := by
    intro key s₁ hkey
    refine safe_quiet .webCrypto trivial fun _ _ s₂ _ hview => ?_
    exact safe_putRecord (hkey.view hview) hk
  refine safe_getWrapKey fun s₁ _ => ?_
  have hkey : KeyIs n s₁.1.device.wrapKey s₁ := fun _ => rfl
  cases hexisting : s₁.1.device.wrapKey with
  | some key =>
      rw [hexisting] at hkey
      exact hseal key s₁ hkey
  | none =>
      rw [hexisting] at hkey
      refine safe_quiet .generateKey trivial fun _ key s₂ _ hview => ?_
      exact safe_putWrapKey (hkey.view hview) fun s₃ hkey₃ => hseal key s₃ hkey₃

/-- The identity in the vault, unless what the call holds is stale. -/
def Sees (text : PayloadText) (n : ℕ) (sk : Bytes) (s : Origin × Seen) : Prop :=
  s.2.stale (.call n) = false → identity text s.1 = some sk

theorem Sees.view {sk : Bytes} {s s' : Origin × Seen} (h : Sees text n sk s) (hview : View n s s') :
    Sees text n sk s' := by
  intro hstale
  obtain ⟨hstale, hkey, hrecord⟩ := hview.vault hstale
  rw [identity_congr text hkey hrecord]
  exact h hstale

theorem Finds.sees {payload : VaultPayload} {s : Origin × Seen}
    (h : Finds text n (some payload) s) : Sees text n payload.identitySk s := fun hstale => by
  rw [identity, h hstale]
  rfl

/-- **A key that is saved** is the identity in the vault. -/
theorem safe_saveSecretKeyUnlocked {α : Type} {Q : α → Origin × Seen → Prop} {sk : Bytes}
    {k : Option Unit → OriginTask α} {s : Origin × Seen}
    (hk : ∀ s', Sees text n sk s' → s'.2.stored n = true →
      Goes text locks n i Q (k (some ())) s') :
    Goes text locks n i Q ((Tasks.saveSecretKeyUnlocked text sk).run >>= k) s := by
  change Safe _ _ n i Q (((Tasks.loadVault text).run >>= _) >>= k) s
  rw [Task.bind_assoc]
  refine safe_loadVault fun current s₁ _ _ _ => ?_
  exact safe_saveVaultUnlocked fun s₂ hfinds hstored => hk s₂ hfinds.sees hstored

/-- **A key that is loaded or created** is the identity in the vault. -/
theorem safe_loadOrCreateUnlocked {α : Type} {Q : α → Origin × Seen → Prop} {sk : Bytes}
    {k : Option Bytes → OriginTask α} {s : Origin × Seen}
    (hk : ∀ found s', Sees text n found s' →
      Goes text locks n i Q (k (some found)) s') :
    Goes text locks n i Q ((Tasks.loadOrCreateUnlocked text sk).run >>= k) s := by
  change Safe _ _ n i Q (((Tasks.loadVault text).run >>= _) >>= k) s
  rw [Task.bind_assoc]
  refine safe_loadVault fun existing s₁ hfinds _ _ => ?_
  cases existing with
  | some existing => exact hk existing.identitySk s₁ hfinds.sees
  | none =>
      change Safe _ _ n i Q (((Tasks.saveSecretKeyUnlocked text sk).run >>= _) >>= k) s₁
      rw [Task.bind_assoc]
      refine safe_saveSecretKeyUnlocked fun s₂ hsees hstored => ?_
      change Safe _ _ n i Q (((Tasks.loadVault text).run >>= _) >>= k) s₂
      rw [Task.bind_assoc]
      refine safe_loadVault fun v s₃ hfinds₃ hstored₃ hholds => ?_
      cases v with
      | some v => exact hk v.identitySk s₃ hfinds₃.sees
      | none =>
          -- what it has stored is there, or what it holds is stale
          refine hk sk s₃ fun hstale => absurd ?_ (hholds (hstored₃.trans hstored) hstale)
          rw [identity, hfinds₃ hstale]
          rfl

/-- **What runs under the lock** is safe if what it is taken for is, and what follows. -/
theorem safe_withInitLock {α β : Type} {Q : α → Origin × Seen → Prop}
    {P : β → Origin × Seen → Prop} {fn : OriginM β}
    {k : Option β → OriginTask α} {s : Origin × Seen}
    (hP : ∀ b s₁ s', View n s₁ s' → P b s₁ → P b s')
    (hfn : ∀ (k' : Option β → OriginTask α) s₁,
      (∀ b s', P b s' → Goes text locks n i Q (k' (some b)) s') →
      Goes text locks n i Q (fn.run >>= k') s₁)
    (hk : ∀ b s', P b s' →
      Goes text locks n i Q (k (some b)) s') :
    Goes text locks n i Q ((withInitLock fn).run >>= k) s := by
  refine safe_quiet .lock trivial fun _ _ s₁ _ _ => ?_
  change Safe _ _ n i Q ((fn.run >>= fun result => Task.await Op.unlock >>= fun _ => pure result) >>=
    k) s₁
  rw [Task.bind_assoc]
  refine hfn _ s₁ fun b s₂ hb => ?_
  refine safe_quiet .unlock trivial fun _ _ s₃ _ hview => ?_
  exact hk b s₃ (hP b s₂ s₃ hview hb)

/-! ### The calls -/

/-- A call has put a key into the cache that is the identity in the vault. -/
theorem guarantees_of_fill {s s' : Origin × Seen} {sk : Bytes} (hinv : Kept text s)
    (hown : Holds text n s) (hidentity : identity text s.1 = some sk)
    (hdevice : s'.1.device = s.1.device) (hkeypair : s'.1.keypair = some sk)
    (hresolved : ∀ p k, s'.1.resolved[p]?.join = some k → s'.2.stale (.promise p) = false →
      k = sk ∨ (s.1.resolved[p]?.join = some k ∧ s.2.stale (.promise p) = false))
    (hcall : ∀ m, s'.2.stale (.call m) = s.2.stale (.call m)) (hcache : s'.2.stale .cache = false)
    (hwrote : ∀ m, m ≠ n → s'.2.wrote m = s.2.wrote m) (hstored : s'.2.stored = s.2.stored)
    (hlast : ∀ m, m ≠ n → s'.2.last m = s.2.last m) :
    (cacheDiscipline text).Guarantees n i s s' := by
  have hsame : identity text s'.1 = identity text s.1 := by rw [identity, hdevice, identity]
  refine ⟨⟨fun k hk _ => ?_, fun p k hk h => ?_, fun h => (nomatch hcache.symm.trans h),
    fun _ _ _ => by rw [hkeypair]; nofun⟩,
    fun m hm => ⟨⟨fun h => ⟨(hcall m).symm.trans h, by rw [hdevice], by rw [hdevice]⟩, hwrote m hm,
      congrFun hstored m, fun _ => by rw [hkeypair]; nofun⟩, hlast m hm⟩, fun h h' => ?_⟩
  · rw [hsame, hidentity, ← hk, hkeypair]
  · rw [hsame]
    rcases hresolved p k hk h with rfl | ⟨hk, h⟩
    · exact hidentity
    · exact hinv.promise p k hk h
  · rw [hsame]
    rw [hstored] at h
    rw [hcall] at h'
    exact hown h h'

/-- **The end of an init** is safe where the call holds the identity in the vault, if what follows
is. -/
theorem safe_finishInit {α : Type} {Q : α → Origin × Seen → Prop} {promise : ℕ} {sk : Bytes}
    {k : Option Unit → OriginTask α} {s : Origin × Seen}
    (hsees : Sees text n sk s) (hk : ∀ s', s'.2.wrote n = false → s'.1.keypair ≠ none →
      Goes text locks n i Q (k (some ())) s') :
    Goes text locks n i Q (.call (.finishInit promise sk) k) s := by
  intro s₁ hinv hown hrely x r s₂ hcond hperform
  have hcond' : Undisturbed n i.1 (.finishInit promise sk) x s₁ := hcond
  obtain ⟨a, ha, rfl, hseen⟩ := answered hcond' hperform
  obtain ⟨-, hstore⟩ := Prod.mk.inj (Option.some.inj ha)
  refine ⟨guarantees_of_fill hinv hown (hsees.view hrely.1 hcond'.2) (by rw [← hstore])
    (by rw [← hstore]) (fun p k hk h => ?_) (fun m => by rw [hseen]; rfl) (by rw [hseen]; rfl)
    (fun m hm => ?_) (by rw [hseen]; rfl) fun m hm => ?_, hk s₂ ?_ (by rw [← hstore]; nofun)⟩
  · rw [← hstore] at hk
    rw [hseen] at h
    change (s₁.1.resolved.set promise (some sk))[p]?.join = some k at hk
    rw [List.getElem?_set] at hk
    split_ifs at hk with hp hlt
    · exact Or.inl (Option.some.inj hk).symm
    · exact nomatch hk
    · have hkeep : Function.update (s₁.2.filled n).stale (.promise promise) false (.promise p) =
          s₁.2.stale (.promise p) :=
        (Function.update_of_ne (fun heq => hp (Holder.promise.inj heq).symm) _ _).trans
          (stale_filled nofun)
      exact Or.inr ⟨hk, hkeep.symm.trans h⟩
  · rw [hseen]
    exact Function.update_of_ne hm _ _
  · rw [hseen]
    exact Function.update_of_ne hm _ _
  · rw [hseen]
    exact Function.update_self ..

/-- **A new identity** is safe to put into the cache where it is the one in the vault, if what
follows is. -/
theorem safe_replaceKeypair {α : Type} {Q : α → Origin × Seen → Prop} {sk : Bytes}
    {k : Option Unit → OriginTask α} {s : Origin × Seen}
    (hsees : Sees text n sk s) (hk : ∀ s', s'.2.wrote n = false → s'.1.keypair ≠ none →
      Goes text locks n i Q (k (some ())) s') :
    Goes text locks n i Q (.call (.replaceKeypair sk) k) s := by
  intro s₁ hinv hown hrely x r s₂ hcond hperform
  have hcond' : Undisturbed n i.1 (.replaceKeypair sk) x s₁ := hcond
  obtain ⟨a, ha, rfl, hseen⟩ := answered hcond' hperform
  obtain ⟨-, hstore⟩ := Prod.mk.inj (Option.some.inj ha)
  refine ⟨guarantees_of_fill hinv hown (hsees.view hrely.1 hcond'.2) (by rw [← hstore])
    (by rw [← hstore]) (fun p k hk h => ?_) (fun m => by rw [hseen]; rfl) (by rw [hseen]; rfl)
    (fun m hm => ?_) (by rw [hseen]; rfl) fun m hm => ?_, hk s₂ ?_ (by rw [← hstore]; nofun)⟩
  · rw [← hstore] at hk
    rw [hseen] at h
    exact Or.inr ⟨hk, (stale_filled (g := s₁.2) (n := n) (h := .promise p) nofun).symm.trans h⟩
  · rw [hseen]
    exact Function.update_of_ne hm _ _
  · rw [hseen]
    exact Function.update_of_ne hm _ _
  · rw [hseen]
    exact Function.update_self ..

/-- The calls that put a key into the cache, or find one there. -/
def Call.Fills : Call → Prop
  | .importFromNsec none => False
  | .getCachedKeypair _ => False
  | _ => True

/-- What is known of a call that has ended: it is not to put anything into the cache, it has left the
cache filled, and what `loadIdentity` returned was in the vault. -/
structure Shown (n : ℕ) (i : Call × Origin × Seen) (a : Option (Option Bytes)) (s : Origin × Seen) :
    Prop where
  wrote : s.2.wrote n = false
  filled : i.1.Fills → s.1.keypair ≠ none
  loaded : ∀ sk inMemory, i.1 = .loadIdentity sk inMemory →
    ∃ k, a = some (some k) ∧ s.2.last n = some k

theorem safe_shown {a : Option (Option Bytes)} {s : Origin × Seen} (h : Shown n i a s) :
    Goes text locks n i (Shown n i) (.done a) s :=
  safe_done h fun s' _ hrely h =>
    { wrote := hrely.1.wrote.trans h.wrote
      filled := fun hfills => hrely.1.keypair (h.filled hfills)
      loaded := fun sk inMemory hcall => by
        rw [hrely.2]
        exact h.loaded sk inMemory hcall }

/-- **A key that is kept**: it is saved and cached. -/
theorem safe_restore {sk : Bytes} {k : Option Bytes → OriginTask _}
    {s : Origin × Seen} (hcall : ∀ sk inMemory, i.1 ≠ .loadIdentity sk inMemory)
    (hk : k (some sk) = .done (some (some sk))) :
    Goes text locks n i (Shown n i) ((restoreIdentityFromSecretKey text sk).run >>= k) s := by
  change Safe _ _ n i _ (((Tasks.saveSecretKey text sk).run >>= _) >>= k) s
  rw [Task.bind_assoc]
  refine safe_withInitLock (P := fun _ s' => Sees text n sk s') (fun _ _ _ hview h => h.view hview)
    (fun k' s₁ hk' => safe_saveSecretKeyUnlocked fun s₂ hsees _ => hk' () s₂ hsees)
    fun _ s₁ hsees => ?_
  refine safe_replaceKeypair hsees fun s₂ hwrote hfilled => ?_
  change Safe _ _ n i _ (k (some sk)) s₂
  rw [hk]
  exact safe_shown ⟨hwrote, fun _ => hfilled, fun sk' m h => absurd h (hcall sk' m)⟩

/-- The end of `loadIdentity`, where it awaits a promise. -/
theorem safe_awaitInit {promise : ℕ} {s : Origin × Seen} (hwrote : s.2.wrote n = false) :
    Goes text locks n i (Shown n i) (some <$> awaitInit promise : OriginM _).run s := by
  refine safe_quiet (.awaitInit promise) trivial fun s₁ a s₂ ha hview => ?_
  obtain ⟨sk, hsk, heq⟩ := Option.map_eq_some_iff.1 ha.answer
  obtain ⟨rfl, hstore⟩ := Prod.mk.inj heq
  have hidentity : identity text s₂.1 = some sk := by
    rw [← hstore]
    exact ha.kept.promise promise sk hsk ha.cond.2
  have hfilled : s₂.1.keypair ≠ none := by
    rw [← hstore]
    exact ha.kept.filled promise sk hsk
  exact safe_shown ⟨hview.wrote.trans hwrote, fun _ => hfilled,
    fun _ _ _ => ⟨sk, rfl, ha.last.trans hidentity⟩⟩

/-- **The init** leaves the identity of the vault in the cache. -/
theorem safe_init {α : Type} {Q : α → Origin × Seen → Prop} {promise : ℕ} {sk inMemory : Bytes}
    {k : Option Unit → OriginTask α} {s : Origin × Seen}
    (hk : ∀ s', s'.2.wrote n = false →
      Goes text locks n i Q (k (some ())) s') :
    Goes text locks n i Q ((init text promise sk inMemory).run >>= k) s := by
  change Safe _ _ n i Q (((Tasks.loadOrCreateSecretKey text sk).run >>= _) >>= k) s
  rw [Task.bind_assoc]
  refine safe_withInitLock (P := fun found s' => Sees text n found s')
    (fun _ _ _ hview h => h.view hview)
    (fun k' s₁ hk' => safe_loadOrCreateUnlocked hk') fun found s₁ hsees => ?_
  exact safe_finishInit hsees fun s₂ hwrote _ => hk s₂ hwrote

/-- **`loadIdentity`** returns what is in the vault. -/
theorem safe_loadIdentity {sk inMemory : Bytes} {s : Origin × Seen} (hwrote : s.2.wrote n = false) :
    Goes text locks n i (Shown n i) (some <$> loadIdentity text sk inMemory : OriginM _).run s := by
  refine safe_quiet .boot trivial fun s₁ a s₂ ha hview => ?_
  have hwrote₂ : s₂.2.wrote n = false := hview.wrote.trans hwrote
  rcases answer_boot ha.answer with ⟨cached, hcached, rfl, hstore⟩ | ⟨promise, -, rfl, -⟩ | ⟨-, rfl, -⟩
  · have hidentity : identity text s₂.1 = some cached := by
      rw [hstore]
      exact ha.kept.cache cached hcached (ha.cond.2 (by rw [hcached]; nofun))
    refine safe_shown ⟨hwrote₂, fun _ => ?_, fun _ _ _ => ⟨cached, rfl, ha.last.trans hidentity⟩⟩
    rw [hstore, hcached]
    nofun
  · exact safe_awaitInit hwrote₂
  · change Safe _ _ n i _ (((init text s₁.1.resolved.length sk inMemory).run >>= _) >>= _) s₂
    rw [Task.bind_assoc]
    exact safe_init fun s₃ hwrote₃ => safe_awaitInit hwrote₃

/-- **Every call keeps to the page**, wherever it begins. -/
theorem starts : (cacheDiscipline text).Starts (watched text locks) fun n => Shown n := by
  intro n c s _ hfresh
  refine ⟨fun hstored => (nomatch hfresh.2.symm.trans hstored), ?_⟩
  have hwrote : s.2.wrote n = false := hfresh.1
  cases c with
  | loadIdentity sk inMemory => exact safe_loadIdentity hwrote
  | getCachedKeypair minted =>
      refine safe_quiet (.getCachedKeypair minted) trivial fun _ _ s₁ _ hview => ?_
      exact safe_shown ⟨hview.wrote.trans hwrote, False.elim, nofun⟩
  | generateNewIdentity sk => exact safe_restore nofun rfl
  | restoreIdentityFromSecretKey sk => exact safe_restore nofun rfl
  | importFromNsec decoded =>
      cases decoded with
      | none => exact safe_shown ⟨hwrote, False.elim, nofun⟩
      | some sk => exact safe_restore nofun rfl

/-- A page with the calls that were made, after some actions. -/
def page (text : PayloadText) (locks : Bool) (s : Origin) (as : List (Act Call Fate)) :
    Pool (Origin × Seen) Call Op (fun op => Option op.Ans) (Option (Option Bytes)) :=
  run (step (watched text locks)) (Pool.init (s, {})) as

/-- No identity is taken over that is stale, and storage is available. -/
def NeverStale (text : PayloadText) (locks : Bool) (s : Origin) (as : List (Act Call Fate)) : Prop :=
  ∀ e ∈ events (step (watched text locks)) (Pool.init (s, {})) as, MeetsAt Undisturbed e.pre e.act

instance (locks : Bool) (s : Origin) (as : List (Act Call Fate)) :
    Decidable (NeverStale text locks s as) :=
  inferInstanceAs (Decidable (∀ e ∈ events (step (watched text locks)) (Pool.init (s, {})) as,
    MeetsAt Undisturbed e.pre e.act))

theorem sound_init_cold {s : Origin} (hcold : Cold s) :
    Sound (cacheDiscipline text) (watched text locks) (fun n => Shown n) (Pool.init (s, {})) := by
  obtain ⟨hkeypair, -, hresolved⟩ := hcold
  refine sound_init ⟨fun k hk => ?_, fun p k hk => ?_, nofun, fun p k hk => ?_⟩ fun n => ⟨rfl, rfl⟩
  · exact nomatch hkeypair.symm.trans hk
  · rw [hresolved] at hk
    exact nomatch hk
  · rw [hresolved] at hk
    exact nomatch hk

/-- **What a settled `loadIdentity` returned was in the vault when it settled.** -/
theorem loaded_of_ended {s : Origin} {as : List (Act Call Fate)} (hcold : Cold s)
    (h : NeverStale text locks s as) {e} (he : e ∈ events (step (watched text locks))
      (Pool.init (s, {})) as) {n : ℕ} {sk inMemory : Bytes} {a : Option (Option Bytes)}
    (hended : e.post.ended n (.loadIdentity sk inMemory) a)
    (hnot : ¬ e.pre.ended n (.loadIdentity sk inMemory) a) :
    ∃ k, a = some (some k) ∧ identity text e.post.store.1 = some k := by
  obtain ⟨hsound, hpost⟩ := events_induction_of (P := Sound (cacheDiscipline text)
    (watched text locks) (fun n => Shown n)) (sound_init_cold hcold)
    (fun _ _ hp ha => (sound_step starts hp ha).1) h he
  have hnext := (sound_step starts hsound (h e he)).1
  rw [hpost] at hended ⊢
  obtain ⟨t, ht, hcall, hdone⟩ := hended
  obtain ⟨k, rfl, hlast⟩ := (hnext.ended ht hdone).loaded sk inMemory hcall
  refine ⟨k, rfl, ?_⟩
  rcases ended_step ⟨t, ht, hcall, hdone⟩ hnot with ⟨-, hbody⟩ | ⟨op, x, r, hact, hop, hperform⟩
  · exact nomatch hbody
  · have hcond : Undisturbed n (.loadIdentity sk inMemory) op x e.pre.store := by
      have hmeets := h e he
      rw [hact] at hmeets
      exact hmeets _ hop
    obtain ⟨a, -, -, hseen⟩ := answered (i := (.loadIdentity sk inMemory, e.pre.store)) hcond hperform
    rw [hseen] at hlast
    exact (Function.update_self n _ e.pre.store.2.last).symm.trans hlast

/-- **The cached identity is the stored one**, where no identity is taken over that is stale: once
all calls have settled, the key in the cache is the one in the vault, the cache is filled if any call
was made that fills it, and what a `loadIdentity` returned was in the vault when it settled. -/
theorem cached_is_stored {s : Origin} (hcold : Cold s) {as : List (Act Call Fate)}
    (h : NeverStale text locks s as) :
    ((page text locks s as).Settled →
      (∀ k, (page text locks s as).store.1.keypair = some k →
        identity text (page text locks s as).store.1 = some k) ∧
      ∀ t ∈ (page text locks s as).threads, t.call.Fills →
        (page text locks s as).store.1.keypair ≠ none) ∧
    ∀ e ∈ events (step (watched text locks)) (Pool.init (s, {})) as, ∀ n sk inMemory a,
      e.post.ended n (.loadIdentity sk inMemory) a →
      ¬ e.pre.ended n (.loadIdentity sk inMemory) a →
      ∃ k, a = some (some k) ∧ identity text e.post.store.1 = some k := by
  have hsound : Sound (cacheDiscipline text) (watched text locks) (fun n => Shown n)
      (page text locks s as) := sound_run starts (sound_init_cold hcold) h
  refine ⟨fun hsettled => ⟨fun k hk => ?_, fun t ht hfills => ?_⟩,
    fun e he n sk inMemory a hended hnot => loaded_of_ended hcold h he hended hnot⟩
  · refine hsound.inv.cache k hk ?_
    rw [← Bool.not_eq_true]
    intro hstale
    obtain ⟨n, hn⟩ := hsound.inv.pending hstale
    cases ht : (page text locks s as).threads[n]? with
    | none =>
        have hfresh := hsound.fresh n (List.getElem?_eq_none_iff.1 ht)
        exact nomatch hfresh.1.symm.trans hn
    | some t =>
        obtain ⟨a, ha⟩ := hsettled t (List.mem_of_getElem? ht)
        exact nomatch (hsound.ended ht ha).wrote.symm.trans hn
  · obtain ⟨n, hn⟩ := List.getElem?_of_mem ht
    obtain ⟨a, ha⟩ := hsettled t ht
    exact (hsound.ended hn ha).filled hfills

/-- A call goes on. -/
def goOn (times n : ℕ) : List (Act Call Fate) := List.replicate times (.resume n .succeeds)

/-- Two views boot at once, and share the identity that is created; then a new one is generated. -/
def demoBoot : List (Act Call Fate) :=
  .start (.loadIdentity [1] [9]) :: goOn 5 0 ++
    .start (.loadIdentity [2] [9]) :: goOn 1 1 ++ goOn 12 0 ++ goOn 1 1 ++
    .start (.generateNewIdentity [3]) :: goOn 12 2 ++
    .start (.getCachedKeypair [8]) :: goOn 1 3

theorem cached_is_stored_demo : identity shortText (page shortText true {} demoBoot).store.1 = some [3] :=
  ((cached_is_stored ⟨rfl, rfl, rfl⟩ (by decide : NeverStale shortText true {} demoBoot)).1
    (by decide)).1 [3] (by decide)

/-- A device with an identity. -/
def demoOrigin : Origin :=
  { device :=
      { wrapKey := some 0
        record := some { version := vaultVersion, blob := some (sealBlob 0 [0, 1]) }
        nextKey := 1 } }

/-- While the boot has read the identity, another one is imported; then the boot goes on. -/
def bootAndImport : List (Act Call Fate) :=
  .start (.loadIdentity [2] [9]) :: goOn 6 0 ++
    .start (.importFromNsec (some [3])) :: goOn 12 1 ++ goOn 2 0

/-- **A boot overwrites an import**: with web locks or without, what is cached in the end is not what
is stored. -/
theorem boot_overwrites_import :
    ¬ ∀ (text : PayloadText) (locks : Bool) (s : Origin) (as : List (Act Call Fate)), Cold s →
      (∀ n x, .resume n x ∈ as → x = .succeeds) →
      (run (step (system text locks)) (Pool.init s) as).Settled →
      ∀ k, (run (step (system text locks)) (Pool.init s) as).store.keypair = some k →
        identity text (run (step (system text locks)) (Pool.init s) as).store = some k := by
  intro h
  have hsucceeds : ∀ n x, Act.resume n x ∈ bootAndImport → x = .succeeds := by
    intro n x hx
    simp only [bootAndImport, goOn, List.mem_append, List.mem_cons, List.mem_replicate,
      List.cons_append] at hx
    grind
  have hcached : ∀ locks, (run (step (system shortText locks)) (Pool.init demoOrigin)
      bootAndImport).store.keypair = some [1] := by decide
  have hstored : ∀ locks, identity shortText (run (step (system shortText locks))
      (Pool.init demoOrigin) bootAndImport).store = some [3] := by decide
  have hsame := h shortText true demoOrigin bootAndImport ⟨rfl, rfl, rfl⟩ hsucceeds
    (by decide) [1] (hcached true)
  exact absurd ((hstored true).symm.trans hsame) (by decide)

end IdentityCache
end Pwa
end SentinelMesh
