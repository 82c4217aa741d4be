/-
# The end of a circle key

`clearCircleKey` and `purgeCircleKeyEpochs` of `services/e2eeService.ts`, each on its
own with nothing failing, on every content of the two stores of circle keys.

The ids of IndexedDB are texts here, `circleId:epoch` and for a key from before
there were epochs the bare `circleId`.  The first kind is read back in one way only
(`keyId_text_inj`), and a bare id may be one of another circle's only if it has a
colon in it, which the id of a circle never has.

Both functions count epochs from one, and the first stops at sixty-four.  What they
leave behind is therefore a key after the sixty-fourth, a key at epoch zero, and for
the second the bare id, which is a key of epoch one: `lifecycle_iff` says that
nothing else goes wrong.
-/

import SentinelMesh.Pwa.CircleKeys
import SentinelMesh.Pwa.LocationRoundTrip
import SentinelMesh.Pwa.VaultOrder

namespace SentinelMesh
namespace Pwa

open Lib Lib.Task Lib.Async

/-! ### The ids of the store -/

/-- The id of a key in IndexedDB. -/
def KeyId.text : KeyId → String
  | .keyId circleId epoch => circleId ++ ":" ++ toString epoch
  | .bare circleId => circleId

theorem toList_keyId (circleId : Uuid) (epoch : ℕ) :
    (KeyId.keyId circleId epoch).text.toList = circleId.toList ++ ':' :: Nat.toDigits 10 epoch := by
  have hdigits : (toString epoch).toList = Nat.toDigits 10 epoch := Nat.toList_repr
  unfold KeyId.text
  rw [String.toList_append, String.toList_append, hdigits]
  simp

/-- **A text is the id of one circle and one epoch.** -/
theorem keyId_text_inj {circleId circleId' : Uuid} {epoch epoch' : ℕ}
    (h : (KeyId.keyId circleId epoch).text = (KeyId.keyId circleId' epoch').text) :
    circleId = circleId' ∧ epoch = epoch' := by
  have hcolon : ∀ e : ℕ, ':' ∉ Nat.toDigits 10 e := fun e hmem =>
    absurd (CircleLocation.isDigit_of_mem_toDigits hmem) (by decide)
  have hlist := congrArg String.toList h
  rw [toList_keyId, toList_keyId] at hlist
  obtain ⟨hid, hepoch⟩ := CircleLocation.lastField_inj (hcolon epoch) (hcolon epoch') hlist
  exact ⟨String.toList_inj.1 hid, CircleLocation.toDigits_inj hepoch⟩

/-- A text without a colon is not the id of a circle at an epoch. -/
theorem keyId_text_ne {circleId c : Uuid} (epoch : ℕ) (h : ':' ∉ c.toList) :
    (KeyId.keyId circleId epoch).text ≠ c := by
  rintro rfl
  rw [toList_keyId] at h
  exact h (List.mem_append_right _ List.mem_cons_self)

/-! ### Functions on their own, on a store of texts -/

namespace KeyLifecycle

/-- An operation where no other call is and nothing fails; those on IndexedDB go by
the text of the id. -/
def solo (n : ℕ) : (op : Op) → Origin → Option (Option op.Ans × Origin)
  | .putKey id key, s =>
    some (some (), { s with live := fun id' => if id'.text = id.text then some key else s.live id' })
  | .deleteKey id, s =>
    some (some (), { s with live := fun id' => if id'.text = id.text then none else s.live id' })
  | op, s => VaultOrder.solo n op s

/-- An origin with the keys of a database. -/
def shelved (db : String → Option Bytes) (s : Origin) : Origin := { s with live := fun id => db id.text }

/-- A function returns a value and leaves another state. -/
def Returns {α : Type} (n : ℕ) (fn : OriginM α) (s : Origin) (a : α) (s' : Origin) : Prop :=
  fn.run.alone (solo n) s = some (some a, s')

variable {text : PayloadText} {n : ℕ} {α β : Type} {s s' s'' : Origin}

/-- **One function after the other.** -/
theorem Returns.bind {fn : OriginM α} {f : α → OriginM β} {a : α} {b : β}
    (h : Returns n fn s a s') (h' : Returns n (f a) s' b s'') : Returns n (fn >>= f) s b s'' := by
  unfold Returns at *
  change (fn.run >>= _).alone (solo n) s = _
  rw [alone_bind, h]
  exact h'

theorem Returns.unique {fn : OriginM α} {a b : α} (h : Returns n fn s a s')
    (h' : Returns n fn s b s'') : a = b ∧ s' = s'' := by
  obtain ⟨ha, hs⟩ := Prod.mk.inj (Option.some.inj (h.symm.trans h'))
  exact ⟨Option.some.inj ha, hs⟩

/-- The operations that are not on the keys of IndexedDB. -/
def Keyless : Op → Prop
  | .getKey _ | .putKey _ _ | .deleteKey _ => False
  | _ => True

theorem solo_of_keyless {op : Op} (h : Keyless op) (s : Origin) :
    solo n op s = VaultOrder.solo n op s := by
  cases op with
  | getKey id => exact h.elim
  | putKey id key => exact h.elim
  | deleteKey id => exact h.elim
  | _ => rfl

/-- A function that uses no key of IndexedDB. -/
def NoKeys (fn : OriginM α) : Prop := fn.run.Each Keyless

theorem NoKeys.bind {fn : OriginM α} {f : α → OriginM β} (h : NoKeys fn) (hf : ∀ a, NoKeys (f a)) :
    NoKeys (fn >>= f) := by
  change (fn.run >>= _).Each Keyless
  refine Task.Each.bind h fun r => ?_
  cases r with
  | none => exact trivial
  | some a => exact hf a

theorem noKeys_attempt (op : Op) (h : Keyless op) : NoKeys (Task.attempt op) :=
  ⟨h, fun _ => trivial⟩

theorem noKeys_withInitLock {fn : OriginM α} (h : NoKeys fn) : NoKeys (withInitLock fn) := by
  refine (noKeys_attempt .lock trivial).bind fun _ => ?_
  exact Task.Each.bind (P := Keyless) h fun r => ⟨trivial, fun _ => trivial⟩

theorem noKeys_loadVault : NoKeys (Tasks.loadVault text) := by
  refine Task.Each.bind ?_ fun r => trivial
  refine (noKeys_attempt .getWrapKey trivial).bind fun key => ?_
  refine (noKeys_attempt .getRecord trivial).bind fun rec => ?_
  obtain ⟨b, _, h | h⟩ := Tasks.openRecord_cases text key rec
  · change ((Tasks.openRecord text key rec).run).Each Keyless
    rw [h]
    trivial
  · rw [h]
    exact (noKeys_attempt .webCrypto trivial).bind fun _ => trivial

theorem noKeys_saveVaultUnlocked (payload : VaultPayload) :
    NoKeys (Tasks.saveVaultUnlocked text payload) := by
  have hkey : NoKeys Tasks.getOrCreateWrapKey := by
    refine (noKeys_attempt .getWrapKey trivial).bind fun key => ?_
    cases key with
    | some key => exact trivial
    | none =>
        refine (noKeys_attempt .generateKey trivial).bind fun key => ?_
        exact (noKeys_attempt (.putWrapKey key) trivial).bind fun _ => trivial
  refine hkey.bind fun key => ?_
  exact (noKeys_attempt .webCrypto trivial).bind fun _ => noKeys_attempt _ trivial

theorem noKeys_removeVaultCircle (circleId : Uuid) (epoch : Option ℕ) :
    NoKeys (Tasks.removeVaultCircle text circleId epoch) := by
  refine noKeys_withInitLock (noKeys_loadVault.bind fun v => ?_)
  cases v with
  | none => exact trivial
  | some v => exact noKeys_saveVaultUnlocked _

/-- **Removing a circle from the vault on its own.** -/
theorem returns_removeVaultCircle (circleId : Uuid) (epoch : Option ℕ) (hfree : s.lock = none) :
    Returns n (Tasks.removeVaultCircle text circleId epoch) s ()
      (VaultOrder.after text (.removeVaultCircle circleId epoch) s) := by
  obtain ⟨device, vaultMeta, lock, keypair, initPromise, resolved, live, legacy⟩ := s
  have hlock : lock = none := hfree
  subst hlock
  unfold Returns
  rw [alone_congr (fun op hop s => solo_of_keyless hop s) (noKeys_removeVaultCircle circleId epoch),
    ← alone_done]
  change ((withInitLock (Tasks.updateCircles text _)).run >>= _).alone (VaultOrder.solo n) _ = _
  rw [VaultOrder.alone_withInitLock _ _ rfl, VaultOrder.alone_updateCircles]
  unfold VaultOrder.after
  dsimp only
  cases device.vault text <;> rfl

/-! ### What is left -/

/-- The key of a circle at an epoch is one that is removed. -/
def removed (circleId : Uuid) (epoch : Option ℕ) (id : Uuid) (e : ℕ) : Bool :=
  decide (id = circleId) && epoch.all fun k => decide (k = e)

theorem withoutCircle_eq (circleId : Uuid) (epoch : Option ℕ) (circles : List VaultCircle) :
    Tasks.withoutCircle circleId epoch circles =
      circles.filter fun c => !removed circleId epoch c.id c.epoch := by
  cases epoch with
  | none =>
      refine List.filter_congr fun c _ => ?_
      simp [removed]
  | some k =>
      refine List.filter_congr fun c _ => ?_
      unfold removed VaultCircle.isAt
      by_cases hc : c.id = circleId
      · by_cases hk : c.epoch = k
        · simp [hc, hk]
        · simp [hc, hk, Ne.symm hk]
      · simp [hc]

/-- The keys of a payload without a circle. -/
theorem circleKey?_withoutCircle (v : VaultPayload) (sk : Bytes) (circleId : Uuid) (epoch : Option ℕ)
    (id : Uuid) (e : ℕ) :
    VaultPayload.circleKey?
        { identitySk := sk, circles := Tasks.withoutCircle circleId epoch v.circles } id e =
      if removed circleId epoch id e then none else v.circleKey? id e := by
  unfold VaultPayload.circleKey?
  rw [withoutCircle_eq, List.find?_filter]
  by_cases hgone : removed circleId epoch id e = true
  · rw [if_pos hgone, Option.map_eq_none_iff, List.find?_eq_none]
    intro c _ hc
    obtain ⟨hstays, hat⟩ := of_decide_eq_true hc
    obtain ⟨rfl, rfl⟩ := of_decide_eq_true hat
    rw [hgone] at hstays
    cases hstays
  · rw [if_neg hgone]
    refine congrArg (fun p => Option.map VaultCircle.key (List.find? p v.circles)) (funext fun c => ?_)
    by_cases hat : c.isAt id e = true
    · obtain ⟨rfl, rfl⟩ := of_decide_eq_true hat
      rw [Bool.not_eq_true] at hgone
      rw [hat, hgone]
      rfl
    · rw [Bool.not_eq_true] at hat
      rw [hat]
      simp

/-- One state after another: the ids that have gone from IndexedDB, the keys that
have gone from the vault, and the circles that have from `localStorage`. -/
structure Left (text : PayloadText) (s s' : Origin) (ids : List String) (gone : Uuid → ℕ → Bool)
    (circles : List Uuid) : Prop where
  lock : s'.lock = s.lock
  live : ∀ id, s'.live id = if id.text ∈ ids then none else s.live id
  vault : ∀ id e, s'.device.circleKey? text id e =
    if gone id e then none else s.device.circleKey? text id e
  identity : (s'.device.vault text).map VaultPayload.identitySk =
    (s.device.vault text).map VaultPayload.identitySk
  legacy : ∀ id, s'.legacy id = if id ∈ circles then none else s.legacy id

theorem Left.refl (text : PayloadText) (s : Origin) : Left text s s [] (fun _ _ => false) [] :=
  ⟨rfl, fun _ => rfl, fun _ _ => rfl, rfl, fun _ => rfl⟩

/-- **One thing after the other.** -/
theorem Left.trans {ids ids' : List String} {gone gone' : Uuid → ℕ → Bool} {circles circles' : List Uuid}
    (h : Left text s s' ids gone circles) (h' : Left text s' s'' ids' gone' circles') :
    Left text s s'' (ids ++ ids') (fun id e => gone id e || gone' id e) (circles ++ circles') where
  lock := h'.lock.trans h.lock
  live id := by
    rw [h'.live, h.live]
    by_cases hid : id.text ∈ ids <;> by_cases hid' : id.text ∈ ids' <;> simp [hid, hid']
  vault id e := by
    rw [h'.vault, h.vault]
    cases gone id e <;> cases gone' id e <;> rfl
  identity := h'.identity.trans h.identity
  legacy id := by
    rw [h'.legacy, h.legacy]
    by_cases hid : id ∈ circles <;> by_cases hid' : id ∈ circles' <;> simp [hid, hid']

/-- A key of IndexedDB is deleted. -/
theorem left_deleteKey (text : PayloadText) (n : ℕ) (id : KeyId) (s : Origin) :
    ∃ s', Returns n (Task.attempt (Op.deleteKey id)) s () s' ∧
      Left text s s' [id.text] (fun _ _ => false) [] := by
  refine ⟨_, rfl, rfl, fun id' => ?_, fun _ _ => rfl, rfl, fun _ => rfl⟩
  by_cases h : id'.text = id.text <;> simp [h]

/-- A key of `localStorage` is removed. -/
theorem left_removeLegacy (text : PayloadText) (n : ℕ) (circleId : Uuid) (s : Origin) :
    ∃ s', Returns n (Task.attempt (Op.removeLegacy circleId)) s () s' ∧
      Left text s s' [] (fun _ _ => false) [circleId] := by
  refine ⟨_, rfl, rfl, fun _ => rfl, fun _ _ => rfl, rfl, fun id => ?_⟩
  by_cases h : id = circleId
  · subst h
    simp
  · simp [h]

/-- Keys are removed from the vault. -/
theorem left_removeVaultCircle (text : PayloadText) (n : ℕ) (circleId : Uuid) (epoch : Option ℕ)
    (hfree : s.lock = none) :
    ∃ s', Returns n (Tasks.removeVaultCircle text circleId epoch) s () s' ∧
      Left text s s' [] (removed circleId epoch) [] := by
  refine ⟨_, returns_removeVaultCircle circleId epoch hfree, ?_⟩
  unfold VaultOrder.after VaultOrder.Call.writes
  cases hvault : s.device.vault text with
  | none =>
      refine ⟨rfl, fun _ => rfl, fun id e => ?_, rfl, fun _ => rfl⟩
      have hnone : s.device.circleKey? text id e = none := by
        rw [Device.circleKey?, hvault]
        rfl
      change s.device.circleKey? text id e = _
      rw [hnone, ite_self]
  | some v =>
      refine ⟨rfl, fun _ => rfl, fun id e => ?_, ?_, fun _ => rfl⟩
      · change (Device.vault text (s.device.stored text _)).bind _ = _
        rw [vault_stored, Device.circleKey?, hvault]
        exact circleKey?_withoutCircle v _ circleId epoch id e
      · change (Device.vault text (s.device.stored text _)).map _ = _
        rw [vault_stored, hvault]
        rfl

/-! ### The two functions -/

/-- The ids of a circle at some epochs. -/
def idsAt (circleId : Uuid) (epochs : List ℕ) : List String :=
  epochs.map fun e => (KeyId.keyId circleId e).text

/-- The keys at some epochs are deleted from IndexedDB. -/
theorem left_deleteKeys (text : PayloadText) (n : ℕ) (circleId : Uuid) (epochs : List ℕ) (s : Origin) :
    ∃ s', Returns n (CircleKeys.deleteKeys circleId epochs) s () s' ∧
      Left text s s' (idsAt circleId epochs) (fun _ _ => false) [] := by
  induction epochs generalizing s with
  | nil => exact ⟨s, rfl, Left.refl text s⟩
  | cons e epochs ih =>
      obtain ⟨s₁, hdelete, hleft⟩ := left_deleteKey text n (.keyId circleId e) s
      obtain ⟨s₂, hrest, hleft'⟩ := ih s₁
      exact ⟨s₂, hdelete.bind hrest, hleft.trans hleft'⟩

/-- **`clearCircleKey`** leaves neither an id up to the sixty-fourth epoch nor the
bare one, and nothing of the circle in the vault and in `localStorage`. -/
theorem left_clearCircleKey (text : PayloadText) (n : ℕ) (circleId : Uuid) (s : Origin)
    (hfree : s.lock = none) :
    ∃ s', Returns n (CircleKeys.clearCircleKey text circleId none) s () s' ∧
      Left text s s' (idsAt circleId (List.range' 1 64) ++ [circleId])
        (fun id _ => decide (id = circleId)) [circleId] := by
  obtain ⟨s₁, h₁, hleft₁⟩ := left_deleteKeys text n circleId (List.range' 1 64) s
  obtain ⟨s₂, h₂, hleft₂⟩ := left_deleteKey text n (.bare circleId) s₁
  obtain ⟨s₃, h₃, hleft₃⟩ := left_removeLegacy text n circleId s₂
  have hleft₁₃ := (hleft₁.trans hleft₂).trans hleft₃
  obtain ⟨s₄, h₄, hleft₄⟩ := left_removeVaultCircle text n circleId none
    (hleft₁₃.lock.trans hfree)
  refine ⟨s₄, h₁.bind (h₂.bind (h₃.bind h₄)), ?_⟩
  have hall := hleft₁₃.trans hleft₄
  refine ⟨hall.lock, fun id => ?_, fun id e => ?_, hall.identity, fun id => ?_⟩
  · rw [hall.live]
    simp [KeyId.text]
  · rw [hall.vault]
    simp [removed]
  · rw [hall.legacy]
    simp

/-- **`purgeCircleKeyEpochs`** leaves no id and no entry from the first epoch to the
one before its floor. -/
theorem left_purgeKeys (text : PayloadText) (n : ℕ) (circleId : Uuid) (epochs : List ℕ) (s : Origin)
    (hfree : s.lock = none) :
    ∃ s', Returns n (CircleKeys.purgeKeys text circleId epochs) s () s' ∧
      Left text s s' (idsAt circleId epochs)
        (fun id e => decide (id = circleId) && decide (e ∈ epochs)) [] := by
  induction epochs generalizing s with
  | nil =>
      refine ⟨s, rfl, rfl, fun _ => rfl, fun id e => ?_, rfl, fun _ => rfl⟩
      simp
  | cons e epochs ih =>
      obtain ⟨s₁, h₁, hleft₁⟩ := left_deleteKey text n (.keyId circleId e) s
      obtain ⟨s₂, h₂, hleft₂⟩ := left_removeVaultCircle text n circleId (some e)
        (hleft₁.lock.trans hfree)
      have hleft₁₂ := hleft₁.trans hleft₂
      obtain ⟨s₃, h₃, hleft₃⟩ := ih s₂ (hleft₁₂.lock.trans hfree)
      have hall := hleft₁₂.trans hleft₃
      refine ⟨s₃, h₁.bind (h₂.bind h₃), hall.lock, fun id => ?_, fun id k => ?_, hall.identity,
        hall.legacy⟩
      · rw [hall.live]
        rfl
      · rw [hall.vault]
        by_cases hid : id = circleId <;> by_cases hk : e = k <;>
          simp [removed, hid, hk, eq_comm]

/-- The epochs below the floor of `purgeCircleKeyEpochs`, from the first. -/
def belowFloor (currentEpoch : ℕ) : List ℕ := List.range' 1 (max 1 (currentEpoch - 1) - 1)

theorem mem_belowFloor {currentEpoch e : ℕ} :
    e ∈ belowFloor currentEpoch ↔ 1 ≤ e ∧ e < max 1 (currentEpoch - 1) := by
  unfold belowFloor
  rw [List.mem_range'_1]
  omega

/-! ### Loading -/

/-- `loadCircleKey` returns a key. -/
def Loadable (text : PayloadText) (n : ℕ) (s : Origin) (circleId : Uuid) (epoch : ℕ) : Prop :=
  ∃ key s', Returns n (CircleKeys.loadCircleKey text circleId epoch) s (some key) s'

theorem returns_getKey (n : ℕ) (id : KeyId) (s : Origin) :
    Returns n (Task.attempt (Op.getKey id)) s (s.live id) s := rfl

theorem loadable_of_live {circleId : Uuid} {epoch : ℕ} {key : Bytes}
    (h : s.live (.keyId circleId epoch) = some key) : Loadable text n s circleId epoch := by
  refine ⟨key, s, (returns_getKey n _ s).bind ?_⟩
  rw [h]
  rfl

/-- A circle with nothing at the epoch, under its bare id and in `localStorage` has
no key to load. -/
theorem not_loadable {circleId : Uuid} {epoch : ℕ} (hlive : s.live (.keyId circleId epoch) = none)
    (hbare : s.live (.bare circleId) = none) (hlegacy : s.legacy circleId = none) :
    ¬ Loadable text n s circleId epoch := by
  have hstored : Returns n (CircleKeys.loadStored text circleId epoch) s none s := by
    have hget : Returns n (Task.attempt (Op.getLegacy circleId)) s
        (s.legacy circleId) s := rfl
    refine hget.bind ?_
    rw [hlegacy]
    rfl
  have hlegacy : Returns n (CircleKeys.loadLegacy text circleId epoch) s none s := by
    unfold CircleKeys.loadLegacy
    split_ifs
    · refine (returns_getKey n _ s).bind ?_
      rw [hbare]
      exact hstored
    · exact hstored
  have hload : Returns n (CircleKeys.loadCircleKey text circleId epoch) s none s := by
    refine (returns_getKey n _ s).bind ?_
    rw [hlive]
    exact hlegacy
  rintro ⟨key, s', hsome⟩
  exact nomatch (hload.unique hsome).1

/-! ### The lifecycle -/

/-- The id of a circle, a UUID: it has no colon. -/
abbrev CircleId := { c : Uuid // ':' ∉ c.toList }

/-- No key of the circle can be loaded, at any epoch, from either store. -/
def Cleared (text : PayloadText) (n : ℕ) (c : CircleId) (s : Origin) : Prop :=
  ∀ e, ¬ Loadable text n s c e ∧ s.device.circleKey? text c e = none

/-- No key of the circle below the floor remains in either store, the bare id being
one of the first epoch, and those from the floor on are what they were. -/
def Purged (text : PayloadText) (c : CircleId) (floor : ℕ) (s s' : Origin) : Prop :=
  (∀ e < floor, s'.live (.keyId c e) = none ∧ s'.device.circleKey? text c e = none) ∧
  (1 < floor → s'.live (.bare c) = none) ∧
  (∀ e, floor ≤ e → s'.live (.keyId c e) = s.live (.keyId c e) ∧
    s'.device.circleKey? text c e = s.device.circleKey? text c e) ∧
  (floor ≤ 1 → s'.live (.bare c) = s.live (.bare c))

/-- Every key of every other circle is what it was, and so is the identity. -/
def OthersKept (text : PayloadText) (c : CircleId) (s s' : Origin) : Prop :=
  (∀ c' : CircleId, c' ≠ c →
    (∀ e, s'.live (.keyId c' e) = s.live (.keyId c' e) ∧
      s'.device.circleKey? text c' e = s.device.circleKey? text c' e) ∧
    s'.live (.bare c') = s.live (.bare c') ∧ s'.legacy c' = s.legacy c') ∧
  (s'.device.vault text).map VaultPayload.identitySk =
    (s.device.vault text).map VaultPayload.identitySk

/-- **What the two functions are for**, of a state of the stores, a circle and its
current epoch. -/
def Lifecycle (text : PayloadText) (n : ℕ) (c : CircleId) (currentEpoch : ℕ) (s : Origin) : Prop :=
  (∃ s', Returns n (CircleKeys.clearCircleKey text c none) s () s' ∧ Cleared text n c s' ∧
    OthersKept text c s s') ∧
  ∃ s', Returns n (CircleKeys.purgeCircleKeyEpochs text c currentEpoch) s () s' ∧
    Purged text c (max 1 (currentEpoch - 1)) s s' ∧ OthersKept text c s s'

variable {c : CircleId} {epochs : List ℕ} {currentEpoch : ℕ}

theorem mem_idsAt {e : ℕ} :
    (KeyId.keyId c e).text ∈ idsAt c epochs ↔ e ∈ epochs := by
  unfold idsAt
  rw [List.mem_map]
  constructor
  · rintro ⟨k, hk, htext⟩
    exact (keyId_text_inj htext).2 ▸ hk
  · exact fun h => ⟨e, h, rfl⟩

/-- The bare id of a circle is no id of a circle at an epoch. -/
theorem bare_notMem_idsAt (c' : CircleId) : (c' : Uuid) ∉ idsAt c epochs := by
  unfold idsAt
  rw [List.mem_map]
  rintro ⟨k, _, htext⟩
  exact keyId_text_ne k c'.2 htext

/-- Nor is the id of another circle. -/
theorem keyId_notMem_idsAt {c' : CircleId} (h : c' ≠ c) (e : ℕ) :
    (KeyId.keyId c' e).text ∉ idsAt c epochs := by
  unfold idsAt
  rw [List.mem_map]
  rintro ⟨k, _, htext⟩
  exact h (Subtype.ext (keyId_text_inj htext).1.symm)

/-- **Other circles are out of reach** of what is done under the ids of one. -/
theorem othersKept_of_left {ids : List String} {gone : Uuid → ℕ → Bool} {circles : List Uuid}
    (h : Left text s s' ids gone circles) (epochs : List ℕ) (hids : ∀ x ∈ ids, x ∈ idsAt c epochs ∨ x = c)
    (hgone : ∀ id e, id ≠ (c : Uuid) → gone id e = false) (hcircles : ∀ id ∈ circles, id = (c : Uuid)) :
    OthersKept text c s s' := by
  refine ⟨fun c' hne => ?_, h.identity⟩
  have hval : (c' : Uuid) ≠ c := fun heq => hne (Subtype.ext heq)
  refine ⟨fun e => ⟨?_, ?_⟩, ?_, ?_⟩
  · refine (h.live _).trans (if_neg fun hmem => ?_)
    rcases hids _ hmem with hin | hbare
    · exact keyId_notMem_idsAt hne e hin
    · exact keyId_text_ne e c.2 hbare
  · rw [h.vault, hgone _ _ hval]
    rfl
  · refine (h.live _).trans (if_neg fun hmem => ?_)
    rcases hids _ hmem with hin | hbare
    · exact bare_notMem_idsAt c' hin
    · exact hval hbare
  · exact (h.legacy _).trans (if_neg fun hmem => hval (hcircles _ hmem))

variable {o : Origin}

/-- **Clearing a circle** works exactly where it has no key at epoch zero and none
after the sixty-fourth. -/
theorem cleared_iff (hfree : o.lock = none) (db : String → Option Bytes) :
    (∃ s', Returns n (CircleKeys.clearCircleKey text c none) (shelved db o) () s' ∧
      Cleared text n c s' ∧ OthersKept text c (shelved db o) s') ↔
      ∀ e, e = 0 ∨ 64 < e → db (KeyId.keyId c e).text = none := by
  obtain ⟨s₁, hreturns, hleft⟩ := left_clearCircleKey text n c (shelved db o) hfree
  have hothers : OthersKept text c (shelved db o) s₁ := by
    refine othersKept_of_left hleft (List.range' 1 64) (fun x hx => ?_)
      (fun id _ hid => decide_eq_false hid) fun id hid => List.mem_singleton.mp hid
    exact (List.mem_append.mp hx).imp_right List.mem_singleton.mp
  have hlive : ∀ e, s₁.live (.keyId c e) =
      if e ∈ List.range' 1 64 then none else db (KeyId.keyId c e).text := by
    intro e
    refine (hleft.live _).trans (if_congr ?_ rfl rfl)
    rw [List.mem_append, mem_idsAt, List.mem_singleton]
    exact or_iff_left (keyId_text_ne e c.2)
  constructor
  · rintro ⟨s', hreturns', hcleared, _⟩ e he
    obtain ⟨_, rfl⟩ := hreturns.unique hreturns'
    cases hkey : db (KeyId.keyId c e).text with
    | none => rfl
    | some key =>
        have hkept : s₁.live (.keyId c e) = some key := by
          rw [hlive, if_neg, hkey]
          rw [List.mem_range'_1]
          omega
        exact absurd (loadable_of_live hkept) (hcleared e).1
  · intro h
    refine ⟨s₁, hreturns, fun e => ⟨not_loadable ?_ ?_ ?_, ?_⟩, hothers⟩
    · rw [hlive]
      split_ifs with hin
      · rfl
      · rw [List.mem_range'_1] at hin
        exact h e (by omega)
    · exact (hleft.live _).trans (if_pos (List.mem_append_right _ List.mem_cons_self))
    · exact (hleft.legacy _).trans (if_pos List.mem_cons_self)
    · rw [hleft.vault, decide_eq_true rfl]
      rfl

/-- **Purging a circle** works exactly where it has no key at epoch zero in either
store, and none under its bare id if the floor is past the first epoch. -/
theorem purged_iff (hfree : o.lock = none) (db : String → Option Bytes) :
    (∃ s', Returns n (CircleKeys.purgeCircleKeyEpochs text c currentEpoch) (shelved db o) () s' ∧
      Purged text c (max 1 (currentEpoch - 1)) (shelved db o) s' ∧
      OthersKept text c (shelved db o) s') ↔
      db (KeyId.keyId c 0).text = none ∧ o.device.circleKey? text c 0 = none ∧
        (2 < currentEpoch → db c = none) := by
  obtain ⟨s₁, hreturns, hleft⟩ := left_purgeKeys text n c (belowFloor currentEpoch)
    (shelved db o) hfree
  have hothers : OthersKept text c (shelved db o) s₁ := by
    refine othersKept_of_left hleft _ (fun x hx => Or.inl hx) (fun id e hid => ?_) fun id hid =>
      absurd hid List.not_mem_nil
    rw [decide_eq_false hid, Bool.false_and]
  have hlive : ∀ e, s₁.live (.keyId c e) =
      if e ∈ belowFloor currentEpoch then none else db (KeyId.keyId c e).text := fun e =>
    (hleft.live _).trans (if_congr mem_idsAt rfl rfl)
  have hvault : ∀ e, s₁.device.circleKey? text c e =
      if e ∈ belowFloor currentEpoch then none else o.device.circleKey? text c e := by
    intro e
    rw [hleft.vault, decide_eq_true rfl, Bool.true_and]
    exact if_congr (decide_eq_true_iff) rfl rfl
  have hbare : s₁.live (.bare c) = db c := (hleft.live _).trans (if_neg (bare_notMem_idsAt c))
  have hzero : 0 ∉ belowFloor currentEpoch := fun h => absurd (mem_belowFloor.mp h).1 (by decide)
  constructor
  · rintro ⟨s', hreturns', ⟨hgone, hlegacy, _⟩, _⟩
    obtain ⟨_, rfl⟩ := hreturns.unique hreturns'
    obtain ⟨hlive₀, hvault₀⟩ := hgone 0 (by omega)
    rw [hlive, if_neg hzero] at hlive₀
    rw [hvault, if_neg hzero] at hvault₀
    refine ⟨hlive₀, hvault₀, fun hepoch => ?_⟩
    rw [← hbare]
    exact hlegacy (by omega)
  · rintro ⟨hlive₀, hvault₀, hlegacy⟩
    refine ⟨s₁, hreturns, ⟨fun e he => ⟨?_, ?_⟩, fun hfloor => ?_, fun e he => ⟨?_, ?_⟩,
      fun _ => hbare⟩, hothers⟩
    · rw [hlive]
      split_ifs with hin
      · rfl
      · obtain rfl : e = 0 := by
          rw [mem_belowFloor] at hin
          omega
        exact hlive₀
    · rw [hvault]
      split_ifs with hin
      · rfl
      · obtain rfl : e = 0 := by
          rw [mem_belowFloor] at hin
          omega
        exact hvault₀
    · rw [hbare]
      exact hlegacy (by omega)
    · refine (hlive e).trans (if_neg fun hin => ?_)
      rw [mem_belowFloor] at hin
      omega
    · refine (hvault e).trans (if_neg fun hin => ?_)
      rw [mem_belowFloor] at hin
      omega

/-- **When the keys of a circle end as they should**, for every content of the two
stores: exactly where the circle has no key in IndexedDB at epoch zero or after the
sixty-fourth, none in the vault at epoch zero, and, once its epoch is past the
second, none under its bare id. -/
theorem lifecycle_iff (hfree : o.lock = none) (db : String → Option Bytes) :
    Lifecycle text n c currentEpoch (shelved db o) ↔
      (∀ e, e = 0 ∨ 64 < e → db (KeyId.keyId c e).text = none) ∧
        o.device.circleKey? text c 0 = none ∧ (2 < currentEpoch → db c = none) := by
  unfold Lifecycle
  rw [cleared_iff hfree, purged_iff hfree]
  exact ⟨fun h => ⟨h.1, h.2.2⟩, fun h => ⟨h.1, h.1 0 (Or.inl rfl), h.2⟩⟩

/-- A circle. -/
def demoCircle : CircleId := ⟨"c", by decide⟩

/-- A circle with keys at two epochs. -/
theorem lifecycle_iff_two_epochs :
    Lifecycle demoText 0 demoCircle 4
      (shelved (fun x => if x = "c:3" then some [3] else if x = "c:4" then some [4] else none) {}) := by
  refine (lifecycle_iff (n := 0) rfl _).mpr ⟨fun e he => ?_, rfl, fun _ => by decide⟩
  have hne : ∀ k, e ≠ k → (KeyId.keyId demoCircle e).text ≠ (KeyId.keyId demoCircle k).text :=
    fun k hk htext => hk (keyId_text_inj htext).2
  exact (if_neg (hne 3 (by omega))).trans (if_neg (hne 4 (by omega)))

/-- A circle at its sixty-fifth epoch: after `clearCircleKey` its key is loaded as
before.  And one from before there were epochs, now at its third: after
`purgeCircleKeyEpochs` its first key is still there. -/
theorem lifecycle_fails :
    (¬ ∃ s', Returns 0 (CircleKeys.clearCircleKey demoText demoCircle.1 none)
        (shelved (fun x => if x = "c:65" then some [65] else none) {}) () s' ∧
      Cleared demoText 0 demoCircle s' ∧
      OthersKept demoText demoCircle (shelved (fun x => if x = "c:65" then some [65] else none) {}) s') ∧
    ¬ ∃ s', Returns 0 (CircleKeys.purgeCircleKeyEpochs demoText demoCircle.1 3)
        (shelved (fun x => if x = "c" then some [1] else none) {}) () s' ∧
      Purged demoText demoCircle (max 1 (3 - 1))
        (shelved (fun x => if x = "c" then some [1] else none) {}) s' ∧
      OthersKept demoText demoCircle (shelved (fun x => if x = "c" then some [1] else none) {}) s' := by
  constructor
  · rw [cleared_iff rfl]
    intro h
    have hkey := h 65 (Or.inr (by decide))
    rw [if_pos (by decide)] at hkey
    cases hkey
  · rw [purged_iff rfl]
    rintro ⟨_, _, hbare⟩
    have hkey := hbare (by decide)
    rw [if_pos (by decide)] at hkey
    cases hkey

end KeyLifecycle
end Pwa
end SentinelMesh
