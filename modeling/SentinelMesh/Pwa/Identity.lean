/-
# An identity and the vault

`loadIdentity` of `services/nostrService.ts`, and what the functions on the vault do to
an identity that is there.

`loadVault` answers `null` where there is no record, where the record cannot be
decrypted, where its version is not known, and where a read failed just now.  To add or
remove a circle key on that answer is to do nothing.  To look for the identity on it is
to make a new one and store it over the old (`identity_replaced`), and to store a key on
it is to drop the circle keys.  `identity_kept` says exactly when this does not happen.
-/

import SentinelMesh.Pwa.Vault
import Mathlib.Logic.Encodable.Basic
import Mathlib.Logic.Equiv.List

namespace SentinelMesh
namespace Pwa

open Lib

variable (text : PayloadText)

/-- `loadIdentity`: the cached key, or the stored one, or a new one.  `generateSecretKey`
gives `sk` where it is stored, and `sk'` where nothing could be stored. -/
def loadIdentity (cached : Option Bytes) (sk sk' : Bytes) : DeviceM Bytes :=
  match cached with
  | some key => pure key
  | none => (loadOrCreateSecretKey text sk).recover sk'

/-- A record that was there is still there, or holds the same identity. -/
def IdentityKept (d d' : Device) : Prop :=
  ∀ rec, d.record = some rec → (d'.record = some rec ∧ d'.wrapKey = d.wrapKey) ∨
    ∃ v v', d.vault text = some v ∧ d'.vault text = some v' ∧ v'.identitySk = v.identitySk

/-- A record that was there is still there, or holds the same circle keys. -/
def CirclesKept (d d' : Device) : Prop :=
  ∀ rec, d.record = some rec → (d'.record = some rec ∧ d'.wrapKey = d.wrapKey) ∨
    ∃ v v', d.vault text = some v ∧ d'.vault text = some v' ∧ v'.circles = v.circles

/-- The record can be read now: it decrypts, its version is known, and none of the reads
fails. -/
def Readable (d : Device) : Prop := (d.vault text).isSome = true ∧ d.failing 3 = false

/-- The device after a read of the vault. -/
def Device.afterLoad (d : Device) : Device := (loadVault text d).2

variable {text} {d : Device}

/-- Reading the vault changes nothing that is kept. -/
theorem afterLoad_eq (text : PayloadText) (d : Device) : ∃ n, d.afterLoad text = d.used n ∧
    loadVault text d = (.ok (if d.failing 3 then none else d.vault text), d.used n) := by
  obtain ⟨n, _, hrun⟩ := loadVault_run text d
  refine ⟨n, ?_, hrun⟩
  unfold Device.afterLoad
  rw [hrun]

theorem identityKept_of_same {d' : Device} (hrec : d'.record = d.record)
    (hkey : d'.wrapKey = d.wrapKey) : IdentityKept text d d' :=
  fun _ h => Or.inl ⟨hrec.trans h, hkey⟩

theorem circlesKept_of_same {d' : Device} (hrec : d'.record = d.record)
    (hkey : d'.wrapKey = d.wrapKey) : CirclesKept text d d' :=
  fun _ h => Or.inl ⟨hrec.trans h, hkey⟩

/-- A payload that replaces the record keeps a part of it exactly if it holds that part. -/
theorem kept_stored {α : Type} (part : VaultPayload → α) {d' : Device} {p : VaultPayload}
    (h : d'.vault text = some p) :
    (∀ rec, d.record = some rec → (d'.record = some rec ∧ d'.wrapKey = d.wrapKey) ∨
      ∃ v v', d.vault text = some v ∧ d'.vault text = some v' ∧ part v' = part v) ↔
        d.record = none ∨ (d.vault text).map part = some (part p) := by
  constructor
  · intro hkept
    cases hrec : d.record with
    | none => exact Or.inl rfl
    | some rec =>
        refine Or.inr ?_
        rcases hkept rec hrec with ⟨hsame, hkey⟩ | ⟨v, v', hv, hv', hpart⟩
        · rw [← vault_congr text hkey (hsame.trans hrec.symm), h]
          rfl
        · obtain rfl := Option.some.inj (h.symm.trans hv')
          rw [hv, Option.map_some, hpart]
  · rintro (hnone | hsome) rec hrec
    · rw [hnone] at hrec
      cases hrec
    · obtain ⟨v, hv, hpart⟩ := Option.map_eq_some_iff.1 hsome
      exact Or.inr ⟨v, p, hv, h, hpart.symm⟩

theorem identityKept_stored {d' : Device} {p : VaultPayload} (h : d'.vault text = some p) :
    IdentityKept text d d' ↔
      d.record = none ∨ (d.vault text).map VaultPayload.identitySk = some p.identitySk :=
  kept_stored VaultPayload.identitySk h

theorem circlesKept_stored {d' : Device} {p : VaultPayload} (h : d'.vault text = some p) :
    CirclesKept text d d' ↔
      d.record = none ∨ (d.vault text).map VaultPayload.circles = some p.circles :=
  kept_stored VaultPayload.circles h

/-! ### Circle keys -/

/-- A change of the circles of a vault that was read keeps the identity. -/
theorem identityKept_update (f : List VaultCircle → List VaultCircle) (d : Device)
    {x : DeviceM Unit} (hx : x = do
      match ← loadVault text with
      | none => pure ()
      | some v => saveVault text { identitySk := v.identitySk, circles := f v.circles }) :
    IdentityKept text d (x d).2 := by
  subst hx
  obtain ⟨n, _, hload⟩ := afterLoad_eq text d
  rw [Prog.bind_of_ok hload]
  cases hread : (if d.failing 3 then none else d.vault text) with
  | none => exact identityKept_of_same rfl rfl
  | some v =>
      have hv : d.vault text = some v := by
        split_ifs at hread
        exact hread
      change IdentityKept text d
        (saveVault text { identitySk := v.identitySk, circles := f v.circles } (d.used n)).2
      rcases saveVault_cases text { identitySk := v.identitySk, circles := f v.circles } (d.used n) with
        hsame | ⟨hstored, _⟩
      · rw [hsame]
        exact identityKept_of_same rfl rfl
      · refine (identityKept_stored hstored).2 (Or.inr ?_)
        rw [hv]
        rfl

/-- Adding a circle key keeps the identity. -/
theorem upsertCircleKey_kept (circleId : Uuid) (rawKey : Bytes) (epoch : ℕ) (d : Device) :
    IdentityKept text d (upsertCircleKey text circleId rawKey epoch d).2 := by
  refine identityKept_update (fun circles => (circles.filter fun c => !c.isAt circleId epoch) ++
    [{ id := circleId, key := rawKey, epoch }]) d ?_
  unfold upsertCircleKey
  rfl

/-- Removing circle keys keeps the identity. -/
theorem removeVaultCircle_kept (circleId : Uuid) (epoch : Option ℕ) (d : Device) :
    IdentityKept text d (removeVaultCircle text circleId epoch d).2 := by
  cases epoch with
  | none =>
      exact identityKept_update (fun circles => circles.filter fun c => decide (c.id ≠ circleId)) d rfl
  | some epoch =>
      exact identityKept_update (fun circles => circles.filter fun c => !c.isAt circleId epoch) d rfl

/-! ### Secret keys -/

/-- What storing a secret key does: nothing, or it stores the key with the circle keys
that were read. -/
theorem saveSecretKey_run (text : PayloadText) (sk : Bytes) (d : Device) :
    saveSecretKey text sk d = saveVault text
      { identitySk := sk
        circles := (((if d.failing 3 then none else d.vault text)).map VaultPayload.circles).getD [] }
      (d.afterLoad text) := by
  obtain ⟨n, hafter, hload⟩ := afterLoad_eq text d
  rw [hafter]
  exact Prog.bind_of_ok hload

/-- The circle keys a secret key is stored with. -/
def Device.circlesRead (text : PayloadText) (d : Device) : List VaultCircle :=
  ((if d.failing 3 then none else d.vault text).map VaultPayload.circles).getD []

/-- Storing a secret key leaves the record, or one with the key. -/
theorem saveSecretKey_cases (text : PayloadText) (sk : Bytes) (d : Device) :
    (if (d.afterLoad text).failing 1 = true then
        (saveSecretKey text sk d).2.record = d.record ∧ (saveSecretKey text sk d).2.wrapKey = d.wrapKey
      else (saveSecretKey text sk d).2.vault text =
        some { identitySk := sk, circles := d.circlesRead text }) := by
  obtain ⟨n, hafter, _⟩ := afterLoad_eq text d
  rw [saveSecretKey_run, saveVault_run]
  by_cases hfail : (d.afterLoad text).failing 1 = true
  · rw [if_pos hfail, if_pos hfail, hafter]
    exact ⟨rfl, rfl⟩
  · rw [if_neg hfail, if_neg hfail]
    exact vault_stored text _ _

/-- What comes after the secret key was stored reads only. -/
theorem createSecretKey_snd (text : PayloadText) (sk : Bytes) (d : Device) :
    ∃ n, (createSecretKey text sk d).2 = (saveSecretKey text sk d).2.used n := by
  unfold createSecretKey
  cases hrun : saveSecretKey text sk d with
  | mk o t =>
      cases o with
      | error e =>
          rw [Prog.bind_of_error hrun]
          exact ⟨0, rfl⟩
      | ok u =>
          obtain ⟨n, _, hload⟩ := loadVault_run text t
          rw [Prog.bind_of_ok hrun, Prog.bind_of_ok hload]
          exact ⟨n, rfl⟩

/-- Nothing is written over the record: the first read finds it, or the read of the key
before the write fails, or the new key is the old one. -/
def Unwritten (text : PayloadText) (d : Device) (sk : Bytes) : Prop :=
  d.record = none ∨ Readable text d ∨ ((d.afterLoad text).afterLoad text).failing 1 = true ∨
    (d.vault text).map VaultPayload.identitySk = some sk

/-- **Looking for the identity keeps it exactly when nothing is written over it.** -/
theorem loadOrCreateSecretKey_kept (sk : Bytes) (d : Device) :
    IdentityKept text d (loadOrCreateSecretKey text sk d).2 ↔ Unwritten text d sk := by
  obtain ⟨n, hafter, hload⟩ := afterLoad_eq text d
  have hbody : loadOrCreateSecretKey text sk d = _ := Prog.bind_of_ok hload
  unfold Unwritten Readable
  cases hread : (if d.failing 3 then none else d.vault text) with
  | some v =>
      rw [hread] at hbody
      rw [hbody]
      have hcond : (d.vault text).isSome = true ∧ d.failing 3 = false := by
        split_ifs at hread with hfail
        exact ⟨by rw [hread]; rfl, by simpa using hfail⟩
      exact ⟨fun _ => Or.inr (Or.inl hcond), fun _ => identityKept_of_same rfl rfl⟩
  | none =>
      rw [hread] at hbody
      have hunread : ¬ ((d.vault text).isSome = true ∧ d.failing 3 = false) := by
        rintro ⟨hsome, hfail⟩
        rw [hfail, if_neg Bool.false_ne_true] at hread
        rw [hread] at hsome
        cases hsome
      have hcreate : loadOrCreateSecretKey text sk d = createSecretKey text sk (d.afterLoad text) := by
        rw [hbody, hafter]
      obtain ⟨m, hsnd⟩ := createSecretKey_snd text sk (d.afterLoad text)
      have hcases := saveSecretKey_cases text sk (d.afterLoad text)
      rw [hcreate, hsnd, or_iff_right hunread]
      split_ifs at hcases with hfail
      · -- the write is not reached
        obtain ⟨hrec, hkey⟩ := hcases
        refine ⟨fun _ => Or.inr (Or.inl hfail), fun _ => identityKept_of_same ?_ ?_⟩
        · exact hrec.trans (by rw [hafter]; rfl)
        · exact hkey.trans (by rw [hafter]; rfl)
      · have hstored : ((saveSecretKey text sk (d.afterLoad text)).2.used m).vault text =
            some { identitySk := sk, circles := (d.afterLoad text).circlesRead text } := hcases
        rw [identityKept_stored hstored, or_iff_right hfail]

/-- Where nothing is cached the device is as the vault's function leaves it. -/
theorem loadIdentity_snd (sk sk' : Bytes) (d : Device) :
    (loadIdentity text none sk sk' d).2 = (loadOrCreateSecretKey text sk d).2 := by
  change ((loadOrCreateSecretKey text sk).recover sk' d).2 = _
  unfold Prog.recover
  split
  · rename_i hrun
    rw [hrun]
  · rename_i hrun
    rw [hrun]

/-- The circle keys read are those of the vault exactly if the read gave it, or there are
none. -/
theorem circlesRead_eq_iff (d : Device) :
    (d.vault text).map VaultPayload.circles = some (d.circlesRead text) ↔
      Readable text d ∨ (d.vault text).map VaultPayload.circles = some [] := by
  unfold Device.circlesRead Readable
  cases hv : d.vault text with
  | none => simp
  | some v =>
      cases hfail : d.failing 3 with
      | false => simp
      | true => simp

/-- **Storing a secret key keeps the circle keys** exactly when it has read them, or there
are none, or nothing is stored. -/
theorem saveSecretKey_kept (sk : Bytes) (d : Device) :
    CirclesKept text d (saveSecretKey text sk d).2 ↔
      d.record = none ∨ (d.afterLoad text).failing 1 = true ∨ Readable text d ∨
        (d.vault text).map VaultPayload.circles = some [] := by
  rw [← circlesRead_eq_iff]
  have hcases := saveSecretKey_cases text sk d
  split_ifs at hcases with hfail
  · exact ⟨fun _ => Or.inr (Or.inl hfail), fun _ => circlesKept_of_same hcases.1 hcases.2⟩
  · rw [circlesKept_stored hcases, or_iff_right hfail]

/-- **An identity is kept, unless it cannot be read.**  Adding and removing circle keys keeps
it.  `loadOrCreateSecretKey`, and `loadIdentity` where nothing is cached, keep it exactly
when nothing is written over the record: there is none, the reads of it succeed and it
decrypts in a known version, the read before the write fails, or the new key is the one
there is.  `saveSecretKey` keeps the circle keys exactly when there is no record, the read
before the write fails, the reads of the record succeed and it decrypts in a known version,
or it holds none. -/
theorem identity_kept (text : PayloadText) (d : Device) :
    (∀ circleId rawKey epoch,
        IdentityKept text d (upsertCircleKey text circleId rawKey epoch d).2) ∧
      (∀ circleId epoch, IdentityKept text d (removeVaultCircle text circleId epoch d).2) ∧
      (∀ sk, IdentityKept text d (loadOrCreateSecretKey text sk d).2 ↔ Unwritten text d sk) ∧
      (∀ cached sk sk', IdentityKept text d (loadIdentity text cached sk sk' d).2 ↔
        cached.isSome = true ∨ Unwritten text d sk) ∧
      ∀ sk, CirclesKept text d (saveSecretKey text sk d).2 ↔
        d.record = none ∨ (d.afterLoad text).failing 1 = true ∨ Readable text d ∨
          (d.vault text).map VaultPayload.circles = some [] := by
  refine ⟨fun circleId rawKey epoch => upsertCircleKey_kept circleId rawKey epoch d,
    fun circleId epoch => removeVaultCircle_kept circleId epoch d,
    fun sk => loadOrCreateSecretKey_kept sk d, fun cached sk sk' => ?_,
    fun sk => saveSecretKey_kept sk d⟩
  cases cached with
  | some key => exact ⟨fun _ => Or.inl rfl, fun _ => identityKept_of_same rfl rfl⟩
  | none =>
      rw [loadIdentity_snd, loadOrCreateSecretKey_kept]
      simp

/-! ### A device -/

instance encodableUInt8 : Encodable UInt8 :=
  .ofLeftInjection UInt8.toNat (fun n => some (UInt8.ofNat n)) fun b => by simp

instance encodableChar : Encodable Char :=
  .ofLeftInjection Char.toNat (fun n => some (Char.ofNat n)) fun c => by simp

instance encodableString : Encodable String :=
  .ofLeftInjection String.toList (fun cs => some (String.ofList cs)) fun s => by simp

instance encodableVaultCircle : Encodable VaultCircle :=
  .ofLeftInjection (fun c => (c.id, c.key, c.epoch))
    (fun p => some { id := p.1, key := p.2.1, epoch := p.2.2 }) fun _ => rfl

instance encodableVaultPayload : Encodable VaultPayload :=
  .ofLeftInjection (fun p => (p.identitySk, p.circles))
    (fun p => some { identitySk := p.1, circles := p.2 }) fun _ => rfl

/-- Payloads as numbers, and numbers as so many bytes. -/
def demoText : PayloadText where
  encode p := List.replicate (Encodable.encode p) 0
  decode b := Encodable.decode b.length
  decode_encode p := by rw [List.length_replicate, Encodable.encodek]

/-- Payloads without circle keys as their identity, and the others as numbers. -/
def shortText : PayloadText where
  encode p := if p.circles = [] then 0 :: p.identitySk
    else 1 :: List.replicate (Encodable.encode p) 0
  decode
    | [] => none
    | b :: bs => if b = 0 then some { identitySk := bs, circles := [] } else Encodable.decode bs.length
  decode_encode p := by
    obtain ⟨sk, circles⟩ := p
    dsimp only
    split_ifs with h
    · subst h
      rfl
    · have hone : ¬ (1 : UInt8) = 0 := by decide
      dsimp only
      rw [if_neg hone, List.length_replicate, Encodable.encodek]

/-- A device with an identity of the first version, whose next read fails. -/
def demoDevice : Device :=
  { wrapKey := some 0
    record := some { version := 1, blob := some (sealBlob 0 (List.replicate 32 7)) }
    nextKey := 1
    faults := [true] }

/-- **One failing read replaces the identity**: the next boot finds another one. -/
theorem identity_replaced :
    demoDevice.vault demoText = some { identitySk := List.replicate 32 7, circles := [] } ∧
      ¬ IdentityKept demoText demoDevice
        (loadIdentity demoText none (List.replicate 32 9) (List.replicate 32 8) demoDevice).2 := by
  have hvault : demoDevice.vault demoText = some { identitySk := List.replicate 32 7, circles := [] } := by
    decide
  refine ⟨hvault, ?_⟩
  rw [loadIdentity_snd, loadOrCreateSecretKey_kept]
  rintro (hnone | ⟨_, hread⟩ | hfail | hsame)
  · exact absurd hnone (by decide)
  · exact absurd hread (by decide)
  · exact absurd hfail (by decide)
  · rw [hvault] at hsame
    exact absurd hsame (by decide)

end Pwa
end SentinelMesh
