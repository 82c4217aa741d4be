/-
# The device vault

`services/identityStore.ts`: the record that holds the Nostr secret key and the circle
keys, encrypted under a key that never leaves the device, and the functions that read
and write it.

AES-GCM is ideal: a blob is a length, and what it decrypts to under which key.  The
text of a payload is a parameter, of which decoding inverts encoding; an `epoch` that is
left out is 1 wherever it is read.  Each read of IndexedDB and each decryption may fail
for a while: the device carries the outcomes of the next ones, `true` for a failure.
Writes succeed.  Every function runs under the web lock of the vault, or alone.

What a function does is said of `Device.vault`, the payload the record holds, and for the
key of a circle at an epoch of `Device.circleKey?`.
-/

import SentinelMesh.Basic
import SentinelMesh.Lib.Prog
import Mathlib.Data.Rat.Defs

namespace SentinelMesh
namespace Pwa

open Lib

/-- A `Uint8Array`. -/
abbrev Bytes := List UInt8

/-- A non-extractable `CryptoKey`, by when it was generated. -/
abbrev WrapKey := ℕ

/-- `VaultCircle`. -/
structure VaultCircle where
  id : Uuid
  key : Bytes
  epoch : ℕ
  deriving DecidableEq

/-- `VaultPayload`. -/
structure VaultPayload where
  identitySk : Bytes
  circles : List VaultCircle
  deriving DecidableEq

/-- `encodeVaultPayload` and `decodeVaultPayload`, which throws on what is no payload. -/
structure PayloadText where
  encode : VaultPayload → Bytes
  decode : Bytes → Option VaultPayload
  decode_encode : ∀ p, decode (encode p) = some p

/-- An initialization vector and a ciphertext: its length, and what it decrypts to under
which key, if it does. -/
structure Blob where
  byteLength : ℕ
  contents : Option (WrapKey × Bytes)
  deriving DecidableEq

/-- `VaultRecord`. -/
structure VaultRecord where
  version : ℚ
  blob : Option Blob
  deriving DecidableEq

/-- The store `sentinelmesh-identity`, the next key `generateKey` makes, and the outcomes
of the next reads and decryptions. -/
structure Device where
  wrapKey : Option WrapKey := none
  record : Option VaultRecord := none
  nextKey : WrapKey := 0
  faults : List Bool := []
  deriving DecidableEq

/-- A function on the device; what it throws does not matter. -/
abbrev DeviceM := Prog Device Unit

/-- `VAULT_VERSION`. -/
def vaultVersion : ℚ := 2

/-! ### The browser -/

/-- Something that may fail for a while. -/
def attempt : DeviceM Unit := fun d => match d.faults with
  | true :: rest => (.error (), { d with faults := rest })
  | _ :: rest => (.ok (), { d with faults := rest })
  | [] => (.ok (), d)

/-- `idbGet(WRAP_KEY_ID)`. -/
def getWrapKey : DeviceM (Option WrapKey) := do
  attempt
  Prog.read Device.wrapKey

/-- `idbGet(SK_ID)`. -/
def getRecord : DeviceM (Option VaultRecord) := do
  attempt
  Prog.read Device.record

/-- `crypto.subtle.decrypt`. -/
def decrypt (key : WrapKey) (b : Blob) : DeviceM Bytes := do
  attempt
  match b.contents with
  | some (k, plain) => if k = key then pure plain else Prog.fail ()
  | none => Prog.fail ()

/-- `crypto.subtle.generateKey`, kept under `WRAP_KEY_ID`. -/
def putNewWrapKey : DeviceM WrapKey := fun d =>
  (.ok d.nextKey, { d with wrapKey := some d.nextKey, nextKey := d.nextKey + 1 })

/-- The blob of a plaintext: 12 bytes of vector, and a tag of 16. -/
def sealBlob (key : WrapKey) (plain : Bytes) : Blob :=
  { byteLength := 12 + (plain.length + 16), contents := some (key, plain) }

/-! ### `identityStore.ts` -/

variable (text : PayloadText)

/-- `getOrCreateWrapKey`. -/
def getOrCreateWrapKey : DeviceM WrapKey := do
  match ← getWrapKey with
  | some key => pure key
  | none => putNewWrapKey

/-- `saveVaultUnlocked`, and `saveVault`. -/
def saveVault (payload : VaultPayload) : DeviceM Unit := do
  let wrapKey ← getOrCreateWrapKey
  let blob := sealBlob wrapKey (text.encode payload)
  Prog.write fun d => { d with record := some { version := vaultVersion, blob := some blob } }

/-- The body of `loadVault`, once both are read. -/
def openRecord (wrapKey : Option WrapKey) (rec : Option VaultRecord) :
    DeviceM (Option VaultPayload) :=
  match wrapKey, rec.bind VaultRecord.blob with
  | some key, some blob =>
    if blob.byteLength < 28 then pure none
    else do
      let plain ← decrypt key blob
      if rec.map VaultRecord.version = some 1 then pure (some { identitySk := plain, circles := [] })
      else if rec.map VaultRecord.version ≠ some vaultVersion then pure none
      else match text.decode plain with
        | some payload => pure (some payload)
        | none => Prog.fail ()
  | _, _ => pure none

/-- The body of `loadVault`. -/
def readVault : DeviceM (Option VaultPayload) := do
  let wrapKey ← getWrapKey
  let rec ← getRecord
  openRecord text wrapKey rec

/-- `loadVault`: everything that is thrown is `null`. -/
def loadVault : DeviceM (Option VaultPayload) := (readVault text).recover none

/-- `saveSecretKey`. -/
def saveSecretKey (sk : Bytes) : DeviceM Unit := do
  let current ← loadVault text
  saveVault text { identitySk := sk, circles := (current.map VaultPayload.circles).getD [] }

/-- `loadSecretKey`. -/
def loadSecretKey : DeviceM (Option Bytes) := do
  let v ← loadVault text
  pure (v.map VaultPayload.identitySk)

/-- The rest of `loadOrCreateSecretKey`, where nothing was found. -/
def createSecretKey (sk : Bytes) : DeviceM Bytes := do
  saveSecretKey text sk
  let v ← loadVault text
  pure ((v.map VaultPayload.identitySk).getD sk)

/-- `loadOrCreateSecretKey`, with the key `generate` makes. -/
def loadOrCreateSecretKey (sk : Bytes) : DeviceM Bytes := do
  match ← loadVault text with
  | some existing => pure existing.identitySk
  | none => createSecretKey text sk

/-- The entry is of the circle, and of the epoch. -/
def VaultCircle.isAt (c : VaultCircle) (circleId : Uuid) (epoch : ℕ) : Bool :=
  decide (c.id = circleId ∧ c.epoch = epoch)

/-- `upsertCircleKey`. -/
def upsertCircleKey (circleId : Uuid) (rawKey : Bytes) (epoch : ℕ) : DeviceM Unit := do
  match ← loadVault text with
  | none => pure ()
  | some v =>
    let circles := v.circles.filter fun c => !c.isAt circleId epoch
    saveVault text
      { identitySk := v.identitySk, circles := circles ++ [{ id := circleId, key := rawKey, epoch }] }

/-- `loadVaultCircleKey`, at an epoch. -/
def loadVaultCircleKey (circleId : Uuid) (epoch : ℕ) : DeviceM (Option Bytes) := do
  let vault ← loadVault text
  let entries := ((vault.map VaultPayload.circles).getD []).filter fun c => decide (c.id = circleId)
  pure ((entries.find? fun c => decide (c.epoch = epoch)).map VaultCircle.key)

/-- `removeVaultCircle`. -/
def removeVaultCircle (circleId : Uuid) (epoch : Option ℕ) : DeviceM Unit := do
  match ← loadVault text with
  | none => pure ()
  | some v =>
    let circles := match epoch with
      | none => v.circles.filter fun c => decide (c.id ≠ circleId)
      | some epoch => v.circles.filter fun c => !c.isAt circleId epoch
    saveVault text { identitySk := v.identitySk, circles }

/-! ### What the functions do -/

/-- What the record holds, were nothing to fail. -/
def Device.vault (d : Device) : Option VaultPayload :=
  match d.wrapKey, d.record.bind VaultRecord.blob with
  | some key, some blob =>
    if blob.byteLength < 28 then none
    else match blob.contents with
      | some (k, plain) =>
        if k = key then
          if d.record.map VaultRecord.version = some 1 then
            some { identitySk := plain, circles := [] }
          else if d.record.map VaultRecord.version ≠ some vaultVersion then none
          else text.decode plain
        else none
      | none => none
  | _, _ => none

/-- One of the next reads fails. -/
def Device.failing (d : Device) (n : ℕ) : Bool := (d.faults.take n).contains true

/-- The device after some outcomes have been used. -/
def Device.used (d : Device) (n : ℕ) : Device := { d with faults := d.faults.drop n }

theorem attempt_run (d : Device) :
    attempt d = if d.failing 1 then (.error (), d.used 1) else (.ok (), d.used 1) := by
  obtain ⟨wrapKey, record, nextKey, faults⟩ := d
  unfold attempt Device.failing Device.used
  cases faults with
  | nil => rfl
  | cons b rest => cases b <;> rfl

theorem getWrapKey_run (d : Device) : getWrapKey d =
    if d.failing 1 then (.error (), d.used 1) else (.ok d.wrapKey, d.used 1) := by
  have hrun := attempt_run d
  unfold getWrapKey
  split_ifs at hrun ⊢
  · exact Prog.bind_of_error hrun
  · exact Prog.bind_of_ok hrun

theorem getRecord_run (d : Device) : getRecord d =
    if d.failing 1 then (.error (), d.used 1) else (.ok d.record, d.used 1) := by
  have hrun := attempt_run d
  unfold getRecord
  split_ifs at hrun ⊢
  · exact Prog.bind_of_error hrun
  · exact Prog.bind_of_ok hrun

theorem used_used (d : Device) (m n : ℕ) : (d.used m).used n = d.used (m + n) := by
  unfold Device.used
  rw [List.drop_drop]

theorem failing_succ (d : Device) (n : ℕ) :
    d.failing (n + 1) = (d.failing 1 || (d.used 1).failing n) := by
  obtain ⟨wrapKey, record, nextKey, faults⟩ := d
  unfold Device.failing Device.used
  cases faults with
  | nil => simp
  | cons b rest => cases b <;> simp

@[simp] theorem used_wrapKey (d : Device) (n : ℕ) : (d.used n).wrapKey = d.wrapKey := rfl

@[simp] theorem used_record (d : Device) (n : ℕ) : (d.used n).record = d.record := rfl

@[simp] theorem used_nextKey (d : Device) (n : ℕ) : (d.used n).nextKey = d.nextKey := rfl

@[simp] theorem used_vault (d : Device) (n : ℕ) : (d.used n).vault text = d.vault text := rfl

/-- Decrypting fails for a while, or for good. -/
theorem decrypt_run (key : WrapKey) (b : Blob) (d : Device) : decrypt key b d =
    if d.failing 1 then (.error (), d.used 1)
    else match b.contents with
      | some (k, plain) => if k = key then (.ok plain, d.used 1) else (.error (), d.used 1)
      | none => (.error (), d.used 1) := by
  have hrun := attempt_run d
  unfold decrypt
  split_ifs at hrun ⊢
  · exact Prog.bind_of_error hrun
  · rw [Prog.bind_of_ok hrun]
    cases hc : b.contents with
    | none => rfl
    | some c =>
        obtain ⟨k, plain⟩ := c
        dsimp only
        split_ifs <;> rfl

/-- What is made of the record. -/
theorem openRecord_run (d : Device) : ∃ n, n ≤ 1 ∧
    (openRecord text d.wrapKey d.record).recover none d =
      (.ok (if d.failing 1 then none else d.vault text), d.used n) := by
  have hused : d.used 0 = d := rfl
  unfold openRecord Device.vault
  split
  · rename_i key blob _ hblob
    by_cases hshort : blob.byteLength < 28
    · refine ⟨0, by omega, ?_⟩
      rw [if_pos hshort, if_pos hshort, ite_self, hused]
      rfl
    · refine ⟨1, by omega, ?_⟩
      have hrun := decrypt_run key blob d
      rw [if_neg hshort, if_neg hshort]
      by_cases hfail : d.failing 1
      · rw [if_pos hfail] at hrun ⊢
        exact Prog.recover_of_error (Prog.bind_of_error hrun)
      · rw [if_neg hfail] at hrun ⊢
        cases hc : blob.contents with
        | none =>
            rw [hc] at hrun
            exact Prog.recover_of_error (Prog.bind_of_error hrun)
        | some c =>
            obtain ⟨k, plain⟩ := c
            rw [hc] at hrun
            dsimp only at hrun ⊢
            by_cases hk : k = key
            · rw [if_pos hk] at hrun ⊢
              have hbind := Prog.bind_of_ok (f := fun plain => (
                if d.record.map VaultRecord.version = some 1 then
                  pure (some { identitySk := plain, circles := [] })
                else if d.record.map VaultRecord.version ≠ some vaultVersion then pure none
                else match text.decode plain with
                  | some payload => pure (some payload)
                  | none => Prog.fail () : DeviceM (Option VaultPayload))) hrun
              by_cases hone : d.record.map VaultRecord.version = some 1
              · rw [if_pos hone] at hbind ⊢
                exact Prog.recover_of_ok hbind
              · rw [if_neg hone] at hbind ⊢
                by_cases htwo : d.record.map VaultRecord.version ≠ some vaultVersion
                · rw [if_pos htwo] at hbind ⊢
                  exact Prog.recover_of_ok hbind
                · rw [if_neg htwo] at hbind ⊢
                  cases hdec : text.decode plain with
                  | some p =>
                      rw [hdec] at hbind
                      exact Prog.recover_of_ok hbind
                  | none =>
                      rw [hdec] at hbind
                      exact Prog.recover_of_error hbind
            · rw [if_neg hk] at hrun ⊢
              exact Prog.recover_of_error (Prog.bind_of_error hrun)
  · refine ⟨0, by omega, ?_⟩
    rw [ite_self, hused]
    rfl

/-- **What a read of the vault gives**: what the record holds, unless something fails. -/
theorem loadVault_run (d : Device) : ∃ n, n ≤ 3 ∧
    loadVault text d = (.ok (if d.failing 3 then none else d.vault text), d.used n) := by
  have hfail₁ := failing_succ d 2
  have hfail₂ := failing_succ (d.used 1) 1
  rw [used_used] at hfail₂
  unfold loadVault
  by_cases h₁ : d.failing 1
  · refine ⟨1, by omega, ?_⟩
    have hget : getWrapKey d = (.error (), d.used 1) := by rw [getWrapKey_run, if_pos h₁]
    rw [hfail₁, h₁, Bool.true_or, if_pos rfl]
    exact Prog.recover_of_error (Prog.bind_of_error hget)
  · have hget : getWrapKey d = (.ok d.wrapKey, d.used 1) := by rw [getWrapKey_run, if_neg h₁]
    have hread₁ : readVault text d = _ := Prog.bind_of_ok hget
    by_cases h₂ : (d.used 1).failing 1
    · refine ⟨2, by omega, ?_⟩
      have hrec : getRecord (d.used 1) = (.error (), d.used 2) := by
        rw [getRecord_run, if_pos h₂, used_used]
      rw [hfail₁, hfail₂, h₂, Bool.true_or, Bool.or_true, if_pos rfl]
      exact Prog.recover_of_error (hread₁.trans (Prog.bind_of_error hrec))
    · have hrec : getRecord (d.used 1) = (.ok d.record, d.used 2) := by
        rw [getRecord_run, if_neg h₂, used_used]
        rfl
      have hread : readVault text d = openRecord text (d.used 2).wrapKey (d.used 2).record (d.used 2) :=
        hread₁.trans (Prog.bind_of_ok hrec)
      obtain ⟨n, hn, hopen⟩ := openRecord_run text (d.used 2)
      have hlast : (readVault text).recover none d =
          (openRecord text (d.used 2).wrapKey (d.used 2).record).recover none (d.used 2) := by
        unfold Prog.recover
        rw [hread]
      refine ⟨2 + n, by omega, ?_⟩
      rw [Bool.not_eq_true] at h₁ h₂
      rw [hlast, hopen, used_used, hfail₁, hfail₂, h₁, h₂, Bool.false_or, Bool.false_or, used_vault]

/-- The device after a payload was stored, under the key there is or a new one. -/
def Device.stored (d : Device) (payload : VaultPayload) : Device :=
  { d with
    wrapKey := some (d.wrapKey.getD d.nextKey)
    record := some
      { version := vaultVersion
        blob := some (sealBlob (d.wrapKey.getD d.nextKey) (text.encode payload)) }
    nextKey := if d.wrapKey.isSome then d.nextKey else d.nextKey + 1 }

/-- **What is stored is what the vault holds.** -/
theorem vault_stored (d : Device) (payload : VaultPayload) :
    (d.stored text payload).vault text = some payload := by
  have hlong : ¬ 12 + ((text.encode payload).length + 16) < 28 := by omega
  have hone : ¬ (some vaultVersion : Option ℚ) = some 1 := by decide
  unfold Device.vault Device.stored sealBlob
  simp only [Option.bind_some, Option.map_some, if_neg hlong, if_true, if_neg hone, ne_eq,
    not_true_eq_false, if_false, text.decode_encode]

/-- The vault is in the key and the record. -/
theorem vault_congr {d d' : Device} (hkey : d'.wrapKey = d.wrapKey) (hrecord : d'.record = d.record) :
    d'.vault text = d.vault text := by
  unfold Device.vault
  rw [hkey, hrecord]

/-- The vault under the key that seals its record. -/
theorem vault_sealed {d : Device} {key : WrapKey} {payload : VaultPayload}
    (hkey : d.wrapKey = some key) (hrecord : d.record = some
      { version := vaultVersion, blob := some (sealBlob key (text.encode payload)) }) :
    d.vault text = some payload := by
  rw [← vault_stored text d payload]
  refine vault_congr text ?_ ?_
  · rw [Device.stored, hkey]
    rfl
  · rw [Device.stored, hkey, hrecord]
    rfl

theorem vault_of_no_key {d : Device} (h : d.wrapKey = none) : d.vault text = none := by
  unfold Device.vault
  rw [h]

theorem vault_of_no_record {d : Device} (h : d.record = none) : d.vault text = none := by
  unfold Device.vault
  rw [h]
  split
  · rename_i hblob
    exact nomatch hblob
  · rfl

/-- Storing fails with the read of the key, or it stores. -/
theorem saveVault_run (payload : VaultPayload) (d : Device) : saveVault text payload d =
    if d.failing 1 then (.error (), d.used 1) else (.ok (), (d.used 1).stored text payload) := by
  have hget := getWrapKey_run d
  unfold saveVault getOrCreateWrapKey
  split_ifs at hget ⊢
  · exact Prog.bind_of_error (Prog.bind_of_error hget)
  · have hkey : getOrCreateWrapKey d = (.ok (d.wrapKey.getD d.nextKey),
        { d.used 1 with
          wrapKey := some (d.wrapKey.getD d.nextKey)
          nextKey := if d.wrapKey.isSome then d.nextKey else d.nextKey + 1 }) := by
      unfold getOrCreateWrapKey
      rw [Prog.bind_of_ok hget]
      cases hk : d.wrapKey with
      | none => rfl
      | some key =>
          unfold Device.used
          rw [hk]
          rfl
    exact Prog.bind_of_ok hkey

/-! ### The key of a circle -/

/-- The key of a circle at an epoch in a payload. -/
def VaultPayload.circleKey? (v : VaultPayload) (circleId : Uuid) (epoch : ℕ) : Option Bytes :=
  (v.circles.find? fun c => c.isAt circleId epoch).map VaultCircle.key

/-- The key of a circle at an epoch in the vault. -/
def Device.circleKey? (d : Device) (circleId : Uuid) (epoch : ℕ) : Option Bytes :=
  (d.vault text).bind fun v => v.circleKey? circleId epoch

@[simp] theorem used_circleKey? (d : Device) (n : ℕ) (circleId : Uuid) (epoch : ℕ) :
    (d.used n).circleKey? text circleId epoch = d.circleKey? text circleId epoch := rfl

/-- A key that is added replaces that of its circle and epoch and no other. -/
theorem circleKey?_add (v : VaultPayload) (sk : Bytes) (circleId id : Uuid) (rawKey : Bytes)
    (epoch e : ℕ) :
    VaultPayload.circleKey?
      { identitySk := sk
        circles := (v.circles.filter fun c => !c.isAt circleId epoch) ++
          [{ id := circleId, key := rawKey, epoch }] } id e =
      if id = circleId ∧ e = epoch then some rawKey else v.circleKey? id e := by
  unfold VaultPayload.circleKey?
  rw [List.find?_append, List.find?_filter]
  by_cases hsame : id = circleId ∧ e = epoch
  · obtain ⟨rfl, rfl⟩ := hsame
    have hnone : (v.circles.find? fun c =>
        decide ((!c.isAt id e) = true ∧ c.isAt id e = true)) = none :=
      List.find?_eq_none.2 fun c _ => by simp
    rw [if_pos ⟨rfl, rfl⟩, hnone]
    simp [VaultCircle.isAt]
  · have hother : (fun c : VaultCircle =>
        decide ((!c.isAt circleId epoch) = true ∧ c.isAt id e = true)) = fun c => c.isAt id e := by
      funext c
      unfold VaultCircle.isAt
      by_cases hc : c.id = id ∧ c.epoch = e
      · rw [hc.1, hc.2, decide_eq_false hsame]
        simp
      · simp [hc]
    have hlast : VaultCircle.isAt { id := circleId, key := rawKey, epoch } id e = false :=
      decide_eq_false fun h => hsame ⟨h.1.symm, h.2.symm⟩
    rw [if_neg hsame, hother, List.find?_singleton, hlast]
    simp

/-- **What a read of a circle key gives**: the one in the vault, unless something fails. -/
theorem loadVaultCircleKey_run (circleId : Uuid) (epoch : ℕ) (d : Device) :
    ∃ n, loadVaultCircleKey text circleId epoch d =
      (.ok (if d.failing 3 then none else d.circleKey? text circleId epoch), d.used n) := by
  obtain ⟨n, _, hload⟩ := loadVault_run text d
  have hrun : loadVaultCircleKey text circleId epoch d = _ := Prog.bind_of_ok hload
  refine ⟨n, hrun.trans ?_⟩
  unfold Device.circleKey? VaultPayload.circleKey?
  split_ifs with hfail
  · rfl
  · cases d.vault text with
    | none => rfl
    | some v =>
        have hat : (fun c : VaultCircle => decide (decide (c.id = circleId) = true ∧
            decide (c.epoch = epoch) = true)) = fun c => c.isAt circleId epoch := by
          funext c
          unfold VaultCircle.isAt
          simp
        rw [Option.map_some, Option.getD_some, List.find?_filter, hat]
        rfl

/-- Storing leaves a record that holds the payload, or changes nothing that is kept. -/
theorem saveVault_cases (payload : VaultPayload) (d : Device) :
    (saveVault text payload d).2 = d.used 1 ∨
      ((saveVault text payload d).2.vault text = some payload ∧ d.failing 1 = false) := by
  rw [saveVault_run]
  split_ifs with hfail
  · exact Or.inl rfl
  · exact Or.inr ⟨vault_stored text _ payload, by simpa using hfail⟩

/-- **Adding a circle key** replaces the one of its circle and epoch, or changes no key. -/
theorem upsertCircleKey_cases (circleId : Uuid) (rawKey : Bytes) (epoch : ℕ) (d : Device) :
    (∀ id e, (upsertCircleKey text circleId rawKey epoch d).2.circleKey? text id e =
        d.circleKey? text id e) ∨
      ∀ id e, (upsertCircleKey text circleId rawKey epoch d).2.circleKey? text id e =
        if id = circleId ∧ e = epoch then some rawKey else d.circleKey? text id e := by
  obtain ⟨n, _, hload⟩ := loadVault_run text d
  have hrun : upsertCircleKey text circleId rawKey epoch d = _ := Prog.bind_of_ok hload
  rw [hrun]
  cases hread : (if d.failing 3 then none else d.vault text) with
  | none => exact Or.inl fun _ _ => rfl
  | some v =>
      have hv : d.vault text = some v := by
        split_ifs at hread
        exact hread
      rcases saveVault_cases text
        { identitySk := v.identitySk
          circles := (v.circles.filter fun c => !c.isAt circleId epoch) ++
            [{ id := circleId, key := rawKey, epoch }] } (d.used n) with hsame | ⟨hstored, _⟩
      · refine Or.inl fun id e => ?_
        dsimp only
        rw [hsame, used_circleKey?, used_circleKey?]
      · refine Or.inr fun id e => ?_
        dsimp only
        unfold Device.circleKey?
        rw [hstored, hv, Option.bind_some, Option.bind_some, circleKey?_add]

end Pwa
end SentinelMesh
