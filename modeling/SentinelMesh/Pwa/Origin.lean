/-
# What the pages of an origin share

The IndexedDB databases, the web lock and `localStorage` that `services/identityStore.ts`,
`services/nostrService.ts` and `services/e2eeService.ts` await on, the variables of the identity
service, and the functions of `identityStore.ts` on the vault as tasks, which stop at each
operation: those of `Pwa.Vault` run from one await to the next.

Any operation on storage and any use of WebCrypto may fail, and then the function throws.  A web
lock is released when what it was taken for has ended, with or without a throw; where the browser
has no web locks, nothing is taken.  An operation that waits (for the lock, or for a promise that is
shared) is blocked.
-/

import SentinelMesh.Lib.Async
import SentinelMesh.Pwa.Vault

namespace SentinelMesh
namespace Pwa

open Lib Lib.Task Lib.Async

/-! ### The store and its operations -/

/-- `VaultMeta`. -/
structure VaultMeta where
  lastExportedFingerprint : String
  deriving DecidableEq

/-- A key of the store `circle_keys`: of a circle at an epoch, or of a circle from before there were
epochs. -/
inductive KeyId
  | keyId (circleId : Uuid) (epoch : ℕ)
  | bare (circleId : Uuid)
  deriving DecidableEq

/-- The vault and its metadata, the lock `sentinelmesh-identity-init` with the call that holds it;
`_keypair`, by the secret key, `_initPromise`, by its number, and what such promises have resolved
to; the keys in `circle_keys`, by what they are made of; and the keys in `localStorage`, of which
`some none` is a text that is no base64. -/
structure Origin where
  device : Device := {}
  vaultMeta : Option VaultMeta := none
  lock : Option ℕ := none
  keypair : Option Bytes := none
  initPromise : Option ℕ := none
  resolved : List (Option Bytes) := []
  live : KeyId → Option Bytes := fun _ => none
  legacy : Uuid → Option (Option Bytes) := fun _ => none

/-- What `loadIdentity` finds: the cached key, a promise it shares, or that it has made one. -/
inductive Boot
  | cached (sk : Bytes)
  | shared (promise : ℕ)
  | made (promise : ℕ)
  deriving DecidableEq

/-- What the functions wait for, and what they do between two waits. -/
inductive Op
  -- `identityStore.ts`
  | lock
  | unlock
  | getWrapKey
  | getRecord
  | generateKey
  | putWrapKey (key : WrapKey)
  | putRecord (rec : VaultRecord)
  | deleteRecord
  | deleteMeta
  | webCrypto
  -- `nostrService.ts`
  | boot
  | awaitInit (promise : ℕ)
  | finishInit (promise : ℕ) (sk : Bytes)
  | replaceKeypair (sk : Bytes)
  | getCachedKeypair (minted : Bytes)
  -- `e2eeService.ts`
  | getKey (id : KeyId)
  | putKey (id : KeyId) (key : Bytes)
  | deleteKey (id : KeyId)
  | getLegacy (circleId : Uuid)
  | removeLegacy (circleId : Uuid)
  deriving DecidableEq

/-- What it answers. -/
def Op.Ans : Op → Type
  | getWrapKey => Option WrapKey
  | getRecord => Option VaultRecord
  | generateKey => WrapKey
  | boot => Boot
  | awaitInit _ | getCachedKeypair _ => Bytes
  | getKey _ => Option Bytes
  | getLegacy _ => Option (Option Bytes)
  | _ => Unit

/-- The operation may fail. -/
def Op.MayFail : Op → Prop
  | unlock | boot | awaitInit _ | finishInit _ _ | replaceKeypair _ | getCachedKeypair _ => False
  | _ => True

instance : DecidablePred Op.MayFail
  | .unlock | .boot | .awaitInit _ | .finishInit _ _ | .replaceKeypair _ | .getCachedKeypair _ =>
    isFalse id
  | .lock | .getWrapKey | .getRecord | .generateKey | .putWrapKey _ | .putRecord _ | .deleteRecord
  | .deleteMeta | .webCrypto | .getKey _ | .putKey _ _ | .deleteKey _ | .getLegacy _
  | .removeLegacy _ => isTrue trivial

/-- What it answers and does, in the call `n`; `none` where it is blocked. -/
def answer (locks : Bool) (n : ℕ) : (op : Op) → Origin → Option (op.Ans × Origin)
  | .lock, s =>
    if locks = false then some ((), s)
    else if s.lock = none then some ((), { s with lock := some n })
    else none
  | .unlock, s => some ((), if locks = false then s else { s with lock := none })
  | .getWrapKey, s => some (s.device.wrapKey, s)
  | .getRecord, s => some (s.device.record, s)
  | .generateKey, s =>
    some (s.device.nextKey, { s with device := { s.device with nextKey := s.device.nextKey + 1 } })
  | .putWrapKey key, s => some ((), { s with device := { s.device with wrapKey := some key } })
  | .putRecord rec, s => some ((), { s with device := { s.device with record := some rec } })
  | .deleteRecord, s => some ((), { s with device := { s.device with record := none } })
  | .deleteMeta, s => some ((), { s with vaultMeta := none })
  | .webCrypto, s => some ((), s)
  | .boot, s => match s.keypair, s.initPromise with
    | some sk, _ => some (.cached sk, s)
    | none, some promise => some (.shared promise, s)
    | none, none => some (.made s.resolved.length,
        { s with initPromise := some s.resolved.length, resolved := s.resolved ++ [none] })
  | .awaitInit promise, s => s.resolved[promise]?.join.map fun sk => (sk, s)
  | .finishInit promise sk, s => some ((),
      { s with keypair := some sk, resolved := s.resolved.set promise (some sk) })
  | .replaceKeypair sk, s => some ((), { s with keypair := some sk, initPromise := none })
  | .getCachedKeypair minted, s =>
    some (s.keypair.getD minted, { s with keypair := some (s.keypair.getD minted) })
  | .getKey id, s => some (s.live id, s)
  | .putKey id key, s => some ((), { s with live := Function.update s.live id (some key) })
  | .deleteKey id, s => some ((), { s with live := Function.update s.live id none })
  | .getLegacy circleId, s => some (s.legacy circleId, s)
  | .removeLegacy circleId, s =>
    some ((), { s with legacy := Function.update s.legacy circleId none })

/-- The lock is there for the one who asks, or there are no locks. -/
theorem answer_lock {locks : Bool} {n : ℕ} {s s' : Origin}
    (h : answer locks n .lock s = some ((), s')) :
    (locks = false ∧ s' = s) ∨ (locks = true ∧ s.lock = none ∧ s' = { s with lock := some n }) := by
  change (if locks = false then some ((), s) else if s.lock = none then some ((), _) else none) =
    some ((), s') at h
  cases locks with
  | false =>
      rw [if_pos rfl] at h
      exact Or.inl ⟨rfl, (Prod.mk.inj (Option.some.inj h)).2.symm⟩
  | true =>
      rw [if_neg nofun] at h
      split_ifs at h with hfree
      exact Or.inr ⟨rfl, hfree, (Prod.mk.inj (Option.some.inj h)).2.symm⟩

/-- `loadIdentity` finds the cache filled, a promise, or neither. -/
theorem answer_boot {locks : Bool} {n : ℕ} {a : Boot} {s s' : Origin}
    (h : answer locks n .boot s = some (a, s')) :
    (∃ sk, s.keypair = some sk ∧ a = .cached sk ∧ s' = s) ∨
      (∃ promise, s.keypair = none ∧ a = .shared promise ∧ s' = s) ∨
      (s.keypair = none ∧ a = .made s.resolved.length ∧ s' =
        { s with initPromise := some s.resolved.length, resolved := s.resolved ++ [none] }) := by
  change (match s.keypair, s.initPromise with
    | some sk, _ => some (.cached sk, s)
    | none, some promise => some (.shared promise, s)
    | none, none => some (.made s.resolved.length, _)) = some (a, s') at h
  cases hk : s.keypair with
  | some sk =>
      rw [hk] at h
      obtain ⟨rfl, rfl⟩ := Prod.mk.inj (Option.some.inj h)
      exact Or.inl ⟨sk, rfl, rfl, rfl⟩
  | none =>
      rw [hk] at h
      cases hp : s.initPromise with
      | some promise =>
          rw [hp] at h
          obtain ⟨rfl, rfl⟩ := Prod.mk.inj (Option.some.inj h)
          exact Or.inr (Or.inl ⟨promise, rfl, rfl, rfl⟩)
      | none =>
          rw [hp] at h
          obtain ⟨rfl, rfl⟩ := Prod.mk.inj (Option.some.inj h)
          exact Or.inr (Or.inr ⟨rfl, rfl, rfl⟩)

/-- An operation of the call `n`, and what becomes of it. -/
def perform (locks : Bool) (n : ℕ) (op : Op) (x : Fate) (s : Origin) :
    Option (Option op.Ans × Origin) :=
  if x = .fails ∧ op.MayFail then some (none, s)
  else (answer locks n op s).map fun o => (some o.1, o.2)

/-- What an operation has done: it has failed and done nothing, or it has done what it does. -/
theorem perform_cases {locks : Bool} {n : ℕ} {op : Op} {x : Fate} {s s' : Origin}
    {r : Option op.Ans} (h : perform locks n op x s = some (r, s')) :
    (x = .fails ∧ op.MayFail ∧ r = none ∧ s' = s) ∨
      ∃ a, answer locks n op s = some (a, s') ∧ r = some a ∧ ¬ (x = .fails ∧ op.MayFail) := by
  unfold perform at h
  split_ifs at h with hfails
  · obtain ⟨rfl, rfl⟩ := Prod.mk.inj (Option.some.inj h)
    exact Or.inl ⟨hfails.1, hfails.2, rfl, rfl⟩
  · obtain ⟨o, ho, heq⟩ := Option.map_eq_some_iff.1 h
    obtain ⟨rfl, rfl⟩ := Prod.mk.inj heq
    exact Or.inr ⟨o.1, ho, rfl, hfails⟩

/-! ### `identityStore.ts` -/

/-- What a page does, one operation after the other. -/
abbrev OriginTask := Task Op fun op => Option op.Ans

/-- A function of a page; `none` is a rejection. -/
abbrev OriginM := OptionT (Task Op fun op => Option op.Ans)

variable (text : PayloadText)

/-- `withInitLock`. -/
def withInitLock {α : Type} (fn : OriginM α) : OriginM α := do
  Task.attempt Op.lock
  OptionT.mk do
    let result ← fn.run
    let _ ← Task.await Op.unlock
    pure result

namespace Tasks

/-- `getOrCreateWrapKey`. -/
def getOrCreateWrapKey : OriginM WrapKey := do
  let existing : Option WrapKey ← Task.attempt Op.getWrapKey
  match existing with
  | some key => pure key
  | none =>
    let key : WrapKey ← Task.attempt Op.generateKey
    Task.attempt (Op.putWrapKey key)
    pure key

/-- `saveVaultUnlocked`. -/
def saveVaultUnlocked (payload : VaultPayload) : OriginM Unit := do
  let wrapKey ← getOrCreateWrapKey
  Task.attempt Op.webCrypto
  Task.attempt (Op.putRecord
    { version := vaultVersion, blob := some (sealBlob wrapKey (text.encode payload)) })

/-- What `crypto.subtle.decrypt` makes of a blob. -/
def decrypted (key : WrapKey) (b : Blob) : Option Bytes :=
  b.contents.bind fun c => if c.1 = key then some c.2 else none

/-- What `loadVault` makes of a plaintext, by the version of its record; `none` where it throws. -/
def parsed (version : Option ℚ) (plain : Bytes) : Option (Option VaultPayload) :=
  if version = some 1 then some (some { identitySk := plain, circles := [] })
  else if version ≠ some vaultVersion then some none
  else (text.decode plain).map some

/-- The body of `loadVault`, once both are read. -/
def openRecord (wrapKey : Option WrapKey) (rec : Option VaultRecord) :
    OriginM (Option VaultPayload) :=
  match wrapKey, rec.bind VaultRecord.blob with
  | some key, some blob =>
    if blob.byteLength < 28 then pure none
    else do
      Task.attempt Op.webCrypto
      OptionT.mk (pure ((decrypted key blob).bind (parsed text (rec.map VaultRecord.version))))
  | _, _ => pure none

/-- What `loadVault` makes of a plaintext is what the vault holds, once an error is `null`. -/
theorem join_parsed (version : Option ℚ) (plain : Bytes) : (parsed text version plain).join =
    if version = some 1 then some { identitySk := plain, circles := [] }
    else if version ≠ some vaultVersion then none else text.decode plain := by
  unfold parsed
  split_ifs
  · rfl
  · rfl
  · cases text.decode plain <;> rfl

/-- **What is made of what was read**: what the vault holds, at once or after one use of WebCrypto,
unless that fails. -/
theorem openRecord_cases (wrapKey : Option WrapKey) (rec : Option VaultRecord) :
    ∃ b : Option (Option VaultPayload),
      b.join = Device.vault text { wrapKey := wrapKey, record := rec } ∧
        ((openRecord text wrapKey rec).run = .done b ∨
          openRecord text wrapKey rec =
            (do Task.attempt Op.webCrypto
                OptionT.mk (pure b) : OriginM (Option VaultPayload))) := by
  cases wrapKey with
  | none => exact ⟨some none, rfl, Or.inl rfl⟩
  | some key =>
      unfold openRecord Device.vault
      cases hblob : rec.bind VaultRecord.blob with
      | none => exact ⟨some none, rfl, Or.inl rfl⟩
      | some blob =>
          dsimp only
          by_cases hshort : blob.byteLength < 28
          · rw [if_pos hshort, if_pos hshort]
            exact ⟨some none, rfl, Or.inl rfl⟩
          · rw [if_neg hshort, if_neg hshort]
            refine ⟨_, ?_, Or.inr rfl⟩
            unfold decrypted
            cases blob.contents with
            | none => rfl
            | some c =>
                obtain ⟨k, plain⟩ := c
                dsimp only [Option.bind_some]
                by_cases hk : k = key
                · rw [if_pos hk, if_pos hk, Option.bind_some, join_parsed]
                · rw [if_neg hk, if_neg hk]
                  rfl

/-- The body of `loadVault`. -/
def readVault : OriginM (Option VaultPayload) := do
  let wrapKey : Option WrapKey ← Task.attempt Op.getWrapKey
  let rec : Option VaultRecord ← Task.attempt Op.getRecord
  openRecord text wrapKey rec

/-- `loadVault`: everything that is thrown is `null`. -/
def loadVault : OriginM (Option VaultPayload) := OptionT.mk do
  let result ← (readVault text).run
  pure (some result.join)

/-- `saveVault`. -/
def saveVault (payload : VaultPayload) : OriginM Unit := withInitLock (saveVaultUnlocked text payload)

/-- `saveSecretKeyUnlocked`. -/
def saveSecretKeyUnlocked (sk : Bytes) : OriginM Unit := do
  let current ← loadVault text
  saveVaultUnlocked text
    { identitySk := sk, circles := (current.map VaultPayload.circles).getD [] }

/-- `saveSecretKey`. -/
def saveSecretKey (sk : Bytes) : OriginM Unit := withInitLock (saveSecretKeyUnlocked text sk)

/-- The body of `loadOrCreateSecretKey`, with the key `generate` makes. -/
def loadOrCreateUnlocked (sk : Bytes) : OriginM Bytes := do
  let existing ← loadVault text
  match existing with
  | some existing => pure existing.identitySk
  | none =>
    saveSecretKeyUnlocked text sk
    let v ← loadVault text
    pure ((v.map VaultPayload.identitySk).getD sk)

/-- `loadOrCreateSecretKey`. -/
def loadOrCreateSecretKey (sk : Bytes) : OriginM Bytes := withInitLock (loadOrCreateUnlocked text sk)

/-- `clearSecretKey`. -/
def clearSecretKey : OriginM Unit := do
  Task.attempt Op.deleteRecord
  Task.attempt Op.deleteMeta

/-- The body of the functions that change the circles of a vault. -/
def updateCircles (change : List VaultCircle → List VaultCircle) : OriginM Unit := do
  let v ← loadVault text
  match v with
  | none => pure ()
  | some v => saveVaultUnlocked text { identitySk := v.identitySk, circles := change v.circles }

/-- The circles with a key that replaces the one at its epoch. -/
def withCircleKey (circleId : Uuid) (rawKey : Bytes) (epoch : ℕ) (circles : List VaultCircle) :
    List VaultCircle :=
  (circles.filter fun c => !c.isAt circleId epoch) ++ [{ id := circleId, key := rawKey, epoch }]

/-- `upsertCircleKey`. -/
def upsertCircleKey (circleId : Uuid) (rawKey : Bytes) (epoch : ℕ) : OriginM Unit :=
  withInitLock (updateCircles text (withCircleKey circleId rawKey epoch))

/-- The circles without a circle, or without its key at an epoch. -/
def withoutCircle (circleId : Uuid) (epoch : Option ℕ) (circles : List VaultCircle) :
    List VaultCircle :=
  match epoch with
  | none => circles.filter fun c => decide (c.id ≠ circleId)
  | some epoch => circles.filter fun c => !c.isAt circleId epoch

/-- `removeVaultCircle`. -/
def removeVaultCircle (circleId : Uuid) (epoch : Option ℕ) : OriginM Unit :=
  withInitLock (updateCircles text (withoutCircle circleId epoch))

end Tasks
end Pwa
end SentinelMesh
