/-
# The two stores of circle keys

`saveCircleKeyWithBackup`, `rotateCircleKey`, `unwrapNip44CircleKey`, `loadCircleKey`,
`clearCircleKey` and `purgeCircleKeyEpochs` of `services/e2eeService.ts`, for any number of calls in
any number of tabs, each operation on storage or WebCrypto an await that may fail.

A key is put into IndexedDB first, where it is used, and then into the vault, from which it is wrapped
for the members; the lock is taken for the second only.

Epochs are natural numbers.  A text in `localStorage` that is empty is none, and the buffers that are
zeroed are not read afterwards.
-/

import SentinelMesh.Pwa.CircleLocation
import SentinelMesh.Pwa.EpochKeys
import SentinelMesh.Pwa.Origin

namespace SentinelMesh
namespace Pwa
namespace CircleKeys

open Lib Lib.Task Lib.Async

variable (text : PayloadText)

/-! ### Envelopes -/

/-- What `JSON.parse` makes of a package; a field of another type is none. -/
structure Package where
  version : Option ℕ
  type : Option String
  circle_id : Option Uuid
  key_epoch : Option ℕ
  algorithm : Option String
  key : Option String
  deriving DecidableEq

/-- `getPublicKey`, `verifyEvent`, NIP-44 decryption for a secret key and the key of a sender,
`JSON.parse` and `atob`; `none` is a throw. -/
structure Libraries where
  publicKey : Bytes → Pubkey
  verifyEvent : RawEvent → Bool
  decrypt : Bytes → Pubkey → String → Option String
  parse : String → Option Package
  atob : String → Option Bytes

/-- `singleTag`. -/
def singleTag (event : RawEvent) (name : String) : Option String :=
  match event.tags.filter fun tag => decide (tag.head? = some name) with
  | [tag] => tag[1]?
  | _ => none

/-- `/^[0-9a-f]{64}$/`. -/
def isLowerHex64 (s : String) : Bool := isHex 64 s && decide (toAsciiLowercase s = s)

/-- `keyEpoch`: the number in the tag `epoch`. -/
def keyEpoch (event : RawEvent) : Option ℕ := do
  let epochTag ← singleTag event "epoch"
  guard (CircleLocation.isDigits epochTag = true)
  pure (Nat.ofDigitChars 10 epochTag.toList 0)

/-- `decodeRawB64`. -/
def Libraries.decodeRawB64 (lib : Libraries) (value : String) : Option Bytes :=
  (lib.atob value).filter fun raw => decide (raw.length = 32)

/-- The checks of `unwrapNip44CircleKey`, with the key and the epoch they leave. -/
def Libraries.unwrap (lib : Libraries) (secretKey : Bytes) (circleId : Uuid) (ownerPubkey : Pubkey)
    (event : RawEvent) : Option (Bytes × ℕ) := do
  guard (isLowerHex64 ownerPubkey = true)
  guard (lib.verifyEvent event = true ∧ event.kind = Circles.circleKeyEventKind)
  guard (event.pubkey = toAsciiLowercase ownerPubkey)
  guard (singleTag event "d" = some Circles.circleKeyEventTypeV2 ∧
    singleTag event "circle" = some circleId ∧
    singleTag event "p" = some (toAsciiLowercase (lib.publicKey secretKey)))
  let epoch ← keyEpoch event
  let plaintext ← lib.decrypt secretKey ownerPubkey event.content
  let value ← lib.parse plaintext
  guard (value.version = some 2 ∧ value.type = some Circles.circleKeyEventTypeV2 ∧
    value.circle_id = some circleId ∧ value.key_epoch = some epoch ∧
    value.algorithm = some "AES-256-GCM")
  let key ← value.key
  let rawKey ← lib.decodeRawB64 key
  pure (rawKey, epoch)

/-! ### `e2eeService.ts` -/

/-- `crypto.subtle.importKey`: a key of AES has 16, 24 or 32 bytes. -/
def importKey (rawKey : Bytes) : OriginM Unit := do
  Task.attempt Op.webCrypto
  if rawKey.length = 16 ∨ rawKey.length = 24 ∨ rawKey.length = 32 then pure () else failure

/-- `saveCircleKeyWithBackup`. -/
def saveCircleKeyWithBackup (circleId : Uuid) (rawKey : Bytes) (epoch : ℕ) : OriginM Unit := do
  importKey rawKey
  Task.attempt (Op.putKey (.keyId circleId epoch) rawKey)
  Task.attempt (Op.removeLegacy circleId)
  Tasks.upsertCircleKey text circleId rawKey epoch

/-- `rotateCircleKey`, with the key `generateCircleKey` makes. -/
def rotateCircleKey (circleId : Uuid) (nextEpoch : ℕ) (fresh : Bytes) : OriginM Bytes := do
  Task.attempt Op.webCrypto
  Task.attempt Op.webCrypto
  saveCircleKeyWithBackup text circleId fresh nextEpoch
  pure fresh

/-- `unwrapNip44CircleKey`, with the key `getCachedKeypair` makes where it has none. -/
def unwrapNip44CircleKey (lib : Libraries) (circleId : Uuid) (ownerPubkey : Pubkey)
    (event : RawEvent) (minted : Bytes) : OriginM ℕ := do
  let secretKey : Bytes ← Task.attempt (Op.getCachedKeypair minted)
  match lib.unwrap secretKey circleId ownerPubkey event with
  | none => failure
  | some (rawKey, epoch) => do
    saveCircleKeyWithBackup text circleId rawKey epoch
    pure epoch

/-- The rest of `loadCircleKey`, with what `atob` makes of the text in `localStorage`. -/
def migrate (circleId : Uuid) : Option Bytes → OriginM (Option Bytes)
  | none => failure
  | some raw => do
    importKey raw
    Task.attempt (Op.putKey (.keyId circleId 1) raw)
    Tasks.upsertCircleKey text circleId raw 1
    Task.attempt (Op.removeLegacy circleId)
    pure (some raw)

/-- The rest of `loadCircleKey`, from `localStorage`. -/
def loadStored (circleId : Uuid) (epoch : ℕ) : OriginM (Option Bytes) := do
  let b64 : Option (Option Bytes) ← Task.attempt (Op.getLegacy circleId)
  match b64 with
  | none => pure none
  | some raw => if epoch = 1 then migrate text circleId raw else pure none

/-- The rest of `loadCircleKey` where there is no key at the epoch. -/
def loadLegacy (circleId : Uuid) (epoch : ℕ) : OriginM (Option Bytes) :=
  if epoch = 1 then do
    let legacy : Option Bytes ← Task.attempt (Op.getKey (.bare circleId))
    match legacy with
    | some key => do
      Task.attempt (Op.putKey (.keyId circleId 1) key)
      Task.attempt (Op.deleteKey (.bare circleId))
      pure (some key)
    | none => loadStored text circleId epoch
  else loadStored text circleId epoch

/-- `loadCircleKey`. -/
def loadCircleKey (circleId : Uuid) (epoch : ℕ) : OriginM (Option Bytes) := do
  let existing : Option Bytes ← Task.attempt (Op.getKey (.keyId circleId epoch))
  match existing with
  | some key => pure (some key)
  | none => loadLegacy text circleId epoch

/-- The keys of a circle at some epochs are deleted. -/
def deleteKeys (circleId : Uuid) : List ℕ → OriginM Unit
  | [] => pure ()
  | e :: es => do
    Task.attempt (Op.deleteKey (.keyId circleId e))
    deleteKeys circleId es

/-- `clearCircleKey`. -/
def clearCircleKey (circleId : Uuid) : Option ℕ → OriginM Unit
  | none => do
    deleteKeys circleId (List.range' 1 64)
    Task.attempt (Op.deleteKey (.bare circleId))
    Task.attempt (Op.removeLegacy circleId)
    Tasks.removeVaultCircle text circleId none
  | some epoch => do
    Task.attempt (Op.deleteKey (.keyId circleId epoch))
    Task.attempt (Op.removeLegacy circleId)
    Tasks.removeVaultCircle text circleId (some epoch)

/-- The keys of a circle at some epochs are purged from both stores. -/
def purgeKeys (circleId : Uuid) : List ℕ → OriginM Unit
  | [] => pure ()
  | e :: es => do
    Task.attempt (Op.deleteKey (.keyId circleId e))
    Tasks.removeVaultCircle text circleId (some e)
    purgeKeys circleId es

/-- `purgeCircleKeyEpochs`. -/
def purgeCircleKeyEpochs (circleId : Uuid) (currentEpoch : ℕ) : OriginM Unit :=
  purgeKeys text circleId (List.range' 1 (max 1 (currentEpoch - 1) - 1))

/-! ### The calls -/

/-- A call of a tab. -/
inductive Call
  | saveCircleKeyWithBackup (circleId : Uuid) (rawKey : Bytes) (epoch : ℕ)
  | rotateCircleKey (circleId : Uuid) (nextEpoch : ℕ) (fresh : Bytes)
  | unwrapNip44CircleKey (circleId : Uuid) (ownerPubkey : Pubkey) (event : RawEvent) (minted : Bytes)
  | loadCircleKey (circleId : Uuid) (epoch : ℕ)
  | clearCircleKey (circleId : Uuid) (epoch : Option ℕ)
  | purgeCircleKeyEpochs (circleId : Uuid) (currentEpoch : ℕ)
  deriving DecidableEq

/-- A call without what it returns; `none` is a rejection. -/
def settled {β : Type} (fn : OriginM β) : Task Op (fun op => Option op.Ans) (Option Unit) :=
  OptionT.run do
    let _ ← fn
    pure ()

/-- The calls on stores that tabs share. -/
def system (lib : Libraries) (locks : Bool) :
    System Origin Call Op (fun op => Option op.Ans) Fate (Option Unit) where
  body
    | .saveCircleKeyWithBackup circleId rawKey epoch =>
      settled (saveCircleKeyWithBackup text circleId rawKey epoch)
    | .rotateCircleKey circleId nextEpoch fresh =>
      settled (rotateCircleKey text circleId nextEpoch fresh)
    | .unwrapNip44CircleKey circleId ownerPubkey event minted =>
      settled (unwrapNip44CircleKey text lib circleId ownerPubkey event minted)
    | .loadCircleKey circleId epoch => settled (loadCircleKey text circleId epoch)
    | .clearCircleKey circleId epoch => settled (clearCircleKey text circleId epoch)
    | .purgeCircleKeyEpochs circleId currentEpoch =>
      settled (purgeCircleKeyEpochs text circleId currentEpoch)
  perform n _ := perform locks n

/-! ### Agreement -/

/-- **The stores agree**: where both hold a key of a circle at an epoch, it is the same. -/
def Agrees (s : Origin) : Prop :=
  ∀ circleId epoch key key', s.live (.keyId circleId epoch) = some key →
    s.device.circleKey? text circleId epoch = some key' → key' = key

end CircleKeys
end Pwa
end SentinelMesh
