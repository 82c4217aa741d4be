/-
# Backups of the vault

`services/backupService.ts` with the encodings of `services/identityStore.ts` it goes through: a
vault is written as JSON with base64 byte arrays, encrypted under a key that is derived from a
passphrase, and put into a versioned file; a file is opened without a write, and what was in it is
fanned out into the vault, the live keys and the list of circles.

PBKDF2, AES-GCM, SHA-256 and `getPublicKey` are parameters, and `JSON.stringify` and `JSON.parse` on
the two shapes that occur, a field of another type being none.  A text that is no UTF-8 is not read.
The salt and the initialization vector are arguments, the digests of `fingerprintPayload` come one
after the other, and of what is thrown only `decryptBackup` keeps the message.

`b64e` passes every byte of its array as an argument of one call, and an engine takes so many and no
more (`spread`): of a longer array a `RangeError` is thrown.  `b64encode` of the vault does the same
with keys, of which none is too long: they have 32 bytes at most, and every engine takes those.

A page shares what `Pwa.Origin` says and the circle ids in `localStorage`.  `exportBackup` returns its
file when `saveVaultMeta` has succeeded, with no await in between: that is one operation here.
-/

import SentinelMesh.Lib.Base64
import SentinelMesh.Pwa.CircleKeys
import SentinelMesh.Pwa.IdentityCache

namespace SentinelMesh
namespace Pwa
namespace Backup

open Lib Lib.Task Lib.Async

/-! ### Texts -/

/-- `JSON.stringify` and `JSON.parse`, on values of a shape. -/
structure JsonText (α : Type) where
  stringify : α → String
  parse : String → Option α
  parse_stringify : ∀ a, parse (stringify a) = some a

/-- A circle in the text of a payload. -/
structure CircleJson where
  id : Uuid
  key : Option String
  epoch : Option ℕ
  deriving DecidableEq

/-- The text of a payload. -/
structure PayloadJson where
  identitySk : Option String
  circles : Option (List CircleJson)
  deriving DecidableEq

/-- How the key of a file is derived. -/
structure KdfJson where
  name : Option String
  hash : Option String
  iterations : Option ℕ
  salt : Option String
  deriving DecidableEq

/-- `BackupFile`, as it was parsed. -/
structure BackupFile where
  format : Option String
  version : Option ℕ
  kdf : Option KdfJson
  iv : Option String
  ciphertext : Option String
  deriving DecidableEq

/-- `TextEncoder.encode`. -/
def textEncode (s : String) : Bytes := s.toUTF8.data.toList

/-- `TextDecoder.decode`. -/
def textDecode (bytes : Bytes) : Option String := String.fromUTF8? ⟨bytes.toArray⟩

theorem textDecode_textEncode (s : String) : textDecode (textEncode s) = some s := by
  have hbytes : (⟨(textEncode s).toArray⟩ : ByteArray) = s.toByteArray := by
    unfold textEncode
    rw [Array.toArray_toList]
    rfl
  unfold textDecode String.fromUTF8?
  rw [hbytes, dif_pos s.isValidUTF8]
  rfl

theorem textEncode_injective : Function.Injective textEncode := by
  intro s s' h
  have hdecode : textDecode (textEncode s) = textDecode (textEncode s') := congrArg textDecode h
  rw [textDecode_textEncode, textDecode_textEncode] at hdecode
  exact Option.some.inj hdecode

variable (json : JsonText PayloadJson)

/-- `encodeVaultPayload`. -/
def encodeVaultPayload (p : VaultPayload) : String :=
  json.stringify
    { identitySk := some (Base64.encode p.identitySk)
      circles := some (p.circles.map fun c =>
        { id := c.id, key := some (Base64.encode c.key), epoch := some c.epoch }) }

/-- A circle of `decodeVaultPayload`. -/
def decodeCircle (c : CircleJson) : Option VaultCircle := do
  let key ← c.key.bind Base64.decode
  pure { id := c.id, key, epoch := c.epoch.getD 1 }

/-- `decodeVaultPayload`. -/
def decodeVaultPayload (s : String) : Option VaultPayload := do
  let o ← json.parse s
  let identitySk ← o.identitySk.bind Base64.decode
  let circles ← (o.circles.getD []).mapM decodeCircle
  pure { identitySk, circles }

/-- The circles of a payload are read as they were written. -/
theorem mapM_decodeCircle (cs : List VaultCircle) :
    (cs.map fun c : VaultCircle =>
      ({ id := c.id, key := some (Base64.encode c.key), epoch := some c.epoch } : CircleJson)).mapM
        decodeCircle = some cs := by
  induction cs with
  | nil => rfl
  | cons c cs ih =>
      have hc : decodeCircle { id := c.id, key := some (Base64.encode c.key), epoch := some c.epoch } =
          some c := by
        unfold decodeCircle
        rw [Option.bind_some, Base64.decode_encode]
        rfl
      rw [List.map_cons, List.mapM_cons, hc, ih]
      rfl

/-- **A payload is read as it was written.** -/
theorem decode_encodeVaultPayload (p : VaultPayload) :
    decodeVaultPayload json (encodeVaultPayload json p) = some p := by
  unfold decodeVaultPayload encodeVaultPayload
  rw [json.parse_stringify]
  simp only [Option.bind_eq_bind, Option.bind_some, Base64.decode_encode, Option.getD_some,
    mapM_decodeCircle]
  rfl

/-- The text of a payload in bytes, for the vault and for a backup. -/
def payloadText : PayloadText where
  encode p := textEncode (encodeVaultPayload json p)
  decode bytes := (textDecode bytes).bind (decodeVaultPayload json)
  decode_encode p := by
    rw [textDecode_textEncode, Option.bind_some, decode_encodeVaultPayload]

/-! ### Cryptography -/

/-- The libraries. -/
structure Crypto where
  /-- PBKDF2 of a passphrase, a salt and a number of iterations. -/
  deriveKey : String → Bytes → ℕ → Bytes
  /-- AES-GCM with an initialization vector and a key. -/
  encrypt : Bytes → Bytes → Bytes → Bytes
  /-- The other way; `none` is a throw. -/
  decrypt : Bytes → Bytes → Bytes → Option Bytes
  sha256 : Bytes → Bytes
  getPublicKey : Bytes → Pubkey

/-- **Ideal cryptography.**  What was encrypted opens under its key and no other, and the keys of
different passphrases differ. -/
structure Crypto.Ideal (crypto : Crypto) : Prop where
  decrypt_encrypt : ∀ iv key plain, crypto.decrypt iv key (crypto.encrypt iv key plain) = some plain
  decrypt_other : ∀ iv key key' plain, key' ≠ key →
    crypto.decrypt iv key' (crypto.encrypt iv key plain) = none
  deriveKey_injective : ∀ p p' salt iterations,
    crypto.deriveKey p salt iterations = crypto.deriveKey p' salt iterations → p = p'

/-- A digit of `toString(16)`. -/
def hexDigit (n : ℕ) : Char := "0123456789abcdef".toList.getD n '0'

/-- `toString(16).padStart(2, '0')` of each byte. -/
def hexOf (bytes : Bytes) : String :=
  String.ofList (bytes.flatMap fun b => [hexDigit (b.toNat / 16), hexDigit (b.toNat % 16)])

/-- `sha256Hex`. -/
def Crypto.sha256Hex (crypto : Crypto) (bytes : Bytes) : String := hexOf (crypto.sha256 bytes)

/-- The line of a circle in the material of a fingerprint. -/
def Crypto.line (crypto : Crypto) (c : VaultCircle) : String :=
  c.id ++ ":" ++ crypto.sha256Hex c.key

/-- The material of a fingerprint. -/
def Crypto.material (crypto : Crypto) (p : VaultPayload) : String :=
  crypto.getPublicKey p.identitySk ++ "\n" ++
    "\n".intercalate ((p.circles.map crypto.line).insertionSort (· ≤ ·))

/-- What `fingerprintPayload` returns. -/
def Crypto.fingerprint (crypto : Crypto) (p : VaultPayload) : String :=
  crypto.sha256Hex (textEncode (crypto.material p))

/-- `formatVaultId`. -/
def formatVaultId (fingerprint : String) : String :=
  let h := (fingerprint.toList.take 12).map Char.toUpper
  String.ofList (h.take 4 ++ '-' :: (h.drop 4).take 4 ++ '-' :: (h.drop 8).take 4)

/-! ### What the pages share -/

/-- What `Pwa.Origin` says, the circle ids in `localStorage`, and the file that was exported last. -/
structure Site where
  origin : Origin := {}
  circleIds : List Uuid := []
  exported : Option String := none

/-- What the functions wait for. -/
inductive SiteOp
  | origin (op : Op)
  | saveVaultMeta (vm : VaultMeta) (file : String)
  | addCircleId (id : Uuid)
  deriving DecidableEq

/-- What it answers. -/
def SiteOp.Ans : SiteOp → Type
  | origin op => op.Ans
  | _ => Unit

/-- `addCircleId`. -/
def addId (id : Uuid) (ids : List Uuid) : List Uuid := if id ∈ ids then ids else ids ++ [id]

/-- An operation of the call `n`, and what becomes of it. -/
def perform (locks : Bool) (n : ℕ) : (op : SiteOp) → Fate → Site → Option (Option op.Ans × Site)
  | .origin op, x, s =>
    (Pwa.perform locks n op x s.origin).map fun o => (o.1, { s with origin := o.2 })
  | .saveVaultMeta vm file, x, s => some (match x with
    | .fails => (none, s)
    | .succeeds => (some (),
        { s with origin := { s.origin with vaultMeta := some vm }, exported := some file }))
  | .addCircleId id, x, s => some (match x with
    | .fails => (none, s)
    | .succeeds => (some (), { s with circleIds := addId id s.circleIds }))

/-- What a page does, one operation after the other. -/
abbrev SiteTask := Task SiteOp fun op => Option op.Ans

/-- A function of a page; `none` is a rejection. -/
abbrev SiteM := OptionT (Task SiteOp fun op => Option op.Ans)

/-- A task on what the pages share without the rest. -/
def onSite {α : Type} (t : Task Op (fun op => Option op.Ans) α) :
    Task SiteOp (fun op => Option op.Ans) α :=
  t.embed SiteOp.origin fun _ r => r

/-- A function of `Pwa.Origin`. -/
def onOrigin {α : Type} (fn : OriginM α) : SiteM α := OptionT.mk (onSite fn.run)

/-- A use of WebCrypto. -/
def webCrypto : SiteM Unit := onOrigin (Task.attempt Op.webCrypto)

/-- A value, or a throw. -/
def orThrow {α : Type} (a : Option α) : SiteM α := OptionT.mk (pure a)

/-! ### `identityStore.ts` -/

variable (spread : ℕ) (text : PayloadText) (crypto : Crypto)

/-- The digests of some circles. -/
def digests : List VaultCircle → SiteM Unit
  | [] => pure ()
  | _ :: cs => do
    webCrypto
    digests cs

/-- `fingerprintPayload`. -/
def fingerprintPayload (p : VaultPayload) : SiteM String := do
  digests p.circles
  webCrypto
  pure (crypto.fingerprint p)

/-- `vaultFingerprint`. -/
def vaultFingerprint : SiteM String := do
  let v ← onOrigin (Tasks.loadVault text)
  match v with
  | some v => fingerprintPayload crypto v
  | none => pure ""

/-! ### `backupService.ts` -/

/-- `FORMAT`. -/
def format : String := "sentinelmesh-vault-backup"

/-- `FORMAT_VERSION`. -/
def formatVersion : ℕ := 1

/-- `PBKDF2_ITERATIONS`. -/
def pbkdf2Iterations : ℕ := 600000

variable (files : JsonText BackupFile)

/-- `b64e`; `none` is the `RangeError` of more arguments than the engine takes. -/
def b64e (bytes : Bytes) : Option String :=
  if bytes.length ≤ spread then some (Base64.encode bytes) else none

/-- The ciphertext of a payload. -/
def ciphertextOf (payload : VaultPayload) (passphrase : String) (salt iv : Bytes) : Bytes :=
  crypto.encrypt iv (crypto.deriveKey passphrase salt pbkdf2Iterations) (text.encode payload)

/-- The file of a payload, if its parts can be encoded. -/
def sealFile (payload : VaultPayload) (passphrase : String) (salt iv : Bytes) : Option BackupFile := do
  let saltText ← b64e spread salt
  let ivText ← b64e spread iv
  let ciphertext ← b64e spread (ciphertextOf text crypto payload passphrase salt iv)
  pure
    { format := some format
      version := some formatVersion
      kdf := some
        { name := some "PBKDF2"
          hash := some "SHA-256"
          iterations := some pbkdf2Iterations
          salt := some saltText }
      iv := some ivText
      ciphertext := some ciphertext }

/-- `exportBackup`, with the salt and the initialization vector it draws. -/
def exportBackup (passphrase : String) (salt iv : Bytes) : SiteM String := do
  let payload ← onOrigin (Tasks.loadVault text)
  match payload with
  | none => failure
  | some payload =>
    webCrypto
    webCrypto
    webCrypto
    let sealed ← orThrow (sealFile spread text crypto payload passphrase salt iv)
    let file := files.stringify sealed
    let fingerprint ← vaultFingerprint text crypto
    Task.attempt (SiteOp.saveVaultMeta { lastExportedFingerprint := fingerprint } file)
    pure file

/-- `currentVaultId`. -/
def currentVaultId : SiteM String := do
  let fingerprint ← vaultFingerprint text crypto
  pure (formatVaultId fingerprint)

/-- What `decryptBackup` throws. -/
inductive DecryptError
  | notABackup
  | unsupported
  | incorrect
  deriving DecidableEq

/-- The message. -/
def DecryptError.message : DecryptError → String
  | notABackup => "Not a valid backup file"
  | unsupported => "Unrecognized or unsupported backup file format"
  | incorrect => "Incorrect passphrase or corrupted backup file"

/-- What is decrypted, and the Vault ID of it. -/
def openFile (file : BackupFile) (passphrase : String) : SiteM (VaultPayload × String) := do
  let kdf ← orThrow file.kdf
  let salt ← orThrow (kdf.salt.bind Base64.decode)
  let iterations ← orThrow kdf.iterations
  webCrypto
  webCrypto
  let iv ← orThrow (file.iv.bind Base64.decode)
  let ciphertext ← orThrow (file.ciphertext.bind Base64.decode)
  webCrypto
  let plain ← orThrow (crypto.decrypt iv (crypto.deriveKey passphrase salt iterations) ciphertext)
  let payload ← orThrow (text.decode plain)
  let fingerprint ← fingerprintPayload crypto payload
  pure (payload, formatVaultId fingerprint)

/-- `decryptBackup`. -/
def decryptBackup (fileText : String) (passphrase : String) :
    Task SiteOp (fun op => Option op.Ans) (Except DecryptError (VaultPayload × String)) :=
  match files.parse fileText with
  | none => pure (.error .notABackup)
  | some file =>
    if file.format ≠ some format ∨ file.version ≠ some formatVersion then
      pure (.error .unsupported)
    else do
      let opened ← (openFile text crypto file passphrase).run
      pure (match opened with
        | some payload => .ok payload
        | none => .error .incorrect)

/-- `RestoreResult`. -/
structure RestoreResult where
  identityRestored : Bool
  circlesRestored : ℕ
  circlesFailed : List Uuid
  deriving DecidableEq

/-- A circle of `applyRestore`. -/
def restoreCircle (c : VaultCircle) : SiteM Unit := do
  onOrigin (CircleKeys.saveCircleKeyWithBackup text c.id c.key c.epoch)
  Task.attempt (SiteOp.addCircleId c.id)

/-- What became of a circle. -/
def RestoreResult.after (r : RestoreResult) (c : VaultCircle) : Option Unit → RestoreResult
  | some () => { r with circlesRestored := r.circlesRestored + 1 }
  | none => { r with circlesFailed := r.circlesFailed ++ [c.id] }

/-- The circles of `applyRestore`, each of which may fail. -/
def restoreCircles : List VaultCircle → RestoreResult → SiteM RestoreResult
  | [], r => pure r
  | c :: cs, r => OptionT.mk do
    let done ← (restoreCircle text c).run
    (restoreCircles cs (r.after c done)).run

/-- `applyRestore`. -/
def applyRestore (payload : VaultPayload) : SiteM RestoreResult := do
  let _ ← onOrigin (IdentityCache.restoreIdentityFromSecretKey text payload.identitySk)
  restoreCircles text payload.circles
    { identityRestored := true, circlesRestored := 0, circlesFailed := [] }

end Backup
end Pwa
end SentinelMesh
