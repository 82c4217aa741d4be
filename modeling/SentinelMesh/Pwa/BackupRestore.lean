/-
# A backup restores the vault

`exportBackup` on one device, `decryptBackup` and `applyRestore` on another, each on its own and with
a storage that works.

A vault that the functions of `identityStore.ts` have made holds one key for a circle at an epoch, and
every key is one that `crypto.subtle.importKey` takes: both callers of `upsertCircleKey` import the
key first.  So `applyRestore` puts every circle back, one after the other and in their order
(`alone_restoreCircles`), and the device then holds what the exported vault held.

That is so of every vault whose ciphertext `b64e` can encode, and of no other (`backup_restores_iff`).
A rotation adds an entry and none is ever taken away, so a vault grows beyond that
(`large_vault_throws`): its export throws, and there is no file at all.
-/

import SentinelMesh.Pwa.Backup
import SentinelMesh.Pwa.VaultRuns

namespace SentinelMesh
namespace Pwa
namespace Backup

open Lib Lib.Task Lib.Async

variable {spread : ℕ} {text : PayloadText} {crypto : Crypto} {files : JsonText BackupFile} {n : ℕ}
  {α β : Type}

/-! ### The vaults there are -/

/-- A key that `crypto.subtle.importKey` takes for AES. -/
def Importable (rawKey : Bytes) : Prop :=
  rawKey.length = 16 ∨ rawKey.length = 24 ∨ rawKey.length = 32

/-- One key for a circle at an epoch, and every key can be imported. -/
structure Sound (circles : List VaultCircle) : Prop where
  distinct : (circles.map fun c => (c.id, c.epoch)).Nodup
  importable : ∀ c ∈ circles, Importable c.key

/-- `saveSecretKey`, `upsertCircleKey` and `removeVaultCircle`, with keys that were imported. -/
def Writes : VaultOrder.Call → Prop
  | .saveSecretKey _ => True
  | .upsertCircleKey _ rawKey _ => Importable rawKey
  | .removeVaultCircle _ _ => True
  | _ => False

/-- What is left where such calls have run, one after the other, and there was no vault. -/
inductive Reached (text : PayloadText) : Origin → Prop
  | first {o : Origin} (hfree : o.lock = none) (hnone : o.device.vault text = none) : Reached text o
  | next {o o' : Origin} {c : VaultOrder.Call} {a : VaultOrder.Outcome} (h : Reached text o)
      (hc : Writes c) (hcall : (VaultOrder.system text).alone .succeeds 0 c o = some (a, o')) :
      Reached text o'

theorem Sound.sublist {cs cs' : List VaultCircle} (h : Sound cs) (hsub : List.Sublist cs' cs) :
    Sound cs' :=
  ⟨h.distinct.sublist (hsub.map _), fun c hc => h.importable c (hsub.subset hc)⟩

/-- The entry of a circle at an epoch is the one that is replaced. -/
theorem isAt_iff {c : VaultCircle} {circleId : Uuid} {epoch : ℕ} :
    c.isAt circleId epoch = true ↔ (c.id, c.epoch) = (circleId, epoch) := by
  unfold VaultCircle.isAt
  rw [decide_eq_true_iff, Prod.mk.injEq]

theorem sound_withCircleKey {cs : List VaultCircle} (h : Sound cs) {circleId : Uuid} {rawKey : Bytes}
    {epoch : ℕ} (hkey : Importable rawKey) : Sound (Tasks.withCircleKey circleId rawKey epoch cs) := by
  have hkept : Sound (cs.filter fun c => !c.isAt circleId epoch) := h.sublist List.filter_sublist
  unfold Tasks.withCircleKey
  refine ⟨?_, fun c hc => ?_⟩
  · rw [List.map_append, List.nodup_append]
    refine ⟨hkept.distinct, List.nodup_singleton _, fun i hi j hj => ?_⟩
    obtain ⟨c, hc, rfl⟩ := List.mem_map.1 hi
    obtain rfl := List.mem_singleton.1 hj
    have hat := (List.mem_filter.1 hc).2
    rw [Bool.not_eq_true', Bool.eq_false_iff] at hat
    exact fun heq => hat (isAt_iff.2 heq)
  · rcases List.mem_append.1 hc with hc | hc
    · exact hkept.importable c hc
    · obtain rfl := List.mem_singleton.1 hc
      exact hkey

theorem Writes.locked {c : VaultOrder.Call} (h : Writes c) : c ≠ .clearSecretKey := by
  rintro rfl
  exact h

/-- What such a call writes is sound where the vault was. -/
theorem sound_writes {c : VaultOrder.Call} (hc : Writes c) {o : Option VaultPayload}
    (h : ∀ v, o = some v → Sound v.circles) {v' : VaultPayload} (hv' : c.writes o = some v') :
    Sound v'.circles := by
  cases c with
  | saveSecretKey sk =>
      obtain rfl := Option.some.inj hv'
      cases o with
      | none => exact ⟨List.nodup_nil, fun c hc => nomatch hc⟩
      | some v => exact h v rfl
  | upsertCircleKey circleId rawKey epoch =>
      obtain ⟨v, rfl, rfl⟩ := Option.map_eq_some_iff.1 hv'
      exact sound_withCircleKey (h v rfl) hc
  | removeVaultCircle circleId epoch =>
      obtain ⟨v, rfl, rfl⟩ := Option.map_eq_some_iff.1 hv'
      refine (h v rfl).sublist ?_
      cases epoch with
      | none => exact List.filter_sublist
      | some epoch => exact List.filter_sublist
  | saveVault payload => exact hc.elim
  | loadOrCreateSecretKey sk => exact hc.elim
  | clearSecretKey => exact hc.elim

/-- **Every vault there is is sound**, and the lock is free. -/
theorem Reached.sound {o : Origin} (h : Reached text o) :
    o.lock = none ∧ ∀ v, o.device.vault text = some v → Sound v.circles := by
  induction h with
  | first hfree hnone => exact ⟨hfree, fun v hv => nomatch hnone.symm.trans hv⟩
  | @next o o' c a _ hc hcall ih =>
      rw [VaultOrder.alone_of_locked hc.locked ih.1] at hcall
      obtain rfl := (Prod.mk.inj (Option.some.inj hcall)).2
      refine ⟨(VaultOrder.lock_after c o).trans ih.1, fun v hv => ?_⟩
      unfold VaultOrder.after at hv
      cases hw : c.writes (o.device.vault text) with
      | none =>
          rw [hw] at hv
          exact ih.2 v hv
      | some v' =>
          rw [hw] at hv
          obtain rfl := Option.some.inj ((vault_stored text o.device v').symm.trans hv)
          exact sound_writes hc ih.2 hw

theorem Reached.after {o : Origin} (h : Reached text o) {c : VaultOrder.Call} (hc : Writes c) :
    Reached text (VaultOrder.after text c o) :=
  h.next hc (VaultOrder.alone_of_locked hc.locked h.sound.1)

/-- A key of a new circle and epoch comes last. -/
theorem withCircleKey_of_new {cs : List VaultCircle} {c : VaultCircle}
    (h : (c.id, c.epoch) ∉ cs.map fun c => (c.id, c.epoch)) :
    Tasks.withCircleKey c.id c.key c.epoch cs = cs ++ [c] := by
  have hall : (cs.filter fun c' => !c'.isAt c.id c.epoch) = cs := by
    refine List.filter_eq_self.2 fun c' hc' => ?_
    rw [Bool.not_eq_true', Bool.eq_false_iff]
    exact fun hat => h (List.mem_map.2 ⟨c', hc', isAt_iff.1 hat⟩)
  unfold Tasks.withCircleKey
  rw [hall]

/-! ### Functions on their own -/

/-- An operation where no other call is. -/
def solo (n : ℕ) (op : SiteOp) (s : Site) : Option (Option op.Ans × Site) :=
  perform true n op .succeeds s

/-- A page whose storage works is left in another state with a result. -/
def Returns (n : ℕ) (fn : SiteM α) (s : Site) (a : α) (s' : Site) : Prop :=
  fn.run.alone (solo n) s = some (some a, s')

/-- The same of a function of `Pwa.Origin`. -/
def OriginReturns (n : ℕ) (fn : OriginM α) (o : Origin) (a : α) (o' : Origin) : Prop :=
  fn.run.alone (VaultOrder.solo n) o = some (some a, o')

theorem returns_pure (a : α) (s : Site) : Returns n (pure a) s a s := rfl

/-- **One function after the other.** -/
theorem Returns.bind {fn : SiteM α} {f : α → SiteM β} {s s' s'' : Site} {a : α} {b : β}
    (h : Returns n fn s a s') (h' : Returns n (f a) s' b s'') : Returns n (fn >>= f) s b s'' := by
  unfold Returns at *
  change (fn.run >>= _).alone (solo n) s = _
  rw [alone_bind, h]
  exact h'

theorem OriginReturns.bind {fn : OriginM α} {f : α → OriginM β} {o o' o'' : Origin} {a : α} {b : β}
    (h : OriginReturns n fn o a o') (h' : OriginReturns n (f a) o' b o'') :
    OriginReturns n (fn >>= f) o b o'' := by
  unfold OriginReturns at *
  change (fn.run >>= _).alone (VaultOrder.solo n) o = _
  rw [alone_bind, h]
  exact h'

/-- **A function of `Pwa.Origin`** does on a page what it does. -/
theorem returns_onOrigin {fn : OriginM α} {s : Site} {a : α} {o' : Origin}
    (h : OriginReturns n fn s.origin a o') :
    Returns n (onOrigin fn) s a { s with origin := o' } := by
  have hop : ∀ (op : Op) (t : Site), (solo n (.origin op) t).map (fun r => (r.1, r.2)) =
      (VaultOrder.solo n op t.origin).map fun r => (r.1, { t with origin := r.2 }) := by
    intro op t
    change ((VaultOrder.solo n op t.origin).map _).map _ = _
    rw [Option.map_map]
    rfl
  have hpart : (onSite fn.run).alone (solo n) s =
      (fn.run.alone (VaultOrder.solo n) s.origin).map fun r => (r.1, { s with origin := r.2 }) :=
    alone_embed Site.origin (fun o s => { s with origin := o }) (fun _ _ => rfl) (fun _ _ _ => rfl)
      (fun _ => rfl) hop fn.run s
  refine hpart.trans ?_
  have hfn : fn.run.alone (VaultOrder.solo n) s.origin = some (some a, o') := h
  rw [hfn]
  rfl

/-- **A read of the vault.** -/
theorem returns_loadVault (s : Site) :
    Returns n (onOrigin (Tasks.loadVault text)) s (s.origin.device.vault text) s := by
  have h : OriginReturns n (Tasks.loadVault text) s.origin (s.origin.device.vault text)
      s.origin := by
    unfold OriginReturns
    rw [← alone_done, VaultOrder.alone_loadVault]
    rfl
  exact returns_onOrigin h

theorem returns_webCrypto (s : Site) : Returns n webCrypto s () s := rfl

theorem returns_orThrow {o : Option α} {a : α} (h : o = some a) (s : Site) :
    Returns n (orThrow o) s a s := by
  rw [h]
  rfl

theorem returns_digests (cs : List VaultCircle) (s : Site) : Returns n (digests cs) s () s := by
  induction cs with
  | nil => rfl
  | cons c cs ih => exact (returns_webCrypto s).bind ih

theorem returns_fingerprintPayload (p : VaultPayload) (s : Site) :
    Returns n (fingerprintPayload crypto p) s (crypto.fingerprint p) s :=
  (returns_digests p.circles s).bind ((returns_webCrypto s).bind (returns_pure _ s))

theorem returns_vaultFingerprint {s : Site} {v : VaultPayload}
    (hv : s.origin.device.vault text = some v) :
    Returns n (vaultFingerprint text crypto) s (crypto.fingerprint v) s := by
  refine (returns_loadVault s).bind ?_
  rw [hv]
  exact returns_fingerprintPayload v s

/-- **The Vault ID** is that of what the vault holds. -/
theorem returns_currentVaultId {s : Site} {v : VaultPayload}
    (hv : s.origin.device.vault text = some v) :
    Returns n (currentVaultId text crypto) s (formatVaultId (crypto.fingerprint v)) s :=
  (returns_vaultFingerprint hv).bind (returns_pure _ s)

/-! ### Files -/

/-- The page when a file was exported. -/
def Site.after (s : Site) (fingerprint file : String) : Site :=
  { s with
    origin := { s.origin with vaultMeta := some { lastExportedFingerprint := fingerprint } }
    exported := some file }

/-- **A file is made** where the engine takes the bytes of each of its three parts as arguments of one
call, and then it holds these parts in base64 beside the parameters of the key. -/
theorem sealFile_eq_some_iff {payload : VaultPayload} {passphrase : String} {salt iv : Bytes}
    {file : BackupFile} :
    sealFile spread text crypto payload passphrase salt iv = some file ↔
      (salt.length ≤ spread ∧ iv.length ≤ spread ∧
        (ciphertextOf text crypto payload passphrase salt iv).length ≤ spread) ∧
      file =
        { format := some format
          version := some formatVersion
          kdf := some
            { name := some "PBKDF2"
              hash := some "SHA-256"
              iterations := some pbkdf2Iterations
              salt := some (Base64.encode salt) }
          iv := some (Base64.encode iv)
          ciphertext := some
            (Base64.encode (ciphertextOf text crypto payload passphrase salt iv)) } := by
  unfold sealFile b64e
  by_cases hsalt : salt.length ≤ spread
  · by_cases hiv : iv.length ≤ spread
    · by_cases hcipher : (ciphertextOf text crypto payload passphrase salt iv).length ≤ spread
      · rw [if_pos hsalt, if_pos hiv, if_pos hcipher]
        exact ⟨fun h => ⟨⟨hsalt, hiv, hcipher⟩, (Option.some.inj h).symm⟩, fun h => h.2 ▸ rfl⟩
      · rw [if_pos hsalt, if_pos hiv, if_neg hcipher]
        exact ⟨nofun, fun h => absurd h.1.2.2 hcipher⟩
    · rw [if_pos hsalt, if_neg hiv]
      exact ⟨nofun, fun h => absurd h.1.2.1 hiv⟩
  · rw [if_neg hsalt]
    exact ⟨nofun, fun h => absurd h.1.1 hsalt⟩

/-- **An export** writes the vault into a file and changes nothing but what is known of it. -/
theorem returns_exportBackup {s : Site} {v : VaultPayload} (hv : s.origin.device.vault text = some v)
    {passphrase : String} {salt iv : Bytes} {file : BackupFile}
    (hfile : sealFile spread text crypto v passphrase salt iv = some file) :
    Returns n (exportBackup spread text crypto files passphrase salt iv) s (files.stringify file)
      (s.after (crypto.fingerprint v) (files.stringify file)) := by
  refine (returns_loadVault s).bind ?_
  rw [hv]
  refine (returns_webCrypto s).bind ((returns_webCrypto s).bind ((returns_webCrypto s).bind ?_))
  exact (returns_orThrow hfile s).bind ((returns_vaultFingerprint hv).bind rfl)

/-- Bytes are read from a file as they were written. -/
theorem bind_encode (bytes : Bytes) :
    (some (Base64.encode bytes)).bind Base64.decode = some bytes := by
  rw [Option.bind_some, Base64.decode_encode]

/-- **The right passphrase** opens a file. -/
theorem decryptBackup_sealFile (hcrypto : crypto.Ideal) {v : VaultPayload} {passphrase : String}
    {salt iv : Bytes} {file : BackupFile}
    (hfile : sealFile spread text crypto v passphrase salt iv = some file) (s : Site) :
    (decryptBackup text crypto files (files.stringify file) passphrase).alone (solo n) s =
      some (.ok (v, formatVaultId (crypto.fingerprint v)), s) := by
  obtain ⟨-, hparts⟩ := sealFile_eq_some_iff.1 hfile
  have hopen : Returns n (openFile text crypto file passphrase) s
      (v, formatVaultId (crypto.fingerprint v)) s := by
    rw [hparts]
    refine (returns_orThrow rfl s).bind ((returns_orThrow (bind_encode salt) s).bind ?_)
    refine (returns_orThrow rfl s).bind ((returns_webCrypto s).bind ((returns_webCrypto s).bind ?_))
    refine (returns_orThrow (bind_encode iv) s).bind ?_
    refine (returns_orThrow (bind_encode _) s).bind ((returns_webCrypto s).bind ?_)
    refine (returns_orThrow (hcrypto.decrypt_encrypt iv _ _) s).bind ?_
    refine (returns_orThrow (text.decode_encode v) s).bind ?_
    exact (returns_fingerprintPayload v s).bind (returns_pure _ s)
  unfold decryptBackup
  rw [files.parse_stringify]
  dsimp only
  rw [if_neg (by simp [hparts]), alone_bind, hopen]
  rfl

/-- A function changes nothing, whether it returns or throws. -/
def Reads (n : ℕ) (fn : SiteM α) : Prop := ∀ s, ∃ r, fn.run.alone (solo n) s = some (r, s)

theorem Reads.bind {fn : SiteM α} {f : α → SiteM β} (h : Reads n fn) (hf : ∀ a, Reads n (f a)) :
    Reads n (fn >>= f) := by
  intro s
  obtain ⟨r, hr⟩ := h s
  change ∃ b, (fn.run >>= _).alone (solo n) s = some (b, s)
  rw [alone_bind, hr]
  cases r with
  | none => exact ⟨none, rfl⟩
  | some a => exact hf a s

theorem reads_pure (a : α) : Reads n (pure a) := fun _ => ⟨some a, rfl⟩

theorem reads_webCrypto : Reads n webCrypto := fun s => ⟨some (), returns_webCrypto s⟩

theorem reads_orThrow (o : Option α) : Reads n (orThrow o) := fun _ => ⟨o, rfl⟩

theorem reads_openFile (file : BackupFile) (passphrase : String) :
    Reads n (openFile text crypto file passphrase) := by
  refine (reads_orThrow _).bind fun kdf => (reads_orThrow _).bind fun salt => ?_
  refine (reads_orThrow _).bind fun iterations => reads_webCrypto.bind fun _ => ?_
  refine reads_webCrypto.bind fun _ => (reads_orThrow _).bind fun iv => ?_
  refine (reads_orThrow _).bind fun ciphertext => reads_webCrypto.bind fun _ => ?_
  refine (reads_orThrow _).bind fun plain => (reads_orThrow _).bind fun payload => ?_
  exact Reads.bind (fun s => ⟨_, returns_fingerprintPayload payload s⟩) fun _ => reads_pure _

/-- **Decrypting a backup changes nothing**, whatever the text and the passphrase. -/
theorem decryptBackup_reads (fileText passphrase : String) (s : Site) :
    ∃ r, (decryptBackup text crypto files fileText passphrase).alone (solo n) s = some (r, s) := by
  unfold decryptBackup
  cases files.parse fileText with
  | none => exact ⟨_, rfl⟩
  | some file =>
      dsimp only
      split_ifs
      · exact ⟨_, rfl⟩
      · have hopen : Reads n (openFile text crypto file passphrase) := reads_openFile file passphrase
        obtain ⟨r, hr⟩ := hopen s
        rw [alone_bind, hr]
        exact ⟨_, rfl⟩

/-- A function throws and leaves the page as it was. -/
def Throws (n : ℕ) (fn : SiteM α) (s : Site) : Prop := fn.run.alone (solo n) s = some (none, s)

theorem throws_orThrow {o : Option α} (h : o = none) (f : α → SiteM β) (s : Site) :
    Throws n (orThrow o >>= f) s := by
  rw [h]
  rfl

theorem Returns.throws {fn : SiteM α} {f : α → SiteM β} {s : Site} {a : α} (h : Returns n fn s a s)
    (h' : Throws n (f a) s) : Throws n (fn >>= f) s := by
  unfold Returns Throws at *
  change (fn.run >>= _).alone (solo n) s = _
  rw [alone_bind, h]
  exact h'

/-- **An export throws** where the file cannot be made. -/
theorem throws_exportBackup {s : Site} {v : VaultPayload} (hv : s.origin.device.vault text = some v)
    {passphrase : String} {salt iv : Bytes}
    (hfile : sealFile spread text crypto v passphrase salt iv = none) :
    Throws n (exportBackup spread text crypto files passphrase salt iv) s := by
  refine (returns_loadVault s).throws ?_
  rw [hv]
  refine (returns_webCrypto s).throws ((returns_webCrypto s).throws ((returns_webCrypto s).throws ?_))
  exact throws_orThrow hfile _ s

/-- **Another passphrase** opens nothing. -/
theorem decryptBackup_other (hcrypto : crypto.Ideal) {v : VaultPayload} {passphrase other : String}
    (hother : other ≠ passphrase) {salt iv : Bytes} {file : BackupFile}
    (hfile : sealFile spread text crypto v passphrase salt iv = some file) (s : Site) :
    (decryptBackup text crypto files (files.stringify file) other).alone (solo n) s =
      some (.error .incorrect, s) := by
  obtain ⟨-, hparts⟩ := sealFile_eq_some_iff.1 hfile
  have hkey : crypto.deriveKey other salt pbkdf2Iterations ≠
      crypto.deriveKey passphrase salt pbkdf2Iterations :=
    fun heq => hother (hcrypto.deriveKey_injective _ _ _ _ heq)
  have hopen : Throws n (openFile text crypto file other) s := by
    rw [hparts]
    refine (returns_orThrow rfl s).throws ?_
    refine (returns_orThrow (bind_encode salt) s).throws ?_
    refine (returns_orThrow rfl s).throws ((returns_webCrypto s).throws ?_)
    refine (returns_webCrypto s).throws ((returns_orThrow (bind_encode iv) s).throws ?_)
    refine (returns_orThrow (bind_encode _) s).throws ((returns_webCrypto s).throws ?_)
    exact throws_orThrow (hcrypto.decrypt_other _ _ _ _ hkey) _ s
  unfold decryptBackup
  rw [files.parse_stringify]
  dsimp only
  rw [if_neg (by simp [hparts]), alone_bind, hopen]
  rfl

/-! ### Restoring -/

/-- The page holds a payload, and the keys of it and no others. -/
structure Holds (text : PayloadText) (v : VaultPayload) (s : Site) : Prop where
  vault : s.origin.device.vault text = some v
  live : ∀ id key, s.origin.live id = some key ↔
    ∃ c ∈ v.circles, id = .keyId c.id c.epoch ∧ key = c.key
  ids : ∀ c ∈ v.circles, c.id ∈ s.circleIds

theorem originReturns_importKey {rawKey : Bytes} (h : Importable rawKey) (o : Origin) :
    OriginReturns n (CircleKeys.importKey rawKey) o () o := by
  have hthen : OriginReturns n (if rawKey.length = 16 ∨ rawKey.length = 24 ∨ rawKey.length = 32 then
      pure () else failure) o () o := by
    have hlength : rawKey.length = 16 ∨ rawKey.length = 24 ∨ rawKey.length = 32 := h
    rw [if_pos hlength]
    rfl
  have huse : OriginReturns n (Task.attempt Op.webCrypto) o () o := rfl
  exact huse.bind hthen

/-- **A key is put into the vault**, where there is one. -/
theorem originReturns_upsertCircleKey {o : Origin} {v : VaultPayload} (hfree : o.lock = none)
    (hv : o.device.vault text = some v) (circleId : Uuid) (rawKey : Bytes) (epoch : ℕ) :
    OriginReturns n (Tasks.upsertCircleKey text circleId rawKey epoch) o ()
      (VaultOrder.stored text o
        { identitySk := v.identitySk
          circles := Tasks.withCircleKey circleId rawKey epoch v.circles }) := by
  obtain ⟨device, vaultMeta, lock, keypair, initPromise, resolved, live, legacy⟩ := o
  obtain rfl : lock = none := hfree
  have hvault : device.vault text = some v := hv
  unfold OriginReturns Tasks.upsertCircleKey
  rw [← alone_done, VaultOrder.alone_withInitLock _ _ rfl, VaultOrder.alone_updateCircles]
  dsimp only
  rw [hvault]
  rfl

/-- **A circle is put back**: its key where it is used, and into the vault. -/
theorem originReturns_saveCircleKeyWithBackup {o : Origin} {v : VaultPayload} (hfree : o.lock = none)
    (hv : o.device.vault text = some v) {c : VaultCircle} (hkey : Importable c.key)
    (hnew : (c.id, c.epoch) ∉ v.circles.map fun c => (c.id, c.epoch)) :
    OriginReturns n (CircleKeys.saveCircleKeyWithBackup text c.id c.key c.epoch) o ()
      (VaultOrder.stored text
        { o with
          live := Function.update o.live (.keyId c.id c.epoch) (some c.key)
          legacy := Function.update o.legacy c.id none }
        { identitySk := v.identitySk, circles := v.circles ++ [c] }) := by
  refine (originReturns_importKey hkey o).bind ?_
  rw [← withCircleKey_of_new hnew]
  exact originReturns_upsertCircleKey (o := { o with
    live := Function.update o.live (.keyId c.id c.epoch) (some c.key)
    legacy := Function.update o.legacy c.id none }) hfree hv c.id c.key c.epoch

/-- **The identity is put back**, and the circles of the vault stay. -/
theorem originReturns_restoreIdentity {o : Origin} (hfree : o.lock = none) (sk : Bytes) :
    OriginReturns n (IdentityCache.restoreIdentityFromSecretKey text sk) o sk
      { VaultOrder.stored text o
          { identitySk := sk
            circles := ((o.device.vault text).map VaultPayload.circles).getD [] } with
        keypair := some sk, initPromise := none } := by
  obtain ⟨device, vaultMeta, lock, keypair, initPromise, resolved, live, legacy⟩ := o
  obtain rfl : lock = none := hfree
  have hsave : OriginReturns n (Tasks.saveSecretKey text sk)
      { device, vaultMeta, lock := none, keypair, initPromise, resolved, live, legacy } ()
      (VaultOrder.stored text
        { device, vaultMeta, lock := none, keypair, initPromise, resolved, live, legacy }
        { identitySk := sk, circles := ((device.vault text).map VaultPayload.circles).getD [] }) := by
    unfold OriginReturns Tasks.saveSecretKey
    rw [← alone_done, VaultOrder.alone_withInitLock _ _ rfl, VaultOrder.alone_saveSecretKeyUnlocked]
    rfl
  exact hsave.bind rfl

/-- A key that is put into the live store is there beside the others. -/
theorem live_update {cs : List VaultCircle} {live : KeyId → Option Bytes}
    (hlive : ∀ id key, live id = some key ↔ ∃ c ∈ cs, id = .keyId c.id c.epoch ∧ key = c.key)
    {c : VaultCircle} (hnew : (c.id, c.epoch) ∉ cs.map fun c => (c.id, c.epoch)) (id : KeyId)
    (key : Bytes) :
    Function.update live (.keyId c.id c.epoch) (some c.key) id = some key ↔
      ∃ c' ∈ cs ++ [c], id = .keyId c'.id c'.epoch ∧ key = c'.key := by
  by_cases hid : id = .keyId c.id c.epoch
  · subst hid
    rw [Function.update_self]
    constructor
    · intro h
      exact ⟨c, List.mem_append_right _ (List.mem_singleton_self c), rfl, (Option.some.inj h).symm⟩
    · rintro ⟨c', hc', hid, rfl⟩
      rcases List.mem_append.1 hc' with hc' | hc'
      · obtain ⟨hid, hepoch⟩ := KeyId.keyId.inj hid
        exact absurd (List.mem_map.2 ⟨c', hc', by rw [hid, hepoch]⟩) hnew
      · obtain rfl := List.mem_singleton.1 hc'
        rfl
  · rw [Function.update_of_ne hid, hlive]
    constructor
    · rintro ⟨c', hc', h⟩
      exact ⟨c', List.mem_append_left _ hc', h⟩
    · rintro ⟨c', hc', h⟩
      rcases List.mem_append.1 hc' with hc' | hc'
      · exact ⟨c', hc', h⟩
      · obtain rfl := List.mem_singleton.1 hc'
        exact absurd h.1 hid

theorem mem_addId {id id' : Uuid} {ids : List Uuid} :
    id' ∈ addId id ids ↔ id' = id ∨ id' ∈ ids := by
  unfold addId
  split_ifs with h
  · exact ⟨Or.inr, fun h' => h'.elim (fun heq => heq ▸ h) fun hmem => hmem⟩
  · rw [List.mem_append, List.mem_singleton, or_comm]

/-- **A circle is put back**, and the page holds it beside the others. -/
theorem returns_restoreCircle {s : Site} {v : VaultPayload} (hfree : s.origin.lock = none)
    (hheld : Holds text v s) {c : VaultCircle} (hkey : Importable c.key)
    (hnew : (c.id, c.epoch) ∉ v.circles.map fun c => (c.id, c.epoch)) :
    ∃ s', Returns n (restoreCircle text c) s () s' ∧ s'.origin.lock = none ∧
      Holds text { identitySk := v.identitySk, circles := v.circles ++ [c] } s' := by
  have hsave := returns_onOrigin (n := n)
    (originReturns_saveCircleKeyWithBackup hfree hheld.vault hkey hnew)
  refine ⟨_, hsave.bind rfl, hfree, ⟨vault_stored text _ _, live_update hheld.live hnew, ?_⟩⟩
  intro c' hc'
  refine mem_addId.2 ?_
  rcases List.mem_append.1 hc' with hc' | hc'
  · exact Or.inr (hheld.ids c' hc')
  · obtain rfl := List.mem_singleton.1 hc'
    exact Or.inl rfl

/-- **All circles are put back**, one after the other. -/
theorem alone_restoreCircles {cs : List VaultCircle} {s : Site} {v : VaultPayload} {r : RestoreResult}
    (hfree : s.origin.lock = none) (hheld : Holds text v s) (hsound : Sound (v.circles ++ cs)) :
    ∃ s', Returns n (restoreCircles text cs r) s
        { r with circlesRestored := r.circlesRestored + cs.length } s' ∧
      s'.origin.lock = none ∧
      Holds text { identitySk := v.identitySk, circles := v.circles ++ cs } s' := by
  induction cs generalizing s v r with
  | nil =>
      refine ⟨s, rfl, hfree, ?_⟩
      rw [List.append_nil]
      exact hheld
  | cons c cs ih =>
      have hmem : c ∈ v.circles ++ c :: cs := List.mem_append_right _ List.mem_cons_self
      have hnew : (c.id, c.epoch) ∉ v.circles.map fun c => (c.id, c.epoch) := by
        have hdistinct := hsound.distinct
        rw [List.map_append, List.map_cons] at hdistinct
        exact fun hin => (List.nodup_append.1 hdistinct).2.2 _ hin _ List.mem_cons_self rfl
      obtain ⟨s₁, hdone, hfree₁, hheld₁⟩ :=
        returns_restoreCircle (n := n) hfree hheld (hsound.importable c hmem) hnew
      have hshift : v.circles ++ c :: cs = (v.circles ++ [c]) ++ cs := by
        rw [List.append_assoc, List.singleton_append]
      rw [hshift] at hsound ⊢
      obtain ⟨s₂, hrest, hfree₂, hheld₂⟩ := ih (r := r.after c (some ())) hfree₁ hheld₁ hsound
      refine ⟨s₂, ?_, hfree₂, hheld₂⟩
      have hcount : r.circlesRestored + (c :: cs).length = r.circlesRestored + 1 + cs.length := by
        rw [List.length_cons]
        omega
      have hdone' : (restoreCircle text c).run.alone (solo n) s = some (some (), s₁) := hdone
      change ((restoreCircle text c).run >>= _).alone (solo n) s = _
      rw [alone_bind, hdone', hcount]
      exact hrest

/-- A device on which no circle was kept. -/
structure Fresh (text : PayloadText) (s : Site) : Prop where
  lock : s.origin.lock = none
  circles : ((s.origin.device.vault text).map VaultPayload.circles).getD [] = []
  live : ∀ id, s.origin.live id = none

/-- The identity is put back, and the page holds it alone. -/
theorem returns_restoreIdentity {s : Site} (hfresh : Fresh text s) (sk : Bytes) :
    ∃ s', Returns n (onOrigin (IdentityCache.restoreIdentityFromSecretKey text sk)) s sk s' ∧
      s'.origin.lock = none ∧ Holds text { identitySk := sk, circles := [] } s' := by
  have hidentity := returns_onOrigin (@originReturns_restoreIdentity text n s.origin hfresh.lock sk)
  rw [hfresh.circles] at hidentity
  refine ⟨_, hidentity, hfresh.lock, ⟨vault_stored text _ _, fun id key => ?_, fun _ hc => nomatch hc⟩⟩
  change s.origin.live id = some key ↔ _
  rw [hfresh.live id]
  exact ⟨nofun, fun ⟨_, hc, _⟩ => nomatch hc⟩

/-- **A restored device holds what was restored**, and no circle has failed. -/
theorem returns_applyRestore {s : Site} (hfresh : Fresh text s) {v : VaultPayload}
    (hsound : Sound v.circles) :
    ∃ s', Returns n (applyRestore text v) s
        { identityRestored := true, circlesRestored := v.circles.length, circlesFailed := [] } s' ∧
      Holds text v s' := by
  obtain ⟨s₁, hidentity, hfree, hheld⟩ := returns_restoreIdentity (n := n) hfresh v.identitySk
  have hsound' : Sound
      (({ identitySk := v.identitySk, circles := [] } : VaultPayload).circles ++ v.circles) := hsound
  obtain ⟨s₂, hrest, -, hholds⟩ := alone_restoreCircles (n := n)
    (r := { identityRestored := true, circlesRestored := 0, circlesFailed := [] }) hfree hheld hsound'
  rw [Nat.zero_add] at hrest
  exact ⟨s₂, hidentity.bind hrest, hholds⟩

variable {json : JsonText PayloadJson}

variable (spread crypto files json)

/-- **Backup and restore reproduce the vault.**  The file that is exported opens on any other device
under its passphrase to the vault and its Vault ID, and under no other passphrase.  What it opens to,
restored on a device that has kept no circles, leaves there the vault with the same identity and
entries and the live keys of exactly these, with the same Vault ID; all circles were restored and
none has failed.  Decrypting changes nothing. -/
def Restores (s : Site) (v : VaultPayload) (passphrase : String) (salt iv : Bytes) : Prop :=
  ∃ file s',
    Returns 0 (exportBackup spread (payloadText json) crypto files passphrase salt iv) s file s' ∧
    s'.origin.device = s.origin.device ∧ ∃ vaultId,
    Returns 0 (currentVaultId (payloadText json) crypto) s vaultId s ∧
    (∀ t, (decryptBackup (payloadText json) crypto files file passphrase).alone (solo 0) t =
      some (.ok (v, vaultId), t)) ∧
    (∀ t, Fresh (payloadText json) t → ∃ t', Returns 0 (applyRestore (payloadText json) v) t
        { identityRestored := true, circlesRestored := v.circles.length, circlesFailed := [] } t' ∧
      Holds (payloadText json) v t' ∧
      Returns 0 (currentVaultId (payloadText json) crypto) t' vaultId t') ∧
    (∀ other t, other ≠ passphrase →
      (decryptBackup (payloadText json) crypto files file other).alone (solo 0) t =
        some (.error .incorrect, t)) ∧
    ∀ fileText other t, ∃ r,
      (decryptBackup (payloadText json) crypto files fileText other).alone (solo 0) t = some (r, t)

variable {spread crypto files json}

/-- **A file that is made restores the vault**, with ideal cryptography, of every vault there is. -/
theorem restores_of_sealFile (hcrypto : crypto.Ideal) {s : Site}
    (hs : Reached (payloadText json) s.origin) {v : VaultPayload}
    (hv : s.origin.device.vault (payloadText json) = some v) {passphrase : String} {salt iv : Bytes}
    {file : BackupFile}
    (hfile : sealFile spread (payloadText json) crypto v passphrase salt iv = some file) :
    Restores spread crypto files json s v passphrase salt iv := by
  refine ⟨_, _, returns_exportBackup hv hfile, rfl, _, returns_currentVaultId hv,
    fun t => decryptBackup_sealFile hcrypto hfile t, fun t hfresh => ?_,
    fun other t hother => decryptBackup_other hcrypto hother hfile t,
    fun fileText other t => decryptBackup_reads fileText other t⟩
  obtain ⟨t', hrestore, hholds⟩ := returns_applyRestore (n := 0) hfresh (hs.sound.2 v hv)
  exact ⟨t', hrestore, hholds, returns_currentVaultId hholds.vault⟩

/-- What is restored was put into a file. -/
theorem Restores.exists_sealFile {s : Site} {v : VaultPayload} {passphrase : String} {salt iv : Bytes}
    (h : Restores spread crypto files json s v passphrase salt iv)
    (hv : s.origin.device.vault (payloadText json) = some v) :
    ∃ file, sealFile spread (payloadText json) crypto v passphrase salt iv = some file := by
  obtain ⟨_, _, hexport, -⟩ := h
  cases hfile : sealFile spread (payloadText json) crypto v passphrase salt iv with
  | some file => exact ⟨file, rfl⟩
  | none =>
      have hthrows : Throws 0 (exportBackup spread (payloadText json) crypto files passphrase salt iv)
          s := throws_exportBackup hv hfile
      exact nomatch hexport.symm.trans hthrows

variable (spread crypto files json)

/-- **Exactly which vaults a backup restores.**  With ideal cryptography, and a ciphertext longer than
its plaintext by an amount that depends on nothing but the key (16 bytes for AES-GCM), backup and
restore reproduce a vault there is exactly if the JSON text of its payload and that amount come to no
more bytes than the engine takes arguments in one call. -/
theorem backup_restores_iff (hcrypto : crypto.Ideal) (overhead : Bytes → ℕ)
    (hlength : ∀ iv key plain, (crypto.encrypt iv key plain).length = plain.length + overhead key)
    {s : Site} (hs : Reached (payloadText json) s.origin) {v : VaultPayload}
    (hv : s.origin.device.vault (payloadText json) = some v) (passphrase : String) (salt iv : Bytes)
    (hsalt : salt.length ≤ spread) (hiv : iv.length ≤ spread) :
    Restores spread crypto files json s v passphrase salt iv ↔
      (textEncode (encodeVaultPayload json v)).length +
        overhead (crypto.deriveKey passphrase salt pbkdf2Iterations) ≤ spread := by
  have hcipher : (ciphertextOf (payloadText json) crypto v passphrase salt iv).length =
      (textEncode (encodeVaultPayload json v)).length +
        overhead (crypto.deriveKey passphrase salt pbkdf2Iterations) := hlength iv _ _
  rw [← hcipher]
  constructor
  · intro h
    obtain ⟨file, hfile⟩ := h.exists_sealFile hv
    exact (sealFile_eq_some_iff.1 hfile).1.2.2
  · intro hfits
    exact restores_of_sealFile hcrypto hs hv (sealFile_eq_some_iff.2 ⟨⟨hsalt, hiv, hfits⟩, rfl⟩)

/-! ### A device that is backed up -/

/-- A device once an identity and the key of a circle were kept. -/
def keptSite (text : PayloadText) (sk : Bytes) (c : VaultCircle) : Site :=
  { origin := VaultOrder.stored text (VaultOrder.stored text {} { identitySk := sk, circles := [] })
      { identitySk := sk, circles := [c] } }

theorem reached_keptSite (text : PayloadText) (sk : Bytes) {c : VaultCircle}
    (hkey : Importable c.key) : Reached text (keptSite text sk c).origin := by
  have hempty : Reached text {} := .first rfl rfl
  have hidentity : Reached text (VaultOrder.stored text {} { identitySk := sk, circles := [] }) :=
    hempty.after (c := .saveSecretKey sk) trivial
  have hvault : (VaultOrder.stored text {} { identitySk := sk, circles := [] }).device.vault text =
      some { identitySk := sk, circles := [] } := vault_stored text _ _
  have hcircle := hidentity.after (c := .upsertCircleKey c.id c.key c.epoch) hkey
  have hafter : VaultOrder.after text (.upsertCircleKey c.id c.key c.epoch)
      (VaultOrder.stored text {} { identitySk := sk, circles := [] }) =
        (keptSite text sk c).origin := by
    unfold VaultOrder.after
    rw [hvault]
    rfl
  rw [← hafter]
  exact hcircle

instance encodableCircleJson : Encodable CircleJson :=
  .ofLeftInjection (fun c => (c.id, c.key, c.epoch)) (fun c => some ⟨c.1, c.2.1, c.2.2⟩) fun _ => rfl

instance encodablePayloadJson : Encodable PayloadJson :=
  .ofLeftInjection (fun o => (o.identitySk, o.circles)) (fun o => some ⟨o.1, o.2⟩) fun _ => rfl

instance encodableKdfJson : Encodable KdfJson :=
  .ofLeftInjection (fun k => (k.name, k.hash, k.iterations, k.salt))
    (fun k => some ⟨k.1, k.2.1, k.2.2.1, k.2.2.2⟩) fun _ => rfl

instance encodableBackupFile : Encodable BackupFile :=
  .ofLeftInjection (fun f => (f.format, f.version, f.kdf, f.iv, f.ciphertext))
    (fun f => some ⟨f.1, f.2.1, f.2.2.1, f.2.2.2.1, f.2.2.2.2⟩) fun _ => rfl

/-- Texts of so many characters. -/
def demoJson (α : Type) [Encodable α] : JsonText α where
  stringify a := String.ofList (List.replicate (Encodable.encode a) ' ')
  parse s := Encodable.decode s.toList.length
  parse_stringify a := by rw [String.toList_ofList, List.length_replicate, Encodable.encodek]

/-- A ciphertext that begins with its key, each byte after a one, and goes on after a zero. -/
def demoSeal (plain : Bytes) : Bytes → Bytes
  | [] => 0 :: plain
  | b :: key => 1 :: b :: demoSeal plain key

/-- The other way. -/
def demoUnseal : Bytes → Bytes → Option Bytes
  | [], tag :: plain => if tag = 0 then some plain else none
  | b :: key, tag :: b' :: rest => if tag = 1 ∧ b' = b then demoUnseal key rest else none
  | _, _ => none

theorem demoUnseal_demoSeal (key plain : Bytes) : demoUnseal key (demoSeal plain key) = some plain := by
  induction key with
  | nil => rfl
  | cons b key ih =>
      unfold demoSeal demoUnseal
      rw [if_pos ⟨rfl, rfl⟩, ih]

theorem demoUnseal_other {key key' : Bytes} (plain : Bytes) (h : key' ≠ key) :
    demoUnseal key' (demoSeal plain key) = none := by
  induction key generalizing key' with
  | nil =>
      cases key' with
      | nil => exact absurd rfl h
      | cons b key' =>
          cases plain with
          | nil => rfl
          | cons _ _ => exact if_neg fun htag => absurd htag.1 (by decide)
  | cons b key ih =>
      cases key' with
      | nil => rfl
      | cons b' key' =>
          unfold demoSeal demoUnseal
          by_cases hb : b = b'
          · subst hb
            rw [if_pos ⟨rfl, rfl⟩]
            exact ih fun hkey => h (congrArg (List.cons b) hkey)
          · rw [if_neg fun h => hb h.2]

/-- By how much it is longer than its plaintext. -/
def demoOverhead (key : Bytes) : ℕ := 2 * key.length + 1

theorem length_demoSeal (key plain : Bytes) :
    (demoSeal plain key).length = plain.length + demoOverhead key := by
  unfold demoOverhead
  induction key with
  | nil => rfl
  | cons b key ih =>
      unfold demoSeal
      rw [List.length_cons, List.length_cons, ih, List.length_cons]
      omega

/-- Passphrases as keys, and ciphertexts that begin with their key. -/
def demoCrypto : Crypto where
  deriveKey p _ _ := textEncode p
  encrypt _ key plain := demoSeal plain key
  decrypt _ key ciphertext := demoUnseal key ciphertext
  sha256 bytes := 0 :: bytes
  getPublicKey := hexOf

theorem demoCrypto_ideal : demoCrypto.Ideal where
  decrypt_encrypt _ key plain := demoUnseal_demoSeal key plain
  decrypt_other _ _ _ plain h := demoUnseal_other plain h
  deriveKey_injective _ _ _ _ h := textEncode_injective h

/-- A circle at its second epoch. -/
def demoCircle : VaultCircle := { id := "c", key := List.replicate 32 1, epoch := 2 }

/-- The payload of a device that has the one circle. -/
def demoPayload : PayloadJson :=
  { identitySk := some (Base64.encode [7])
    circles := some [{ id := "c", key := some (Base64.encode demoCircle.key), epoch := some 2 }] }

/-- How many characters the ids and the keys of a payload have. -/
def PayloadJson.size (o : PayloadJson) : ℕ :=
  ((o.circles.getD []).map fun c => c.id.toList.length + (c.key.getD "").toList.length).sum

/-- Texts that are longer than the ids and the keys in them. -/
def sizedJson : JsonText PayloadJson where
  stringify o := digits (Nat.pair (EpochKeys.demoCode [demoPayload] o) o.size) ' '
  parse s := EpochKeys.demoUncode [demoPayload] (Nat.unpair s.toList.length).1
  parse_stringify o := by
    unfold digits
    rw [String.toList_ofList, List.length_replicate, Nat.unpair_pair, EpochKeys.demoUncode_demoCode]

/-- The text of a payload has as many bytes. -/
theorem length_encodeVaultPayload_sizedJson (v : VaultPayload) :
    ∃ o : PayloadJson, (textEncode (encodeVaultPayload sizedJson v)).length =
        Nat.pair (EpochKeys.demoCode [demoPayload] o) o.size ∧
      o = { identitySk := some (Base64.encode v.identitySk)
            circles := some (v.circles.map fun c =>
              { id := c.id, key := some (Base64.encode c.key), epoch := some c.epoch }) } :=
  ⟨_, utf8ByteSize_digits rfl _, rfl⟩

/-- As many arguments as an engine takes in one call. -/
def demoSpread : ℕ := 125000

/-- The text of the device with the one circle. -/
theorem length_demoPayload : (textEncode (encodeVaultPayload sizedJson
    { identitySk := [7], circles := [demoCircle] })).length = 2025 := by
  obtain ⟨o, hlength, rfl⟩ :=
    length_encodeVaultPayload_sizedJson { identitySk := [7], circles := [demoCircle] }
  have hcode : EpochKeys.demoCode [demoPayload] demoPayload = 0 := by
    unfold EpochKeys.demoCode
    rw [if_pos (List.mem_singleton_self _), List.idxOf_cons_self]
  exact hlength.trans (congrArg (Nat.pair · demoPayload.size) hcode)

/-- The backup of a device with a circle at its second epoch opens under its passphrase, and is
restored on a device that has nothing. -/
theorem backup_restores_demo :
    Restores demoSpread demoCrypto (demoJson BackupFile) sizedJson
      (keptSite (payloadText sizedJson) [7] demoCircle)
      { identitySk := [7], circles := [demoCircle] } "correct horse" (List.replicate 16 1)
      (List.replicate 12 2) := by
  have hkey : Importable demoCircle.key := Or.inr (Or.inr rfl)
  have hiff := backup_restores_iff demoSpread demoCrypto (demoJson BackupFile) sizedJson
    demoCrypto_ideal demoOverhead (fun _ key plain => length_demoSeal key plain)
    (reached_keptSite (payloadText sizedJson) [7] hkey) (vault_stored (payloadText sizedJson) _ _)
    "correct horse" (List.replicate 16 1) (List.replicate 12 2) (by decide) (by decide)
  rw [length_demoPayload] at hiff
  exact hiff.2 (by decide)

/-- The payload of a device after so many rotations of the key of one circle. -/
def rotated (n : ℕ) : VaultPayload :=
  { identitySk := [7]
    circles := (List.range n).map fun k =>
      { id := digits 36 'c', key := List.replicate 32 1, epoch := k + 1 } }

/-- What the tabs of that device share. -/
def rotatedOrigin (text : PayloadText) : ℕ → Origin
  | 0 => VaultOrder.stored text {} (rotated 0)
  | n + 1 => VaultOrder.after text (.upsertCircleKey (digits 36 'c') (List.replicate 32 1) (n + 1))
    (rotatedOrigin text n)

/-- **Each rotation adds an entry**, and the device is one there is. -/
theorem reached_rotatedOrigin (text : PayloadText) (n : ℕ) :
    Reached text (rotatedOrigin text n) ∧
      (rotatedOrigin text n).device.vault text = some (rotated n) := by
  induction n with
  | zero =>
      have hempty : Reached text {} := .first rfl rfl
      exact ⟨hempty.after (c := .saveSecretKey [7]) trivial, vault_stored text _ _⟩
  | succ n ih =>
      have hkey : Importable (List.replicate 32 1) := Or.inr (Or.inr rfl)
      refine ⟨ih.1.after hkey, ?_⟩
      have hnew : (digits 36 'c', n + 1) ∉ (rotated n).circles.map fun c => (c.id, c.epoch) := by
        unfold rotated
        rw [List.map_map, List.mem_map]
        rintro ⟨k, hk, heq⟩
        have hepoch : k + 1 = n + 1 := (Prod.mk.inj heq).2
        have hlt := List.mem_range.1 hk
        omega
      have hadd := withCircleKey_of_new
        (c := { id := digits 36 'c', key := List.replicate 32 1, epoch := n + 1 }) hnew
      have hrotated : rotated (n + 1) =
          { identitySk := (rotated n).identitySk
            circles := Tasks.withCircleKey (digits 36 'c') (List.replicate 32 1) (n + 1)
              (rotated n).circles } := by
        rw [hadd]
        unfold rotated
        rw [List.range_succ, List.map_append]
        rfl
      rw [hrotated]
      unfold rotatedOrigin VaultOrder.after VaultOrder.Call.writes
      rw [ih.2]
      exact vault_stored text _ _

/-- The text of such a payload is longer than its ids and keys, of which each entry has 80
characters. -/
theorem le_length_rotated (n : ℕ) :
    80 * n ≤ (textEncode (encodeVaultPayload sizedJson (rotated n))).length := by
  obtain ⟨o, hlength, rfl⟩ := length_encodeVaultPayload_sizedJson (rotated n)
  rw [hlength]
  refine le_trans ?_ (Nat.right_le_pair _ _)
  have hid : (digits 36 'c').toList.length = 36 := rfl
  have hkey : (Base64.encode (List.replicate 32 1)).toList.length = 44 := rfl
  simp [PayloadJson.size, rotated, hid, hkey, Nat.mul_comm, Function.comp_def,
    -List.reduceReplicate]

/-- **A vault of so many rotations is not backed up**: its entries are longer than what the engine
takes. -/
theorem throws_rotated (n : ℕ) (hn : demoSpread < 80 * n) :
    Reached (payloadText sizedJson) (rotatedOrigin (payloadText sizedJson) n) ∧
      (rotatedOrigin (payloadText sizedJson) n).device.vault (payloadText sizedJson) =
        some (rotated n) ∧
      Throws 0 (exportBackup demoSpread (payloadText sizedJson) demoCrypto (demoJson BackupFile)
        "correct horse" (List.replicate 16 1) (List.replicate 12 2))
        { origin := rotatedOrigin (payloadText sizedJson) n } ∧
      ¬ Restores demoSpread demoCrypto (demoJson BackupFile) sizedJson
        { origin := rotatedOrigin (payloadText sizedJson) n } (rotated n) "correct horse"
        (List.replicate 16 1) (List.replicate 12 2) := by
  obtain ⟨hreached, hvault⟩ := reached_rotatedOrigin (payloadText sizedJson) n
  have hnone : sealFile demoSpread (payloadText sizedJson) demoCrypto (rotated n) "correct horse"
      (List.replicate 16 1) (List.replicate 12 2) = none := by
    refine Option.eq_none_iff_forall_ne_some.2 fun file hfile => ?_
    have hshort := (sealFile_eq_some_iff.1 hfile).1.2.2
    have hcipher : (ciphertextOf (payloadText sizedJson) demoCrypto (rotated n) "correct horse"
        (List.replicate 16 1) (List.replicate 12 2)).length =
          (textEncode (encodeVaultPayload sizedJson (rotated n))).length + _ := length_demoSeal _ _
    have hle := le_length_rotated n
    omega
  refine ⟨hreached, hvault, throws_exportBackup hvault hnone, fun h => ?_⟩
  obtain ⟨file, hfile⟩ := h.exists_sealFile hvault
  exact nomatch hnone.symm.trans hfile

/-- **A backup is not made**: of a vault that 1600 rotations have made, an export throws. -/
theorem large_vault_throws :
    Reached (payloadText sizedJson) (rotatedOrigin (payloadText sizedJson) 1600) ∧
      (rotatedOrigin (payloadText sizedJson) 1600).device.vault (payloadText sizedJson) =
        some (rotated 1600) ∧
      Throws 0 (exportBackup demoSpread (payloadText sizedJson) demoCrypto (demoJson BackupFile)
        "correct horse" (List.replicate 16 1) (List.replicate 12 2))
        { origin := rotatedOrigin (payloadText sizedJson) 1600 } ∧
      ¬ Restores demoSpread demoCrypto (demoJson BackupFile) sizedJson
        { origin := rotatedOrigin (payloadText sizedJson) 1600 } (rotated 1600) "correct horse"
        (List.replicate 16 1) (List.replicate 12 2) :=
  throws_rotated 1600 (by decide)

end Backup
end Pwa
end SentinelMesh
