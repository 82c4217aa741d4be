/-
# When the badge is right

`exportBackup` of `services/backupService.ts` beside the writes to the vault, for any number of calls
in any number of tabs, each operation on storage or WebCrypto an await that may fail: whenever the
fingerprint of the vault is the one that the last export has recorded, the page shows the backup as up
to date.

An export reads the vault for its file, derives a key, and reads the vault again for the fingerprint
it records.  A write in between is in the fingerprint and not in the file (`missed_write`).  And a
fingerprint does not tell epochs (`Pwa.Fingerprint`).  Where every second read finds what the first
has found, and no key of a circle is stored at two epochs, the badge is right in every state
(`badge_right`).

The history keeps of every export the record it has read first.  Web locks may be there or not, and an
engine takes any number of arguments: an export whose file it cannot encode throws and records
nothing.
-/

import SentinelMesh.Pwa.BackupRestore
import SentinelMesh.Pwa.Fingerprint

namespace SentinelMesh
namespace Pwa
namespace Badge

open Lib Lib.Task Lib.Async Backup

variable (spread : ℕ) (text : PayloadText) (crypto : Crypto) (files : JsonText BackupFile)

/-! ### The calls -/

/-- A call of a tab; `exportBackup` with the salt and the initialization vector it draws. -/
inductive Call
  | exportBackup (passphrase : String) (salt iv : Bytes)
  | saveSecretKey (sk : Bytes)
  | upsertCircleKey (circleId : Uuid) (rawKey : Bytes) (epoch : ℕ)
  | removeVaultCircle (circleId : Uuid) (epoch : Option ℕ)
  deriving DecidableEq

/-- The calls on what tabs share: the file of an export, or nothing; the outer `none` is a
rejection. -/
def system (locks : Bool) :
    System Site Call SiteOp (fun op => Option op.Ans) Fate (Option (Option String)) where
  body
    | .exportBackup passphrase salt iv => OptionT.run do
      let file ← exportBackup spread text crypto files passphrase salt iv
      pure (some file)
    | .saveSecretKey sk => OptionT.run do
      onOrigin (Tasks.saveSecretKey text sk)
      pure none
    | .upsertCircleKey circleId rawKey epoch => OptionT.run do
      onOrigin (Tasks.upsertCircleKey text circleId rawKey epoch)
      pure none
    | .removeVaultCircle circleId epoch => OptionT.run do
      onOrigin (Tasks.removeVaultCircle text circleId epoch)
      pure none
  perform n _ := Backup.perform locks n

/-- A call that makes a file. -/
def Call.exports : Call → Bool
  | .exportBackup _ _ _ => true
  | _ => false

/-! ### The badge -/

/-- The file opens to a payload under some passphrase. -/
def Contains (file : String) (p : VaultPayload) : Prop :=
  ∃ passphrase vaultId, ∀ t, (decryptBackup text crypto files file passphrase).alone (solo 0) t =
    some (.ok (p, vaultId), t)

/-- The fingerprint of the vault is the recorded one. -/
def UpToDate (s : Site) (v : VaultPayload) : Prop :=
  s.origin.device.vault text = some v ∧
    s.origin.vaultMeta = some { lastExportedFingerprint := crypto.fingerprint v }

/-- **The badge is right**: where the fingerprints are equal, the file that was exported last holds
the identity and the entries of the vault. -/
def Right (s : Site) : Prop :=
  ∀ v, UpToDate text crypto s v → ∃ file p, s.exported = some file ∧
    Contains text crypto files file p ∧ Same crypto p v

/-! ### What the condition speaks of -/

/-- The payload of a record, under the key it was sealed with. -/
def recordPayload (rec : Option VaultRecord) : Option VaultPayload :=
  Device.vault text
    { wrapKey := (rec.bind VaultRecord.blob).bind fun b => b.contents.map Prod.fst, record := rec }

/-- The record that each export has read first. -/
abbrev Past := ℕ → Option (Option VaultRecord)

/-- What an operation adds to it. -/
def record (n : ℕ) (c : Call) (op : SiteOp) (x : Fate) (s : Site) (g : Past) : Past :=
  if c.exports = true ∧ op = .origin .getRecord ∧ x = .succeeds ∧ g n = none then
    Function.update g n (some s.origin.device.record)
  else g

/-- The calls with the history. -/
abbrev tracked (locks : Bool) :
    System (Site × Past) Call SiteOp (fun op => Option op.Ans) Fate (Option (Option String)) :=
  (system spread text crypto files locks).withHistory record

/-- An export that reads the vault again finds the identity and the entries it has found. -/
def Steady (n : ℕ) (c : Call) (op : SiteOp) (s : Site × Past) : Prop :=
  c.exports = true → op = .origin .getRecord → ∀ rec ∈ s.2 n, ∀ p ∈ recordPayload text rec,
    ∀ q ∈ recordPayload text s.1.origin.device.record,
      crypto.getPublicKey p.identitySk = crypto.getPublicKey q.identitySk ∧ p.circles.Perm q.circles

instance (n : ℕ) (c : Call) (op : SiteOp) (s : Site × Past) :
    Decidable (Steady text crypto n c op s) := by
  unfold Steady
  infer_instance

/-- A key of a circle is stored at one epoch, and the id of the circle has no line break. -/
def Call.OneEpoch (epochOf : Uuid → Bytes → ℕ) : Call → Prop
  | .upsertCircleKey circleId rawKey epoch =>
    epoch = epochOf circleId rawKey ∧ '\n' ∉ circleId.toList
  | _ => True

instance (epochOf : Uuid → Bytes → ℕ) (c : Call) : Decidable (c.OneEpoch epochOf) := by
  cases c with
  | upsertCircleKey circleId rawKey epoch => exact instDecidableAnd
  | _ => exact isTrue trivial

/-- The same of entries. -/
def OneEpoch (epochOf : Uuid → Bytes → ℕ) (circles : List VaultCircle) : Prop :=
  ∀ c ∈ circles, c.epoch = epochOf c.id c.key ∧ '\n' ∉ c.id.toList

/-- **The condition on a step.** -/
def Cond (epochOf : Uuid → Bytes → ℕ) (n : ℕ) (c : Call) (op : SiteOp) (_ : Fate)
    (s : Site × Past) : Prop :=
  c.OneEpoch epochOf ∧ Steady text crypto n c op s

instance (epochOf : Uuid → Bytes → ℕ) (n : ℕ) (c : Call) (op : SiteOp) (x : Fate)
    (s : Site × Past) : Decidable (Cond text crypto epochOf n c op x s) :=
  inferInstanceAs (Decidable (_ ∧ _))

/-! ### The discipline -/

/-- What always holds: the records that are there and those that were read have each key of a circle
at one epoch, and the recorded fingerprint is none or that of the file. -/
structure Kept (epochOf : Uuid → Bytes → ℕ) (s : Site × Past) : Prop where
  record : ∀ p, recordPayload text s.1.origin.device.record = some p → OneEpoch epochOf p.circles
  past : ∀ n rec, s.2 n = some rec → ∀ p, recordPayload text rec = some p →
    OneEpoch epochOf p.circles
  exported : ∀ vm, s.1.origin.vaultMeta = some vm → vm.lastExportedFingerprint = "" ∨
    ∃ file p, s.1.exported = some file ∧ Contains text crypto files file p ∧
      OneEpoch epochOf p.circles ∧ vm.lastExportedFingerprint = crypto.fingerprint p

/-- How the calls use what they share. -/
def badgeDiscipline (epochOf : Uuid → Bytes → ℕ) : Discipline (Site × Past) Call SiteOp Fate where
  Inv := Kept text crypto files epochOf
  Rely n s s' := s'.2 n = s.2 n
  Cond := Cond text crypto epochOf
  Local n i s := i = none → s.2 n = none
  refl _ _ := rfl
  trans _ _ _ _ h h' := h'.trans h
  stays _ _ _ _ h hlocal hnew := h.trans (hlocal hnew)

variable {spread text crypto files} {locks : Bool} {epochOf : Uuid → Bytes → ℕ} {n : ℕ} {α β : Type}
  {i : Call × Site × Past}

/-- The payload of a vault is that of its record. -/
theorem recordPayload_of_vault {key : Option WrapKey} {rec : Option VaultRecord} {p : VaultPayload}
    (h : Device.vault text { wrapKey := key, record := rec } = some p) :
    recordPayload text rec = some p := by
  cases key with
  | none => exact nomatch h
  | some key =>
      unfold recordPayload
      unfold Device.vault at h ⊢
      dsimp only at h ⊢
      cases hblob : rec.bind VaultRecord.blob with
      | none =>
          rw [hblob] at h
          exact nomatch h
      | some b =>
          rw [hblob] at h
          dsimp only [Option.bind_some] at h ⊢
          cases hc : b.contents with
          | none =>
              rw [hc] at h
              split_ifs at h
          | some c =>
              obtain ⟨k, plain⟩ := c
              rw [hc] at h
              dsimp only [Option.map_some] at h ⊢
              by_cases hshort : b.byteLength < 28
              · rw [if_pos hshort] at h
                exact nomatch h
              · rw [if_neg hshort] at h ⊢
                by_cases hkey : k = key
                · rw [if_pos hkey] at h
                  rw [hc]
                  exact (if_pos rfl).trans h
                · rw [if_neg hkey] at h
                  exact nomatch h

theorem recordPayload_device {d : Device} {p : VaultPayload} (h : d.vault text = some p) :
    recordPayload text d.record = some p :=
  @recordPayload_of_vault text d.wrapKey d.record p h

theorem recordPayload_sealed (key : WrapKey) (payload : VaultPayload) :
    recordPayload text (some
      { version := vaultVersion, blob := some (sealBlob key (text.encode payload)) }) =
        some payload :=
  vault_sealed text rfl rfl

/-! ### One operation -/

variable (spread text crypto files locks epochOf n i)

/-- What is left of a call is safe, whatever it ends with. -/
abbrev Goes (t : Task SiteOp (fun op => Option op.Ans) α) (s : Site × Past) : Prop :=
  Safe (badgeDiscipline text crypto files epochOf) (tracked spread text crypto files locks).perform n i
    (fun _ _ => True) t s

variable {spread text crypto files locks epochOf n i}

/-- The operations that leave the record and what is known of the last export. -/
def Still : Op → Prop
  | .lock | .unlock | .getWrapKey | .getRecord | .generateKey | .putWrapKey _ | .webCrypto => True
  | _ => False

theorem perform_still (op : Op) (hop : Still op) {x : Fate} {o o' : Origin} {r : Option op.Ans}
    (h : Pwa.perform locks n op x o = some (r, o')) :
    o'.device.record = o.device.record ∧ o'.vaultMeta = o.vaultMeta := by
  rcases perform_cases h with ⟨-, -, -, rfl⟩ | ⟨a, ha, -, -⟩
  · exact ⟨rfl, rfl⟩
  · cases op with
    | lock =>
        rcases answer_lock ha with ⟨-, rfl⟩ | ⟨-, -, rfl⟩
        · exact ⟨rfl, rfl⟩
        · exact ⟨rfl, rfl⟩
    | unlock =>
        obtain ⟨-, rfl⟩ := Prod.mk.inj (Option.some.inj ha)
        split_ifs
        · exact ⟨rfl, rfl⟩
        · exact ⟨rfl, rfl⟩
    | getWrapKey =>
        obtain ⟨-, rfl⟩ := Prod.mk.inj (Option.some.inj ha)
        exact ⟨rfl, rfl⟩
    | getRecord =>
        obtain ⟨-, rfl⟩ := Prod.mk.inj (Option.some.inj ha)
        exact ⟨rfl, rfl⟩
    | generateKey =>
        obtain ⟨-, rfl⟩ := Prod.mk.inj (Option.some.inj ha)
        exact ⟨rfl, rfl⟩
    | putWrapKey key =>
        obtain ⟨-, rfl⟩ := Prod.mk.inj (Option.some.inj ha)
        exact ⟨rfl, rfl⟩
    | webCrypto =>
        obtain ⟨-, rfl⟩ := Prod.mk.inj (Option.some.inj ha)
        exact ⟨rfl, rfl⟩
    | _ => exact hop.elim

/-- An operation of `Pwa.Origin` changes nothing else. -/
theorem perform_origin {op : Op} {x : Fate} {s s' : Site} {r : Option op.Ans}
    (h : Backup.perform locks n (.origin op) x s = some (r, s')) :
    ∃ o', Pwa.perform locks n op x s.origin = some (r, o') ∧ s' = { s with origin := o' } := by
  obtain ⟨o, ho, heq⟩ := Option.map_eq_some_iff.1 h
  obtain ⟨rfl, rfl⟩ := Prod.mk.inj heq
  exact ⟨o.2, ho, rfl⟩

/-- What an operation does, and what it adds to the history. -/
theorem perform_tracked {c : Call} {op : SiteOp} {x : Fate} {s s' : Site × Past} {r : Option op.Ans}
    (h : (tracked spread text crypto files locks).perform n c op x s = some (r, s')) :
    Backup.perform locks n op x s.1 = some (r, s'.1) ∧ s'.2 = record n c op x s.1 s.2 := by
  obtain ⟨o, ho, heq⟩ := Option.map_eq_some_iff.1 h
  obtain ⟨rfl, rfl⟩ := Prod.mk.inj heq
  exact ⟨ho, rfl⟩

theorem record_other {c : Call} {op : SiteOp} {x : Fate} {s : Site} {g : Past} {m : ℕ}
    (hm : m ≠ n) : record n c op x s g m = g m := by
  unfold record
  split_ifs
  · exact Function.update_of_ne hm _ _
  · rfl

theorem record_of_ne {c : Call} {op : SiteOp} {x : Fate} {s : Site} {g : Past}
    (hop : op ≠ .origin .getRecord) : record n c op x s g = g := by
  unfold record
  rw [if_neg fun h => hop h.2.1]

/-- What is read is what is there. -/
theorem mem_record {c : Call} {op : SiteOp} {x : Fate} {s : Site} {g : Past} {m : ℕ}
    {rec : Option VaultRecord} (h : record n c op x s g m = some rec) :
    g m = some rec ∨ rec = s.origin.device.record := by
  unfold record at h
  split_ifs at h
  · by_cases hm : m = n
    · subst hm
      rw [Function.update_self] at h
      exact Or.inr (Option.some.inj h).symm
    · rw [Function.update_of_ne hm] at h
      exact Or.inl h
  · exact Or.inl h

/-- An operation that leaves the record and the last export keeps what always holds. -/
theorem Kept.still {c : Call} {op : SiteOp} {x : Fate} {s s' : Site × Past}
    (h : Kept text crypto files epochOf s)
    (hrecord : s'.1.origin.device.record = s.1.origin.device.record)
    (hmeta : s'.1.origin.vaultMeta = s.1.origin.vaultMeta) (hexported : s'.1.exported = s.1.exported)
    (hpast : s'.2 = Badge.record n c op x s.1 s.2) : Kept text crypto files epochOf s' where
  record p hp := h.record p (hrecord ▸ hp)
  past m rec hrec p hp := by
    rw [hpast] at hrec
    rcases mem_record hrec with hrec | rfl
    · exact h.past m rec hrec p hp
    · exact h.record p hp
  exported vm hvm := by
    rw [hexported]
    exact h.exported vm (hmeta ▸ hvm)

/-- A step that keeps what always holds is one the others count on. -/
theorem guarantees_of {op : SiteOp} {x : Fate} {s s' : Site × Past}
    (h : Kept text crypto files epochOf s') (hpast : s'.2 = record n i.1 op x s.1 s.2) :
    (badgeDiscipline text crypto files epochOf).Guarantees n i s s' where
  inv := h
  others m hm := by
    change s'.2 m = s.2 m
    rw [hpast, record_other hm]
  own := nofun

/-- **An operation that leaves the record** and reads none is safe if what follows is. -/
theorem safe_still (op : Op) (hop : Still op) (hne : op ≠ .getRecord)
    {k : Option op.Ans → SiteTask α} {s : Site × Past}
    (hk : ∀ r s', s'.2 n = s.2 n → Goes spread text crypto files locks epochOf n i (k r) s') :
    Goes spread text crypto files locks epochOf n i (.call (.origin op) k) s := by
  intro s₁ hkept _ hrely x r s₂ _ hperform
  obtain ⟨hsite, hpast⟩ := perform_tracked hperform
  obtain ⟨o', ho', hs₂⟩ := perform_origin hsite
  obtain ⟨hrecord, hmeta⟩ := perform_still op hop ho'
  have hne' : SiteOp.origin op ≠ .origin .getRecord := fun h => hne (SiteOp.origin.inj h)
  refine ⟨guarantees_of (hkept.still (by rw [hs₂]; exact hrecord) (by rw [hs₂]; exact hmeta)
    (by rw [hs₂]) hpast) hpast, hk r s₂ ?_⟩
  rw [hpast, record_of_ne hne']
  exact hrely

/-- **Reading the record** is safe if what follows is, of a record as it is known to be. -/
theorem safe_getRecord (spec : Option VaultRecord → Option (Option VaultRecord) → Prop)
    {k : Option (Option VaultRecord) → SiteTask α} {s : Site × Past}
    (hspec : ∀ s₁ : Site × Past, Kept text crypto files epochOf s₁ → s₁.2 n = s.2 n →
      Cond text crypto epochOf n i.1 (.origin .getRecord) .succeeds s₁ →
        spec s₁.1.origin.device.record (record n i.1 (.origin .getRecord) .succeeds s₁.1 s₁.2 n))
    (hk : ∀ rec s', spec rec (s'.2 n) → Goes spread text crypto files locks epochOf n i (k (some rec)) s')
    (hfails : ∀ s', Goes spread text crypto files locks epochOf n i (k none) s') :
    Goes spread text crypto files locks epochOf n i (.call (.origin .getRecord) k) s := by
  intro s₁ hkept _ hrely x r s₂ hcond hperform
  obtain ⟨hsite, hpast⟩ := perform_tracked hperform
  obtain ⟨o', ho', hs₂⟩ := perform_origin hsite
  obtain ⟨hrecord, hmeta⟩ := perform_still .getRecord trivial ho'
  refine ⟨guarantees_of (hkept.still (by rw [hs₂]; exact hrecord) (by rw [hs₂]; exact hmeta)
    (by rw [hs₂]) hpast) hpast, ?_⟩
  rcases perform_cases ho' with ⟨-, -, rfl, -⟩ | ⟨a, ha, rfl, hdone⟩
  · exact hfails s₂
  · obtain ⟨rfl, -⟩ := Prod.mk.inj (Option.some.inj ha)
    refine hk _ s₂ ?_
    have hx : x = .succeeds := by
      cases x with
      | succeeds => rfl
      | fails => exact absurd ⟨rfl, trivial⟩ hdone
    rw [hpast, hx]
    exact hspec s₁ hkept hrely hcond

/-- **A read of the vault** gives the payload of a record as it is known to be, or nothing. -/
theorem safe_loadVault (spec : Option VaultRecord → Option (Option VaultRecord) → Prop)
    {k : Option (Option VaultPayload) → SiteTask α} {s : Site × Past}
    (hspec : ∀ s₁ : Site × Past, Kept text crypto files epochOf s₁ → s₁.2 n = s.2 n →
      Cond text crypto epochOf n i.1 (.origin .getRecord) .succeeds s₁ →
        spec s₁.1.origin.device.record (record n i.1 (.origin .getRecord) .succeeds s₁.1 s₁.2 n))
    (hk : ∀ v s', (∀ p, v = some p → ∃ rec, spec rec (s'.2 n) ∧ recordPayload text rec = some p) →
      Goes spread text crypto files locks epochOf n i (k (some v)) s') :
    Goes spread text crypto files locks epochOf n i (onSite (Tasks.loadVault text).run >>= k) s := by
  have hnone : ∀ s', Goes spread text crypto files locks epochOf n i (k (some none)) s' :=
    fun s' => hk none s' nofun
  refine safe_still .getWrapKey trivial nofun fun r s₁ hpast₁ => ?_
  cases r with
  | none => exact hnone s₁
  | some wrapKey =>
      refine safe_getRecord spec (fun s₂ hkept hpast₂ => hspec s₂ hkept (hpast₂.trans hpast₁))
        (fun rec s₂ hrec => ?_) hnone
      obtain ⟨b, hb, hopen⟩ := Tasks.openRecord_cases text wrapKey rec
      have hfound : ∀ p, b.join = some p → recordPayload text rec = some p :=
        fun p hp => recordPayload_of_vault (hb.symm.trans hp)
      change Goes spread text crypto files locks epochOf n i (onSite ((Tasks.openRecord text wrapKey rec).run >>=
        fun v => pure (some v.join)) >>= k) s₂
      rcases hopen with hopen | hopen
      · rw [hopen]
        exact hk b.join s₂ fun p hp => ⟨rec, hrec, hfound p hp⟩
      · rw [hopen]
        refine safe_still .webCrypto trivial nofun fun r s₃ hpast₃ => ?_
        cases r with
        | none => exact hnone s₃
        | some _ => exact hk b.join s₃ fun p hp => ⟨rec, hpast₃ ▸ hrec, hfound p hp⟩

/-- One task after the other, on what the pages share and then on the rest. -/
theorem onSite_bind {γ : Type} (t : Task Op (fun op => Option op.Ans) β)
    (f : β → Task Op (fun op => Option op.Ans) γ)
    (k : γ → SiteTask α) :
    onSite (t >>= f) >>= k = onSite t >>= fun b => onSite (f b) >>= k := by
  induction t with
  | done b => rfl
  | call op k' ih => exact congrArg (Task.call (SiteOp.origin op)) (funext ih)

/-! ### The calls that write -/

/-- **Putting a record** is safe where its payload has each key of a circle at one epoch. -/
theorem safe_putRecord {payload : VaultPayload} (hpayload : OneEpoch epochOf payload.circles)
    {key : WrapKey} {k : Option Unit → SiteTask α} {s : Site × Past}
    (hk : ∀ r s', Goes spread text crypto files locks epochOf n i (k r) s') :
    Goes spread text crypto files locks epochOf n i (.call (.origin (.putRecord
      { version := vaultVersion, blob := some (sealBlob key (text.encode payload)) })) k) s := by
  intro s₁ hkept _ _ x r s₂ _ hperform
  obtain ⟨hsite, hpast⟩ := perform_tracked hperform
  obtain ⟨o', ho', hs₂⟩ := perform_origin hsite
  refine ⟨?_, hk r s₂⟩
  rcases perform_cases ho' with ⟨-, -, -, rfl⟩ | ⟨a, ha, -, -⟩
  · exact guarantees_of (hkept.still (by rw [hs₂]) (by rw [hs₂]) (by rw [hs₂]) hpast) hpast
  · obtain ⟨-, rfl⟩ := Prod.mk.inj (Option.some.inj ha)
    have hpast' : s₂.2 = s₁.2 := hpast.trans (record_of_ne nofun)
    refine guarantees_of ⟨fun p hp => ?_, fun m rec hrec => ?_, fun vm hvm => ?_⟩ hpast
    · rw [hs₂] at hp
      obtain rfl := Option.some.inj ((recordPayload_sealed key payload).symm.trans hp)
      exact hpayload
    · rw [hpast'] at hrec
      exact hkept.past m rec hrec
    · rw [hs₂] at hvm ⊢
      exact hkept.exported vm hvm

/-- **Saving a payload** is safe where it has each key of a circle at one epoch. -/
theorem safe_saveVaultUnlocked {payload : VaultPayload} (hpayload : OneEpoch epochOf payload.circles)
    {k : Option Unit → SiteTask α} {s : Site × Past}
    (hk : ∀ r s', Goes spread text crypto files locks epochOf n i (k r) s') :
    Goes spread text crypto files locks epochOf n i
      (onSite (Tasks.saveVaultUnlocked text payload).run >>= k) s := by
  have hstore : ∀ (key : WrapKey) s', Goes spread text crypto files locks epochOf n i
      (onSite (do
        Task.attempt Op.webCrypto
        Task.attempt (Op.putRecord
          { version := vaultVersion
            blob := some (sealBlob key (text.encode payload)) }) : OriginM Unit).run >>= k) s' := by
    intro key s'
    refine safe_still .webCrypto trivial nofun fun r s₁ _ => ?_
    cases r with
    | none => exact hk none s₁
    | some _ => exact safe_putRecord hpayload hk
  refine safe_still .getWrapKey trivial nofun fun r s₁ _ => ?_
  match r with
  | none => exact hk none s₁
  | some (some key) => exact hstore key s₁
  | some none =>
      refine safe_still .generateKey trivial nofun fun r s₂ _ => ?_
      cases r with
      | none => exact hk none s₂
      | some key =>
          refine safe_still (.putWrapKey key) trivial nofun fun r s₃ _ => ?_
          cases r with
          | none => exact hk none s₃
          | some _ => exact hstore key s₃

/-- **What runs under the lock** is safe if it is without. -/
theorem safe_withInitLock {fn : OriginM β} {k : Option β → SiteTask α}
    {s : Site × Past}
    (hfn : ∀ (k' : Option β → SiteTask α) s',
      (∀ r s'', Goes spread text crypto files locks epochOf n i (k' r) s'') →
        Goes spread text crypto files locks epochOf n i (onSite fn.run >>= k') s')
    (hk : ∀ r s', Goes spread text crypto files locks epochOf n i (k r) s') :
    Goes spread text crypto files locks epochOf n i (onSite (withInitLock fn).run >>= k) s := by
  refine safe_still .lock trivial nofun fun r s₁ _ => ?_
  cases r with
  | none => exact hk none s₁
  | some _ =>
      change Goes spread text crypto files locks epochOf n i (onSite (fn.run >>= fun result =>
        Task.await Op.unlock >>= fun _ => pure result) >>= k) s₁
      rw [onSite_bind]
      refine hfn _ s₁ fun r s₂ => ?_
      exact safe_still .unlock trivial nofun fun _ s₃ _ => hk r s₃

/-- **Changing the circles** is safe where the call leaves each key of a circle at one epoch. -/
theorem safe_updateCircles {change : List VaultCircle → List VaultCircle}
    (hchange : ∀ cs, i.1.OneEpoch epochOf → OneEpoch epochOf cs → OneEpoch epochOf (change cs))
    {k : Option Unit → SiteTask α} {s : Site × Past}
    (hk : ∀ r s', Goes spread text crypto files locks epochOf n i (k r) s') :
    Goes spread text crypto files locks epochOf n i
      (onSite (Tasks.updateCircles text change).run >>= k) s := by
  change Goes spread text crypto files locks epochOf n i (onSite ((Tasks.loadVault text).run >>= _) >>= k) s
  rw [onSite_bind]
  refine safe_loadVault (fun rec _ => i.1.OneEpoch epochOf ∧
    ∀ p, recordPayload text rec = some p → OneEpoch epochOf p.circles)
    (fun s₁ hkept _ hcond => ⟨hcond.1, hkept.record⟩) fun v s₁ hv => ?_
  cases v with
  | none => exact hk (some ()) s₁
  | some v =>
      obtain ⟨rec, ⟨hcall, hrec⟩, hp⟩ := hv v rfl
      exact safe_saveVaultUnlocked (hchange v.circles hcall (hrec v hp)) hk

/-- **Saving a secret key** is safe: the circles are those that were read. -/
theorem safe_saveSecretKey {sk : Bytes}
    {k : Option Unit → SiteTask α} {s : Site × Past}
    (hk : ∀ r s', Goes spread text crypto files locks epochOf n i (k r) s') :
    Goes spread text crypto files locks epochOf n i (onSite (Tasks.saveSecretKey text sk).run >>= k) s := by
  refine safe_withInitLock (fun k' s' hk' => ?_) hk
  change Goes spread text crypto files locks epochOf n i
    (onSite ((Tasks.loadVault text).run >>= _) >>= k') s'
  rw [onSite_bind]
  refine safe_loadVault (fun rec _ =>
    ∀ p, recordPayload text rec = some p → OneEpoch epochOf p.circles)
    (fun s₁ hkept _ _ => hkept.record) fun v s₁ hv => ?_
  refine safe_saveVaultUnlocked ?_ hk'
  cases v with
  | none => exact fun c hc => nomatch hc
  | some v =>
      obtain ⟨rec, hrec, hp⟩ := hv v rfl
      exact hrec v hp

/-- A key that is added is the call's. -/
theorem oneEpoch_withCircleKey {circleId : Uuid} {rawKey : Bytes} {epoch : ℕ} {cs : List VaultCircle}
    (hcall : epoch = epochOf circleId rawKey ∧ '\n' ∉ circleId.toList) (h : OneEpoch epochOf cs) :
    OneEpoch epochOf (Tasks.withCircleKey circleId rawKey epoch cs) := by
  intro c hc
  rcases List.mem_append.1 hc with hc | hc
  · exact h c (List.mem_of_mem_filter hc)
  · obtain rfl := List.mem_singleton.1 hc
    exact hcall

theorem oneEpoch_withoutCircle {circleId : Uuid} {epoch : Option ℕ} {cs : List VaultCircle}
    (h : OneEpoch epochOf cs) : OneEpoch epochOf (Tasks.withoutCircle circleId epoch cs) := by
  intro c hc
  cases epoch with
  | none => exact h c (List.mem_of_mem_filter hc)
  | some epoch => exact h c (List.mem_of_mem_filter hc)

/-! ### The export -/

/-- A use of WebCrypto is safe if what follows is. -/
theorem safe_webCrypto {k : Option Unit → SiteTask α} {s : Site × Past}
    (hk : ∀ r s', s'.2 n = s.2 n → Goes spread text crypto files locks epochOf n i (k r) s') :
    Goes spread text crypto files locks epochOf n i (webCrypto.run >>= k) s :=
  safe_still .webCrypto trivial nofun hk

theorem safe_digests {cs : List VaultCircle}
    {k : Option Unit → SiteTask α} {s : Site × Past}
    (hk : ∀ r s', s'.2 n = s.2 n → Goes spread text crypto files locks epochOf n i (k r) s') :
    Goes spread text crypto files locks epochOf n i ((digests cs).run >>= k) s := by
  induction cs generalizing s with
  | nil => exact hk (some ()) s rfl
  | cons c cs ih =>
      change Goes spread text crypto files locks epochOf n i ((webCrypto.run >>= _) >>= k) s
      rw [Task.bind_assoc]
      refine safe_webCrypto fun r s₁ hpast₁ => ?_
      cases r with
      | none => exact hk none s₁ hpast₁
      | some _ => exact ih fun r s₂ hpast₂ => hk r s₂ (hpast₂.trans hpast₁)

/-- **The fingerprint of the vault** is that of what is read, or none. -/
theorem safe_vaultFingerprint {rec : Option VaultRecord}
    {k : Option String → SiteTask α} {s : Site × Past}
    (hexports : i.1.exports = true) (hpast : s.2 n = some rec) {p : VaultPayload}
    (hp : recordPayload text rec = some p)
    (hk : ∀ fp s', (∀ f, fp = some f → f = "" ∨ ∃ q, f = crypto.fingerprint q ∧
      crypto.getPublicKey p.identitySk = crypto.getPublicKey q.identitySk ∧ p.circles.Perm q.circles) →
        Goes spread text crypto files locks epochOf n i (k fp) s') :
    Goes spread text crypto files locks epochOf n i ((vaultFingerprint text crypto).run >>= k) s := by
  change Goes spread text crypto files locks epochOf n i ((onSite (Tasks.loadVault text).run >>= _) >>= k) s
  rw [Task.bind_assoc]
  refine safe_loadVault (fun rec' _ => ∀ q, recordPayload text rec' = some q →
    crypto.getPublicKey p.identitySk = crypto.getPublicKey q.identitySk ∧ p.circles.Perm q.circles)
    (fun s₁ _ hpast₁ hcond q hq => hcond.2 hexports rfl rec (hpast₁.trans hpast) p hp q hq)
    fun v s₁ hv => ?_
  cases v with
  | none => exact hk (some "") s₁ fun f hf => Or.inl (Option.some.inj hf).symm
  | some q =>
      obtain ⟨rec', hsame, hq⟩ := hv q rfl
      change Goes spread text crypto files locks epochOf n i (((digests q.circles).run >>= _) >>= k) s₁
      rw [Task.bind_assoc]
      refine safe_digests fun r s₂ _ => ?_
      cases r with
      | none => exact hk none s₂ nofun
      | some _ =>
          change Goes spread text crypto files locks epochOf n i ((webCrypto.run >>= _) >>= k) s₂
          rw [Task.bind_assoc]
          refine safe_webCrypto fun r s₃ _ => ?_
          cases r with
          | none => exact hk none s₃ nofun
          | some _ =>
              refine hk (some (crypto.fingerprint q)) s₃ fun f hf => Or.inr ?_
              exact ⟨q, (Option.some.inj hf).symm, hsame q hq⟩

/-- **Recording a fingerprint** is safe where it is none or that of the file. -/
theorem safe_saveVaultMeta {f file : String} (hfile : f = "" ∨ ∃ p, Contains text crypto files file p ∧
      OneEpoch epochOf p.circles ∧ f = crypto.fingerprint p)
    {k : Option Unit → SiteTask α} {s : Site × Past}
    (hk : ∀ r s', Goes spread text crypto files locks epochOf n i (k r) s') :
    Goes spread text crypto files locks epochOf n i
      (.call (.saveVaultMeta { lastExportedFingerprint := f } file) k) s := by
  intro s₁ hkept _ _ x r s₂ _ hperform
  obtain ⟨hsite, hpast⟩ := perform_tracked hperform
  refine ⟨?_, hk r s₂⟩
  have hpast' : s₂.2 = s₁.2 := hpast.trans (record_of_ne nofun)
  cases x with
  | fails =>
      obtain ⟨-, hs₂⟩ := Prod.mk.inj (Option.some.inj hsite)
      exact guarantees_of (hkept.still (by rw [hs₂]) (by rw [hs₂]) (by rw [hs₂]) hpast) hpast
  | succeeds =>
      obtain ⟨-, hs₂⟩ := Prod.mk.inj (Option.some.inj hsite)
      refine guarantees_of ⟨fun p hp => ?_, fun m rec hrec => ?_, fun vm hvm => ?_⟩ hpast
      · rw [← hs₂] at hp
        exact hkept.record p hp
      · rw [hpast'] at hrec
        exact hkept.past m rec hrec
      · rw [← hs₂] at hvm ⊢
        obtain rfl := Option.some.inj hvm
        rcases hfile with hnone | ⟨p, hcontains, hone, hf⟩
        · exact Or.inl hnone
        · exact Or.inr ⟨file, p, rfl, hcontains, hone, hf⟩

/-- A file contains the payload it was made of. -/
theorem contains_sealFile (hcrypto : crypto.Ideal) {p : VaultPayload} {passphrase : String}
    {salt iv : Bytes} {file : BackupFile}
    (hfile : sealFile spread text crypto p passphrase salt iv = some file) :
    Contains text crypto files (files.stringify file) p :=
  ⟨passphrase, _, fun t => decryptBackup_sealFile hcrypto hfile t⟩

/-- What a file that was made of a payload contains. -/
theorem eq_of_contains (hcrypto : crypto.Ideal) {v p : VaultPayload} {passphrase : String}
    {salt iv : Bytes} {file : BackupFile}
    (hfile : sealFile spread text crypto v passphrase salt iv = some file)
    (h : Contains text crypto files (files.stringify file) p) : p = v := by
  obtain ⟨other, vaultId, hopens⟩ := h
  by_cases hother : other = passphrase
  · subst hother
    have hboth := (decryptBackup_sealFile hcrypto hfile {}).symm.trans (hopens {})
    obtain ⟨hok, -⟩ := Prod.mk.inj (Option.some.inj hboth)
    exact (Prod.mk.inj (Except.ok.inj hok)).1.symm
  · have hboth := (decryptBackup_other hcrypto hother hfile {}).symm.trans (hopens {})
    exact nomatch (Prod.mk.inj (Option.some.inj hboth)).1

/-- The fingerprint does not depend on the order of the entries. -/
theorem fingerprint_perm {p q : VaultPayload}
    (hkey : crypto.getPublicKey p.identitySk = crypto.getPublicKey q.identitySk)
    (hperm : p.circles.Perm q.circles) : crypto.fingerprint p = crypto.fingerprint q := by
  unfold Crypto.fingerprint Crypto.material
  rw [hkey, insertionSort_eq_iff.2 (hperm.map crypto.line)]

/-- **What follows the three uses of WebCrypto** is safe: a file that cannot be made is a throw, and
what is recorded of one that can be is the fingerprint of what is in it. -/
theorem safe_sealed (hcrypto : crypto.Ideal) (hexports : i.1.exports = true) {passphrase : String}
    {salt iv : Bytes} {k : Option String → SiteTask α} {s : Site × Past}
    {rec : Option VaultRecord} {p : VaultPayload} (hpast : s.2 n = some rec)
    (hone : ∀ p, recordPayload text rec = some p → OneEpoch epochOf p.circles)
    (hp : recordPayload text rec = some p)
    (hk : ∀ r s', Goes spread text crypto files locks epochOf n i (k r) s') :
    Goes spread text crypto files locks epochOf n i
      ((do
        let sealed ← orThrow (sealFile spread text crypto p passphrase salt iv)
        let file := files.stringify sealed
        let fingerprint ← vaultFingerprint text crypto
        Task.attempt (SiteOp.saveVaultMeta { lastExportedFingerprint := fingerprint } file)
        pure file : SiteM String).run >>= k) s := by
  cases hfile : sealFile spread text crypto p passphrase salt iv with
  | none => exact hk none s
  | some sealed =>
      change Goes spread text crypto files locks epochOf n i
        (((vaultFingerprint text crypto).run >>= _) >>= k) s
      rw [Task.bind_assoc]
      refine safe_vaultFingerprint hexports hpast hp fun fp s₁ hfp => ?_
      cases fp with
      | none => exact hk none s₁
      | some f =>
          refine safe_saveVaultMeta ?_ fun r s₂ => ?_
          · rcases hfp f rfl with hnone | ⟨q, hf, hkey, hperm⟩
            · exact Or.inl hnone
            · exact Or.inr ⟨p, contains_sealFile hcrypto hfile, hone p hp,
                hf.trans (fingerprint_perm hkey hperm).symm⟩
          · cases r with
            | none => exact hk none s₂
            | some _ => exact hk _ s₂

/-- **An export** is safe where it finds the second time what it has found. -/
theorem safe_exportBackup (hcrypto : crypto.Ideal) (hexports : i.1.exports = true)
    {passphrase : String} {salt iv : Bytes}
    {k : Option String → SiteTask α} {s : Site × Past}
    (hnew : s.2 n = none) (hk : ∀ r s', Goes spread text crypto files locks epochOf n i (k r) s') :
    Goes spread text crypto files locks epochOf n i
      ((exportBackup spread text crypto files passphrase salt iv).run >>= k) s := by
  change Goes spread text crypto files locks epochOf n i ((onSite (Tasks.loadVault text).run >>= _) >>= k) s
  rw [Task.bind_assoc]
  refine safe_loadVault (fun rec g => g = some rec ∧
    ∀ p, recordPayload text rec = some p → OneEpoch epochOf p.circles) (fun s₁ hkept hpast _ => ?_)
    fun v s₁ hv => ?_
  · refine ⟨?_, hkept.record⟩
    unfold record
    rw [if_pos ⟨hexports, rfl, rfl, hpast.trans hnew⟩, Function.update_self]
  · cases v with
    | none => exact hk none s₁
    | some p =>
        obtain ⟨rec, ⟨hpast₁, hone⟩, hp⟩ := hv p rfl
        refine safe_still .webCrypto trivial nofun fun r s₂ hpast₂ => ?_
        cases r with
        | none => exact hk none s₂
        | some _ =>
            refine safe_still .webCrypto trivial nofun fun r s₃ hpast₃ => ?_
            cases r with
            | none => exact hk none s₃
            | some _ =>
                refine safe_still .webCrypto trivial nofun fun r s₄ hpast₄ => ?_
                cases r with
                | none => exact hk none s₄
                | some _ =>
                    exact safe_sealed hcrypto hexports
                      (hpast₄.trans (hpast₃.trans (hpast₂.trans hpast₁))) hone hp hk

/-! ### The badge over a run -/

/-- **Every call is safe.** -/
theorem starts (hcrypto : crypto.Ideal) : (badgeDiscipline text crypto files epochOf).Starts
    (tracked spread text crypto files locks) (fun _ _ _ _ => True) := by
  intro n c s hkept hnew
  have hend : ∀ (r : Option (Option String)) s', Goes spread text crypto files locks epochOf n (c, s)
      (Task.done r) s' := fun _ _ _ _ _ _ => trivial
  refine ⟨nofun, ?_⟩
  cases c with
  | exportBackup passphrase salt iv =>
      refine safe_exportBackup hcrypto rfl (hnew rfl) fun r s' => ?_
      cases r with
      | none => exact hend none s'
      | some file => exact hend (some (some file)) s'
  | saveSecretKey sk =>
      refine safe_saveSecretKey fun r s' => ?_
      cases r with
      | none => exact hend none s'
      | some _ => exact hend (some none) s'
  | upsertCircleKey circleId rawKey epoch =>
      have hchange : ∀ cs, Call.OneEpoch epochOf (.upsertCircleKey circleId rawKey epoch) →
          OneEpoch epochOf cs → OneEpoch epochOf (Tasks.withCircleKey circleId rawKey epoch cs) :=
        fun cs hcall hone => oneEpoch_withCircleKey hcall hone
      refine safe_withInitLock (fun k' s' hk' => safe_updateCircles hchange hk') fun r s' => ?_
      cases r with
      | none => exact hend none s'
      | some _ => exact hend (some none) s'
  | removeVaultCircle circleId epoch =>
      refine safe_withInitLock (fun k' s' hk' =>
        safe_updateCircles (fun cs _ hone => oneEpoch_withoutCircle hone) hk') fun r s' => ?_
      cases r with
      | none => exact hend none s'
      | some _ => exact hend (some none) s'

/-- Entries that are the same but for their epochs are the same, where each key has one. -/
theorem mem_of_named {cs cs' : List VaultCircle}
    (hperm : (cs.map VaultCircle.named).Perm (cs'.map VaultCircle.named)) (h : OneEpoch epochOf cs)
    (h' : OneEpoch epochOf cs') {c : VaultCircle} (hc : c ∈ cs) : c ∈ cs' := by
  obtain ⟨c', hc', hnamed⟩ := List.mem_map.1 (hperm.mem_iff.1 (List.mem_map_of_mem hc))
  obtain ⟨hid, hkey⟩ := Prod.mk.inj hnamed
  have hepoch : c'.epoch = c.epoch := by rw [(h' c' hc').1, (h c hc).1, hid, hkey]
  obtain ⟨id, key, epoch⟩ := c
  obtain ⟨id', key', epoch'⟩ := c'
  dsimp only at hid hkey hepoch
  subst hid hkey hepoch
  exact hc'

/-- **What always holds makes the badge right.** -/
theorem right_of_kept (hdigests : crypto.Digests) {s : Site × Past}
    (h : Kept text crypto files epochOf s) : Right text crypto files s.1 := by
  intro v ⟨hv, hmeta⟩
  rcases h.exported _ hmeta with hnone | ⟨file, p, hfile, hcontains, hone, hf⟩
  · exact absurd hnone (fingerprint_ne_empty hdigests v)
  · have hone' := h.record v (recordPayload_device hv)
    obtain ⟨hkey, hperm⟩ := (fingerprint_eq_iff hdigests (fun c hc => (hone' c hc).2)
      fun c hc => (hone c hc).2).1 hf
    exact ⟨file, p, hfile, hcontains, hkey.symm, fun c =>
      ⟨mem_of_named hperm.symm hone hone', mem_of_named hperm hone' hone⟩⟩

variable (spread text crypto files)

/-- **When an up-to-date badge means an up-to-date backup.**  Fingerprints are equal exactly with the
identity and the entries, for payloads that do not have the same keys of the same circles at different
epochs.  And in every run in which each key of a circle is stored at one epoch and every export finds
the vault the second time as it has found it, wherever the fingerprint of the vault is the recorded
one the file that was exported last holds the identity and the entries of the vault. -/
theorem badge_right (hcrypto : crypto.Ideal) (hdigests : crypto.Digests) :
    (∀ p q : VaultPayload, NoBreaks p.circles → NoBreaks q.circles → p.circles.Nodup →
      q.circles.Nodup →
        ((crypto.fingerprint p = crypto.fingerprint q ↔ Same crypto p q) ↔ SameEpochs crypto p q)) ∧
    ∀ (locks : Bool) (epochOf : Uuid → Bytes → ℕ) (s : Site), s.origin.vaultMeta = none →
      (∀ p, recordPayload text s.origin.device.record = some p → OneEpoch epochOf p.circles) →
      ∀ as, (∀ e ∈ events (step (tracked spread text crypto files locks)) (Pool.init (s, fun _ => none)) as,
        MeetsAt (Cond text crypto epochOf) e.pre e.act) →
      ∀ e ∈ events (step (tracked spread text crypto files locks)) (Pool.init (s, fun _ => none)) as,
        Right text crypto files e.post.store.1 := by
  refine ⟨fun p q hp hq hnodup hnodup' => fingerprint_exact_iff hdigests hp hq hnodup hnodup',
    fun locks epochOf s hmeta hfirst as hmeets e he => ?_⟩
  have hkept : Kept text crypto files epochOf (s, fun _ => none) :=
    { record := hfirst
      past := fun _ _ h => nomatch h
      exported := fun vm hvm => nomatch hmeta.symm.trans hvm }
  have hinit : Async.Sound (badgeDiscipline text crypto files epochOf)
      (tracked spread text crypto files locks) (fun _ _ _ _ => True) (Pool.init (s, fun _ => none)) :=
    sound_init hkept fun _ _ => rfl
  obtain ⟨hpre, hpost⟩ := events_induction_of hinit
    (fun _ _ hp ha => (sound_step (starts hcrypto) hp ha).1) hmeets he
  rw [hpost]
  exact right_of_kept hdigests (sound_step (starts hcrypto) hpre (hmeets e he)).1.inv

/-! ### A page with two tabs -/

/-- The identity alone, and with the key of a circle at an epoch. -/
def demoAlone : VaultPayload := { identitySk := [7], circles := [] }

/-- The identity with the key of a circle at an epoch. -/
def demoWith (epoch : ℕ) : VaultPayload :=
  { identitySk := [7], circles := [{ id := "c", key := List.replicate 32 1, epoch }] }

/-- The payloads that occur, as so many bytes. -/
def demoText : PayloadText where
  encode p := List.replicate (EpochKeys.demoCode [demoAlone, demoWith 1] p) 0
  decode b := EpochKeys.demoUncode [demoAlone, demoWith 1] b.length
  decode_encode p := by rw [List.length_replicate, EpochKeys.demoUncode_demoCode]

theorem demoCrypto_digests : demoCrypto.Digests where
  sha256_injective _ _ h := (List.cons.inj h).2
  sha256_ne_nil _ h := nomatch h
  publicKey_line _ h := (mem_hexOf h).1 rfl

/-- A page with an identity. -/
def demoSite : Site :=
  { origin :=
      { device :=
          { wrapKey := some 0
            record := some { version := vaultVersion, blob := some (sealBlob 0 []) }
            nextKey := 1 } } }

/-- A call goes on. -/
def goOn (times n : ℕ) : List (Act Call Fate) := List.replicate times (.resume n .succeeds)

/-- An export, a circle that is joined, and another export. -/
def exportTwice : List (Act Call Fate) :=
  .start (.exportBackup "correct horse" [1] [2]) :: goOn 11 0 ++
    .start (.upsertCircleKey "c" (List.replicate 32 1) 1) :: goOn 8 1 ++
    .start (.exportBackup "correct horse" [3] [4]) :: goOn 12 2

/-- The badge is right all along, and at the end the backup is up to date. -/
theorem badge_right_demo :
    (∀ e ∈ events (step (tracked demoSpread demoText demoCrypto (demoJson BackupFile) true))
        (Pool.init (demoSite, fun _ => none)) exportTwice,
      Right demoText demoCrypto (demoJson BackupFile) e.post.store.1) ∧
      UpToDate demoText demoCrypto (run (step (tracked demoSpread demoText demoCrypto (demoJson BackupFile) true))
        (Pool.init (demoSite, fun _ => none)) exportTwice).store.1 (demoWith 1) := by
  refine ⟨(badge_right demoSpread demoText demoCrypto (demoJson BackupFile) demoCrypto_ideal
    demoCrypto_digests).2 true (fun _ _ => 1) demoSite rfl (fun p hp => ?_) exportTwice (by decide),
    by decide +kernel, by decide +kernel⟩
  obtain rfl : demoAlone = p := Option.some.inj hp
  exact fun c hc => nomatch hc

/-- A circle is joined in one tab while an export in the other derives its key. -/
def joinMeanwhile : List (Act Call Fate) :=
  .start (.exportBackup "correct horse" [1] [2]) :: goOn 6 0 ++
    .start (.upsertCircleKey "c" (List.replicate 32 1) 1) :: goOn 8 1 ++ goOn 6 0

/-- **The badge is wrong**: the circle is in the recorded fingerprint and not in the file.  And vaults
that hold a key at different epochs have one fingerprint. -/
theorem missed_write :
    ¬ Right demoText demoCrypto (demoJson BackupFile)
      (run (step (tracked demoSpread demoText demoCrypto (demoJson BackupFile) true))
        (Pool.init (demoSite, fun _ => none)) joinMeanwhile).store.1 ∧
      demoCrypto.fingerprint (demoWith 1) = demoCrypto.fingerprint (demoWith 2) ∧
        ¬ Same demoCrypto (demoWith 1) (demoWith 2) := by
  refine ⟨fun hright => ?_, rfl, fun hsame => ?_⟩
  · obtain ⟨file, p, hfile, hcontains, -, hsame⟩ := hright (demoWith 1)
      ⟨by decide +kernel, by decide +kernel⟩
    have hexported : (run (step (tracked demoSpread demoText demoCrypto (demoJson BackupFile) true))
        (Pool.init (demoSite, fun _ => none)) joinMeanwhile).store.1.exported =
          (sealFile demoSpread demoText demoCrypto demoAlone "correct horse" [1] [2]).map
            (demoJson BackupFile).stringify := rfl
    obtain ⟨sealed, hsealed, rfl⟩ := Option.map_eq_some_iff.1 (hexported.symm.trans hfile)
    obtain rfl := eq_of_contains demoCrypto_ideal hsealed hcontains
    exact nomatch (hsame { id := "c", key := List.replicate 32 1, epoch := 1 }).2
      List.mem_cons_self
  · have hmem := (hsame.2 { id := "c", key := List.replicate 32 1, epoch := 1 }).1 List.mem_cons_self
    exact absurd hmem (by decide)

end Badge
end Pwa
end SentinelMesh
