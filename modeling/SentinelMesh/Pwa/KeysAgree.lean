/-
# When the two stores of circle keys agree

Two saves of different keys at one epoch may leave one key in each store (`stores_differ`), and a save
over another key leaves it there for a while, or for good if it fails there.

What is needed is one key at a time.  A run falls into stretches, each of which begins when every call
has ended; in one stretch everything that is saved at a circle and an epoch, and everything the stores
hold there when it begins, is to be the same key (`OneKey`).  Then whatever a call reads, from either
store and however long ago, is the key of its place (`Answers`), so that it writes no other (`Emits`),
with web locks and without them (`keeps_op`, `starts`), and the stores agree in every state
(`stores_agree`).
-/

import SentinelMesh.Pwa.CircleKeys

namespace SentinelMesh
namespace Pwa
namespace CircleKeys

open Lib Lib.Task Lib.Async

/-! ### One key at a time -/

/-- A payload holds at each circle and epoch the key of the place, or none. -/
def HoldsOnly (keys : Uuid → ℕ → Bytes) (v : Option VaultPayload) : Prop :=
  ∀ circleId epoch key, (v.bind fun v => v.circleKey? circleId epoch) = some key →
    key = keys circleId epoch

/-- The stores hold at each circle and epoch the key of the place, or none; a key from before there
were epochs is one of the first. -/
structure HeldBy (text : PayloadText) (keys : Uuid → ℕ → Bytes) (s : Origin) : Prop where
  vault : HoldsOnly keys (s.device.vault text)
  live : ∀ circleId epoch key, s.live (.keyId circleId epoch) = some key → key = keys circleId epoch
  bare : ∀ circleId key, s.live (.bare circleId) = some key → key = keys circleId 1
  legacy : ∀ circleId key, s.legacy circleId = some (some key) → key = keys circleId 1

/-- A call saves the key of the place, if it saves one: what it is given, or what it unwraps, under
whichever secret key it does. -/
def Call.Saves (lib : Libraries) (keys : Uuid → ℕ → Bytes) : Call → Prop
  | .saveCircleKeyWithBackup circleId rawKey epoch => rawKey = keys circleId epoch
  | .rotateCircleKey circleId nextEpoch fresh => fresh = keys circleId nextEpoch
  | .unwrapNip44CircleKey circleId ownerPubkey event _ => ∀ secretKey rawKey epoch,
      lib.unwrap secretKey circleId ownerPubkey event = some (rawKey, epoch) →
        rawKey = keys circleId epoch
  | .loadCircleKey _ _ | .clearCircleKey _ _ | .purgeCircleKeyEpochs _ _ => True

/-- **One key at a time**: the run falls into stretches that begin when every call has ended, and in
each of them one key belongs to each circle and epoch, which is what the stores hold there at its
beginning, if anything, and what its calls save there. -/
inductive OneKey (text : PayloadText) (lib : Libraries) (locks : Bool) :
    Pool Origin Call Op (fun op => Option op.Ans) (Option Unit) → List (Act Call Fate) → Prop
  | done (p : Pool Origin Call Op (fun op => Option op.Ans) (Option Unit)) : OneKey text lib locks p []
  | stretch (keys : Uuid → ℕ → Bytes)
      {p : Pool Origin Call Op (fun op => Option op.Ans) (Option Unit)} {as bs : List (Act Call Fate)}
      (settled : p.Settled) (held : HeldBy text keys p.store)
      (calls : ∀ c, .start c ∈ as → c.Saves lib keys)
      (rest : OneKey text lib locks (run (step (system text lib locks)) p as) bs) :
      OneKey text lib locks p (as ++ bs)

/-! ### What a call reads and writes -/

/-- The stores hold the keys of their places, and the vault is opened with one and the same key. -/
def keyDiscipline (text : PayloadText) (keys : Uuid → ℕ → Bytes) (wrapKey : Option WrapKey) :
    Discipline Origin Call Op Fate where
  Inv s := s.device.wrapKey = wrapKey ∧ HeldBy text keys s
  Rely _ _ _ := True
  Cond _ _ _ _ _ := True
  Local _ _ _ := True
  refl _ _ := trivial
  trans _ _ _ _ _ _ := trivial
  stays _ _ _ _ _ _ := trivial

variable {text : PayloadText} {keys : Uuid → ℕ → Bytes} {wrapKey : Option WrapKey}

/-- What is read is the key of its place. -/
def Answers (text : PayloadText) (keys : Uuid → ℕ → Bytes) (wrapKey : Option WrapKey) :
    (op : Op) → op.Ans → Prop
  | .getWrapKey, key => key = wrapKey
  | .getRecord, rec => HoldsOnly keys (Device.vault text { wrapKey, record := rec })
  | .getKey (.bare circleId), key => ∀ k : Bytes, key = some k → k = keys circleId 1
  | .getLegacy circleId, b64 => ∀ k : Bytes, b64 = some (some k) → k = keys circleId 1
  | _, _ => True

/-- What is written is the key of its place; the operations on the identity are none of these calls'. -/
def Emits (text : PayloadText) (keys : Uuid → ℕ → Bytes) (wrapKey : Option WrapKey) : Op → Prop
  | .putKey (.keyId circleId epoch) key => key = keys circleId epoch
  | .putRecord rec => HoldsOnly keys (Device.vault text { wrapKey, record := some rec })
  | .lock | .unlock | .getWrapKey | .getRecord | .webCrypto | .getCachedKeypair _ | .getKey _
  | .deleteKey _ | .getLegacy _ | .removeLegacy _ => True
  | _ => False

/-- A key that is removed leaves the others. -/
theorem HeldBy.deleteKey {s : Origin} (h : HeldBy text keys s) (id : KeyId) :
    HeldBy text keys { s with live := Function.update s.live id none } where
  vault := h.vault
  live circleId epoch key hkey := by
    change Function.update s.live id none _ = some key at hkey
    rw [Function.update_apply] at hkey
    split_ifs at hkey
    exact h.live circleId epoch key hkey
  bare circleId key hkey := by
    change Function.update s.live id none _ = some key at hkey
    rw [Function.update_apply] at hkey
    split_ifs at hkey
    exact h.bare circleId key hkey
  legacy := h.legacy

/-- A key that is put at its place is one of the keys. -/
theorem HeldBy.putKey {s : Origin} (h : HeldBy text keys s) (circleId : Uuid) (epoch : ℕ) :
    HeldBy text keys { s with
      live := Function.update s.live (.keyId circleId epoch) (some (keys circleId epoch)) } where
  vault := h.vault
  live id e key hkey := by
    change Function.update s.live _ _ (.keyId id e) = some key at hkey
    rw [Function.update_apply] at hkey
    split_ifs at hkey with hid
    · obtain ⟨rfl, rfl⟩ := KeyId.keyId.inj hid
      exact (Option.some.inj hkey).symm
    · exact h.live id e key hkey
  bare id key hkey := by
    change Function.update s.live (.keyId circleId epoch) (some (keys circleId epoch)) (.bare id) =
      some key at hkey
    have hne : KeyId.bare id ≠ .keyId circleId epoch := nofun
    rw [Function.update_of_ne hne] at hkey
    exact h.bare id key hkey
  legacy := h.legacy

/-- A text that is removed leaves the others. -/
theorem HeldBy.removeLegacy {s : Origin} (h : HeldBy text keys s) (circleId : Uuid) :
    HeldBy text keys { s with legacy := Function.update s.legacy circleId none } where
  vault := h.vault
  live := h.live
  bare := h.bare
  legacy id key hkey := by
    change Function.update s.legacy circleId none id = some (some key) at hkey
    rw [Function.update_apply] at hkey
    split_ifs at hkey
    exact h.legacy id key hkey

/-- **An operation that writes only keys of their places** keeps the stores so, and reads no other. -/
theorem answer_held {locks : Bool} {n : ℕ} {op : Op} (hemits : Emits text keys wrapKey op) {a : op.Ans}
    {s s' : Origin} (hwrap : s.device.wrapKey = wrapKey) (h : HeldBy text keys s)
    (ha : answer locks n op s = some (a, s')) :
    (s'.device.wrapKey = wrapKey ∧ HeldBy text keys s') ∧ Answers text keys wrapKey op a := by
  cases op with
  | lock =>
      rcases answer_lock ha with ⟨-, rfl⟩ | ⟨-, -, rfl⟩
      · exact ⟨⟨hwrap, h⟩, trivial⟩
      · exact ⟨⟨hwrap, h.vault, h.live, h.bare, h.legacy⟩, trivial⟩
  | unlock =>
      obtain ⟨-, rfl⟩ := Prod.mk.inj (Option.some.inj ha)
      cases locks with
      | false => exact ⟨⟨hwrap, h⟩, trivial⟩
      | true => exact ⟨⟨hwrap, h.vault, h.live, h.bare, h.legacy⟩, trivial⟩
  | getWrapKey =>
      obtain ⟨rfl, rfl⟩ := Prod.mk.inj (Option.some.inj ha)
      exact ⟨⟨hwrap, h⟩, hwrap⟩
  | getRecord =>
      obtain ⟨rfl, rfl⟩ := Prod.mk.inj (Option.some.inj ha)
      have hvault : Device.vault text { wrapKey, record := s.device.record } = s.device.vault text :=
        vault_congr text hwrap.symm rfl
      refine ⟨⟨hwrap, h⟩, ?_⟩
      change HoldsOnly keys (Device.vault text { wrapKey, record := s.device.record })
      rw [hvault]
      exact h.vault
  | putRecord rec =>
      obtain ⟨-, rfl⟩ := Prod.mk.inj (Option.some.inj ha)
      have hvault : Device.vault text { s.device with record := some rec } =
          Device.vault text { wrapKey, record := some rec } := vault_congr text hwrap rfl
      refine ⟨⟨hwrap, ?_, h.live, h.bare, h.legacy⟩, trivial⟩
      dsimp only
      rw [hvault]
      exact hemits
  | webCrypto =>
      obtain ⟨-, rfl⟩ := Prod.mk.inj (Option.some.inj ha)
      exact ⟨⟨hwrap, h⟩, trivial⟩
  | getCachedKeypair minted =>
      obtain ⟨-, rfl⟩ := Prod.mk.inj (Option.some.inj ha)
      exact ⟨⟨hwrap, h.vault, h.live, h.bare, h.legacy⟩, trivial⟩
  | getKey id =>
      obtain ⟨rfl, rfl⟩ := Prod.mk.inj (Option.some.inj ha)
      cases id with
      | keyId circleId epoch => exact ⟨⟨hwrap, h⟩, trivial⟩
      | bare circleId => exact ⟨⟨hwrap, h⟩, h.bare circleId⟩
  | putKey id key =>
      obtain ⟨-, rfl⟩ := Prod.mk.inj (Option.some.inj ha)
      cases id with
      | keyId circleId epoch =>
          obtain rfl : key = keys circleId epoch := hemits
          exact ⟨⟨hwrap, h.putKey circleId epoch⟩, trivial⟩
      | bare circleId => exact hemits.elim
  | deleteKey id =>
      obtain ⟨-, rfl⟩ := Prod.mk.inj (Option.some.inj ha)
      exact ⟨⟨hwrap, h.deleteKey id⟩, trivial⟩
  | getLegacy circleId =>
      obtain ⟨rfl, rfl⟩ := Prod.mk.inj (Option.some.inj ha)
      exact ⟨⟨hwrap, h⟩, h.legacy circleId⟩
  | removeLegacy circleId =>
      obtain ⟨-, rfl⟩ := Prod.mk.inj (Option.some.inj ha)
      exact ⟨⟨hwrap, h.removeLegacy circleId⟩, trivial⟩
  | _ => exact hemits.elim

/-- A part of a call keeps to the keys of their places, and what it ends with is as said. -/
def Keeps (text : PayloadText) (keys : Uuid → ℕ → Bytes) (wrapKey : Option WrapKey) (locks : Bool)
    {α : Type} (t : OriginM α) (Q : α → Prop) : Prop :=
  ∀ n i, Does (keyDiscipline text keys wrapKey) (fun n _ => perform locks n) n i (fun _ => True) t
    fun a _ => Q a

variable {locks : Bool} {α β : Type}

/-- What an operation does that may have failed. -/
theorem perform_held {n : ℕ} (op : Op) (hemits : Emits text keys wrapKey op) {x : Fate}
    {r : Option op.Ans} {s s' : Origin} (h : (keyDiscipline text keys wrapKey).Inv s)
    (hperform : perform locks n op x s = some (r, s')) :
    (keyDiscipline text keys wrapKey).Inv s' ∧ ∀ a, r = some a → Answers text keys wrapKey op a := by
  rcases perform_cases hperform with ⟨-, -, rfl, rfl⟩ | ⟨a, ha, rfl, -⟩
  · exact ⟨h, nofun⟩
  · obtain ⟨hinv, hanswers⟩ := answer_held hemits h.1 h.2 ha
    exact ⟨hinv, fun a' ha' => Option.some.inj ha' ▸ hanswers⟩

/-- **One operation** keeps to the keys if what it writes does. -/
theorem keeps_op (op : Op) (hemits : Emits text keys wrapKey op) :
    Keeps text keys wrapKey locks (Task.attempt op) (Answers text keys wrapKey op) :=
  fun _ _ => does_attempt (fun _ _ _ h => h) (fun _ _ _ _ h => h) fun _ _ _ _ hinv _ _ hperform =>
    have hdone := perform_held op hemits hinv hperform
    ⟨⟨hdone.1, fun _ _ => trivial, trivial⟩, hdone.2⟩

theorem keeps_pure {Q : α → Prop} {a : α} (h : Q a) :
    Keeps text keys wrapKey locks (pure a : OriginM α) Q :=
  fun _ _ => does_pure (fun _ _ _ => h) fun _ _ _ h => h

/-- A part that throws. -/
theorem keeps_failure {Q : α → Prop} : Keeps text keys wrapKey locks (failure : OriginM α) Q :=
  fun _ _ => does_option (o := none) nofun fun _ _ _ _ h => h

/-- A part that has come to something, or throws. -/
theorem keeps_option {Q : α → Prop} {o : Option α} (h : ∀ a, o = some a → Q a) :
    Keeps text keys wrapKey locks (OptionT.mk (pure o) : OriginM α) Q :=
  fun _ _ => does_option (fun a _ ha _ _ => h a ha) fun _ _ _ _ h => h

/-- **One part after the other.** -/
theorem Keeps.bind {P : β → Prop} {Q : α → Prop} {t : OriginM β} {f : β → OriginM α}
    (h : Keeps text keys wrapKey locks t P) (hf : ∀ b, P b → Keeps text keys wrapKey locks (f b) Q) :
    Keeps text keys wrapKey locks (t >>= f) Q :=
  fun n i => (h n i).bind fun b s hinv hown hb => hf b hb n i s hinv hown trivial

/-- What is known of the end may be less. -/
theorem Keeps.mono {P Q : α → Prop} {t : OriginM α} (h : Keeps text keys wrapKey locks t P)
    (hPQ : ∀ a, P a → Q a) : Keeps text keys wrapKey locks t Q :=
  fun n i => (h n i).mono (fun _ _ h => h) fun a _ _ => hPQ a

/-- **What runs under the lock** keeps to the keys if it does without. -/
theorem keeps_withInitLock {Q : α → Prop} {fn : OriginM α} (h : Keeps text keys wrapKey locks fn Q) :
    Keeps text keys wrapKey locks (withInitLock fn) Q := by
  refine Keeps.bind (keeps_op _ trivial) fun _ _ n i s hinv hown _ => ?_
  refine Safe.bind hinv hown (h n i s hinv hown trivial) fun b s _ _ hb => ?_
  -- The lock is released, and what the part came to is returned.
  intro s₁ hinv₁ _ _ x r s₂ _ hperform
  obtain ⟨hinv₂, -⟩ := perform_held .unlock trivial hinv₁ hperform
  exact ⟨⟨hinv₂, fun _ _ => trivial, trivial⟩, fun _ _ _ _ => hb⟩

/-! ### The vault -/

/-- What a read of the vault finds: nothing, or a payload with the keys of their places, under the
wrapping key there is. -/
def Found (keys : Uuid → ℕ → Bytes) (wrapKey : Option WrapKey) (v : Option VaultPayload) : Prop :=
  HoldsOnly keys v ∧ (v ≠ none → wrapKey ≠ none)

theorem keeps_readVault : Keeps text keys wrapKey locks (Tasks.readVault text)
    (Found keys wrapKey) := by
  refine Keeps.bind (keeps_op .getWrapKey trivial) fun key hkey => ?_
  refine Keeps.bind (keeps_op .getRecord trivial) fun rec hrec => ?_
  obtain rfl : key = wrapKey := hkey
  obtain ⟨b, hb, hopen⟩ := Tasks.openRecord_cases text key rec
  have hfound : ∀ v, b = some v → Found keys key v := by
    rintro v rfl
    obtain rfl : v = Device.vault text { wrapKey := key, record := rec } := hb
    refine ⟨hrec, fun hsome hnone => hsome ?_⟩
    exact vault_of_no_key text hnone
  rcases hopen with hopen | hopen
  · intro n i s hinv hown _
    rw [hopen]
    exact keeps_option (o := b) hfound n i s hinv hown trivial
  · rw [hopen]
    exact Keeps.bind (keeps_op _ trivial) fun _ _ => keeps_option hfound

/-- **A read of the vault** finds no other keys. -/
theorem keeps_loadVault : Keeps text keys wrapKey locks (Tasks.loadVault text)
    (Found keys wrapKey) := by
  intro n i s hinv hown _
  refine Safe.bind hinv hown (keeps_readVault n i s hinv hown trivial) fun b s _ _ hb => ?_
  intro _ _ _ _ v hv
  obtain rfl := Option.some.inj hv
  cases b with
  | none => exact ⟨nofun, fun h => absurd rfl h⟩
  | some v => exact hb v rfl

/-- **Saving a payload** with the keys of their places keeps to them. -/
theorem keeps_saveVaultUnlocked {payload : VaultPayload} (hwrap : wrapKey ≠ none)
    (hpayload : HoldsOnly keys (some payload)) :
    Keeps text keys wrapKey locks (Tasks.saveVaultUnlocked text payload) fun _ => True := by
  have hkey : Keeps text keys wrapKey locks Tasks.getOrCreateWrapKey
      fun key => wrapKey = some key := by
    refine Keeps.bind (keeps_op .getWrapKey trivial) fun existing hexisting => ?_
    obtain rfl : existing = wrapKey := hexisting
    cases existing with
    | none => exact absurd rfl hwrap
    | some key => exact keeps_pure rfl
  refine Keeps.bind hkey fun key hkey => ?_
  refine Keeps.bind (keeps_op _ trivial) fun _ _ => ?_
  refine (keeps_op _ ?_).mono fun _ _ => trivial
  change HoldsOnly keys (Device.vault text { wrapKey, record := some _ })
  rw [vault_sealed text hkey rfl]
  exact hpayload

/-- **Changing the circles** keeps to the keys if the change does. -/
theorem keeps_updateCircles {change : List VaultCircle → List VaultCircle}
    (hchange : ∀ v : VaultPayload, HoldsOnly keys (some v) →
      HoldsOnly keys (some { identitySk := v.identitySk, circles := change v.circles })) :
    Keeps text keys wrapKey locks (Tasks.updateCircles text change) fun _ => True := by
  refine Keeps.bind keeps_loadVault fun v hv => ?_
  cases v with
  | none => exact keeps_pure trivial
  | some v => exact keeps_saveVaultUnlocked (hv.2 (Option.some_ne_none v)) (hchange v hv.1)

/-- **Adding the key of a place** keeps to the keys. -/
theorem keeps_upsertCircleKey (circleId : Uuid) (epoch : ℕ) :
    Keeps text keys wrapKey locks (Tasks.upsertCircleKey text circleId (keys circleId epoch) epoch)
      fun _ => True := by
  refine keeps_withInitLock (keeps_updateCircles fun v hv id e key hkey => ?_)
  have hadd := circleKey?_add v v.identitySk circleId id (keys circleId epoch) epoch e
  have hfound := hadd.symm.trans hkey
  split_ifs at hfound with hplace
  · obtain ⟨rfl, rfl⟩ := hplace
    exact (Option.some.inj hfound).symm
  · exact hv id e key hfound

/-- What is left of the circles of a payload, by their circle and epoch, has the keys it had. -/
theorem circleKey?_filter {p : VaultCircle → Bool} (hp : ∀ c c' : VaultCircle, c.id = c'.id →
      c.epoch = c'.epoch → p c = p c') {v : VaultPayload} {id : Uuid} {e : ℕ} {key : Bytes}
    (h : VaultPayload.circleKey? { identitySk := v.identitySk, circles := v.circles.filter p } id e =
      some key) : v.circleKey? id e = some key := by
  unfold VaultPayload.circleKey? at h ⊢
  rw [List.find?_filter] at h
  obtain ⟨c, hc, -⟩ := Option.map_eq_some_iff.1 h
  have hfound := List.find?_some hc
  obtain ⟨hpc, hat⟩ := of_decide_eq_true hfound
  obtain ⟨hid, he⟩ := of_decide_eq_true hat
  have hsame : (fun c' : VaultCircle => decide (p c' = true ∧ c'.isAt id e = true)) =
      fun c' => c'.isAt id e := by
    funext c'
    rw [Bool.eq_iff_iff, decide_eq_true_iff, and_iff_right_iff_imp]
    intro hat'
    obtain ⟨hid', he'⟩ := of_decide_eq_true hat'
    rw [hp c' c (hid'.trans hid.symm) (he'.trans he.symm)]
    exact hpc
  rwa [hsame] at h

/-- **Removing a circle's keys** keeps to the keys. -/
theorem keeps_removeVaultCircle (circleId : Uuid) (epoch : Option ℕ) :
    Keeps text keys wrapKey locks (Tasks.removeVaultCircle text circleId epoch) fun _ => True := by
  refine keeps_withInitLock (keeps_updateCircles fun v hv id e key hkey => hv id e key ?_)
  cases epoch with
  | none => exact circleKey?_filter (fun c c' hid _ => by rw [hid]) hkey
  | some epoch =>
      refine circleKey?_filter (fun c c' hid he => ?_) hkey
      unfold VaultCircle.isAt
      rw [hid, he]

/-! ### The calls -/

theorem keeps_importKey (rawKey : Bytes) :
    Keeps text keys wrapKey locks (importKey rawKey) fun _ => True := by
  refine Keeps.bind (keeps_op _ trivial) fun _ _ => ?_
  split_ifs
  · exact keeps_pure trivial
  · exact keeps_failure

/-- **Saving the key of a place** in both stores keeps to the keys. -/
theorem keeps_saveCircleKeyWithBackup (circleId : Uuid) (epoch : ℕ) :
    Keeps text keys wrapKey locks
      (saveCircleKeyWithBackup text circleId (keys circleId epoch) epoch) fun _ => True := by
  refine Keeps.bind (keeps_importKey _) fun _ _ => ?_
  refine Keeps.bind (keeps_op _ rfl) fun _ _ => ?_
  refine Keeps.bind (keeps_op _ trivial) fun _ _ => ?_
  exact keeps_upsertCircleKey circleId epoch

theorem keeps_rotateCircleKey (circleId : Uuid) (nextEpoch : ℕ) :
    Keeps text keys wrapKey locks
      (rotateCircleKey text circleId nextEpoch (keys circleId nextEpoch)) fun _ => True := by
  refine Keeps.bind (keeps_op _ trivial) fun _ _ => ?_
  refine Keeps.bind (keeps_op _ trivial) fun _ _ => ?_
  refine Keeps.bind (keeps_saveCircleKeyWithBackup circleId nextEpoch) fun _ _ => ?_
  exact keeps_pure trivial

/-- **Unwrapping** keeps to the keys if what the event opens to does. -/
theorem keeps_unwrapNip44CircleKey {lib : Libraries} {circleId : Uuid} {ownerPubkey : Pubkey}
    {event : RawEvent} {minted : Bytes}
    (h : (Call.unwrapNip44CircleKey circleId ownerPubkey event minted).Saves lib keys) :
    Keeps text keys wrapKey locks
      (unwrapNip44CircleKey text lib circleId ownerPubkey event minted) fun _ => True := by
  refine Keeps.bind (keeps_op (.getCachedKeypair minted) trivial) fun secretKey _ => ?_
  cases hunwrap : lib.unwrap secretKey circleId ownerPubkey event with
  | none => exact keeps_failure
  | some opened =>
      obtain ⟨rawKey, epoch⟩ := opened
      obtain rfl : rawKey = keys circleId epoch := h secretKey rawKey epoch hunwrap
      exact Keeps.bind (keeps_saveCircleKeyWithBackup circleId epoch) fun _ _ => keeps_pure trivial

/-- **Loading** keeps to the keys: what was there before there were epochs goes to the first. -/
theorem keeps_loadCircleKey (circleId : Uuid) (epoch : ℕ) :
    Keeps text keys wrapKey locks (loadCircleKey text circleId epoch) fun _ => True := by
  have hmigrate : ∀ raw : Option Bytes, (∀ k, raw = some k → k = keys circleId 1) →
      Keeps text keys wrapKey locks (migrate text circleId raw) fun _ => True := by
    intro raw hraw
    cases raw with
    | none => exact keeps_failure
    | some raw =>
        obtain rfl := hraw raw rfl
        refine Keeps.bind (keeps_importKey _) fun _ _ => ?_
        refine Keeps.bind (keeps_op _ rfl) fun _ _ => ?_
        refine Keeps.bind (keeps_upsertCircleKey circleId 1) fun _ _ => ?_
        exact Keeps.bind (keeps_op _ trivial) fun _ _ => keeps_pure trivial
  have hstored : Keeps text keys wrapKey locks (loadStored text circleId epoch) fun _ => True := by
    refine Keeps.bind (keeps_op (.getLegacy circleId) trivial) fun b64 hb64 => ?_
    cases b64 with
    | none => exact keeps_pure trivial
    | some raw =>
        dsimp only
        split_ifs
        · exact hmigrate raw fun k hk => hb64 k (congrArg some hk)
        · exact keeps_pure trivial
  have hlegacy : Keeps text keys wrapKey locks (loadLegacy text circleId epoch) fun _ => True := by
    unfold loadLegacy
    split_ifs
    · refine Keeps.bind (keeps_op (.getKey (.bare circleId)) trivial) fun legacy hkey => ?_
      cases legacy with
      | none => exact hstored
      | some key =>
          obtain rfl := hkey key rfl
          refine Keeps.bind (keeps_op _ rfl) fun _ _ => ?_
          exact Keeps.bind (keeps_op _ trivial) fun _ _ => keeps_pure trivial
    · exact hstored
  refine Keeps.bind (keeps_op (.getKey (.keyId circleId epoch)) trivial) fun existing _ => ?_
  cases existing with
  | none => exact hlegacy
  | some key => exact keeps_pure trivial

theorem keeps_deleteKeys (circleId : Uuid) (epochs : List ℕ) :
    Keeps text keys wrapKey locks (deleteKeys circleId epochs) fun _ => True := by
  induction epochs with
  | nil => exact keeps_pure trivial
  | cons e es ih => exact Keeps.bind (keeps_op _ trivial) fun _ _ => ih

theorem keeps_clearCircleKey (circleId : Uuid) (epoch : Option ℕ) :
    Keeps text keys wrapKey locks (clearCircleKey text circleId epoch) fun _ => True := by
  cases epoch with
  | none =>
      refine Keeps.bind (keeps_deleteKeys circleId _) fun _ _ => ?_
      refine Keeps.bind (keeps_op _ trivial) fun _ _ => ?_
      refine Keeps.bind (keeps_op _ trivial) fun _ _ => ?_
      exact keeps_removeVaultCircle circleId none
  | some epoch =>
      refine Keeps.bind (keeps_op _ trivial) fun _ _ => ?_
      refine Keeps.bind (keeps_op _ trivial) fun _ _ => ?_
      exact keeps_removeVaultCircle circleId (some epoch)

theorem keeps_purgeKeys (circleId : Uuid) (epochs : List ℕ) :
    Keeps text keys wrapKey locks (purgeKeys text circleId epochs) fun _ => True := by
  induction epochs with
  | nil => exact keeps_pure trivial
  | cons e es ih =>
      refine Keeps.bind (keeps_op _ trivial) fun _ _ => ?_
      exact Keeps.bind (keeps_removeVaultCircle circleId (some e)) fun _ _ => ih

/-- **Every call that saves the key of its place is safe where it begins.** -/
theorem starts {lib : Libraries} {c : Call} (hsaves : c.Saves lib keys) {n : ℕ} {s : Origin}
    (h : (keyDiscipline text keys wrapKey).Inv s) :
    Safe (keyDiscipline text keys wrapKey) (system text lib locks).perform n (c, s) (fun _ _ => True)
      ((system text lib locks).body c) s := by
  have hsettled : ∀ {β : Type} {fn : OriginM β}, Keeps text keys wrapKey locks fn (fun _ => True) →
      Safe (keyDiscipline text keys wrapKey) (system text lib locks).perform n (c, s)
        (fun _ _ => True) (settled fn) s := by
    intro β fn hfn
    have hcall : Keeps text keys wrapKey locks (do let _ ← fn; pure () : OriginM Unit) fun _ => True :=
      Keeps.bind hfn fun _ _ => keeps_pure trivial
    exact (hcall n (c, s) s h trivial trivial).mono fun _ _ _ _ => trivial
  cases c with
  | saveCircleKeyWithBackup circleId rawKey epoch =>
      obtain rfl : rawKey = keys circleId epoch := hsaves
      exact hsettled (keeps_saveCircleKeyWithBackup circleId epoch)
  | rotateCircleKey circleId nextEpoch fresh =>
      obtain rfl : fresh = keys circleId nextEpoch := hsaves
      exact hsettled (keeps_rotateCircleKey circleId nextEpoch)
  | unwrapNip44CircleKey circleId ownerPubkey event minted =>
      exact hsettled (keeps_unwrapNip44CircleKey hsaves)
  | loadCircleKey circleId epoch => exact hsettled (keeps_loadCircleKey circleId epoch)
  | clearCircleKey circleId epoch => exact hsettled (keeps_clearCircleKey circleId epoch)
  | purgeCircleKeyEpochs circleId currentEpoch => exact hsettled (keeps_purgeKeys circleId _)

/-! ### When the stores agree -/

/-- Where the stores hold the keys of their places, they agree. -/
theorem HeldBy.agrees {s : Origin} (h : HeldBy text keys s) : Agrees text s :=
  fun circleId epoch key key' hlive hvault =>
    (h.vault circleId epoch key' hvault).trans (h.live circleId epoch key hlive).symm

/-- **A stretch keeps the keys of their places** in both stores, in every state. -/
theorem held_events {lib : Libraries}
    {p : Pool Origin Call Op (fun op => Option op.Ans) (Option Unit)} (hsettled : p.Settled)
    (hheld : HeldBy text keys p.store) {as : List (Act Call Fate)}
    (hcalls : ∀ c, .start c ∈ as → c.Saves lib keys) :
    HeldBy text keys (run (step (system text lib locks)) p as).store ∧
      ∀ e ∈ events (step (system text lib locks)) p as, HeldBy text keys e.post.store := by
  have hsound : Sound (keyDiscipline text keys p.store.device.wrapKey) (system text lib locks)
      (fun _ _ _ _ => True) p := by
    refine ⟨⟨rfl, hheld⟩, fun _ _ => trivial, fun _ _ _ => trivial, fun n t ht => ?_⟩
    obtain ⟨a, ha⟩ := hsettled t (List.mem_of_getElem? ht)
    rw [ha]
    exact fun _ _ _ _ => trivial
  generalize p.store.device.wrapKey = wrapKey at hsound
  have hstep : ∀ {q : Pool Origin Call Op (fun op => Option op.Ans) (Option Unit)}
      {a : Act Call Fate}, (∀ c, .start c = a → c.Saves lib keys) →
      Sound (keyDiscipline text keys wrapKey) (system text lib locks) (fun _ _ _ _ => True) q →
      Sound (keyDiscipline text keys wrapKey) (system text lib locks) (fun _ _ _ _ => True)
        (step (system text lib locks) q a) := by
    intro q a ha hq
    cases a with
    | start c => exact sound_start hq trivial (starts (ha c rfl) hq.inv)
    | resume n x => exact (sound_resume hq fun _ _ => trivial).1
  clear hsettled hheld
  induction as generalizing p with
  | nil => exact ⟨hsound.inv.2, fun e he => absurd he List.not_mem_nil⟩
  | cons a as ih =>
      have hnext := hstep (fun c hc => hcalls c (hc ▸ List.mem_cons_self)) hsound
      obtain ⟨hend, hevents⟩ := ih (fun c hc => hcalls c (List.mem_cons_of_mem a hc)) hnext
      refine ⟨hend, fun e he => ?_⟩
      rw [events_cons, List.mem_cons] at he
      rcases he with rfl | he
      · exact hnext.inv.2
      · exact hevents e he

/-- **The two stores of circle keys agree** in every state of a run in which one key is saved at a
time: any number of calls in any number of tabs, any interleaving and any failures, with web locks and
without them. -/
theorem stores_agree {lib : Libraries} {s : Origin} {as : List (Act Call Fate)}
    (h : OneKey text lib locks (Pool.init s) as) :
    ∀ e ∈ events (step (system text lib locks)) (Pool.init s) as, Agrees text e.post.store := by
  generalize (Pool.init s : Pool Origin Call Op (fun op => Option op.Ans) (Option Unit)) = p at h
  induction h with
  | done p => exact fun e he => absurd he List.not_mem_nil
  | stretch keys settled held calls _ ih =>
      intro e he
      rw [events_append, List.mem_append] at he
      rcases he with he | he
      · exact ((held_events settled held calls).2 e he).agrees
      · exact ih e he

/-- Where no key is held of a place, another may be its key. -/
theorem HeldBy.rekey {s : Origin} (h : HeldBy text keys s) {circleId : Uuid} {epoch : ℕ} (key : Bytes)
    (hlive : s.live (.keyId circleId epoch) = none)
    (hvault : s.device.circleKey? text circleId epoch = none) (hepoch : epoch ≠ 1) :
    HeldBy text (Function.update keys circleId (Function.update (keys circleId) epoch key)) s := by
  have hother : ∀ id e k, k = keys id e → ¬ (id = circleId ∧ e = epoch) →
      k = Function.update keys circleId (Function.update (keys circleId) epoch key) id e := by
    rintro id e k rfl hne
    by_cases hid : id = circleId
    · subst hid
      rw [Function.update_self, Function.update_of_ne fun he => hne ⟨rfl, he⟩]
    · rw [Function.update_of_ne hid]
  refine ⟨fun id e k hk => hother id e k (h.vault id e k hk) ?_,
    fun id e k hk => hother id e k (h.live id e k hk) ?_,
    fun id k hk => hother id 1 k (h.bare id k hk) fun hne => hepoch hne.2.symm,
    fun id k hk => hother id 1 k (h.legacy id k hk) fun hne => hepoch hne.2.symm⟩
  · rintro ⟨rfl, rfl⟩
    exact nomatch hvault.symm.trans hk
  · rintro ⟨rfl, rfl⟩
    exact nomatch hlive.symm.trans hk

/-! ### Two tabs -/

/-- A key of so many equal bytes. -/
def demoKey (b : UInt8) : Bytes := List.replicate 32 b

/-- The vault with a key of the second epoch. -/
def demoPayload (b : UInt8) : VaultPayload :=
  { identitySk := [7], circles := [{ id := "c", key := demoKey b, epoch := 2 }] }

/-- The payloads that occur, as so many bytes. -/
def demoText : PayloadText where
  encode p := List.replicate (EpochKeys.demoCode
    [{ identitySk := [7], circles := [] }, demoPayload 1, demoPayload 2] p) 0
  decode b := EpochKeys.demoUncode
    [{ identitySk := [7], circles := [] }, demoPayload 1, demoPayload 2] b.length
  decode_encode p := by rw [List.length_replicate, EpochKeys.demoUncode_demoCode]

/-- Libraries that open nothing. -/
def demoLibraries : Libraries where
  publicKey _ := ""
  verifyEvent _ := false
  decrypt _ _ _ := none
  parse _ := none
  atob _ := none

/-- A device with an identity and no circle keys. -/
def demoOrigin : Origin :=
  { device :=
      { wrapKey := some 0
        record := some { version := vaultVersion, blob := some (sealBlob 0 []) }
        nextKey := 1 } }

/-- A call goes on. -/
def goOn (times n : ℕ) : List (Act Call Fate) := List.replicate times (.resume n .succeeds)

/-- A key is rotated, saved once more from another tab meanwhile, and cleared. -/
def demoFirst : List (Act Call Fate) :=
  .start (.rotateCircleKey "c" 2 (demoKey 1)) :: goOn 6 0 ++
    .start (.saveCircleKeyWithBackup "c" (demoKey 1) 2) :: goOn 3 1 ++ goOn 8 0 ++ goOn 8 1 ++
    .start (.clearCircleKey "c" (some 2)) :: goOn 10 2

/-- Another key is rotated at the same epoch, and loaded meanwhile. -/
def demoSecond : List (Act Call Fate) :=
  .start (.rotateCircleKey "c" 2 (demoKey 2)) :: goOn 5 3 ++
    .start (.loadCircleKey "c" 2) :: goOn 1 4 ++ goOn 8 3

theorem held_demoOrigin : HeldBy demoText (fun _ _ => demoKey 1) demoOrigin where
  vault := by
    have hvault : demoOrigin.device.vault demoText = some { identitySk := [7], circles := [] } := by
      decide
    rw [hvault]
    exact nofun
  live := nofun
  bare := nofun
  legacy := nofun

/-- The starts of two stretches. -/
theorem saves_demo : (∀ c, .start c ∈ demoFirst → c.Saves demoLibraries fun _ _ => demoKey 1) ∧
    ∀ c, .start c ∈ demoSecond → c.Saves demoLibraries
      (Function.update (fun _ _ => demoKey 1) "c" (Function.update (fun _ => demoKey 1) 2 (demoKey 2))) := by
  constructor
  · intro c hc
    simp only [demoFirst, goOn, List.mem_append, List.mem_cons, List.mem_replicate, List.cons_append,
      Act.start.injEq, reduceCtorEq, and_false, or_false, false_or] at hc
    rcases hc with rfl | rfl | rfl
    · rfl
    · rfl
    · trivial
  · intro c hc
    simp only [demoSecond, goOn, List.mem_append, List.mem_cons, List.mem_replicate, List.cons_append,
      Act.start.injEq, reduceCtorEq, and_false, or_false, false_or] at hc
    rcases hc with rfl | rfl
    · rfl
    · trivial

/-- **One key after the other**: the run of both stretches agrees all along, and the second key is the
live one at its end. -/
theorem stores_agree_demo :
    (∀ e ∈ events (step (system demoText demoLibraries true)) (Pool.init demoOrigin)
        (demoFirst ++ demoSecond), Agrees demoText e.post.store) ∧
      (run (step (system demoText demoLibraries true)) (Pool.init demoOrigin)
        (demoFirst ++ demoSecond)).store.live (.keyId "c" 2) = some (demoKey 2) := by
  obtain ⟨hfirst, hsecond⟩ := saves_demo
  obtain ⟨hsettled, hlive, hvault⟩ :
      (run (step (system demoText demoLibraries true)) (Pool.init demoOrigin) demoFirst).Settled ∧
      (run (step (system demoText demoLibraries true)) (Pool.init demoOrigin) demoFirst).store.live
        (.keyId "c" 2) = none ∧
      (run (step (system demoText demoLibraries true)) (Pool.init demoOrigin)
        demoFirst).store.device.circleKey? demoText "c" 2 = none := by decide +kernel
  have hheld : HeldBy demoText (fun _ _ => demoKey 1) (run (step (system demoText demoLibraries true))
      (Pool.init demoOrigin) demoFirst).store :=
    (held_events (settled_init _) held_demoOrigin hfirst).1
  have hone : OneKey demoText demoLibraries true (Pool.init demoOrigin)
      (demoFirst ++ (demoSecond ++ [])) :=
    .stretch _ (settled_init _) held_demoOrigin hfirst (.stretch _ hsettled
      (hheld.rekey (demoKey 2) hlive hvault (by decide)) hsecond (.done _))
  rw [List.append_nil] at hone
  exact ⟨stores_agree hone, by decide +kernel⟩

/-- Two tabs rotate the key at once: both put theirs into IndexedDB, and the first one is the last to
put it into the vault. -/
def rotateTwice : List (Act Call Fate) :=
  .start (.rotateCircleKey "c" 2 (demoKey 1)) :: goOn 5 0 ++
    .start (.rotateCircleKey "c" 2 (demoKey 2)) :: goOn 13 1 ++ goOn 8 0

/-- **Two rotations at once leave one key in each store**, where the vault is there, nothing fails and
both have ended: what is wrapped for the members is not what the owner encrypts with. -/
theorem stores_differ :
    ¬ ∀ (text : PayloadText) (lib : Libraries) (s : Origin) (as : List (Act Call Fate)),
      Agrees text s → s.device.vault text ≠ none → (∀ n x, .resume n x ∈ as → x = .succeeds) →
      (run (step (system text lib true)) (Pool.init s) as).Settled →
      Agrees text (run (step (system text lib true)) (Pool.init s) as).store := by
  intro h
  have hsucceeds : ∀ n x, Act.resume n x ∈ rotateTwice → x = .succeeds := by
    intro n x hx
    simp only [rotateTwice, goOn, List.mem_append, List.mem_cons, List.mem_replicate,
      List.cons_append] at hx
    grind
  have hagrees := h demoText demoLibraries demoOrigin rotateTwice held_demoOrigin.agrees
    (by decide) hsucceeds (by decide)
  have hlive : (run (step (system demoText demoLibraries true)) (Pool.init demoOrigin)
      rotateTwice).store.live (.keyId "c" 2) = some (demoKey 2) := by decide
  have hvault : (run (step (system demoText demoLibraries true)) (Pool.init demoOrigin)
      rotateTwice).store.device.circleKey? demoText "c" 2 = some (demoKey 1) := by decide
  exact absurd (hagrees "c" 2 _ _ hlive hvault) (by decide)

end CircleKeys
end Pwa
end SentinelMesh
