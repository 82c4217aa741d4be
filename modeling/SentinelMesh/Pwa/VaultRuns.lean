/-
# Vault operations are linearizable

Every call of `Pwa.VaultOrder` is safe under its discipline, operation by operation, and so a run in
which no record is deleted that a call under the lock is to write back from has the same outcome as
the calls one after the other (`vault_linearizable`).  In a run in which one is, the record is there
after `clearSecretKey` has returned and nothing writes any more (`cleared_comes_back`).
-/

import SentinelMesh.Pwa.VaultOrder

namespace SentinelMesh
namespace Pwa
namespace VaultOrder

open Lib Lib.Task Lib.Async

variable {text : PayloadText} {n : ℕ} {α : Type} {s₀ : Origin} {i : Call × Origin × Track}

/-! ### Saving -/

/-- A wrapping key was generated that is not yet kept: the one the call generates on its own. -/
structure Generated (n : ℕ) (key : WrapKey) (s : Origin × Track) : Prop where
  lock : s.1.lock = some n
  new : n ∉ s.2.line.order.threads
  none : s.2.line.abs.device.wrapKey = none
  key : key = s.2.line.abs.device.nextKey
  nextKey : s.1.device.nextKey = s.2.line.abs.device.nextKey + 1

theorem Generated.view {key : WrapKey} {s s' : Origin × Track} (h : Generated n key s)
    (hview : View n s s') : Generated n key s' := by
  have hheld := hview.inside h.lock
  refine ⟨hheld.lock, fun hmem => h.new (hview.others hmem), hheld.absWrapKey.trans h.none,
    h.key.trans hheld.absNextKey.symm, ?_⟩
  rw [hheld.nextKey, hheld.absNextKey]
  exact h.nextKey

/-- **Changing the keys of the device** under the lock is nothing the others count on. -/
theorem guarantees_keys {s : Origin × Track} {o : Origin} (hkept : Kept text s₀ s)
    (hlock : s.1.lock = some n) (hlock' : o.lock = some n)
    (hrecord : o.device.record = s.1.device.record) :
    (vaultDiscipline text s₀).Guarantees n i s (o, s.2) := by
  refine guarantees_inside ⟨hkept.legal, hkept.free, hrecord.trans hkept.record,
    fun hfree => (nomatch hlock'.symm.trans hfree), fun m hm => ?_⟩ hlock (Or.inl hlock') (Or.inl rfl)
  have hheld := hkept.borrowed m hm
  rw [hlock] at hheld
  exact hlock'.trans hheld

/-- **Getting or creating the wrapping key** finds the one the call seals under on its own. -/
theorem safe_getOrCreateWrapKey {β : Type} {Q : β → Origin × Track → Prop} {payload : VaultPayload}
    {s : Origin × Track} (hready : Ready n s) (hplans : Plans text n i.1 payload s)
    {k : Option WrapKey → OriginTask β}
    (hk : ∀ key s', Sealing n key s' → Plans text n i.1 payload s' →
      Goes text s₀ n i Q (k (some key)) s') :
    Goes text s₀ n i Q (Tasks.getOrCreateWrapKey.run >>= k) s := by
  refine safe_still .getWrapKey (fun s => ⟨_, rfl⟩) (fun _ _ _ => rfl) hready.lock
    fun a s₁ hview₁ _ ha => ?_
  obtain ⟨rfl, -⟩ := Prod.mk.inj (Option.some.inj ha)
  have hready₁ := hready.view hview₁
  have hplans₁ := hplans.view hready.lock hview₁
  cases hkey : s₁.1.device.wrapKey with
  | some key =>
      have habs : s₁.2.line.abs.device.wrapKey = some key := hready₁.wrapKey.symm.trans hkey
      refine hk key s₁ ⟨hready₁.lock, hready₁.new, ?_, hkey, ?_⟩ hplans₁
      · rw [habs]
        rfl
      · rw [habs]
        exact hready₁.nextKey
  | none =>
      intro s₂ hkept₂ _ hview₂ x r s₃ hcond hperform
      have hcond' : NotBorrowed n i.1 .generateKey x s₂ := hcond
      obtain ⟨key, hanswer, rfl, hseen⟩ := answered hcond' hperform
      obtain ⟨rfl, hstore⟩ := Prod.mk.inj (Option.some.inj hanswer)
      have hready₂ := hready₁.view hview₂
      have hplans₂ := hplans₁.view hready₁.lock hview₂
      have hs₃ : s₃ = ({ s₂.1 with device := { s₂.1.device with
          nextKey := s₂.1.device.nextKey + 1 } }, s₂.2) := Prod.ext hstore.symm hseen
      have hgenerated : Generated n s₂.1.device.nextKey s₃ := by
        rw [hs₃]
        refine ⟨hready₂.lock, hready₂.new, ?_, hready₂.nextKey, congrArg (· + 1) hready₂.nextKey⟩
        rw [(hview₂.inside hready₁.lock).absWrapKey, ← hready₁.wrapKey]
        exact hkey
      have hplans₃ : Plans text n i.1 payload s₃ := by
        rw [hs₃]
        exact ⟨hplans₂.writes, hplans₂.stays⟩
      refine ⟨by rw [hs₃]; exact guarantees_keys hkept₂ hready₂.lock hready₂.lock rfl, ?_⟩
      intro s₄ hkept₄ _ hview₄ x r s₅ hcond hperform
      have hcond' : NotBorrowed n i.1 (.putWrapKey s₂.1.device.nextKey) x s₄ := hcond
      obtain ⟨_, hanswer, rfl, hseen⟩ := answered hcond' hperform
      obtain ⟨-, hstore⟩ := Prod.mk.inj (Option.some.inj hanswer)
      have hgenerated₄ := hgenerated.view hview₄
      have hplans₄ := hplans₃.view hgenerated.lock hview₄
      have hs₅ : s₅ = ({ s₄.1 with device := { s₄.1.device with
          wrapKey := some s₂.1.device.nextKey } }, s₄.2) := Prod.ext hstore.symm hseen
      refine ⟨by rw [hs₅]; exact guarantees_keys hkept₄ hgenerated₄.lock hgenerated₄.lock rfl,
        hk _ s₅ ?_ ?_⟩
      · rw [hs₅]
        refine ⟨hgenerated₄.lock, hgenerated₄.new, ?_, rfl, ?_⟩
        · change _ = s₄.2.line.abs.device.wrapKey.getD s₄.2.line.abs.device.nextKey
          rw [hgenerated₄.none]
          exact hgenerated₄.key
        · change s₄.1.device.nextKey = if s₄.2.line.abs.device.wrapKey.isSome then _ else _
          rw [hgenerated₄.none]
          exact hgenerated₄.nextKey
      · rw [hs₅]
        exact ⟨hplans₄.writes, hplans₄.stays⟩

/-- **Saving what a call plans** is where it takes effect. -/
theorem safe_saveVaultUnlocked {β : Type} {Q : β → Origin × Track → Prop} {payload : VaultPayload}
    {a : Option Bytes} {s : Origin × Track} (hcall : i.1 ≠ .clearSecretKey) (hready : Ready n s)
    (hplans : Plans text n i.1 payload s)
    (ha : ∀ v, i.1.writes v = some payload → i.1.returns v = a)
    {k : Option Unit → OriginTask β}
    (hk : ∀ s', Written text n i.1 a payload s' →
      Goes text s₀ n i Q (k (some ())) s') :
    Goes text s₀ n i Q ((Tasks.saveVaultUnlocked text payload).run >>= k) s := by
  change Safe _ _ n i Q ((Tasks.getOrCreateWrapKey.run >>= _) >>= k) s
  rw [Task.bind_assoc]
  refine safe_getOrCreateWrapKey hready hplans fun key s₁ hsealing hplans₁ => ?_
  refine safe_still .webCrypto (fun s => ⟨_, rfl⟩) (fun _ _ _ => rfl) hsealing.lock
    fun _ s₂ hview _ _ => ?_
  exact safe_putRecord hcall (hsealing.view hview) (hplans₁.view hsealing.lock hview) ha hk

/-- **Changing the circles of a vault** takes effect, on what was read. -/
theorem safe_updateCircles {β : Type} {Q : β → Origin × Track → Prop} {s : Origin × Track}
    {change : List VaultCircle → List VaultCircle} (hcall : i.1 ≠ .clearSecretKey)
    (hwrites : ∀ v : Option VaultPayload, i.1.writes v = v.map fun v =>
      { identitySk := v.identitySk, circles := change v.circles })
    (hreturns : ∀ v, i.1.returns v = none) (hready : Ready n s)
    {k : Option Unit → OriginTask β}
    (hk : ∀ s', Done n i.1 none s' →
      Goes text s₀ n i Q (k (some ())) s') :
    Goes text s₀ n i Q ((Tasks.updateCircles text change).run >>= k) s := by
  change Safe _ _ n i Q (((Tasks.loadVault text).run >>= _) >>= k) s
  rw [Task.bind_assoc]
  refine safe_loadVault_first hcall hready fun v s₁ hdecided => ?_
  unfold Decided at hdecided
  rw [hwrites, hreturns] at hdecided
  cases v with
  | none => exact hk s₁ hdecided
  | some v =>
      obtain ⟨hready₁, hplans⟩ := hdecided
      exact safe_saveVaultUnlocked hcall hready₁ hplans (fun v _ => hreturns v)
        fun s₂ hwritten => hk s₂ hwritten.toDone

/-- **Saving a key** takes effect, on what was read. -/
theorem safe_saveSecretKeyUnlocked {β : Type} {Q : β → Origin × Track → Prop}
    {P : Option VaultPayload → Origin × Track → Prop} {sk : Bytes} {a : Option Bytes}
    {s : Origin × Track} (hcall : i.1 ≠ .clearSecretKey) (hlock : s.1.lock = some n)
    (hP : ∀ v s₁ s₂, P v s₁ → View n s₁ s₂ → P v s₂)
    (hread : ∀ s₁, Kept text s₀ s₁ → View n s s₁ →
      (vaultDiscipline text s₀).Guarantees n i s₁
          (s₁.1, record text n i.1 .getRecord .succeeds s₁.1 s₁.2) ∧
        P (s₁.1.device.vault text) (s₁.1, record text n i.1 .getRecord .succeeds s₁.1 s₁.2))
    (hplans : ∀ v s₁, P v s₁ → Ready n s₁ ∧ Plans text n i.1
      { identitySk := sk, circles := (v.map VaultPayload.circles).getD [] } s₁)
    (ha : ∀ v payload, i.1.writes v = some payload → i.1.returns v = a)
    {k : Option Unit → OriginTask β}
    (hk : ∀ (v : Option VaultPayload) s', Written text n i.1 a
        { identitySk := sk, circles := (v.map VaultPayload.circles).getD [] } s' →
      Goes text s₀ n i Q (k (some ())) s') :
    Goes text s₀ n i Q ((Tasks.saveSecretKeyUnlocked text sk).run >>= k) s := by
  change Safe _ _ n i Q (((Tasks.loadVault text).run >>= _) >>= k) s
  rw [Task.bind_assoc]
  refine safe_loadVault hlock hP hread fun v s₁ hp => ?_
  obtain ⟨hready₁, hplans₁⟩ := hplans v s₁ hp
  exact safe_saveVaultUnlocked hcall hready₁ hplans₁ (fun v hw => ha v _ hw) (hk v)

/-- **Loading or creating a key**: what is read again is what was written, or nothing. -/
theorem safe_loadOrCreateUnlocked {β : Type} {Q : β → Origin × Track → Prop} {sk : Bytes}
    {s : Origin × Track} (hcall : i.1 = .loadOrCreateSecretKey sk) (hready : Ready n s)
    {k : Option Bytes → OriginTask β}
    (hk : ∀ key s', Done n i.1 (some key) s' →
      Goes text s₀ n i Q (k (some key)) s') :
    Goes text s₀ n i Q ((Tasks.loadOrCreateUnlocked text sk).run >>= k) s := by
  have hlocked : i.1 ≠ .clearSecretKey := by
    rw [hcall]
    nofun
  have hnone : ∀ v payload, i.1.writes v = some payload → v = none := by
    intro v payload hw
    rw [hcall] at hw
    cases v with
    | none => rfl
    | some v => exact nomatch hw
  change Safe _ _ n i Q (((Tasks.loadVault text).run >>= _) >>= k) s
  rw [Task.bind_assoc]
  refine safe_loadVault_first hlocked hready fun v s₁ hdecided => ?_
  unfold Decided at hdecided
  cases v with
  | some v =>
      rw [hcall] at hdecided
      refine hk v.identitySk s₁ ?_
      rw [hcall]
      exact hdecided
  | none =>
      have hplans : Ready n s₁ ∧ Plans text n i.1 { identitySk := sk, circles := [] } s₁ := by
        rw [hcall] at hdecided ⊢
        exact hdecided
      obtain ⟨hready₁, hplans₁⟩ := hplans
      change Safe _ _ n i Q (((Tasks.saveSecretKeyUnlocked text sk).run >>= _) >>= k) s₁
      rw [Task.bind_assoc]
      -- the second read finds no vault either: nobody else writes one
      refine safe_saveSecretKeyUnlocked (a := some sk) (P := fun v s => v = none ∧ Ready n s ∧
          Plans text n i.1 { identitySk := sk, circles := [] } s) hlocked hready₁.lock
        (fun v s₂ s₃ h hview => ⟨h.1, h.2.1.view hview, h.2.2.view h.2.1.lock hview⟩)
        (fun s₂ hkept hview => ?_) (fun v s₂ h => ?_) (fun v payload hw => ?_)
        fun v s₂ hwritten => ?_
      · have hready₂ := hready₁.view hview
        have hplans₂ := hplans₁.view hready₁.lock hview
        have hvault : s₂.1.device.vault text = none := by
          rw [← vault_abs hready₂.toKeys hkept]
          exact hnone _ _ hplans₂.writes
        obtain ⟨hguar, hdecided⟩ := decided_getRecord (i := i) hlocked hkept hready₂
        refine ⟨hguar, hvault, ?_⟩
        rw [hvault, Decided, hcall] at hdecided
        rw [hcall]
        exact hdecided
      · rw [h.1]
        exact h.2
      · rw [hnone v payload hw, hcall]
        rfl
      · change Safe _ _ n i Q (((Tasks.loadVault text).run >>= _) >>= k) s₂
        rw [Task.bind_assoc]
        refine safe_loadVault (P := fun u s => Done n i.1 (some sk) s ∧
            (u.map VaultPayload.identitySk).getD sk = sk) hwritten.lock
          (fun u s₃ s₄ h hview => ⟨h.1.view hview, h.2⟩) (fun s₃ hkept hview => ?_)
          fun u s₃ h => ?_
        · have hwritten₃ := hwritten.view hview
          have hsame : record text n i.1 .getRecord .succeeds s₃.1 s₃.2 = s₃.2 :=
            if_pos (List.mem_map_of_mem hwritten₃.mem)
          rw [hsame]
          refine ⟨guarantees_inside hkept hwritten₃.lock (Or.inl hwritten₃.lock) (Or.inl rfl),
            hwritten₃.toDone, ?_⟩
          rcases hwritten₃.holds with hholds | hrecord
          · rw [hholds]
            rfl
          · rw [vault_of_no_record text hrecord]
            rfl
        · have hend := hk sk s₃ h.1
          rw [← h.2] at hend
          exact hend

/-! ### The calls -/

/-- A call that has ended is in the line with what it returned, and does not hold the lock. -/
structure Shown (n : ℕ) (i : Call × Origin × Track) (a : Outcome) (s : Origin × Track) : Prop where
  mem : (n, i.1, a) ∈ s.2.line.order
  outside : s.1.lock ≠ some n

theorem Shown.view {a : Outcome} {s s' : Origin × Track} (h : Shown n i a s)
    (hview : View n s s') : Shown n i a s' :=
  ⟨hview.order.subset h.mem, hview.outside h.outside⟩

/-- **Releasing the lock** gives the others the keys of the line. -/
theorem safe_unlock {a : Option Bytes} {s : Origin × Track} (hdone : Done n i.1 a s) :
    Goes text s₀ n i (Shown n i) (.call .unlock fun _ => .done (some a)) s := by
  intro s₁ hkept _ hview x r s₂ hcond hperform
  have hcond' : NotBorrowed n i.1 .unlock x s₁ := hcond
  obtain ⟨_, hanswer, rfl, hseen⟩ := answered hcond' hperform
  obtain ⟨-, hstore⟩ := Prod.mk.inj (Option.some.inj hanswer)
  have hdone₁ := hdone.view hview
  have hs₂ : s₂ = ({ s₁.1 with lock := none }, { s₁.2 with borrowed := none }) :=
    Prod.ext hstore.symm hseen
  rw [hs₂]
  refine ⟨guarantees_inside ⟨hkept.legal, hkept.free, hkept.record,
      fun _ => ⟨hdone₁.wrapKey, hdone₁.nextKey⟩, nofun⟩ hdone₁.lock (Or.inr rfl) (Or.inl rfl), ?_⟩
  exact safe_done ⟨hdone₁.mem, nofun⟩ fun s₃ _ hrely h => Shown.view h hrely

/-- **A call under the lock** is safe if what it does there is: it takes effect. -/
theorem safe_withInitLock {β : Type} {fn : OriginM β} {k : Option β → OriginTask Outcome}
    {s : Origin × Track} (hnew : n ∉ s.2.line.order.threads)
    (hfn : ∀ s', Ready n s' → Goes text s₀ n i (Shown n i)
      (fn.run >>= fun b => .call .unlock fun _ => k b) s') :
    Goes text s₀ n i (Shown n i) ((withInitLock fn).run >>= k) s := by
  intro s₁ hkept _ hview x r s₂ hcond hperform
  have hcond' : NotBorrowed n i.1 .lock x s₁ := hcond
  obtain ⟨_, hanswer, rfl, hseen⟩ := answered hcond' hperform
  rcases answer_lock hanswer with ⟨hno, -⟩ | ⟨-, hfree, hstore⟩
  · exact nomatch hno
  · have hs₂ : s₂ = ({ s₁.1 with lock := some n }, s₁.2) := Prod.ext hstore hseen
    obtain ⟨hwrapKey, hnextKey⟩ := hkept.keys hfree
    have hready : Ready n s₂ := by
      rw [hs₂]
      exact ⟨⟨rfl, hwrapKey, hnextKey⟩, fun hmem => hnew (hview.others hmem)⟩
    refine ⟨?_, ?_⟩
    · rw [hs₂]
      refine ⟨⟨hkept.legal, hkept.free, hkept.record, nofun, fun m hm => ?_⟩, fun m hm =>
        ⟨List.prefix_refl _, fun h => h, fun _ => fun heq => hm (Option.some.inj heq).symm,
          fun h => (nomatch hfree.symm.trans h)⟩, trivial⟩
      exact nomatch hfree.symm.trans (hkept.borrowed m hm)
    · have hsafe := hfn s₂ hready
      change Safe _ _ n i _ ((fn.run >>= fun b => Task.await Op.unlock >>= fun _ => pure b) >>=
        k) s₂
      rw [Task.bind_assoc]
      exact hsafe

/-- **`clearSecretKey`** is safe, without the lock: it takes effect where it deletes the record. -/
theorem safe_clearSecretKey {s : Origin × Track} (hcall : i.1 = .clearSecretKey)
    (hnew : n ∉ s.2.line.order.threads) (hout : s.1.lock ≠ some n) :
    Goes text s₀ n i (Shown n i) ((system text).body .clearSecretKey) s := by
  intro s₁ hkept _ hview x r s₂ hcond hperform
  have hcond' : NotBorrowed n i.1 .deleteRecord x s₁ := hcond
  obtain ⟨_, hanswer, rfl, hseen⟩ := answered hcond' hperform
  obtain ⟨-, hstore⟩ := Prod.mk.inj (Option.some.inj hanswer)
  have hborrowed : s₁.2.borrowed = none := hcond'.2 rfl
  have hnew₁ : n ∉ s₁.2.line.order.threads := fun hmem => hnew (hview.others hmem)
  have halone : (system text).alone .succeeds n .clearSecretKey s₁.2.line.abs = _ :=
    alone_clearSecretKey s₁.2.line.abs
  have hlegal := hkept.legal.effect (c := .clearSecretKey) hnew₁
  rw [effect_of_alone halone] at hlegal
  have hs₂ : s₂ = ({ s₁.1 with device := { s₁.1.device with record := none } },
      { line :=
          { abs := { s₁.2.line.abs with
              device := { s₁.2.line.abs.device with record := none }, vaultMeta := none }
            order := s₁.2.line.order ++ [(n, i.1, some none)] }
        borrowed := s₁.2.borrowed }) := by
    refine Prod.ext hstore.symm (hseen.trans ?_)
    rw [hcall]
    change { s₁.2 with line := s₁.2.line.effect (system text) .succeeds n .clearSecretKey } = _
    rw [effect_of_alone halone]
  have hshown : Shown n i (some none) s₂ := by
    rw [hs₂]
    exact ⟨List.mem_append_right _ (List.mem_singleton_self _), hview.outside hout⟩
  refine ⟨?_, ?_⟩
  · rw [hs₂]
    refine ⟨⟨?_, hkept.free, rfl, hkept.keys, hkept.borrowed⟩, fun m hm => ⟨List.prefix_append _ _,
      fun h => ?_, fun h => h, fun h => ⟨h, rfl, rfl, rfl, rfl, rfl, Or.inr ⟨hborrowed, rfl, rfl⟩⟩⟩,
      trivial⟩
    · rw [hcall]
      exact hlegal
    · rw [Order.threads, List.map_append, List.mem_append] at h
      rcases h with h | h
      · exact h
      · exact absurd (List.mem_singleton.1 h) hm
  · intro s₃ hkept₃ _ hview₃ x r s₄ hcond hperform
    have hcond' : NotBorrowed n i.1 .deleteMeta x s₃ := hcond
    obtain ⟨_, hanswer, rfl, hseen⟩ := answered hcond' hperform
    obtain ⟨-, hstore⟩ := Prod.mk.inj (Option.some.inj hanswer)
    have hs₄ : s₄ = ({ s₃.1 with vaultMeta := none }, s₃.2) := Prod.ext hstore.symm hseen
    rw [hs₄]
    refine ⟨⟨⟨hkept₃.legal, hkept₃.free, hkept₃.record, hkept₃.keys, hkept₃.borrowed⟩, fun m _ =>
      ⟨List.prefix_refl _, fun h => h, fun h => h,
        fun h => ⟨h, rfl, rfl, rfl, rfl, rfl, Or.inl ⟨rfl, rfl⟩⟩⟩, trivial⟩, ?_⟩
    have hthen := hshown.view hview₃
    exact safe_done ⟨hthen.mem, hthen.outside⟩ fun s₅ _ hrely h => Shown.view h hrely

/-- **Every call is safe where it begins.** -/
theorem starts : (vaultDiscipline text s₀).Starts (tracked text) (fun n => Shown n) := by
  intro n c s _ ⟨hnew, hout⟩
  refine ⟨trivial, ?_⟩
  cases c with
  | saveVault payload =>
      change Safe _ _ n _ _ ((withInitLock (Tasks.saveVaultUnlocked text payload)).run >>= _) s
      have hlocked : Call.saveVault payload ≠ .clearSecretKey := nofun
      refine safe_withInitLock hnew fun s₁ hready => ?_
      exact safe_saveVaultUnlocked hlocked hready ⟨rfl, Or.inr rfl⟩ (fun _ _ => rfl)
        fun s₂ hwritten => safe_unlock hwritten.toDone
  | saveSecretKey sk =>
      change Safe _ _ n _ _ ((withInitLock (Tasks.saveSecretKeyUnlocked text sk)).run >>= _) s
      have hlocked : Call.saveSecretKey sk ≠ .clearSecretKey := nofun
      refine safe_withInitLock hnew fun s₁ hready => ?_
      exact safe_saveSecretKeyUnlocked (i := (.saveSecretKey sk, s))
        (P := Decided text n (.saveSecretKey sk)) hlocked hready.lock
        (fun v _ _ h hview => h.view hview)
        (fun _ hkept hview => decided_getRecord hlocked hkept (hready.view hview))
        (fun v s₂ h => h) (fun _ _ _ => rfl) fun v s₂ hwritten => safe_unlock hwritten.toDone
  | loadOrCreateSecretKey sk =>
      change Safe _ _ n _ _ ((withInitLock (Tasks.loadOrCreateUnlocked text sk)).run >>= _) s
      refine safe_withInitLock hnew fun s₁ hready => ?_
      exact safe_loadOrCreateUnlocked rfl hready fun key s₂ hdone => safe_unlock hdone
  | upsertCircleKey circleId rawKey epoch =>
      change Safe _ _ n _ _ ((withInitLock (Tasks.updateCircles text _)).run >>= _) s
      have hlocked : Call.upsertCircleKey circleId rawKey epoch ≠ .clearSecretKey := nofun
      refine safe_withInitLock hnew fun s₁ hready => ?_
      exact safe_updateCircles hlocked (fun _ => rfl) (fun _ => rfl) hready
        fun s₂ hdone => safe_unlock hdone
  | removeVaultCircle circleId epoch =>
      change Safe _ _ n _ _ ((withInitLock (Tasks.updateCircles text _)).run >>= _) s
      have hlocked : Call.removeVaultCircle circleId epoch ≠ .clearSecretKey := nofun
      refine safe_withInitLock hnew fun s₁ hready => ?_
      exact safe_updateCircles hlocked (fun _ => rfl) (fun _ => rfl) hready
        fun s₂ hdone => safe_unlock hdone
  | clearSecretKey => exact safe_clearSecretKey rfl hnew hout

/-! ### One call after the other -/

/-- The identity the vault holds. -/
def identity (text : PayloadText) (s : Origin) : Option Bytes :=
  (s.device.vault text).map VaultPayload.identitySk

/-- The call leaves an identity that is there. -/
def Call.KeepsIdentity : Call → Prop
  | .loadOrCreateSecretKey _ | .upsertCircleKey _ _ _ | .removeVaultCircle _ _ => True
  | _ => False

/-- **A call that keeps the identity** leaves the one that is there, and the one that loads it returns
the one it leaves. -/
theorem identity_after (text : PayloadText) {c : Call} (hc : c.KeepsIdentity) (s : Origin) :
    (∀ k, identity text s = some k → identity text (after text c s) = some k) ∧
      ∀ sk, c = .loadOrCreateSecretKey sk →
        ∃ k, c.returns (s.device.vault text) = some k ∧ identity text (after text c s) = some k := by
  have hstored : ∀ payload, identity text (stored text s payload) = some payload.identitySk :=
    fun payload => congrArg (Option.map VaultPayload.identitySk) (vault_stored text s.device payload)
  unfold after
  cases c with
  | loadOrCreateSecretKey sk =>
      cases hvault : s.device.vault text with
      | none =>
          refine ⟨fun k hk => ?_, fun sk' hsk => ⟨sk, rfl, hstored _⟩⟩
          rw [identity, hvault] at hk
          exact nomatch hk
      | some v =>
          refine ⟨fun k hk => hk, fun sk' hsk => ⟨v.identitySk, rfl, ?_⟩⟩
          change (s.device.vault text).map _ = _
          rw [hvault]
          rfl
  | upsertCircleKey circleId rawKey epoch =>
      refine ⟨fun k hk => ?_, nofun⟩
      cases hvault : s.device.vault text with
      | none => exact hk
      | some v =>
          rw [identity, hvault] at hk
          exact (hstored _).trans hk
  | removeVaultCircle circleId epoch =>
      refine ⟨fun k hk => ?_, nofun⟩
      cases hvault : s.device.vault text with
      | none => exact hk
      | some v =>
          rw [identity, hvault] at hk
          exact (hstored _).trans hk
  | saveVault payload => exact hc.elim
  | saveSecretKey sk => exact hc.elim
  | clearSecretKey => exact hc.elim

/-- A call leaves the lock free. -/
theorem lock_after (c : Call) (s : Origin) : (after text c s).lock = s.lock := by
  unfold after
  cases c.writes (s.device.vault text) <;> rfl

/-- What a call under the lock has done that has run on its own. -/
theorem locked_of_alone {c : Call} {m : ℕ} {a : Outcome} {s s₁ : Origin} (hc : c ≠ .clearSecretKey)
    (hfree : s.lock = none) (halone : (system text).alone .succeeds m c s = some (a, s₁)) :
    a = some (c.returns (s.device.vault text)) ∧ s₁ = after text c s :=
  Prod.mk.inj (Option.some.inj (halone.symm.trans (alone_of_locked hc hfree)))

/-- What `clearSecretKey` has done that has run on its own. -/
theorem cleared_of_alone {m : ℕ} {a : Outcome} {s s₁ : Origin}
    (halone : (system text).alone .succeeds m .clearSecretKey s = some (a, s₁)) :
    s₁ = { s with device := { s.device with record := none }, vaultMeta := none } :=
  (Prod.mk.inj (Option.some.inj (halone.symm.trans (alone_clearSecretKey s)))).2

/-- **Where an identity is only loaded, or created, all agree on it.** -/
theorem agree_of_sequentially {s s' : Origin} {order : Order Call Outcome} (hfree : s.lock = none)
    (h : (system text).Sequentially .succeeds s order s')
    (hkeeps : ∀ e ∈ order, e.2.1.KeepsIdentity) :
    (∀ k, identity text s = some k → identity text s' = some k) ∧
      ∀ m sk a, (m, .loadOrCreateSecretKey sk, a) ∈ order →
        ∃ k, a = some (some k) ∧ identity text s' = some k := by
  induction order generalizing s with
  | nil =>
      have hs : s' = s := h
      rw [hs]
      exact ⟨fun k hk => hk, fun m sk a hmem => nomatch hmem⟩
  | cons e order ih =>
      obtain ⟨m, c, a⟩ := e
      obtain ⟨s₁, halone, hrest⟩ := h
      have hc : c.KeepsIdentity := hkeeps _ List.mem_cons_self
      have hlocked : c ≠ .clearSecretKey := by
        rintro rfl
        exact hc
      obtain ⟨ha, hs₁⟩ := locked_of_alone hlocked hfree halone
      obtain ⟨hkept, hloads⟩ := identity_after text hc s
      have hfree₁ : s₁.lock = none := by
        rw [hs₁, lock_after]
        exact hfree
      obtain ⟨hthen, hlater⟩ := ih hfree₁ hrest fun e he => hkeeps e (List.mem_cons_of_mem _ he)
      rw [hs₁] at hthen
      refine ⟨fun k hk => hthen k (hkept k hk), fun m' sk b hmem => ?_⟩
      rcases List.mem_cons.1 hmem with heq | hmem
      · obtain ⟨-, heq⟩ := Prod.mk.inj heq
        obtain ⟨hcall, rfl⟩ := Prod.mk.inj heq
        obtain ⟨k, hk, hleft⟩ := hloads sk hcall.symm
        exact ⟨k, by rw [ha, hk], hthen k hleft⟩
      · exact hlater m' sk b hmem

/-- An absent record stays absent where no call writes without a vault. -/
theorem absent_of_sequentially {s s' : Origin} {order : Order Call Outcome} (hfree : s.lock = none)
    (h : (system text).Sequentially .succeeds s order s')
    (hwrites : ∀ e ∈ order, e.2.1.writes none = none) (habsent : s.device.record = none) :
    s'.device.record = none := by
  induction order generalizing s with
  | nil =>
      have hs : s' = s := h
      rw [hs]
      exact habsent
  | cons e order ih =>
      obtain ⟨m, c, a⟩ := e
      obtain ⟨s₁, halone, hrest⟩ := h
      have hlater : ∀ e ∈ order, e.2.1.writes none = none := fun e he =>
        hwrites e (List.mem_cons_of_mem _ he)
      by_cases hc : c = .clearSecretKey
      · subst hc
        have hs₁ := cleared_of_alone halone
        refine ih ?_ hrest hlater (by rw [hs₁])
        rw [hs₁]
        exact hfree
      · have hnothing : c.writes (s.device.vault text) = none := by
          rw [vault_of_no_record text habsent]
          exact hwrites _ List.mem_cons_self
        have hs₁ := (locked_of_alone hc hfree halone).2
        rw [after, hnothing] at hs₁
        rw [hs₁] at hrest
        exact ih hfree hrest hlater habsent

/-- A call leaves the lock free. -/
theorem free_of_alone {c : Call} {m : ℕ} {s s₁ : Origin} {a : Outcome} (hfree : s.lock = none)
    (halone : (system text).alone .succeeds m c s = some (a, s₁)) : s₁.lock = none := by
  by_cases hc : c = .clearSecretKey
  · subst hc
    rw [cleared_of_alone halone]
    exact hfree
  · rw [(locked_of_alone hc hfree halone).2, lock_after]
    exact hfree

/-- So do calls one after the other. -/
theorem free_of_sequentially {s s' : Origin} {order : Order Call Outcome} (hfree : s.lock = none)
    (h : (system text).Sequentially .succeeds s order s') : s'.lock = none := by
  induction order generalizing s with
  | nil =>
      have hs : s' = s := h
      rw [hs]
      exact hfree
  | cons e order ih =>
      obtain ⟨s₁, halone, hrest⟩ := h
      exact ih (free_of_alone hfree halone) hrest

/-- **After `clearSecretKey`** the record is absent, if no later call writes without a vault. -/
theorem absent_after_clear {s s' : Origin} {xs ys : Order Call Outcome} {m : ℕ} {a : Outcome}
    (hfree : s.lock = none)
    (h : (system text).Sequentially .succeeds s (xs ++ (m, .clearSecretKey, a) :: ys) s')
    (hwrites : ∀ e ∈ ys, e.2.1.writes none = none) : s'.device.record = none := by
  obtain ⟨s₁, hxs, s₂, halone, hrest⟩ := sequentially_append.1 h
  have hfree₁ := free_of_sequentially hfree hxs
  have hfree₂ := free_of_alone hfree₁ halone
  exact absent_of_sequentially hfree₂ hrest hwrites (by rw [cleared_of_alone halone])

/-! ### Linearizability -/

/-- No record is deleted that a call under the lock is to write back from, and nothing fails. -/
def NeverBorrowed (text : PayloadText) (s : Origin) (as : List (Act Call Fate)) : Prop :=
  ∀ e ∈ events (step (tracked text)) (Pool.init (s, { line := { abs := s } })) as,
    MeetsAt NotBorrowed e.pre e.act

instance (s : Origin) (as : List (Act Call Fate)) : Decidable (NeverBorrowed text s as) :=
  inferInstanceAs (Decidable (∀ e ∈ events (step (tracked text))
    (Pool.init (s, { line := { abs := s } })) as, MeetsAt NotBorrowed e.pre e.act))

/-- The tabs after a run. -/
def tabs (text : PayloadText) (s : Origin) (as : List (Act Call Fate)) :
    Pool Origin Call Op (fun op => Option op.Ans) Outcome :=
  run (step (system text)) (Pool.init s) as

theorem sound_init_free {s : Origin} (hfree : s.lock = none) : Sound (vaultDiscipline text s)
    (tracked text) (fun n => Shown n) (Pool.init (s, { line := { abs := s } })) :=
  sound_init ⟨⟨rfl, List.nodup_nil⟩, hfree, rfl, fun _ => ⟨rfl, rfl⟩, nofun⟩
    fun n => ⟨List.not_mem_nil, by rw [hfree]; nofun⟩

/-- **The final record is that of an order of the calls.** -/
theorem linearizes_tabs {s : Origin} (hfree : s.lock = none) {as : List (Act Call Fate)}
    (h : NeverBorrowed text s as) (hsettled : (tabs text s as).Settled) :
    ∃ order s', Linearizes (system text) .succeeds s as order s' ∧
      (tabs text s as).store.device.record = s'.device.record ∧
        (tabs text s as).store.device.vault text = s'.device.vault text := by
  have hinit : Sound (vaultDiscipline text s) (tracked text) (fun n => Shown n) _ :=
    sound_init_free hfree
  have hsound := sound_run starts hinit h
  have hforget : (run (step (tracked text)) (Pool.init (s, { line := { abs := s } })) as).forget =
      tabs text s as := forget_run (system text) _ as
  have hstore : (tabs text s as).store = (run (step (tracked text))
      (Pool.init (s, { line := { abs := s } })) as).store.1 :=
    (congrArg Pool.store hforget).symm
  have hsettled' : (run (step (tracked text)) (Pool.init (s, { line := { abs := s } })) as).Settled := by
    rw [← settled_forget, hforget]
    exact hsettled
  have hlegal : ∀ s' : Origin × Track, (vaultDiscipline text s).Inv s' →
      s'.2.line.Legal (system text) .succeeds s := fun s' hkept => Kept.legal hkept
  have hlinear := linearizes Track.line hlegal (fun n s₁ s₂ hview => View.order hview)
    (fun n s' hown => And.left hown) (fun n i a s' hshown => Shown.mem hshown) starts hinit h
    hsettled'
  refine ⟨_, _, hlinear, ?_⟩
  rw [hstore]
  have hunlocked : (run (step (tracked text)) (Pool.init (s, { line := { abs := s } }))
      as).store.1.lock = none := by
    rw [Option.eq_none_iff_forall_ne_some]
    intro n
    cases ht : (run (step (tracked text)) (Pool.init (s, { line := { abs := s } })) as).threads[n]? with
    | none => exact (hsound.fresh n (List.getElem?_eq_none_iff.1 ht)).2
    | some t =>
        obtain ⟨a, ha⟩ := hsettled' t (List.mem_of_getElem? ht)
        exact (hsound.ended ht ha).outside
  exact ⟨hsound.inv.record, vault_congr text (hsound.inv.keys hunlocked).1 hsound.inv.record⟩

/-- A call of a settled run is one of the order. -/
theorem mem_order {s s' : Origin} {as : List (Act Call Fate)} {order : Order Call Outcome}
    (h : Linearizes (system text) .succeeds s as order s') (hsettled : (tabs text s as).Settled) {m : ℕ}
    {t : Thread Origin Call Op (fun op => Option op.Ans) Outcome}
    (ht : (tabs text s as).threads[m]? = some t) : ∃ a, (m, t.call, a) ∈ order := by
  obtain ⟨a, ha⟩ := hsettled t (List.mem_of_getElem? ht)
  exact ⟨a, (h.calls m t.call a).2 ⟨t, ht, rfl, ha⟩⟩

/-- **What is cleared stays absent**, where what was called before has ended, and nothing is called
later that writes without a vault. -/
theorem absent_of_linearizes {s s' : Origin} {bs cs : List (Act Call Fate)}
    {order : Order Call Outcome} (hfree : s.lock = none)
    (h : Linearizes (system text) .succeeds s (bs ++ .start .clearSecretKey :: cs) order s')
    (hsettled : (tabs text s (bs ++ .start .clearSecretKey :: cs)).Settled)
    (hbefore : (tabs text s bs).Settled) (hlater : ∀ c, .start c ∈ cs → c.writes none = none) :
    s'.device.record = none := by
  have hsplit : tabs text s (bs ++ .start .clearSecretKey :: cs) = run (step (system text))
      (tabs text s bs) (.start .clearSecretKey :: cs) := run_append _ _ _ _
  have hmade : ∀ (m : ℕ) (t : Thread Origin Call Op (fun op => Option op.Ans) Outcome),
      (tabs text s (bs ++ .start .clearSecretKey :: cs)).threads[m]? = some t →
      (tabs text s bs).threads[m]? = none → .start t.call ∈ Act.start Call.clearSecretKey :: cs := by
    intro m t ht hnew
    rw [hsplit] at ht
    obtain ⟨ds, es, hact, -⟩ := began_of_run ht hnew
    rw [hact]
    exact List.mem_append_right _ List.mem_cons_self
  have hnew : (tabs text s bs).threads[(tabs text s bs).threads.length]? = none :=
    List.getElem?_eq_none (Nat.le_refl _)
  have hmade' : (step (system text) (tabs text s bs) (.start .clearSecretKey)).threads[
      (tabs text s bs).threads.length]? = some _ := List.getElem?_concat_length
  obtain ⟨t, ht, hcall⟩ : ∃ t, (run (step (system text)) (step (system text) (tabs text s bs)
      (.start .clearSecretKey)) cs).threads[(tabs text s bs).threads.length]? = some t ∧
        t.call = .clearSecretKey := call_stays hmade' cs
  obtain ⟨a, hmem⟩ := mem_order h hsettled ((congrArg (fun p => p.threads[_]?) hsplit).trans ht)
  rw [hcall] at hmem
  obtain ⟨xs, ys, horder, hys⟩ := h.later rfl hmem hnew
  have hsequential := h.sequential
  rw [horder] at hsequential
  refine absent_after_clear hfree hsequential fun e he => ?_
  obtain ⟨m, c, b⟩ := e
  have hmem' : (m, c, b) ∈ order := by
    rw [horder]
    exact List.mem_append_right _ (List.mem_cons_of_mem _ he)
  obtain ⟨t, ht, rfl, -⟩ := (h.calls m c b).1 hmem'
  cases hold : (tabs text s bs).threads[m]? with
  | none =>
      rcases List.mem_cons.1 (hmade m t ht hold) with heq | hmade
      · rw [Act.start.inj heq]
        rfl
      · exact hlater _ hmade
  | some t' =>
      obtain ⟨b', hb'⟩ := hbefore t' (List.mem_of_getElem? hold)
      exact absurd ⟨t', hold, rfl, hb'⟩ (hys m t.call b he t'.call b')

/-- **Vault operations are linearizable** where no record is deleted that a call under the lock is to
write back from: once all calls have ended, what they have returned and the record they have left are
those of the calls one after the other, in an order in which a call that had ended before another was
made comes first.  So tabs that only load or create an identity agree on it; and where what was called
before `clearSecretKey` had ended, and nothing was called later that writes without a vault, the record
is absent. -/
theorem vault_linearizable {s : Origin} (hfree : s.lock = none) {as : List (Act Call Fate)}
    (h : NeverBorrowed text s as) (hsettled : (tabs text s as).Settled) :
    (∃ order s', Linearizes (system text) .succeeds s as order s' ∧
        (tabs text s as).store.device.record = s'.device.record ∧
          (tabs text s as).store.device.vault text = s'.device.vault text) ∧
      ((∀ t ∈ (tabs text s as).threads, t.call.KeepsIdentity) →
        ∀ m sk a, (tabs text s as).ended m (.loadOrCreateSecretKey sk) a →
          ∃ k, a = some (some k) ∧ identity text (tabs text s as).store = some k) ∧
      ∀ bs cs, as = bs ++ .start .clearSecretKey :: cs → (tabs text s bs).Settled →
        (∀ c, .start c ∈ cs → c.writes none = none) →
        (tabs text s as).store.device.record = none := by
  obtain ⟨order, s', hlinear, hrecord, hvault⟩ := linearizes_tabs hfree h hsettled
  refine ⟨⟨order, s', hlinear, hrecord, hvault⟩, fun hkeeps m sk a hended => ?_,
    fun bs cs has hbefore hlater => ?_⟩
  · have hall : ∀ e ∈ order, e.2.1.KeepsIdentity := by
      rintro ⟨m', c, b⟩ he
      obtain ⟨t, ht, rfl, -⟩ := (hlinear.calls m' c b).1 he
      exact hkeeps t (List.mem_of_getElem? ht)
    obtain ⟨k, rfl, hk⟩ := (agree_of_sequentially hfree hlinear.sequential hall).2 m sk a
      ((hlinear.calls m _ a).2 hended)
    exact ⟨k, rfl, (congrArg (Option.map VaultPayload.identitySk) hvault).trans hk⟩
  · subst has
    rw [hrecord]
    exact absent_of_linearizes hfree hlinear hsettled hbefore hlater

/-- A call goes on. -/
def goOn (times n : ℕ) : List (Act Call Fate) := List.replicate times (.resume n .succeeds)

/-- Two tabs create an identity at once; then it is replaced, and then cleared. -/
def demoTabs : List (Act Call Fate) :=
  .start (.loadOrCreateSecretKey [1]) :: goOn 3 0 ++
    .start (.loadOrCreateSecretKey [2]) :: goOn 2 1 ++ goOn 11 0 ++ goOn 5 1 ++
    .start (.saveSecretKey [3]) :: goOn 8 2

theorem vault_linearizable_demo : ∃ order s', Linearizes (system shortText) .succeeds {}
    (demoTabs ++ .start .clearSecretKey :: goOn 2 3) order s' ∧ s'.device.record = none := by
  have hborrowed : NeverBorrowed shortText {} (demoTabs ++ .start .clearSecretKey :: goOn 2 3) := by
    decide
  obtain ⟨⟨order, s', h, hrecord, -⟩, -, habsent⟩ :=
    vault_linearizable rfl hborrowed (by decide)
  refine ⟨order, s', h, hrecord.symm.trans (habsent demoTabs (goOn 2 3) rfl (by decide) ?_)⟩
  intro c hc
  exact nomatch List.eq_of_mem_replicate hc

/-- A device with an identity. -/
def demoVault : Origin :=
  { device :=
      { wrapKey := some 0
        record := some { version := vaultVersion, blob := some (sealBlob 0 [0, 1]) }
        nextKey := 1 } }

/-- A circle is left; once the vault is read, it is cleared in another tab. -/
def leaveAndClear : List (Act Call Fate) :=
  .start (.removeVaultCircle "circle" none) :: goOn 4 0 ++ .start .clearSecretKey :: goOn 2 1 ++ goOn 4 0

/-- **A vault comes back** that was cleared: no order of the two calls leaves a record. -/
theorem cleared_comes_back :
    ¬ ∀ (text : PayloadText) (s : Origin) (as : List (Act Call Fate)), s.lock = none →
      (∀ n x, .resume n x ∈ as → x = .succeeds) → (tabs text s as).Settled →
      ∃ order s', Linearizes (system text) .succeeds s as order s' ∧
        (tabs text s as).store.device.record = s'.device.record := by
  intro h
  have hsucceeds : ∀ n x, Act.resume n x ∈ leaveAndClear → x = .succeeds := by
    intro n x hx
    simp only [leaveAndClear, goOn, List.mem_append, List.mem_cons, List.mem_replicate,
      List.cons_append] at hx
    grind
  obtain ⟨order, s', hlinear, hrecord⟩ := h shortText demoVault leaveAndClear rfl hsucceeds
    (by decide)
  have hthere : (tabs shortText demoVault leaveAndClear).store.device.record ≠ none := by
    decide
  have hcalls : (tabs shortText demoVault leaveAndClear).threads.map Thread.call =
      [.removeVaultCircle "circle" none, .clearSecretKey] := by decide
  have hwrites : ∀ e ∈ order, e.2.1.writes none = none := by
    rintro ⟨m, c, a⟩ he
    obtain ⟨t, ht, rfl, -⟩ := (hlinear.calls m c a).1 he
    have hmem : t.call ∈ [Call.removeVaultCircle "circle" none, .clearSecretKey] := by
      rw [← hcalls]
      exact List.mem_map_of_mem (List.mem_of_getElem? ht)
    simp only [List.mem_cons, List.not_mem_nil, or_false] at hmem
    rcases hmem with hcall | hcall
    · rw [hcall]
      rfl
    · rw [hcall]
      rfl
  have hended : (tabs shortText demoVault leaveAndClear).threads[1]?.map
      (fun t => (t.call, t.task.result)) = some (.clearSecretKey, some (some none)) := by
    decide
  obtain ⟨t, ht, heq⟩ := Option.map_eq_some_iff.1 hended
  obtain ⟨hcall, hresult⟩ := Prod.mk.inj heq
  have hmem := (hlinear.calls 1 .clearSecretKey (some none)).2 ⟨t, ht, hcall, result_eq_some.1 hresult⟩
  obtain ⟨xs, ys, hsplit⟩ := List.append_of_mem hmem
  have hsequential := hlinear.sequential
  rw [hsplit] at hsequential
  have habsent := absent_after_clear rfl hsequential fun e he => hwrites e (by
    rw [hsplit]
    exact List.mem_append_right _ (List.mem_cons_of_mem _ he))
  exact hthere (hrecord.trans habsent)

end VaultOrder
end Pwa
end SentinelMesh
