/-
# The order of vault operations

`saveVault`, `saveSecretKey`, `loadOrCreateSecretKey`, `upsertCircleKey`, `removeVaultCircle` and
`clearSecretKey` of `services/identityStore.ts`, for any number of calls in any number of tabs that
share a web lock, each operation on IndexedDB or WebCrypto an await.

All of them but the last run under the lock from the first read to the last write.  The last deletes
without it, by design, and a call that has read the record and is to write back what it has read
brings the record back after `clearSecretKey` has returned.  `NotBorrowed` excludes that, and
`Pwa.VaultRuns` says what follows.

A call takes effect when it puts the record; where it writes nothing, when it has read the record;
and `clearSecretKey` when it deletes it.
-/

import SentinelMesh.Lib.Linearizable
import SentinelMesh.Pwa.Identity
import SentinelMesh.Pwa.Origin

namespace SentinelMesh
namespace Pwa
namespace VaultOrder

open Lib Lib.Task Lib.Async

variable (text : PayloadText)

/-! ### The calls -/

/-- A call of a tab; `loadOrCreateSecretKey` with the key its `generate` makes. -/
inductive Call
  | saveVault (payload : VaultPayload)
  | saveSecretKey (sk : Bytes)
  | loadOrCreateSecretKey (sk : Bytes)
  | upsertCircleKey (circleId : Uuid) (rawKey : Bytes) (epoch : ℕ)
  | removeVaultCircle (circleId : Uuid) (epoch : Option ℕ)
  | clearSecretKey
  deriving DecidableEq

/-- What a call returns: a key, or nothing; the outer `none` is a rejection. -/
abbrev Outcome := Option (Option Bytes)

/-- The calls on a vault that tabs share, with web locks. -/
def system : System Origin Call Op (fun op => Option op.Ans) Fate Outcome where
  body
    | .saveVault payload => OptionT.run do
      Tasks.saveVault text payload
      pure none
    | .saveSecretKey sk => OptionT.run do
      Tasks.saveSecretKey text sk
      pure none
    | .loadOrCreateSecretKey sk => OptionT.run do
      let found ← Tasks.loadOrCreateSecretKey text sk
      pure (some found)
    | .upsertCircleKey circleId rawKey epoch => OptionT.run do
      Tasks.upsertCircleKey text circleId rawKey epoch
      pure none
    | .removeVaultCircle circleId epoch => OptionT.run do
      Tasks.removeVaultCircle text circleId epoch
      pure none
    | .clearSecretKey => OptionT.run do
      Tasks.clearSecretKey
      pure none
  perform n _ := perform true n

/-! ### A call on its own -/

/-- What a call under the lock writes, by what the vault holds. -/
def Call.writes : Call → Option VaultPayload → Option VaultPayload
  | .saveVault payload, _ => some payload
  | .saveSecretKey sk, v =>
    some { identitySk := sk, circles := (v.map VaultPayload.circles).getD [] }
  | .loadOrCreateSecretKey sk, v => match v with
    | none => some { identitySk := sk, circles := [] }
    | some _ => none
  | .upsertCircleKey circleId rawKey epoch, v => v.map fun v =>
    { identitySk := v.identitySk, circles := Tasks.withCircleKey circleId rawKey epoch v.circles }
  | .removeVaultCircle circleId epoch, v => v.map fun v =>
    { identitySk := v.identitySk, circles := Tasks.withoutCircle circleId epoch v.circles }
  | .clearSecretKey, _ => none

/-- What a call returns, by what the vault holds. -/
def Call.returns : Call → Option VaultPayload → Option Bytes
  | .loadOrCreateSecretKey sk, v => some ((v.map VaultPayload.identitySk).getD sk)
  | _, _ => none

/-- An operation where no other call is. -/
def solo (n : ℕ) (op : Op) (s : Origin) : Option (Option op.Ans × Origin) :=
  perform true n op .succeeds s

variable {text} {n : ℕ} {α : Type}

/-- **A read of the vault on its own.** -/
theorem alone_loadVault (k : Option (Option VaultPayload) → OriginTask α)
    (s : Origin) : ((Tasks.loadVault text).run >>= k).alone (solo n) s =
      (k (some (s.device.vault text))).alone (solo n) s := by
  obtain ⟨b, hb, hopen⟩ := Tasks.openRecord_cases text s.device.wrapKey s.device.record
  have hvault : b.join = s.device.vault text := hb
  change (((Tasks.openRecord text s.device.wrapKey s.device.record).run >>=
    fun v => pure (some v.join)) >>= k).alone (solo n) s = _
  rw [Task.bind_assoc]
  rcases hopen with hopen | hopen
  · rw [hopen, ← hvault]
    rfl
  · rw [hopen, ← hvault]
    rfl

/-- The page once the vault holds a payload. -/
def stored (text : PayloadText) (s : Origin) (payload : VaultPayload) : Origin :=
  { s with device := s.device.stored text payload }

/-- **Saving a payload on its own.** -/
theorem alone_saveVaultUnlocked (payload : VaultPayload)
    (k : Option Unit → OriginTask α) (s : Origin) :
    ((Tasks.saveVaultUnlocked text payload).run >>= k).alone (solo n) s =
      (k (some ())).alone (solo n) (stored text s payload) := by
  obtain ⟨⟨wrapKey, record, nextKey, faults⟩, vaultMeta, lock, keypair, initPromise, resolved, live,
    legacy⟩ := s
  cases wrapKey with
  | some key => rfl
  | none => rfl

/-- **What runs under the lock on its own**, where the lock is free. -/
theorem alone_withInitLock {β : Type} (fn : OriginM β)
    (k : Option β → OriginTask α) {s : Origin} (hfree : s.lock = none) :
    ((withInitLock fn).run >>= k).alone (solo n) s =
      (fn.run >>= fun b => .call .unlock fun _ => k b).alone (solo n) { s with lock := some n } := by
  obtain ⟨device, vaultMeta, lock, keypair, initPromise, resolved, live, legacy⟩ := s
  have hlock : lock = none := hfree
  subst hlock
  change ((fn.run >>= fun result => Task.await Op.unlock >>= fun _ => pure result) >>= k).alone
    (solo n) _ = _
  rw [Task.bind_assoc]
  rfl

/-- Changing the circles of a vault on its own. -/
theorem alone_updateCircles (change : List VaultCircle → List VaultCircle)
    (k : Option Unit → OriginTask α) (s : Origin) :
    ((Tasks.updateCircles text change).run >>= k).alone (solo n) s =
      match s.device.vault text with
      | some v => (k (some ())).alone (solo n)
          (stored text s { identitySk := v.identitySk, circles := change v.circles })
      | none => (k (some ())).alone (solo n) s := by
  change (((Tasks.loadVault text).run >>= _) >>= k).alone (solo n) s = _
  rw [Task.bind_assoc, alone_loadVault]
  cases s.device.vault text with
  | none => rfl
  | some v => exact alone_saveVaultUnlocked _ k s

/-- Saving a key on its own. -/
theorem alone_saveSecretKeyUnlocked (sk : Bytes)
    (k : Option Unit → OriginTask α) (s : Origin) :
    ((Tasks.saveSecretKeyUnlocked text sk).run >>= k).alone (solo n) s =
      (k (some ())).alone (solo n) (stored text s
        { identitySk := sk
          circles := ((s.device.vault text).map VaultPayload.circles).getD [] }) := by
  change (((Tasks.loadVault text).run >>= _) >>= k).alone (solo n) s = _
  rw [Task.bind_assoc, alone_loadVault]
  exact alone_saveVaultUnlocked _ k s

/-- Loading or creating a key on its own. -/
theorem alone_loadOrCreateUnlocked (sk : Bytes)
    (k : Option Bytes → OriginTask α) (s : Origin) :
    ((Tasks.loadOrCreateUnlocked text sk).run >>= k).alone (solo n) s =
      match s.device.vault text with
      | some v => (k (some v.identitySk)).alone (solo n) s
      | none => (k (some sk)).alone (solo n) (stored text s { identitySk := sk, circles := [] }) := by
  change (((Tasks.loadVault text).run >>= _) >>= k).alone (solo n) s = _
  rw [Task.bind_assoc, alone_loadVault]
  cases hvault : s.device.vault text with
  | some v => rfl
  | none =>
      change (((Tasks.saveSecretKeyUnlocked text sk).run >>= _) >>= k).alone (solo n) s = _
      rw [Task.bind_assoc, alone_saveSecretKeyUnlocked, hvault]
      change (((Tasks.loadVault text).run >>= _) >>= k).alone (solo n) _ = _
      rw [Task.bind_assoc, alone_loadVault]
      have hheld : (stored text s { identitySk := sk, circles := [] }).device.vault text =
          some { identitySk := sk, circles := [] } := vault_stored text s.device _
      exact congrArg (fun v => (k (some ((v.map VaultPayload.identitySk).getD sk))).alone (solo n)
        (stored text s { identitySk := sk, circles := [] })) hheld

/-- The store after a call under the lock that has run on its own. -/
def after (text : PayloadText) (c : Call) (s : Origin) : Origin :=
  match c.writes (s.device.vault text) with
  | some payload => stored text s payload
  | none => s

/-- **A call under the lock on its own** writes and returns what the vault says. -/
theorem alone_of_locked {c : Call} (hc : c ≠ .clearSecretKey) {s : Origin} (hfree : s.lock = none) :
    (system text).alone .succeeds n c s =
      some (some (c.returns (s.device.vault text)), after text c s) := by
  obtain ⟨device, vaultMeta, lock, keypair, initPromise, resolved, live, legacy⟩ := s
  have hlock : lock = none := hfree
  subst hlock
  unfold after
  cases c with
  | saveVault payload =>
      change ((withInitLock (Tasks.saveVaultUnlocked text payload)).run >>= _).alone (solo n) _ = _
      rw [alone_withInitLock _ _ rfl, alone_saveVaultUnlocked]
      rfl
  | saveSecretKey sk =>
      change ((withInitLock (Tasks.saveSecretKeyUnlocked text sk)).run >>= _).alone (solo n) _ = _
      rw [alone_withInitLock _ _ rfl, alone_saveSecretKeyUnlocked]
      rfl
  | loadOrCreateSecretKey sk =>
      change ((withInitLock (Tasks.loadOrCreateUnlocked text sk)).run >>= _).alone (solo n) _ = _
      rw [alone_withInitLock _ _ rfl, alone_loadOrCreateUnlocked]
      dsimp only
      cases device.vault text <;> rfl
  | upsertCircleKey circleId rawKey epoch =>
      change ((withInitLock (Tasks.updateCircles text _)).run >>= _).alone (solo n) _ = _
      rw [alone_withInitLock _ _ rfl, alone_updateCircles]
      dsimp only
      cases device.vault text <;> rfl
  | removeVaultCircle circleId epoch =>
      change ((withInitLock (Tasks.updateCircles text _)).run >>= _).alone (solo n) _ = _
      rw [alone_withInitLock _ _ rfl, alone_updateCircles]
      dsimp only
      cases device.vault text <;> rfl
  | clearSecretKey => exact absurd rfl hc

/-- **`clearSecretKey` on its own** leaves no record. -/
theorem alone_clearSecretKey (s : Origin) : (system text).alone .succeeds n .clearSecretKey s =
    some (some none, { s with device := { s.device with record := none }, vaultMeta := none }) :=
  rfl

/-! ### When a call takes effect -/

/-- The calls that have taken effect, and the call under the lock that is to write what depends on
the record it has read. -/
structure Track where
  line : Line Origin Call Outcome
  borrowed : Option ℕ := none

/-- What an operation makes of it. -/
def record (text : PayloadText) (n : ℕ) (c : Call) (op : Op) (_ : Fate) (s : Origin) (g : Track) :
    Track :=
  match op with
  | .getRecord =>
    if n ∈ g.line.order.threads then g
    else if c.writes (s.device.vault text) = none then
      { g with line := g.line.effect (system text) .succeeds n c }
    else if c.writes (s.device.vault text) = c.writes none then g
    else { g with borrowed := some n }
  | .putRecord _ => { line := g.line.effect (system text) .succeeds n c, borrowed := none }
  | .deleteRecord => { g with line := g.line.effect (system text) .succeeds n c }
  | .unlock => { g with borrowed := none }
  | _ => g

/-- The calls, with the history. -/
abbrev tracked (text : PayloadText) :
    System (Origin × Track) Call Op (fun op => Option op.Ans) Fate Outcome :=
  (system text).withHistory (record text)

/-- Nothing fails, and no record is deleted that a call under the lock is to write back from. -/
def NotBorrowed (_ : ℕ) (_ : Call) (op : Op) (x : Fate) (s : Origin × Track) : Prop :=
  x = .succeeds ∧ (op = .deleteRecord → s.2.borrowed = none)

instance (n : ℕ) (c : Call) (op : Op) (x : Fate) (s : Origin × Track) :
    Decidable (NotBorrowed n c op x s) := by
  unfold NotBorrowed
  infer_instance

/-- The record is that of the line; so are the keys, while nobody holds the lock; and what is borrowed
is borrowed by the one who holds it. -/
structure Kept (text : PayloadText) (s₀ : Origin) (s : Origin × Track) : Prop where
  legal : s.2.line.Legal (system text) .succeeds s₀
  free : s.2.line.abs.lock = none
  record : s.1.device.record = s.2.line.abs.device.record
  keys : s.1.lock = none → s.1.device.wrapKey = s.2.line.abs.device.wrapKey ∧
    s.1.device.nextKey = s.2.line.abs.device.nextKey
  borrowed : ∀ n, s.2.borrowed = some n → s.1.lock = some n

/-- What is left as it is while call `n` holds the lock: the keys, and the record unless it is
deleted. -/
structure Held (n : ℕ) (s s' : Origin × Track) : Prop where
  lock : s'.1.lock = some n
  wrapKey : s'.1.device.wrapKey = s.1.device.wrapKey
  nextKey : s'.1.device.nextKey = s.1.device.nextKey
  absWrapKey : s'.2.line.abs.device.wrapKey = s.2.line.abs.device.wrapKey
  absNextKey : s'.2.line.abs.device.nextKey = s.2.line.abs.device.nextKey
  borrowed : s'.2.borrowed = s.2.borrowed
  record : (s'.1.device.record = s.1.device.record ∧
      s'.2.line.abs.device.record = s.2.line.abs.device.record) ∨
    (s'.2.borrowed = none ∧ s'.1.device.record = none ∧ s'.2.line.abs.device.record = none)

/-- What call `n` counts on. -/
structure View (n : ℕ) (s s' : Origin × Track) : Prop where
  order : s.2.line.order <+: s'.2.line.order
  others : n ∈ s'.2.line.order.threads → n ∈ s.2.line.order.threads
  outside : s.1.lock ≠ some n → s'.1.lock ≠ some n
  inside : s.1.lock = some n → Held n s s'

theorem Held.refl {n : ℕ} {s : Origin × Track} (h : s.1.lock = some n) : Held n s s :=
  ⟨h, rfl, rfl, rfl, rfl, rfl, Or.inl ⟨rfl, rfl⟩⟩

theorem Held.trans {n : ℕ} {s s' s'' : Origin × Track} (h : Held n s s') (h' : Held n s' s'') :
    Held n s s'' where
  lock := h'.lock
  wrapKey := h'.wrapKey.trans h.wrapKey
  nextKey := h'.nextKey.trans h.nextKey
  absWrapKey := h'.absWrapKey.trans h.absWrapKey
  absNextKey := h'.absNextKey.trans h.absNextKey
  borrowed := h'.borrowed.trans h.borrowed
  record := by
    rcases h'.record with ⟨hrec', habs'⟩ | hdeleted
    · rcases h.record with ⟨hrec, habs⟩ | ⟨hfree, hrec, habs⟩
      · exact Or.inl ⟨hrec'.trans hrec, habs'.trans habs⟩
      · exact Or.inr ⟨h'.borrowed.trans hfree, hrec'.trans hrec, habs'.trans habs⟩
    · exact Or.inr hdeleted

theorem View.refl (n : ℕ) (s : Origin × Track) : View n s s :=
  ⟨List.prefix_refl _, fun h => h, fun h => h, Held.refl⟩

theorem View.trans {n : ℕ} {s s' s'' : Origin × Track} (h : View n s s') (h' : View n s' s'') :
    View n s s'' where
  order := h.order.trans h'.order
  others hmem := h.others (h'.others hmem)
  outside hlock := h'.outside (h.outside hlock)
  inside hlock := (h.inside hlock).trans (h'.inside (h.inside hlock).lock)

/-- How the calls use the vault. -/
def vaultDiscipline (text : PayloadText) (s₀ : Origin) :
    Discipline (Origin × Track) Call Op Fate where
  Inv := Kept text s₀
  Rely := View
  Cond := NotBorrowed
  Local n i s := match i with
    | none => n ∉ s.2.line.order.threads ∧ s.1.lock ≠ some n
    | some _ => True
  refl := View.refl
  trans _ _ _ _ h h' := h.trans h'
  stays _ i _ _ h hown := match i with
    | none => ⟨fun hmem => hown.1 (h.others hmem), h.outside hown.2⟩
    | some _ => trivial

variable {s₀ : Origin} {i : Call × Origin × Track}

/-- What an operation does where nothing fails: it is recorded. -/
theorem answered {op : Op} {x : Fate} {s s' : Origin × Track} {r : Option op.Ans}
    (hcond : NotBorrowed n i.1 op x s) (h : (tracked text).perform n i.1 op x s = some (r, s')) :
    ∃ a, answer true n op s.1 = some (a, s'.1) ∧ r = some a ∧
      s'.2 = record text n i.1 op .succeeds s.1 s.2 := by
  obtain ⟨⟨r', o⟩, hperform, heq⟩ := Option.map_eq_some_iff.1 h
  obtain ⟨rfl, rfl⟩ := Prod.mk.inj heq
  rcases perform_cases hperform with ⟨hx, -⟩ | ⟨a, ha, hr, -⟩
  · rw [hcond.1] at hx
    cases hx
  · exact ⟨a, ha, hr, rfl⟩

/-- **A step under the lock** keeps the others out: it changes nothing they count on. -/
theorem guarantees_inside {s s' : Origin × Track} (hkept : Kept text s₀ s')
    (hlock : s.1.lock = some n) (hlock' : s'.1.lock = some n ∨ s'.1.lock = none)
    (horder : s'.2.line.order = s.2.line.order ∨
      ∃ c a, s'.2.line.order = s.2.line.order ++ [(n, c, a)]) :
    (vaultDiscipline text s₀).Guarantees n i s s' where
  inv := hkept
  others m hm :=
    { order := by
        rcases horder with horder | ⟨c, a, horder⟩
        · rw [horder]
        · rw [horder]
          exact List.prefix_append _ _
      others := fun hmem => by
        rcases horder with horder | ⟨c, a, horder⟩
        · rwa [horder] at hmem
        · rw [horder, Order.threads, List.map_append, List.mem_append] at hmem
          rcases hmem with hmem | hmem
          · exact hmem
          · exact absurd (List.mem_singleton.1 hmem) hm
      outside := fun _ => by
        rcases hlock' with hlock' | hlock'
        · rw [hlock']
          exact fun heq => hm (Option.some.inj heq).symm
        · rw [hlock']
          exact (Option.some_ne_none m).symm
      inside := fun h => absurd (Option.some.inj (h.symm.trans hlock)) hm }
  own := trivial

/-- A task keeps to the rules of the vault, and ends where `Q` holds. -/
abbrev Goes (text : PayloadText) (s₀ : Origin) (n : ℕ) (i : Call × Origin × Track) {β : Type}
    (Q : β → Origin × Track → Prop) : OriginTask β → Origin × Track → Prop :=
  Safe (vaultDiscipline text s₀) (tracked text).perform n i Q

/-- **An operation that changes nothing** is safe under the lock if what follows is. -/
theorem safe_still {β : Type} {Q : β → Origin × Track → Prop} (op : Op) {s : Origin × Track}
    (hstill : ∀ s, ∃ a, answer true n op s = some (a, s))
    (hrecord : ∀ c s g, record text n c op .succeeds s g = g) (hlock : s.1.lock = some n)
    {k : Option op.Ans → OriginTask β}
    (hk : ∀ a s', View n s s' → Kept text s₀ s' → answer true n op s'.1 = some (a, s'.1) →
      Goes text s₀ n i Q (k (some a)) s') :
    Goes text s₀ n i Q (.call op k) s := by
  intro s₁ hinv _ hrely x r s₂ hcond hperform
  obtain ⟨a, ha, rfl, hseen⟩ := answered hcond hperform
  obtain ⟨a', ha'⟩ := hstill s₁.1
  obtain ⟨rfl, hstore⟩ := Prod.mk.inj (Option.some.inj (ha'.symm.trans ha))
  rw [hrecord] at hseen
  have hsame : s₂ = s₁ := Prod.ext hstore.symm hseen
  have hlock₁ : s₁.1.lock = some n := (hrely.inside hlock).lock
  rw [hsame]
  exact ⟨guarantees_inside hinv hlock₁ (Or.inl hlock₁) (Or.inl rfl), hk a' s₁ hrely hinv ha'⟩

/-- The call holds the lock, and the keys are those of the line. -/
structure Keys (n : ℕ) (s : Origin × Track) : Prop where
  lock : s.1.lock = some n
  wrapKey : s.1.device.wrapKey = s.2.line.abs.device.wrapKey
  nextKey : s.1.device.nextKey = s.2.line.abs.device.nextKey

theorem Keys.view {s s' : Origin × Track} (h : Keys n s) (hview : View n s s') : Keys n s' :=
  have hheld := hview.inside h.lock
  { lock := hheld.lock
    wrapKey := (hheld.wrapKey.trans h.wrapKey).trans hheld.absWrapKey.symm
    nextKey := (hheld.nextKey.trans h.nextKey).trans hheld.absNextKey.symm }

theorem vault_abs {s : Origin × Track} (h : Keys n s) (hkept : Kept text s₀ s) :
    s.2.line.abs.device.vault text = s.1.device.vault text :=
  vault_congr text h.wrapKey.symm hkept.record.symm

/-- The call has the lock and has not taken effect. -/
structure Ready (n : ℕ) (s : Origin × Track) : Prop extends Keys n s where
  new : n ∉ s.2.line.order.threads

theorem Ready.view {s s' : Origin × Track} (h : Ready n s) (hview : View n s s') : Ready n s' :=
  ⟨h.toKeys.view hview, fun hmem => h.new (hview.others hmem)⟩

/-- The call has the lock and has taken effect, returning `a`. -/
structure Done (n : ℕ) (c : Call) (a : Option Bytes) (s : Origin × Track) : Prop
    extends Keys n s where
  mem : (n, c, some a) ∈ s.2.line.order

theorem Done.view {c : Call} {a : Option Bytes} {s s' : Origin × Track} (h : Done n c a s)
    (hview : View n s s') : Done n c a s' :=
  ⟨h.toKeys.view hview, hview.order.subset h.mem⟩

/-- What the call is to write is what it writes now, and stays so: nothing is deleted, or it does not
depend on what is. -/
structure Plans (text : PayloadText) (n : ℕ) (c : Call) (payload : VaultPayload)
    (s : Origin × Track) : Prop where
  writes : c.writes (s.2.line.abs.device.vault text) = some payload
  stays : s.2.borrowed = some n ∨ c.writes none = some payload

theorem Plans.view {c : Call} {payload : VaultPayload} {s s' : Origin × Track}
    (h : Plans text n c payload s) (hlock : s.1.lock = some n) (hview : View n s s') :
    Plans text n c payload s' := by
  have hheld := hview.inside hlock
  rcases hheld.record with ⟨-, habs⟩ | ⟨hfree, -, habs⟩
  · refine ⟨?_, by rw [hheld.borrowed]; exact h.stays⟩
    rw [vault_congr text hheld.absWrapKey habs]
    exact h.writes
  · have hnone : c.writes none = some payload := by
      rcases h.stays with hborrowed | hnone
      · exact nomatch (hheld.borrowed.symm.trans hfree).symm.trans hborrowed
      · exact hnone
    refine ⟨?_, Or.inr hnone⟩
    rw [vault_of_no_record text habs]
    exact hnone

/-- What a read of the vault has left: the call has taken effect, or plans what it writes. -/
def Decided (text : PayloadText) (n : ℕ) (c : Call) (v : Option VaultPayload)
    (s : Origin × Track) : Prop :=
  match c.writes v with
  | none => Done n c (c.returns v) s
  | some payload => Ready n s ∧ Plans text n c payload s

theorem Decided.view {c : Call} {v : Option VaultPayload} {s s' : Origin × Track}
    (h : Decided text n c v s) (hview : View n s s') : Decided text n c v s' := by
  unfold Decided at h ⊢
  cases hw : c.writes v with
  | none =>
      rw [hw] at h
      exact Done.view h hview
  | some payload =>
      rw [hw] at h
      exact ⟨h.1.view hview, h.2.view h.1.lock hview⟩

/-- **Reading the record**, for the first time, decides what the call does. -/
theorem decided_getRecord {c : Call} (hc : c ≠ .clearSecretKey) {s : Origin × Track}
    (hkept : Kept text s₀ s) (hready : Ready n s) :
    (vaultDiscipline text s₀).Guarantees n i s (s.1, record text n c .getRecord .succeeds s.1 s.2) ∧
      Decided text n c (s.1.device.vault text)
        (s.1, record text n c .getRecord .succeeds s.1 s.2) := by
  have hvault := vault_abs hready.toKeys hkept
  have hrecord : record text n c .getRecord .succeeds s.1 s.2 =
      if n ∈ s.2.line.order.threads then s.2
      else if c.writes (s.1.device.vault text) = none then
        { s.2 with line := s.2.line.effect (system text) .succeeds n c }
      else if c.writes (s.1.device.vault text) = c.writes none then s.2
      else { s.2 with borrowed := some n } := rfl
  rw [if_neg hready.new] at hrecord
  cases hwrites : c.writes (s.1.device.vault text) with
  | none =>
      have hafter : after text c s.2.line.abs = s.2.line.abs := by
        rw [after, hvault, hwrites]
      have halone : (system text).alone .succeeds n c s.2.line.abs = _ :=
        alone_of_locked hc hkept.free
      rw [hvault, hafter] at halone
      rw [if_pos hwrites] at hrecord
      have heffect := effect_of_alone halone
      have hlegal := hkept.legal.effect (c := c) hready.new
      rw [heffect] at hlegal hrecord
      rw [hrecord, Decided, hwrites]
      refine ⟨guarantees_inside ⟨hlegal, hkept.free, hkept.record, hkept.keys, hkept.borrowed⟩
        hready.lock (Or.inl hready.lock) (Or.inr ⟨c, _, rfl⟩),
        ⟨hready.lock, hready.wrapKey, hready.nextKey⟩, ?_⟩
      exact List.mem_append_right _ (List.mem_singleton_self _)
  | some payload =>
      rw [if_neg (by rw [hwrites]; nofun)] at hrecord
      rw [Decided, hwrites]
      by_cases hsame : c.writes (s.1.device.vault text) = c.writes none
      · rw [if_pos hsame] at hrecord
        rw [hrecord]
        refine ⟨guarantees_inside hkept hready.lock (Or.inl hready.lock) (Or.inl rfl), hready, ?_, ?_⟩
        · rw [hvault, hwrites]
        · exact Or.inr (hsame.symm.trans hwrites)
      · rw [if_neg hsame] at hrecord
        rw [hrecord]
        refine ⟨guarantees_inside ⟨hkept.legal, hkept.free, hkept.record, hkept.keys, fun m hm => ?_⟩
          hready.lock (Or.inl hready.lock) (Or.inl rfl), ⟨⟨hready.lock, hready.wrapKey,
            hready.nextKey⟩, hready.new⟩, ?_, Or.inl rfl⟩
        · rw [← Option.some.inj hm]
          exact hready.lock
        · rw [hvault, hwrites]

/-- **A read of the vault** is safe under the lock, with what reading the record establishes, if what
follows is. -/
theorem safe_loadVault {β : Type} {Q : β → Origin × Track → Prop}
    {P : Option VaultPayload → Origin × Track → Prop} {s : Origin × Track}
    (hlock : s.1.lock = some n) (hP : ∀ v s₁ s₂, P v s₁ → View n s₁ s₂ → P v s₂)
    (hread : ∀ s₁, Kept text s₀ s₁ → View n s s₁ →
      (vaultDiscipline text s₀).Guarantees n i s₁
          (s₁.1, record text n i.1 .getRecord .succeeds s₁.1 s₁.2) ∧
        P (s₁.1.device.vault text) (s₁.1, record text n i.1 .getRecord .succeeds s₁.1 s₁.2))
    {k : Option (Option VaultPayload) → OriginTask β}
    (hk : ∀ v s', P v s' →
      Goes text s₀ n i Q (k (some v)) s') :
    Goes text s₀ n i Q ((Tasks.loadVault text).run >>= k) s := by
  refine safe_still .getWrapKey (fun s => ⟨_, rfl⟩) (fun _ _ _ => rfl) hlock fun a s₁ hview₁ _ ha => ?_
  obtain ⟨rfl, -⟩ := Prod.mk.inj (Option.some.inj ha)
  have hlock₁ : s₁.1.lock = some n := (hview₁.inside hlock).lock
  intro s₂ hkept₂ _ hview₂ x r s₃ hcond hperform
  have hcond' : NotBorrowed n i.1 .getRecord x s₂ := hcond
  obtain ⟨a, ha, rfl, hseen⟩ := answered hcond' hperform
  obtain ⟨rfl, hstore⟩ := Prod.mk.inj (Option.some.inj ha)
  have hs₃ : s₃ = (s₂.1, record text n i.1 .getRecord .succeeds s₂.1 s₂.2) :=
    Prod.ext hstore.symm hseen
  obtain ⟨hguar, hp⟩ := hread s₂ hkept₂ (hview₁.trans hview₂)
  rw [hs₃]
  refine ⟨hguar, ?_⟩
  obtain ⟨b, hb, hopen⟩ := Tasks.openRecord_cases text s₁.1.device.wrapKey s₂.1.device.record
  have hheld : Held n s₁ s₂ := hview₂.inside hlock₁
  have hvault : b.join = s₂.1.device.vault text :=
    hb.trans (vault_congr text hheld.wrapKey.symm rfl)
  rw [← hvault] at hp
  change Safe _ _ n i Q (((Tasks.openRecord text s₁.1.device.wrapKey s₂.1.device.record).run >>=
    fun v => pure (some v.join)) >>= k) _
  rw [Task.bind_assoc]
  rcases hopen with hopen | hopen
  · rw [hopen]
    exact hk b.join _ hp
  · have hlock₃ : (s₂.1, record text n i.1 .getRecord .succeeds s₂.1 s₂.2).1.lock = some n :=
      hheld.lock
    rw [hopen]
    refine safe_still .webCrypto (fun s => ⟨_, rfl⟩) (fun _ _ _ => rfl) hlock₃
      fun _ s₄ hview₄ _ _ => ?_
    exact hk b.join s₄ (hP _ _ _ hp hview₄)

/-- **The first read of a call** decides what it does. -/
theorem safe_loadVault_first {β : Type} {Q : β → Origin × Track → Prop} {s : Origin × Track}
    (hcall : i.1 ≠ .clearSecretKey) (hready : Ready n s)
    {k : Option (Option VaultPayload) → OriginTask β}
    (hk : ∀ v s', Decided text n i.1 v s' →
      Goes text s₀ n i Q (k (some v)) s') :
    Goes text s₀ n i Q ((Tasks.loadVault text).run >>= k) s :=
  safe_loadVault hready.lock (fun _ _ _ h hview => h.view hview)
    (fun _ hkept hview => decided_getRecord hcall hkept (hready.view hview)) hk

/-- The wrapping key is the one the call seals under on its own. -/
structure Sealing (n : ℕ) (key : WrapKey) (s : Origin × Track) : Prop where
  lock : s.1.lock = some n
  new : n ∉ s.2.line.order.threads
  seals : key = s.2.line.abs.device.wrapKey.getD s.2.line.abs.device.nextKey
  wrapKey : s.1.device.wrapKey = some key
  nextKey : s.1.device.nextKey = if s.2.line.abs.device.wrapKey.isSome then
    s.2.line.abs.device.nextKey else s.2.line.abs.device.nextKey + 1

theorem Sealing.view {key : WrapKey} {s s' : Origin × Track} (h : Sealing n key s)
    (hview : View n s s') : Sealing n key s' := by
  have hheld := hview.inside h.lock
  refine ⟨hheld.lock, fun hmem => h.new (hview.others hmem), ?_, hheld.wrapKey.trans h.wrapKey, ?_⟩
  · rw [hheld.absWrapKey, hheld.absNextKey]
    exact h.seals
  · rw [hheld.absWrapKey, hheld.absNextKey, hheld.nextKey]
    exact h.nextKey

/-- What a call that has written has left: it has taken effect, and the vault holds what it wrote
unless that was deleted. -/
structure Written (text : PayloadText) (n : ℕ) (c : Call) (a : Option Bytes)
    (payload : VaultPayload) (s : Origin × Track) : Prop extends Done n c a s where
  holds : s.1.device.vault text = some payload ∨ s.1.device.record = none

theorem Written.view {c : Call} {a : Option Bytes} {payload : VaultPayload}
    {s s' : Origin × Track} (h : Written text n c a payload s) (hview : View n s s') :
    Written text n c a payload s' := by
  have hheld := hview.inside h.lock
  refine ⟨h.toDone.view hview, ?_⟩
  rcases hheld.record with ⟨hrec, -⟩ | ⟨-, hrec, -⟩
  · rw [vault_congr text hheld.wrapKey hrec, hrec]
    exact h.holds
  · exact Or.inr hrec

/-- **Putting the record** is where a call takes effect that writes. -/
theorem safe_putRecord {β : Type} {Q : β → Origin × Track → Prop} {s : Origin × Track}
    {key : WrapKey} {payload : VaultPayload} {a : Option Bytes} (hcall : i.1 ≠ .clearSecretKey)
    (hsealing : Sealing n key s) (hplans : Plans text n i.1 payload s)
    (ha : ∀ v, i.1.writes v = some payload → i.1.returns v = a)
    {k : Option Unit → OriginTask β}
    (hk : ∀ s', Written text n i.1 a payload s' →
      Goes text s₀ n i Q (k (some ())) s') :
    Goes text s₀ n i Q (.call (.putRecord
      { version := vaultVersion, blob := some (sealBlob key (text.encode payload)) }) k) s := by
  intro s₁ hkept _ hview x r s₂ hcond hperform
  have hcond' : NotBorrowed n i.1 (.putRecord
    { version := vaultVersion, blob := some (sealBlob key (text.encode payload)) }) x s₁ := hcond
  obtain ⟨_, hanswer, rfl, hseen⟩ := answered hcond' hperform
  obtain ⟨-, hstore⟩ := Prod.mk.inj (Option.some.inj hanswer)
  have hsealing₁ := hsealing.view hview
  have hplans₁ := hplans.view hsealing.lock hview
  have hafter : after text i.1 s₁.2.line.abs = stored text s₁.2.line.abs payload := by
    rw [after, hplans₁.writes]
  have halone : (system text).alone .succeeds n i.1 s₁.2.line.abs = _ :=
    alone_of_locked hcall hkept.free
  rw [hafter, ha _ hplans₁.writes] at halone
  have heffect := effect_of_alone halone
  have hlegal := hkept.legal.effect (c := i.1) hsealing₁.new
  rw [heffect] at hlegal
  have hline : s₂.2.line = _ := (congrArg Track.line hseen).trans heffect
  have hdevice : s₂.1.device = { s₁.1.device with
      record := some
        { version := vaultVersion, blob := some (sealBlob key (text.encode payload)) } } := by
    rw [← hstore]
  have hlock : s₂.1.lock = some n := by
    rw [← hstore]
    exact hsealing₁.lock
  have hkeys : Keys n s₂ := by
    refine ⟨hlock, ?_, ?_⟩
    · rw [hline, hdevice]
      exact hsealing₁.wrapKey.trans (congrArg some hsealing₁.seals)
    · rw [hline, hdevice]
      exact hsealing₁.nextKey
  have hrecord : s₂.1.device.record = s₂.2.line.abs.device.record := by
    rw [hline, hdevice]
    change some _ = some _
    rw [hsealing₁.seals]
  have hborrowed : s₂.2.borrowed = none := congrArg Track.borrowed hseen
  have hmem : (n, i.1, some a) ∈ s₂.2.line.order := by
    rw [hline]
    exact List.mem_append_right _ (List.mem_singleton_self _)
  refine ⟨guarantees_inside ⟨by rw [hline]; exact hlegal, by rw [hline]; exact hkept.free, hrecord,
      fun hfree => (nomatch hlock.symm.trans hfree), fun m hm => (nomatch hborrowed.symm.trans hm)⟩
      hsealing₁.lock (Or.inl hlock) (Or.inr ⟨i.1, some a, by rw [hline]⟩),
    hk s₂ ⟨⟨hkeys, hmem⟩, Or.inl (vault_sealed text ?_ (by rw [hdevice]))⟩⟩
  rw [hdevice]
  exact hsealing₁.wrapKey

end VaultOrder
end Pwa
end SentinelMesh
