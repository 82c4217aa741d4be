/-
# The keys of an epoch

`handleActivateLocation` of `components/FamilyCircleDashboard.tsx`, the functions of
`services/e2eeService.ts` it calls, and the server it posts to.

An attempt makes a key, stores it in IndexedDB and in the vault at the epoch after the one
on the screen, wraps for each member the key that the vault holds there, and posts the
wraps.  The stores have one key at an epoch.  Another attempt from the same screen replaces
it, whether or not the first one was committed, and nothing puts it back.  `keys_agree`
says when the owner and the members hold the same key; `key_replaced` is a run in which
they do not.

The screen of an attempt is any.  Requests and responses may be lost: an attempt may go
no further, its request may reach the server at any later time or never, and what the
server answers changes no key.  Cryptography is ideal: a key is made once, and a wrap is
read back as what was put in it.  Left out are the migration of keys from before there
were epochs, and what is shown to the owner.
-/

import SentinelMesh.Pwa.Identity
import SentinelMesh.Circles.Epoch

namespace SentinelMesh
namespace Pwa
namespace EpochKeys

open Lib

/-- `CircleKeyPackageV2`. -/
structure CircleKeyPackage where
  circle_id : Uuid
  key_epoch : ℕ
  key : Bytes
  issued_at : ℕ
  deriving DecidableEq

/-- The owner's key and what is done with it: AES-GCM of a text under a circle key,
`JSON.stringify` of a label, NIP-44 for a recipient and back, `finalizeEvent`, and the
hash of a body.  The first argument of an encryption is what it draws at random. -/
structure Crypto where
  owner : Pubkey
  encryptString : ℕ → Bytes → String → String
  memberLabel : String → String → String
  encrypt : ℕ → Pubkey → CircleKeyPackage → String
  decrypt : String → Option CircleKeyPackage
  decrypt_encrypt : ∀ nonce recipient package, decrypt (encrypt nonce recipient package) = some package
  eventId : ℕ → List (List String) → String → String
  sign : String → String
  sha256Hex : Circles.CommitEpochBody → String

/-- The server's dependencies, the payloads of the vault, the owner, and the circle. -/
structure Setting where
  env : Circles.Env
  text : PayloadText
  crypto : Crypto
  activeCircleId : Uuid

/-- `CircleMember`. -/
structure CircleMember where
  member_token : Option String
  pubkey : Option String
  label : Option String
  membership_state : Circles.MembershipState
  deriving DecidableEq

/-- What `handleActivateLocation` reads of the screen: `activeCircle` and `members`. -/
structure Screen where
  is_owner : Bool
  key_epoch : Option ℕ
  name : Option String
  membership_revision : Option ℤ
  members : List CircleMember
  deriving DecidableEq

/-- `nextEpoch`. -/
def Screen.nextEpoch (screen : Screen) : ℕ := screen.key_epoch.getD 1 + 1

/-- How far an attempt is: its key made, put into IndexedDB, put into the vault and being
wrapped for the rest of the members, posted, or over. -/
inductive Stage
  | generated
  | live
  | wrapping (rest : List CircleMember) (nameCiphertext : String)
      (memberLabels : List Circles.MemberLabel) (memberWraps : List Circles.MemberWrap)
  | posted (body : Circles.CommitEpochBody)
  | ended
  deriving DecidableEq

/-- A call of `handleActivateLocation`. -/
structure Attempt where
  screen : Screen
  freshKey : Bytes
  stage : Stage
  deriving DecidableEq

/-- The epoch of the key. -/
def Attempt.nextEpoch (a : Attempt) : ℕ := a.screen.nextEpoch

/-- The wraps made so far. -/
def Attempt.memberWraps (a : Attempt) : List Circles.MemberWrap := match a.stage with
  | .wrapping _ _ _ memberWraps => memberWraps
  | .posted body => body.member_wraps
  | _ => []

/-- The body it has posted. -/
def Attempt.posted? (a : Attempt) : Option Circles.CommitEpochBody := match a.stage with
  | .posted body => some body
  | _ => none

/-- The server, the keys of the circle in IndexedDB by epoch, the vault, the attempts, and
the wraps that the last commit of the circle stored. -/
@[ext] structure Sys where
  server : Circles.Sys
  live : Table ℕ Bytes
  device : Device
  attempts : List Attempt
  memberWraps : List Circles.MemberWrap

/-- A gateway without circles, and an owner's device. -/
def Sys.init (now : Timestamp) (live : Table ℕ Bytes) (device : Device) : Sys :=
  { server := Circles.Sys.init now, live, device, attempts := [], memberWraps := [] }

/-- What can happen: the button is pressed and a key made, an attempt goes on, its request
reaches the server, or the server does something else. -/
inductive Act
  | activate (screen : Screen) (freshKey : Bytes)
  | go (x : ℕ) (now nonce : ℕ)
  | commit (x : ℕ) (checkedAgo : ℕ)
  | server (a : Circles.Act)
  deriving DecidableEq

/-! ### `e2eeService.ts` -/

/-- `Number.MAX_SAFE_INTEGER`. -/
def maxSafeInteger : ℕ := 2 ^ 53 - 1

/-- The event `finalizeEvent` makes of a circle key at an epoch for a recipient. -/
def Crypto.keyEvent (crypto : Crypto) (circleId : Uuid) (recipientPubkey : Pubkey) (keyEpoch : ℕ)
    (rawKey : Bytes) (now nonce : ℕ) : RawEvent :=
  let content := crypto.encrypt nonce recipientPubkey
    { circle_id := circleId, key_epoch := keyEpoch, key := rawKey, issued_at := now }
  let tags := [["d", Circles.circleKeyEventTypeV2], ["circle", circleId],
    ["epoch", toString keyEpoch], ["p", toAsciiLowercase recipientPubkey]]
  let eventId := crypto.eventId now tags content
  { id := eventId, pubkey := crypto.owner, created_at := now, kind := Circles.circleKeyEventKind,
    tags, content, sig := crypto.sign eventId }

/-- The key in a wrap. -/
def Crypto.keyOf (crypto : Crypto) (w : Circles.MemberWrap) : Option Bytes :=
  (crypto.decrypt w.key_wrap_event.content).map CircleKeyPackage.key

theorem keyOf_keyEvent (crypto : Crypto) (member_token : String) (circleId : Uuid)
    (recipientPubkey : Pubkey) (keyEpoch : ℕ) (rawKey : Bytes) (now nonce : ℕ) :
    crypto.keyOf ⟨member_token,
      crypto.keyEvent circleId recipientPubkey keyEpoch rawKey now nonce⟩ = some rawKey := by
  unfold Crypto.keyOf Crypto.keyEvent
  rw [crypto.decrypt_encrypt]
  rfl

variable (st : Setting)

/-- The key of the circle in the vault at an epoch. -/
def Setting.vaultKey? (d : Device) (epoch : ℕ) : Option Bytes :=
  d.circleKey? st.text st.activeCircleId epoch

/-- `createNip44CircleKeyEvent`. -/
def createNip44CircleKeyEvent (recipientPubkey : Pubkey) (keyEpoch now nonce : ℕ) :
    DeviceM RawEvent :=
  if !isHex 64 recipientPubkey then Prog.fail ()
  else if keyEpoch < 1 ∨ maxSafeInteger < keyEpoch then Prog.fail ()
  else do
    match ← loadVaultCircleKey st.text st.activeCircleId keyEpoch with
    | none => Prog.fail ()
    | some rawKey =>
      pure (st.crypto.keyEvent st.activeCircleId recipientPubkey keyEpoch rawKey now nonce)

/-! ### `handleActivateLocation` -/

/-- A string that is neither missing nor empty. -/
def truthy (s : Option String) : Option String := s.filter fun s => decide (s ≠ "")

/-- The body of the loop over the members: nothing for an invited one, and the label and
the wrap for another. -/
def wrapMember (a : Attempt) (m : CircleMember) (now nonce : ℕ) :
    DeviceM (Option (Circles.MemberLabel × Circles.MemberWrap)) :=
  if m.membership_state = .pending then pure none
  else match truthy m.member_token, truthy m.pubkey with
    | some member_token, some pubkey => do
      let name := m.label.getD (String.ofList (pubkey.toList.take 8))
      let labelCiphertext := st.crypto.encryptString nonce a.freshKey (st.crypto.memberLabel pubkey name)
      let wrapEvent ← createNip44CircleKeyEvent st pubkey a.nextEpoch now nonce
      pure (some (⟨member_token, labelCiphertext⟩, ⟨member_token, wrapEvent⟩))
    | _, _ => Prog.fail ()

/-- The body that is posted. -/
def Attempt.body (a : Attempt) (nameCiphertext : String) (memberLabels : List Circles.MemberLabel)
    (memberWraps : List Circles.MemberWrap) : Circles.CommitEpochBody :=
  { expected_revision := a.screen.membership_revision.getD 0, next_epoch := a.nextEpoch,
    name_ciphertext := nameCiphertext, member_labels := memberLabels, member_wraps := memberWraps }

/-- The attempt up to its next `await`. -/
def advance (s : Sys) (a : Attempt) (now nonce : ℕ) : Sys × Stage := match a.stage with
  | .generated =>
    ({ s with live := s.live.upsert a.nextEpoch a.freshKey fun _ => a.freshKey }, .live)
  | .live => match upsertCircleKey st.text st.activeCircleId a.freshKey a.nextEpoch s.device with
    | (.ok _, device) =>
      let nameCiphertext := st.crypto.encryptString nonce a.freshKey (a.screen.name.getD "(circle)")
      ({ s with device }, .wrapping a.screen.members nameCiphertext [] [])
    | (.error _, device) => ({ s with device }, .ended)
  | .wrapping [] nameCiphertext memberLabels memberWraps =>
    (s, .posted (a.body nameCiphertext memberLabels memberWraps))
  | .wrapping (m :: rest) nameCiphertext memberLabels memberWraps =>
    match wrapMember st a m now nonce s.device with
    | (.ok none, device) =>
      ({ s with device }, .wrapping rest nameCiphertext memberLabels memberWraps)
    | (.ok (some (label, wrap)), device) =>
      ({ s with device },
        .wrapping rest nameCiphertext (memberLabels ++ [label]) (memberWraps ++ [wrap]))
    | (.error _, device) => ({ s with device }, .ended)
  | .posted body => (s, .posted body)
  | .ended => (s, .ended)

/-- The request of an attempt as the server reads it: two fields are of 32 bits. -/
def Setting.request (body : Circles.CommitEpochBody) : Circles.Request Circles.CommitEpochBody :=
  { auth := { pubkey := st.crypto.owner, payload := some (st.crypto.sha256Hex body) }
    bodyHash := st.crypto.sha256Hex body
    body := if InRange 31 body.expected_revision ∧ InRange 31 body.next_epoch then some body
      else none }

/-- The attempt `x` is at another stage. -/
def Sys.goes (s : Sys) (x : ℕ) (a : Attempt) (stage : Stage) : Sys :=
  { s with attempts := s.attempts.set x { a with stage } }

/-- The server's action on the request of a body. -/
def Setting.commitEpoch (body : Circles.CommitEpochBody) (checkedAgo : ℕ) : Circles.Act :=
  .commitEpoch st.activeCircleId (st.request body) checkedAgo

/-- The server handles the request of a body. -/
def Sys.receive (s : Sys) (body : Circles.CommitEpochBody) (checkedAgo : ℕ) : Sys :=
  { s with
    server := Circles.step st.env s.server (st.commitEpoch body checkedAgo)
    memberWraps :=
      if Circles.Succeeds st.env s.server (st.commitEpoch body checkedAgo) then body.member_wraps
      else s.memberWraps }

/-- The action commits an epoch of the circle. -/
def Setting.commits : Circles.Act → Bool
  | .commitEpoch id _ _ => decide (id = st.activeCircleId)
  | _ => false

/-- The state after an action.  A key is made once, and the circle is committed by this
device alone. -/
def step (s : Sys) : Act → Sys
  | .activate screen freshKey =>
    if screen.is_owner = true ∧ freshKey ∉ s.attempts.map Attempt.freshKey then
      { s with attempts := s.attempts ++ [{ screen, freshKey, stage := .generated }] }
    else s
  | .go x now nonce => match s.attempts[x]? with
    | some a => (advance st s a now nonce).1.goes x a (advance st s a now nonce).2
    | none => s
  | .commit x checkedAgo => match s.attempts[x]? with
    | some a => match a.posted? with
      | some body => (s.receive st body checkedAgo).goes x a .ended
      | none => s
    | none => s
  | .server a => if st.commits a then s else { s with server := Circles.step st.env s.server a }

/-! ### Agreement -/

/-- **The owner and the members agree on the key of the circle's epoch**: from the second
one on, IndexedDB and the vault hold the key that the wraps of its commit contain. -/
def Agrees (s : Sys) : Prop :=
  ∀ c, s.server.db.circles.find? st.activeCircleId = some c → ∀ e : ℕ, c.key_epoch = e → 2 ≤ e →
    ∃ key, s.live.find? e = some key ∧ st.vaultKey? s.device e = some key ∧
      ∀ w ∈ s.memberWraps, st.crypto.keyOf w = some key

/-- The condition on a step.  A key is stored at an epoch the circle is not at, and a
request is accepted while both stores hold the key of its attempt. -/
def InTime (s : Sys) : Act → Prop
  | .go x _ _ => ∀ a ∈ s.attempts[x]?, a.stage = .generated ∨ a.stage = .live →
      ∀ c ∈ s.server.db.circles.find? st.activeCircleId, c.key_epoch ≠ a.nextEpoch
  | .commit x checkedAgo => ∀ a ∈ s.attempts[x]?, ∀ body ∈ a.posted?,
      Circles.Succeeds st.env s.server (st.commitEpoch body checkedAgo) →
        s.live.find? a.nextEpoch = some a.freshKey ∧
          st.vaultKey? s.device a.nextEpoch = some a.freshKey
  | _ => True

instance (s : Sys) : DecidablePred (InTime st s)
  | .activate .. => inferInstanceAs (Decidable True)
  | .go x .. => inferInstanceAs (Decidable (∀ a ∈ s.attempts[x]?,
      a.stage = .generated ∨ a.stage = .live →
        ∀ c ∈ s.server.db.circles.find? st.activeCircleId, c.key_epoch ≠ a.nextEpoch))
  | .commit x checkedAgo => inferInstanceAs (Decidable (∀ a ∈ s.attempts[x]?, ∀ body ∈ a.posted?,
      Circles.Succeeds st.env s.server (st.commitEpoch body checkedAgo) →
        s.live.find? a.nextEpoch = some a.freshKey ∧
          st.vaultKey? s.device a.nextEpoch = some a.freshKey))
  | .server _ => inferInstanceAs (Decidable True)

/-- What is true of the attempts: their keys differ, the wraps of one whose key is in the
vault contain it, and what is posted is for its epoch. -/
structure Carried (s : Sys) : Prop where
  fresh : (s.attempts.map Attempt.freshKey).Nodup
  wraps : ∀ a ∈ s.attempts, st.vaultKey? s.device a.nextEpoch = some a.freshKey →
    ∀ w ∈ a.memberWraps, st.crypto.keyOf w = some a.freshKey
  posted : ∀ a ∈ s.attempts, ∀ body, a.posted? = some body → body.next_epoch = a.nextEpoch

/-! ### What the functions do -/

/-- A wrap is of the key the vault holds. -/
theorem createNip44CircleKeyEvent_run (recipientPubkey : Pubkey) (keyEpoch now nonce : ℕ)
    (d : Device) :
    ∃ n, (createNip44CircleKeyEvent st recipientPubkey keyEpoch now nonce d).2 = d.used n ∧
      ∀ event, (createNip44CircleKeyEvent st recipientPubkey keyEpoch now nonce d).1 = .ok event →
        ∃ key, st.vaultKey? d keyEpoch = some key ∧
          event = st.crypto.keyEvent st.activeCircleId recipientPubkey keyEpoch key now nonce := by
  unfold createNip44CircleKeyEvent
  split_ifs
  · exact ⟨0, rfl, nofun⟩
  · exact ⟨0, rfl, nofun⟩
  · obtain ⟨n, hload⟩ := loadVaultCircleKey_run st.text st.activeCircleId keyEpoch d
    refine ⟨n, ?_⟩
    rw [Prog.bind_of_ok hload]
    cases hread : (if d.failing 3 then none
        else d.circleKey? st.text st.activeCircleId keyEpoch) with
    | none => exact ⟨rfl, nofun⟩
    | some key =>
        refine ⟨rfl, fun event hevent => ⟨key, ?_, (Except.ok.inj hevent).symm⟩⟩
        split_ifs at hread
        exact hread

/-- The loop over the members reads the vault, and wraps what it holds. -/
theorem wrapMember_run (a : Attempt) (m : CircleMember) (now nonce : ℕ) (d : Device) :
    ∃ n, (wrapMember st a m now nonce d).2 = d.used n ∧
      ∀ label wrap, (wrapMember st a m now nonce d).1 = .ok (some (label, wrap)) →
        ∃ key, st.vaultKey? d a.nextEpoch = some key ∧ st.crypto.keyOf wrap = some key := by
  unfold wrapMember
  split_ifs
  · exact ⟨0, rfl, nofun⟩
  · match truthy m.member_token, truthy m.pubkey with
    | none, _ => exact ⟨0, rfl, nofun⟩
    | some _, none => exact ⟨0, rfl, nofun⟩
    | some member_token, some pubkey =>
        obtain ⟨n, hdevice, hwrap⟩ :=
          createNip44CircleKeyEvent_run st pubkey a.nextEpoch now nonce d
        refine ⟨n, ?_⟩
        cases hrun : createNip44CircleKeyEvent st pubkey a.nextEpoch now nonce d with
        | mk o t =>
            rw [hrun] at hdevice hwrap
            dsimp only
            cases o with
            | error e =>
                rw [Prog.bind_of_error hrun]
                exact ⟨hdevice, nofun⟩
            | ok event =>
                rw [Prog.bind_of_ok hrun]
                refine ⟨hdevice, fun label wrap hok => ?_⟩
                obtain ⟨_, rfl⟩ := Prod.mk.inj (Option.some.inj (Except.ok.inj hok))
                obtain ⟨key, hkey, rfl⟩ := hwrap event rfl
                exact ⟨key, hkey, keyOf_keyEvent ..⟩

variable {st : Setting}

theorem posted?_eq_some {a : Attempt} {body : Circles.CommitEpochBody} :
    a.posted? = some body ↔ a.stage = .posted body := by
  unfold Attempt.posted?
  cases a.stage <;> simp

theorem memberWraps_at {a : Attempt} {stage : Stage} (h : a.stage = stage) :
    a.memberWraps = Attempt.memberWraps { a with stage } := by
  rw [← h]

/-- **What an attempt does when it goes on**: it puts its key into IndexedDB, or into the
vault, or it reads the vault and wraps what is there. -/
inductive Advances (st : Setting) (s : Sys) (a : Attempt) : Sys → Stage → Prop
  | live (at_stage : a.stage = .generated) :
      Advances st s a { s with live := s.live.upsert a.nextEpoch a.freshKey fun _ => a.freshKey } .live
  | vault (device : Device) (stage : Stage) (at_stage : a.stage = .live)
      (moved : (∀ e, st.vaultKey? device e = st.vaultKey? s.device e) ∨
        ∀ e, st.vaultKey? device e =
          if e = a.nextEpoch then some a.freshKey else st.vaultKey? s.device e)
      (none_yet : Attempt.memberWraps { a with stage } = [])
      (unposted : Attempt.posted? { a with stage } = none) :
      Advances st s a { s with device } stage
  | wraps (device : Device) (stage : Stage)
      (same : ∀ e, st.vaultKey? device e = st.vaultKey? s.device e)
      (made : ∀ w ∈ Attempt.memberWraps { a with stage }, w ∈ a.memberWraps ∨
        ∃ key, st.vaultKey? s.device a.nextEpoch = some key ∧ st.crypto.keyOf w = some key)
      (body_epoch : ∀ body, Attempt.posted? { a with stage } = some body →
        a.posted? = some body ∨ body.next_epoch = a.nextEpoch) :
      Advances st s a { s with device } stage

/-- The body of the loop leads on. -/
theorem advances_wrap {s : Sys} {a : Attempt} {m : CircleMember} {rest : List CircleMember}
    {name : String} {labels : List Circles.MemberLabel} {wraps : List Circles.MemberWrap}
    (hstage : a.stage = .wrapping (m :: rest) name labels wraps) (now nonce : ℕ) :
    Advances st s a (advance st s a now nonce).1 (advance st s a now nonce).2 := by
  obtain ⟨n, hdevice, hwrap⟩ := wrapMember_run st a m now nonce s.device
  have hwraps : a.memberWraps = wraps := memberWraps_at hstage
  have hsame : ∀ e, st.vaultKey? (s.device.used n) e = st.vaultKey? s.device e := fun _ => rfl
  unfold advance
  rw [hstage]
  dsimp only
  cases hrun : wrapMember st a m now nonce s.device with
  | mk o device =>
      rw [hrun] at hdevice hwrap
      dsimp only at hdevice
      subst hdevice
      match o with
      | .error _ => exact .wraps _ _ hsame nofun nofun
      | .ok none => exact .wraps _ _ hsame (fun w hw => Or.inl (hwraps ▸ hw)) nofun
      | .ok (some (label, wrap)) =>
          refine .wraps _ _ hsame (fun w hw => ?_) nofun
          rcases List.mem_append.1 hw with hold | hnew
          · exact Or.inl (hwraps ▸ hold)
          · obtain rfl := List.mem_singleton.1 hnew
            exact Or.inr (hwrap label w rfl)

/-- **Nothing else happens in an attempt.** -/
theorem advance_does (s : Sys) (a : Attempt) (now nonce : ℕ) :
    Advances st s a (advance st s a now nonce).1 (advance st s a now nonce).2 := by
  have hquiet : ∀ e, st.vaultKey? s.device e = st.vaultKey? s.device e := fun _ => rfl
  cases hstage : a.stage with
  | generated =>
      unfold advance
      rw [hstage]
      exact .live hstage
  | live =>
      have hmoved := upsertCircleKey_cases st.text st.activeCircleId a.freshKey a.nextEpoch s.device
      have hvault : (∀ e, st.vaultKey? (upsertCircleKey st.text st.activeCircleId a.freshKey
            a.nextEpoch s.device).2 e = st.vaultKey? s.device e) ∨
          ∀ e, st.vaultKey? (upsertCircleKey st.text st.activeCircleId a.freshKey
            a.nextEpoch s.device).2 e =
              if e = a.nextEpoch then some a.freshKey else st.vaultKey? s.device e := by
        rcases hmoved with hkept | hput
        · exact Or.inl fun e => hkept _ e
        · refine Or.inr fun e => (hput _ e).trans ?_
          simp [Setting.vaultKey?]
      unfold advance
      rw [hstage]
      dsimp only
      cases hrun : upsertCircleKey st.text st.activeCircleId a.freshKey a.nextEpoch s.device with
      | mk o device =>
          rw [hrun] at hvault
          cases o with
          | ok u => exact .vault _ _ hstage hvault rfl rfl
          | error e => exact .vault _ _ hstage hvault rfl rfl
  | wrapping rest name labels wraps =>
      cases rest with
      | nil =>
          have hwraps : a.memberWraps = wraps := memberWraps_at hstage
          unfold advance
          rw [hstage]
          refine .wraps s.device _ hquiet (fun w hw => Or.inl (hwraps ▸ hw)) fun body hbody => ?_
          rw [← Stage.posted.inj (posted?_eq_some.1 hbody)]
          exact Or.inr rfl
      | cons m rest => exact advances_wrap hstage now nonce
  | posted body =>
      unfold advance
      rw [hstage]
      exact .wraps s.device _ hquiet (fun w hw => Or.inl (memberWraps_at hstage ▸ hw))
        fun _ hbody => Or.inl (posted?_eq_some.2 (hstage.trans (posted?_eq_some.1 hbody)))
  | ended =>
      unfold advance
      rw [hstage]
      exact .wraps s.device _ hquiet nofun nofun

/-- An attempt ends. -/
theorem advances_ended (s : Sys) (a : Attempt) : Advances st s a s .ended :=
  .wraps s.device .ended (fun _ => rfl) nofun nofun

/-! ### What an attempt keeps -/

/-- What is true of the attempts is so on account of the attempts and the vault. -/
theorem Carried.of_same {s s' : Sys} (h : Carried st s) (hattempts : s'.attempts = s.attempts)
    (hdevice : s'.device = s.device) : Carried st s' := by
  obtain ⟨fresh, wraps, posted⟩ := h
  rw [← hattempts] at fresh wraps posted
  rw [← hdevice] at wraps
  exact ⟨fresh, wraps, posted⟩

/-- Agreement is not about the attempts. -/
theorem agrees_goes {s : Sys} {x : ℕ} {a : Attempt} {stage : Stage} (h : Agrees st s) :
    Agrees st (s.goes x a stage) := h

theorem carried_init (now : Timestamp) (live : Table ℕ Bytes) (device : Device) :
    Carried st (Sys.init now live device) :=
  ⟨List.nodup_nil, fun _ ha => absurd ha List.not_mem_nil, fun _ ha => absurd ha List.not_mem_nil⟩

theorem agrees_init (now : Timestamp) (live : Table ℕ Bytes) (device : Device) :
    Agrees st (Sys.init now live device) := by
  intro c hc
  have hnone : (Circles.Sys.init now).db.circles.find? st.activeCircleId = none := rfl
  have hc : (Circles.Sys.init now).db.circles.find? st.activeCircleId = some c := hc
  rw [hnone] at hc
  cases hc

theorem freshKeys_set {as : List Attempt} {x : ℕ} {a : Attempt} (h : as[x]? = some a) (stage : Stage) :
    (as.set x { a with stage }).map Attempt.freshKey = as.map Attempt.freshKey := by
  have hlt : x < (as.map Attempt.freshKey).length := by
    rw [List.length_map]
    exact (List.getElem?_eq_some_iff.1 h).1
  have hkey : (as.map Attempt.freshKey)[x] = a.freshKey := by
    rw [List.getElem_map]
    exact congrArg Attempt.freshKey (List.getElem?_eq_some_iff.1 h).2
  rw [List.map_set]
  change (as.map Attempt.freshKey).set x a.freshKey = _
  rw [← hkey, List.set_getElem_self]

/-- **An attempt that goes on keeps what is true of the attempts.**  One that puts its key
into the vault takes the place of every other key at its epoch. -/
theorem carried_advance {s s' : Sys} {x : ℕ} {a : Attempt} {stage : Stage} (h : Carried st s)
    (hx : s.attempts[x]? = some a) (hadv : Advances st s a s' stage) :
    Carried st (s'.goes x a stage) := by
  have ha : a ∈ s.attempts := List.mem_of_getElem? hx
  have hfresh : ((s.attempts.set x { a with stage }).map Attempt.freshKey).Nodup := by
    rw [freshKeys_set hx]
    exact h.fresh
  cases hadv with
  | live at_stage =>
      refine ⟨hfresh, fun b hb => ?_, fun b hb => ?_⟩
      · rcases List.mem_or_eq_of_mem_set hb with hb | rfl
        · exact h.wraps b hb
        · exact fun _ => nofun
      · rcases List.mem_or_eq_of_mem_set hb with hb | rfl
        · exact h.posted b hb
        · exact nofun
  | vault device stage at_stage moved none_yet unposted =>
      refine ⟨hfresh, fun b hb hkey => ?_, fun b hb => ?_⟩
      · rcases List.mem_or_eq_of_mem_set hb with hb | rfl
        · rcases moved with hkept | hput
          · exact h.wraps b hb ((hkept b.nextEpoch).symm.trans hkey)
          · -- at the epoch of this key, the vault holds the key of no other attempt
            have hkey : st.vaultKey? device b.nextEpoch = some b.freshKey := hkey
            rw [hput] at hkey
            split_ifs at hkey with he
            · have hab : a = b :=
                List.inj_on_of_nodup_map h.fresh ha hb (Option.some.inj hkey)
              have hnone : b.memberWraps = [] := by
                rw [← hab, memberWraps_at at_stage]
                rfl
              rw [hnone]
              exact nofun
            · exact h.wraps b hb hkey
        · rw [none_yet]
          exact nofun
      · rcases List.mem_or_eq_of_mem_set hb with hb | rfl
        · exact h.posted b hb
        · rw [unposted]
          exact nofun
  | wraps device stage same made body_epoch =>
      refine ⟨hfresh, fun b hb hkey => ?_, fun b hb => ?_⟩
      · have hold : st.vaultKey? s.device b.nextEpoch = some b.freshKey :=
          (same b.nextEpoch).symm.trans hkey
        rcases List.mem_or_eq_of_mem_set hb with hb | rfl
        · exact h.wraps b hb hold
        · intro w hw
          rcases made w hw with hw | ⟨key, hread, hof⟩
          · exact h.wraps a ha hold w hw
          · rw [hof]
            exact hread.symm.trans hold
      · rcases List.mem_or_eq_of_mem_set hb with hb | rfl
        · exact h.posted b hb
        · intro body hbody
          rcases body_epoch body hbody with hwas | hnext
          · exact h.posted a ha body hwas
          · exact hnext

/-- The stores hold at the epoch of the circle what they held. -/
theorem agrees_of_stores {s s' : Sys} (h : Agrees st s) (hserver : s'.server = s.server)
    (hwraps : s'.memberWraps = s.memberWraps)
    (hstores : ∀ c, s.server.db.circles.find? st.activeCircleId = some c → ∀ e : ℕ,
      c.key_epoch = e → s'.live.find? e = s.live.find? e ∧
        st.vaultKey? s'.device e = st.vaultKey? s.device e) : Agrees st s' := by
  intro c hc e he hle
  rw [hserver] at hc
  obtain ⟨hlive, hvault⟩ := hstores c hc e he
  rw [hlive, hvault, hwraps]
  exact h c hc e he hle

/-- **A key that is stored in time** is not the one of the circle's epoch. -/
theorem agrees_advance {s s' : Sys} {a : Attempt} {stage : Stage} (h : Agrees st s)
    (htime : a.stage = .generated ∨ a.stage = .live →
      ∀ c, s.server.db.circles.find? st.activeCircleId = some c → c.key_epoch ≠ a.nextEpoch)
    (hadv : Advances st s a s' stage) : Agrees st s' := by
  cases hadv with
  | live at_stage =>
      refine agrees_of_stores h rfl rfl fun c hc e he => ⟨?_, rfl⟩
      have hne : e ≠ a.nextEpoch := fun heq => htime (Or.inl at_stage) c hc (heq ▸ he)
      rw [Table.find?_upsert, if_neg hne]
  | vault device stage at_stage moved none_yet unposted =>
      refine agrees_of_stores h rfl rfl fun c hc e he => ⟨rfl, ?_⟩
      have hne : e ≠ a.nextEpoch := fun heq => htime (Or.inr at_stage) c hc (heq ▸ he)
      rcases moved with hkept | hput
      · exact hkept e
      · exact (hput e).trans (if_neg hne)
  | wraps device stage same made body_epoch =>
      exact agrees_of_stores h rfl rfl fun c hc e he => ⟨rfl, same e⟩

/-! ### What the server keeps -/

/-- **A request that is accepted in time** leaves the members with the owner's key. -/
theorem agrees_receive {s : Sys} {x : ℕ} {a : Attempt} {body : Circles.CommitEpochBody} {ago : ℕ}
    (hown : Carried st s) (h : Agrees st s) (hx : s.attempts[x]? = some a)
    (hbody : a.posted? = some body)
    (htime : Circles.Succeeds st.env s.server (st.commitEpoch body ago) →
      s.live.find? a.nextEpoch = some a.freshKey ∧
        st.vaultKey? s.device a.nextEpoch = some a.freshKey) :
    Agrees st (s.receive st body ago) := by
  have ha : a ∈ s.attempts := List.mem_of_getElem? hx
  intro c' hc' e he hle
  change (Circles.step st.env s.server (st.commitEpoch body ago)).db.circles.find?
    st.activeCircleId = some c' at hc'
  unfold Sys.receive
  dsimp only
  by_cases hs : Circles.Succeeds st.env s.server (st.commitEpoch body ago)
  · obtain ⟨hlive, hvault⟩ := htime hs
    obtain ⟨body', c, ok, hnew⟩ := Circles.rotates_of_succeeds hs
    have hsent : body' = body := by
      have hread := Circles.Request.body_of_parse ok.parsed
      unfold Setting.request at hread
      dsimp only at hread
      split_ifs at hread
      exact (Option.some.inj hread).symm
    have hc : c' = c.rotate body' := Option.some.inj (hc'.symm.trans hnew)
    have hepoch : (a.nextEpoch : ℤ) = e := by
      rw [← hown.posted a ha body hbody, ← he, hc, hsent]
      rfl
    rw [if_pos hs, ← Int.ofNat_inj.1 hepoch]
    refine ⟨a.freshKey, hlive, hvault, fun w hw => hown.wraps a ha hvault w ?_⟩
    rw [memberWraps_at (posted?_eq_some.1 hbody)]
    exact hw
  · have hdb : (Circles.step st.env s.server (st.commitEpoch body ago)).db = s.server.db := by
      rcases Circles.refused_or_change st.env s.server (st.commitEpoch body ago) with
        ⟨_, hdb⟩ | ⟨hyes, _⟩
      · exact hdb
      · exact absurd hyes hs
    rw [if_neg hs]
    rw [hdb] at hc'
    exact h c' hc' e he hle

/-- What else the server does moves no epoch. -/
theorem agrees_server {s : Sys} {a : Circles.Act} (h : Agrees st s) (hother : st.commits a = false) :
    Agrees st { s with server := Circles.step st.env s.server a } := by
  intro c' hc' e he hle
  cases Circles.circle_of_step hc' with
  | created req body act unused free row =>
      have hone : c'.key_epoch = 1 := by rw [row]; rfl
      omega
  | kept c old owner epoch rekey quiet => exact h c old e (epoch.symm.trans he) hle
  | rotated req ago body c act hs ok row =>
      have hyes : st.commits a = true := by
        rw [act]
        exact decide_eq_true rfl
      rw [hother] at hyes
      cases hyes

/-! ### Runs -/

theorem carried_step {s : Sys} (a : Act) (h : Carried st s) : Carried st (step st s a) := by
  cases a with
  | activate screen freshKey =>
      unfold step
      dsimp only
      split_ifs with hnew
      · refine ⟨?_, fun b hb => ?_, fun b hb => ?_⟩
        · rw [List.map_append, List.nodup_append]
          refine ⟨h.fresh, List.nodup_singleton _, fun k hk k' hk' heq => hnew.2 ?_⟩
          obtain rfl := List.mem_singleton.1 hk'
          exact heq ▸ hk
        · rcases List.mem_append.1 hb with hb | hb
          · exact h.wraps b hb
          · obtain rfl := List.mem_singleton.1 hb
            exact fun _ => nofun
        · rcases List.mem_append.1 hb with hb | hb
          · exact h.posted b hb
          · obtain rfl := List.mem_singleton.1 hb
            exact nofun
      · exact h
  | go x now nonce =>
      unfold step
      cases hx : s.attempts[x]? with
      | none =>
          simp only [hx]
          exact h
      | some a =>
          simp only [hx]
          exact carried_advance h hx (advance_does s a now nonce)
  | commit x ago =>
      unfold step
      cases hx : s.attempts[x]? with
      | none =>
          simp only [hx]
          exact h
      | some a =>
          simp only [hx]
          split
          · rename_i body hbody
            have hown : Carried st (s.receive st body ago) := h.of_same rfl rfl
            exact carried_advance hown hx (advances_ended (s.receive st body ago) a)
          · exact h
  | server a =>
      unfold step
      dsimp only
      split_ifs
      · exact h
      · exact h.of_same rfl rfl

/-- **A step in time keeps the agreement.** -/
theorem agrees_step {s : Sys} (a : Act) (hown : Carried st s) (h : Agrees st s)
    (htime : InTime st s a) : Agrees st (step st s a) := by
  cases a with
  | activate screen freshKey =>
      unfold step
      dsimp only
      split_ifs
      · exact h
      · exact h
  | go x now nonce =>
      unfold step
      cases hx : s.attempts[x]? with
      | none =>
          simp only [hx]
          exact h
      | some a =>
          simp only [hx]
          exact agrees_goes (agrees_advance h (htime a hx) (advance_does s a now nonce))
  | commit x ago =>
      unfold step
      cases hx : s.attempts[x]? with
      | none =>
          simp only [hx]
          exact h
      | some a =>
          simp only [hx]
          split
          · rename_i body hbody
            exact agrees_goes (agrees_receive hown h hx hbody (htime a hx body hbody))
          · exact h
  | server a =>
      unfold step
      dsimp only
      split_ifs with hours
      · exact h
      · exact agrees_server h (Bool.eq_false_of_not_eq_true hours)

/-- Where the server does something else, the device does nothing. -/
theorem run_server (s : Sys) {as : List Circles.Act} (h : ∀ a ∈ as, st.commits a = false) :
    run (step st) s (as.map .server) =
      { s with server := run (Circles.step st.env) s.server as } := by
  induction as generalizing s with
  | nil => rfl
  | cons a as ih =>
      rw [List.forall_mem_cons] at h
      have hstep : step st s (.server a) = { s with server := Circles.step st.env s.server a } :=
        if_neg (by simp [h.1])
      rw [List.map_cons, run_cons, run_cons, hstep, ih _ h.2]

theorem inTime_server (s : Sys) (as : List Circles.Act) :
    ∀ e ∈ events (step st) s (as.map .server), InTime st e.pre e.act := by
  induction as generalizing s with
  | nil => exact fun _ he => absurd he List.not_mem_nil
  | cons a as ih =>
      rw [List.map_cons, events_cons, List.forall_mem_cons]
      exact ⟨trivial, ih _⟩

/-- **Owner and members agree on the key of the epoch**, in every run in which each key is
stored at an epoch the circle is not at, and each request is accepted while both stores
hold the key of its attempt. -/
theorem keys_agree (st : Setting) (now : Timestamp) (live : Table ℕ Bytes) (device : Device)
    (as : List Act)
    (htime : ∀ e ∈ events (step st) (Sys.init now live device) as, InTime st e.pre e.act) :
    Agrees st (run (step st) (Sys.init now live device) as) := by
  exact (run_induction_of (P := fun s => Carried st s ∧ Agrees st s)
    ⟨carried_init now live device, agrees_init now live device⟩
    (fun s a h hin => ⟨carried_step a h.1, agrees_step a h.1 h.2 hin⟩) htime).2

/-! ### A retry

The circle `c` of one owner and one member, both of whom are in it.  The owner activates
location twice from the same screen.  Payloads and packages that occur have short codes. -/

instance encodablePackage : Encodable CircleKeyPackage :=
  .ofLeftInjection (fun p => (p.circle_id, p.key_epoch, p.key, p.issued_at))
    (fun p => some { circle_id := p.1, key_epoch := p.2.1, key := p.2.2.1, issued_at := p.2.2.2 })
    fun _ => rfl

/-- A number for every value, small for those of the list. -/
def demoCode {α : Type} [DecidableEq α] [Encodable α] (as : List α) (a : α) : ℕ :=
  if a ∈ as then as.idxOf a else as.length + Encodable.encode a

/-- The value of a number. -/
def demoUncode {α : Type} [Encodable α] (as : List α) (n : ℕ) : Option α :=
  if n < as.length then as[n]? else Encodable.decode (n - as.length)

theorem demoUncode_demoCode {α : Type} [DecidableEq α] [Encodable α] (as : List α) (a : α) :
    demoUncode as (demoCode as a) = some a := by
  unfold demoUncode demoCode
  by_cases h : a ∈ as
  · have hlt : as.idxOf a < as.length := List.idxOf_lt_length_of_mem h
    rw [if_pos h, if_pos hlt, List.getElem?_idxOf h]
  · have hge : ¬ as.length + Encodable.encode a < as.length := by omega
    rw [if_neg h, if_neg hge, Nat.add_sub_cancel_left, Encodable.encodek]

/-- The vault with a key of the second epoch. -/
def demoPayload (key : Bytes) : VaultPayload :=
  { identitySk := [7], circles := [{ id := "c", key, epoch := 2 }] }

/-- The payloads that occur. -/
def demoPayloads : List VaultPayload :=
  [{ identitySk := [7], circles := [] }, demoPayload [1], demoPayload [2]]

/-- The packages that occur. -/
def demoPackages : List CircleKeyPackage :=
  [⟨"c", 2, [1], 0⟩, ⟨"c", 2, [2], 0⟩]

/-- The payloads as so many bytes. -/
def demoCodes : PayloadText where
  encode p := List.replicate (demoCode demoPayloads p) 0
  decode b := demoUncode demoPayloads b.length
  decode_encode p := by rw [List.length_replicate, demoUncode_demoCode]

/-- The owner's crypto, with packages as so many letters. -/
def demoCrypto : Crypto where
  owner := Circles.demoOwner
  encryptString _ _ s := s
  memberLabel _ name := name
  encrypt _ _ package := String.ofList ('k' :: List.replicate (demoCode demoPackages package) 'k')
  decrypt content := demoUncode demoPackages (content.toList.length - 1)
  decrypt_encrypt _ _ package := by
    rw [String.toList_ofList, List.length_cons, List.length_replicate, Nat.add_sub_cancel,
      demoUncode_demoCode]
  eventId _ _ _ := digits 64 '0'
  sign _ := digits 128 '0'
  sha256Hex _ := "d"

/-- The owner's device, with an identity and no circle keys. -/
def demoOwnerDevice : Device :=
  { wrapKey := some 0
    record := some { version := vaultVersion, blob := some (sealBlob 0 []) }
    nextKey := 1 }

/-- The setting. -/
def demoSetting : Setting :=
  { env := Circles.demoEnv, text := demoCodes, crypto := demoCrypto, activeCircleId := "c" }

/-- The owner's screen once the member has joined. -/
def demoScreen : Screen :=
  { is_owner := true, key_epoch := some 1, name := some "n", membership_revision := some 2,
    members := [⟨some (Circles.demoToken Circles.demoMember), some Circles.demoMember, none, .active⟩] }

/-- An attempt up to its request. -/
def demoPost (x : ℕ) (key : Bytes) : List Act :=
  [.activate demoScreen key, .go x 0 0, .go x 0 0, .go x 0 0, .go x 0 0]

/-- The circle is created, the member joins, and an attempt reaches the server. -/
def demoActivate : List Act := Circles.demoJoin.map .server ++ (demoPost 0 [1] ++ [.commit 0 0])

/-- Another attempt reaches the server. -/
def demoRetry : List Act := demoPost 1 [2] ++ [.commit 1 0]

/-- The state before anything. -/
def demoStart : Sys := Sys.init 0 Table.empty demoOwnerDevice

/-- The state in which the owner presses the button. -/
def demoMet : Sys := { demoStart with server := Circles.demoJoined }

/-- The body of the attempt. -/
def demoBody : Circles.CommitEpochBody :=
  { expected_revision := 2, next_epoch := 2, name_ciphertext := "n",
    member_labels := [⟨Circles.demoToken Circles.demoMember, digits 8 'b'⟩],
    member_wraps := [⟨Circles.demoToken Circles.demoMember, Circles.demoWrap 2⟩] }

/-- The state with the attempt at a stage: its key is stored. -/
def demoAt (stage : Stage) : Sys :=
  { demoMet with
    live := Table.empty.upsert 2 [1] fun _ => [1]
    device := (upsertCircleKey demoCodes "c" [1] 2 demoOwnerDevice).2
    attempts := [{ screen := demoScreen, freshKey := [1], stage }] }

/-- The state after its commit. -/
def demoCommitted : Sys :=
  { demoAt .ended with
    server := Circles.demoSys (Circles.demoJoinedDb.rotate "c" demoBody)
    memberWraps := demoBody.member_wraps }

theorem run_demoMet :
    run (step demoSetting) demoStart (Circles.demoJoin.map .server) = demoMet := by
  have hquiet : ∀ a ∈ Circles.demoJoin, demoSetting.commits a = false := by
    unfold Circles.demoJoin
    simp [Setting.commits]
  have hjoin : run (Circles.step demoSetting.env) demoStart.server Circles.demoJoin =
      Circles.demoJoined := Circles.run_demoJoin
  rw [run_server demoStart hquiet, hjoin]
  rfl

theorem run_demoPost : run (step demoSetting) demoMet (demoPost 0 [1]) = demoAt (.posted demoBody) := by
  have hlive : (run (step demoSetting) demoMet (demoPost 0 [1])).live =
      (demoAt (.posted demoBody)).live := by
    decide
  have hdevice : (run (step demoSetting) demoMet (demoPost 0 [1])).device =
      (demoAt (.posted demoBody)).device := by
    decide
  have hattempts : (run (step demoSetting) demoMet (demoPost 0 [1])).attempts =
      (demoAt (.posted demoBody)).attempts := by
    decide
  exact Sys.ext rfl hlive hdevice hattempts rfl

theorem exec_demoCommit : Circles.exec demoSetting.env (demoAt (.posted demoBody)).server
    (demoSetting.commitEpoch demoBody 0) =
      (Circles.demoSys (Circles.demoJoinedDb.rotate "c" demoBody), .ok [("c", .epochChanged 2 false)]) := by
  have hrun : (Circles.commitEpoch Circles.demoEnv 0 "c" (demoSetting.request demoBody)).run
      Circles.demoJoinedDb = .ok (2, Circles.demoJoinedDb.rotate "c" demoBody) := by
    have hparse : (demoSetting.request demoBody).parse = .ok demoBody := rfl
    refine Circles.run_commitEpoch_of_isOk hparse ?_
    decide +kernel
  exact Circles.transact_of_run Circles.demoJoined _ hrun

theorem step_demoCommit :
    step demoSetting (demoAt (.posted demoBody)) (.commit 0 0) = demoCommitted := by
  have hserver : Circles.step demoSetting.env (demoAt (.posted demoBody)).server
      (demoSetting.commitEpoch demoBody 0) =
        Circles.demoSys (Circles.demoJoinedDb.rotate "c" demoBody) :=
    congrArg Prod.fst exec_demoCommit
  have hsucceeds : Circles.Succeeds demoSetting.env (demoAt (.posted demoBody)).server
      (demoSetting.commitEpoch demoBody 0) := ⟨_, congrArg Prod.snd exec_demoCommit⟩
  have hstep : step demoSetting (demoAt (.posted demoBody)) (.commit 0 0) =
      ((demoAt (.posted demoBody)).receive demoSetting demoBody 0).goes 0
        { screen := demoScreen, freshKey := [1], stage := .posted demoBody } .ended := rfl
  rw [hstep]
  unfold Sys.receive
  rw [hserver, if_pos hsucceeds]
  rfl

/-- The request is accepted while its key is in both stores. -/
theorem inTime_demoActivate :
    ∀ e ∈ events (step demoSetting) demoStart demoActivate, InTime demoSetting e.pre e.act := by
  have hpost : ∀ e ∈ events (step demoSetting) demoMet (demoPost 0 [1]),
      InTime demoSetting e.pre e.act := by
    decide
  have hstores : (demoAt (.posted demoBody)).live.find? 2 = some [1] ∧
      demoSetting.vaultKey? (demoAt (.posted demoBody)).device 2 = some [1] := by
    decide
  have hcommit : InTime demoSetting (demoAt (.posted demoBody)) (.commit 0 0) := by
    intro a ha _ _ _
    obtain rfl := Option.some.inj ha
    exact hstores
  unfold demoActivate
  rw [events_append, run_demoMet, events_append, run_demoPost]
  simp only [List.forall_mem_append, events_cons, events_nil, List.forall_mem_singleton]
  exact ⟨inTime_server demoStart Circles.demoJoin, hpost, hcommit⟩

theorem run_demoActivate : run (step demoSetting) demoStart demoActivate = demoCommitted := by
  unfold demoActivate
  rw [run_append, run_demoMet, run_append, run_demoPost]
  exact step_demoCommit

/-- The member has a wrap of the key that the owner has. -/
theorem keys_agree_activated :
    (∀ e ∈ events (step demoSetting) demoStart demoActivate, InTime demoSetting e.pre e.act) ∧
      Agrees demoSetting (run (step demoSetting) demoStart demoActivate) ∧
      ((run (step demoSetting) demoStart demoActivate).server.db.circles.find? "c").map
        Circles.Circle.key_epoch = some 2 := by
  refine ⟨inTime_demoActivate, keys_agree demoSetting 0 Table.empty demoOwnerDevice demoActivate
    inTime_demoActivate, ?_⟩
  rw [run_demoActivate]
  decide

/-- **The response of a commit is lost and the owner tries again**: the second attempt is
refused, and its key has taken the place of the one the member was sent. -/
theorem key_replaced :
    ¬ Agrees demoSetting (run (step demoSetting) demoStart (demoActivate ++ demoRetry)) := by
  rw [run_append, run_demoActivate]
  intro h
  have hepoch : ((run (step demoSetting) demoCommitted demoRetry).server.db.circles.find? "c").map
      Circles.Circle.key_epoch = some 2 := by
    decide
  have hlive : (run (step demoSetting) demoCommitted demoRetry).live.find? 2 = some [2] := by
    decide
  have hsent : some [1] ∈ (run (step demoSetting) demoCommitted demoRetry).memberWraps.map
      demoCrypto.keyOf := by
    decide
  obtain ⟨c, hc, he⟩ := Option.map_eq_some_iff.1 hepoch
  obtain ⟨key, hkey, _, hwraps⟩ := h c hc 2 he le_rfl
  obtain ⟨w, hw, hof⟩ := List.mem_map.1 hsent
  have hone : some key = some [1] := (hwraps w hw).symm.trans hof
  rw [← hkey, hlive] at hone
  cases hone

end EpochKeys
end Pwa
end SentinelMesh
