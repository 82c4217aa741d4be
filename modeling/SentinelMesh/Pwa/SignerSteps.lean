/-
# What a timely step of the signer does

A call of `open`, `disconnectBunker` or `signWithActiveIdentity` that another has overtaken
goes on as if it were alone.  A step is `Timely` if no overtaken call makes a session,
stores a connection or publishes it once stored, if the calls begun before have settled when
a session is made or a disconnection is over, and if no disconnection was called while a
reconnection read.

`step_does` is the inversion of the step function under that condition.  All but the
beginning of a call and the making of a session is one case of it (`Moves`): a call moves
on, and may close the session, store and publish.
-/

import SentinelMesh.Pwa.Signer
import Mathlib.Tactic.Common

namespace SentinelMesh
namespace Pwa
namespace Signer

/-! ### Where a call waits -/

/-- The call is in `open` before its session. -/
def Task.isOpening : Task → Bool
  | .opening _ _ => true
  | _ => false

/-- The call may still close a session or publish one. -/
def Task.isActive : Task → Bool
  | .opening _ _ | .session _ _ | .signing _ _ _ | .signFailed _ _ _ => true
  | _ => false

/-- The call may still become active, or is. -/
def Task.isWaiting : Task → Bool
  | .loading | .loaded _ => true
  | t => t.isActive

/-- The call has a session and has not failed. -/
def Task.isGoing : Task → Bool
  | .session _ (.close _) => false
  | .session _ _ => true
  | _ => false

/-- The call has looked at the generation. -/
def Task.isSaving : Task → Bool
  | .session _ .save | .session _ .saved => true
  | _ => false

/-- The call is a disconnection, or had nothing to do. -/
def Task.isEnding : Task → Bool
  | .closing | .clearing | .cleared | .settled none => true
  | _ => false

/-! ### Timely steps -/

/-- Whatever began before the turn and was active has settled. -/
def SettledBefore (s : Sys) (turn : ℕ) : Prop :=
  ∀ c ∈ s.calls, c.task.isActive = true → turn ≤ c.turn

instance (s : Sys) (turn : ℕ) : Decidable (SettledBefore s turn) :=
  inferInstanceAs (Decidable (∀ c ∈ s.calls, c.task.isActive = true → turn ≤ c.turn))

/-- The call goes on in time: a session is made, stored, or published once stored, only if no
connection and no disconnection has begun since; what was begun before has settled when a
session is made or a disconnection ends; and a connection that was read is opened only if no
disconnection was called since the call. -/
def Call.Timely (s : Sys) (c : Call) : Reply → Prop
  | .closed _ => c.task.isOpening = true → c.turn = s.turns ∧ SettledBefore s s.turns
  | .resolves =>
    (c.task.isSaving = true → c.turn = s.turns) ∧
      (c.task = .cleared → SettledBefore s c.turn) ∧
        (c.task.isWaiting = true → c.task.isActive = false →
          ∀ d ∈ s.calls, d.name = .disconnectBunker → d.turn ≤ c.turn)
  | _ => True

/-- The step is timely. -/
def Timely (s : Sys) : Act → Prop
  | .reply x r => ∀ c ∈ s.calls[x]?, c.Timely s r
  | _ => True

instance (s : Sys) (c : Call) (r : Reply) : Decidable (c.Timely s r) := by
  cases r <;> unfold Call.Timely <;> infer_instance

instance (s : Sys) (a : Act) : Decidable (Timely s a) := by
  cases a <;> unfold Timely <;> infer_instance

/-! ### What a step does -/

/-- A call moves on: it may close what there is, store, and publish, but begins nothing. -/
structure Moves (s : Sys) (x : ℕ) (c : Call) (t : Task) (s' : Sys) : Prop where
  calls : s'.calls = s.calls.set x { c with task := t }
  turns : s'.turns = s.turns
  generation : s.generation ≤ s'.generation
  remote : s'.remote = s.remote ∨
    (s'.remote = none ∧ c.task.isActive = true ∧ t.isGoing = false)
  opening : t.isOpening = false
  active : t.isActive = true → c.task.isActive = true ∧ t.session? = c.task.session?
  session : ∀ σ, t.session? = some σ → c.task.session? = some σ
  going : t.isGoing = true → c.task.isGoing = true
  saving : t.isSaving = true → c.task.isSaving = true ∨
    s.remote.map Session.generation = t.session?.map Session.generation
  waiting : t.isWaiting = true → c.task.isWaiting = true
  stored : s'.stored = s.stored ∨ s'.stored = none ∨
    (c.task.isWaiting = true ∧ c.turn = s.turns)
  identity : s'.identity = s.identity ∨ s'.identity.mode = .localKey ∨
    (c.task.isActive = true ∧ t.isGoing = false) ∨
      (s.remote.isSome = true ∧ s'.identity.status = .authorizationRequired)
  published : s'.published = s.published ∨ ∃ next, s'.published = s.published ++ [(next, s.remote)] ∧
    (next.mode = .bunker → next.status = .ready → ∃ σ, c.task.session? = some σ ∧
      next.pubkey = σ.userPubkey ∧ ((c.task.isSaving = true ∧ c.turn = s.turns) ∨
        s.remote.map Session.generation = some σ.generation))
  ending : c.task.isEnding = true → t.isEnding = true ∧
    (t = .cleared → s'.stored = none) ∧
      (t.isSettled = true → c.task = .cleared ∧ s'.stored = s.stored ∧
        s'.identity.mode = .localKey ∧ SettledBefore s c.turn)

/-- What a timely step can do. -/
inductive Does (s : Sys) : Sys → Prop
  | nothing : Does s s
  | connects (stored : StoredBunkerConnection) (persist : Bool) :
      Does s (s.begins .connectBunker (.opening stored persist))
  | disconnects : Does s (s.begins .disconnectBunker .closing)
  | reconnects : Does s (s.waits { name := .reconnectBunker, turn := s.turns, task := .loading })
  | signs (current : Session) (template : EventTemplate) (hremote : s.remote = some current)
      (hready : s.identity.mode = .bunker ∧ s.identity.status = .ready) :
      Does s (s.waits
        { name := .signWithActiveIdentity
          turn := s.turns
          task := .signing current s.identity template })
  | opens (x : ℕ) (c : Call) (stored : StoredBunkerConnection) (hc : s.calls[x]? = some c)
      (hloaded : c.task = .loaded (some stored))
      (hlast : ∀ d ∈ s.calls, d.name = .disconnectBunker → d.turn ≤ c.turn) : Does s
      ({ s.closeRemote with turns := s.turns + 1 }.goes x { c with turn := s.turns + 1 }
        (.opening stored false))
  | installs (x : ℕ) (c : Call) (stored : StoredBunkerConnection) (persist : Bool)
      (userPubkey : Pubkey) (hc : s.calls[x]? = some c) (hopening : c.task = .opening stored persist)
      (hturn : c.turn = s.turns) (hsettled : SettledBefore s s.turns) :
      Does s (s.install x c stored persist userPubkey)
  | moves (x : ℕ) (c : Call) (t : Task) (s' : Sys) (hc : s.calls[x]? = some c)
      (h : Moves s x c t s') : Does s s'

variable {localPubkey : Pubkey} {s s' : Sys} {x : ℕ} {c : Call} {a : Act}

/-- A call that moves without touching a variable. -/
theorem moves_goes (t : Task) (hopening : t.isOpening = false)
    (hactive : t.isActive = true → c.task.isActive = true ∧ t.session? = c.task.session?)
    (hsession : ∀ σ, t.session? = some σ → c.task.session? = some σ)
    (hgoing : t.isGoing = true → c.task.isGoing = true)
    (hsaving : t.isSaving = true → c.task.isSaving = true ∨
      s.remote.map Session.generation = t.session?.map Session.generation)
    (hwaiting : t.isWaiting = true → c.task.isWaiting = true)
    (hending : c.task.isEnding = true → t = .clearing) : Moves s x c t (s.goes x c t) where
  calls := rfl
  turns := rfl
  generation := le_rfl
  remote := Or.inl rfl
  opening := hopening
  active := hactive
  session := hsession
  going := hgoing
  saving := hsaving
  waiting := hwaiting
  stored := Or.inl rfl
  identity := Or.inl rfl
  published := Or.inl rfl
  ending h := by
    rw [hending h]
    exact ⟨rfl, nofun, nofun⟩

/-- A call that fails: it closes what there is. -/
theorem moves_fails (t : Task) (hc : c.task.isActive = true) (hc' : c.task.isEnding = false)
    (hopening : t.isOpening = false) (hgoing : t.isGoing = false)
    (hsaving : t.isSaving = false) (hsession : t.session? = c.task.session?)
    (hwaiting : c.task.isWaiting = true) : Moves s x c t (s.closeRemote.goes x c t) where
  calls := rfl
  turns := rfl
  generation := Nat.le_succ _
  remote := Or.inr ⟨rfl, hc, hgoing⟩
  opening := hopening
  active _ := ⟨hc, hsession⟩
  session _ h := hsession ▸ h
  going h := by simp [hgoing] at h
  saving h := by simp [hsaving] at h
  waiting _ := hwaiting
  stored := Or.inl rfl
  identity := Or.inl rfl
  published := Or.inl rfl
  ending h := by simp [hc'] at h

/-- A call that settles: it publishes. -/
theorem moves_publish (o : Option Opened) (next : ActiveIdentity) (hc : c.task.isActive = true)
    (hc' : c.task.isEnding = false)
    (hsession : ∀ σ, (Task.settled o).session? = some σ → c.task.session? = some σ)
    (hnext : next.mode = .bunker → next.status = .ready → ∃ σ, c.task.session? = some σ ∧
      next.pubkey = σ.userPubkey ∧ ((c.task.isSaving = true ∧ c.turn = s.turns) ∨
        s.remote.map Session.generation = some σ.generation)) :
    Moves s x c (.settled o) ((s.goes x c (.settled o)).publish next) where
  calls := rfl
  turns := rfl
  generation := le_rfl
  remote := Or.inl rfl
  opening := rfl
  active := nofun
  session := hsession
  going := nofun
  saving := nofun
  waiting := nofun
  stored := Or.inl rfl
  identity := Or.inr (Or.inr (Or.inl ⟨hc, rfl⟩))
  published := Or.inr ⟨next, rfl, hnext⟩
  ending h := by simp [hc'] at h

/-- A disconnection that clears the store. -/
theorem moves_clears : Moves s x c .cleared ({ s with stored := none }.goes x c .cleared) where
  calls := rfl
  turns := rfl
  generation := le_rfl
  remote := Or.inl rfl
  opening := rfl
  active := nofun
  session := nofun
  going := nofun
  saving := nofun
  waiting := nofun
  stored := Or.inr (Or.inl rfl)
  identity := Or.inl rfl
  published := Or.inl rfl
  ending _ := ⟨rfl, fun _ => rfl, nofun⟩

/-- A disconnection that ends: it publishes the key of the device. -/
theorem moves_ends {localPubkey : Pubkey} (ht : c.task = .cleared) (hbefore : SettledBefore s c.turn) :
    Moves s x c (.settled none) ((s.goes x c (.settled none)).publish
      { mode := .localKey, pubkey := localPubkey, status := .ready }) where
  calls := rfl
  turns := rfl
  generation := le_rfl
  remote := Or.inl rfl
  opening := rfl
  active := nofun
  session := nofun
  going := nofun
  saving := nofun
  waiting := nofun
  stored := Or.inl rfl
  identity := Or.inr (Or.inl rfl)
  published := Or.inr ⟨_, rfl, nofun⟩
  ending _ := ⟨rfl, nofun, fun _ => ⟨ht, rfl, rfl, hbefore⟩⟩

/-- A call whose signer asks for an authorization. -/
theorem onauth_does (o : Opened) (t : Opened → Task) (url : String) (hc : s.calls[x]? = some c)
    (ht : c.task = t o) (hsession : (t { o with approvalUrl := some url }).session? = (t o).session?)
    (hopening : (t { o with approvalUrl := some url }).isOpening = false)
    (hactive : (t { o with approvalUrl := some url }).isActive = (t o).isActive)
    (hgoing : (t { o with approvalUrl := some url }).isGoing = (t o).isGoing)
    (hsaving : (t { o with approvalUrl := some url }).isSaving = (t o).isSaving)
    (hwaiting : (t { o with approvalUrl := some url }).isWaiting = (t o).isWaiting)
    (hending : (t o).isEnding = false) : Does s (s.onauth x c o t url) := by
  unfold Sys.onauth
  split_ifs with hgen
  · exact .nothing
  · rw [ne_eq, not_not] at hgen
    refine .moves x c _ _ hc
      { calls := rfl
        turns := rfl
        generation := le_rfl
        remote := Or.inl rfl
        opening := hopening
        active := fun h => ⟨by rw [ht, ← hactive, h], by rw [ht, hsession]⟩
        session := fun σ h => by rw [ht, ← hsession, h]
        going := fun h => by rw [ht, ← hgoing, h]
        saving := fun h => Or.inl (by rw [ht, ← hsaving, h])
        waiting := fun h => by rw [ht, ← hwaiting, h]
        stored := Or.inl rfl
        identity := Or.inr (Or.inr (Or.inr ⟨?_, rfl⟩))
        published := Or.inr ⟨_, rfl, nofun⟩
        ending := fun h => by rw [ht, hending] at h; cases h }
    cases hr : s.remote with
    | none => simp [hr] at hgen
    | some r => rfl

/-- `open` going on, in its `try`. -/
theorem openResolves_does {o : Opened} {await : Await} (hc : s.calls[x]? = some c)
    (ht : c.task = .session o await) (htimely : c.task.isSaving = true → c.turn = s.turns) :
    Does s (s.openResolves x c o await) := by
  have hactive : c.task.isActive = true := by rw [ht]; rfl
  have hending : c.task.isEnding = false := by rw [ht]; rfl
  have hwaiting : c.task.isWaiting = true := by rw [ht]; rfl
  have hsession : c.task.session? = some o.session := by rw [ht]; rfl
  have hgoes : ∀ next : Await, (Task.session o await).isGoing = true →
      ((Task.session o next).isSaving = true →
        s.remote.map Session.generation = some o.session.generation) →
      Does s (s.goes x c (.session o next)) := fun next hgoing hsaving =>
    .moves x c _ _ hc (moves_goes (.session o next) rfl (fun _ => ⟨hactive, hsession.symm⟩)
      (fun _ h => hsession.trans h) (fun _ => by rw [ht, hgoing])
      (fun h => Or.inr (hsaving h)) (fun _ => hwaiting)
      (fun h => by rw [hending] at h; cases h))
  have hfails : ∀ message, Does s (s.openFails x c o message) := fun message =>
    .moves x c _ _ hc (moves_fails _ hactive hending rfl rfl rfl hsession.symm hwaiting)
  have hready : ((c.task.isSaving = true ∧ c.turn = s.turns) ∨
      s.remote.map Session.generation = some o.session.generation) → Does s (s.ready x c o) :=
    fun h => .moves x c _ _ hc (moves_publish _ _ hactive hending (fun _ h => hsession.trans h)
      fun _ _ => ⟨o.session, hsession, rfl, h⟩)
  cases await with
  | connect => exact hgoes .getPublicKey rfl nofun
  | getPublicKey =>
      simp only [Sys.openResolves]
      split_ifs
      · exact hfails _
      · exact hfails _
      · exact hgoes .ping rfl nofun
  | ping =>
      simp only [Sys.openResolves]
      split_ifs with hgen
      · exact hfails _
      · exact hgoes .save rfl fun _ => not_not.1 hgen
      · exact hready (Or.inr (not_not.1 hgen))
  | save =>
      refine .moves x c (.session o .saved) _ hc
        { moves_goes (s := s) (x := x) (c := c) (.session o .saved) rfl
            (fun _ => ⟨hactive, hsession.symm⟩) (fun _ h => hsession.trans h)
            (fun _ => by rw [ht]; rfl) (fun _ => Or.inl (by rw [ht]; rfl)) (fun _ => hwaiting)
            (fun h => by rw [hending] at h; cases h) with
          stored := Or.inr (Or.inr ⟨hwaiting, htimely (by rw [ht]; rfl)⟩)
          ending := fun h => by rw [hending] at h; cases h }
  | saved =>
      have hsaving : c.task.isSaving = true := by rw [ht]; rfl
      exact hready (Or.inl ⟨hsaving, htimely hsaving⟩)
  | close message =>
      exact .moves x c _ _ hc (moves_publish _ _ hactive hending (fun _ h => hsession.trans h) nofun)

/-- `open` going on after a rejection. -/
theorem rejects_does {o : Opened} {await : Await} (message : String) (hc : s.calls[x]? = some c)
    (ht : c.task = .session o await) : Does s (s.openFails x c o message) := by
  refine .moves x c _ _ hc (moves_fails _ ?_ ?_ rfl rfl rfl ?_ ?_)
  all_goals rw [ht]; rfl

/-- `signWithActiveIdentity` going on. -/
theorem signFails_does {current : Session} {active : ActiveIdentity} {template : EventTemplate}
    (message : String) (hc : s.calls[x]? = some c) (ht : c.task = .signing current active template) :
    Does s (s.signFails x c current active message) := by
  refine .moves x c _ _ hc (moves_fails _ ?_ ?_ rfl rfl rfl ?_ ?_)
  all_goals rw [ht]; rfl

/-- A call that settles without a word. -/
theorem settles_does (hc : s.calls[x]? = some c) (hending : c.task.isEnding = false) :
    Does s (s.goes x c (.settled none)) :=
  .moves x c _ _ hc (moves_goes _ rfl nofun nofun nofun nofun nofun
    fun h => by rw [hending] at h; cases h)

/-- A signature that comes: it is returned, unless it is of another session or of another event. -/
theorem signs_does {current : Session} {active : ActiveIdentity} {template : EventTemplate}
    (event : SignedEvent) (hc : s.calls[x]? = some c) (ht : c.task = .signing current active template) :
    Does s (s.signs x c current active template event) := by
  unfold Sys.signs
  split_ifs
  · exact signFails_does _ hc ht
  · exact signFails_does _ hc ht
  · exact settles_does hc (by rw [ht]; rfl)

/-- **What a reply does.** -/
theorem hear_does (r : Reply) (hc : s.calls[x]? = some c) (htimely : c.Timely s r) :
    Does s (hear localPubkey s x c r) := by
  unfold hear
  cases ht : c.task with
  | loading =>
      cases r with
      | reads ok =>
          refine .moves x c _ _ hc (moves_goes (.loaded _) rfl nofun nofun nofun nofun (fun _ => ?_) ?_)
          · rw [ht]
            rfl
          · intro h
            rw [ht] at h
            cases h
      | _ => exact .nothing
  | loaded found =>
      cases r with
      | resolves =>
          cases found with
          | none => exact settles_does hc (by rw [ht]; rfl)
          | some stored =>
              exact .opens x c stored hc ht (htimely.2.2 (by rw [ht]; rfl) (by rw [ht]; rfl))
      | _ => exact .nothing
  | opening stored persist =>
      cases r with
      | closed userPubkey =>
          obtain ⟨hturn, hsettled⟩ := htimely (by rw [ht]; rfl)
          exact .installs x c stored persist userPubkey hc ht hturn hsettled
      | _ => exact .nothing
  | session o await =>
      cases r with
      | resolves => exact openResolves_does hc ht htimely.1
      | rejects message =>
          cases await with
          | saved => exact .nothing
          | close _ => exact .nothing
          | _ => exact rejects_does message hc ht
      | onauth url =>
          refine onauth_does o (fun o => .session o await) url hc ht rfl rfl rfl ?_ ?_ rfl rfl
          all_goals cases await <;> rfl
      | _ => exact .nothing
  | closing =>
      cases r with
      | resolves => exact .moves x c _ _ hc (moves_goes _ rfl nofun nofun nofun nofun nofun fun _ => rfl)
      | _ => exact .nothing
  | clearing =>
      cases r with
      | resolves =>
          exact .moves x c .cleared _ hc moves_clears
      | _ => exact .nothing
  | cleared =>
      cases r with
      | resolves =>
          exact .moves x c (.settled none) _ hc (moves_ends ht (htimely.2.1 ht))
      | _ => exact .nothing
  | signing current active template =>
      cases r with
      | signs event => exact signs_does event hc ht
      | rejects message => exact signFails_does message hc ht
      | _ => exact .nothing
  | signFailed current active message =>
      cases r with
      | resolves =>
          refine .moves x c _ _ hc (moves_publish none _ ?_ ?_ nofun nofun)
          all_goals rw [ht]; rfl
      | _ => exact .nothing
  | settled o =>
      cases o with
      | none => exact .nothing
      | some o =>
          cases r with
          | onauth url =>
              exact onauth_does o (fun o => .settled (some o)) url hc ht rfl rfl rfl rfl rfl rfl rfl
          | _ => exact .nothing

/-- **What a timely step does.** -/
theorem step_does (localPubkey : Pubkey) (htimely : Timely s a) : Does s (step localPubkey s a) := by
  cases a with
  | connectBunker p key => exact .connects _ _
  | reconnectBunker => exact .reconnects
  | disconnectBunker => exact .disconnects
  | signWithActiveIdentity template =>
      simp only [step]
      cases hr : s.remote with
      | none => exact .nothing
      | some current =>
          dsimp only
          split_ifs with hready
          · exact .signs current template hr hready
          · exact .nothing
  | reply x r =>
      simp only [step]
      cases hc : s.calls[x]? with
      | none => exact .nothing
      | some c => exact hear_does r hc (htimely c hc)

end Signer
end Pwa
end SentinelMesh
