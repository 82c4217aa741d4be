/-
# The connection of a circle

`useCircleWsConnection` of `services/circleWebSocket.ts`: the messages of the socket, and
`handleEnvelope`, which takes the roster when it is called and goes on twice later, when the
key has been loaded and when the envelope has been decrypted.  A call is one of a list, with
the roster it took; in between anything may happen.

A connection that was closed because the client itself was removed does not come back; one
that fails does, and no message of the model is one of a connection that is down.  What a
call of an earlier connection dispatches is an action of its own.
-/

import SentinelMesh.Lib.Run
import SentinelMesh.Pwa.CircleStore

namespace SentinelMesh
namespace Pwa
namespace CircleClient

open Lib CircleStore
open Circles (Token CircleDetail)
open CircleLocation (Crypto VerifiedCircleLocationV1 decryptCircleLocationV1)

/-- `CircleLocationEnvelopeV1`, as far as it is read. -/
structure CircleLocationEnvelopeV1 where
  circle_id : Uuid
  key_epoch : ℤ
  ciphertext : String
  deriving DecidableEq

/-- `CircleWsMessage`. -/
inductive CircleWsMessage
  | snapshot (payload : List CircleLocationEnvelopeV1)
  | envelope (payload : CircleLocationEnvelopeV1)
  | epochChanged (circle_id : Uuid) (key_epoch : ℤ) (rekey_required : Bool)
  | memberRemoved (circle_id : Uuid) (token : Token)

/-- `LastSeen`. -/
structure LastSeen where
  event_id : String
  captured_at : ℤ
  deriving DecidableEq

/-- Where a call of `handleEnvelope` is. -/
inductive Stage
  | loadingKey
  | decrypting (key : Bytes) (now : ℤ)
  | finished
  deriving DecidableEq

/-- A call of `handleEnvelope`, with the roster it took. -/
structure Call where
  env : CircleLocationEnvelopeV1
  pubkeys : List Pubkey
  stage : Stage

/-- The client: its store and what the hook keeps. -/
structure Client where
  store : CirclesState := {}
  rosterRef : Roster := { pubkeys := [], epoch := 1, selfToken := none }
  seenRef : Table Pubkey LastSeen := Table.empty
  calls : List Call := []
  /-- The client was removed: the socket is closed for good. -/
  closed : Bool := false

/-- What happens to a client. -/
inductive Action
  /-- A message of the socket. -/
  | message (msg : CircleWsMessage)
  /-- The component renders. -/
  | render
  /-- The key of a call has been loaded, or is not there. -/
  | keyLoaded (i : ℕ) (key : Option Bytes) (now : ℤ)
  /-- A call ends with an exception. -/
  | threw (i : ℕ)
  /-- The envelope of a call has been decrypted. -/
  | decrypted (i : ℕ)
  /-- Another part of the client dispatches: a call of an earlier connection, or a load. -/
  | dispatch (action : CirclesAction)

/-! ### Envelopes -/

/-- `handleEnvelope` up to its first `await`. -/
def Client.handleEnvelope (s : Client) (env : CircleLocationEnvelopeV1) : Client :=
  if env.key_epoch ≠ s.rosterRef.epoch then s
  else
    { s with
      calls := s.calls ++ [{ env, pubkeys := s.rosterRef.pubkeys, stage := .loadingKey }] }

/-- The stage of a call. -/
def Client.stage (s : Client) (i : ℕ) : Option Stage := (s.calls[i]?).map Call.stage

/-- The client with a call at another stage. -/
def Client.setStage (s : Client) (i : ℕ) (stage : Stage) : Client :=
  { s with calls := s.calls.modify i fun c => { c with stage } }

/-- The client after a dispatch. -/
def Client.dispatch (s : Client) (action : CirclesAction) : Client :=
  { s with store := s.store.reduce action }

/-- `handleEnvelope` between its two `await`s. -/
def Client.keyLoaded (s : Client) (i : ℕ) (key : Option Bytes) (now : ℤ) : Client :=
  if s.stage i ≠ some .loadingKey then s
  else match key with
    | none => (s.dispatch (.circleDecryptError "circle key unavailable")).setStage i .finished
    | some key => s.setStage i (.decrypting key now)

/-- What the decryption of a call returns. -/
def Call.decrypted (crypto : Crypto) (c : Call) : Option VerifiedCircleLocationV1 :=
  match c.stage with
  | .decrypting key now =>
    decryptCircleLocationV1 crypto key c.env.ciphertext c.env.circle_id c.env.key_epoch c.pubkeys now
  | _ => none

/-- A duplicate of the last location of its signer, or older. -/
def Client.seen (s : Client) (loc : VerifiedCircleLocationV1) : Bool :=
  (s.seenRef.find? (toAsciiLowercase loc.pubkey)).any fun last =>
    decide (last.event_id = loc.event_id ∨ loc.captured_at < last.captured_at)

/-- The location of an envelope, as it is dispatched. -/
def received (loc : VerifiedCircleLocationV1) : CirclesAction :=
  .locationReceived (toAsciiLowercase loc.pubkey)
    { lat := loc.lat
      lng := loc.lng
      ts := loc.captured_at
      event_id := loc.event_id
      expires_at := loc.expires_at
      accuracy_m := loc.accuracy_m
      precision := loc.precision }

/-- What a call whose decryption is due goes on to show. -/
def Client.fresh (crypto : Crypto) (s : Client) (i : ℕ) : Option VerifiedCircleLocationV1 := do
  let call ← s.calls[i]?
  let loc ← call.decrypted crypto
  guard (s.seen loc = false)
  pure loc

/-- `handleEnvelope` after its second `await`. -/
def Client.decrypted (crypto : Crypto) (s : Client) (i : ℕ) : Client :=
  match s.fresh crypto i with
  | none => match s.stage i with
    | some (.decrypting _ _) => s.setStage i .finished
    | _ => s
  | some loc =>
    let last := { event_id := loc.event_id, captured_at := loc.captured_at }
    ({ s with seenRef := s.seenRef.put (toAsciiLowercase loc.pubkey) last }.dispatch
      (received loc)).setStage i .finished

/-! ### The socket -/

/-- `ws.onmessage`. -/
def Client.onmessage (s : Client) : CircleWsMessage → Client
  | .snapshot payload => payload.foldl Client.handleEnvelope s
  | .envelope payload => s.handleEnvelope payload
  | .epochChanged circle_id key_epoch rekey_required =>
    s.dispatch (.circleEpochChanged circle_id key_epoch rekey_required)
  | .memberRemoved circle_id token =>
    if s.rosterRef.selfToken = some token then { s.dispatch .circleLeft with closed := true }
    else s.dispatch (.memberRemoved circle_id none (some token))

/-- What one action does to the client of a circle. -/
def step (crypto : Crypto) (circleId : Uuid) (s : Client) : Action → Client
  | .message msg => if s.closed then s else s.onmessage msg
  | .render => { s with rosterRef := s.store.roster circleId }
  | .keyLoaded i key now => s.keyLoaded i key now
  | .threw i => s.setStage i .finished
  | .decrypted i => s.decrypted crypto i
  | .dispatch action => s.dispatch action

/-- What an action dispatches. -/
def dispatched (crypto : Crypto) (s : Client) : Action → Option CirclesAction
  | .message msg =>
    if s.closed then none
    else match msg with
      | .snapshot _ => none
      | .envelope _ => none
      | .epochChanged circle_id key_epoch rekey_required =>
        some (.circleEpochChanged circle_id key_epoch rekey_required)
      | .memberRemoved circle_id token =>
        if s.rosterRef.selfToken = some token then some .circleLeft
        else some (.memberRemoved circle_id none (some token))
  | .render => none
  | .keyLoaded i key _ =>
    if s.stage i = some .loadingKey ∧ key = none then
      some (.circleDecryptError "circle key unavailable")
    else none
  | .threw _ => none
  | .decrypted i => (s.fresh crypto i).map received
  | .dispatch action => some action

/-- A load by `useCircles`, and the render that follows. -/
def Client.load (s : Client) (circleId : Uuid) (labels : Labels) (key : Option Bytes)
    (detail : CircleDetail) : Client :=
  let (circle, members) := toCircleAndMembers labels key detail
  let store := (s.store.circleLoaded circle members).circleEpochChanged circle.circle_id
    circle.key_epoch circle.rekey_required
  { s with store, rosterRef := store.roster circleId }

/-! ### What a step leaves -/

@[simp] theorem dispatch_store (s : Client) (action : CirclesAction) :
    (s.dispatch action).store = s.store.reduce action := rfl

@[simp] theorem dispatch_closed (s : Client) (action : CirclesAction) :
    (s.dispatch action).closed = s.closed := rfl

@[simp] theorem dispatch_calls (s : Client) (action : CirclesAction) :
    (s.dispatch action).calls = s.calls := rfl

@[simp] theorem setStage_store (s : Client) (i : ℕ) (stage : Stage) :
    (s.setStage i stage).store = s.store := rfl

@[simp] theorem setStage_closed (s : Client) (i : ℕ) (stage : Stage) :
    (s.setStage i stage).closed = s.closed := rfl

@[simp] theorem setStage_calls (s : Client) (i : ℕ) (stage : Stage) :
    (s.setStage i stage).calls = s.calls.modify i fun c => { c with stage } := rfl

/-- An envelope adds calls, and nothing else. -/
theorem handleEnvelope_eq (s : Client) (env : CircleLocationEnvelopeV1) :
    ∃ calls, s.handleEnvelope env = { s with calls := s.calls ++ calls } := by
  unfold Client.handleEnvelope
  split
  · exact ⟨[], by rw [List.append_nil]⟩
  · exact ⟨_, rfl⟩

theorem handleEnvelopes_eq (s : Client) (envs : List CircleLocationEnvelopeV1) :
    ∃ calls, envs.foldl Client.handleEnvelope s = { s with calls := s.calls ++ calls } := by
  induction envs generalizing s with
  | nil => exact ⟨[], by rw [List.append_nil]; rfl⟩
  | cons env envs ih =>
      obtain ⟨calls, hcalls⟩ := handleEnvelope_eq s env
      obtain ⟨calls', hcalls'⟩ := ih (s.handleEnvelope env)
      refine ⟨calls ++ calls', ?_⟩
      rw [List.foldl_cons, hcalls', hcalls, List.append_assoc]

/-- **The store of a step is what it dispatches makes of it.** -/
theorem store_step (crypto : Crypto) (circleId : Uuid) (s : Client) (a : Action) :
    (step crypto circleId s a).store =
      (dispatched crypto s a).elim s.store s.store.reduce := by
  cases a with
  | message msg =>
    unfold step dispatched
    dsimp only
    split
    · rfl
    · cases msg with
      | snapshot payload =>
        obtain ⟨calls, hcalls⟩ := handleEnvelopes_eq s payload
        simp only [Client.onmessage, hcalls, Option.elim_none]
      | envelope payload =>
        obtain ⟨calls, hcalls⟩ := handleEnvelope_eq s payload
        simp only [Client.onmessage, hcalls, Option.elim_none]
      | epochChanged => rfl
      | memberRemoved circle_id token =>
        unfold Client.onmessage
        dsimp only
        split
        · rfl
        · rfl
  | render => rfl
  | keyLoaded i key now =>
    unfold step dispatched Client.keyLoaded
    dsimp only
    by_cases hstage : s.stage i = some .loadingKey
    · rw [if_neg (not_not.2 hstage)]
      cases key with
      | none => simp [hstage]
      | some key => simp
    · rw [if_pos hstage, if_neg fun h => hstage h.1]
      rfl
  | threw i => rfl
  | decrypted i =>
    unfold step dispatched Client.decrypted
    dsimp only
    cases s.fresh crypto i with
    | none =>
      dsimp only
      split <;> rfl
    | some loc => rfl
  | dispatch action => rfl

/-- **A client that was removed stays so.**  Its socket is closed by the message of its own
removal alone. -/
theorem closed_step (crypto : Crypto) (circleId : Uuid) (s : Client) (a : Action) :
    (step crypto circleId s a).closed = true ↔
      s.closed = true ∨ ∃ circle_id token, a = .message (.memberRemoved circle_id token) ∧
        s.rosterRef.selfToken = some token := by
  cases a with
  | message msg =>
    unfold step
    dsimp only
    split
    · rename_i hclosed
      simp [hclosed]
    · rename_i hclosed
      have hopen : s.closed = false := by simpa using hclosed
      cases msg with
      | snapshot payload =>
        obtain ⟨calls, hcalls⟩ := handleEnvelopes_eq s payload
        simp [Client.onmessage, hcalls]
      | envelope payload =>
        obtain ⟨calls, hcalls⟩ := handleEnvelope_eq s payload
        simp [Client.onmessage, hcalls]
      | epochChanged => simp [Client.onmessage]
      | memberRemoved circle_id token =>
        unfold Client.onmessage
        dsimp only
        split
        · rename_i hself
          simp [hself]
        · rename_i hself
          simp [hopen, hself]
  | render => simp [step]
  | keyLoaded i key now =>
    unfold step Client.keyLoaded
    dsimp only
    split
    · simp
    · cases key with
      | none => simp
      | some key => simp
  | threw i => simp [step]
  | decrypted i =>
    unfold step Client.decrypted
    dsimp only
    split
    · split <;> simp
    · simp
  | dispatch action => simp [step]

end CircleClient
end Pwa
end SentinelMesh
