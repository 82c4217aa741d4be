/-
# The remote signer

`services/signerService.ts`: the variables of the module, and its calls as they go on from
one `await` to the next.  A call is where it waits, with the variables it still needs; a
reply is how what it waits for ends, so that a list of actions is an interleaving.

The signer of `nostr-tools` is seen by how its promises end, a deadline being a rejection,
and by the identity it would answer with.  `closeRemote` is its first part, up to the
`await`: the variables are as they are left there.  The stored connection is written when
the transaction completes, which is before the call that awaits it goes on; deleting it
succeeds.  A `bunker://` text that does not parse starts no call.

Two parts of the state are there for what is said of it: the number of times a connection
or a disconnection has begun, and what was published, with the session there was then.
-/

import SentinelMesh.Pwa.Vault

namespace SentinelMesh
namespace Pwa
namespace Signer

/-- `BunkerPointer`. -/
structure BunkerPointer where
  pubkey : Pubkey
  relays : List String
  secret : Option String
  deriving DecidableEq

/-- `StoredBunkerConnection`. -/
structure StoredBunkerConnection where
  clientSecretKey : Bytes
  bunkerPubkey : Pubkey
  relays : List String
  secret : Option String
  expectedPubkey : Pubkey
  deriving DecidableEq

/-- `SignerMode`; `localKey` is `'local'`. -/
inductive SignerMode
  | localKey
  | bunker
  | nip07
  deriving DecidableEq

/-- `SignerStatus`. -/
inductive SignerStatus
  | ready
  | connecting
  | offline
  | authorizationRequired
  | error
  deriving DecidableEq

/-- `ActiveIdentity`. -/
structure ActiveIdentity where
  mode : SignerMode
  pubkey : Pubkey
  status : SignerStatus
  approvalUrl : Option String := none
  error : Option String := none
  deriving DecidableEq

/-- A value of `remote`: the signer, by the call that made it and what it answers to
`getPublicKey`, and the generation. -/
structure Session where
  signer : ℕ
  userPubkey : Pubkey
  generation : ℕ
  deriving DecidableEq

/-- `EventTemplate`. -/
structure EventTemplate where
  kind : ℕ
  createdAt : ℤ
  tags : List (List String)
  content : String
  deriving DecidableEq

/-- `VerifiedEvent`, and whether `verifyEvent` accepts it. -/
structure SignedEvent extends EventTemplate where
  pubkey : Pubkey
  verified : Bool
  deriving DecidableEq

/-- The variables of `open` once it has made its session. -/
structure Opened where
  stored : StoredBunkerConnection
  persist : Bool
  session : Session
  approvalUrl : Option String := none
  deriving DecidableEq

/-- What `open` waits for with a session: one of its promises, to go on after the save, or,
in the `catch`, for `closeRemote`. -/
inductive Await
  | connect
  | getPublicKey
  | ping
  | save
  | saved
  | close (message : String)
  deriving DecidableEq

/-- Where a call waits. -/
inductive Task
  | loading
  | loaded (found : Option StoredBunkerConnection)
  | opening (stored : StoredBunkerConnection) (persist : Bool)
  | session (o : Opened) (await : Await)
  | closing
  | clearing
  | cleared
  | signing (current : Session) (active : ActiveIdentity) (template : EventTemplate)
  | signFailed (current : Session) (active : ActiveIdentity) (message : String)
  | settled (o : Option Opened)
  deriving DecidableEq

/-- The function that was called. -/
inductive Name
  | connectBunker
  | reconnectBunker
  | disconnectBunker
  | signWithActiveIdentity
  deriving DecidableEq

/-- A call, with the number of connections and disconnections begun when it began. -/
structure Call where
  name : Name
  turn : ℕ
  task : Task
  deriving DecidableEq

/-- The variables of the module, the stored connection, and the calls in order. -/
structure Sys where
  identity : ActiveIdentity
  remote : Option Session := none
  generation : ℕ := 0
  stored : Option StoredBunkerConnection
  calls : List Call := []
  turns : ℕ := 0
  published : List (ActiveIdentity × Option Session) := []
  deriving DecidableEq

/-- How something a call waits for ends.  `closed` comes with what the signer that is made
then would answer, `reads` with whether the read succeeds; `onauth` may be called with a URL
at any time. -/
inductive Reply
  | reads (ok : Bool)
  | closed (userPubkey : Pubkey)
  | resolves
  | rejects (message : String)
  | signs (event : SignedEvent)
  | onauth (url : String)
  deriving DecidableEq

/-- What can happen next: a call, or a reply to one. -/
inductive Act
  | connectBunker (pointer : BunkerPointer) (clientSecretKey : Bytes)
  | reconnectBunker
  | disconnectBunker
  | signWithActiveIdentity (template : EventTemplate)
  | reply (x : ℕ) (r : Reply)
  deriving DecidableEq

/-- The start, as `initializeActiveSigner` leaves it. -/
def Sys.init (localPubkey : Pubkey) (stored : Option StoredBunkerConnection) : Sys :=
  { stored
    identity := match stored with
      | some c => { mode := .bunker, pubkey := c.expectedPubkey, status := .offline }
      | none => { mode := .localKey, pubkey := localPubkey, status := .ready } }

/-- `publish`. -/
def Sys.publish (s : Sys) (next : ActiveIdentity) : Sys :=
  { s with identity := next, published := s.published ++ [(next, s.remote)] }

/-- `closeRemote`, before it waits for the signer. -/
def Sys.closeRemote (s : Sys) : Sys :=
  { s with remote := none, generation := s.generation + 1 }

/-- The call `x` waits somewhere else. -/
def Sys.goes (s : Sys) (x : ℕ) (c : Call) (t : Task) : Sys :=
  { s with calls := s.calls.set x { c with task := t } }

/-- A call that begins and waits. -/
def Sys.waits (s : Sys) (c : Call) : Sys := { s with calls := s.calls ++ [c] }

/-- A call that begins with `closeRemote`. -/
def Sys.begins (s : Sys) (name : Name) (t : Task) : Sys :=
  { s.closeRemote with turns := s.turns + 1 }.waits { name, turn := s.turns + 1, task := t }

/-- `/^[0-9a-f]{64}$/`. -/
def validPubkey (pubkey : Pubkey) : Bool :=
  pubkey.length = 64 && pubkey.toList.all fun c => c.isDigit || ('a' ≤ c && c ≤ 'f')

/-- `sameTemplate`. -/
def sameTemplate (template : EventTemplate) (event : SignedEvent) : Bool :=
  decide (event.toEventTemplate = template)

/-- The `catch` of `open`. -/
def Sys.openFails (s : Sys) (x : ℕ) (c : Call) (o : Opened) (message : String) : Sys :=
  s.closeRemote.goes x c (.session o (.close message))

/-- The `catch` of `signWithActiveIdentity`. -/
def Sys.signFails (s : Sys) (x : ℕ) (c : Call) (current : Session) (active : ActiveIdentity)
    (message : String) : Sys :=
  s.closeRemote.goes x c (.signFailed current active message)

/-- The end of `open`. -/
def Sys.ready (s : Sys) (x : ℕ) (c : Call) (o : Opened) : Sys :=
  (s.goes x c (.settled (some o))).publish
    { mode := .bunker
      pubkey := o.session.userPubkey
      status := .ready
      approvalUrl := o.approvalUrl }

/-- `open` goes on: what it waited for was fulfilled. -/
def Sys.openResolves (s : Sys) (x : ℕ) (c : Call) (o : Opened) : Await → Sys
  | .connect => s.goes x c (.session o .getPublicKey)
  | .getPublicKey =>
    if !validPubkey o.session.userPubkey then
      s.openFails x c o "Remote signer returned an invalid identity"
    else if o.stored.expectedPubkey ≠ "" ∧ o.stored.expectedPubkey ≠ o.session.userPubkey then
      s.openFails x c o "Remote signer identity changed"
    else s.goes x c (.session o .ping)
  | .ping =>
    if s.remote.map Session.generation ≠ some o.session.generation then
      s.openFails x c o "Remote signer session changed"
    else if o.persist then s.goes x c (.session o .save)
    else s.ready x c o
  | .save =>
    { s with stored := some { o.stored with expectedPubkey := o.session.userPubkey } }.goes x c
      (.session o .saved)
  | .saved => s.ready x c o
  | .close message =>
    (s.goes x c (.settled (some o))).publish
      { mode := .bunker
        pubkey := o.stored.expectedPubkey
        status := .error
        error := some message
        approvalUrl := o.approvalUrl }

/-- `open` goes on from its first `await`: it makes the session. -/
def Sys.install (s : Sys) (x : ℕ) (c : Call) (stored : StoredBunkerConnection) (persist : Bool)
    (userPubkey : Pubkey) : Sys :=
  let session := { signer := x, userPubkey, generation := s.generation }
  { s.publish { mode := .bunker, pubkey := stored.expectedPubkey, status := .connecting } with
    remote := some session }.goes x c (.session { stored, persist, session } .connect)

/-- `onauth`: ignored unless the generation is that of the session. -/
def Sys.onauth (s : Sys) (x : ℕ) (c : Call) (o : Opened) (t : Opened → Task) (url : String) :
    Sys :=
  if s.remote.map Session.generation ≠ some o.session.generation then s
  else (s.goes x c (t { o with approvalUrl := some url })).publish
    { mode := .bunker
      pubkey := o.stored.expectedPubkey
      status := .authorizationRequired
      approvalUrl := some url }

/-- `signWithActiveIdentity` goes on with an event. -/
def Sys.signs (s : Sys) (x : ℕ) (c : Call) (current : Session) (active : ActiveIdentity)
    (template : EventTemplate) (event : SignedEvent) : Sys :=
  if s.remote ≠ some current ∨ current.generation ≠ s.generation then
    s.signFails x c current active "Remote signer session changed"
  else if !event.verified || event.pubkey != active.pubkey || !sameTemplate template event then
    s.signFails x c current active "Remote signer altered the requested event"
  else s.goes x c (.settled none)

/-- A call that waits goes on.  A reply to something it does not wait for changes nothing. -/
def hear (localPubkey : Pubkey) (s : Sys) (x : ℕ) (c : Call) (r : Reply) : Sys :=
  match c.task with
  | .loading => match r with
    | .reads ok => s.goes x c (.loaded (if ok then s.stored else none))
    | _ => s
  | .loaded found => match r with
    | .resolves => match found with
      | none => s.goes x c (.settled none)
      | some stored =>
        { s.closeRemote with turns := s.turns + 1 }.goes x { c with turn := s.turns + 1 }
          (.opening stored false)
    | _ => s
  | .opening stored persist => match r with
    | .closed userPubkey => s.install x c stored persist userPubkey
    | _ => s
  | .session o await => match r with
    | .resolves => s.openResolves x c o await
    | .rejects message => match await with
      | .saved | .close _ => s
      | _ => s.openFails x c o message
    | .onauth url => s.onauth x c o (fun o => .session o await) url
    | _ => s
  | .closing => match r with
    | .resolves => s.goes x c .clearing
    | _ => s
  | .clearing => match r with
    | .resolves => { s with stored := none }.goes x c .cleared
    | _ => s
  | .cleared => match r with
    | .resolves => (s.goes x c (.settled none)).publish
        { mode := .localKey, pubkey := localPubkey, status := .ready }
    | _ => s
  | .signing current active template => match r with
    | .signs event => s.signs x c current active template event
    | .rejects message => s.signFails x c current active message
    | _ => s
  | .signFailed _ active message => match r with
    | .resolves => (s.goes x c (.settled none)).publish
        { mode := .bunker, pubkey := active.pubkey, status := .error, error := some message }
    | _ => s
  | .settled o => match o, r with
    | some o, .onauth url => s.onauth x c o (fun o => .settled (some o)) url
    | _, _ => s

/-- The next state.  A signature that needs no remote signer, or is refused at once, changes
nothing. -/
def step (localPubkey : Pubkey) (s : Sys) : Act → Sys
  | .connectBunker p key => s.begins .connectBunker (.opening
      { clientSecretKey := key
        bunkerPubkey := p.pubkey
        relays := p.relays
        secret := p.secret
        expectedPubkey := "" } true)
  | .reconnectBunker => s.waits { name := .reconnectBunker, turn := s.turns, task := .loading }
  | .disconnectBunker => s.begins .disconnectBunker .closing
  | .signWithActiveIdentity template =>
    match s.remote with
    | some current =>
      if s.identity.mode = .bunker ∧ s.identity.status = .ready then
        s.waits
          { name := .signWithActiveIdentity
            turn := s.turns
            task := .signing current s.identity template }
      else s
    | none => s
  | .reply x r => match s.calls[x]? with
    | some c => hear localPubkey s x c r
    | none => s

/-! ### What is asked -/

/-- The session of a call, also when it has settled. -/
def Task.session? : Task → Option Session
  | .session o _ => some o.session
  | .signing current _ _ => some current
  | .signFailed current _ _ => some current
  | .settled o => o.map Opened.session
  | _ => none

/-- The call has settled. -/
def Task.isSettled : Task → Bool
  | .settled _ => true
  | _ => false

/-- **(a)** A call with a session that is not the current one leaves the current one, and what
is published, alone. -/
def Undisturbed (s : Sys) (a : Act) (s' : Sys) : Prop :=
  ∀ (x : ℕ) (r : Reply) (c : Call), a = .reply x r → s.calls[x]? = some c →
    ∀ σ current, c.task.session? = some σ → s.remote = some current → σ ≠ current →
      s'.remote = some current ∧ s'.identity = s.identity

/-- **(b)** After a disconnection that no connection follows, once all calls have settled, the
identity is local and nothing remote is left. -/
def Disconnected (s : Sys) : Prop :=
  ∀ (i : ℕ) (d : Call), s.calls[i]? = some d → d.name = .disconnectBunker →
    (∀ (j : ℕ) (c : Call), i < j → s.calls[j]? = some c →
      c.name ≠ .connectBunker ∧ c.name ≠ .reconnectBunker) →
      (∀ c ∈ s.calls, c.task.isSettled = true) →
        s.identity.mode = .localKey ∧ s.remote = none ∧ s.stored = none

/-- **(c)** Whatever was published as ready for a bunker was the identity of the session there
was then. -/
def ReadyIsCurrent (s : Sys) : Prop :=
  ∀ p ∈ s.published, p.1.mode = .bunker → p.1.status = .ready →
    ∃ current, p.2 = some current ∧ p.1.pubkey = current.userPubkey

end Signer
end Pwa
end SentinelMesh
