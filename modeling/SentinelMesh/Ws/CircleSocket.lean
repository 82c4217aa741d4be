/-
# The socket of a circle

`handle_circle_ws` of `ws/mod.rs` and the hub of `ws/circle_hub.rs`, beside the
handlers of the circles.  One socket authenticates, is checked for membership, is
sent a snapshot, subscribes to the hub and forwards what it receives; every `.await`
on the way is a point at which anything else may happen, so each stretch between two
of them is an action, and so is each broadcast a handler makes after its commit.

The hub keeps one bounded channel a circle.  A channel is the list of all its
broadcasts; one made before anybody subscribed reaches nobody, and nobody who
subscribes later starts before it.

`verify_ws_auth` is what it answered.  Some of the state is history, which no action
reads: the moments of actions, the acceptances, and how much of its channel a
socket that is about to subscribe has seen.
-/

import SentinelMesh.Circles.System
import SentinelMesh.Lib.Channel

namespace SentinelMesh
namespace Ws

open Lib
open Circles (Token CircleMessage Broadcast Env Db)

/-- `CHANNEL_CAPACITY`. -/
def channelCapacity : ℕ := 64

/-! ### What a socket is sent -/

/-- A row of `CIRCLE_LOCATION_SNAPSHOT`. -/
structure SnapshotRow where
  version : ℤ
  circle_id : Uuid
  key_epoch : ℤ
  ciphertext : String
  created_at : Timestamp
  expires_at : Timestamp
  deriving DecidableEq

/-- `fetch_blob_snapshot`: the envelopes that have not expired, of the current epoch. -/
def fetchBlobSnapshot (db : Db) (now : Timestamp) (circle_id : Uuid) : List SnapshotRow :=
  db.blobs.rows.filterMap fun r =>
    if r.1.1 = circle_id ∧ now < r.2.expires_at ∧
        (db.circles.find? circle_id).map Circles.Circle.key_epoch = some r.2.key_epoch then
      some
        { version := r.2.protocol_version
          circle_id
          key_epoch := r.2.key_epoch
          ciphertext := r.2.ciphertext
          created_at := r.2.created_at
          expires_at := r.2.expires_at }
    else none

/-- What is sent on the socket.  A message that is forwarded is known by its place
among the broadcasts of its circle, under the token the socket has there. -/
inductive Frame
  | error (text : String)
  | close (code : ℕ) (reason : String)
  | snapshot (rows : List SnapshotRow)
  | forwarded (circle_id : Uuid) (self_token : Token) (i : ℕ)
  deriving DecidableEq

/-! ### The hub, the handlers and the socket -/

/-- A broadcast a handler has still to make, and the moment of its commit. -/
structure Outgoing where
  circle_id : Uuid
  message : CircleMessage
  committed : ℕ
  deriving DecidableEq

/-- A broadcast on the channel of a circle, with the moment of the commit it is about
and the moment it was made. -/
structure Sent where
  message : CircleMessage
  committed : ℕ
  made : ℕ
  deriving DecidableEq

/-- The message is `CIRCLE_MEMBER_REMOVED` for the token. -/
def removes (token : Token) : CircleMessage → Bool
  | .memberRemoved _ t => decide (t = token)
  | .epochChanged _ _ => false
  | .locationEnvelope _ => false

/-- Who a socket belongs to: the circle it joined, and its own token there. -/
structure Session where
  circle_id : Uuid
  self_token : Token
  deriving DecidableEq

/-- Where `handle_circle_ws` is.  `seen` counts the broadcasts of the circle that
came before the membership check or, after a lag, were received; `since` is the
moment of the subscription. -/
inductive Phase
  | joining
  | checking (v : Session)
  | syncing (v : Session) (lagged : Bool) (seen : ℕ)
  | fetching (v : Session) (lagged : Bool) (seen : ℕ)
  | ready (v : Session) (seen : ℕ)
  | live (v : Session) (next : ℕ) (since : ℕ)
  | closed
  deriving DecidableEq

/-- The socket: where its handler is, and what it has been sent. -/
structure Socket where
  phase : Phase := .joining
  frames : List Frame := []
  deriving DecidableEq

/-- The socket is closed with a frame that says why. -/
def Socket.close (k : Socket) (code : ℕ) (reason : String) : Socket :=
  { phase := .closed, frames := k.frames ++ [.close code reason] }

/-- The state: the circles, the broadcasts each finished handler has still to make,
the channels of the hub, and the socket.  `moment` counts the actions, and `accepts`
lists the acceptances with their moments. -/
structure Sys where
  circles : Circles.Sys
  outbox : List (List Outgoing) := []
  channels : Uuid → List Sent := fun _ => []
  socket : Socket := {}
  moment : ℕ := 0
  accepts : List (Uuid × Token × ℕ) := []

/-- A gateway without circles, and a socket that has just been opened. -/
def Sys.init (now : Timestamp) : Sys := { circles := Circles.Sys.init now }

/-! ### `handle_circle_ws` -/

/-- The stretches of the handler.  `reached`, `fetched` and `delivered` say whether a
query and a send go through; `join` carries the answer of `verify_ws_auth`, if there
was an event to verify. -/
inductive SocketAct
  | text
  | join (circle_id : Uuid) (auth : Option (Except String Pubkey))
  | check (reached : Bool)
  | recheck (enabled reached : Bool)
  | snapshot (fetched delivered : Bool)
  | subscribe
  | recv (delivered : Bool)
  | hangUp

/-- Text that is no `join_circle` message; once joined, what the client says is
ignored. -/
def Sys.text (s : Sys) : Socket := match s.socket.phase with
  | .joining => { s.socket with frames := s.socket.frames ++ [.error "expected join_circle message"] }
  | _ => s.socket

/-- The `join_circle` message and its authentication. -/
def Sys.join (env : Env) (s : Sys) (circle_id : Uuid) (auth : Option (Except String Pubkey)) :
    Socket :=
  match s.socket.phase with
  | .joining => match auth with
    | none => s.socket.close 4001 "nostr_auth_event required"
    | some (.error e) => s.socket.close 4001 e
    | some (.ok resolved_pubkey) =>
      { s.socket with phase := .checking ⟨circle_id, env.circleToken circle_id resolved_pubkey⟩ }
  | _ => s.socket

/-- The membership check; a query that fails counts as no. -/
def Sys.check (s : Sys) (reached : Bool) : Socket := match s.socket.phase with
  | .checking v =>
    if reached && s.circles.db.belongs v.circle_id v.self_token then
      { s.socket with phase := .syncing v false (s.channels v.circle_id).length }
    else s.socket.close 4003 "not an active circle member"
  | _ => s.socket

/-- `is_active_member`, before a snapshot and where location transport is enabled. -/
def Sys.recheck (s : Sys) (enabled reached : Bool) : Socket := match s.socket.phase with
  | .syncing v lagged seen =>
    if enabled && reached && s.circles.db.belongs v.circle_id v.self_token then
      { s.socket with phase := .fetching v lagged seen }
    else { s.socket with phase := .ready v seen }
  | _ => s.socket

/-- The snapshot.  In the loop a send that fails ends it, before the loop it does
not. -/
def Sys.snapshot (s : Sys) (fetched delivered : Bool) : Socket := match s.socket.phase with
  | .fetching v lagged seen =>
    if fetched && delivered then
      { phase := .ready v seen
        frames := s.socket.frames ++
          [.snapshot (fetchBlobSnapshot s.circles.db s.circles.now v.circle_id)] }
    else if fetched && lagged then { s.socket with phase := .closed }
    else { s.socket with phase := .ready v seen }
  | _ => s.socket

/-- `CircleHub::subscribe`: the receiver starts at the end of the channel. -/
def Sys.subscribe (s : Sys) : Socket := match s.socket.phase with
  | .ready v _ =>
    { s.socket with phase := .live v (s.channels v.circle_id).length s.moment }
  | _ => s.socket

/-- `rx.recv()` and what is done with its answer. -/
def Sys.recv (s : Sys) (delivered : Bool) : Socket := match s.socket.phase with
  | .live v next since => match Lib.recv channelCapacity (s.channels v.circle_id) next with
    | .empty => s.socket
    | .lagged _ => { s.socket with phase := .syncing v true next }
    | .got r =>
      if removes v.self_token r.message then s.socket.close 4003 "removed from circle"
      else if delivered then
        { phase := .live v (next + 1) since
          frames := s.socket.frames ++ [.forwarded v.circle_id v.self_token next] }
      else { s.socket with phase := .closed }
  | _ => s.socket

/-- `handle_circle_ws`, one stretch at a time. -/
def handleCircleWs (env : Env) (s : Sys) : SocketAct → Socket
  | .text => s.text
  | .join circle_id auth => s.join env circle_id auth
  | .check reached => s.check reached
  | .recheck enabled reached => s.recheck enabled reached
  | .snapshot fetched delivered => s.snapshot fetched delivered
  | .subscribe => s.subscribe
  | .recv delivered => s.recv delivered
  | .hangUp => { s.socket with phase := .closed }

/-! ### The handlers of the circles, and the whole -/

/-- The membership an action accepts, when it succeeds. -/
def accepted (env : Env) : Circles.Act → Option (Uuid × Token)
  | .acceptMember id auth _ => some (id, env.circleToken id auth.pubkey)
  | _ => none

/-- A handler of the circles ends; on success its broadcasts are to be made. -/
def Sys.handle (env : Env) (s : Sys) (a : Circles.Act) : Sys :=
  match Circles.exec env s.circles a with
  | (circles, .ok out) =>
    { s with
      circles
      outbox := s.outbox ++ [out.map fun b => ⟨b.1, b.2, s.moment⟩]
      accepts := s.accepts ++ (accepted env a).toList.map fun k => (k.1, k.2, s.moment) }
  | (circles, .error _) => { s with circles }

/-- `CircleHub::broadcast` of the next message of a handler. -/
def Sys.broadcast (s : Sys) (i : ℕ) : Sys := match s.outbox[i]? with
  | some (o :: os) =>
    { s with
      outbox := s.outbox.set i os
      channels := Function.update s.channels o.circle_id
        (s.channels o.circle_id ++ [⟨o.message, o.committed, s.moment⟩]) }
  | _ => s

/-- What can happen: a handler of the circles ends, one makes its next broadcast, or
the handler of the socket goes on. -/
inductive Act
  | circles (a : Circles.Act)
  | broadcast (i : ℕ)
  | socket (a : SocketAct)

/-- What an action does. -/
def perform (env : Env) (s : Sys) : Act → Sys
  | .circles a => s.handle env a
  | .broadcast i => s.broadcast i
  | .socket a => { s with socket := handleCircleWs env s a }

/-- The state after an action. -/
def step (env : Env) (s : Sys) (a : Act) : Sys :=
  { perform env s a with moment := s.moment + 1 }

end Ws
end SentinelMesh
