/-
# The socket of a viewport

`handle_events_ws` of `ws/events_ws.rs`.  A connection subscribes with a viewport, is sent
what is in it, and is then told of changes: by a difference when the viewport has moved, by a
patch of one event for each broadcast in it, and by a snapshot when it lags or asks.  It
keeps a digest of each event the client has been told of.

One turn of the loop is an action: what is received, what a query answers and whether the
socket takes what is sent.  A socket that does not ends the connection.  A query answers with
rows of `safety_events` as they are then, in the order of their severity, up to a limit.

Coordinates and zooms are finite doubles, as rational numbers; `Instant`s are nanoseconds.
A broadcast carries the JSON of an event, which here is what it parses to.
-/

import SentinelMesh.Lib.Double
import SentinelMesh.Lib.Replica
import SentinelMesh.Lib.Run
import SentinelMesh.Nlp.Ingest
import Mathlib.Data.Int.Log

namespace SentinelMesh

/-- The text of a tier, which is the text of the column. -/
def Nlp.TrustTier.text : Nlp.TrustTier → String
  | heuristic => "heuristic"
  | corroborating => "corroborating"
  | confirmed => "confirmed"

/-- The text of a severity. -/
def Nlp.Severity.text : Nlp.Severity → String
  | low => "LOW"
  | medium => "MEDIUM"
  | high => "HIGH"
  | critical => "CRITICAL"

/-- The text of a state. -/
def Nlp.EventState.text : Nlp.EventState → String
  | reported => "REPORTED"
  | active => "ACTIVE"
  | updated => "UPDATED"
  | resolved => "RESOLVED"
  | expired => "EXPIRED"

namespace Ws
namespace Events

open Lib Lib.Replica
open Nlp (SafetyEvent Severity TrustTier RedisEventPayload)

/-! ### Events and messages -/

/-- `WsEvent`. -/
structure WsEvent where
  id : Uuid
  event_type : String
  severity : String
  state : String
  trust_state : String
  title : String
  lat : ℚ
  lng : ℚ
  started_at : Timestamp
  deriving DecidableEq

/-- `EventDigest`. -/
structure EventDigest where
  severity : String
  state : String
  trust_state : String
  deriving DecidableEq

/-- The digest of an event. -/
def WsEvent.digest (e : WsEvent) : EventDigest :=
  { severity := e.severity, state := e.state, trust_state := e.trust_state }

/-- `Bounds`. -/
structure Bounds where
  north : ℚ
  south : ℚ
  east : ℚ
  west : ℚ
  deriving DecidableEq

/-- `Bounds::contains`. -/
def Bounds.contains (b : Bounds) (lat lng : ℚ) : Bool :=
  decide (b.south ≤ lat ∧ lat ≤ b.north ∧ b.west ≤ lng ∧ lng ≤ b.east)

/-- `ViewportEvent`; `event_json` is what `serde_json::from_str` makes of the text. -/
structure ViewportEvent where
  id : Uuid
  lat : ℚ
  lng : ℚ
  severity : String
  event_json : Option WsEvent
  deriving DecidableEq

/-- The event of `handle_message`, when its transaction has committed. -/
def ingestedEvent (event_id : Uuid) (event : RedisEventPayload) (trust_state : TrustTier) :
    ViewportEvent :=
  { id := event_id
    lat := event.lat
    lng := event.lng
    severity := event.severity
    event_json := some
      { id := event_id
        event_type := event.event_type
        severity := event.severity
        state := "ACTIVE"
        trust_state := trust_state.text
        title := event.title
        lat := event.lat
        lng := event.lng
        started_at := event.started_at } }

/-- The event of `on_confirm`. -/
def confirmedEvent (event_id : Uuid) (row : SafetyEvent) : ViewportEvent :=
  { id := event_id
    lat := row.lat
    lng := row.lng
    severity := row.severity.text
    event_json := some
      { id := event_id
        event_type := row.event_type
        severity := row.severity.text
        state := "ACTIVE"
        trust_state := "confirmed"
        title := row.title
        lat := row.lat
        lng := row.lng
        started_at := row.started_at } }

/-- The event of `synthesis_worker.rs`, at the centre of its cell. -/
def acousticEvent (event_id : Uuid) (severity threat_class : String) (lat lng : ℚ)
    (now : Timestamp) : ViewportEvent :=
  { id := event_id
    lat
    lng
    severity
    event_json := some
      { id := event_id
        event_type := "ACOUSTIC"
        severity
        state := "ACTIVE"
        trust_state := "confirmed"
        title := threat_class
        lat
        lng
        started_at := now } }

/-- What is sent on `event_tx`. -/
inductive Broadcast : ViewportEvent → Prop
  | ingested (event_id : Uuid) (event : RedisEventPayload) (trust_state : TrustTier) :
      Broadcast (ingestedEvent event_id event trust_state)
  | confirmed (event_id : Uuid) (row : SafetyEvent) : Broadcast (confirmedEvent event_id row)
  | acoustic (event_id : Uuid) (severity threat_class : String) (lat lng : ℚ) (now : Timestamp) :
      Broadcast (acousticEvent event_id severity threat_class lat lng now)

/-- `ClientMsg`. -/
inductive ClientMsg
  | subscribe (bounds : Bounds) (zoom : ℚ) (filters : List String) (low_bandwidth : Bool)
  | viewportChanged (bounds : Bounds) (zoom : ℚ)
  | snapshotRequest
  deriving DecidableEq

/-- `DiffResult`. -/
abbrev DiffResult := Delta Uuid WsEvent

/-- `compute_diff`. -/
def computeDiff (known : Table Uuid EventDigest) (new_events : List WsEvent) : DiffResult :=
  diff WsEvent.id WsEvent.digest known new_events

/-- The digests of a list of events, by their ids. -/
def digests (events : List WsEvent) : Table Uuid EventDigest :=
  collect WsEvent.id WsEvent.digest events

/-- `ServerMsg`. -/
inductive ServerMsg
  | initialBatch (events : List WsEvent)
  | diffPatch (patch : DiffResult)
  | snapshot (events : List WsEvent)
  | error (message : String)

/-! ### Queries -/

/-- The double that is nearest to a number that is in their range. -/
def nearestDouble (x : ℚ) : ℚ :=
  let unit := (2 : ℚ) ^ (Int.log 2 |x| - 52)
  if x = 0 then 0 else roundHalfEven (x / unit) * unit

/-- `viewport_event_limit`. -/
def viewportEventLimit (zoom : ℚ) : ℕ :=
  (max 50 (min 400 ⌊nearestDouble (800 / max (nearestDouble (zoom - 8)) 1)⌋)).toNat

/-- The limit is between its bounds, whatever the zoom. -/
theorem le_viewportEventLimit (zoom : ℚ) :
    50 ≤ viewportEventLimit zoom ∧ viewportEventLimit zoom ≤ 400 := by
  unfold viewportEventLimit
  omega

/-- What `query_viewport_events` is asked. -/
structure Query where
  bounds : Bounds
  filters : List String
  zoom : ℚ
  deriving DecidableEq

/-- The `WHERE` of the query. -/
def Query.selects (q : Query) (row : SafetyEvent) : Bool :=
  q.bounds.contains row.lat row.lng && row.is_active &&
    (q.filters.isEmpty || decide (row.event_type ∈ q.filters))

/-- The `ORDER BY` of the query. -/
def severityOrder : Severity → ℕ
  | .critical => 0
  | .high => 1
  | .medium => 2
  | .low => 3

/-- A row, as it is selected. -/
def wsEvent (id : Uuid) (row : SafetyEvent) : WsEvent :=
  { id
    event_type := row.event_type
    severity := row.severity.text
    state := row.state.text
    trust_state := row.trust_state.text
    title := row.title
    lat := row.lat
    lng := row.lng
    started_at := row.started_at }

/-- `query_viewport_events` returns the events: the rows that are selected, in an order by
their severity, up to the limit. -/
def Answers (safety_events : Table Uuid SafetyEvent) (q : Query) (events : List WsEvent) : Prop :=
  ∃ all : List (Uuid × SafetyEvent),
    all.Perm (safety_events.rows.filter fun r => q.selects r.2) ∧
      (all.Pairwise fun a b => severityOrder a.2.severity ≤ severityOrder b.2.severity) ∧
      events = (all.take (viewportEventLimit q.zoom)).map fun r => wsEvent r.1 r.2

/-! ### The connection -/

/-- The state of the loop. -/
structure Conn where
  filters : List String
  low_bandwidth : Bool
  known : Table Uuid EventDigest
  current_bounds : Bounds
  current_zoom : ℚ
  pending_viewport : Option (Bounds × ℚ) := none
  debounce_active : Bool := false
  rate_window_start : ℕ
  rate_count : ℕ := 0

/-- Where `handle_events_ws` is. -/
inductive Socket
  | subscribing
  | serving (c : Conn)
  | closed

/-- What a turn receives. -/
inductive Input
  /-- A text of the client: what it parses to, or the error. -/
  | text (msg : Except String ClientMsg)
  /-- Another frame, or one that cannot be read. -/
  | frame
  /-- The client closes, or is gone. -/
  | close
  /-- The debounce timer fires. -/
  | debounce
  | broadcast (vpe : ViewportEvent)
  | lagged
  /-- The channel is closed. -/
  | disconnected

/-- A turn: what is received and when, the events of the database, what a query of them
returns, and whether the socket takes what is sent. -/
structure Action where
  input : Input
  now : ℕ
  safety_events : Table Uuid SafetyEvent
  reply : Option (List WsEvent)
  sends : Bool

/-- A message is sent, or the connection ends. -/
def Action.send (a : Action) (msg : ServerMsg) (c : Conn) : Socket × List ServerMsg :=
  if a.sends then (.serving c, [msg]) else (.closed, [])

/-- An error is sent, whatever becomes of it. -/
def Action.fail (a : Action) (message : String) : List ServerMsg :=
  if a.sends then [.error message] else []

/-- The first text of the client. -/
def Action.subscribe (a : Action) (msg : Except String ClientMsg) : Socket × List ServerMsg :=
  match msg with
  | .error e => (.subscribing, a.fail ("invalid message: " ++ e))
  | .ok (.subscribe bounds zoom filters low_bandwidth) =>
    match a.reply with
    | none => (.closed, a.fail "db error")
    | some initial =>
      a.send (.initialBatch initial)
        { filters, low_bandwidth
          known := digests initial
          current_bounds := bounds
          current_zoom := zoom
          rate_window_start := a.now }
  | .ok _ => (.subscribing, a.fail "first message must be SUBSCRIBE")

/-- A pending viewport is taken up. -/
def Conn.debounced (c : Conn) (a : Action) : Socket × List ServerMsg :=
  let c := { c with debounce_active := false }
  match c.pending_viewport with
  | none => (.serving c, [])
  | some (new_bounds, new_zoom) =>
    let c' :=
      { c with pending_viewport := none, current_bounds := new_bounds, current_zoom := new_zoom }
    match a.reply with
    | none => (.serving c', [])
    | some new_events =>
      let patch := computeDiff c.known new_events
      let c' := { c' with known := digests new_events }
      if patch.isEmpty then (.serving c', []) else a.send (.diffPatch patch) c'

/-- The rate window, begun anew after a second. -/
def Conn.window (c : Conn) (now : ℕ) : Conn :=
  if 1000000000 ≤ now - c.rate_window_start then { c with rate_window_start := now, rate_count := 0 }
  else c

/-- An event of the channel. -/
def Conn.received (rate_cap : ℕ) (c : Conn) (a : Action) (vpe : ViewportEvent) :
    Socket × List ServerMsg :=
  if !c.current_bounds.contains vpe.lat vpe.lng then (.serving c, [])
  else if c.low_bandwidth && !decide (vpe.severity = "CRITICAL" ∨ vpe.severity = "HIGH") then
    (.serving c, [])
  else if rate_cap ≤ (c.window a.now).rate_count then (.serving (c.window a.now), [])
  else
    let c := { c.window a.now with rate_count := (c.window a.now).rate_count + 1 }
    match vpe.event_json with
    | none => (.serving c, [])
    | some ws_evt =>
      let patch : DiffResult :=
        if (c.known.find? vpe.id).isSome then { added := [], removed := [], updated := [ws_evt] }
        else { added := [ws_evt], removed := [], updated := [] }
      a.send (.diffPatch patch) { c with known := c.known.put vpe.id ws_evt.digest }

/-- A snapshot of the current viewport. -/
def Conn.refresh (c : Conn) (a : Action) : Socket × List ServerMsg :=
  match a.reply with
  | none => (.serving c, [])
  | some events => a.send (.snapshot events) { c with known := digests events }

/-- One turn. -/
def turn (rate_cap : ℕ) (s : Socket) (a : Action) : Socket × List ServerMsg :=
  match s with
  | .subscribing => match a.input with
    | .text msg => a.subscribe msg
    | .frame => (.closed, [])
    | .close => (.closed, [])
    | _ => (.subscribing, [])
  | .serving c => match a.input with
    | .debounce => if c.debounce_active then c.debounced a else (.serving c, [])
    | .broadcast vpe => c.received rate_cap a vpe
    | .lagged => c.refresh a
    | .disconnected => (.closed, [])
    | .text (.ok (.viewportChanged bounds zoom)) =>
      (.serving { c with pending_viewport := some (bounds, zoom), debounce_active := true }, [])
    | .text (.ok .snapshotRequest) => c.refresh a
    | .text (.ok (.subscribe _ _ _ _)) => (.serving c, [])
    | .text (.error _) => (.serving c, [])
    | .close => (.closed, [])
    | .frame => (.serving c, [])
  | .closed => (.closed, [])

/-- A connection and the messages it has sent. -/
structure Session where
  socket : Socket := .subscribing
  sent : List ServerMsg := []

/-- What one turn does to a connection. -/
def step (rate_cap : ℕ) (s : Session) (a : Action) : Session :=
  let (socket, msgs) := turn rate_cap s.socket a
  { socket, sent := s.sent ++ msgs }

/-- The query a turn makes. -/
def Socket.query (s : Socket) (input : Input) : Option Query :=
  match s, input with
  | .subscribing, .text (.ok (.subscribe bounds zoom filters _)) => some { bounds, filters, zoom }
  | .serving c, .debounce =>
    if c.debounce_active then
      c.pending_viewport.map fun (bounds, zoom) => { bounds, filters := c.filters, zoom }
    else none
  | .serving c, .lagged =>
    some { bounds := c.current_bounds, filters := c.filters, zoom := c.current_zoom }
  | .serving c, .text (.ok .snapshotRequest) =>
    some { bounds := c.current_bounds, filters := c.filters, zoom := c.current_zoom }
  | _, _ => none

/-- What can happen: a query that does not fail returns what the database answers, and the
channel has what is broadcast. -/
structure Admissible (s : Socket) (a : Action) : Prop where
  answers : ∀ q events, s.query a.input = some q → a.reply = some events →
    Answers a.safety_events q events
  broadcast : ∀ vpe, a.input = .broadcast vpe → Broadcast vpe

/-! ### What a turn does -/

/-- An event has one of the trust states of the schema. -/
def WsEvent.Rated (e : WsEvent) : Prop := ∃ tier : TrustTier, e.trust_state = tier.text

/-- **An answer has no event twice**, and all its events are rated. -/
theorem Answers.nodup {safety_events : Table Uuid SafetyEvent} {q : Query} {events : List WsEvent}
    (h : Answers safety_events q events) :
    (events.map WsEvent.id).Nodup ∧ ∀ e ∈ events, e.Rated := by
  obtain ⟨all, hperm, _, rfl⟩ := h
  constructor
  · have hkeys : (all.map Prod.fst).Nodup :=
      (hperm.map Prod.fst).nodup_iff.2 (safety_events.nodup.sublist (List.filter_sublist.map _))
    rw [List.map_map]
    exact hkeys.sublist ((List.take_sublist _ _).map _)
  · intro e he
    obtain ⟨r, _, rfl⟩ := List.mem_map.1 he
    exact ⟨r.2.trust_state, rfl⟩

/-- **The JSON of a broadcast is of its event**, and rated. -/
theorem Broadcast.json {vpe : ViewportEvent} (h : Broadcast vpe) {e : WsEvent}
    (he : vpe.event_json = some e) : e.id = vpe.id ∧ e.Rated := by
  cases h with
  | ingested event_id event trust_state =>
    obtain rfl := Option.some.inj he
    exact ⟨rfl, trust_state, rfl⟩
  | confirmed event_id row =>
    obtain rfl := Option.some.inj he
    exact ⟨rfl, .confirmed, rfl⟩
  | acoustic event_id severity threat_class lat lng now =>
    obtain rfl := Option.some.inj he
    exact ⟨rfl, .confirmed, rfl⟩

theorem send_eq_serving {a : Action} {msg : ServerMsg} {c c' : Conn} {msgs : List ServerMsg}
    (h : a.send msg c = (.serving c', msgs)) : c' = c ∧ msgs = [msg] := by
  unfold Action.send at h
  split at h
  · obtain ⟨hc, hmsgs⟩ := Prod.mk.inj h
    exact ⟨(Socket.serving.inj hc).symm, hmsgs.symm⟩
  · cases h

/-- What a turn of the loop does to the digests, and what it tells the client. -/
inductive Told (s : Socket) (a : Action) (known : Table Uuid EventDigest) :
    List ServerMsg → Table Uuid EventDigest → Prop
  | unchanged : Told s a known [] known
  | snapshot {q : Query} {events : List WsEvent} (hquery : s.query a.input = some q)
      (hreply : a.reply = some events) : Told s a known [.snapshot events] (digests events)
  | moved {q : Query} {events : List WsEvent} (hquery : s.query a.input = some q)
      (hreply : a.reply = some events) :
      Told s a known [.diffPatch (computeDiff known events)] (digests events)
  | unmoved {q : Query} {events : List WsEvent} (hquery : s.query a.input = some q)
      (hreply : a.reply = some events) (hempty : (computeDiff known events).isEmpty = true) :
      Told s a known [] (digests events)
  | patched {vpe : ViewportEvent} {e : WsEvent} {patch : DiffResult}
      (hinput : a.input = .broadcast vpe) (hjson : vpe.event_json = some e)
      (hremoved : patch.removed = []) (hpatch : patch.added ++ patch.updated = [e]) :
      Told s a known [.diffPatch patch] (known.put vpe.id e.digest)

/-- A turn that keeps the digests tells nothing. -/
theorem told_of_same {s : Socket} {a : Action} {c d c' : Conn} {msgs : List ServerMsg}
    (hd : d.known = c.known) (h : (Socket.serving d, ([] : List ServerMsg)) = (.serving c', msgs)) :
    Told s a c.known msgs c'.known := by
  obtain ⟨hc, rfl⟩ := Prod.mk.inj h
  obtain rfl := Socket.serving.inj hc
  rw [hd]
  exact .unchanged

theorem told_of_refresh {s : Socket} {q : Query} {c c' : Conn} {a : Action} {msgs : List ServerMsg}
    (hquery : s.query a.input = some q) (h : c.refresh a = (.serving c', msgs)) :
    Told s a c.known msgs c'.known := by
  unfold Conn.refresh at h
  split at h
  · exact told_of_same rfl h
  · rename_i events hreply
    obtain ⟨rfl, rfl⟩ := send_eq_serving h
    exact .snapshot hquery hreply

theorem told_of_debounced {c c' : Conn} {a : Action} {msgs : List ServerMsg}
    (hinput : a.input = .debounce) (hactive : c.debounce_active = true)
    (h : c.debounced a = (.serving c', msgs)) : Told (.serving c) a c.known msgs c'.known := by
  unfold Conn.debounced at h
  dsimp only at h
  split at h
  · refine told_of_same ?_ h
    rfl
  · rename_i new_bounds new_zoom hpending
    have hquery : (Socket.serving c).query a.input =
        some { bounds := new_bounds, filters := c.filters, zoom := new_zoom } := by
      rw [hinput]
      unfold Socket.query
      dsimp only
      rw [if_pos hactive, hpending]
      rfl
    split at h
    · refine told_of_same ?_ h
      rfl
    · rename_i events hreply
      split at h
      · rename_i hempty
        obtain ⟨hc, rfl⟩ := Prod.mk.inj h
        obtain rfl := Socket.serving.inj hc
        exact .unmoved hquery hreply hempty
      · obtain ⟨rfl, rfl⟩ := send_eq_serving h
        exact .moved hquery hreply

theorem window_known (c : Conn) (now : ℕ) : (c.window now).known = c.known := by
  unfold Conn.window
  split <;> rfl

theorem told_of_received {rate_cap : ℕ} {c c' : Conn} {a : Action} {vpe : ViewportEvent}
    {msgs : List ServerMsg} (hinput : a.input = .broadcast vpe)
    (h : c.received rate_cap a vpe = (.serving c', msgs)) :
    Told (.serving c) a c.known msgs c'.known := by
  unfold Conn.received at h
  split at h
  · exact told_of_same rfl h
  split at h
  · exact told_of_same rfl h
  split at h
  · exact told_of_same (window_known c a.now) h
  dsimp only at h
  split at h
  · refine told_of_same ?_ h
    exact window_known c a.now
  · rename_i e hjson
    obtain ⟨rfl, rfl⟩ := send_eq_serving h
    dsimp only
    rw [window_known]
    split
    · exact .patched hinput hjson rfl rfl
    · exact .patched hinput hjson rfl rfl

/-- **What a turn of the loop does.** -/
theorem told_of_turn {rate_cap : ℕ} {c c' : Conn} {a : Action} {msgs : List ServerMsg}
    (h : turn rate_cap (.serving c) a = (.serving c', msgs)) :
    Told (.serving c) a c.known msgs c'.known := by
  unfold turn at h
  dsimp only at h
  cases hinput : a.input with
  | text msg =>
    rw [hinput] at h
    cases msg with
    | error e => exact told_of_same rfl h
    | ok msg =>
      cases msg with
      | subscribe bounds zoom filters low_bandwidth => exact told_of_same rfl h
      | viewportChanged bounds zoom =>
        refine told_of_same ?_ h
        rfl
      | snapshotRequest => exact told_of_refresh (by rw [hinput]; rfl) h
  | frame =>
    rw [hinput] at h
    exact told_of_same rfl h
  | close =>
    rw [hinput] at h
    cases h
  | debounce =>
    rw [hinput] at h
    dsimp only at h
    split at h
    · rename_i hactive
      exact told_of_debounced hinput hactive h
    · exact told_of_same rfl h
  | broadcast vpe =>
    rw [hinput] at h
    exact told_of_received hinput h
  | lagged =>
    rw [hinput] at h
    exact told_of_refresh (by rw [hinput]; rfl) h
  | disconnected =>
    rw [hinput] at h
    cases h

/-- **How a connection begins**: with the events of the first query. -/
theorem initial_of_turn {rate_cap : ℕ} {c : Conn} {a : Action} {msgs : List ServerMsg}
    (h : turn rate_cap .subscribing a = (.serving c, msgs)) :
    ∃ q events, Socket.subscribing.query a.input = some q ∧ a.reply = some events ∧
      msgs = [.initialBatch events] ∧ c.known = digests events := by
  unfold turn at h
  dsimp only at h
  split at h
  · rename_i msg hinput
    unfold Action.subscribe at h
    split at h
    · cases h
    · split at h
      · cases h
      · rename_i events hreply
        obtain ⟨rfl, rfl⟩ := send_eq_serving h
        exact ⟨_, events, by rw [hinput]; rfl, hreply, rfl, rfl⟩
    · cases h
  · cases h
  · cases h
  · cases h

end Events
end Ws
end SentinelMesh
