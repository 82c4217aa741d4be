/-
# The map and its connection

The hook `useViewportWs` of `hooks/useViewportWs.ts`, the connection of `ws/events_ws.rs` that it
opens, and what is in flight between them.  The map moves, sockets are opened, fail and are opened
again, frames and messages arrive when they do, and the server takes its turns, in any order.

A client that has one socket at a time (`Reconnect.Single`) subscribes first and only once on each
(`Ordered`), and the last frame of a socket that is open has the viewport of the map (`Attached`).  The
server wants the viewport of the last frame that it has taken (`Served`).  So where nothing is in
flight, the server serves the viewport of the map, and the map has the events that the server knows,
also after the connection was lost and whatever else reaches the store (`viewport_follows`).
-/

import SentinelMesh.Lib.Reconnect
import SentinelMesh.Pwa.Reports
import SentinelMesh.Pwa.Viewport

namespace SentinelMesh
namespace Pwa
namespace ViewportLink

open Lib Viewport
open Ws.Events (Bounds ClientMsg ServerMsg Session Socket Conn Input Admissible turn)

/-! ### The hook -/

/-- What the hook and the server are built with: a number as `serde_json` reads the text of it, and
`WS_EVENTS_RATE_CAP`. -/
structure Env where
  number : ℚ → ℚ
  rate_cap : ℕ

/-- A connection: the frames of the client and how many of them the server has taken, and the
connection of the server and how many of its messages the client has taken. -/
structure Traffic where
  frames : List ClientMsg := []
  taken : ℕ := 0
  server : Session := {}
  given : ℕ := 0

/-- What the hook keeps, and the store. -/
structure Hook where
  connections : Reconnect Traffic
  subscribedRef : Bool := false
  boundsRef : Option Bounds
  zoomRef : ℚ
  mounted : Bool := true
  store : EventsState

/-- A frame goes out on a socket. -/
def push (frame : ClientMsg) (link : Link Traffic) : Link Traffic :=
  { link with data := { link.data with frames := link.data.frames ++ [frame] } }

/-- `ws.send`. -/
def Hook.send (s : Hook) (k : ℕ) (frame : ClientMsg) : Hook :=
  { s with connections := s.connections.modify k (push frame), subscribedRef := true }

/-- `connect`. -/
def Hook.connect (s : Hook) (connections : Reconnect Traffic) : Hook :=
  { s with connections, subscribedRef := false }

/-- The effects of the first render. -/
def mount (bounds : Option Bounds) (zoom : ℚ) (store : EventsState) : Hook :=
  Hook.connect { connections := {}, boundsRef := bounds, zoomRef := zoom, store }
    (Reconnect.connect {} {})

/-- The effect of another viewport. -/
def Hook.render (s : Hook) (bounds : Option Bounds) (zoom : ℚ) : Hook :=
  let s := { s with boundsRef := bounds, zoomRef := zoom }
  match s.connections.sockets[s.connections.current]?, bounds with
  | some ws, some b =>
    if ws.ready = .opened then
      if s.subscribedRef then s.send s.connections.current (.viewportChanged b zoom)
      else s.send s.connections.current (.subscribe b zoom [] false)
    else s
  | _, _ => s

/-- `onopen`. -/
def Hook.onopen (s : Hook) (k : ℕ) : Hook :=
  let s := { s with connections := s.connections.modify k fun link => { link with ready := .opened } }
  match s.boundsRef with
  | some b => s.send k (.subscribe b s.zoomRef [] false)
  | none => s

/-- `onmessage`. -/
def Hook.onmessage (s : Hook) (k : ℕ) (msg : ServerMsg) : Hook :=
  { s with
    connections := s.connections.modify k fun link =>
      { link with data := { link.data with given := link.data.given + 1 } }
    store := s.store.onmessage msg }

/-! ### The rest of the store -/

/-- `eventsHydrated`. -/
def eventsHydrated (state : EventsState) (events : List SafetyEvent) : EventsState :=
  { state with
    items := events.foldl (fun items event =>
      upsert items ((stored items event.id).elim event fun current => mergeEvent event current))
      state.items
    initialized := true
    error := none }

/-- `eventResolved`. -/
def eventResolved (state : EventsState) (id : Uuid) : EventsState :=
  match stored state.items id with
  | none => state
  | some current =>
    { state with
      items := state.items.replaceF fun e =>
        if e.id = id then some { current with is_active := false } else none }

/-- What else is dispatched to the slice. -/
inductive Dispatch
  | eventReceived (event : SafetyEvent)
  | eventsHydrated (events : List SafetyEvent)
  | eventsHydrationFailed (error : String)
  | eventResolved (id : Uuid)
  | setConnected (connected : Bool)

/-- The reducers. -/
def dispatch (state : EventsState) : Dispatch → EventsState
  | .eventReceived event => Reports.eventReceived state event
  | .eventsHydrated events => eventsHydrated state events
  | .eventsHydrationFailed error => { state with initialized := true, error := some error }
  | .eventResolved id => eventResolved state id
  | .setConnected connected => { state with connected }

/-- `selectViewportEventItems`. -/
def selectViewportEventItems (state : EventsState) : List SafetyEvent :=
  state.items.filter fun event => decide (event.id ∈ state.viewportIds)

/-! ### The system -/

/-- What else a turn of the server meets. -/
structure Moment where
  now : ℕ
  safety_events : Table Uuid Nlp.SafetyEvent
  reply : Option (List Ws.Events.WsEvent)
  sends : Bool

/-- A viewport as the server reads it. -/
def readViewport (env : Env) (viewport : Bounds × ℚ) : Bounds × ℚ :=
  ({ north := env.number viewport.1.north
     south := env.number viewport.1.south
     east := env.number viewport.1.east
     west := env.number viewport.1.west }, env.number viewport.2)

/-- A frame as the server reads it. -/
def readFrame (env : Env) : ClientMsg → ClientMsg
  | .subscribe bounds zoom filters low_bandwidth =>
    .subscribe (readViewport env (bounds, zoom)).1 (readViewport env (bounds, zoom)).2 filters
      low_bandwidth
  | .viewportChanged bounds zoom =>
    .viewportChanged (readViewport env (bounds, zoom)).1 (readViewport env (bounds, zoom)).2
  | .snapshotRequest => .snapshotRequest

/-- The turn of the server in which it takes a frame. -/
def Moment.take (m : Moment) (env : Env) (frame : ClientMsg) : Ws.Events.Action :=
  { input := .text (.ok (readFrame env frame))
    now := m.now, safety_events := m.safety_events, reply := m.reply, sends := m.sends }

/-- What happens. -/
inductive Act
  /-- The map has another viewport. -/
  | render (bounds : Option Bounds) (zoom : ℚ)
  /-- A socket has opened. -/
  | opened (k : ℕ)
  /-- A socket has closed, or failed. -/
  | closed (k : ℕ) (code : ℕ)
  /-- A timer fires. -/
  | fired (i : ℕ)
  /-- The next message of a socket arrives. -/
  | message (k : ℕ)
  | unmount
  | dispatch (d : Dispatch)
  /-- The server takes the next frame of a connection. -/
  | deliver (k : ℕ) (m : Moment)
  /-- The server takes a turn of a connection that is not a frame of the client. -/
  | serve (k : ℕ) (a : Ws.Events.Action)

/-- A turn of the server, of a connection. -/
def Traffic.turn (env : Env) (t : Traffic) (taken : ℕ) (a : Ws.Events.Action) : Traffic :=
  { t with taken, server := Ws.Events.step env.rate_cap t.server a }

/-- One step; what cannot happen leaves everything as it is. -/
def step (env : Env) (s : Hook) : Act → Hook
  | .render bounds zoom => if s.mounted then s.render bounds zoom else s
  | .opened k => match s.connections.sockets[k]? with
    | some ws => if ws.ready = .connecting then s.onopen k else s
    | none => s
  | .closed k code => match s.connections.sockets[k]? with
    | some ws =>
      if ws.ready = .closed then s
      else { s with connections := s.connections.close k (decide (code = 1000)), subscribedRef := false }
    | none => s
  | .fired i =>
    if i ∈ s.connections.timers then s.connect (s.connections.fire i {}) else s
  | .message k => match s.connections.sockets[k]? with
    | some ws => match ws.data.server.sent[ws.data.given]? with
      | some msg => if ws.ready = .opened then s.onmessage k msg else s
      | none => s
    | none => s
  | .unmount =>
    if s.mounted then { s with connections := s.connections.release, mounted := false } else s
  | .dispatch d => { s with store := dispatch s.store d }
  | .deliver k m => match s.connections.sockets[k]? with
    | some ws => match ws.data.frames[ws.data.taken]? with
      | some frame =>
        { s with connections := s.connections.modify k fun link =>
            { link with data := link.data.turn env (link.data.taken + 1) (m.take env frame) } }
      | none => s
    | none => s
  | .serve k a => match a.input with
    | .text _ => s
    | _ => { s with connections := s.connections.modify k fun link =>
        { link with data := link.data.turn env link.data.taken a } }

/-! ### What the store shows -/

/-- Each id of the viewport has an item. -/
def Whole (state : EventsState) : Prop :=
  ∀ id ∈ state.viewportIds, (stored state.items id).isSome = true

theorem isSome_stored_upsert (items : List SafetyEvent) (event : SafetyEvent) (id : Uuid) :
    (stored (upsert items event) id).isSome = true ↔
      event.id = id ∨ (stored items id).isSome = true := by
  by_cases hnew : ∀ current, stored items event.id = some current → isOlder event current = false
  · rw [stored_upsert_of_newer items hnew]
    by_cases hid : event.id = id
    · simp [hid]
    · simp [hid]
  · obtain ⟨current, hcurrent⟩ := not_forall.1 hnew
    obtain ⟨hstored, holder⟩ := Classical.not_imp.1 hcurrent
    have hkept : upsert items event = items := by
      unfold upsert
      rw [hstored]
      exact if_pos (by simpa using holder)
    rw [hkept]
    refine ⟨.inr, ?_⟩
    rintro (rfl | hid)
    · rw [hstored, Option.isSome_some]
    · exact hid

theorem isSome_stored_upserts (items events : List SafetyEvent) (id : Uuid) :
    (stored (events.foldl upsert items) id).isSome = true ↔
      id ∈ events.map SafetyEvent.id ∨ (stored items id).isSome = true := by
  induction events generalizing items with
  | nil => simp
  | cons event events ih =>
      rw [List.foldl_cons, ih, isSome_stored_upsert, List.map_cons, List.mem_cons, eq_comm (a := id),
        or_left_comm, or_assoc]

/-- **A message of the viewport** leaves no id without an item. -/
theorem whole_onmessage {state : EventsState} (h : Whole state) (msg : ServerMsg) :
    Whole (state.onmessage msg) := by
  have hset : ∀ events : List SafetyEvent, Whole (state.viewportEventsSet events) := by
    intro events id hid
    exact (isSome_stored_upserts state.items events id).2 (.inl (List.mem_eraseDups.1 hid))
  cases msg with
  | initialBatch events => exact hset _
  | snapshot events => exact hset _
  | diffPatch patch =>
      intro id hid
      refine (isSome_stored_upserts state.items _ id).2 ?_
      unfold EventsState.onmessage EventsState.viewportEventsBatchApply at hid
      simp only [List.mem_eraseDups, List.mem_append, List.mem_filter] at hid
      rw [List.map_append, List.mem_append]
      rcases hid with (⟨hold, -⟩ | hadded) | hupdated
      · exact .inr (h id hold)
      · exact .inl (.inl hadded)
      · exact .inl (.inr hupdated)
  | error message => exact h

/-- What else is dispatched keeps the ids of the viewport, and takes no item away. -/
theorem dispatch_viewport (state : EventsState) (d : Dispatch) :
    (dispatch state d).viewportIds = state.viewportIds ∧
      ∀ id, (stored state.items id).isSome = true →
        (stored (dispatch state d).items id).isSome = true := by
  cases d with
  | eventReceived event =>
      exact ⟨rfl, fun id hid => (isSome_stored_upsert state.items event id).2 (.inr hid)⟩
  | eventsHydrated events =>
      refine ⟨rfl, fun id hid => ?_⟩
      change (stored (events.foldl _ state.items) id).isSome = true
      generalize state.items = items at hid
      induction events generalizing items with
      | nil => exact hid
      | cons event events ih => exact ih _ ((isSome_stored_upsert items _ id).2 (.inr hid))
  | eventsHydrationFailed error => exact ⟨rfl, fun _ hid => hid⟩
  | eventResolved id =>
      unfold dispatch eventResolved
      dsimp only
      split
      · exact ⟨rfl, fun _ hid => hid⟩
      · rename_i current hcurrent
        obtain rfl : current.id = id := by simpa using List.find?_some hcurrent
        refine ⟨rfl, fun id' hid => ?_⟩
        have hfound := Replica.find?_replaceF SafetyEvent.id state.items
          { current with is_active := false } id'
        refine (congrArg Option.isSome hfound).trans ?_
        split_ifs
        · rw [Option.isSome_map]
          exact hid
        · exact hid
  | setConnected connected => exact ⟨rfl, fun _ hid => hid⟩

theorem Whole.dispatch {state : EventsState} (h : Whole state) (d : Dispatch) :
    Whole (dispatch state d) := by
  obtain ⟨hids, hitems⟩ := dispatch_viewport state d
  intro id hid
  exact hitems id (h id (hids ▸ hid))

/-- The ids of the events that are shown. -/
theorem mem_selectViewportEventItems {state : EventsState} (h : Whole state) (id : Uuid) :
    (∃ item ∈ selectViewportEventItems state, item.id = id) ↔ id ∈ state.viewportIds := by
  unfold selectViewportEventItems
  constructor
  · rintro ⟨item, hitem, rfl⟩
    exact of_decide_eq_true (List.mem_filter.1 hitem).2
  · intro hid
    obtain ⟨item, hitem⟩ := Option.isSome_iff_exists.1 (h id hid)
    have hid' : item.id = id := by simpa using List.find?_some hitem
    exact ⟨item, List.mem_filter.2 ⟨List.mem_of_find?_eq_some hitem, by simpa [hid'] using hid⟩, hid'⟩

/-- The ids that a message leaves depend on the ids that there were. -/
theorem viewportIds_onmessage {state state' : EventsState}
    (h : state.viewportIds = state'.viewportIds) (msg : ServerMsg) :
    (state.onmessage msg).viewportIds = (state'.onmessage msg).viewportIds := by
  cases msg with
  | diffPatch patch =>
      unfold EventsState.onmessage EventsState.viewportEventsBatchApply
      dsimp only
      rw [h]
  | error message => exact h
  | _ => rfl

/-- **A mirror has the ids that are known.** -/
theorem mem_viewportIds_of_mirrors {known : Table Uuid Ws.Events.EventDigest} {state : EventsState}
    (h : Mirrors known state) (id : Uuid) :
    id ∈ state.viewportIds ↔ (known.find? id).isSome = true := by
  rw [← h.view id]
  unfold EventsState.view
  constructor
  · intro hid
    rw [if_pos hid]
    exact h.complete id hid
  · intro hsome
    by_contra hid
    rw [if_neg hid] at hsome
    cases hsome

/-! ### What the server wants -/

/-- The viewport that a connection serves, or will serve when its timer fires. -/
def wanted (c : Conn) : Bounds × ℚ := c.pending_viewport.getD (c.current_bounds, c.current_zoom)

/-- A connection wants a viewport; one without a timer serves what it wants. -/
def Aims (v : Bounds × ℚ) : Socket → Prop
  | .subscribing => False
  | .serving c => wanted c = v ∧ (c.debounce_active = false → c.pending_viewport = none)
  | .closed => True

variable {rate_cap : ℕ} {v : Bounds × ℚ} {c : Conn} {a : Ws.Events.Action}

theorem aims_send {msg : ServerMsg} (h : Aims v (.serving c)) : Aims v (a.send msg c).1 := by
  unfold Ws.Events.Action.send
  split_ifs
  · exact h
  · trivial

theorem aims_received {vpe : Ws.Events.ViewportEvent} (h : Aims v (.serving c)) :
    Aims v (c.received rate_cap a vpe).1 := by
  have hwindow : Aims v (.serving (c.window a.now)) := by
    unfold Conn.window
    split_ifs <;> exact h
  unfold Conn.received
  split_ifs
  · exact h
  · exact h
  · exact hwindow
  · dsimp only
    split
    · exact hwindow
    · exact aims_send hwindow

theorem aims_refresh (h : Aims v (.serving c)) : Aims v (c.refresh a).1 := by
  unfold Conn.refresh
  split
  · exact h
  · exact aims_send h

/-- When the timer fires, what is wanted is served. -/
theorem aims_debounced (h : Aims v (.serving c)) : Aims v (c.debounced a).1 := by
  unfold Conn.debounced
  dsimp only
  split
  · rename_i hpending
    exact ⟨h.1, fun _ => hpending⟩
  · rename_i new_bounds new_zoom hpending
    have hv : (new_bounds, new_zoom) = v := by
      rw [← h.1, wanted, hpending]
      rfl
    split
    · exact ⟨hv, fun _ => rfl⟩
    · split_ifs
      · exact ⟨hv, fun _ => rfl⟩
      · exact aims_send ⟨hv, fun _ => rfl⟩

/-- **A turn that is not a frame of the client** keeps what is wanted. -/
theorem aims_turn {s : Socket} (h : Aims v s) (hinput : ∀ msg, a.input ≠ .text msg) :
    Aims v (turn rate_cap s a).1 := by
  cases s with
  | subscribing => exact h.elim
  | serving c =>
      unfold turn
      dsimp only
      cases ha : a.input with
      | text msg => exact absurd ha (hinput msg)
      | frame => exact h
      | close => trivial
      | debounce =>
          dsimp only
          split_ifs
          · exact aims_debounced h
          · exact h
      | broadcast vpe => exact aims_received h
      | lagged => exact aims_refresh h
      | disconnected => trivial
  | closed => trivial

/-- A connection that has not been asked for anything goes on waiting, or ends. -/
theorem turn_subscribing (hinput : ∀ msg, a.input ≠ .text msg) (c : Conn) :
    (turn rate_cap .subscribing a).1 ≠ .serving c := by
  unfold turn
  dsimp only
  cases ha : a.input with
  | text msg => exact absurd ha (hinput msg)
  | _ => simp

/-! ### The frames of a connection -/

/-- The viewport of a frame. -/
def viewport : ClientMsg → Option (Bounds × ℚ)
  | .subscribe bounds zoom _ _ => some (bounds, zoom)
  | .viewportChanged bounds zoom => some (bounds, zoom)
  | .snapshotRequest => none

/-- The frame that comes after `n` others. -/
def nextFrame (n : ℕ) (v : Bounds × ℚ) : ClientMsg :=
  if n = 0 then .subscribe v.1 v.2 [] false else .viewportChanged v.1 v.2

/-- A client subscribes first and only once. -/
def Ordered (frames : List ClientMsg) : Prop :=
  ∀ n frame, frames[n]? = some frame → ∃ v, frame = nextFrame n v

theorem viewport_nextFrame (n : ℕ) (v : Bounds × ℚ) : viewport (nextFrame n v) = some v := by
  unfold nextFrame
  split_ifs <;> rfl

theorem Ordered.append {frames : List ClientMsg} (h : Ordered frames) (v : Bounds × ℚ) :
    Ordered (frames ++ [nextFrame frames.length v]) := by
  intro n frame hframe
  rcases Nat.lt_or_ge n frames.length with hlt | hge
  · rw [List.getElem?_append_left hlt] at hframe
    exact h n frame hframe
  · rw [List.getElem?_append_right hge, List.getElem?_singleton] at hframe
    split_ifs at hframe with hzero
    obtain rfl : n = frames.length := by omega
    exact ⟨v, (Option.some.inj hframe).symm⟩

/-- **The server wants what it was last told.** -/
structure Served (env : Env) (t : Traffic) : Prop where
  ordered : Ordered t.frames
  taken_le : t.taken ≤ t.frames.length
  idle : t.taken = 0 → ∀ c, t.server.socket ≠ .serving c
  aims : ∀ n frame v, t.taken = n + 1 → t.frames[n]? = some frame → viewport frame = some v →
    Aims (readViewport env v) t.server.socket

variable {env : Env} {t : Traffic}

theorem socket_turn (t : Traffic) (taken : ℕ) (a : Ws.Events.Action) :
    (t.turn env taken a).server.socket = (turn env.rate_cap t.server.socket a).1 := rfl

theorem served_init : Served env {} :=
  ⟨fun n frame hframe => by simp at hframe, le_rfl, fun _ c => by simp, fun n _ _ hn => by simp at hn⟩

theorem Served.send (h : Served env t) (v : Bounds × ℚ) :
    Served env { t with frames := t.frames ++ [nextFrame t.frames.length v] } where
  ordered := h.ordered.append v
  taken_le := by
    rw [List.length_append]
    exact h.taken_le.trans (Nat.le_add_right _ _)
  idle := h.idle
  aims := by
    intro n frame v' hn hframe hv'
    have hlt : n < t.frames.length := by
      have hle := h.taken_le
      dsimp only at hn
      omega
    rw [List.getElem?_append_left hlt] at hframe
    exact h.aims n frame v' hn hframe hv'

/-- **The next frame is taken**: the first one subscribes, and any other moves the viewport. -/
theorem Served.deliver (h : Served env t) (m : Moment) {frame : ClientMsg}
    (hframe : t.frames[t.taken]? = some frame) :
    Served env (t.turn env (t.taken + 1) (m.take env frame)) where
  ordered := h.ordered
  taken_le := (List.getElem?_eq_some_iff.1 hframe).1
  idle := fun hzero => absurd hzero (Nat.succ_ne_zero _)
  aims := by
    intro n frame' v' hn hframe' hv'
    obtain rfl : t.taken = n := Nat.succ.inj hn
    obtain rfl : frame = frame' := Option.some.inj (hframe.symm.trans hframe')
    obtain ⟨v, rfl⟩ := h.ordered _ _ hframe
    obtain rfl : v = v' := Option.some.inj ((viewport_nextFrame _ v).symm.trans hv')
    rw [socket_turn]
    rcases Nat.eq_zero_or_pos t.taken with hzero | hpos
    · have hidle := h.idle hzero
      cases hsocket : t.server.socket with
      | subscribing =>
          rw [hzero]
          change Aims _ (Ws.Events.Action.subscribe _ (.ok (.subscribe _ _ _ _))).1
          unfold Ws.Events.Action.subscribe
          dsimp only
          split
          · trivial
          · exact aims_send ⟨rfl, fun _ => rfl⟩
      | serving c => exact absurd hsocket (hidle c)
      | closed => trivial
    · obtain ⟨k, hk⟩ := Nat.exists_eq_succ_of_ne_zero hpos.ne'
      have hlt : k < t.frames.length := by
        have hle := h.taken_le
        omega
      obtain ⟨v₀, hv₀⟩ := h.ordered k _ (List.getElem?_eq_getElem hlt)
      have haims := h.aims k _ v₀ hk (List.getElem?_eq_getElem hlt)
        (by rw [hv₀, viewport_nextFrame])
      have hmoved : nextFrame t.taken v = .viewportChanged v.1 v.2 := if_neg hpos.ne'
      rw [hmoved]
      cases hsocket : t.server.socket with
      | subscribing =>
          rw [hsocket] at haims
          exact haims.elim
      | serving c => exact ⟨rfl, fun hactive => by cases hactive⟩
      | closed => trivial

theorem Served.serve (h : Served env t) (hinput : ∀ msg, a.input ≠ .text msg) :
    Served env (t.turn env t.taken a) where
  ordered := h.ordered
  taken_le := h.taken_le
  idle := by
    intro hzero c
    rw [socket_turn]
    cases hsocket : t.server.socket with
    | subscribing => exact turn_subscribing hinput c
    | serving c => exact absurd hsocket (h.idle hzero c)
    | closed => simp [turn]
  aims := fun n frame v hn hframe hv => aims_turn (h.aims n frame v hn hframe hv) hinput

/-! ### The client -/

/-- What holds of a socket that is not closed: the hook knows whether it has subscribed on it, the last
frame has the viewport of the map, and the ids of the viewport are those of the messages that have
arrived. -/
structure Attached (s : Hook) (ws : Link Traffic) : Prop where
  subscribed : s.subscribedRef = true ↔ ws.data.frames ≠ []
  fresh : ws.ready = .connecting → ws.data.frames = []
  latest : ws.ready = .opened → ∀ b, s.boundsRef = some b →
    ws.data.frames.getLast?.bind viewport = some (b, s.zoomRef)
  given_le : ws.data.given ≤ ws.data.server.sent.length
  shown : ∃ state, Session.Mirrored state ws.data.server ∧ s.store.viewportIds =
    ((ws.data.server.sent.take ws.data.given).foldl EventsState.onmessage state).viewportIds

/-- The invariant of the system. -/
structure Sound (env : Env) (s : Hook) : Prop where
  single : s.connections.Single
  whole : Whole s.store
  served : ∀ (k : ℕ) (ws : Link Traffic), s.connections.sockets[k]? = some ws → Served env ws.data
  attached : ∀ (k : ℕ) (ws : Link Traffic), s.connections.sockets[k]? = some ws →
    ws.ready ≠ .closed → Attached s ws

variable {s s' : Hook} {k : ℕ} {ws : Link Traffic}

theorem attached_connect (s : Hook) (connections : Reconnect Traffic) :
    Attached (s.connect connections) { data := {} } where
  subscribed := by simp [Hook.connect]
  fresh := fun _ => rfl
  latest := by simp
  given_le := le_rfl
  shown := ⟨s.store, fun c hc => by simp at hc, rfl⟩

theorem sound_mount (env : Env) (bounds : Option Bounds) (zoom : ℚ) {store : EventsState}
    (hstore : Whole store) : Sound env (mount bounds zoom store) where
  single := Reconnect.single_init ({} : Traffic)
  whole := hstore
  served := by
    intro k ws hws
    rcases Reconnect.getElem?_connect_eq_some hws with hold | ⟨-, rfl⟩
    · simp at hold
    · exact served_init
  attached := by
    intro k ws hws _
    rcases Reconnect.getElem?_connect_eq_some hws with hold | ⟨-, rfl⟩
    · simp at hold
    · exact attached_connect _ _

/-- **A step that changes one socket.** -/
theorem Sound.modify (h : Sound env s) {f : Link Traffic → Link Traffic}
    (hconnections : s'.connections = s.connections.modify k f) (hwhole : Whole s'.store)
    (hclosed : ∀ ws, s.connections.sockets[k]? = some ws → ws.ready = .closed →
      (f ws).ready = .closed)
    (hserved : ∀ ws, s.connections.sockets[k]? = some ws → Served env ws.data →
      Served env (f ws).data)
    (hattached : ∀ ws, s.connections.sockets[k]? = some ws → ws.ready ≠ .closed → Attached s ws →
      Attached s' (f ws))
    (hothers : ∀ j ws, j ≠ k → s.connections.sockets[j]? = some ws → ws.ready ≠ .closed →
      Attached s ws → Attached s' ws) : Sound env s' where
  single := hconnections ▸ h.single.modify hclosed
  whole := hwhole
  served := by
    intro j ws' hws'
    rw [hconnections] at hws'
    obtain ⟨ws, hws, rfl⟩ := Reconnect.getElem?_modify_eq_some hws'
    split_ifs with hkj
    · subst hkj
      exact hserved ws hws (h.served k ws hws)
    · exact h.served j ws hws
  attached := by
    intro j ws' hws' hlive'
    rw [hconnections] at hws'
    obtain ⟨ws, hws, rfl⟩ := Reconnect.getElem?_modify_eq_some hws'
    have hlive : ws.ready ≠ .closed := by
      intro hready
      apply hlive'
      split_ifs with hkj
      · exact hclosed ws (hkj ▸ hws) hready
      · exact hready
    split_ifs with hkj
    · subst hkj
      exact hattached ws hws hlive (h.attached k ws hws hlive)
    · exact hothers j ws (Ne.symm hkj) hws hlive (h.attached j ws hws hlive)

/-- No other socket is open beside one that is not closed. -/
theorem Sound.alone (h : Sound env s) (hws : s.connections.sockets[k]? = some ws)
    (hlive : ws.ready ≠ .closed) {P : Link Traffic → Prop} :
    ∀ j ws', j ≠ k → s.connections.sockets[j]? = some ws' → ws'.ready ≠ .closed →
      Attached s ws' → P ws' :=
  fun _ _ hne hws' hlive' _ => absurd (h.single.eq_of_live hws' hlive' hws hlive) hne

/-- **A frame that is due** brings the viewport of the map. -/
theorem Attached.push (h : Attached s ws) {b : Bounds} {ready : ReadyState}
    (hready : ready ≠ .connecting) (hsubscribed : s'.subscribedRef = true)
    (hstore : s'.store = s.store) (hbounds : s'.boundsRef = some b) :
    Attached s' (push (nextFrame ws.data.frames.length (b, s'.zoomRef)) { ws with ready }) where
  subscribed := by simp [hsubscribed, ViewportLink.push]
  fresh := fun hconnecting => absurd hconnecting hready
  latest := by
    intro _ b' hb'
    obtain rfl := Option.some.inj (hbounds.symm.trans hb')
    simp [ViewportLink.push, viewport_nextFrame]
  given_le := h.given_le
  shown := by
    obtain ⟨state, hmirrored, hids⟩ := h.shown
    exact ⟨state, hmirrored, (congrArg EventsState.viewportIds hstore).trans hids⟩

/-- **A frame that is due is sent** on a socket, which is open then. -/
theorem Sound.push (h : Sound env s) (hws : s.connections.sockets[k]? = some ws)
    (hlive : ws.ready ≠ .closed) {f : Link Traffic → Link Traffic} {b : Bounds}
    (hconnections : s'.connections = s.connections.modify k f)
    (hf : f ws = push (nextFrame ws.data.frames.length (b, s'.zoomRef)) { ws with ready := .opened })
    (hsubscribed : s'.subscribedRef = true) (hstore : s'.store = s.store)
    (hbounds : s'.boundsRef = some b) : Sound env s' := by
  have hthis : ∀ ws' : Link Traffic, s.connections.sockets[k]? = some ws' → ws' = ws :=
    fun ws' hws' => Option.some.inj (hws'.symm.trans hws)
  refine h.modify hconnections (hstore ▸ h.whole) (fun ws' hws' hclosed => ?_)
    (fun ws' hws' hserved => ?_) (fun ws' hws' _ hattached => ?_) (h.alone hws hlive)
  · rw [hthis ws' hws'] at hclosed
    exact absurd hclosed hlive
  · rw [hthis ws' hws'] at hserved ⊢
    rw [hf]
    exact hserved.send _
  · rw [hthis ws' hws'] at hattached ⊢
    rw [hf]
    exact hattached.push (by simp) hsubscribed hstore hbounds

/-- **The map has moved.** -/
theorem sound_render (h : Sound env s) (bounds : Option Bounds) (zoom : ℚ) :
    Sound env (s.render bounds zoom) := by
  have hkept : (∀ (k : ℕ) (ws : Link Traffic) (b : Bounds), s.connections.sockets[k]? = some ws →
      ws.ready = .opened → bounds = some b → False) →
        Sound env { s with boundsRef := bounds, zoomRef := zoom } := by
    intro hnone
    refine ⟨h.single, h.whole, h.served, fun k ws hws hlive => ?_⟩
    obtain ⟨hsubscribed, hfresh, -, hgiven, hshown⟩ := h.attached k ws hws hlive
    exact ⟨hsubscribed, hfresh, fun hopened b hb => (hnone k ws b hws hopened hb).elim, hgiven,
      hshown⟩
  unfold Hook.render
  dsimp only
  split
  · rename_i ws b hws
    by_cases hopened : ws.ready = .opened
    · rw [if_pos hopened]
      have hlive : ws.ready ≠ .closed := by simp [hopened]
      have hsubscribed := (h.attached _ ws hws hlive).subscribed
      have hframe : ∀ frame, frame = nextFrame ws.data.frames.length (b, zoom) →
          Sound env (Hook.send { s with boundsRef := some b, zoomRef := zoom } s.connections.current
            frame) := by
        rintro frame rfl
        refine h.push hws hlive rfl ?_ rfl rfl rfl
        rw [← hopened]
        rfl
      split_ifs with hsub
      · exact hframe _ (if_neg (by simpa using hsubscribed.1 hsub)).symm
      · refine hframe _ (if_pos ?_).symm
        by_contra hne
        exact hsub (hsubscribed.2 (by simpa using hne))
    · rw [if_neg hopened]
      refine hkept fun k ws' b hws' hopened' hb => hopened ?_
      obtain rfl := h.single.eq_current hws' (by simp [hopened'])
      rw [← Option.some.inj (hws'.symm.trans hws)]
      exact hopened'
  · rename_i hnone
    refine hkept fun k ws b hws hopened hb => ?_
    obtain rfl := h.single.eq_current hws (by simp [hopened])
    exact hnone ws b hws hb

/-- **A socket opens.** -/
theorem sound_onopen (h : Sound env s) (hws : s.connections.sockets[k]? = some ws)
    (hconnecting : ws.ready = .connecting) : Sound env (s.onopen k) := by
  have hlive : ws.ready ≠ .closed := by simp [hconnecting]
  have hfresh := (h.attached k ws hws hlive).fresh hconnecting
  unfold Hook.onopen
  dsimp only
  split
  · rename_i b hb
    refine h.push hws hlive (Reconnect.modify_modify _ _ _ _) ?_ rfl rfl hb
    rw [hfresh]
    rfl
  · rename_i hb
    refine h.modify rfl h.whole (fun ws' hws' hclosed => ?_) (fun ws' _ hserved => hserved)
      (fun ws' hws' _ hattached => ?_) (h.alone hws hlive)
    · rw [← Option.some.inj (hws.symm.trans hws')] at hclosed
      exact absurd hclosed hlive
    · obtain ⟨hsubscribed, -, -, hgiven, hshown⟩ := hattached
      exact ⟨hsubscribed, by simp, fun _ b hb' => by simp [hb] at hb', hgiven, hshown⟩

/-- **A socket closes.** -/
theorem sound_close (h : Sound env s) (hws : s.connections.sockets[k]? = some ws)
    (hlive : ws.ready ≠ .closed) (clean : Bool) :
    Sound env { s with connections := s.connections.close k clean, subscribedRef := false } := by
  obtain ⟨hsingle, hall⟩ := h.single.close hws hlive clean
  refine ⟨hsingle, h.whole, fun j ws' hws' => ?_, fun j ws' hws' hlive' => ?_⟩
  · have hsockets : (s.connections.close k clean).sockets =
        (s.connections.modify k fun link => { link with ready := .closed }).sockets := by
      unfold Reconnect.close
      dsimp only
      split_ifs <;> rfl
    rw [hsockets] at hws'
    obtain ⟨ws₀, hws₀, rfl⟩ := Reconnect.getElem?_modify_eq_some hws'
    split_ifs
    · exact h.served j ws₀ hws₀
    · exact h.served j ws₀ hws₀
  · exact absurd (hall j ws' hws') hlive'

/-- **A timer fires.** -/
theorem sound_fire (h : Sound env s) {i : ℕ} (hi : i ∈ s.connections.timers) :
    Sound env (s.connect (s.connections.fire i {})) := by
  obtain ⟨hsingle, hall⟩ := h.single.fire hi ({} : Traffic)
  refine ⟨hsingle, h.whole, fun j ws hws => ?_, fun j ws hws hlive => ?_⟩
  · rcases Reconnect.getElem?_connect_eq_some hws with hold | ⟨-, rfl⟩
    · exact h.served j ws hold
    · exact served_init
  · rcases Reconnect.getElem?_connect_eq_some hws with hold | ⟨-, rfl⟩
    · exact absurd (hall j ws hold) hlive
    · exact attached_connect _ _

/-- **A message arrives.** -/
theorem sound_message (h : Sound env s) (hws : s.connections.sockets[k]? = some ws)
    (hopened : ws.ready = .opened) {msg : ServerMsg}
    (hmsg : ws.data.server.sent[ws.data.given]? = some msg) : Sound env (s.onmessage k msg) := by
  have hlive : ws.ready ≠ .closed := by simp [hopened]
  refine h.modify rfl (whole_onmessage h.whole msg) (fun ws' _ hclosed => hclosed)
    (fun ws' _ hserved => ⟨hserved.ordered, hserved.taken_le, hserved.idle, hserved.aims⟩)
    (fun ws' hws' _ hattached => ?_) (h.alone hws hlive)
  obtain rfl := Option.some.inj (hws.symm.trans hws')
  obtain ⟨hsubscribed, hfresh, hlatest, -, state, hmirrored, hids⟩ := hattached
  refine ⟨hsubscribed, hfresh, hlatest, (List.getElem?_eq_some_iff.1 hmsg).1, state, hmirrored, ?_⟩
  change (s.store.onmessage msg).viewportIds = _
  dsimp only
  rw [List.take_add_one, hmsg, Option.toList_some, List.foldl_append, List.foldl_cons, List.foldl_nil]
  exact viewportIds_onmessage hids msg

/-- **The page goes.** -/
theorem sound_release (h : Sound env s) :
    Sound env { s with connections := s.connections.release, mounted := false } := by
  obtain ⟨hsingle, -⟩ := h.single.release
  have hlink : ∀ (j : ℕ) (ws' : Link Traffic), s.connections.release.sockets[j]? = some ws' →
      ∃ ws, s.connections.sockets[j]? = some ws ∧ ws'.data = ws.data ∧
        (ws'.ready = ws.ready ∨ ws.ready ≠ .closed ∧ ws'.ready = .closing) := by
    intro j ws' hws'
    obtain ⟨ws, hws, rfl⟩ := Reconnect.getElem?_modify_eq_some (k := s.connections.current) hws'
    refine ⟨ws, hws, ?_⟩
    split_ifs with hcurrent hready
    · exact ⟨rfl, .inr ⟨by rcases hready with hready | hready <;> simp [hready], rfl⟩⟩
    · exact ⟨rfl, .inl rfl⟩
    · exact ⟨rfl, .inl rfl⟩
  refine ⟨hsingle, h.whole, fun j ws' hws' => ?_, fun j ws' hws' hlive' => ?_⟩
  · obtain ⟨ws, hws, hdata, -⟩ := hlink j ws' hws'
    rw [hdata]
    exact h.served j ws hws
  · obtain ⟨ws, hws, hdata, hready⟩ := hlink j ws' hws'
    have hlive : ws.ready ≠ .closed := by
      rcases hready with hsame | ⟨hlive, -⟩
      · rwa [hsame] at hlive'
      · exact hlive
    obtain ⟨hsubscribed, hfresh, hlatest, hgiven, hshown⟩ := h.attached j ws hws hlive
    rw [← hdata] at hsubscribed hfresh hlatest hgiven hshown
    refine ⟨hsubscribed, fun hthis => ?_, fun hthis => ?_, hgiven, hshown⟩
    · rcases hready with hsame | ⟨-, hclosing⟩
      · exact hfresh (hsame ▸ hthis)
      · rw [hclosing] at hthis
        cases hthis
    · rcases hready with hsame | ⟨-, hclosing⟩
      · exact hlatest (hsame ▸ hthis)
      · rw [hclosing] at hthis
        cases hthis

theorem sound_dispatch (h : Sound env s) (d : Dispatch) :
    Sound env { s with store := dispatch s.store d } := by
  refine ⟨h.single, h.whole.dispatch d, h.served, fun k ws hws hlive => ?_⟩
  obtain ⟨hsubscribed, hfresh, hlatest, hgiven, state, hmirrored, hids⟩ := h.attached k ws hws hlive
  exact ⟨hsubscribed, hfresh, hlatest, hgiven, state, hmirrored,
    (dispatch_viewport s.store d).1.trans hids⟩

/-- **A turn of the server** changes nothing at the client. -/
theorem sound_turn (h : Sound env s) (k : ℕ) (taken : Traffic → ℕ) (a : Ws.Events.Action)
    (hturn : ∀ ws, s.connections.sockets[k]? = some ws →
      Served env (ws.data.turn env (taken ws.data) a) ∧ Admissible ws.data.server.socket a) :
    Sound env { s with connections := s.connections.modify k fun link =>
      { link with data := link.data.turn env (taken link.data) a } } := by
  refine h.modify rfl h.whole (fun ws _ hclosed => hclosed) (fun ws hws _ => (hturn ws hws).1)
    (fun ws hws _ hattached => ?_) fun j ws _ _ _ hattached => ?_
  · obtain ⟨-, hadmissible⟩ := hturn ws hws
    obtain ⟨hsubscribed, hfresh, hlatest, hgiven, state, hmirrored, hids⟩ := hattached
    have hsent : (ws.data.turn env (taken ws.data) a).server.sent =
        ws.data.server.sent ++ (turn env.rate_cap ws.data.server.socket a).2 := rfl
    refine ⟨hsubscribed, hfresh, hlatest, ?_, state, mirrored_step hmirrored hadmissible, ?_⟩
    · dsimp only
      rw [hsent, List.length_append]
      exact hgiven.trans (Nat.le_add_right _ _)
    · dsimp only
      rw [hsent]
      exact hids.trans (by rw [← List.take_append_of_le_length hgiven]; rfl)
  · obtain ⟨hsubscribed, hfresh, hlatest, hgiven, hshown⟩ := hattached
    exact ⟨hsubscribed, hfresh, hlatest, hgiven, hshown⟩

/-- What a turn of the server may meet: queries that do not fail return what the database answers, and
the channel has what is broadcast. -/
def Allowed (env : Env) (s : Hook) : Act → Prop
  | .deliver k m => ∀ ws frame, s.connections.sockets[k]? = some ws →
    ws.data.frames[ws.data.taken]? = some frame →
      Admissible ws.data.server.socket (m.take env frame)
  | .serve k a => ∀ ws, s.connections.sockets[k]? = some ws → Admissible ws.data.server.socket a
  | _ => True

/-- **Every step is sound.** -/
theorem sound_step (h : Sound env s) {a : Act} (ha : Allowed env s a) : Sound env (step env s a) := by
  cases a with
  | render bounds zoom =>
      unfold step
      dsimp only
      split_ifs
      · exact sound_render h bounds zoom
      · exact h
  | opened k =>
      unfold step
      dsimp only
      split
      · rename_i ws hws
        split_ifs with hconnecting
        · exact sound_onopen h hws hconnecting
        · exact h
      · exact h
  | closed k code =>
      unfold step
      dsimp only
      split
      · rename_i ws hws
        split_ifs with hclosed
        · exact h
        · exact sound_close h hws hclosed _
      · exact h
  | fired i =>
      unfold step
      dsimp only
      split_ifs with hi
      · exact sound_fire h hi
      · exact h
  | message k =>
      unfold step
      dsimp only
      split
      · rename_i ws hws
        split
        · rename_i msg hmsg
          split_ifs with hopened
          · exact sound_message h hws hopened hmsg
          · exact h
        · exact h
      · exact h
  | unmount =>
      unfold step
      dsimp only
      split_ifs
      · exact sound_release h
      · exact h
  | dispatch d => exact sound_dispatch h d
  | deliver k m =>
      unfold step
      dsimp only
      split
      · rename_i ws hws
        split
        · rename_i frame hframe
          refine sound_turn h k (fun t => t.taken + 1) (m.take env frame) fun ws' hws' => ?_
          obtain rfl := Option.some.inj (hws.symm.trans hws')
          exact ⟨(h.served k ws hws).deliver m hframe, ha ws frame hws hframe⟩
        · exact h
      · exact h
  | serve k a =>
      unfold step
      dsimp only
      split
      · exact h
      · rename_i hinput
        exact sound_turn h k Traffic.taken a fun ws hws =>
          ⟨(h.served k ws hws).serve hinput, ha ws hws⟩

/-- **The map follows its connection, and the connection the map.**  Whatever the map, the sockets, the
server and the rest of the store do, in any order: one socket at most is not closed, and no timer waits
beside it; the server is told to subscribe first and only once on each; and where all the frames of an
open socket have been taken, the server wants the viewport of the map, or has ended the connection.
Where it has no timer, it serves that viewport, and where its messages have arrived, the map has the
events that it knows. -/
theorem viewport_follows (env : Env) (bounds : Option Bounds) (zoom : ℚ) {store : EventsState}
    (hstore : Whole store) {as : List Act}
    (hallowed : ∀ e ∈ events (step env) (mount bounds zoom store) as, Allowed env e.pre e.act) :
    let s := run (step env) (mount bounds zoom store) as
    (∀ (j k : ℕ) (ws ws' : Link Traffic), s.connections.sockets[j]? = some ws →
        s.connections.sockets[k]? = some ws' → ws.ready ≠ .closed → ws'.ready ≠ .closed →
          j = k ∧ s.connections.timers = []) ∧
      s.connections.timers.length ≤ 1 ∧
      ∀ ws ∈ s.connections.sockets, Ordered ws.data.frames ∧
        ∀ b, s.boundsRef = some b → ws.ready = .opened → ws.data.taken = ws.data.frames.length →
          ws.data.server.socket = .closed ∨ ∃ c, ws.data.server.socket = .serving c ∧
            wanted c = readViewport env (b, s.zoomRef) ∧
            (c.debounce_active = false →
              (c.current_bounds, c.current_zoom) = readViewport env (b, s.zoomRef)) ∧
            (ws.data.given = ws.data.server.sent.length → ∀ id,
              (∃ item ∈ selectViewportEventItems s.store, item.id = id) ↔
                (c.known.find? id).isSome = true) := by
  intro s
  have hsound : Sound env s :=
    run_induction_of (G := Allowed env) (sound_mount env bounds zoom hstore)
      (fun _ _ h ha => sound_step h ha) hallowed
  refine ⟨fun j k ws ws' hws hws' hlive hlive' => ?_, hsound.single.length_timers_le,
    fun ws hmem => ?_⟩
  · exact ⟨hsound.single.eq_of_live hws hlive hws' hlive', hsound.single.timers_eq_nil hws hlive⟩
  obtain ⟨k, hws⟩ := List.mem_iff_getElem?.1 hmem
  have hserved := hsound.served k ws hws
  refine ⟨hserved.ordered, fun b hb hopened htaken => ?_⟩
  obtain ⟨-, -, hlatest, -, state, hmirrored, hids⟩ :=
    hsound.attached k ws hws (by simp [hopened])
  obtain ⟨frame, hframe, hviewport⟩ := Option.bind_eq_some_iff.1 (hlatest hopened b hb)
  rw [List.getLast?_eq_getElem?] at hframe
  have hpos : 0 < ws.data.frames.length := by
    have hlt := (List.getElem?_eq_some_iff.1 hframe).1
    omega
  have haims := hserved.aims (ws.data.frames.length - 1) frame (b, s.zoomRef) (by omega) hframe hviewport
  cases hsocket : ws.data.server.socket with
  | subscribing =>
      rw [hsocket] at haims
      exact haims.elim
  | closed => exact .inl rfl
  | serving c =>
      rw [hsocket] at haims
      refine .inr ⟨c, rfl, haims.1, fun hactive => ?_, fun hgiven id => ?_⟩
      · rw [← haims.1, wanted, haims.2 hactive]
        rfl
      · rw [mem_selectViewportEventItems hsound.whole, hids, hgiven, List.take_length]
        exact mem_viewportIds_of_mirrors (hmirrored c hsocket) id

/-- A map that shows the flood: its socket opens, the server takes the subscription and its answer
arrives. -/
def demoActs : List Act :=
  [.opened 0,
   .deliver 0 { now := 0, safety_events := demoEvents, reply := some [Ws.Events.wsEvent "e" demoRow]
                sends := true },
   .message 0]

/-- That run, with numbers that are read as they are written. -/
def demoRun : Hook := run (step ⟨id, 30⟩) (mount (some demoBounds) 9 {}) demoActs

theorem viewport_follows_demo : ∃ ws ∈ demoRun.connections.sockets,
    ∃ c, ws.data.server.socket = .serving c ∧ wanted c = (demoBounds, 9) := by
  have hallowed : ∀ e ∈ events (step ⟨id, 30⟩) (mount (some demoBounds) 9 {}) demoActs,
      Allowed ⟨id, 30⟩ e.pre e.act := by
    intro e he
    simp only [demoActs, events_cons, events_nil, List.mem_cons, List.not_mem_nil, or_false] at he
    rcases he with rfl | rfl | rfl
    · trivial
    · intro ws frame hws hframe
      obtain rfl := Option.some.inj hws
      obtain rfl := Option.some.inj hframe
      constructor
      · intro q replied hquery hreply
        obtain rfl := Option.some.inj hquery
        obtain rfl := Option.some.inj hreply
        exact answers_demo
      · intro vpe hinput
        cases hinput
    · trivial
  have hwhole : Whole {} := fun id hid => by simp at hid
  obtain ⟨-, -, hfollows⟩ := viewport_follows ⟨id, 30⟩ (some demoBounds) 9 hwhole hallowed
  refine ⟨_, List.mem_singleton_self _, ?_⟩
  rcases (hfollows _ (List.mem_singleton_self _)).2 demoBounds rfl rfl rfl with
    hclosed | ⟨c, hserving, hwanted, -⟩
  · cases hclosed
  · exact ⟨c, hserving, hwanted⟩

end ViewportLink
end Pwa
end SentinelMesh
