/-
# From the first batch to the live stream

`handle_events_ws` of `ws/events_ws.rs` on the feed, one await at a time where others may come
between.  A connection queries what is in its viewport, sends the batch, and only then subscribes to
`event_tx`; from there on it receives.  When it lags it does the opposite: it subscribes anew, and
then queries.

What is committed after the query and broadcast before the subscription is in neither
(`never_sent`).  `none_missed` says that nothing else is missed.
-/

import SentinelMesh.Lib.Channel
import SentinelMesh.Ws.Feed
import SentinelMesh.Ws.Filters

namespace SentinelMesh
namespace Ws
namespace Live

open Lib
open Nlp (Env SafetyEvent)
open Events

/-! ### The system -/

/-- Where a connection is. -/
inductive Phase
  /-- It waits for a message that subscribes. -/
  | awaiting
  /-- Its query has been answered, on the tables of that time. -/
  | queried (q : Query) (low_bandwidth : Bool) (safety_events : Table Uuid SafetyEvent)
      (initial : List WsEvent)
  /-- It has sent the batch. -/
  | batched (q : Query) (safety_events : Table Uuid SafetyEvent)
  /-- It receives, and has taken so many of the broadcasts. -/
  | receiving (next : ℕ)
  /-- It has lagged, and subscribed anew. -/
  | resubscribed (next : ℕ)

/-- The feed, and a connection to it. -/
structure Sys where
  feed : Feed.Sys
  phase : Phase := .awaiting
  session : Events.Session := {}

/-- What can happen next.  Where the connection takes a turn, `now` is when and `sends` whether the
socket takes what is sent. -/
inductive Act
  | feed (a : Feed.Act)
  /-- A message subscribes, and the query is answered. -/
  | query (q : Query) (low_bandwidth : Bool) (initial : List WsEvent)
  | sendBatch (now : ℕ) (sends : Bool)
  | subscribe
  | receive (now : ℕ) (sends : Bool)
  /-- The query after a lag, which may fail. -/
  | refresh (reply : Option (List WsEvent)) (now : ℕ) (sends : Bool)
  /-- A text or another frame of the client, or the debounce timer. -/
  | client (input : Input) (reply : Option (List WsEvent)) (now : ℕ) (sends : Bool)

/-- The start: nothing is there, and no message has come. -/
def Sys.init (start : Timestamp) (subscriptions : Table Uuid (Option Nlp.PushPreferences)) : Sys :=
  { feed := Feed.Sys.init start subscriptions }

/-- The rows of the database. -/
def Sys.events (s : Sys) : Table Uuid SafetyEvent := s.feed.nlp.db.events

/-- The turn of a connection, on the tables as they are. -/
def Sys.turn (s : Sys) (rate_cap : ℕ) (input : Input) (reply : Option (List WsEvent)) (now : ℕ)
    (sends : Bool) : Events.Session :=
  Events.step rate_cap s.session { input, now, safety_events := s.events, reply, sends }

/-- An input that is of the client, or of the timer. -/
def isClient : Input → Bool
  | .broadcast _ | .lagged | .disconnected => false
  | _ => true

/-- The next state; an action that is not possible changes nothing. -/
def step (env : Env) (rate_cap capacity : ℕ) (s : Sys) : Act → Sys
  | .feed a => { s with feed := Feed.step env s.feed a }
  | .query q low_bandwidth initial =>
    match s.phase with
    | .awaiting => { s with phase := .queried q low_bandwidth s.events initial }
    | _ => s
  | .sendBatch now sends =>
    match s.phase with
    | .queried q low_bandwidth safety_events initial =>
      { s with
        phase := .batched q safety_events
        session := Events.step rate_cap s.session
          { input := .text (.ok (.subscribe q.bounds q.zoom q.filters low_bandwidth)), now
            safety_events, reply := some initial, sends } }
    | _ => s
  | .subscribe =>
    match s.phase with
    | .batched _ _ => { s with phase := .receiving s.feed.log.length }
    | _ => s
  | .receive now sends =>
    match s.phase with
    | .receiving next => match recv capacity s.feed.log next with
      | .empty => s
      | .lagged _ => { s with phase := .resubscribed s.feed.log.length }
      | .got vpe =>
        { s with
          phase := .receiving (next + 1)
          session := s.turn rate_cap (.broadcast vpe) none now sends }
    | _ => s
  | .refresh reply now sends =>
    match s.phase with
    | .resubscribed next =>
      { s with phase := .receiving next, session := s.turn rate_cap .lagged reply now sends }
    | _ => s
  | .client input reply now sends =>
    match s.phase with
    | .receiving _ =>
      if isClient input then { s with session := s.turn rate_cap input reply now sends } else s
    | _ => s

/-! ### Runs -/

/-- What the connection wants to be told of. -/
def query (c : Conn) : Query := { bounds := c.current_bounds, filters := c.filters, zoom := c.current_zoom }

/-- The events that were sent. -/
def Sent (session : Events.Session) (id : Uuid) : Prop :=
  ∃ msg ∈ session.sent, ∃ event ∈ msg.events, event.id = id

/-- **No event is missed**: a connection that has taken all broadcasts has sent every event that is
active, that it wants, and that was broadcast in its viewport. -/
def NoneMissed (s : Sys) : Prop :=
  ∀ c, s.phase = .receiving s.feed.log.length → s.session.socket = .serving c →
    ∀ vpe ∈ s.feed.log, c.current_bounds.contains vpe.lat vpe.lng = true →
      ∀ row, s.events.find? vpe.id = some row → (query c).selects row = true → Sent s.session vpe.id

/-- The answer is one of the database, and the limit is not reached. -/
def Answered (safety_events : Table Uuid SafetyEvent) (q : Query) (initial : List WsEvent) : Prop :=
  Answers safety_events q initial ∧
    (safety_events.rows.filter fun r => q.selects r.2).length ≤ viewportEventLimit q.zoom

/-- No broadcast is dropped for its severity or the rate. -/
def Admits (rate_cap : ℕ) (c : Conn) (now : ℕ) (vpe : ViewportEvent) : Prop :=
  (c.low_bandwidth = true → vpe.severity = "CRITICAL" ∨ vpe.severity = "HIGH") ∧
    (c.window now).rate_count < rate_cap

/-- A step without disturbance: the query is answered, there is no lag, no broadcast of the viewport
is dropped, and the viewport does not change. -/
def Undisturbed (rate_cap capacity : ℕ) (s : Sys) : Act → Prop
  | .query q _ initial => s.phase = .awaiting → Answered s.events q initial
  | .receive now _ => ∀ next, s.phase = .receiving next →
      (∀ missed, recv capacity s.feed.log next ≠ .lagged missed) ∧
        ∀ vpe c, recv capacity s.feed.log next = .got vpe → s.session.socket = .serving c →
          c.current_bounds.contains vpe.lat vpe.lng = true → Admits rate_cap c now vpe
  | .client input _ _ _ => ∀ bounds zoom, input ≠ .text (.ok (.viewportChanged bounds zoom))
  | _ => True

/-- Between its query and its subscription nothing is broadcast that the connection wants and that
was not there at the query. -/
def Ordered (s : Sys) : Act → Prop
  | .feed (.send j) => ∀ q safety_events, (s.phase = .batched q safety_events ∨
        ∃ low_bandwidth initial, s.phase = .queried q low_bandwidth safety_events initial) →
      ∀ vpe, s.feed.outgoing[j]? = some vpe → ∀ row, s.events.find? vpe.id = some row →
        q.selects row = true → ∃ old, safety_events.find? vpe.id = some old
  | _ => True

/-! ### The connection -/

/-- The connection is closed, or wants what it asked for. -/
def Steady (q : Query) : Events.Socket → Prop
  | .subscribing => False
  | .serving c => query c = q ∧ c.pending_viewport = none
  | .closed => True

variable {rate_cap capacity : ℕ} {q : Query} {c : Conn} {a : Action}

theorem query_window (c : Conn) (now : ℕ) :
    query (c.window now) = query c ∧ (c.window now).pending_viewport = c.pending_viewport := by
  unfold Conn.window
  split <;> exact ⟨rfl, rfl⟩

theorem steady_send {msg : ServerMsg} (h : query c = q ∧ c.pending_viewport = none) :
    Steady q (a.send msg c).1 := by
  unfold Action.send
  split_ifs
  · exact h
  · trivial

theorem steady_received {vpe : ViewportEvent} (h : query c = q ∧ c.pending_viewport = none) :
    Steady q (c.received rate_cap a vpe).1 := by
  obtain ⟨hquery, hpending⟩ := query_window c a.now
  have hwindow : query (c.window a.now) = q ∧ (c.window a.now).pending_viewport = none :=
    ⟨hquery.trans h.1, hpending.trans h.2⟩
  unfold Conn.received
  split_ifs
  · exact h
  · exact h
  · exact hwindow
  · dsimp only
    split
    · exact hwindow
    · exact steady_send hwindow

theorem steady_refresh (h : query c = q ∧ c.pending_viewport = none) :
    Steady q (c.refresh a).1 := by
  unfold Conn.refresh
  split
  · exact h
  · exact steady_send h

/-- **A turn keeps what a connection wants**, unless the viewport changes. -/
theorem steady_turn {s : Events.Socket} (h : Steady q s)
    (hviewport : ∀ bounds zoom, a.input ≠ .text (.ok (.viewportChanged bounds zoom))) :
    Steady q (turn rate_cap s a).1 := by
  cases s with
  | subscribing => exact h.elim
  | serving c =>
      unfold turn
      dsimp only
      split
      · split_ifs
        · unfold Conn.debounced
          obtain ⟨hquery, hpending⟩ := h
          dsimp only
          rw [hpending]
          exact ⟨hquery, rfl⟩
        · exact h
      · exact steady_received h
      · exact steady_refresh h
      · trivial
      · rename_i bounds zoom hinput
        exact absurd hinput (hviewport bounds zoom)
      · exact steady_refresh h
      · exact h
      · exact h
      · trivial
      · exact h
  | closed => trivial

/-- What was sent stays sent. -/
theorem sent_step {session : Events.Session} {id : Uuid} (a : Action) (h : Sent session id) :
    Sent (Events.step rate_cap session a) id := by
  obtain ⟨msg, hmsg, event, hevent, hid⟩ := h
  exact ⟨msg, List.mem_append_left _ hmsg, event, hevent, hid⟩

/-- **A broadcast of the viewport is sent**, or the connection ends. -/
theorem sent_received {session : Events.Session} {vpe : ViewportEvent} {tier : Nlp.TrustTier}
    (hserving : session.socket = .serving c) (hinput : a.input = .broadcast vpe)
    (hbounds : c.current_bounds.contains vpe.lat vpe.lng = true) (hadmits : Admits rate_cap c a.now vpe)
    (hbrought : Feed.Says vpe tier) :
    (Events.step rate_cap session a).socket = .closed ∨ Sent (Events.step rate_cap session a) vpe.id := by
  obtain ⟨event, hjson, hid, -⟩ := hbrought
  obtain ⟨hseverity, hrate⟩ := hadmits
  have hlow : (!c.low_bandwidth || decide (vpe.severity = "CRITICAL" ∨ vpe.severity = "HIGH")) = true := by
    cases hbandwidth : c.low_bandwidth with
    | false => rfl
    | true => exact decide_eq_true (hseverity hbandwidth)
  have hturn : turn rate_cap session.socket a = c.received rate_cap a vpe := by
    rw [hserving]
    unfold turn
    dsimp only
    rw [hinput]
  unfold Events.step
  rw [hturn]
  cases hsends : a.sends with
  | true =>
      have hforwards : c.forwards rate_cap a vpe = true := by
        unfold Conn.forwards
        rw [hbounds, hlow, decide_eq_true hrate, hsends]
        rfl
      obtain ⟨c', patch, hreceived, hpatch, -, -⟩ := received_of_forwards hforwards hjson
      rw [hreceived]
      refine .inr ⟨.diffPatch patch, by simp, event, ?_, hid⟩
      rw [ServerMsg.events, hpatch]
      exact List.mem_singleton_self _
  | false =>
      refine .inl ?_
      unfold Conn.received
      rw [if_neg (by simp [hbounds]), if_neg (not_low_iff.2 hlow), if_neg (by omega), hjson]
      dsimp only
      unfold Action.send
      rw [hsends]
      rfl

/-! ### The invariant -/

/-- What was in the tables still is. -/
def Grown (old new : Table Uuid SafetyEvent) : Prop :=
  ∀ id row, old.find? id = some row → ∃ row', new.find? id = some row' ∧ Feed.Follows row row'

/-- All that the query selects is there. -/
def Covers (q : Query) (safety_events : Table Uuid SafetyEvent) (P : Uuid → Prop) : Prop :=
  ∀ id row, safety_events.find? id = some row → q.selects row = true → P id

/-- What was broadcast, and the query would select, was there at the query. -/
def KnownBy (q : Query) (safety_events : Table Uuid SafetyEvent) (s : Sys) : Prop :=
  ∀ vpe ∈ s.feed.log, ∀ row, s.events.find? vpe.id = some row → q.selects row = true →
    ∃ old, safety_events.find? vpe.id = some old

/-- What holds of a connection, by where it is. -/
def Inv (s : Sys) : Prop :=
  match s.phase with
  | .awaiting => s.session.socket = .subscribing
  | .queried q _ safety_events initial => s.session.socket = .subscribing ∧
      Grown safety_events s.events ∧ KnownBy q safety_events s ∧
      Covers q safety_events fun id => ∃ event ∈ initial, event.id = id
  | .batched q safety_events => Steady q s.session.socket ∧
      Grown safety_events s.events ∧ KnownBy q safety_events s ∧
      (s.session.socket = .closed ∨ Covers q safety_events (Sent s.session))
  | .receiving next => next ≤ s.feed.log.length ∧ ∃ q, Steady q s.session.socket ∧
      (s.session.socket = .closed ∨
        ∀ vpe ∈ s.feed.log.take next, q.bounds.contains vpe.lat vpe.lng = true →
          ∀ row, s.events.find? vpe.id = some row → q.selects row = true → Sent s.session vpe.id)
  | .resubscribed _ => False

/-- A row that is selected was selected before. -/
theorem selects_of_follows {row row' : SafetyEvent} (h : Feed.Follows row row')
    (hselects : q.selects row' = true) : q.selects row = true := by
  obtain ⟨hlat, hlng, htype, hactive⟩ := h
  unfold Query.selects at hselects ⊢
  rw [hlat, hlng, htype] at hselects
  simp only [Bool.and_eq_true] at hselects ⊢
  exact ⟨⟨hselects.1.1, hactive hselects.1.2⟩, hselects.2⟩

/-- **An answer below the limit has all that is selected.** -/
theorem covers_of_answered {safety_events : Table Uuid SafetyEvent} {initial : List WsEvent}
    (h : Answered safety_events q initial) :
    Covers q safety_events fun id => ∃ event ∈ initial, event.id = id := by
  obtain ⟨⟨all, hperm, -, rfl⟩, hlimit⟩ := h
  intro id row hrow hselects
  have hall : (id, row) ∈ all :=
    hperm.mem_iff.2 (List.mem_filter.2 ⟨Table.find?_eq_some_iff.1 hrow, hselects⟩)
  rw [List.take_of_length_le (by rw [hperm.length_eq]; exact hlimit)]
  exact ⟨wsEvent id row, List.mem_map.2 ⟨(id, row), hall, rfl⟩, rfl⟩

theorem Grown.refl (safety_events : Table Uuid SafetyEvent) : Grown safety_events safety_events :=
  fun _ row hrow => ⟨row, hrow, .refl row⟩

theorem Grown.trans {old new newer : Table Uuid SafetyEvent} (h : Grown old new)
    (h' : Grown new newer) : Grown old newer := by
  intro id row hrow
  obtain ⟨row', hrow', hfollows⟩ := h id row hrow
  obtain ⟨row'', hrow'', hfollows'⟩ := h' id row' hrow'
  exact ⟨row'', hrow'', hfollows.trans hfollows'⟩

theorem grown_step (env : Env) (feed : Feed.Sys) (a : Feed.Act) :
    Grown feed.nlp.db.events (Feed.step env feed a).nlp.db.events := by
  intro id row hrow
  obtain ⟨row', hrow', hfollows, -⟩ := Feed.row_step env a hrow
  exact ⟨row', hrow', hfollows⟩

variable {env : Env} {s : Sys}

/-- A broadcast is of a row that was there, and selected if it is now. -/
theorem selected_before (hsound : Feed.Sound s.feed) {new : Table Uuid SafetyEvent}
    (hgrown : Grown s.events new) {vpe : ViewportEvent} (hvpe : vpe ∈ s.feed.outgoing ++ s.feed.log)
    {row' : SafetyEvent} (hrow' : new.find? vpe.id = some row') (hselects : q.selects row' = true) :
    ∃ row, s.events.find? vpe.id = some row ∧ q.selects row = true := by
  obtain ⟨tier, hbrought⟩ := hsound.tiered vpe hvpe
  have htold : Feed.InFlight s.feed vpe.id tier ∨ Feed.Heard s.feed vpe.id tier := by
    rcases List.mem_append.1 hvpe with hout | hlog
    · exact .inl (.outgoing vpe hout rfl hbrought)
    · exact .inr ⟨vpe, hlog, rfl, hbrought⟩
  obtain ⟨row, hrow, -⟩ := hsound.reached vpe.id tier htold
  obtain ⟨row'', hrow'', hfollows⟩ := hgrown vpe.id row hrow
  obtain rfl := Option.some.inj (hrow'.symm.trans hrow'')
  exact ⟨row, hrow, selects_of_follows hfollows hselects⟩

/-- What was broadcast stays known, if what is broadcast now is. -/
theorem knownBy_step (hsound : Feed.Sound s.feed) {safety_events : Table Uuid SafetyEvent}
    {a : Feed.Act} (h : KnownBy q safety_events s)
    (hordered : ∀ j, a = .send j → ∀ vpe, s.feed.outgoing[j]? = some vpe →
      ∀ row, s.events.find? vpe.id = some row → q.selects row = true →
        ∃ old, safety_events.find? vpe.id = some old) :
    KnownBy q safety_events { s with feed := Feed.step env s.feed a } := by
  intro vpe hvpe row hrow hselects
  have hgrown : Grown s.events (Feed.step env s.feed a).nlp.db.events := grown_step env s.feed a
  have hold : vpe ∈ s.feed.log → ∃ old, safety_events.find? vpe.id = some old := by
    intro hlog
    obtain ⟨before, hbefore, hselected⟩ :=
      selected_before hsound hgrown (List.mem_append_right _ hlog) hrow hselects
    exact h vpe hlog before hbefore hselected
  rcases Feed.log_step env s.feed a with hsame | ⟨j, new, ha, hnext, hafter⟩
  · refine hold ?_
    change vpe ∈ (Feed.step env s.feed a).log at hvpe
    rwa [hsame] at hvpe
  · change vpe ∈ (Feed.step env s.feed a).log at hvpe
    rw [hafter] at hvpe
    rcases List.mem_append.1 hvpe with hlog | hnew
    · exact hold hlog
    · obtain rfl := List.mem_singleton.1 hnew
      obtain ⟨before, hbefore, hselected⟩ := selected_before hsound hgrown
        (List.mem_append_left _ (List.mem_of_getElem? hnext)) hrow hselects
      exact hordered j ha vpe hnext before hbefore hselected

/-- **A step of the feed keeps the invariant** if nothing new is broadcast too early. -/
theorem inv_feed (hsound : Feed.Sound s.feed) {a : Feed.Act} (h : Inv s)
    (hordered : Ordered s (.feed a)) : Inv { s with feed := Feed.step env s.feed a } := by
  have hgrown : Grown s.events (Feed.step env s.feed a).nlp.db.events := grown_step env s.feed a
  unfold Inv at h ⊢
  dsimp only
  cases hphase : s.phase with
  | awaiting =>
      rw [hphase] at h
      exact h
  | queried q low_bandwidth safety_events initial =>
      rw [hphase] at h
      obtain ⟨hsocket, hold, hknown, hcovers⟩ := h
      refine ⟨hsocket, hold.trans hgrown, knownBy_step hsound hknown ?_, hcovers⟩
      rintro j rfl
      exact hordered q safety_events (.inr ⟨low_bandwidth, initial, hphase⟩)
  | batched q safety_events =>
      rw [hphase] at h
      obtain ⟨hsteady, hold, hknown, hcovers⟩ := h
      refine ⟨hsteady, hold.trans hgrown, knownBy_step hsound hknown ?_, hcovers⟩
      rintro j rfl
      exact hordered q safety_events (.inl hphase)
  | receiving next =>
      rw [hphase] at h
      obtain ⟨hle, q, hsteady, hsent⟩ := h
      obtain ⟨news, hlog⟩ : ∃ news, (Feed.step env s.feed a).log = s.feed.log ++ news := by
        rcases Feed.log_step env s.feed a with hsame | ⟨j, new, -, -, hafter⟩
        · exact ⟨[], by rw [hsame, List.append_nil]⟩
        · exact ⟨[new], by rw [hafter]⟩
      refine ⟨by rw [hlog, List.length_append]; omega, q, hsteady, hsent.imp_right ?_⟩
      intro hsent vpe hvpe hbounds row hrow hselects
      rw [hlog, List.take_append_of_le_length hle] at hvpe
      obtain ⟨before, hbefore, hselected⟩ := selected_before hsound hgrown
        (List.mem_append_right _ (List.mem_of_mem_take hvpe)) hrow hselects
      exact hsent vpe hvpe hbounds before hbefore hselected
  | resubscribed next =>
      rw [hphase] at h
      exact h

/-- The batch is sent. -/
theorem inv_sendBatch {low_bandwidth : Bool} {safety_events : Table Uuid SafetyEvent}
    {initial : List WsEvent} (h : Inv s)
    (hphase : s.phase = .queried q low_bandwidth safety_events initial) (now : ℕ) (sends : Bool) :
    Inv { s with
      phase := .batched q safety_events
      session := Events.step rate_cap s.session
        { input := .text (.ok (.subscribe q.bounds q.zoom q.filters low_bandwidth)), now
          safety_events, reply := some initial, sends } } := by
  unfold Inv at h ⊢
  rw [hphase] at h
  obtain ⟨hsocket, hold, hknown, hcovers⟩ := h
  dsimp only
  unfold Events.step turn
  rw [hsocket]
  dsimp only
  unfold Action.subscribe Action.send
  dsimp only
  cases sends with
  | true =>
      refine ⟨⟨rfl, rfl⟩, hold, hknown, .inr fun id row hrow hselects => ?_⟩
      obtain ⟨event, hevent, hid⟩ := hcovers id row hrow hselects
      exact ⟨.initialBatch initial, by simp, event, hevent, hid⟩
  | false => exact ⟨trivial, hold, hknown, .inl rfl⟩

/-- **The connection subscribes**, and all that was broadcast is in the batch. -/
theorem inv_subscribe {safety_events : Table Uuid SafetyEvent} (h : Inv s)
    (hphase : s.phase = .batched q safety_events) :
    Inv { s with phase := .receiving s.feed.log.length } := by
  unfold Inv at h ⊢
  rw [hphase] at h
  obtain ⟨hsteady, hold, hknown, hcovers⟩ := h
  refine ⟨le_rfl, q, hsteady, hcovers.imp_right ?_⟩
  intro hcovers vpe hvpe hbounds row hrow hselects
  obtain ⟨old, hfound⟩ := hknown vpe (List.mem_of_mem_take hvpe) row hrow hselects
  obtain ⟨row', hrow', hfollows⟩ := hold vpe.id old hfound
  obtain rfl := Option.some.inj (hrow.symm.trans hrow')
  exact hcovers vpe.id old hfound (selects_of_follows hfollows hselects)

/-- A turn that is no broadcast loses nothing. -/
theorem inv_turn {next : ℕ} (h : Inv s) (hphase : s.phase = .receiving next) (a : Action)
    (hviewport : ∀ bounds zoom, a.input ≠ .text (.ok (.viewportChanged bounds zoom))) :
    Inv { s with session := Events.step rate_cap s.session a } := by
  unfold Inv at h ⊢
  dsimp only
  rw [hphase] at h ⊢
  obtain ⟨hle, q, hsteady, hsent⟩ := h
  refine ⟨hle, q, steady_turn hsteady hviewport, ?_⟩
  rcases hsent with hclosed | hsent
  · refine .inl ?_
    unfold Events.step turn
    rw [hclosed]
  · exact .inr fun vpe hvpe hbounds row hrow hselects =>
      sent_step a (hsent vpe hvpe hbounds row hrow hselects)

/-- **A broadcast is taken**, and sent if it is of the viewport. -/
theorem inv_receive {next : ℕ} {vpe : ViewportEvent} (hsound : Feed.Sound s.feed) (h : Inv s)
    (hphase : s.phase = .receiving next) (hnext : s.feed.log[next]? = some vpe) {a : Action}
    (hinput : a.input = .broadcast vpe)
    (hadmits : ∀ c, s.session.socket = .serving c →
      c.current_bounds.contains vpe.lat vpe.lng = true → Admits rate_cap c a.now vpe) :
    Inv { s with phase := .receiving (next + 1), session := Events.step rate_cap s.session a } := by
  have hviewport : ∀ bounds zoom, a.input ≠ .text (.ok (.viewportChanged bounds zoom)) := by
    rw [hinput]
    simp
  have hlt : next < s.feed.log.length := (List.getElem?_eq_some_iff.1 hnext).1
  unfold Inv at h ⊢
  rw [hphase] at h
  obtain ⟨hle, q, hsteady, hsent⟩ := h
  refine ⟨hlt, q, steady_turn hsteady hviewport, ?_⟩
  cases hsocket : s.session.socket with
  | subscribing =>
      rw [hsocket] at hsteady
      exact hsteady.elim
  | closed =>
      refine .inl ?_
      dsimp only
      unfold Events.step turn
      rw [hsocket]
  | serving c =>
      rw [hsocket] at hsteady hsent
      obtain ⟨hquery, -⟩ := hsteady
      have hsent := hsent.resolve_left (by simp)
      have hbounds_eq : q.bounds = c.current_bounds := by rw [← hquery]; rfl
      obtain ⟨tier, hbrought⟩ := hsound.tiered vpe (List.mem_append_right _ (List.mem_of_getElem? hnext))
      rcases Classical.em (c.current_bounds.contains vpe.lat vpe.lng = true) with hin | hout
      · rcases sent_received hsocket hinput hin (hadmits c hsocket hin) hbrought with hclosed | hnew
        · exact .inl hclosed
        · refine .inr (forall_take_succ (fun v hv hbounds row hrow hselects => ?_) hnext
            fun _ row hrow hselects => hnew)
          exact sent_step a (hsent v hv hbounds row hrow hselects)
      · refine .inr (forall_take_succ (fun v hv hbounds row hrow hselects => ?_) hnext
          fun hbounds => ?_)
        · exact sent_step a (hsent v hv hbounds row hrow hselects)
        · rw [hbounds_eq] at hbounds
          exact absurd hbounds hout

/-- **The invariant is kept** by every step that is undisturbed and in order. -/
theorem inv_step (env : Env) (rate_cap capacity : ℕ) {a : Act} (h : Feed.Sound s.feed ∧ Inv s)
    (hundisturbed : Undisturbed rate_cap capacity s a) (hordered : Ordered s a) :
    Feed.Sound (step env rate_cap capacity s a).feed ∧ Inv (step env rate_cap capacity s a) := by
  obtain ⟨hsound, hinv⟩ := h
  cases a with
  | feed a => exact ⟨Feed.sound_step env a hsound, inv_feed hsound hinv hordered⟩
  | query q low_bandwidth initial =>
      unfold step
      dsimp only
      split
      · rename_i hphase
        refine ⟨hsound, ?_⟩
        unfold Inv at hinv ⊢
        rw [hphase] at hinv
        exact ⟨hinv, .refl _, fun vpe _ row hrow _ => ⟨row, hrow⟩,
          covers_of_answered (hundisturbed hphase)⟩
      · exact ⟨hsound, hinv⟩
  | sendBatch now sends =>
      unfold step
      dsimp only
      split
      · rename_i hphase
        exact ⟨hsound, inv_sendBatch hinv hphase now sends⟩
      · exact ⟨hsound, hinv⟩
  | subscribe =>
      unfold step
      dsimp only
      split
      · rename_i hphase
        exact ⟨hsound, inv_subscribe hinv hphase⟩
      · exact ⟨hsound, hinv⟩
  | receive now sends =>
      unfold step
      dsimp only
      split
      · rename_i next hphase
        obtain ⟨hlag, hadmits⟩ := hundisturbed next hphase
        split
        · exact ⟨hsound, hinv⟩
        · rename_i missed hmissed
          exact absurd hmissed (hlag missed)
        · rename_i vpe hgot
          exact ⟨hsound, inv_receive hsound hinv hphase (recv_eq_got hgot) rfl
            fun c hserving hbounds => hadmits vpe c hgot hserving hbounds⟩
      · exact ⟨hsound, hinv⟩
  | refresh reply now sends =>
      unfold step
      dsimp only
      split
      · rename_i next hphase
        unfold Inv at hinv
        rw [hphase] at hinv
        exact hinv.elim
      · exact ⟨hsound, hinv⟩
  | client input reply now sends =>
      unfold step
      dsimp only
      split
      · rename_i next hphase
        split_ifs
        · exact ⟨hsound, inv_turn hinv hphase _ hundisturbed⟩
        · exact ⟨hsound, hinv⟩
      · exact ⟨hsound, hinv⟩

/-- **No event is missed** in a run without disturbance in which nothing that is new is broadcast
between the query and the subscription. -/
theorem none_missed (env : Env) (rate_cap capacity : ℕ) (start : Timestamp)
    (subscriptions : Table Uuid (Option Nlp.PushPreferences)) (as : List Act)
    (hundisturbed : ∀ e ∈ events (step env rate_cap capacity) (Sys.init start subscriptions) as,
      Undisturbed rate_cap capacity e.pre e.act)
    (hordered : ∀ e ∈ events (step env rate_cap capacity) (Sys.init start subscriptions) as,
      Ordered e.pre e.act) :
    NoneMissed (run (step env rate_cap capacity) (Sys.init start subscriptions) as) := by
  have hboth := run_induction_of (P := fun s => Feed.Sound s.feed ∧ Inv s)
    (G := fun s a => Undisturbed rate_cap capacity s a ∧ Ordered s a)
    (s := Sys.init start subscriptions) ⟨Feed.sound_init start subscriptions, rfl⟩
    (fun s a h hg => inv_step env rate_cap capacity h hg.1 hg.2)
    (fun e he => ⟨hundisturbed e he, hordered e he⟩)
  intro c hphase hserving vpe hvpe hbounds row hrow hselects
  have hinv := hboth.2
  unfold Inv at hinv
  rw [hphase] at hinv
  obtain ⟨-, q, hsteady, hsent⟩ := hinv
  rw [hserving] at hsteady hsent
  obtain ⟨rfl, -⟩ := hsteady
  rw [List.take_length] at hsent
  exact hsent.resolve_left (by simp) vpe hvpe hbounds row hrow hselects

/-! ### A flood, too early and in time -/

/-- A viewport. -/
def demoQuery : Query := { bounds := { north := 1, south := -1, east := 1, west := -1 }, filters := [], zoom := 9 }

/-- A flood in it is reported and broadcast. -/
def demoFlood : List Act :=
  [.feed (.nlp (.begin (Nlp.demoPayload (some "a") (some "rss")) none)),
   .feed (.nlp (.commit 0 "flood")), .feed (.send 0)]

/-- That happens after the connection has subscribed. -/
def demoLate : List Act :=
  [.query demoQuery false [], .sendBatch 0 true, .subscribe] ++ demoFlood ++ [.receive 0 true]

/-- That happens between the query and the subscription. -/
def demoEarly : List Act :=
  [.query demoQuery false []] ++ demoFlood ++ [.sendBatch 0 true, .subscribe]

/-- A run of the small world. -/
def demoRun (as : List Act) : Sys := run (step Nlp.demoEnv 30 1024) (Sys.init 0 Table.empty) as

/-- The broadcast of the flood. -/
def demoBroadcast : ViewportEvent :=
  ingestedEvent "flood" (Nlp.demoPayload (some "a") (some "rss")) .heuristic

theorem answered_demo : Answered Table.empty demoQuery [] :=
  ⟨⟨[], by simp [Table.empty], .nil, by simp⟩, Nat.zero_le _⟩

/-- The broadcast is taken in time. -/
theorem undisturbed_receive :
    Undisturbed 30 1024 (demoRun (demoLate.take 6)) (.receive 0 true) := by
  have hlog : (demoRun (demoLate.take 6)).feed.log = [demoBroadcast] := by decide
  intro next hphase
  have hnext : 0 = next := Phase.receiving.inj hphase
  subst hnext
  rw [hlog]
  have hgot : recv 1024 [demoBroadcast] 0 = .got demoBroadcast := rfl
  rw [hgot]
  refine ⟨by simp, fun vpe c _ hserving _ => ?_⟩
  obtain rfl := Events.Socket.serving.inj hserving
  exact ⟨fun hlow => absurd hlow Bool.false_ne_true, by decide⟩

/-- A flood that is broadcast after the connection has subscribed is sent. -/
theorem none_missed_demo : NoneMissed (demoRun demoLate) := by
  refine none_missed Nlp.demoEnv 30 1024 0 Table.empty demoLate ?_ ?_
  · intro e he
    simp only [demoLate, demoFlood, List.cons_append, List.nil_append, events_cons, events_nil,
      List.mem_cons, List.not_mem_nil, or_false] at he
    rcases he with rfl | rfl | rfl | rfl | rfl | rfl | rfl
    · exact fun _ => answered_demo
    · trivial
    · trivial
    · trivial
    · trivial
    · trivial
    · exact undisturbed_receive
  · intro e he
    simp only [demoLate, demoFlood, List.cons_append, List.nil_append, events_cons, events_nil,
      List.mem_cons, List.not_mem_nil, or_false] at he
    rcases he with rfl | rfl | rfl | rfl | rfl | rfl | rfl
    · trivial
    · trivial
    · trivial
    · trivial
    · trivial
    · rintro q safety_events (hphase | ⟨low_bandwidth, initial, hphase⟩)
      · cases hphase
      · cases hphase
    · trivial

/-- **A flood is never sent** that is committed after the query and broadcast before the
subscription. -/
theorem never_sent :
    ¬ ∀ as, (∀ e ∈ events (step Nlp.demoEnv 30 1024) (Sys.init 0 Table.empty) as,
        Undisturbed 30 1024 e.pre e.act) →
      NoneMissed (demoRun as) := by
  intro hall
  have hundisturbed : ∀ e ∈ events (step Nlp.demoEnv 30 1024) (Sys.init 0 Table.empty) demoEarly,
      Undisturbed 30 1024 e.pre e.act := by
    intro e he
    simp only [demoEarly, demoFlood, List.cons_append, List.nil_append, events_cons, events_nil,
      List.mem_cons, List.not_mem_nil, or_false] at he
    rcases he with rfl | rfl | rfl | rfl | rfl | rfl
    · exact fun _ => answered_demo
    · trivial
    · trivial
    · trivial
    · trivial
    · trivial
  have hlog : (demoRun demoEarly).feed.log = [demoBroadcast] := by decide
  have hrow : (demoRun demoEarly).events.find? "flood" = some Nlp.demoRow := by decide
  have hphase : (demoRun demoEarly).phase = .receiving (demoRun demoEarly).feed.log.length := rfl
  obtain ⟨msg, hmsg, event, hevent, -⟩ := hall demoEarly hundisturbed _ hphase rfl demoBroadcast
    (by rw [hlog]; exact List.mem_singleton_self _) (by decide) Nlp.demoRow hrow
    (by decide)
  have hsent : (demoRun demoEarly).session.sent = [.initialBatch []] := rfl
  rw [hsent] at hmsg
  obtain rfl := List.mem_singleton.1 hmsg
  cases hevent

end Live
end Ws
end SentinelMesh
