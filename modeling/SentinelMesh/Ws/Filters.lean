/-
# What a connection was subscribed to

A connection is sent events in four ways: the batch it begins with, the difference after its
viewport moved, a snapshot, and a patch for each broadcast.  The first three are rows that its query
selects, by type and by place.  A broadcast is tested for its place, its severity and the rate, and
for nothing else.

`sent_of_turn` says of one message where its events come from, and `only_subscribed` when all that
is sent in a run was subscribed to.
-/

import SentinelMesh.Ws.EventsSocket

namespace SentinelMesh
namespace Ws
namespace Events

open Lib Lib.Replica

/-! ### Events that are wanted -/

/-- The events a message brings. -/
def ServerMsg.events : ServerMsg → List WsEvent
  | .initialBatch events => events
  | .diffPatch patch => patch.added ++ patch.updated
  | .snapshot events => events
  | .error _ => []

/-- A type is subscribed to, all of them if none is named. -/
def Subscribed (filters : List String) (event_type : String) : Prop :=
  filters = [] ∨ event_type ∈ filters

/-- An event is of a type that is subscribed to, and in the bounds. -/
def Wanted (filters : List String) (bounds : Bounds) (event : WsEvent) : Prop :=
  Subscribed filters event.event_type ∧ bounds.contains event.lat event.lng = true

/-- The filters of the first message that subscribes. -/
def subscription (as : List Action) : Option (List String) :=
  as.findSome? fun a => match a.input with
    | .text (.ok (.subscribe _ _ filters _)) => some filters
    | _ => none

/-- The tests a broadcast passes before it is sent, and the socket takes it. -/
def Conn.forwards (rate_cap : ℕ) (c : Conn) (a : Action) (vpe : ViewportEvent) : Bool :=
  c.current_bounds.contains vpe.lat vpe.lng &&
    (!c.low_bandwidth || decide (vpe.severity = "CRITICAL" ∨ vpe.severity = "HIGH")) &&
    decide ((c.window a.now).rate_count < rate_cap) && a.sends

/-- **What is queried is wanted.** -/
theorem Answers.wanted {safety_events : Table Uuid Nlp.SafetyEvent} {q : Query}
    {events : List WsEvent} (h : Answers safety_events q events) :
    ∀ event ∈ events, Wanted q.filters q.bounds event := by
  obtain ⟨all, hperm, _, rfl⟩ := h
  intro event hevent
  obtain ⟨row, hrow, rfl⟩ := List.mem_map.1 hevent
  have hselected := (List.mem_filter.1 (hperm.mem_iff.1 (List.mem_of_mem_take hrow))).2
  simp only [Query.selects, Bool.and_eq_true, Bool.or_eq_true, List.isEmpty_iff,
    decide_eq_true_eq] at hselected
  exact ⟨hselected.2, hselected.1.1⟩

/-- A difference brings what was queried. -/
theorem mem_computeDiff {known : Table Uuid EventDigest} {events : List WsEvent} {event : WsEvent}
    (h : event ∈ (ServerMsg.diffPatch (computeDiff known events)).events) : event ∈ events := by
  rcases List.mem_append.1 h with h | h
  · exact (List.mem_filter.1 h).1
  · exact (List.mem_filter.1 h).1

/-- **The place of a broadcast** is that of its event. -/
theorem Broadcast.place {vpe : ViewportEvent} (h : Broadcast vpe) {e : WsEvent}
    (he : vpe.event_json = some e) : e.lat = vpe.lat ∧ e.lng = vpe.lng := by
  cases h with
  | ingested event_id event trust_state =>
      obtain rfl := Option.some.inj he
      exact ⟨rfl, rfl⟩
  | confirmed event_id row =>
      obtain rfl := Option.some.inj he
      exact ⟨rfl, rfl⟩
  | acoustic event_id severity threat_class lat lng now =>
      obtain rfl := Option.some.inj he
      exact ⟨rfl, rfl⟩

/-! ### What a turn sends -/

/-- Where the events of a turn come from: the answer to its query, with the filters and the bounds
of the connection after it; or a broadcast that is forwarded. -/
inductive Sent (rate_cap : ℕ) (s : Socket) (a : Action) (c : Conn) (event : WsEvent) : Prop
  | queried {q : Query} {events : List WsEvent} (hquery : s.query a.input = some q)
      (hreply : a.reply = some events) (hfilters : q.filters = c.filters)
      (hbounds : q.bounds = c.current_bounds) (hmem : event ∈ events)
  | forwarded {c₀ : Conn} {vpe : ViewportEvent} (hserving : s = .serving c₀)
      (hinput : a.input = .broadcast vpe) (hforwards : c₀.forwards rate_cap a vpe = true)
      (hjson : vpe.event_json = some event) (hfilters : c₀.filters = c.filters)
      (hbounds : c₀.current_bounds = c.current_bounds)

/-- What is sent has been taken. -/
theorem mem_send {a : Action} {msg msg' : ServerMsg} {c : Conn} (h : msg' ∈ (a.send msg c).2) :
    msg' = msg ∧ (a.send msg c).1 = .serving c ∧ a.sends = true := by
  unfold Action.send at h ⊢
  split_ifs with hsends
  · rw [if_pos hsends] at h
    exact ⟨List.mem_singleton.1 h, rfl, hsends⟩
  · rw [if_neg hsends] at h
    cases h

theorem mem_fail {a : Action} {message : String} {msg : ServerMsg} (h : msg ∈ a.fail message) :
    msg = .error message := by
  unfold Action.fail at h
  split_ifs at h
  · exact List.mem_singleton.1 h
  · cases h

variable {rate_cap : ℕ} {s : Socket} {c : Conn} {a : Action} {msg : ServerMsg} {event : WsEvent}

theorem sent_of_subscribe {text : Except String ClientMsg} (hinput : a.input = .text text)
    (hmsg : msg ∈ (a.subscribe text).2) (hevent : event ∈ msg.events) :
    ∃ c', (a.subscribe text).1 = .serving c' ∧ Sent rate_cap .subscribing a c' event := by
  unfold Action.subscribe at hmsg ⊢
  split at hmsg
  · rw [mem_fail hmsg] at hevent
    cases hevent
  · split at hmsg
    · rw [mem_fail hmsg] at hevent
      cases hevent
    · rename_i initial hreply
      obtain ⟨rfl, hserving, -⟩ := mem_send hmsg
      rename_i bounds zoom filters low_bandwidth _
      have hquery : Socket.subscribing.query a.input = some { bounds, filters, zoom } := by
        rw [hinput]
        rfl
      exact ⟨_, hserving, .queried hquery hreply rfl rfl hevent⟩
  · rw [mem_fail hmsg] at hevent
    cases hevent

theorem sent_of_refresh (hquery : (Socket.serving c).query a.input =
      some { bounds := c.current_bounds, filters := c.filters, zoom := c.current_zoom })
    (hmsg : msg ∈ (c.refresh a).2) (hevent : event ∈ msg.events) :
    ∃ c', (c.refresh a).1 = .serving c' ∧ Sent rate_cap (.serving c) a c' event := by
  unfold Conn.refresh at hmsg ⊢
  split at hmsg
  · cases hmsg
  · rename_i events hreply
    obtain ⟨rfl, hserving, -⟩ := mem_send hmsg
    exact ⟨_, hserving, .queried hquery hreply rfl rfl hevent⟩

theorem sent_of_debounced (hinput : a.input = .debounce) (hactive : c.debounce_active = true)
    (hmsg : msg ∈ (c.debounced a).2) (hevent : event ∈ msg.events) :
    ∃ c', (c.debounced a).1 = .serving c' ∧ Sent rate_cap (.serving c) a c' event := by
  unfold Conn.debounced at hmsg ⊢
  dsimp only at hmsg ⊢
  split at hmsg
  · cases hmsg
  · rename_i new_bounds new_zoom hpending
    have hquery : (Socket.serving c).query a.input =
        some { bounds := new_bounds, filters := c.filters, zoom := new_zoom } := by
      rw [hinput]
      unfold Socket.query
      dsimp only
      rw [if_pos hactive, hpending]
      rfl
    split at hmsg
    · cases hmsg
    · rename_i events hreply
      split at hmsg
      · cases hmsg
      · rename_i hempty
        rw [if_neg hempty]
        obtain ⟨rfl, hserving, -⟩ := mem_send hmsg
        exact ⟨_, hserving, .queried hquery hreply rfl rfl (mem_computeDiff hevent)⟩

theorem window_filters (c : Conn) (now : ℕ) : (c.window now).filters = c.filters := by
  unfold Conn.window
  split <;> rfl

theorem window_bounds (c : Conn) (now : ℕ) : (c.window now).current_bounds = c.current_bounds := by
  unfold Conn.window
  split <;> rfl

/-- A severity is let through. -/
theorem not_low_iff {low severe : Bool} :
    ¬ (low && !severe) = true ↔ (!low || severe) = true := by
  cases low <;> cases severe <;> simp

/-- **A broadcast that is forwarded is sent**, alone. -/
theorem received_of_forwards {vpe : ViewportEvent} (hforwards : c.forwards rate_cap a vpe = true)
    (hjson : vpe.event_json = some event) :
    ∃ c' patch, c.received rate_cap a vpe = (.serving c', [.diffPatch patch]) ∧
      patch.added ++ patch.updated = [event] ∧ c'.filters = c.filters ∧
      c'.current_bounds = c.current_bounds := by
  simp only [Conn.forwards, Bool.and_eq_true, decide_eq_true_eq] at hforwards
  obtain ⟨⟨⟨hplace, hseverity⟩, hrate⟩, hsends⟩ := hforwards
  unfold Conn.received
  rw [if_neg (by simp [hplace]), if_neg (not_low_iff.2 hseverity), if_neg (by omega), hjson]
  dsimp only
  unfold Action.send
  rw [if_pos hsends]
  refine ⟨_, _, rfl, ?_, window_filters c a.now, window_bounds c a.now⟩
  split <;> rfl

/-- What is sent of a broadcast is forwarded. -/
theorem forwards_of_mem {vpe : ViewportEvent} (h : msg ∈ (c.received rate_cap a vpe).2) :
    c.forwards rate_cap a vpe = true ∧ ∃ event, vpe.event_json = some event := by
  unfold Conn.received at h
  split_ifs at h with hplace hlow hrate
  · cases h
  · cases h
  · cases h
  · dsimp only at h
    split at h
    · cases h
    · rename_i event hjson
      refine ⟨?_, event, hjson⟩
      obtain ⟨_, _, hsends⟩ := mem_send h
      unfold Conn.forwards
      rw [hsends, Bool.and_true, Bool.and_eq_true, Bool.and_eq_true, decide_eq_true_eq]
      exact ⟨⟨by simpa using hplace, not_low_iff.1 hlow⟩, by omega⟩

theorem sent_of_received {vpe : ViewportEvent} (hinput : a.input = .broadcast vpe)
    (hmsg : msg ∈ (c.received rate_cap a vpe).2) (hevent : event ∈ msg.events) :
    ∃ c', (c.received rate_cap a vpe).1 = .serving c' ∧
      Sent rate_cap (.serving c) a c' event := by
  obtain ⟨hforwards, e, hjson⟩ := forwards_of_mem hmsg
  obtain ⟨c', patch, hreceived, hpatch, hfilters, hbounds⟩ := received_of_forwards hforwards hjson
  rw [hreceived] at hmsg ⊢
  obtain rfl := List.mem_singleton.1 hmsg
  obtain rfl := List.mem_singleton.1 (hpatch ▸ hevent : event ∈ [e])
  exact ⟨c', rfl, .forwarded rfl hinput hforwards hjson hfilters.symm hbounds.symm⟩

/-- **Where the events come from that a turn sends.** -/
theorem sent_of_turn (hmsg : msg ∈ (turn rate_cap s a).2) (hevent : event ∈ msg.events) :
    ∃ c', (turn rate_cap s a).1 = .serving c' ∧ Sent rate_cap s a c' event := by
  unfold turn at hmsg ⊢
  cases s with
  | subscribing =>
      dsimp only at hmsg ⊢
      split at hmsg
      · rename_i text hinput
        exact sent_of_subscribe hinput hmsg hevent
      · cases hmsg
      · cases hmsg
      · cases hmsg
  | serving c =>
      dsimp only at hmsg ⊢
      split at hmsg
      · rename_i hinput
        split_ifs at hmsg with hactive
        · rw [if_pos hactive]
          exact sent_of_debounced hinput hactive hmsg hevent
        · cases hmsg
      · rename_i vpe hinput
        exact sent_of_received hinput hmsg hevent
      · rename_i hinput
        exact sent_of_refresh (by rw [hinput]; rfl) hmsg hevent
      · cases hmsg
      · cases hmsg
      · rename_i hinput
        exact sent_of_refresh (by rw [hinput]; rfl) hmsg hevent
      · cases hmsg
      · cases hmsg
      · cases hmsg
      · cases hmsg
  | closed => cases hmsg

/-! ### The filters of a connection -/

/-- The connection ends, or has the filters. -/
def Socket.Keeps (filters : List String) : Socket → Prop
  | .subscribing => False
  | .serving c => c.filters = filters
  | .closed => True

theorem keeps_send {c₁ : Conn} {filters : List String} (h : c₁.filters = filters) :
    (a.send msg c₁).1.Keeps filters := by
  unfold Action.send
  split_ifs
  · exact h
  · trivial

theorem keeps_refresh : (c.refresh a).1.Keeps c.filters := by
  unfold Conn.refresh
  split
  · rfl
  · exact keeps_send rfl

theorem keeps_debounced : (c.debounced a).1.Keeps c.filters := by
  unfold Conn.debounced
  dsimp only
  split
  · rfl
  · split
    · rfl
    · split
      · rfl
      · exact keeps_send rfl

theorem keeps_received {vpe : ViewportEvent} : (c.received rate_cap a vpe).1.Keeps c.filters := by
  unfold Conn.received
  split_ifs
  · rfl
  · rfl
  · exact window_filters c a.now
  · dsimp only
    split
    · exact window_filters c a.now
    · exact keeps_send (window_filters c a.now)

/-- **A turn keeps the filters.** -/
theorem keeps_turn : (turn rate_cap (.serving c) a).1.Keeps c.filters := by
  unfold turn
  dsimp only
  split
  · split_ifs
    · exact keeps_debounced
    · rfl
  · exact keeps_received
  · exact keeps_refresh
  · trivial
  · rfl
  · exact keeps_refresh
  · rfl
  · rfl
  · trivial
  · rfl

/-- The filters of a connection are those of its subscription. -/
def Socket.AsSubscribed (as : List Action) : Socket → Prop
  | .subscribing => subscription as = none
  | .serving c => subscription as = some c.filters
  | .closed => True

theorem subscription_append (as bs : List Action) :
    subscription (as ++ bs) = (subscription as).or (subscription bs) :=
  List.findSome?_append

theorem asSubscribed_subscribe {as : List Action} (h : subscription as = none)
    {text : Except String ClientMsg} (hinput : a.input = .text text) :
    (a.subscribe text).1.AsSubscribed (as ++ [a]) := by
  have hthis : ∀ c' : Conn, (∃ bounds zoom low_bandwidth,
      text = .ok (.subscribe bounds zoom c'.filters low_bandwidth)) →
      subscription (as ++ [a]) = some c'.filters := by
    rintro c' ⟨bounds, zoom, low_bandwidth, rfl⟩
    rw [subscription_append, h]
    unfold subscription
    rw [List.findSome?_singleton, hinput]
    rfl
  have hnot : (∀ bounds zoom filters low_bandwidth,
      text ≠ .ok (.subscribe bounds zoom filters low_bandwidth)) →
      subscription (as ++ [a]) = none := by
    intro hnot
    rw [subscription_append, h]
    unfold subscription
    rw [List.findSome?_singleton, hinput]
    split
    · rename_i bounds zoom filters low_bandwidth htext
      exact absurd (Input.text.inj htext) (hnot bounds zoom filters low_bandwidth)
    · rfl
  unfold Action.subscribe
  split
  · exact hnot (by simp)
  · split
    · trivial
    · unfold Action.send
      split_ifs
      · exact hthis _ ⟨_, _, _, rfl⟩
      · trivial
  · rename_i hother
    exact hnot fun bounds zoom filters low_bandwidth heq =>
      hother bounds zoom filters low_bandwidth (Except.ok.inj heq)

/-- **A turn keeps to the subscription.** -/
theorem asSubscribed_turn {as : List Action} (h : s.AsSubscribed as) :
    (turn rate_cap s a).1.AsSubscribed (as ++ [a]) := by
  cases s with
  | subscribing =>
      have hsame : (∀ text, a.input ≠ .text text) → subscription (as ++ [a]) = none := by
        intro hnot
        have hnone : subscription as = none := h
        rw [subscription_append, hnone]
        unfold subscription
        rw [List.findSome?_singleton]
        split
        · rename_i htext
          exact absurd htext (hnot _)
        · rfl
      unfold turn
      dsimp only
      split
      · rename_i text hinput
        exact asSubscribed_subscribe h hinput
      · trivial
      · trivial
      · rename_i hnot _ _
        exact hsame hnot
  | serving c =>
      have hsome : subscription as = some c.filters := h
      have hkeeps := @keeps_turn rate_cap c a
      cases hturn : (turn rate_cap (.serving c) a).1 with
      | subscribing =>
          rw [hturn] at hkeeps
          exact hkeeps.elim
      | serving c' =>
          rw [hturn] at hkeeps
          have hfilters : c'.filters = c.filters := hkeeps
          unfold Socket.AsSubscribed
          dsimp only
          rw [subscription_append, hsome, hfilters]
          rfl
      | closed => trivial
  | closed => trivial

theorem asSubscribed_run (rate_cap : ℕ) (as : List Action) :
    (run (step rate_cap) {} as).socket.AsSubscribed as := by
  induction as using List.reverseRecOn with
  | nil => rfl
  | append_singleton as a ih =>
      rw [run_concat]
      exact asSubscribed_turn ih

/-! ### Runs -/

/-- Every event that is sent is of a type the connection subscribed to, and within the bounds it has
then. -/
def OnlySubscribed (rate_cap : ℕ) (as : List Action) : Prop :=
  ∀ e ∈ events (step rate_cap) {} as, ∀ msg ∈ (turn rate_cap e.pre.socket e.act).2,
    ∀ event ∈ msg.events, ∃ c, e.post.socket = .serving c ∧ subscription as = some c.filters ∧
      Wanted c.filters c.current_bounds event

/-- Every broadcast that is forwarded has an event of a type the connection subscribed to. -/
def BroadcastsSubscribed (rate_cap : ℕ) (as : List Action) : Prop :=
  ∀ e ∈ events (step rate_cap) {} as, ∀ c vpe event, e.pre.socket = .serving c →
    e.act.input = .broadcast vpe → c.forwards rate_cap e.act vpe = true →
    vpe.event_json = some event → Subscribed c.filters event.event_type

/-- A broadcast that is forwarded is sent as it is. -/
theorem broadcastsSubscribed_of_only {as : List Action} (honly : OnlySubscribed rate_cap as) :
    BroadcastsSubscribed rate_cap as := by
  intro e he c vpe event hserving hinput hforwards hjson
  obtain ⟨c', patch, hreceived, hpatch, hfilters, -⟩ := received_of_forwards hforwards hjson
  have hturn : turn rate_cap e.pre.socket e.act = (.serving c', [.diffPatch patch]) := by
    rw [hserving, ← hreceived]
    unfold turn
    dsimp only
    rw [hinput]
  obtain ⟨-, -, -, -, hpost⟩ := mem_events he
  obtain ⟨c₁, hpost₁, -, hwanted⟩ := honly e he (.diffPatch patch) (by rw [hturn]; simp) event
    (by rw [ServerMsg.events, hpatch]; simp)
  have hsocket : e.post.socket = .serving c' := by
    rw [hpost]
    exact congrArg Prod.fst hturn
  obtain rfl := Socket.serving.inj (hpost₁.symm.trans hsocket)
  rw [← hfilters]
  exact hwanted.1

/-- The events a turn sends are wanted, a broadcast if its type is. -/
theorem Sent.wanted (hsent : Sent rate_cap s a c event) (hadmissible : Admissible s a)
    (hbroadcast : ∀ c₀ vpe, s = .serving c₀ → a.input = .broadcast vpe →
      c₀.forwards rate_cap a vpe = true → vpe.event_json = some event →
      Subscribed c₀.filters event.event_type) :
    Wanted c.filters c.current_bounds event := by
  cases hsent with
  | queried hquery hreply hfilters hbounds hmem =>
      rw [← hfilters, ← hbounds]
      exact (hadmissible.answers _ _ hquery hreply).wanted event hmem
  | forwarded hconn hinput hforwards hjson hfilters hbounds =>
      rw [← hfilters, ← hbounds]
      refine ⟨hbroadcast _ _ hconn hinput hforwards hjson, ?_⟩
      obtain ⟨hlat, hlng⟩ := (hadmissible.broadcast _ hinput).place hjson
      rw [hlat, hlng]
      simp only [Conn.forwards, Bool.and_eq_true] at hforwards
      exact hforwards.1.1.1

/-- **What is sent was subscribed to** exactly if what is forwarded was: the queries select, and a
broadcast is sent whatever its type. -/
theorem only_subscribed (rate_cap : ℕ) {as : List Action}
    (hadmissible : ∀ e ∈ events (step rate_cap) {} as, Admissible e.pre.socket e.act) :
    OnlySubscribed rate_cap as ↔ BroadcastsSubscribed rate_cap as := by
  refine ⟨broadcastsSubscribed_of_only, fun hbroadcasts e he msg hmsg event hevent => ?_⟩
  obtain ⟨bs, cs, has, hpre, hpost⟩ := mem_events he
  obtain ⟨c, hserving, hsent⟩ := sent_of_turn hmsg hevent
  have hsocket : e.post.socket = .serving c := by
    rw [hpost]
    exact hserving
  have hafter := asSubscribed_run rate_cap (bs ++ [e.act])
  rw [run_concat, ← hpre, ← hpost, hsocket] at hafter
  have hsome : subscription (bs ++ [e.act]) = some c.filters := hafter
  refine ⟨c, hsocket, ?_, ?_⟩
  · rw [has, List.append_cons, subscription_append, hsome]
    rfl
  · exact hsent.wanted (hadmissible e he) fun c₀ vpe hconn hinput hforwards hjson =>
      hbroadcasts e he c₀ vpe event hconn hinput hforwards hjson

/-! ### A type that was not subscribed to -/

/-- A client subscribes to floods, where there is none. -/
def demoSubscribe : Action where
  input := .text (.ok (.subscribe { north := 1, south := -1, east := 1, west := -1 } 9 ["FLOOD"] false))
  now := 0
  safety_events := Table.empty
  reply := some []
  sends := true

/-- An event is confirmed. -/
def demoConfirmed (event_type : String) : Action where
  input := .broadcast (confirmedEvent "e"
    { event_type, severity := .high, title := "Downtown", lat := 0, lng := 0, started_at := 0
      summary := none, place_name := none, county := none, created_at := 0 })
  now := 0
  safety_events := Table.empty
  reply := none
  sends := true

theorem admissible_demo (event_type : String) :
    ∀ e ∈ events (step 30) {} [demoSubscribe, demoConfirmed event_type],
      Admissible e.pre.socket e.act := by
  intro e he
  simp only [events_cons, events_nil, List.mem_cons, List.not_mem_nil, or_false] at he
  rcases he with rfl | rfl
  · constructor
    · intro q replied _ hreply
      obtain rfl := Option.some.inj hreply
      exact ⟨[], by simp [demoSubscribe, Table.empty], .nil, by simp⟩
    · intro vpe hinput
      cases hinput
  · constructor
    · intro q replied _ hreply
      cases hreply
    · intro vpe hinput
      obtain rfl := Input.broadcast.inj hinput
      exact .confirmed _ _

/-- A flood is sent to whom subscribed to floods. -/
theorem only_subscribed_demo : OnlySubscribed 30 [demoSubscribe, demoConfirmed "FLOOD"] := by
  refine (only_subscribed 30 (admissible_demo "FLOOD")).2 ?_
  intro e he c vpe event hserving hinput hforwards hjson
  simp only [events_cons, events_nil, List.mem_cons, List.not_mem_nil, or_false] at he
  rcases he with rfl | rfl
  · cases hserving
  · obtain rfl := Socket.serving.inj hserving
    obtain rfl := Input.broadcast.inj hinput
    obtain rfl := Option.some.inj hjson
    exact .inr (List.mem_singleton.2 rfl)

/-- **A fire is sent to whom subscribed to floods.** -/
theorem fire_is_sent :
    ¬ ∀ rate_cap as, (∀ e ∈ events (step rate_cap) {} as, Admissible e.pre.socket e.act) →
      OnlySubscribed rate_cap as := by
  intro honly
  have hbroadcasts := broadcastsSubscribed_of_only (honly 30 _ (admissible_demo "FIRE"))
  have hfire := hbroadcasts ⟨step 30 {} demoSubscribe, demoConfirmed "FIRE", _⟩
    (List.mem_cons_of_mem _ (List.mem_singleton.2 rfl)) _ _ _ rfl rfl (by decide) rfl
  simp [Subscribed] at hfire

end Events
end Ws
end SentinelMesh
