/-
# What a client shows after a refresh

A connection asks the database again when its viewport has moved and when it sends a snapshot.  A
snapshot brings all that was answered.  A difference leaves out what the connection knows with the
same digest, which has three of the fields of an event.

A client has of an event what it was last sent (`shownOf_client`), and that has the digest that is
known (`Tracks`).  So after a snapshot it shows what was answered, and after a move exactly if what
was left out was last sent as it is (`shows_answers`).
-/

import SentinelMesh.Pwa.Viewport
import SentinelMesh.Ws.Filters

namespace SentinelMesh
namespace Pwa
namespace Viewport

open Lib Lib.Replica
open Nlp (TrustTier)
open Ws.Events (WsEvent EventDigest ServerMsg Session Socket Conn Admissible Told digests computeDiff
  turn step Broadcast)

/-- The client has of an event what it says. -/
def Shows (client : EventsState) (e : WsEvent) : Prop :=
  ∃ item, stored client.items e.id = some item ∧ item.title = e.title ∧ item.lat = e.lat ∧
    item.lng = e.lng ∧ item.event_type = e.event_type ∧ item.severity = e.severity ∧
    item.state = e.state ∧ item.trust_state.map TrustTier.text = some e.trust_state ∧
    item.started_at = e.started_at

/-- The last event that was sent with an id. -/
def lastSent (msgs : List ServerMsg) (id : Uuid) : Option WsEvent :=
  latest WsEvent.id (fun e => e) (msgs.flatMap ServerMsg.events) id

/-- What is known of an event is the digest of what was last sent. -/
def Tracks (known : Table Uuid EventDigest) (sent : List ServerMsg) : Prop :=
  ∀ id digest, known.find? id = some digest → (lastSent sent id).map WsEvent.digest = some digest

theorem shows_iff {client : EventsState} {e : WsEvent} :
    Shows client e ↔ shownOf client.items e.id = some e := by
  unfold Shows shownOf
  cases stored client.items e.id with
  | none => simp
  | some item =>
      cases htier : item.trust_state with
      | none => simp [htier]
      | some tier =>
          cases e
          simp only [Option.some.injEq, Option.bind_eq_bind, Option.bind_some, htier, Option.map_some,
            Option.pure_def, exists_eq_left', WsEvent.mk.injEq, true_and]
          tauto

/-! ### What a client was sent -/

theorem items_onmessage (state : EventsState) (msg : ServerMsg) :
    (state.onmessage msg).items = (msg.events.map toSafetyEvent).foldl upsert state.items := by
  cases msg with
  | diffPatch patch =>
      unfold EventsState.onmessage EventsState.viewportEventsBatchApply ServerMsg.events
      dsimp only
      rw [List.map_append]
  | _ => rfl

theorem items_onmessages (state : EventsState) (msgs : List ServerMsg) :
    (msgs.foldl EventsState.onmessage state).items =
      ((msgs.flatMap ServerMsg.events).map toSafetyEvent).foldl upsert state.items := by
  induction msgs generalizing state with
  | nil => rfl
  | cons msg msgs ih =>
      rw [List.foldl_cons, ih, items_onmessage, List.flatMap_cons, List.map_append, List.foldl_append]

/-- **A client has what it was last sent.** -/
theorem shownOf_client (state : EventsState) {msgs : List ServerMsg}
    (hrated : ∀ msg ∈ msgs, ∀ e ∈ msg.events, e.Rated) (id : Uuid) :
    shownOf (msgs.foldl EventsState.onmessage state).items id =
      (lastSent msgs id).or (shownOf state.items id) := by
  rw [items_onmessages]
  refine shownOf_upserts state.items (fun e he => ?_) id
  obtain ⟨msg, hmsg, he⟩ := List.mem_flatMap.1 he
  exact hrated msg hmsg e he

theorem lastSent_append (sent msgs : List ServerMsg) (id : Uuid) :
    lastSent (sent ++ msgs) id = (lastSent msgs id).or (lastSent sent id) := by
  unfold lastSent
  rw [List.flatMap_append]
  exact latest_append WsEvent.id (fun e => e) _ _ id

theorem lastSent_singleton (msg : ServerMsg) (id : Uuid) :
    lastSent [msg] id = latest WsEvent.id (fun e => e) msg.events id := by
  unfold lastSent
  rw [List.flatMap_singleton]

/-- **After a difference**, an event of the answer is what was sent, if it was not known. -/
theorem lastSent_moved {known : Table Uuid EventDigest} {answer : List WsEvent}
    (hnodup : (answer.map WsEvent.id).Nodup) (sent : List ServerMsg) {e : WsEvent} (he : e ∈ answer) :
    lastSent (sent ++ [.diffPatch (computeDiff known answer)]) e.id =
      if known.find? e.id = some e.digest then lastSent sent e.id else some e := by
  rw [lastSent_append, lastSent_singleton]
  have hdiff := latest_diff WsEvent.id WsEvent.digest (fun e => e) known hnodup he
  refine (congrArg (Option.or · (lastSent sent e.id)) hdiff).trans ?_
  split_ifs
  · rfl
  · rfl

/-- A difference that is empty need not be sent. -/
theorem lastSent_of_isEmpty {patch : Ws.Events.DiffResult} (hempty : patch.isEmpty = true)
    (sent : List ServerMsg) (id : Uuid) :
    lastSent (sent ++ [.diffPatch patch]) id = lastSent sent id := by
  unfold Delta.isEmpty at hempty
  simp only [Bool.and_eq_true, List.isEmpty_iff] at hempty
  rw [lastSent_append, lastSent_singleton, ServerMsg.events, hempty.1.1, hempty.2]
  rfl

/-- **After an answer that is sent whole**, its events are what was last sent. -/
theorem lastSent_answer {answer : List WsEvent} (hnodup : (answer.map WsEvent.id).Nodup)
    (sent : List ServerMsg) {msg : ServerMsg} (hmsg : msg.events = answer) {e : WsEvent}
    (he : e ∈ answer) : lastSent (sent ++ [msg]) e.id = some e := by
  rw [lastSent_append, lastSent_singleton, hmsg,
    latest_of_mem WsEvent.id (fun e => e) hnodup he, Option.some_or]

/-- What is known of an answer is the digest of one of its events. -/
theorem exists_of_digests {answer : List WsEvent} {id : Uuid} {digest : EventDigest}
    (h : (digests answer).find? id = some digest) : ∃ e ∈ answer, e.id = id ∧ e.digest = digest := by
  unfold digests at h
  rw [find?_collect] at h
  exact exists_of_latest WsEvent.id WsEvent.digest h

/-- **A turn keeps to what was sent.** -/
theorem tracks_told {s : Socket} {a : Ws.Events.Action} (hadmissible : Admissible s a)
    {known known' : Table Uuid EventDigest} {msgs : List ServerMsg}
    (htold : Told s a known msgs known') {sent : List ServerMsg} (h : Tracks known sent) :
    Tracks known' (sent ++ msgs) := by
  have hmoved : ∀ {answer : List WsEvent}, (answer.map WsEvent.id).Nodup →
      Tracks (digests answer) (sent ++ [.diffPatch (computeDiff known answer)]) := by
    intro answer hnodup id digest hdigest
    obtain ⟨e, he, rfl, rfl⟩ := exists_of_digests hdigest
    rw [lastSent_moved hnodup sent he]
    split_ifs with hknown
    · exact h _ _ hknown
    · rfl
  cases htold with
  | unchanged =>
      rw [List.append_nil]
      exact h
  | snapshot hquery hreply =>
      intro id digest hdigest
      obtain ⟨e, he, rfl, rfl⟩ := exists_of_digests hdigest
      rw [lastSent_answer (hadmissible.answers _ _ hquery hreply).nodup.1 sent rfl he]
      rfl
  | moved hquery hreply => exact hmoved (hadmissible.answers _ _ hquery hreply).nodup.1
  | unmoved hquery hreply hempty =>
      intro id digest hdigest
      have hthis := hmoved (hadmissible.answers _ _ hquery hreply).nodup.1 id digest hdigest
      rwa [lastSent_of_isEmpty hempty, ← List.append_nil sent] at hthis
  | patched hinput hjson hremoved hpatch =>
      rename_i vpe e patch
      obtain ⟨hid, -⟩ := (hadmissible.broadcast vpe hinput).json hjson
      intro id digest hdigest
      rw [lastSent_append, lastSent_singleton, ServerMsg.events, hpatch, latest_singleton]
      rw [Table.find?_put] at hdigest
      split_ifs at hdigest with hthis
      · rw [if_pos (hid.trans hthis.symm), Option.some_or]
        exact hdigest
      · rw [if_neg fun heq => hthis (heq.symm.trans hid), Option.none_or]
        exact h id digest hdigest

/-- What a connection has sent is rated, and what it knows is what it last sent. -/
structure Session.Tracked (s : Session) : Prop where
  rated : ∀ msg ∈ s.sent, ∀ e ∈ msg.events, e.Rated
  tracks : ∀ c, s.socket = .serving c → Tracks c.known s.sent

theorem tracked_step {rate_cap : ℕ} {s : Session} {a : Ws.Events.Action} (h : Session.Tracked s)
    (hadmissible : Admissible s.socket a) : Session.Tracked (step rate_cap s a) := by
  constructor
  · intro msg hmsg e he
    rcases List.mem_append.1 hmsg with hold | hnew
    · exact h.rated msg hold e he
    · obtain ⟨c, -, hsent⟩ := Ws.Events.sent_of_turn hnew he
      cases hsent with
      | queried hquery hreply hfilters hbounds hmem =>
          exact (hadmissible.answers _ _ hquery hreply).nodup.2 e hmem
      | forwarded hserving hinput hforwards hjson hfilters hbounds =>
          exact ((hadmissible.broadcast _ hinput).json hjson).2
  · intro c' hc'
    obtain ⟨socket, msgs, hturn⟩ : ∃ socket msgs, turn rate_cap s.socket a = (socket, msgs) :=
      ⟨_, _, rfl⟩
    have hstep : step rate_cap s a = { socket, sent := s.sent ++ msgs } := by
      unfold step
      rw [hturn]
    rw [hstep] at hc' ⊢
    dsimp only at hc' ⊢
    subst hc'
    cases hsocket : s.socket with
    | subscribing =>
        rw [hsocket] at hturn hadmissible
        obtain ⟨q, answer, hquery, hreply, rfl, hknown⟩ := Ws.Events.initial_of_turn hturn
        rw [hknown]
        intro id digest hdigest
        obtain ⟨e, he, rfl, rfl⟩ := exists_of_digests hdigest
        rw [lastSent_answer (hadmissible.answers _ _ hquery hreply).nodup.1 s.sent rfl he]
        rfl
    | serving c =>
        rw [hsocket] at hturn hadmissible
        exact tracks_told hadmissible (Ws.Events.told_of_turn hturn) (h.tracks c hsocket)
    | closed =>
        rw [hsocket] at hturn
        cases hturn

/-! ### A refresh -/

/-- **What a turn sends of an answer**: all of it, or after a move the difference. -/
theorem sent_of_answer {rate_cap : ℕ} {s : Socket} {a : Ws.Events.Action} {q : Ws.Events.Query}
    {answer : List WsEvent} {c' : Conn} {msgs : List ServerMsg}
    (hquery : s.query a.input = some q) (hreply : a.reply = some answer)
    (hturn : turn rate_cap s a = (.serving c', msgs)) :
    (a.input ≠ .debounce ∧ ∃ msg, msgs = [msg] ∧ msg.events = answer) ∨
      (a.input = .debounce ∧ ∃ c, s = .serving c ∧
        (msgs = [.diffPatch (computeDiff c.known answer)] ∨
          msgs = [] ∧ (computeDiff c.known answer).isEmpty = true)) := by
  have hrefresh : ∀ {c : Conn}, c.refresh a = (.serving c', msgs) →
      ∃ msg, msgs = [msg] ∧ msg.events = answer := by
    intro c h
    unfold Conn.refresh at h
    rw [hreply] at h
    obtain ⟨-, rfl⟩ := Ws.Events.send_eq_serving h
    exact ⟨_, rfl, rfl⟩
  unfold Socket.query at hquery
  split at hquery
  · rename_i bounds zoom filters low_bandwidth hinput
    left
    unfold turn at hturn
    rw [hinput] at hturn ⊢
    dsimp only [Ws.Events.Action.subscribe] at hturn
    rw [hreply] at hturn
    obtain ⟨-, rfl⟩ := Ws.Events.send_eq_serving hturn
    exact ⟨by simp, _, rfl, rfl⟩
  · rename_i c hinput
    right
    split_ifs at hquery with hactive
    obtain ⟨⟨bounds, zoom⟩, hpending, -⟩ := Option.map_eq_some_iff.1 hquery
    unfold turn at hturn
    rw [hinput] at hturn ⊢
    dsimp only at hturn
    rw [if_pos hactive] at hturn
    unfold Conn.debounced at hturn
    dsimp only at hturn
    rw [hpending, hreply] at hturn
    dsimp only at hturn
    refine ⟨rfl, c, rfl, ?_⟩
    split_ifs at hturn with hempty
    · exact .inr ⟨(Prod.mk.inj hturn).2.symm, hempty⟩
    · exact .inl (Ws.Events.send_eq_serving hturn).2
  · rename_i c hinput
    left
    unfold turn at hturn
    rw [hinput] at hturn ⊢
    exact ⟨by simp, hrefresh hturn⟩
  · rename_i c hinput
    left
    unfold turn at hturn
    rw [hinput] at hturn ⊢
    exact ⟨by simp, hrefresh hturn⟩
  · cases hquery

/-- The database answers what the connection asks, and the connection goes on. -/
structure Refreshes (e : Event Session Ws.Events.Action) (answer : List WsEvent) : Prop where
  query : ∃ q, e.pre.socket.query e.act.input = some q
  reply : e.act.reply = some answer
  serves : ∃ c, e.post.socket = .serving c

/-- After each answer the client shows its events. -/
def ShowsAnswers (rate_cap : ℕ) (state : EventsState) (as : List Ws.Events.Action) : Prop :=
  ∀ e ∈ events (step rate_cap) {} as, ∀ answer, Refreshes e answer → ∀ event ∈ answer,
    Shows (e.post.sent.foldl EventsState.onmessage state) event

/-- When a move is taken up, an event of the answer that is known with its severity, state and trust
state was last sent with all its fields. -/
def SentAsKnown (rate_cap : ℕ) (as : List Ws.Events.Action) : Prop :=
  ∀ e ∈ events (step rate_cap) {} as, ∀ answer c, Refreshes e answer → e.act.input = .debounce →
    e.pre.socket = .serving c → ∀ event ∈ answer, c.known.find? event.id = some event.digest →
      lastSent e.pre.sent event.id = some event

/-- **What a refresh sends of an event of the answer**: the event, or nothing if it is left out of a
difference. -/
theorem lastSent_of_refreshes {rate_cap : ℕ} {e : Event Session Ws.Events.Action}
    (hpost : e.post = step rate_cap e.pre e.act) (hadmissible : Admissible e.pre.socket e.act)
    {answer : List WsEvent} (hrefreshes : Refreshes e answer) {event : WsEvent}
    (hevent : event ∈ answer) :
    (lastSent e.post.sent event.id = some event ∧ ∀ c, e.act.input = .debounce →
        e.pre.socket = .serving c → c.known.find? event.id ≠ some event.digest) ∨
      (lastSent e.post.sent event.id = lastSent e.pre.sent event.id ∧ e.act.input = .debounce ∧
        ∃ c, e.pre.socket = .serving c ∧ c.known.find? event.id = some event.digest) := by
  obtain ⟨⟨q, hquery⟩, hreply, c', hserves⟩ := hrefreshes
  obtain ⟨hnodup, -⟩ := (hadmissible.answers q answer hquery hreply).nodup
  obtain ⟨msgs, hturn, hsent⟩ : ∃ msgs, turn rate_cap e.pre.socket e.act = (.serving c', msgs) ∧
      e.post.sent = e.pre.sent ++ msgs := by
    refine ⟨(turn rate_cap e.pre.socket e.act).2, ?_, by rw [hpost]; rfl⟩
    rw [← hserves, hpost]
    rfl
  rw [hsent]
  rcases sent_of_answer hquery hreply hturn with ⟨hinput, msg, rfl, hmsg⟩ | ⟨hinput, c, hc, hmsgs⟩
  · exact .inl ⟨lastSent_answer hnodup _ hmsg hevent, fun _ hdebounce => absurd hdebounce hinput⟩
  · have hmoved : lastSent (e.pre.sent ++ msgs) event.id =
        if c.known.find? event.id = some event.digest then lastSent e.pre.sent event.id
        else some event := by
      rcases hmsgs with rfl | ⟨rfl, hempty⟩
      · exact lastSent_moved hnodup _ hevent
      · rw [List.append_nil]
        exact (lastSent_of_isEmpty hempty _ _).symm.trans (lastSent_moved hnodup _ hevent)
    rw [hmoved]
    split_ifs with hknown
    · exact .inr ⟨rfl, hinput, c, hc, hknown⟩
    · refine .inl ⟨rfl, fun c₁ _ hc₁ => ?_⟩
      obtain rfl := Socket.serving.inj (hc.symm.trans hc₁)
      exact hknown

/-- What the client shows of an event of the answer. -/
theorem shows_of_refreshes {rate_cap : ℕ} {state : EventsState} {e : Event Session Ws.Events.Action}
    (hpost : e.post = step rate_cap e.pre e.act) (hpre : Session.Tracked e.pre)
    (hadmissible : Admissible e.pre.socket e.act) {answer : List WsEvent}
    (hrefreshes : Refreshes e answer) {event : WsEvent} (hevent : event ∈ answer) :
    Shows (e.post.sent.foldl EventsState.onmessage state) event ↔
      ∀ c, e.act.input = .debounce → e.pre.socket = .serving c →
        c.known.find? event.id = some event.digest → lastSent e.pre.sent event.id = some event := by
  have hrated : ∀ msg ∈ e.post.sent, ∀ e' ∈ msg.events, e'.Rated := by
    rw [hpost]
    exact (tracked_step hpre hadmissible).rated
  rw [shows_iff, shownOf_client state hrated]
  rcases lastSent_of_refreshes hpost hadmissible hrefreshes hevent with
    ⟨hlast, hnot⟩ | ⟨hlast, hinput, c, hc, hknown⟩
  · rw [hlast, Option.some_or]
    exact iff_of_true rfl fun c hinput hc hknown => absurd hknown (hnot c hinput hc)
  · obtain ⟨last, hpast, -⟩ := Option.map_eq_some_iff.1 (hpre.tracks c hc _ _ hknown)
    rw [hlast, hpast, Option.some_or]
    exact ⟨fun h _ _ _ _ => h, fun h => h c hinput hc hknown⟩

/-- **After a refresh the client shows the answer** exactly if, at each move, what the difference
leaves out was last sent as it is answered. -/
theorem shows_answers (rate_cap : ℕ) (state : EventsState) {as : List Ws.Events.Action}
    (hadmissible : ∀ e ∈ events (step rate_cap) {} as, Admissible e.pre.socket e.act) :
    ShowsAnswers rate_cap state as ↔ SentAsKnown rate_cap as := by
  have hbefore : ∀ e ∈ events (step rate_cap) {} as,
      Session.Tracked e.pre ∧ e.post = step rate_cap e.pre e.act := fun e he =>
    events_induction_of (P := Session.Tracked) (G := fun s a => Admissible s.socket a)
      ⟨by simp, fun c hc => by cases hc⟩ (fun s a hs ha => tracked_step hs ha) hadmissible he
  constructor
  · intro hshows e he answer c hrefreshes hinput hc event hevent hknown
    obtain ⟨hpre, hpost⟩ := hbefore e he
    exact (shows_of_refreshes hpost hpre (hadmissible e he) hrefreshes hevent).1
      (hshows e he answer hrefreshes event hevent) c hinput hc hknown
  · intro hsent e he answer hrefreshes event hevent
    obtain ⟨hpre, hpost⟩ := hbefore e he
    exact (shows_of_refreshes hpost hpre (hadmissible e he) hrefreshes hevent).2
      fun c hinput hc hknown => hsent e he answer c hrefreshes hinput hc event hevent hknown

/-! ### Another title -/

/-- A signal of the flood, with a title of its own. -/
def demoSignal (title : String) : Nlp.RedisEventPayload :=
  { event_type := "FLOOD", severity := "HIGH", title, lat := 0, lng := 0, started_at := 0
    created_at := 0 }

/-- The client subscribes and is sent the row; a signal joins it, and the viewport moves. -/
def demoMove (title : String) : List Ws.Events.Action :=
  [{ input := .text (.ok (.subscribe demoBounds 9 [] false)), now := 0, safety_events := demoEvents
     reply := some [Ws.Events.wsEvent "e" demoRow], sends := true },
   { input := .broadcast (Ws.Events.ingestedEvent "e" (demoSignal title) .heuristic), now := 0
     safety_events := demoEvents, reply := none, sends := true },
   { input := .text (.ok (.viewportChanged demoBounds 9)), now := 0, safety_events := demoEvents
     reply := none, sends := true },
   { input := .debounce, now := 0, safety_events := demoEvents
     reply := some [Ws.Events.wsEvent "e" demoRow], sends := true }]

theorem admissible_move (title : String) :
    ∀ e ∈ events (step 30) {} (demoMove title), Admissible e.pre.socket e.act := by
  intro e he
  simp only [demoMove, events_cons, events_nil, List.mem_cons, List.not_mem_nil, or_false] at he
  rcases he with rfl | rfl | rfl | rfl
  · constructor
    · intro q replied hquery hreply
      obtain rfl := Option.some.inj hquery
      obtain rfl := Option.some.inj hreply
      exact answers_demo
    · intro vpe hinput
      cases hinput
  · constructor
    · intro q replied _ hreply
      cases hreply
    · intro vpe hinput
      obtain rfl := Ws.Events.Input.broadcast.inj hinput
      exact .ingested "e" (demoSignal title) .heuristic
  · constructor
    · intro q replied _ hreply
      cases hreply
    · intro vpe hinput
      cases hinput
  · constructor
    · intro q replied hquery hreply
      obtain rfl := Option.some.inj hquery
      obtain rfl := Option.some.inj hreply
      exact answers_demo
    · intro vpe hinput
      cases hinput

/-- A signal with the title of the row leaves it as it is. -/
theorem shows_answers_demo : ShowsAnswers 30 {} (demoMove "Flooding downtown") := by
  refine (shows_answers 30 {} (admissible_move _)).2 ?_
  intro e he answer c hrefreshes hinput _ event hevent _
  simp only [demoMove, events_cons, events_nil, List.mem_cons, List.not_mem_nil, or_false] at he
  rcases he with rfl | rfl | rfl | rfl
  · cases hinput
  · cases hinput
  · cases hinput
  · obtain rfl := Option.some.inj hrefreshes.reply
    obtain rfl := List.mem_singleton.1 hevent
    decide

/-- **The title of a signal stays.**  The row is known with the same severity, state and trust state, so
the move sends nothing. -/
theorem title_stays :
    ¬ ∀ rate_cap state as,
      (∀ e ∈ events (step rate_cap) {} as, Admissible e.pre.socket e.act) →
        ShowsAnswers rate_cap state as := by
  intro hall
  have hshows := hall 30 {} _ (admissible_move "Water rising")
    ⟨run (step 30) {} ((demoMove "Water rising").take 3), _, _⟩
    (List.mem_cons_of_mem _ (List.mem_cons_of_mem _ (List.mem_cons_of_mem _ List.mem_cons_self)))
    [Ws.Events.wsEvent "e" demoRow] ⟨⟨_, rfl⟩, rfl, _, rfl⟩ _ List.mem_cons_self
  rw [shows_iff] at hshows
  revert hshows
  decide

end Viewport
end Pwa
end SentinelMesh
