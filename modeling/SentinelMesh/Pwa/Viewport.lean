/-
# The events a client shows

The messages of `hooks/useViewportWs.ts` and the reducers of `store/eventsSlice.ts` that they
dispatch: a batch or a snapshot sets the ids of the viewport, a difference takes ids away and
adds others, and every event is merged into the item with its id.

`view` is what the client has of the digests of the events in its viewport.  Each reducer
does to it what the general difference of keyed collections says (`view_set`, `view_batch`),
so that it is the table of digests of the server: `client_mirrors` is this for every run of a
connection.
-/

import SentinelMesh.Ws.EventsSocket

namespace SentinelMesh
namespace Pwa
namespace Viewport

open Lib Lib.Replica
open Nlp (TrustTier OriginClass)
open Ws.Events (WsEvent EventDigest DiffResult ServerMsg Session Socket Conn Admissible Told digests
  computeDiff)

/-! ### The slice -/

/-- `SafetyEvent` of `shared/types`.  Of a field that may be left out, `none` is that it is;
one that may also be `null` has two levels. -/
structure SafetyEvent where
  id : Uuid
  event_type : String
  severity : String
  title : String
  lat : ℚ
  lng : ℚ
  is_active : Bool
  state : String
  started_at : Timestamp
  created_at : Timestamp
  updated_at : Option String := none
  trust_state : Option TrustTier := none
  origin_class : Option OriginClass := none
  summary : Option (Option String) := none
  place_name : Option (Option String) := none
  county : Option (Option String) := none
  radius_meters : Option (Option ℚ) := none
  confidence : Option (Option ℚ) := none
  source_count : Option (Option ℚ) := none
  source_breakdown : Option (Option String) := none
  nostr_event_id : Option (Option String) := none
  deriving DecidableEq

/-- `normalizeTrustState`. -/
def normalizeTrustState (s : String) : TrustTier :=
  if toAsciiLowercase s = "heuristic" then .heuristic
  else if toAsciiLowercase s = "corroborating" then .corroborating
  else if toAsciiLowercase s = "confirmed" then .confirmed
  else .heuristic

/-- `toSafetyEvent`. -/
def toSafetyEvent (e : WsEvent) : SafetyEvent :=
  { id := e.id
    event_type := e.event_type
    severity := e.severity
    title := e.title
    lat := e.lat
    lng := e.lng
    is_active := decide (e.state ≠ "RESOLVED" ∧ e.state ≠ "EXPIRED")
    state := e.state
    started_at := e.started_at
    created_at := e.started_at
    trust_state := some (normalizeTrustState e.trust_state) }

/-- `EventsState`. -/
structure EventsState where
  items : List SafetyEvent := []
  viewportIds : List Uuid := []
  connected : Bool := false
  initialized : Bool := false
  error : Option String := none

/-- `mergeEvent`, of an event there is. -/
def mergeEvent (current incoming : SafetyEvent) : SafetyEvent :=
  { incoming with
    updated_at := incoming.updated_at.or current.updated_at
    trust_state := incoming.trust_state.or current.trust_state
    origin_class := incoming.origin_class.or current.origin_class
    summary := incoming.summary.or current.summary
    place_name := incoming.place_name.or current.place_name
    county := incoming.county.or current.county
    radius_meters := incoming.radius_meters.or current.radius_meters
    confidence := incoming.confidence.or current.confidence
    source_count := incoming.source_count.or current.source_count
    source_breakdown := incoming.source_breakdown.or current.source_breakdown
    nostr_event_id := incoming.nostr_event_id.or current.nostr_event_id }

/-- The update is older than the item: both have a time, and it is smaller. -/
def isOlder (event current : SafetyEvent) : Bool :=
  match event.updated_at, current.updated_at with
  | some incoming, some stored => decide (incoming ≠ "" ∧ stored ≠ "" ∧ incoming < stored)
  | _, _ => false

/-- `state.items.find(e => e.id === id)`. -/
def stored (items : List SafetyEvent) (id : Uuid) : Option SafetyEvent :=
  items.find? fun e => decide (e.id = id)

/-- `upsert`. -/
def upsert (items : List SafetyEvent) (event : SafetyEvent) : List SafetyEvent :=
  match stored items event.id with
  | none => event :: items
  | some current =>
    if isOlder event current then items
    else
      items.replaceF fun e => if e.id = event.id then some (mergeEvent current event) else none

/-- `viewportEventsSet`. -/
def EventsState.viewportEventsSet (state : EventsState) (events : List SafetyEvent) : EventsState :=
  { state with
    items := events.foldl upsert state.items
    viewportIds := (events.map SafetyEvent.id).eraseDups }

/-- `viewportEventsBatchApply`. -/
def EventsState.viewportEventsBatchApply (state : EventsState) (added : List SafetyEvent)
    (removed : List Uuid) (updated : List SafetyEvent) : EventsState :=
  { state with
    items := (added ++ updated).foldl upsert state.items
    viewportIds :=
      ((state.viewportIds.filter fun id => decide (id ∉ removed)) ++ added.map SafetyEvent.id ++
        updated.map SafetyEvent.id).eraseDups }

/-- `ws.onmessage`; an error has no case. -/
def EventsState.onmessage (state : EventsState) : ServerMsg → EventsState
  | .initialBatch events => state.viewportEventsSet (events.map toSafetyEvent)
  | .snapshot events => state.viewportEventsSet (events.map toSafetyEvent)
  | .diffPatch patch => state.viewportEventsBatchApply (patch.added.map toSafetyEvent) patch.removed
      (patch.updated.map toSafetyEvent)
  | .error _ => state

/-! ### What the client has of a digest -/

/-- The digest of the item with an id. -/
def digestOf (items : List SafetyEvent) (id : Uuid) : Option EventDigest := do
  let item ← stored items id
  let trust_state ← item.trust_state
  pure { severity := item.severity, state := item.state, trust_state := trust_state.text }

/-- The digests of the events in the viewport. -/
def EventsState.view (state : EventsState) (id : Uuid) : Option EventDigest :=
  if id ∈ state.viewportIds then digestOf state.items id else none

/-- A tier is read back from its text. -/
theorem normalizeTrustState_text (tier : TrustTier) : normalizeTrustState tier.text = tier := by
  cases tier <;> decide

/-- **What an update does** that is not older: the item with its id is merged. -/
theorem stored_upsert_of_newer (items : List SafetyEvent) {event : SafetyEvent}
    (hnew : ∀ current, stored items event.id = some current → isOlder event current = false)
    (id : Uuid) :
    stored (upsert items event) id =
      if event.id = id then some ((stored items id).elim event fun current => mergeEvent current event)
      else stored items id := by
  unfold upsert
  cases hcurrent : stored items event.id with
  | none =>
    dsimp only
    unfold stored at hcurrent ⊢
    rw [List.find?_cons]
    by_cases hid : event.id = id
    · subst hid
      simp [hcurrent]
    · simp [hid]
  | some current =>
    dsimp only
    rw [hnew current hcurrent, if_neg (by simp)]
    refine (find?_replaceF SafetyEvent.id items (mergeEvent current event) id).trans ?_
    by_cases hid : event.id = id
    · subst hid
      rw [if_pos rfl, hcurrent]
      exact (if_pos rfl).trans (congrArg (Option.map fun _ => mergeEvent current event) hcurrent)
    · exact (if_neg hid).trans (if_neg hid).symm

/-- An update without a time is not older. -/
theorem stored_upsert (items : List SafetyEvent) {event : SafetyEvent}
    (htime : event.updated_at = none) (id : Uuid) :
    stored (upsert items event) id =
      if event.id = id then some ((stored items id).elim event fun current => mergeEvent current event)
      else stored items id := by
  refine stored_upsert_of_newer items (fun current _ => ?_) id
  unfold isOlder
  rw [htime]

/-- What the client has of an event. -/
def shownOf (items : List SafetyEvent) (id : Uuid) : Option WsEvent := do
  let item ← stored items id
  let trust_state ← item.trust_state
  pure
    { id := id
      event_type := item.event_type
      severity := item.severity
      state := item.state
      trust_state := trust_state.text
      title := item.title
      lat := item.lat
      lng := item.lng
      started_at := item.started_at }

theorem digestOf_eq (items : List SafetyEvent) (id : Uuid) :
    digestOf items id = (shownOf items id).map WsEvent.digest := by
  unfold digestOf shownOf
  cases stored items id with
  | none => rfl
  | some item =>
    simp only [Option.bind_eq_bind, Option.bind_some]
    cases item.trust_state <;> rfl

/-- **An item shows the last event with its id.** -/
theorem shownOf_upsert (items : List SafetyEvent) {e : WsEvent} (he : e.Rated) (id : Uuid) :
    shownOf (upsert items (toSafetyEvent e)) id = if e.id = id then some e else shownOf items id := by
  obtain ⟨tier, htier⟩ := he
  have hrated : (toSafetyEvent e).trust_state = some tier := by
    unfold toSafetyEvent
    rw [htier, normalizeTrustState_text]
  have hstored : stored (upsert items (toSafetyEvent e)) id =
      if e.id = id then
        some ((stored items id).elim (toSafetyEvent e) fun current =>
          mergeEvent current (toSafetyEvent e))
      else stored items id := stored_upsert items rfl id
  unfold shownOf
  rw [hstored]
  by_cases hid : e.id = id
  · subst hid
    rw [if_pos rfl, if_pos rfl]
    have hthis : some e = some { e with trust_state := tier.text } := by rw [← htier]
    cases stored items e.id with
    | none =>
      simp only [Option.elim_none, Option.bind_eq_bind, Option.bind_some, hrated]
      exact hthis.symm
    | some current =>
      simp only [Option.elim_some, mergeEvent, Option.bind_eq_bind, Option.bind_some, hrated,
        Option.some_or]
      exact hthis.symm
  · rw [if_neg hid, if_neg hid]

/-- What the client has after a list of updates. -/
theorem shownOf_upserts (items : List SafetyEvent) {events : List WsEvent}
    (hrated : ∀ e ∈ events, e.Rated) (id : Uuid) :
    shownOf ((events.map toSafetyEvent).foldl upsert items) id =
      (latest WsEvent.id (fun e => e) events id).or (shownOf items id) := by
  induction events using List.reverseRecOn with
  | nil => rfl
  | append_singleton events e ih =>
    rw [List.map_append, List.foldl_append, List.map_singleton, List.foldl_cons, List.foldl_nil,
      shownOf_upsert _ (hrated e (by simp)), latest_concat,
      ih fun e' he' => hrated e' (List.mem_append_left _ he')]
    split <;> rfl

/-- The digests of the items after a list of updates. -/
theorem digestOf_upserts (items : List SafetyEvent) {events : List WsEvent}
    (hrated : ∀ e ∈ events, e.Rated) (id : Uuid) :
    digestOf ((events.map toSafetyEvent).foldl upsert items) id =
      (latest WsEvent.id WsEvent.digest events id).or (digestOf items id) := by
  have hdigest := latest_map WsEvent.id (fun e : WsEvent => e) WsEvent.digest events id
  rw [digestOf_eq, shownOf_upserts items hrated, Option.map_or, digestOf_eq]
  exact congrArg (Option.or · _) hdigest.symm

/-! ### The view -/

/-- Each id of the viewport has an item with a digest. -/
def EventsState.Complete (state : EventsState) : Prop :=
  ∀ id ∈ state.viewportIds, (digestOf state.items id).isSome = true

/-- **A batch sets the view** to the digests of its events. -/
theorem view_set (state : EventsState) {events : List WsEvent} (hrated : ∀ e ∈ events, e.Rated) :
    (state.viewportEventsSet (events.map toSafetyEvent)).Complete ∧
      ∀ id, (state.viewportEventsSet (events.map toSafetyEvent)).view id =
        (digests events).find? id := by
  have hids : (events.map toSafetyEvent).map SafetyEvent.id = events.map WsEvent.id := by
    rw [List.map_map]
    rfl
  unfold EventsState.Complete EventsState.view EventsState.viewportEventsSet
  dsimp only
  rw [hids]
  simp only [List.mem_eraseDups, digestOf_upserts state.items hrated]
  unfold digests
  simp only [find?_collect]
  constructor
  · intro id hid
    rw [Option.isSome_or, (isSome_latest WsEvent.id WsEvent.digest).2 hid, Bool.true_or]
  · intro id
    split
    · rename_i hid
      obtain ⟨d, hd⟩ := Option.isSome_iff_exists.1 ((isSome_latest WsEvent.id WsEvent.digest).2 hid)
      rw [hd, Option.some_or]
    · rename_i hid
      exact ((latest_eq_none WsEvent.id WsEvent.digest).2 hid).symm

theorem mem_viewportIds_batch (state : EventsState) (patch : DiffResult) (id : Uuid) :
    id ∈ (state.onmessage (.diffPatch patch)).viewportIds ↔
      (id ∈ state.viewportIds ∧ id ∉ patch.removed) ∨
        id ∈ (patch.added ++ patch.updated).map WsEvent.id := by
  have hids : ∀ events : List WsEvent,
      (events.map toSafetyEvent).map SafetyEvent.id = events.map WsEvent.id := fun events => by
    rw [List.map_map]
    rfl
  unfold EventsState.onmessage EventsState.viewportEventsBatchApply
  dsimp only
  rw [hids, hids, List.mem_eraseDups, List.map_append]
  simp only [List.mem_append, List.mem_filter, decide_eq_true_eq, or_assoc]

theorem digestOf_batch (state : EventsState) {patch : DiffResult}
    (hrated : ∀ e ∈ patch.added ++ patch.updated, e.Rated) (id : Uuid) :
    digestOf (state.onmessage (.diffPatch patch)).items id =
      (latest WsEvent.id WsEvent.digest (patch.added ++ patch.updated) id).or
        (digestOf state.items id) := by
  unfold EventsState.onmessage EventsState.viewportEventsBatchApply
  dsimp only
  rw [← List.map_append]
  exact digestOf_upserts state.items hrated id

/-- **A difference patches the view.** -/
theorem view_batch {state : EventsState} (hcomplete : state.Complete) {patch : DiffResult}
    (hrated : ∀ e ∈ patch.added ++ patch.updated, e.Rated) :
    (state.onmessage (.diffPatch patch)).Complete ∧
      ∀ id, (state.onmessage (.diffPatch patch)).view id =
        patch.patch WsEvent.id WsEvent.digest state.view id := by
  constructor
  · intro id hid
    rw [digestOf_batch state hrated, Option.isSome_or]
    rcases (mem_viewportIds_batch state patch id).1 hid with ⟨hold, _⟩ | hnew
    · rw [hcomplete id hold, Bool.or_true]
    · rw [(isSome_latest WsEvent.id WsEvent.digest).2 hnew, Bool.true_or]
  · intro id
    unfold EventsState.view Delta.patch
    simp only [mem_viewportIds_batch, digestOf_batch state hrated]
    cases hlatest : latest WsEvent.id WsEvent.digest (patch.added ++ patch.updated) id with
    | some d =>
      have hnew := (isSome_latest WsEvent.id WsEvent.digest).1 (Option.isSome_of_eq_some hlatest)
      rw [if_pos (Or.inr hnew), Option.some_or, Option.some_or]
    | none =>
      have hnot := (latest_eq_none WsEvent.id WsEvent.digest).1 hlatest
      rw [Option.none_or, Option.none_or]
      by_cases hremoved : id ∈ patch.removed
      · rw [if_pos hremoved, if_neg]
        rintro (⟨_, hkept⟩ | hnew)
        · exact hkept hremoved
        · exact hnot hnew
      · simp only [hremoved, hnot, not_false_eq_true, and_true, or_false, if_false]

/-! ### The mirror -/

/-- The client has what the server believes it has. -/
structure Mirrors (known : Table Uuid EventDigest) (state : EventsState) : Prop where
  complete : state.Complete
  view : ∀ id, state.view id = known.find? id

/-- **What a turn tells keeps the mirror.** -/
theorem mirrors_told {s : Socket} {a : Ws.Events.Action} (hadmissible : Admissible s a)
    {known known' : Table Uuid EventDigest} {msgs : List ServerMsg}
    (htold : Told s a known msgs known') {state : EventsState} (h : Mirrors known state) :
    Mirrors known' (msgs.foldl EventsState.onmessage state) := by
  cases htold with
  | unchanged => exact h
  | snapshot hquery hreply =>
    obtain ⟨_, hrated⟩ := (hadmissible.answers _ _ hquery hreply).nodup
    obtain ⟨hcomplete, hview⟩ := view_set state hrated
    exact ⟨hcomplete, hview⟩
  | moved hquery hreply =>
    rename_i q events
    obtain ⟨hnodup, hrated⟩ := (hadmissible.answers _ _ hquery hreply).nodup
    have hsub : ∀ e ∈ (computeDiff known events).added ++ (computeDiff known events).updated,
        e.Rated := by
      intro e he
      rcases List.mem_append.1 he with he | he
      · exact hrated e (List.mem_filter.1 he).1
      · exact hrated e (List.mem_filter.1 he).1
    obtain ⟨hcomplete, hview⟩ := view_batch h.complete hsub
    refine ⟨hcomplete, fun id => (hview id).trans ?_⟩
    exact patch_diff WsEvent.id WsEvent.digest hnodup h.view id
  | unmoved hquery hreply hempty =>
    rename_i q events
    obtain ⟨hnodup, _⟩ := (hadmissible.answers _ _ hquery hreply).nodup
    refine ⟨h.complete, fun id => ?_⟩
    have hsame := patch_of_isEmpty WsEvent.id WsEvent.digest hempty state.view
    exact (congrFun hsame id).symm.trans (patch_diff WsEvent.id WsEvent.digest hnodup h.view id)
  | patched hinput hjson hremoved hpatch =>
    rename_i vpe e patch
    obtain ⟨hid, hrated⟩ := (hadmissible.broadcast vpe hinput).json hjson
    have hall : ∀ e' ∈ patch.added ++ patch.updated, e'.Rated := by
      rw [hpatch]
      simpa using hrated
    obtain ⟨hcomplete, hview⟩ := view_batch h.complete hall
    refine ⟨hcomplete, fun id => (hview id).trans ?_⟩
    unfold Delta.patch
    rw [hpatch, hremoved, latest_singleton, Table.find?_put, hid, if_neg List.not_mem_nil, h.view]
    by_cases hthis : vpe.id = id
    · rw [if_pos hthis, if_pos hthis.symm, Option.some_or]
    · rw [if_neg hthis, if_neg (Ne.symm hthis), Option.none_or]

/-- A connection that serves is mirrored by the client that has applied what was sent. -/
def Session.Mirrored (state : EventsState) (s : Session) : Prop :=
  ∀ c, s.socket = .serving c → Mirrors c.known (s.sent.foldl EventsState.onmessage state)

/-- **A turn keeps the mirror.** -/
theorem mirrored_step {rate_cap : ℕ} {state : EventsState} {s : Session} {a : Ws.Events.Action}
    (h : Session.Mirrored state s) (hadmissible : Admissible s.socket a) :
    Session.Mirrored state (Ws.Events.step rate_cap s a) := by
  obtain ⟨socket, msgs, hturn⟩ : ∃ socket msgs, Ws.Events.turn rate_cap s.socket a = (socket, msgs) :=
    ⟨_, _, rfl⟩
  have hstep : Ws.Events.step rate_cap s a = { socket, sent := s.sent ++ msgs } := by
    unfold Ws.Events.step
    rw [hturn]
  intro c' hc'
  rw [hstep] at hc' ⊢
  dsimp only at hc' ⊢
  subst hc'
  rw [List.foldl_append]
  cases hsocket : s.socket with
  | subscribing =>
    rw [hsocket] at hturn hadmissible
    obtain ⟨q, events, hquery, hreply, rfl, hknown⟩ := Ws.Events.initial_of_turn hturn
    obtain ⟨_, hrated⟩ := (hadmissible.answers _ _ hquery hreply).nodup
    rw [hknown]
    obtain ⟨hcomplete, hview⟩ := view_set (s.sent.foldl EventsState.onmessage state) hrated
    exact ⟨hcomplete, hview⟩
  | serving c =>
    rw [hsocket] at hturn hadmissible
    exact mirrors_told hadmissible (Ws.Events.told_of_turn hturn) (h c hsocket)
  | closed =>
    rw [hsocket] at hturn
    cases hturn

/-- **The client mirrors the connection.**  In every run of a connection, whatever is
received, lags, is dropped or fails, a client that has applied all that was sent, from any
state, has in its viewport the ids the connection knows, and stores for each the severity,
the state and the trust state of its digest. -/
theorem client_mirrors (rate_cap : ℕ) (state : EventsState) {as : List Ws.Events.Action}
    (hadmissible : ∀ e ∈ events (Ws.Events.step rate_cap) {} as, Admissible e.pre.socket e.act)
    {c : Conn} (hserving : (run (Ws.Events.step rate_cap) {} as).socket = .serving c)
    {client : EventsState}
    (hclient : client =
      (run (Ws.Events.step rate_cap) {} as).sent.foldl EventsState.onmessage state) :
    (∀ id, id ∈ client.viewportIds ↔ (c.known.find? id).isSome = true) ∧
      ∀ id digest, c.known.find? id = some digest → ∃ item, stored client.items id = some item ∧
        item.severity = digest.severity ∧ item.state = digest.state ∧
        item.trust_state.map TrustTier.text = some digest.trust_state := by
  have hmirrored : Session.Mirrored state (run (Ws.Events.step rate_cap) {} as) :=
    run_induction_of (G := fun (s : Session) a => Admissible s.socket a) (fun c hc => nomatch hc)
      (fun s a hs ha => mirrored_step hs ha) hadmissible
  obtain ⟨hcomplete, hview⟩ := hmirrored c hserving
  rw [← hclient] at hcomplete hview
  constructor
  · intro id
    rw [← hview id]
    unfold EventsState.view
    constructor
    · intro hid
      rw [if_pos hid]
      exact hcomplete id hid
    · intro hsome
      by_contra hid
      rw [if_neg hid] at hsome
      cases hsome
  · intro id digest hdigest
    rw [← hview id] at hdigest
    unfold EventsState.view at hdigest
    split at hdigest
    · simp only [digestOf, Option.bind_eq_bind, Option.bind_eq_some_iff, Option.pure_def,
        Option.some.injEq] at hdigest
      obtain ⟨item, hitem, trust_state, htrust, rfl⟩ := hdigest
      exact ⟨item, hitem, rfl, rfl, by rw [htrust]; rfl⟩
    · cases hdigest

/-! ### A run -/

/-- A row of the database. -/
def demoRow : Nlp.SafetyEvent :=
  { event_type := "FLOOD", severity := .high, title := "Flooding downtown", lat := 0, lng := 0
    started_at := 0, summary := none, place_name := none, county := none, created_at := 0 }

/-- A database of that row. -/
def demoEvents : Table Uuid Nlp.SafetyEvent := Table.empty.put "e" demoRow

/-- A viewport around it. -/
def demoBounds : Ws.Events.Bounds := { north := 1, south := -1, east := 1, west := -1 }

/-- The client subscribes and is told of a second event; its viewport moves, and when it is
taken up the second event is gone. -/
def demoTurns : List Ws.Events.Action :=
  [{ input := .text (.ok (.subscribe demoBounds 9 [] false)), now := 0, safety_events := demoEvents
     reply := some [Ws.Events.wsEvent "e" demoRow], sends := true },
   { input := .broadcast (Ws.Events.confirmedEvent "f" demoRow), now := 0
     safety_events := demoEvents, reply := none, sends := true },
   { input := .text (.ok (.viewportChanged demoBounds 9)), now := 0, safety_events := demoEvents
     reply := none, sends := true },
   { input := .debounce, now := 0, safety_events := demoEvents
     reply := some [Ws.Events.wsEvent "e" demoRow], sends := true }]

theorem answers_demo :
    Ws.Events.Answers demoEvents { bounds := demoBounds, filters := [], zoom := 9 }
      [Ws.Events.wsEvent "e" demoRow] := by
  refine ⟨[("e", demoRow)], ?_, by simp, ?_⟩
  · have hselected : (demoEvents.rows.filter fun r =>
        (Ws.Events.Query.mk demoBounds [] 9).selects r.2) = [("e", demoRow)] := by decide
    rw [hselected]
  · have hlimit := Ws.Events.le_viewportEventLimit 9
    rw [List.take_of_length_le (by simpa using (by omega : 1 ≤ Ws.Events.viewportEventLimit 9))]
    rfl

theorem admissible_demo :
    ∀ e ∈ events (Ws.Events.step 30) {} demoTurns, Admissible e.pre.socket e.act := by
  intro e he
  simp only [demoTurns, events_cons, events_nil, List.mem_cons, List.not_mem_nil, or_false] at he
  rcases he with rfl | rfl | rfl | rfl
  · constructor
    · intro q replied hquery hreply
      obtain rfl := Option.some.inj hquery
      obtain rfl := Option.some.inj hreply
      exact answers_demo
    · intro vpe hinput
      cases hinput
  · constructor
    · intro q replied _ hreply
      cases hreply
    · intro vpe hinput
      obtain rfl := Ws.Events.Input.broadcast.inj hinput
      exact .confirmed "f" demoRow
  · constructor
    · intro q replied _ hreply
      cases hreply
    · intro vpe hinput
      cases hinput
  · constructor
    · intro q replied hquery hreply
      obtain rfl := Option.some.inj hquery
      obtain rfl := Option.some.inj hreply
      exact answers_demo
    · intro vpe hinput
      cases hinput

/-- The client of the run, which began with nothing. -/
def demoClient : EventsState :=
  (run (Ws.Events.step 30) {} demoTurns).sent.foldl EventsState.onmessage {}

/-- It is left with the first event, as the connection is. -/
theorem client_mirrors_demo :
    demoClient.viewportIds = ["e"] ∧
      ∃ c, (run (Ws.Events.step 30) {} demoTurns).socket = .serving c ∧
        (∀ id, id ∈ demoClient.viewportIds ↔ (c.known.find? id).isSome = true) ∧
        ∀ id digest, c.known.find? id = some digest →
          ∃ item, stored demoClient.items id = some item ∧ item.severity = digest.severity ∧
            item.state = digest.state ∧
            item.trust_state.map TrustTier.text = some digest.trust_state :=
  ⟨by decide, _, rfl, client_mirrors 30 {} admissible_demo rfl rfl⟩

end Viewport
end Pwa
end SentinelMesh
