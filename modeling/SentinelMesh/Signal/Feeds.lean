/-
# Feeds over time

`_process_entry` of `ingest/rss_parser.py` with `is_duplicate` of `ingest/deduplicator.py`, over
any number of polls.  A poll goes through the entries of its feeds one after the other, and what
an entry raises is caught (`pollRssFeeds`); other producers ask `is_duplicate` meanwhile.

The key of a text is set before anything is done with it, and nothing removes it but its expiry
(`mark_stays`): what has been emitted is not emitted again (`emits_once`), and what has raised is
not tried again either.  `raises_iff` says when an entry raises, by what its calls meet, and
`retried_iff` what that leaves of trying again.
-/

import SentinelMesh.Lib.Expiring
import SentinelMesh.Lib.Run
import SentinelMesh.Signal.Producers

namespace SentinelMesh
namespace Signal
namespace Feeds

open Lib Lib.Python

/-! ### The service -/

/-- What an execution of `_process_entry` meets: the clock and the rest, what becomes of `xadd`,
and what else its calls raise. -/
structure Attempt extends Runtime where
  classify_event : Py Unit := .ok ()
  extract_locations : Py Unit := .ok ()
  build_event : Py Unit := .ok ()
  emit_event : Py Unit := .ok ()
  xadd : Py Unit := .ok ()

/-- What it finds on the machine, as the other producers see it. -/
def Attempt.context (x : Attempt) (duplicate : Bool) : Context :=
  { x.toRuntime with is_duplicate := .ok duplicate, xadd := x.xadd }

/-- `_process_entry` after `is_duplicate`: the events it emits. -/
def processNew (an : Analysis) (x : Attempt) (entry : Entry) (source_url : String) :
    Py (List Value) := do
  x.classify_event
  let classification := an.classify_event entry.text
  if classification.event_type = "FALSE_ALARM" ∨ classification.confidence < 3 / 10 then return []
  x.extract_locations
  match an.extract_locations entry.text with
  | [] => return []
  | location :: _ =>
    let ts ← entry.timestamp (x.context false)
    x.build_event
    let event ← buildEvent x.toRuntime [(rssSignal an entry source_url location ts).toValue]
    x.emit_event
    emitEvent x.xadd event

/-- Redis and its clock, in milliseconds: the keys of `is_duplicate`, and
`sentinel:events:stream`. -/
structure State where
  now : ℕ
  keys : Expiring String ℕ := {}
  stream : List Value := []

/-- `_TTL_SECONDS`, in milliseconds. -/
def ttl : ℕ := 86400 * 1000

/-- The key of a text. -/
def dedupKey (sha256 : String → String) (content : String) : String :=
  "sentinel:dedup:" ++ sha256 content

/-- `is_duplicate`. -/
def isDuplicate (sha256 : String → String) (s : State) (content : String) : State × Bool :=
  let (keys, is_new) := s.keys.setNx s.now (dedupKey sha256 content) ttl
  ({ s with keys }, !is_new)

/-- What `_process_entry` came to: it returned at `is_duplicate`, or went on. -/
inductive Outcome
  | duplicate
  | processed (r : Py (List Value))

/-- `_process_entry`. -/
def processEntry (an : Analysis) (sha256 : String → String) (s : State) (x : Attempt)
    (entry : Entry) (source_url : String) : State × Outcome :=
  let asked := isDuplicate sha256 s entry.text
  if asked.2 then (asked.1, .duplicate)
  else match processNew an x entry source_url with
    | .ok events =>
      ({ asked.1 with stream := asked.1.stream ++ events }, .processed (.ok events))
    | .error e => (asked.1, .processed (.error e))

/-- What can happen: time passes, an entry is processed, and another producer asks
`is_duplicate`. -/
inductive Act
  | wait (ms : ℕ)
  | entry (x : Attempt) (entry : Entry) (source_url : String)
  | other (content : String)

/-- A poll of `poll_rss_feeds`, as actions: a feed that is not fetched is left out, and what an
entry raises stops nothing. -/
def pollRssFeeds (feeds : List (String × Option (List (Entry × Attempt)))) : List Act :=
  feeds.flatMap fun (feed_url, fetched) =>
    (fetched.getD []).map fun (entry, x) => .entry x entry feed_url

section

variable (an : Analysis) (sha256 : String → String)

/-- The state after an action. -/
def step (s : State) : Act → State
  | .wait ms => { s with now := s.now + ms }
  | .entry x entry source_url => (processEntry an sha256 s x entry source_url).1
  | .other content => (isDuplicate sha256 s content).1

/-- What an action came to, if it was an entry. -/
def outcome (s : State) : Act → Option Outcome
  | .wait _ => none
  | .entry x entry source_url => some (processEntry an sha256 s x entry source_url).2
  | .other _ => none

end

/-! ### What is asked -/

/-- An executed action. -/
abbrev Executed := Event State Act

/-- The same entry is seen again before the window of the first time is over. -/
def SeenAgain (e f : Executed) : Prop :=
  ∃ x x' entry source_url source_url', e.act = .entry x entry source_url ∧
    f.act = .entry x' entry source_url' ∧ f.pre.now < e.pre.now + ttl

/-- The processing raised. -/
def Raised (an : Analysis) (sha256 : String → String) (e : Executed) : Prop :=
  ∃ err, outcome an sha256 e.pre e.act = some (.processed (.error err))

/-- An event was emitted. -/
def Emitted (an : Analysis) (sha256 : String → String) (e : Executed) : Prop :=
  ∃ event rest, outcome an sha256 e.pre e.act = some (.processed (.ok (event :: rest)))

/-- Skipped as a duplicate. -/
def Skipped (an : Analysis) (sha256 : String → String) (e : Executed) : Prop :=
  outcome an sha256 e.pre e.act = some .duplicate

/-- **Retried**: an entry that raised is processed again when it is seen in its window, and one
whose event was emitted is not emitted in its window again. -/
def Retried (an : Analysis) (sha256 : String → String) (es : List Executed) : Prop :=
  (es.Pairwise fun e f => SeenAgain e f → Raised an sha256 e → ¬ Skipped an sha256 f) ∧
    es.Pairwise fun e f => SeenAgain e f → Emitted an sha256 e → ¬ Emitted an sha256 f

/-- Something is raised. -/
def Faults {α : Type} (r : Py α) : Prop := ∃ err, r = .error err

/-- The text is classified as an event, clearly enough. -/
def Relevant (an : Analysis) (entry : Entry) : Prop :=
  (an.classify_event entry.text).event_type ≠ "FALSE_ALARM" ∧
    3 / 10 ≤ (an.classify_event entry.text).confidence

/-- The calls of an attempt raise: the classification, or, of a text that is relevant, the
extraction, or, at a place, the date, `build_event` or `emit_event`. -/
def Raises (an : Analysis) (x : Attempt) (entry : Entry) : Prop :=
  Faults x.classify_event ∨ (Relevant an entry ∧
    (Faults x.extract_locations ∨ ∃ location rest, an.extract_locations entry.text = location :: rest ∧
      (Faults (entry.timestamp (x.context false)) ∨ Faults x.build_event ∨
        location.lat = none ∨ location.lng = none ∨ Faults x.emit_event ∨ Faults x.xadd)))

/-- The entry of an action is new, and its calls raise. -/
def Fails (an : Analysis) (sha256 : String → String) (s : State) : Act → Prop
  | .entry x entry _ =>
    s.keys.holds s.now (dedupKey sha256 entry.text) = false ∧ Raises an x entry
  | .wait _ | .other _ => False

/-! ### One entry -/

section

variable {an : Analysis} {sha256 : String → String}

theorem not_faults_ok {α : Type} (a : α) : ¬ Faults (.ok a : Py α) := by
  rintro ⟨err, herr⟩
  cases herr

/-- A sequence raises in its first part or in its second. -/
theorem faults_bind {α β : Type} {r : Py α} {f : α → Py β} :
    Faults (r >>= f) ↔ Faults r ∨ ∃ a, r = .ok a ∧ Faults (f a) := by
  cases r with
  | error err => exact iff_of_true ⟨err, rfl⟩ (Or.inl ⟨err, rfl⟩)
  | ok a =>
      rw [ok_bind]
      constructor
      · exact fun h => Or.inr ⟨a, rfl, h⟩
      · rintro (⟨err, herr⟩ | ⟨a', ha, h⟩)
        · cases herr
        · cases ha
          exact h

/-- A step that returns nothing raises, or what comes after it does. -/
theorem faults_then {α : Type} {r : Py Unit} {k : Py α} :
    Faults (r >>= fun _ => k) ↔ Faults r ∨ Faults k := by
  rw [faults_bind]
  cases r with
  | error err => exact iff_of_true (Or.inl ⟨err, rfl⟩) (Or.inl ⟨err, rfl⟩)
  | ok u => simp

/-- At a place without coordinates no event is built. -/
theorem faults_unlocated (rt : Runtime) {e : Entries} (hseverity : e.severity ∈ severityOrder)
    (h : e.location.lat = none ∨ e.location.lng = none) : Faults (buildEvent rt [e.toValue]) := by
  rw [buildEvent_singleton rt hseverity]
  cases hlat : e.location.lat with
  | none => exact ⟨_, rfl⟩
  | some lat =>
      cases hlng : e.location.lng with
      | none => exact ⟨_, rfl⟩
      | some lng =>
          rw [hlat, hlng] at h
          exact h.elim (fun heq => nomatch heq) fun heq => nomatch heq

/-- What is built and emitted of an entry raises without coordinates, or where its calls do. -/
theorem faults_emit {x : Attempt} {entry : Entry} {source_url : String} {location : Place}
    {ts : UtcTime} :
    Faults (do
        let event ← buildEvent x.toRuntime [(rssSignal an entry source_url location ts).toValue]
        x.emit_event
        emitEvent x.xadd event) ↔
      location.lat = none ∨ location.lng = none ∨ Faults x.emit_event ∨ Faults x.xadd := by
  have hseverity : (rssSignal an entry source_url location ts).severity ∈ severityOrder :=
    scoreSeverity_mem an entry.text
  rw [← or_assoc]
  by_cases hplace : location.lat = none ∨ location.lng = none
  · refine iff_of_true (faults_bind.2 (Or.inl ?_)) (Or.inl hplace)
    exact faults_unlocated x.toRuntime hseverity hplace
  · rw [not_or] at hplace
    obtain ⟨lat, hlat⟩ := Option.ne_none_iff_exists'.1 hplace.1
    obtain ⟨lng, hlng⟩ := Option.ne_none_iff_exists'.1 hplace.2
    obtain ⟨event, hevent, hvalid⟩ :=
      builds_of_datetime x.toRuntime hseverity hlat hlng rfl
    rw [hevent, ok_bind, faults_then, or_iff_right (not_or.2 hplace)]
    refine or_congr_right ?_
    unfold emitEvent
    rw [if_pos hvalid, faults_then]
    exact or_iff_left (not_faults_ok _)

/-- **When an entry raises.** -/
theorem raises_iff {x : Attempt} {entry : Entry} {source_url : String} :
    Faults (processNew an x entry source_url) ↔ Raises an x entry := by
  unfold processNew Raises
  rw [faults_then]
  refine or_congr_right ?_
  by_cases hrelevant : Relevant an entry
  · have hgates : ¬ ((an.classify_event entry.text).event_type = "FALSE_ALARM" ∨
        (an.classify_event entry.text).confidence < 3 / 10) := by
      rintro (hfalse | hlow)
      · exact hrelevant.1 hfalse
      · exact hlow.not_ge hrelevant.2
    dsimp only
    rw [if_neg hgates, faults_then, and_iff_right hrelevant]
    refine or_congr_right ?_
    cases hlocations : an.extract_locations entry.text with
    | nil => exact iff_of_false (not_faults_ok _) (fun ⟨_, _, heq, _⟩ => nomatch heq)
    | cons location rest =>
        have hplace : ∀ P : Place → Prop, (∃ location' rest', location :: rest = location' :: rest' ∧
            P location') ↔ P location := by
          intro P
          constructor
          · rintro ⟨_, _, heq, h⟩
            cases heq
            exact h
          · exact fun h => ⟨location, rest, rfl, h⟩
        rw [hplace, faults_bind]
        cases entry.timestamp (x.context false) with
        | error err => exact iff_of_true (Or.inl ⟨err, rfl⟩) (Or.inl ⟨err, rfl⟩)
        | ok ts =>
            have hemit := @faults_emit an x entry source_url location ts
            refine or_congr_right ?_
            rw [← hemit, ← faults_then]
            constructor
            · rintro ⟨_, heq, h⟩
              cases heq
              exact h
            · exact fun h => ⟨ts, rfl, h⟩
  · have hgates : (an.classify_event entry.text).event_type = "FALSE_ALARM" ∨
        (an.classify_event entry.text).confidence < 3 / 10 := by
      by_contra hnot
      rw [not_or, not_lt] at hnot
      exact hrelevant hnot
    dsimp only
    rw [if_pos hgates]
    exact iff_of_false (not_faults_ok _) fun h => hrelevant h.1

/-! ### The mark -/

/-- A key is set unless it is held, and no key is removed. -/
theorem isDuplicate_spec (s : State) (content : String) :
    ((isDuplicate sha256 s content).2 = s.keys.holds s.now (dedupKey sha256 content)) ∧
      (isDuplicate sha256 s content).1.now = s.now ∧
      (∀ r ∈ s.keys.keys, r ∈ (isDuplicate sha256 s content).1.keys.keys) ∧
      (s.keys.holds s.now (dedupKey sha256 content) = false →
        (dedupKey sha256 content, s.now + ttl) ∈ (isDuplicate sha256 s content).1.keys.keys) := by
  refine ⟨?_, rfl, fun r hr => Expiring.mem_keys_setNx.2 (Or.inl hr), fun hnew => ?_⟩
  · have hset : (s.keys.setNx s.now (dedupKey sha256 content) ttl).2 = true ↔
        s.keys.holds s.now (dedupKey sha256 content) = false := Expiring.setNx_eq_true_iff
    change (!(s.keys.setNx s.now (dedupKey sha256 content) ttl).2) = _
    cases hheld : s.keys.holds s.now (dedupKey sha256 content) with
    | true =>
        rw [hheld] at hset
        rw [Bool.not_eq_true', ← Bool.not_eq_true, hset]
        exact Bool.noConfusion
    | false => rw [Bool.not_eq_false', hset, hheld]
  · exact Expiring.mem_keys_setNx.2 (Or.inr ⟨rfl, Expiring.setNx_eq_true_iff.2 hnew⟩)

/-- **What an entry comes to**: skipped where its key is held; else its calls decide. -/
theorem outcome_entry (s : State) (x : Attempt) (entry : Entry) (source_url : String) :
    outcome an sha256 s (.entry x entry source_url) = some
      (if s.keys.holds s.now (dedupKey sha256 entry.text) then .duplicate
        else .processed (processNew an x entry source_url)) := by
  unfold outcome processEntry
  dsimp only
  rw [(isDuplicate_spec s entry.text).1]
  split_ifs
  · rfl
  · cases processNew an x entry source_url with
    | ok events => rfl
    | error err => rfl

/-- What an entry does to the clock and the keys is what `is_duplicate` does. -/
theorem step_entry (s : State) (x : Attempt) (entry : Entry) (source_url : String) :
    (step an sha256 s (.entry x entry source_url)).now = s.now ∧
      (step an sha256 s (.entry x entry source_url)).keys =
        (isDuplicate sha256 s entry.text).1.keys := by
  unfold step processEntry
  dsimp only
  split_ifs
  · exact ⟨rfl, rfl⟩
  · cases processNew an x entry source_url with
    | ok events => exact ⟨rfl, rfl⟩
    | error err => exact ⟨rfl, rfl⟩

/-- **No action removes a key.** -/
theorem mem_keys_step {s : State} (a : Act) {r : String × ℕ} (h : r ∈ s.keys.keys) :
    r ∈ (step an sha256 s a).keys.keys := by
  cases a with
  | wait ms => exact h
  | entry x entry source_url =>
      rw [(step_entry s x entry source_url).2]
      exact (isDuplicate_spec s entry.text).2.2.1 r h
  | other content => exact (isDuplicate_spec s content).2.2.1 r h

/-- What was set before a run is set where its actions are executed. -/
theorem mem_keys_events {s : State} {as : List Act} {r : String × ℕ} (h : r ∈ s.keys.keys)
    {f : Executed} (hf : f ∈ events (step an sha256) s as) : r ∈ f.pre.keys.keys :=
  (events_induction_of (P := fun s => r ∈ s.keys.keys) (G := fun _ _ => True) h
    (fun _ a h _ => mem_keys_step a h) (fun _ _ => trivial) hf).1

/-- **The mark stays**: an entry that was not skipped is skipped in its window. -/
theorem mark_stays (s : State) (as : List Act) :
    (events (step an sha256) s as).Pairwise fun e f =>
      SeenAgain e f → ¬ Skipped an sha256 e → Skipped an sha256 f := by
  induction as generalizing s with
  | nil => exact List.Pairwise.nil
  | cons a as ih =>
      rw [events_cons, List.pairwise_cons]
      refine ⟨fun f hf => ?_, ih _⟩
      rintro ⟨x, x', entry, source_url, source_url', rfl, hact, hwindow⟩ hnot
      have hnew : s.keys.holds s.now (dedupKey sha256 entry.text) = false := by
        rw [← Bool.not_eq_true]
        intro hheld
        refine hnot ?_
        unfold Skipped
        rw [outcome_entry, if_pos hheld]
      have hset : (dedupKey sha256 entry.text, s.now + ttl) ∈
          (step an sha256 s (.entry x entry source_url)).keys.keys := by
        rw [(step_entry s x entry source_url).2]
        exact (isDuplicate_spec s entry.text).2.2.2 hnew
      have hheld := Expiring.holds_of_mem (mem_keys_events hset hf) hwindow
      unfold Skipped
      rw [hact, outcome_entry, if_pos hheld]

/-- **What has been emitted is not emitted again** in its window. -/
theorem emits_once (s : State) (as : List Act) :
    (events (step an sha256) s as).Pairwise fun e f =>
      SeenAgain e f → Emitted an sha256 e → ¬ Emitted an sha256 f := by
  refine (mark_stays s as).imp ?_
  rintro e f hmark hagain ⟨event, rest, hemitted⟩ ⟨event', rest', hemitted'⟩
  have hnot : ¬ Skipped an sha256 e := fun hskipped => nomatch hskipped.symm.trans hemitted
  exact nomatch (hmark hagain hnot).symm.trans hemitted'

/-- An entry that raised is new, and its calls raise. -/
theorem raised_iff (e : Executed) :
    Raised an sha256 e ↔ Fails an sha256 e.pre e.act := by
  unfold Raised
  cases hact : e.act with
  | wait ms => exact iff_of_false (fun ⟨_, heq⟩ => nomatch heq) id
  | other content => exact iff_of_false (fun ⟨_, heq⟩ => nomatch heq) id
  | entry x entry source_url =>
      unfold Fails
      dsimp only
      rw [outcome_entry, ← @raises_iff an x entry source_url]
      cases hheld : e.pre.keys.holds e.pre.now (dedupKey sha256 entry.text) with
      | true => exact iff_of_false (fun ⟨_, heq⟩ => nomatch heq) fun h => nomatch h.1
      | false =>
          rw [and_iff_right rfl]
          constructor
          · rintro ⟨err, heq⟩
            exact ⟨err, Outcome.processed.inj (Option.some.inj heq)⟩
          · rintro ⟨err, heq⟩
            exact ⟨err, congrArg (fun r => some (Outcome.processed r)) heq⟩

/-- **When what failed is retried.**  In a run every entry that raised is processed again when it
is seen in its window, and no event is emitted twice, if and only if no entry is seen in the
window of a time when it was new and its calls raised. -/
theorem retried_iff (an : Analysis) (sha256 : String → String) (s : State) (as : List Act) :
    Retried an sha256 (events (step an sha256) s as) ↔
      (events (step an sha256) s as).Pairwise fun e f =>
        Fails an sha256 e.pre e.act → ¬ SeenAgain e f := by
  constructor
  · rintro ⟨hretries, _⟩
    refine hretries.imp₂ ?_ (mark_stays s as)
    intro e f hretry hmark hfails hagain
    have hraised : Raised an sha256 e := (raised_iff e).2 hfails
    have hnot : ¬ Skipped an sha256 e := by
      obtain ⟨err, heq⟩ := hraised
      exact fun hskipped => nomatch hskipped.symm.trans heq
    exact hretry hagain hraised (hmark hagain hnot)
  · intro hnever
    refine ⟨hnever.imp ?_, emits_once s as⟩
    intro e f hnever hagain hraised
    exact absurd hagain (hnever ((raised_iff e).1 hraised))

end

/-! ### A classification that raises once -/

/-- The classification of the entry raises, and a minute later it would not. -/
def failsOnce : List Act :=
  [.entry { demoContext.toRuntime with classify_event := .error (.valueError "") } demoEntry
      "https://ntv.co.ke/feed/",
    .wait 60000,
    .entry { demoContext.toRuntime with } demoEntry "https://ntv.co.ke/feed/"]

/-- The entry is skipped as a duplicate. -/
theorem not_retried :
    ¬ Retried (analysisOf demoTools) id
      (events (step (analysisOf demoTools) id) { now := 0 } failsOnce) := by
  rintro ⟨hretries, _⟩
  refine (List.pairwise_cons.1 hretries).1 _ (List.mem_cons_of_mem _ (List.mem_singleton_self _))
    ⟨_, _, _, _, _, rfl, rfl, by decide⟩ ⟨.valueError "", rfl⟩ ?_
  unfold Skipped
  rw [outcome_entry]
  exact congrArg some (if_pos (by decide))

end Feeds
end Signal
end SentinelMesh
