/-
# The stations that are monitored

`monitor_radio` of `ingest/radio_transcriber.py` with `validate_stream` of `ingest/stream_validator.py`:
a pass asks each station whether it is live and enqueues a job if so.  A station that fails three times
in a row is left alone for five minutes, and a warning about it is logged once a minute at most.

What the tables have of a station is a `Breaker` of its own (`view_pass`).  So a station that is down is
asked no more than three times within five minutes (`probes_le`), and one that is live is passed over
for that reason alone (`outcome_iff`).
-/

import SentinelMesh.Lib.Breaker
import SentinelMesh.Lib.Table
import Mathlib.Algebra.Order.Ring.Rat
import Mathlib.Tactic.NormNum

namespace SentinelMesh
namespace Signal
namespace Stations

open Lib

/-- A response, as far as it is looked at: the content type is empty where the header is missing. -/
structure Response where
  status_code : ℕ
  content_type : String

/-- `_AUDIO_PREFIXES`. -/
def audioPrefixes : List String := ["audio/", "application/vnd.apple.mpegurl", "video/"]

/-- A content type is that of a stream. -/
def isAudio (content_type : String) : Bool :=
  audioPrefixes.any fun p => p.toList.isPrefixOf content_type.toList

/-- `validate_stream`, from what a HEAD and a GET are answered; `none` where the request raises. -/
def validateStream (head get : Option Response) : Bool :=
  match head with
  | none => false
  | some response =>
    if response.status_code = 405 then get.any fun response => isAudio response.content_type
    else if 200 ≤ response.status_code ∧ response.status_code < 300 then isAudio response.content_type
    else false

/-- `_BACKOFF_THRESHOLD`. -/
def backoffThreshold : ℕ := 3

/-- `_LOG_WINDOW_SECONDS`. -/
def logWindowSeconds : ℚ := 60

/-- `_COOLDOWN_RESET_SECONDS`. -/
def cooldownResetSeconds : ℚ := 300

/-- The tables of the module. -/
structure Monitor where
  failure_counts : Table String ℕ := Table.empty
  last_warned : Table String ℚ := Table.empty
  cooldown_since : Table String ℚ := Table.empty

/-- What a pass meets at a station: the clock when it comes to it, what the station answers, the clock
when it has answered and when a warning would be logged, and whether the job is enqueued. -/
structure Visit where
  now : ℚ
  head : Option Response
  get : Option Response
  done : ℚ
  logged : ℚ
  enqueued : Bool

/-- The station is live. -/
def Visit.live (v : Visit) : Bool := validateStream v.head v.get

/-- What a pass does with a station. -/
inductive Outcome
  | skipped
  | unavailable (warned : Bool)
  | queued
  | raised
  deriving DecidableEq

/-- The body of the loop of `monitor_radio`. -/
def visit (m : Monitor) (station : String) (v : Visit) : Monitor × Outcome :=
  let failures := (m.failure_counts.find? station).getD 0
  if backoffThreshold ≤ failures ∧
      v.now - (m.cooldown_since.find? station).getD 0 < cooldownResetSeconds then (m, .skipped)
  else
    let m :=
      if backoffThreshold ≤ failures then { m with failure_counts := m.failure_counts.put station 0 }
      else m
    if v.live then
      ({ m with failure_counts := m.failure_counts.put station 0 },
        if v.enqueued then .queued else .raised)
    else
      let failures := (m.failure_counts.find? station).getD 0 + 1
      let m := { m with failure_counts := m.failure_counts.put station failures }
      let m :=
        if failures = backoffThreshold then
          { m with cooldown_since := m.cooldown_since.put station v.done }
        else m
      if logWindowSeconds ≤ v.logged - (m.last_warned.find? station).getD 0 then
        ({ m with last_warned := m.last_warned.put station v.logged }, .unavailable true)
      else (m, .unavailable false)

/-- `monitor_radio`, with what each station came to. -/
def monitorRadio : List String → (String → Visit) → Monitor → Monitor × List (String × Outcome)
  | [], _, m => (m, [])
  | station :: stations, visits, m =>
    let (m, outcome) := visit m station (visits station)
    let (m, outcomes) := monitorRadio stations visits m
    (m, (station, outcome) :: outcomes)

/-- A pass. -/
def pass (stations : List String) (m : Monitor) (visits : String → Visit) : Monitor :=
  (monitorRadio stations visits m).1

/-- What a pass does with some station. -/
def outcome (stations : List String) (m : Monitor) (visits : String → Visit) (station : String) :
    Option Outcome :=
  (monitorRadio stations visits m).2.lookup station

/-- A visit as an attempt. -/
def Visit.attempt (v : Visit) : Breaker.Attempt ℚ := { now := v.now, done := v.done, ok := v.live }

/-- The visits of a station, in a run of passes, in which it is asked. -/
def probes (stations : List String) (station : String) (m : Monitor) (passes : List (String → Visit)) :
    List (Breaker.Attempt ℚ) :=
  (events (pass stations) m passes).filterMap fun e =>
    if outcome stations e.pre e.act station = some .skipped then none
    else some (e.act station).attempt

/-! ### The breaker of a station -/

/-- What the tables have of a station. -/
def view (m : Monitor) (station : String) : Breaker ℚ :=
  { failures := (m.failure_counts.find? station).getD 0
    since := (m.cooldown_since.find? station).getD 0 }

variable {m : Monitor} {station k : String} {v : Visit}

/-- A station is passed over where its breaker holds back. -/
theorem visit_skipped_iff :
    (visit m station v).2 = .skipped ↔
      ¬Breaker.Admits backoffThreshold cooldownResetSeconds (view m station) v.now := by
  unfold Breaker.Admits view
  rw [not_or, not_lt, not_le]
  unfold visit
  dsimp only
  split_ifs <;> simp_all

/-- A visit changes nothing of another station. -/
theorem view_visit_of_ne (hk : k ≠ station) : view (visit m station v).1 k = view m k := by
  unfold visit view
  dsimp only
  split_ifs <;> simp [Table.find?_put, hk]

/-- A station that is passed over keeps what it has. -/
theorem visit_of_skipped (h : (visit m station v).2 = .skipped) : (visit m station v).1 = m := by
  unfold visit at h ⊢
  dsimp only at h ⊢
  split_ifs at h ⊢
  rfl

/-- **A visit is an attempt** at its station. -/
theorem view_visit : view (visit m station v).1 station =
    Breaker.step backoffThreshold cooldownResetSeconds (view m station) v.attempt := by
  have hskipped : (visit m station v).2 = .skipped ↔
      ¬Breaker.Admits backoffThreshold cooldownResetSeconds (view m station) v.now := visit_skipped_iff
  unfold Breaker.step
  split_ifs with hadmits
  · have hvisited : (visit m station v).2 ≠ .skipped := fun h => hskipped.1 h hadmits
    unfold visit at hvisited ⊢
    unfold Breaker.record view Visit.attempt
    dsimp only at hvisited ⊢
    split_ifs at hvisited ⊢ <;> simp_all [Table.find?_put]
  · rw [visit_of_skipped (hskipped.2 hadmits)]

/-- A job is enqueued for a station that is asked and is live. -/
theorem visit_queued_iff :
    (visit m station v).2 = .queued ↔
      (visit m station v).2 ≠ .skipped ∧ v.live = true ∧ v.enqueued = true := by
  unfold visit
  dsimp only
  split_ifs <;> simp_all

/-! ### Passes -/

variable {stations : List String}

/-- A pass changes nothing of a station that it does not come to. -/
theorem view_monitorRadio_of_notMem (hk : k ∉ stations) (m : Monitor) (visits : String → Visit) :
    view (monitorRadio stations visits m).1 k = view m k := by
  induction stations generalizing m with
  | nil => rfl
  | cons station stations ih =>
      rw [List.mem_cons, not_or] at hk
      exact (ih hk.2 _).trans (view_visit_of_ne hk.1)

/-- **What a pass does at a station**: one attempt, on what the tables have of it before the pass. -/
theorem pass_spec (hnodup : stations.Nodup) (hk : k ∈ stations) (m : Monitor)
    (visits : String → Visit) :
    view (pass stations m visits) k =
        Breaker.step backoffThreshold cooldownResetSeconds (view m k) (visits k).attempt ∧
      ∃ m', view m' k = view m k ∧ outcome stations m visits k = some (visit m' k (visits k)).2 := by
  unfold pass outcome
  induction stations generalizing m with
  | nil => simp at hk
  | cons station stations ih =>
      rw [List.nodup_cons] at hnodup
      by_cases hstation : k = station
      · subst hstation
        exact ⟨(view_monitorRadio_of_notMem hnodup.1 _ _).trans view_visit, m, rfl,
          by simp [monitorRadio]⟩
      · have hrest := List.mem_of_ne_of_mem hstation hk
        obtain ⟨hview, m', hm', houtcome⟩ := ih hnodup.2 hrest (visit m station (visits station)).1
        rw [view_visit_of_ne hstation] at hview hm'
        refine ⟨hview, m', hm', ?_⟩
        rw [← houtcome, monitorRadio, List.lookup_cons, beq_false_of_ne hstation]

/-- A station is passed over where its breaker holds back. -/
theorem outcome_skipped_iff (hnodup : stations.Nodup) (hk : k ∈ stations) (m : Monitor)
    (visits : String → Visit) :
    outcome stations m visits k = some .skipped ↔
      ¬Breaker.Admits backoffThreshold cooldownResetSeconds (view m k) (visits k).now := by
  obtain ⟨-, m', hm', houtcome⟩ := pass_spec hnodup hk m visits
  rw [houtcome, Option.some.injEq, visit_skipped_iff, hm']

/-- **A run of passes is a run of the breaker** of each station. -/
theorem probes_eq_made (hnodup : stations.Nodup) (hk : k ∈ stations) (m : Monitor)
    (passes : List (String → Visit)) :
    view (run (pass stations) m passes) k =
        run (Breaker.step backoffThreshold cooldownResetSeconds) (view m k)
          (passes.map fun visits => (visits k).attempt) ∧
      probes stations k m passes =
        Breaker.made backoffThreshold cooldownResetSeconds (view m k)
          (passes.map fun visits => (visits k).attempt) := by
  induction passes generalizing m with
  | nil => exact ⟨rfl, rfl⟩
  | cons visits passes ih =>
      obtain ⟨hrun, hprobes⟩ := ih (pass stations m visits)
      obtain ⟨hview, -⟩ := pass_spec hnodup hk m visits
      rw [hview] at hrun hprobes
      refine ⟨hrun, ?_⟩
      have hskipped := outcome_skipped_iff hnodup hk m visits
      rw [List.map_cons, Breaker.made_cons, ← hprobes]
      unfold probes
      rw [events_cons, List.filterMap_cons]
      by_cases hadmits : Breaker.Admits backoffThreshold cooldownResetSeconds (view m k) (visits k).now
      · rw [if_pos (show Breaker.Admits _ _ _ (visits k).attempt.now from hadmits),
          if_neg fun h => hskipped.1 h hadmits]
        rfl
      · rw [if_neg (show ¬Breaker.Admits _ _ _ (visits k).attempt.now from hadmits),
          if_pos (hskipped.2 hadmits)]
        rfl

/-- **A station that is down is asked no more than three times within five minutes**, after any
passes. -/
theorem probes_le (hnodup : stations.Nodup) (hk : k ∈ stations) (before passes : List (String → Visit))
    {x : ℚ}
    (htimes : ∀ visits ∈ passes, x ≤ (visits k).now ∧ (visits k).now - x < cooldownResetSeconds ∧
      (visits k).now ≤ (visits k).done)
    (hdown : ∀ visits ∈ passes, (visits k).live = false) :
    (probes stations k (run (pass stations) {} before) passes).length ≤ 3 := by
  rw [(probes_eq_made hnodup hk _ passes).2]
  refine (Breaker.length_made_le (by decide) _ (fun a ha => ?_) fun a ha => ?_).trans
    (Breaker.allowance_le _ x)
  · obtain ⟨visits, hvisits, rfl⟩ := List.mem_map.1 ha
    exact htimes visits hvisits
  · obtain ⟨visits, hvisits, rfl⟩ := List.mem_map.1 ha
    exact hdown visits hvisits

/-- A visit to a station that does not answer. -/
def demoDown (now : ℚ) : Visit :=
  { now, head := none, get := none, done := now + 10, logged := now + 10, enqueued := true }

/-- Five passes within two minutes. -/
theorem probes_le_demo :
    (probes ["nation_fm", "nrg_radio"] "nrg_radio" {}
      ([0, 30, 60, 90, 120].map fun now _ => demoDown now)).length ≤ 3 := by
  have hnodup : ["nation_fm", "nrg_radio"].Nodup := by decide
  have hk : "nrg_radio" ∈ ["nation_fm", "nrg_radio"] := by decide
  refine probes_le (x := 0) hnodup hk [] _ ?_ ?_
  · intro visits hvisits
    obtain ⟨now, hnow, rfl⟩ := List.mem_map.1 hvisits
    simp only [List.mem_cons, List.not_mem_nil, or_false] at hnow
    rcases hnow with rfl | rfl | rfl | rfl | rfl <;> norm_num [demoDown, cooldownResetSeconds]
  · intro visits hvisits
    obtain ⟨now, -, rfl⟩ := List.mem_map.1 hvisits
    rfl

/-- **What a pass does at a station**, after any passes.  It is passed over exactly where the times in a
row that it was asked and was down are a multiple of three, and the last is less than five minutes ago;
and where it is not, a job is enqueued exactly if it is live and the queue takes it. -/
theorem outcome_iff (hnodup : stations.Nodup) (hk : k ∈ stations) (passes : List (String → Visit))
    (visits : String → Visit) :
    let m := run (pass stations) {} passes
    let asked := probes stations k {} passes
    (outcome stations m visits k = some .skipped ↔
        ∃ last, asked.getLast? = some last ∧ Breaker.streak asked ≠ 0 ∧ 3 ∣ Breaker.streak asked ∧
          (visits k).now - last.done < cooldownResetSeconds) ∧
      (outcome stations m visits k = some .queued ↔
        outcome stations m visits k ≠ some .skipped ∧ (visits k).live = true ∧
          (visits k).enqueued = true) := by
  intro m asked
  obtain ⟨hrun, hasked⟩ := probes_eq_made hnodup hk {} passes
  obtain ⟨-, m', -, houtcome⟩ := pass_spec hnodup hk m visits
  constructor
  · rw [outcome_skipped_iff hnodup hk, hrun, Breaker.admits_run_iff (by decide) rfl, not_not, ← hasked]
    rfl
  · rw [houtcome, Option.some.injEq, Ne, Option.some.injEq]
    exact visit_queued_iff

/-- A station that was down three times is passed over half a minute later. -/
theorem outcome_iff_demo :
    outcome ["nation_fm"] (run (pass ["nation_fm"]) {} ([0, 30, 60].map fun now _ => demoDown now))
      (fun _ => demoDown 90) "nation_fm" = some .skipped := by
  refine (outcome_iff (by decide) (by decide) _ _).1.2 ⟨(demoDown 60).attempt, ?_, ?_, ?_, ?_⟩
  · decide +kernel
  · decide +kernel
  · decide +kernel
  · decide +kernel

end Stations
end Signal
end SentinelMesh
