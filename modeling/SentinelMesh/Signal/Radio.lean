/-
# What the radio emits

`monitor_radio` of `ingest/radio_transcriber.py` enqueues a job for a station that is live, and a
worker executes it.  Here the queue runs with what `process_transcription_job` makes of each job,
whatever is heard, and the events it emits are kept beside their jobs.

A signal names its source by the id of its job, and a station has many jobs.  But it has its time as
a text, of which no event can be built, so that no job of a station emits anything (`not_emitted`) and
no source is counted of it, which `Provenance` says of the whole way to the promotion rule.
-/

import SentinelMesh.Signal.Producers

namespace SentinelMesh
namespace Signal
namespace Radio

open Lib Lib.Python
open Queue (JobData JobResult)

/-- `RADIO_STREAMS`. -/
def radioStreams : List (String × String) :=
  [("nation_fm", "http://stream.radiojar.com/3by7s8eg65quv"),
   ("nrg_radio", "https://streamingv2.shoutcast.com/nrg-radio-ke"),
   ("kameme_fm", "https://kamemefm-atunwadigital.streamguys1.com/kamemefm")]

/-- The queue, and the events that were emitted with the job of each. -/
structure Sys (π ω : Type) where
  queue : Queue.Sys π ω := {}
  emitted : List (JobData × Value) := []

/-- A step of the monitor or of a worker. -/
inductive Act (π ω : Type)
  /-- A station is live, and a job is enqueued. -/
  | monitor (p : π) (station : String × String) (job_id : Uuid) (now : String)
  | push (p : π)
  | record (p : π)
  /-- The next operation of a worker, and what it hears if that is the execution. -/
  | work (w : ω) (an : Analysis) (ctx : RadioContext) (now : String)
  | expire (job_id : Uuid)

variable {π ω : Type} [DecidableEq π] [DecidableEq ω]

/-- One step. -/
def step (s : Sys π ω) : Act π ω → Sys π ω
  | .monitor p station job_id now =>
    if station ∈ radioStreams then
      { s with queue := Queue.step s.queue (.enqueue p
        { stream_id := station.1, audio_url := station.2, captured_at := now } 3 500 job_id now) }
    else s
  | .push p => { s with queue := Queue.step s.queue (.push p) }
  | .record p => { s with queue := Queue.step s.queue (.record p) }
  | .work w an ctx now => match s.queue.workers w with
    | .processing job =>
      let (result, events) := processTranscriptionJob an ctx job
      { queue := Queue.step s.queue (.work w result now)
        emitted := s.emitted ++ events.map fun event => (job, event) }
    | _ => { s with queue := Queue.step s.queue (.work w { status := "" } now) }
  | .expire job_id => { s with queue := Queue.step s.queue (.expire job_id) }

/-- The source of an event. -/
def sourceOf (event : Value) : Option String :=
  match event.get "source_id" with
  | .ok (.str s) => some s
  | _ => none

/-- **A job of the radio emits nothing**, whatever it hears. -/
theorem not_emitted (an : Analysis) (ctx : RadioContext) (job : JobData) :
    (processTranscriptionJob an ctx job).2 = [] := by
  have hraises : ∀ text location timestamp, ∃ e,
      buildEvent ctx.toRuntime [(radioSignal an job text location timestamp).toValue] = .error e := by
    intro text location timestamp
    rw [buildEvent_singleton ctx.toRuntime (scoreSeverity_mem an text)]
    split
    · exact ⟨_, rfl⟩
    · exact ⟨_, rfl⟩
  -- A transcript that is skipped emits nothing, and of one that is not no event is built.
  have hnone : ∀ text result events,
      processTranscript an ctx.toContext job text = .ok (result, events) → events = [] := by
    intro text result events hok
    unfold processTranscript at hok
    split_ifs at hok with hshort
    · cases hok
      rfl
    · obtain ⟨duplicate, -, hok⟩ := bind_eq_ok.1 hok
      cases duplicate with
      | true =>
          cases hok
          rfl
      | false =>
          rw [if_neg Bool.false_ne_true] at hok
          dsimp only at hok
          split_ifs at hok with hlow
          · cases hok
            rfl
          · cases hlocations : an.extract_locations text with
            | nil =>
                rw [hlocations] at hok
                cases hok
                rfl
            | cons location locations =>
                rw [hlocations] at hok
                obtain ⟨timestamp, -, hok⟩ := bind_eq_ok.1 hok
                obtain ⟨event, hevent, -⟩ := bind_eq_ok.1 hok
                obtain ⟨e, he⟩ := hraises text location timestamp
                rw [he] at hevent
                cases hevent
  unfold processTranscriptionJob
  split
  · rfl
  · rfl
  · rfl
  · rename_i text _ _
    split
    · rename_i outcome hok
      exact hnone _ outcome.1 outcome.2 hok
    · rfl

/-- The stations that the emitted events came from. -/
def Sys.stations (s : Sys π ω) : List String :=
  (s.emitted.map fun e => e.1.payload.stream_id).dedup

/-- A step emits nothing. -/
theorem step_emitted (s : Sys π ω) (a : Act π ω) : (step s a).emitted = s.emitted := by
  cases a with
  | monitor p station job_id now =>
      unfold step
      dsimp only
      split_ifs <;> rfl
  | push p => rfl
  | record p => rfl
  | work w an ctx now =>
      unfold step
      dsimp only
      split
      · rename_i job _
        dsimp only
        rw [not_emitted an ctx job]
        simp
      · rfl
  | expire job_id => rfl

end Radio
end Signal
end SentinelMesh
