/-
# The queue of transcriptions

`QueueManager` of `queue_manager.py` and `worker_loop` of `worker/transcriber.py`.  A job is a
message in a Redis list, which says how often it has failed; beside it there is a record of the job
under its id, which is written apart from the message and expires.

Each operation on Redis is a step, and what the caller does up to the next one is part of it.  Any
number of producers and workers take their steps in any order; a worker is not interrupted while it
has a job, and no id is drawn twice.  What comes of an execution is given with the step.

The steps are those of a queue with retries (`inv_step`), so that `job_accounting` is what its
accounts say.
-/

import SentinelMesh.Basic
import SentinelMesh.Lib.Retry
import SentinelMesh.Signal.Event
import Mathlib.Algebra.BigOperators.Group.Finset.Piecewise

namespace SentinelMesh
namespace Signal
namespace Queue

open Lib

/-! ### Jobs -/

/-- The payload of a job. -/
structure Payload where
  stream_id : String
  audio_url : String
  captured_at : String

/-- What `process_transcription_job` returns. -/
structure JobResult where
  status : String
  reason : Option String := none
  error : Option String := none
  transcript : Option String := none
  event_type : Option String := none
  locations : Option (List Place) := none

/-- The dictionary of a job, in a list or in its record. -/
structure JobData where
  id : Uuid
  type : String
  payload : Payload
  status : String
  created_at : String
  attempts : Option ℤ
  max_retries : Option ℤ
  last_error : Option (Option String) := none
  started_at : Option String := none
  result : Option JobResult := none
  completed_at : Option String := none

/-- What is published of a result. -/
structure Publication where
  job_id : Uuid
  status : String
  transcript : Option String
  stream_id : String

/-- What is in Redis. -/
structure Redis where
  lists : String → List JobData := fun _ => []
  records : Uuid → Option JobData := fun _ => none
  published : List Publication := []

/-- `rpush`. -/
def Redis.rpush (redis : Redis) (key : String) (job : JobData) : Redis :=
  { redis with lists := Function.update redis.lists key (redis.lists key ++ [job]) }

/-- `setex`; when the record expires is left open. -/
def Redis.setex (redis : Redis) (job_id : Uuid) (job : JobData) : Redis :=
  { redis with records := Function.update redis.records job_id (some job) }

/-- The list of a type. -/
def queueKey (task_type : String) : String := "queue:" ++ task_type

/-- The list of dead letters. -/
def deadLetterKey : String := "queue:dead_letter"

/-- The type of the jobs that are enqueued and dequeued. -/
def taskType : String := "transcribe_audio"

/-- `enqueue`, up to its first write. -/
def enqueue (redis : Redis) (task_type : String) (payload : Payload) (max_retries max_depth : ℤ)
    (job_id : Uuid) (now : String) : Except String JobData :=
  let depth : ℤ := (redis.lists (queueKey task_type)).length
  if max_depth ≤ depth then
    .error ("queue:" ++ task_type ++ " at capacity (" ++ toString depth ++ "/" ++
      toString max_depth ++ ") — dropping job")
  else
    .ok
      { id := job_id
        type := task_type
        payload
        status := "queued"
        created_at := now
        attempts := some 0
        max_retries := some max_retries }

/-- `requeue_failed`: the list the job is put in, and the job. -/
def requeueFailed (job_data : JobData) (error_result : JobResult) : String × JobData :=
  let attempts := job_data.attempts.getD 0 + 1
  let updated :=
    { job_data with attempts := some attempts, last_error := some error_result.error }
  if attempts ≤ job_data.max_retries.getD 3 then
    (queueKey updated.type, { updated with status := "queued" })
  else (deadLetterKey, { updated with status := "dead" })

/-! ### Producers and workers -/

/-- Where a call of `enqueue` is. -/
inductive Producer
  | idle
  /-- Before `rpush`. -/
  | pushing (job : JobData)
  /-- Before `setex`. -/
  | recording (job : JobData)

/-- Where `worker_loop` is: the operation it comes to next. -/
inductive Worker
  /-- `dequeue`. -/
  | waiting
  /-- `get` of the first `update_job`. -/
  | starting (job : JobData)
  /-- `setex` of the first `update_job`. -/
  | marking (job record : JobData)
  /-- `process_transcription_job`. -/
  | processing (job : JobData)
  /-- `rpush` of `requeue_failed`. -/
  | requeueing (job : JobData) (key : String) (updated : JobData) (result : JobResult)
  /-- `setex` of `requeue_failed`. -/
  | recording (job updated : JobData) (result : JobResult)
  /-- `get` of the second `update_job`. -/
  | completing (job : JobData) (result : JobResult)
  /-- `setex` of the second `update_job`. -/
  | storing (job : JobData) (result : JobResult) (record : JobData)
  /-- `publish_result`. -/
  | publishing (job : JobData) (result : JobResult)

/-- The state.  The last five fields say what has happened: which ids were drawn, which jobs were
enqueued and with how many retries, and how often each was executed, failed and was done. -/
structure Sys (π ω : Type) where
  redis : Redis := {}
  producers : π → Producer := fun _ => .idle
  workers : ω → Worker := fun _ => .waiting
  issued : List Uuid := []
  enqueued : List Uuid := []
  budget : Uuid → ℤ := fun _ => 0
  executions : Uuid → ℕ := fun _ => 0
  failures : Uuid → ℕ := fun _ => 0
  finished : List Uuid := []

/-- A step of a producer or a worker, or of the clock. -/
inductive Act (π ω : Type)
  | enqueue (p : π) (payload : Payload) (max_retries max_depth : ℤ) (job_id : Uuid) (now : String)
  | push (p : π)
  | record (p : π)
  /-- The next operation of a worker, and what comes of the execution if that is the next. -/
  | work (w : ω) (result : JobResult) (now : String)
  /-- A record expires. -/
  | expire (job_id : Uuid)

variable {π ω : Type} [DecidableEq ω]

/-- A worker goes on. -/
def Sys.setWorker (s : Sys π ω) (w : ω) (next : Worker) : Sys π ω :=
  { s with workers := Function.update s.workers w next }

/-- A producer goes on. -/
def Sys.setProducer [DecidableEq π] (s : Sys π ω) (p : π) (next : Producer) : Sys π ω :=
  { s with producers := Function.update s.producers p next }

/-- A worker begins an execution. -/
def Sys.execute (s : Sys π ω) (w : ω) (job : JobData) : Sys π ω :=
  { s.setWorker w (.processing job) with
    executions := Function.update s.executions job.id (s.executions job.id + 1) }

/-- What a worker does next. -/
def Sys.work (s : Sys π ω) (w : ω) (result : JobResult) (now : String) : Sys π ω :=
  match s.workers w with
  | .waiting => match s.redis.lists (queueKey taskType) with
    | [] => s
    | job :: rest =>
      { s.setWorker w (.starting job) with
        redis := { s.redis with lists := Function.update s.redis.lists (queueKey taskType) rest } }
  | .starting job => match s.redis.records job.id with
    | none => s.execute w job
    | some record =>
      s.setWorker w (.marking job { record with status := "running", started_at := some now })
  | .marking job record => { s.execute w job with redis := s.redis.setex job.id record }
  | .processing job =>
    if result.status = "failed" then
      let (key, updated) := requeueFailed job result
      { s.setWorker w (.requeueing job key updated result) with
        failures := Function.update s.failures job.id (s.failures job.id + 1) }
    else { s.setWorker w (.completing job result) with finished := job.id :: s.finished }
  | .requeueing job key updated result =>
    { s.setWorker w (.recording job updated result) with redis := s.redis.rpush key updated }
  | .recording job updated result =>
    { s.setWorker w (.publishing job result) with redis := s.redis.setex updated.id updated }
  | .completing job result => match s.redis.records job.id with
    | none => s.setWorker w (.publishing job result)
    | some record =>
      s.setWorker w (.storing job result
        { record with
          status := result.status
          result := some result
          completed_at := some now })
  | .storing job result record =>
    { s.setWorker w (.publishing job result) with redis := s.redis.setex job.id record }
  | .publishing job result =>
    { s.setWorker w .waiting with
      redis := { s.redis with published := s.redis.published ++
        [{ job_id := job.id
           status := result.status
           transcript := result.transcript
           stream_id := job.payload.stream_id }] } }

/-- One step. -/
def step [DecidableEq π] (s : Sys π ω) : Act π ω → Sys π ω
  | .enqueue p payload max_retries max_depth job_id now =>
    match s.producers p with
    | .idle =>
      if job_id ∈ s.issued then s
      else match enqueue s.redis taskType payload max_retries max_depth job_id now with
        | .error _ => s
        | .ok job => { s.setProducer p (.pushing job) with issued := job_id :: s.issued }
    | _ => s
  | .push p => match s.producers p with
    | .pushing job =>
      { s.setProducer p (.recording job) with
        redis := s.redis.rpush (queueKey job.type) job
        enqueued := job.id :: s.enqueued
        budget := Function.update s.budget job.id (job.max_retries.getD 3) }
    | _ => s
  | .record p => match s.producers p with
    | .recording job => { s.setProducer p .idle with redis := s.redis.setex job.id job }
    | _ => s
  | .work w result now => s.work w result now
  | .expire job_id =>
    { s with redis := { s.redis with records := Function.update s.redis.records job_id none } }

/-! ### The accounts of the queue -/

/-- What a job says of itself. -/
def JobData.message (job : JobData) : Retry.Message Uuid :=
  { id := job.id, attempts := job.attempts.getD 0, max_retries := job.max_retries.getD 3 }

/-- The job in a worker's hands, and how far it is. -/
def Worker.carries : Worker → Option (Retry.Stage × JobData)
  | .starting job => some (.taken, job)
  | .marking job _ => some (.taken, job)
  | .processing job => some (.running, job)
  | .requeueing _ _ updated _ => some (.failed, updated)
  | _ => none

/-- What a worker has in its hands. -/
def Worker.held (worker : Worker) : Option (Retry.Stage × Retry.Message Uuid) :=
  worker.carries.map fun (stage, job) => (stage, job.message)

/-- The jobs as messages. -/
def Sys.accounts (s : Sys π ω) : Retry.State Uuid ω where
  queue := (s.redis.lists (queueKey taskType)).map JobData.message
  hand := Worker.held ∘ s.workers
  finished := s.finished
  dead := (s.redis.lists deadLetterKey).map JobData.message
  enqueued := s.enqueued
  budget := s.budget
  executions := s.executions
  failures := s.failures

/-- A job of the type that says how often it has failed. -/
def Proper (job : JobData) : Prop := job.type = taskType ∧ job.attempts.isSome = true

/-- What holds in every state. -/
structure Inv [Fintype ω] (s : Sys π ω) : Prop where
  queued : ∀ job ∈ s.redis.lists (queueKey taskType), Proper job
  dead : ∀ job ∈ s.redis.lists deadLetterKey, Proper job
  carried : ∀ w stage job, (s.workers w).carries = some (stage, job) → Proper job
  requeueing : ∀ w job key updated result, s.workers w = .requeueing job key updated result →
    key = if updated.attempts.getD 0 ≤ updated.max_retries.getD 3 then queueKey taskType
      else deadLetterKey
  pushing : ∀ p job, s.producers p = .pushing job → Proper job ∧ job.attempts = some 0 ∧
    job.id ∈ s.issued ∧ job.id ∉ s.enqueued
  apart : ∀ p q job job', s.producers p = .pushing job → s.producers q = .pushing job' →
    job.id = job'.id → p = q
  issued : ∀ id ∈ s.enqueued, id ∈ s.issued
  accounted : Retry.Accounted s.accounts

theorem queueKey_ne : queueKey taskType ≠ deadLetterKey := by decide

variable [Fintype ω] {s s' : Sys π ω}

/-- **A worker goes on**, and the accounts make a step. -/
theorem Inv.of_worker (h : Inv s) {w : ω} {next : Worker}
    (hworkers : s'.workers = Function.update s.workers w next)
    (hqueued : ∀ job ∈ s'.redis.lists (queueKey taskType), Proper job)
    (hdead : ∀ job ∈ s'.redis.lists deadLetterKey, Proper job)
    (hnext : ∀ stage job, next.carries = some (stage, job) → Proper job)
    (hrequeueing : ∀ job key updated result, next = .requeueing job key updated result →
      key = if updated.attempts.getD 0 ≤ updated.max_retries.getD 3 then queueKey taskType
        else deadLetterKey)
    (hproducers : s'.producers = s.producers) (hissued : s'.issued = s.issued)
    (henqueued : s'.enqueued = s.enqueued) (hstep : Retry.Step s.accounts s'.accounts) : Inv s' where
  queued := hqueued
  dead := hdead
  carried v stage job hcarries := by
    rw [hworkers] at hcarries
    by_cases hv : v = w
    · subst hv
      rw [Function.update_self] at hcarries
      exact hnext stage job hcarries
    · rw [Function.update_of_ne hv] at hcarries
      exact h.carried v stage job hcarries
  requeueing v job key updated result hv := by
    rw [hworkers] at hv
    by_cases hvw : v = w
    · subst hvw
      rw [Function.update_self] at hv
      exact hrequeueing job key updated result hv
    · rw [Function.update_of_ne hvw] at hv
      exact h.requeueing v job key updated result hv
  pushing := by
    rw [hproducers, hissued, henqueued]
    exact h.pushing
  apart := by
    rw [hproducers]
    exact h.apart
  issued := by
    rw [hissued, henqueued]
    exact h.issued
  accounted := h.accounted.step hstep

omit [Fintype ω] in
/-- What is held when a worker goes on. -/
theorem held_update (workers : ω → Worker) (w : ω) (next : Worker) :
    Worker.held ∘ Function.update workers w next =
      Function.update (Worker.held ∘ workers) w next.held :=
  Function.comp_update _ _ _ _

omit [DecidableEq ω] [Fintype ω] in
theorem held_of_eq {w : ω} {worker : Worker} (h : s.workers w = worker) :
    s.accounts.hand w = worker.held := congrArg Worker.held h

omit [Fintype ω] in
/-- A worker that has the same in its hands changes nothing. -/
theorem hand_of_held {w : ω} {worker next : Worker} (h : s.workers w = worker)
    (hheld : next.held = worker.held) :
    Worker.held ∘ Function.update s.workers w next = Worker.held ∘ s.workers := by
  rw [held_update, hheld]
  exact Function.update_eq_self_iff.2 (held_of_eq h).symm

/-- A worker goes on with what it has, and may write a record. -/
theorem Inv.of_same (h : Inv s) {w : ω} {worker : Worker} (hworker : s.workers w = worker)
    (next : Worker) (hheld : next.held = worker.held)
    (hnext : ∀ stage job, next.carries = some (stage, job) → Proper job)
    (hrequeueing : ∀ job key updated result, next ≠ .requeueing job key updated result)
    (redis : Redis) (hlists : redis.lists = s.redis.lists) :
    Inv { s.setWorker w next with redis } := by
  refine h.of_worker rfl ?_ ?_ hnext (fun job key updated result heq =>
    absurd heq (hrequeueing job key updated result)) rfl rfl rfl ?_
  · dsimp only
    rw [hlists]
    exact h.queued
  · dsimp only
    rw [hlists]
    exact h.dead
  · have hsame : Sys.accounts { s.setWorker w next with redis } = s.accounts := by
      unfold Sys.accounts Sys.setWorker
      dsimp only
      rw [hlists, hand_of_held hworker hheld]
    rw [hsame]
    exact .idle

/-- **A worker takes the first job.** -/
theorem inv_dequeue (h : Inv s) {w : ω} (hworker : s.workers w = .waiting) {job : JobData}
    {rest : List JobData} (hlist : s.redis.lists (queueKey taskType) = job :: rest) :
    Inv { s.setWorker w (.starting job) with
      redis := { s.redis with lists := Function.update s.redis.lists (queueKey taskType) rest } } := by
  have hproper : ∀ job' ∈ job :: rest, Proper job' := hlist ▸ h.queued
  refine h.of_worker rfl ?_ ?_ ?_ (by simp) rfl rfl rfl ?_
  · dsimp only
    rw [Function.update_self]
    exact fun job' hjob' => hproper job' (List.mem_cons_of_mem _ hjob')
  · dsimp only
    rw [Function.update_of_ne queueKey_ne.symm]
    exact h.dead
  · rintro stage _ ⟨⟩
    exact hproper job List.mem_cons_self
  · have hqueue : s.accounts.queue = job.message :: rest.map JobData.message :=
      congrArg (List.map JobData.message) hlist
    have hstep := Retry.Step.take w job.message (rest.map JobData.message) hqueue (held_of_eq hworker)
    convert hstep using 1
    unfold Sys.accounts Sys.setWorker
    dsimp only
    rw [Function.update_self, Function.update_of_ne queueKey_ne.symm, held_update]
    rfl

/-- **A worker begins an execution.** -/
theorem inv_execute (h : Inv s) {w : ω} {worker : Worker} {job : JobData}
    (hworker : s.workers w = worker) (hcarries : worker.carries = some (.taken, job)) {redis : Redis}
    (hlists : redis.lists = s.redis.lists) : Inv { s.execute w job with redis } := by
  have hproper := h.carried w .taken job (by rw [hworker, hcarries])
  refine h.of_worker rfl ?_ ?_ ?_ (by simp) rfl rfl rfl ?_
  · dsimp only
    rw [hlists]
    exact h.queued
  · dsimp only
    rw [hlists]
    exact h.dead
  · rintro stage _ ⟨⟩
    exact hproper
  · have hhand : s.accounts.hand w = some (.taken, job.message) := by
      rw [held_of_eq hworker, Worker.held, hcarries]
      rfl
    have hstep := Retry.Step.start w job.message hhand
    convert hstep using 1
    unfold Sys.accounts Sys.execute Sys.setWorker
    dsimp only
    rw [hlists, held_update]
    rfl

/-- What `requeue_failed` makes of a job: one attempt more, in the list of its type or dead. -/
theorem requeueFailed_spec {job : JobData} (hproper : Proper job) (result : JobResult) :
    Proper (requeueFailed job result).2 ∧
      (requeueFailed job result).2.message =
        { job.message with attempts := job.message.attempts + 1 } ∧
      (requeueFailed job result).1 =
        if (requeueFailed job result).2.attempts.getD 0 ≤
            (requeueFailed job result).2.max_retries.getD 3 then queueKey taskType
        else deadLetterKey := by
  obtain ⟨htype, -⟩ := hproper
  unfold requeueFailed
  dsimp only
  by_cases hleft : job.attempts.getD 0 + 1 ≤ job.max_retries.getD 3
  · rw [if_pos hleft]
    exact ⟨⟨htype, rfl⟩, rfl, (congrArg queueKey htype).trans (if_pos hleft).symm⟩
  · rw [if_neg hleft]
    exact ⟨⟨htype, rfl⟩, rfl, (if_neg hleft).symm⟩

/-- **An execution fails.** -/
theorem inv_fail (h : Inv s) {w : ω} {job : JobData} (hworker : s.workers w = .processing job)
    (result : JobResult) :
    Inv { s.setWorker w
        (.requeueing job (requeueFailed job result).1 (requeueFailed job result).2 result) with
      failures := Function.update s.failures job.id (s.failures job.id + 1) } := by
  obtain ⟨hproper, hmessage, hkey⟩ :=
    requeueFailed_spec (h.carried w .running job (by rw [hworker]; rfl)) result
  refine h.of_worker rfl h.queued h.dead ?_ ?_ rfl rfl rfl ?_
  · rintro stage _ ⟨⟩
    exact hproper
  · rintro _ _ _ _ ⟨⟩
    exact hkey
  · have hstep := Retry.Step.fail w job.message (held_of_eq hworker)
    rw [← hmessage] at hstep
    convert hstep using 1
    unfold Sys.accounts Sys.setWorker
    dsimp only
    rw [held_update]
    rfl

/-- **An execution does not fail.** -/
theorem inv_succeed (h : Inv s) {w : ω} {job : JobData} (hworker : s.workers w = .processing job)
    (result : JobResult) :
    Inv { s.setWorker w (.completing job result) with finished := job.id :: s.finished } := by
  refine h.of_worker rfl h.queued h.dead ?_ (by simp) rfl rfl rfl ?_
  · rintro stage job' ⟨⟩
  · have hstep := Retry.Step.succeed w job.message (held_of_eq hworker)
    convert hstep using 1
    unfold Sys.accounts Sys.setWorker
    dsimp only
    rw [held_update]
    rfl

/-- **A job that failed is put back**, or among the dead letters. -/
theorem inv_requeue (h : Inv s) {w : ω} {job updated : JobData} {key : String} {result : JobResult}
    (hworker : s.workers w = .requeueing job key updated result) :
    Inv { s.setWorker w (.recording job updated result) with redis := s.redis.rpush key updated } := by
  have hproper := h.carried w .failed updated (by rw [hworker]; rfl)
  have hkey := h.requeueing w job key updated result hworker
  have hboth : ∀ {key' : String}, (∀ job' ∈ s.redis.lists key', Proper job') →
      ∀ job' ∈ (s.redis.rpush key updated).lists key', Proper job' := by
    intro key' hold job' hjob'
    unfold Redis.rpush at hjob'
    dsimp only at hjob'
    by_cases heq : key' = key
    · rw [heq, Function.update_self] at hjob'
      rcases List.mem_append.1 hjob' with hjob' | hjob'
      · exact hold job' (heq ▸ hjob')
      · rw [List.mem_singleton.1 hjob']
        exact hproper
    · rw [Function.update_of_ne heq] at hjob'
      exact hold job' hjob'
  refine h.of_worker rfl (hboth h.queued) (hboth h.dead) ?_ (by simp) rfl rfl rfl ?_
  · rintro stage job' ⟨⟩
  · by_cases hleft : updated.attempts.getD 0 ≤ updated.max_retries.getD 3
    · rw [if_pos hleft] at hkey
      subst hkey
      have hstep := Retry.Step.retry w updated.message (held_of_eq hworker) hleft
      convert hstep using 1
      unfold Sys.accounts Sys.setWorker Redis.rpush
      dsimp only
      rw [Function.update_self, Function.update_of_ne queueKey_ne.symm, held_update, List.map_append]
      rfl
    · rw [if_neg hleft] at hkey
      subst hkey
      have hstep := Retry.Step.bury w updated.message (held_of_eq hworker) hleft
      convert hstep using 1
      unfold Sys.accounts Sys.setWorker Redis.rpush
      dsimp only
      rw [Function.update_self, Function.update_of_ne queueKey_ne, held_update, List.map_append]
      rfl

/-- **What a worker does next keeps the accounts.** -/
theorem inv_work (h : Inv s) (w : ω) (result : JobResult) (now : String) :
    Inv (s.work w result now) := by
  unfold Sys.work
  cases hworker : s.workers w with
  | waiting =>
      dsimp only
      split
      · exact h
      · rename_i job rest hlist
        exact inv_dequeue h hworker hlist
  | starting job =>
      dsimp only
      split
      · exact inv_execute h hworker rfl rfl
      · rename_i record _
        refine h.of_same hworker
          (.marking job { record with status := "running", started_at := some now }) rfl ?_ (by simp)
          s.redis rfl
        rintro stage _ ⟨⟩
        exact h.carried w .taken job (by rw [hworker]; rfl)
  | marking job record => exact inv_execute h hworker rfl rfl
  | processing job =>
      dsimp only
      split_ifs
      · exact inv_fail h hworker result
      · exact inv_succeed h hworker result
  | requeueing job key updated result' => exact inv_requeue h hworker
  | recording job updated result' =>
      exact h.of_same hworker (.publishing job result') rfl (by simp [Worker.carries]) (by simp) _ rfl
  | completing job result' =>
      dsimp only
      split
      · exact h.of_same hworker (.publishing job result') rfl (by simp [Worker.carries]) (by simp)
          s.redis rfl
      · rename_i record _
        exact h.of_same hworker
          (.storing job result'
            { record with
              status := result'.status
              result := some result'
              completed_at := some now })
          rfl (by simp [Worker.carries]) (by simp) s.redis rfl
  | storing job result' record =>
      exact h.of_same hworker (.publishing job result') rfl (by simp [Worker.carries]) (by simp) _ rfl
  | publishing job result' =>
      exact h.of_same hworker .waiting rfl (by simp [Worker.carries]) (by simp) _ rfl

/-- What a producer of another job goes on with. -/
theorem pushing_update [DecidableEq π] {producers : π → Producer} {p q : π} {next : Producer}
    {job : JobData} (h : Function.update producers p next q = .pushing job) :
    q = p ∧ next = .pushing job ∨ q ≠ p ∧ producers q = .pushing job := by
  by_cases hq : q = p
  · subst hq
    rw [Function.update_self] at h
    exact .inl ⟨rfl, h⟩
  · rw [Function.update_of_ne hq] at h
    exact .inr ⟨hq, h⟩

omit [DecidableEq ω] in
/-- **An id is drawn** for a job that will be pushed. -/
theorem inv_enqueue [DecidableEq π] (h : Inv s) {p : π} {job : JobData} (hnew : job.id ∉ s.issued)
    (hproper : Proper job) (hattempts : job.attempts = some 0) :
    Inv { s.setProducer p (.pushing job) with issued := job.id :: s.issued } where
  queued := h.queued
  dead := h.dead
  carried := h.carried
  requeueing := h.requeueing
  pushing q job' hq := by
    rcases pushing_update hq with ⟨rfl, hjob⟩ | ⟨-, hold⟩
    · obtain rfl := Producer.pushing.inj hjob
      exact ⟨hproper, hattempts, List.mem_cons_self, fun hmem => hnew (h.issued _ hmem)⟩
    · obtain ⟨hproper', hattempts', hissued, henqueued⟩ := h.pushing q job' hold
      exact ⟨hproper', hattempts', List.mem_cons_of_mem _ hissued, henqueued⟩
  apart q q' job₁ job₂ hq hq' heq := by
    rcases pushing_update hq with ⟨rfl, hjob⟩ | ⟨hne, hold⟩
    · rcases pushing_update hq' with ⟨rfl, -⟩ | ⟨-, hold'⟩
      · rfl
      · obtain rfl := Producer.pushing.inj hjob
        exact absurd (heq ▸ (h.pushing q' job₂ hold').2.2.1) hnew
    · rcases pushing_update hq' with ⟨rfl, hjob⟩ | ⟨-, hold'⟩
      · obtain rfl := Producer.pushing.inj hjob
        exact absurd (heq ▸ (h.pushing q job₁ hold).2.2.1) hnew
      · exact h.apart q q' job₁ job₂ hold hold' heq
  issued id hid := List.mem_cons_of_mem _ (h.issued id hid)
  accounted := h.accounted

/-- **A job is pushed.** -/
theorem inv_push [DecidableEq π] (h : Inv s) {p : π} {job : JobData}
    (hpushing : s.producers p = .pushing job) :
    Inv { s.setProducer p (.recording job) with
      redis := s.redis.rpush (queueKey job.type) job
      enqueued := job.id :: s.enqueued
      budget := Function.update s.budget job.id (job.max_retries.getD 3) } := by
  obtain ⟨hproper, hattempts, hissued, hnew⟩ := h.pushing p job hpushing
  have hlist : (s.redis.rpush (queueKey job.type) job).lists (queueKey taskType) =
      s.redis.lists (queueKey taskType) ++ [job] := by
    unfold Redis.rpush
    dsimp only
    rw [hproper.1, Function.update_self]
  have hdead : (s.redis.rpush (queueKey job.type) job).lists deadLetterKey =
      s.redis.lists deadLetterKey := by
    unfold Redis.rpush
    dsimp only
    rw [hproper.1, Function.update_of_ne queueKey_ne.symm]
  constructor
  · dsimp only
    rw [hlist]
    intro job' hjob'
    rcases List.mem_append.1 hjob' with hjob' | hjob'
    · exact h.queued job' hjob'
    · rw [List.mem_singleton.1 hjob']
      exact hproper
  · dsimp only
    rw [hdead]
    exact h.dead
  · exact h.carried
  · exact h.requeueing
  · intro q job' hq
    rcases pushing_update hq with ⟨-, hjob⟩ | ⟨hne, hold⟩
    · cases hjob
    · obtain ⟨hproper', hattempts', hissued', henqueued⟩ := h.pushing q job' hold
      refine ⟨hproper', hattempts', hissued', fun hmem => ?_⟩
      rcases List.mem_cons.1 hmem with heq | hmem
      · exact hne (h.apart q p job' job hold hpushing heq)
      · exact henqueued hmem
  · intro q q' job₁ job₂ hq hq' heq
    rcases pushing_update hq with ⟨-, hjob⟩ | ⟨-, hold⟩
    · cases hjob
    · rcases pushing_update hq' with ⟨-, hjob⟩ | ⟨-, hold'⟩
      · cases hjob
      · exact h.apart q q' job₁ job₂ hold hold' heq
  · intro id hid
    rcases List.mem_cons.1 hid with rfl | hid
    · exact hissued
    · exact h.issued id hid
  · have hattempts' : job.message.attempts = 0 := by
      unfold JobData.message
      rw [hattempts]
      rfl
    have hstep := Retry.Step.push (s := s.accounts) job.message hnew hattempts'
    convert h.accounted.step hstep using 1
    unfold Sys.accounts Sys.setProducer
    dsimp only
    rw [hlist, hdead, List.map_append]
    rfl

omit [DecidableEq ω] in
/-- Producers that push nothing new, and records, leave the accounts. -/
theorem Inv.of_records (h : Inv s) {producers : π → Producer} {redis : Redis}
    (hproducers : ∀ p job, producers p = .pushing job → s.producers p = .pushing job)
    (hlists : redis.lists = s.redis.lists) : Inv { s with producers, redis } := by
  constructor
  · dsimp only
    rw [hlists]
    exact h.queued
  · dsimp only
    rw [hlists]
    exact h.dead
  · exact h.carried
  · exact h.requeueing
  · exact fun p job hp => h.pushing p job (hproducers p job hp)
  · exact fun p q job job' hp hq => h.apart p q job job' (hproducers p job hp) (hproducers q job' hq)
  · exact h.issued
  · have hsame : Sys.accounts { s with producers, redis } = s.accounts := by
      unfold Sys.accounts
      dsimp only
      rw [hlists]
    rw [hsame]
    exact h.accounted

/-- **A step keeps the accounts**, whoever takes it. -/
theorem inv_step [DecidableEq π] (h : Inv s) (a : Act π ω) : Inv (step s a) := by
  unfold step
  cases a with
  | enqueue p payload max_retries max_depth job_id now =>
      dsimp only
      split
      · split_ifs with hissued
        · exact h
        · split
          · exact h
          · rename_i job hjob
            unfold enqueue at hjob
            dsimp only at hjob
            split_ifs at hjob
            obtain rfl := Except.ok.inj hjob
            exact inv_enqueue h hissued ⟨rfl, rfl⟩ rfl
      · exact h
  | push p =>
      dsimp only
      split
      · rename_i job hpushing
        exact inv_push h hpushing
      · exact h
  | record p =>
      dsimp only
      split
      · refine h.of_records (fun q job hq => ?_) rfl
        rcases pushing_update hq with ⟨-, hjob⟩ | ⟨-, hold⟩
        · cases hjob
        · exact hold
      · exact h
  | work w result now => exact inv_work h w result now
  | expire job_id => exact h.of_records (fun _ _ hp => hp) rfl

omit [DecidableEq ω] in
theorem inv_initial : Inv ({} : Sys π ω) := by
  constructor
  · simp
  · simp
  · simp [Worker.carries]
  · simp
  · simp
  · simp
  · simp
  · constructor
    · intro id
      simp [Retry.State.places, Sys.accounts, Worker.held, Worker.carries]
    · exact fun _ _ => ⟨rfl, rfl⟩
    · intro p m hp
      cases p with
      | queued => cases hp
      | hand w stage => cases hp
      | dead => cases hp
    · simp [Sys.accounts]

/-! ### Job accounting -/

/-- How often a list has a job. -/
def countOf (job_id : Uuid) (jobs : List JobData) : ℕ := (jobs.map JobData.id).count job_id

/-- A worker has a job in its hands. -/
def Worker.has (job_id : Uuid) (worker : Worker) : Bool :=
  worker.carries.any fun (_, job) => decide (job.id = job_id)

/-- Every job that was enqueued is accounted for. -/
structure JobsAccounted (s : Sys π ω) : Prop where
  /-- It is in the queue, in a worker's hands, finished or a dead letter, and in one of these. -/
  place : ∀ job_id ∈ s.enqueued,
    countOf job_id (s.redis.lists (queueKey taskType)) +
      (Finset.univ.filter fun w => (s.workers w).has job_id).card + s.finished.count job_id +
      countOf job_id (s.redis.lists deadLetterKey) = 1
  executions_le : ∀ job_id, s.executions job_id ≤ (s.budget job_id).toNat + 1
  /-- It is a dead letter exactly if every attempt there is has failed, and it was put down. -/
  dead_iff : ∀ job_id ∈ s.enqueued, countOf job_id (s.redis.lists deadLetterKey) = 1 ↔
    s.executions job_id = (s.budget job_id).toNat + 1 ∧
      s.failures job_id = (s.budget job_id).toNat + 1 ∧ ∀ w, (s.workers w).has job_id = false
  attempts : ∀ job, job ∈ s.redis.lists (queueKey taskType) ∨
    (∃ w stage, (s.workers w).carries = some (stage, job)) ∨ job ∈ s.redis.lists deadLetterKey →
      job.attempts = some (s.failures job.id : ℤ)

omit [DecidableEq ω] [Fintype ω] in
theorem idCount_message (job_id : Uuid) (jobs : List JobData) :
    Retry.idCount (jobs.map JobData.message) job_id = countOf job_id jobs := by
  unfold Retry.idCount countOf
  rw [List.map_map]
  rfl

omit [DecidableEq ω] [Fintype ω] in
theorem handCount_held (job_id : Uuid) (worker : Worker) :
    Retry.handCount job_id worker.held = if worker.has job_id then 1 else 0 := by
  unfold Worker.held Worker.has
  cases worker.carries with
  | none => rfl
  | some held =>
      obtain ⟨stage, job⟩ := held
      rw [Option.map_some, Retry.handCount_some, Option.any_some]
      exact if_congr (decide_eq_true_iff).symm rfl rfl

omit [DecidableEq ω] in
theorem Inv.attempts (h : Inv s) {p : Retry.Place ω} {job : JobData} (hproper : Proper job)
    (hp : s.accounts.At p job.message) : job.attempts = some (s.failures job.id : ℤ) := by
  have hfits : job.message.attempts = (s.failures job.id : ℤ) := (h.accounted.fits p job.message hp).1
  obtain ⟨attempts, hattempts⟩ := Option.isSome_iff_exists.1 hproper.2
  unfold JobData.message at hfits
  rw [hattempts] at hfits ⊢
  exact congrArg some hfits

omit [DecidableEq ω] in
theorem Inv.jobsAccounted (h : Inv s) : JobsAccounted s := by
  have hdead : Retry.idCount s.accounts.dead = fun job_id =>
      countOf job_id (s.redis.lists deadLetterKey) := funext fun job_id => idCount_message job_id _
  constructor
  · intro job_id hid
    have hplaces : s.accounts.places job_id = 1 := (h.accounted.places job_id).trans (if_pos hid)
    unfold Retry.State.places at hplaces
    rw [hdead] at hplaces
    have hqueue : Retry.idCount s.accounts.queue job_id =
        countOf job_id (s.redis.lists (queueKey taskType)) := idCount_message job_id _
    have hhands : ∑ w, Retry.handCount job_id (s.accounts.hand w) =
        (Finset.univ.filter fun w => (s.workers w).has job_id).card := by
      rw [Finset.card_filter]
      exact Finset.sum_congr rfl fun w _ => handCount_held job_id (s.workers w)
    rw [hqueue, hhands] at hplaces
    exact hplaces
  · exact fun job_id => h.accounted.executions_le job_id
  · intro job_id hid
    have hiff := h.accounted.dead_iff hid
    rw [hdead] at hiff
    have hhand : ∀ w, Retry.handCount job_id (s.accounts.hand w) = 0 ↔
        (s.workers w).has job_id = false := fun w => by
      refine (iff_of_eq (congrArg (· = 0) (handCount_held job_id (s.workers w)))).trans ?_
      cases (s.workers w).has job_id <;> simp
    simp only [hhand] at hiff
    exact hiff
  · rintro job (hjob | ⟨w, stage, hcarries⟩ | hjob)
    · exact h.attempts (p := .queued) (h.queued job hjob) (List.mem_map_of_mem hjob)
    · refine h.attempts (p := .hand w stage) (h.carried w stage job hcarries) ?_
      exact congrArg (Option.map fun (stage, job) => (stage, JobData.message job)) hcarries
    · exact h.attempts (p := .dead) (h.dead job hjob) (List.mem_map_of_mem hjob)

/-- **Job accounting.**  After any steps of any producers and workers, whatever comes of the
executions and whatever records expire, every job that was enqueued is in one place, has been
executed at most once more than it has retries, is a dead letter exactly if all of these failed, and
says of itself how often it has failed. -/
theorem job_accounting [DecidableEq π] (as : List (Act π ω)) : JobsAccounted (run step {} as) :=
  (run_induction inv_initial (fun _ a h => inv_step h a) as).jobsAccounted

end Queue
end Signal
end SentinelMesh
