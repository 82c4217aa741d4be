/-
# Acoustic synthesis: the system

Signals that arrive, and any number of synthesis workers on one set of tables.  A worker goes through
its tick one statement at a time, and others may come between: `expire` and `fetch` are the two
statements it begins with, `start` is when it looks at the clock, and then each group is corroborated,
confirmed and written by a statement each, as far as its score allows.  `halt` is an error or a crash,
which ends the tick anywhere.
-/

import SentinelMesh.Acoustic.Synthesis
import SentinelMesh.Lib.Run
import Mathlib.Logic.Function.Basic

namespace SentinelMesh
namespace Acoustic

open Lib

/-- Where a worker is in its tick.  A cluster is between its first two statements when it is
corroborated, and between its last two when it is confirmed. -/
inductive Phase
  | idle
  | expired
  | fetched (groups : List (List SignalRow))
  | processing (now : Timestamp) (groups : List (List SignalRow))
  | corroborated (c : Cluster) (groups : List (List SignalRow))
  | confirmed (c : Cluster) (groups : List (List SignalRow))
  deriving DecidableEq

/-- The cluster a worker is at. -/
def Phase.cluster : Phase → Option Cluster
  | .corroborated c _ | .confirmed c _ => some c
  | _ => none

/-- The state of the acoustic gateway. -/
structure Sys where
  now : Timestamp
  db : Db := {}
  workers : ℕ → Phase := fun _ => .idle

/-- What can happen next. -/
inductive Act
  | wait (d : ℕ)
  /-- A signal arrives. -/
  | submit (id : Uuid) (signal : Signal)
  | expire (w : ℕ)
  | fetch (w : ℕ) (groups : List (List SignalRow))
  | start (w : ℕ)
  /-- The next group is assessed, and corroborated if it is strong enough. -/
  | corroborate (w : ℕ) (orders : List Pubkey × List Pubkey)
  | confirm (w : ℕ)
  | upsert (w : ℕ) (id : Uuid)
  | finish (w : ℕ)
  | halt (w : ℕ)

/-- A worker moves on. -/
def Sys.move (s : Sys) (w : ℕ) (p : Phase) : Sys :=
  { s with workers := Function.update s.workers w p }

/-- The tables and a worker move on. -/
def Sys.put (s : Sys) (w : ℕ) (db : Db) (p : Phase) : Sys := { s with db }.move w p

@[simp] theorem put_db (s : Sys) (w : ℕ) (db : Db) (p : Phase) : (s.put w db p).db = db := rfl

@[simp] theorem put_now (s : Sys) (w : ℕ) (db : Db) (p : Phase) : (s.put w db p).now = s.now := rfl

@[simp] theorem put_workers (s : Sys) (w v : ℕ) (db : Db) (p : Phase) :
    (s.put w db p).workers v = if v = w then p else s.workers v :=
  Function.update_apply s.workers w p v

/-- The insertion of `submit_signal`: what the table fills in is not of the client. -/
def Db.submit (db : Db) (now : Timestamp) (id : Uuid) (signal : Signal) : Db :=
  { db with
    signals := db.signals.insert id { signal with received_at := now, trust_state := .pending } }

/-- The next state; an action that is not possible changes nothing. -/
def step (confirm_enabled : Bool) (s : Sys) : Act → Sys
  | .wait d => { s with now := s.now + d }
  | .submit id signal => { s with db := s.db.submit s.now id signal }
  | .expire w =>
    match s.workers w with
    | .idle => s.put w (s.db.expireStaleSignals s.now) .expired
    | _ => s
  | .fetch w groups =>
    match s.workers w with
    | .expired => if Fetched s.db s.now groups then s.put w s.db (.fetched groups) else s
    | _ => s
  | .start w =>
    match s.workers w with
    | .fetched groups => s.put w s.db (.processing s.now groups)
    | _ => s
  | .corroborate w orders =>
    match s.workers w with
    | .processing now (group :: groups) =>
      match assess orders group now with
      | none => s.put w s.db (.processing now groups)
      | some c => s.put w (s.db.corroborate c)
          (if c.confirms confirm_enabled then .corroborated c groups else .processing now groups)
    | _ => s
  | .confirm w =>
    match s.workers w with
    | .corroborated c groups => s.put w (s.db.confirm c) (.confirmed c groups)
    | _ => s
  | .upsert w id =>
    match s.workers w with
    | .confirmed c groups =>
      match c.firstSignal with
      | none => s
      | some first => s.put w (s.db.upsertPublicEvent c first.1 id) (.processing c.now groups)
    | _ => s
  | .finish w =>
    match s.workers w with
    | .processing _ [] => s.put w s.db .idle
    | _ => s
  | .halt w => s.put w s.db .idle

/-- The start: empty tables, and no worker in a tick. -/
def Sys.init (start : Timestamp) : Sys := { now := start }

/-- The phase after the first statement on a cluster. -/
def Cluster.next (confirm_enabled : Bool) (c : Cluster) (now : Timestamp)
    (groups : List (List SignalRow)) : Phase :=
  if c.confirms confirm_enabled then .corroborated c groups else .processing now groups

/-- **Everything an action can do.** -/
inductive Step (confirm_enabled : Bool) (s : Sys) : Act → Sys → Prop
  | refused (a : Act) : Step confirm_enabled s a s
  | waited (d : ℕ) : Step confirm_enabled s (.wait d) { s with now := s.now + d }
  | submitted (id : Uuid) (signal : Signal) :
      Step confirm_enabled s (.submit id signal) { s with db := s.db.submit s.now id signal }
  | expired (w : ℕ) (idle : s.workers w = .idle) :
      Step confirm_enabled s (.expire w) (s.put w (s.db.expireStaleSignals s.now) .expired)
  | fetched (w : ℕ) (groups : List (List SignalRow)) (phase : s.workers w = .expired)
      (answer : Fetched s.db s.now groups) :
      Step confirm_enabled s (.fetch w groups) (s.put w s.db (.fetched groups))
  | started (w : ℕ) (groups : List (List SignalRow)) (phase : s.workers w = .fetched groups) :
      Step confirm_enabled s (.start w) (s.put w s.db (.processing s.now groups))
  | skipped (w : ℕ) (orders : List Pubkey × List Pubkey) (now : Timestamp) (group : List SignalRow)
      (groups : List (List SignalRow)) (phase : s.workers w = .processing now (group :: groups)) :
      Step confirm_enabled s (.corroborate w orders) (s.put w s.db (.processing now groups))
  | corroborated (w : ℕ) (orders : List Pubkey × List Pubkey) (now : Timestamp)
      (group : List SignalRow) (groups : List (List SignalRow))
      (phase : s.workers w = .processing now (group :: groups)) (c : Cluster)
      (assessed : assess orders group now = some c) :
      Step confirm_enabled s (.corroborate w orders)
        (s.put w (s.db.corroborate c) (c.next confirm_enabled now groups))
  | confirmed (w : ℕ) (c : Cluster) (groups : List (List SignalRow))
      (phase : s.workers w = .corroborated c groups) :
      Step confirm_enabled s (.confirm w) (s.put w (s.db.confirm c) (.confirmed c groups))
  | upserted (w : ℕ) (id : Uuid) (c : Cluster) (groups : List (List SignalRow))
      (phase : s.workers w = .confirmed c groups) (first : SignalRow)
      (earliest : c.firstSignal = some first) :
      Step confirm_enabled s (.upsert w id)
        (s.put w (s.db.upsertPublicEvent c first.1 id) (.processing c.now groups))
  | finished (w : ℕ) (now : Timestamp) (phase : s.workers w = .processing now []) :
      Step confirm_enabled s (.finish w) (s.put w s.db .idle)
  | halted (w : ℕ) : Step confirm_enabled s (.halt w) (s.put w s.db .idle)

theorem step_spec (confirm_enabled : Bool) (s : Sys) (a : Act) :
    Step confirm_enabled s a (step confirm_enabled s a) := by
  cases a with
  | wait d => exact .waited d
  | submit id signal => exact .submitted id signal
  | expire w =>
      rw [step]
      split
      · rename_i h
        exact .expired w h
      · exact .refused _
  | fetch w groups =>
      rw [step]
      split
      · rename_i h
        split_ifs with hanswer
        · exact .fetched w groups h hanswer
        · exact .refused _
      · exact .refused _
  | start w =>
      rw [step]
      split
      · rename_i groups h
        exact .started w groups h
      · exact .refused _
  | corroborate w orders =>
      rw [step]
      split
      · rename_i now group groups h
        split
        · exact .skipped w orders now group groups h
        · rename_i c hc
          exact .corroborated w orders now group groups h c hc
      · exact .refused _
  | confirm w =>
      rw [step]
      split
      · rename_i c groups h
        exact .confirmed w c groups h
      · exact .refused _
  | upsert w id =>
      rw [step]
      split
      · rename_i c groups h
        split
        · exact .refused _
        · rename_i first hfirst
          exact .upserted w id c groups h first hfirst
      · exact .refused _
  | finish w =>
      rw [step]
      split
      · rename_i now h
        exact .finished w now h
      · exact .refused _
  | halt w => exact .halted w

/-- The worker an action is of. -/
def Act.worker : Act → Option ℕ
  | .expire w | .fetch w _ | .start w | .corroborate w _ | .confirm w | .upsert w _ | .finish w
  | .halt w => some w
  | .wait _ | .submit _ _ => none

/-- An action moves no other worker. -/
theorem workers_step (confirm_enabled : Bool) {s : Sys} {a : Act} {v : ℕ} (h : a.worker ≠ some v) :
    (step confirm_enabled s a).workers v = s.workers v := by
  have hs := step_spec confirm_enabled s a
  have hput : ∀ w db p, some w ≠ some v → (s.put w db p).workers v = s.workers v := by
    intro w db p hne
    rw [put_workers, if_neg]
    rintro rfl
    exact hne rfl
  generalize step confirm_enabled s a = s' at hs ⊢
  cases hs with
  | refused | waited | submitted => rfl
  | expired w | fetched w | started w | skipped w | corroborated w | confirmed w | upserted w
  | finished w | halted w => exact hput w _ _ h

theorem workers_run (confirm_enabled : Bool) {s : Sys} {as : List Act} {v : ℕ}
    (h : ∀ a ∈ as, a.worker ≠ some v) :
    (run (step confirm_enabled) s as).workers v = s.workers v := by
  induction as generalizing s with
  | nil => rfl
  | cons a as ih =>
      rw [List.forall_mem_cons] at h
      rw [run_cons, ih h.2, workers_step confirm_enabled h.1]

end Acoustic
end SentinelMesh
