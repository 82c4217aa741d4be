/-
# Outboxes with leases

A table of deliveries that any number of workers share.  A worker claims a batch: the rows
that are due, and those another worker claimed longer than the lease ago.  It
delivers what it was given and marks each row, sent or failed, with an `UPDATE`
that names itself as the owner; a failure makes the row due again after a delay,
until the attempts are used up.  A worker may crash between any two statements, the
answer to a claim may be lost, and a mark may never reach the table.

A worker's *flight* is a row it was handed and has not finished with, also when its
lease on it is over.  A worker does not claim while it has flights.

`rowStep` says once what a step can do to a row.  From it follow, for every run: a row
has an owner exactly while it is processed, and is dead exactly when its attempts are used up
(`Inv.ok`); the attempts are the failures recorded (`attempts_eq_failures`); a row that is
sent or dead keeps its value (`find?_run_of_terminal`); no two workers are within their
leases on one row (`Inv.exclusive`); and a worker that lost a row has no effect on it
(`lost_of_claim`, `lost_run`, `rows_mark_of_lost`).
-/

import Mathlib.Algebra.Order.Group.Int
import Mathlib.Data.List.Sort
import SentinelMesh.Lib.Run
import SentinelMesh.Lib.Table

namespace Lib
namespace Outbox

/-- The `status` column. -/
inductive Status
  | pending
  | processing
  | sent
  | dead
  deriving DecidableEq, Repr

/-- A row: what is to be delivered, and the columns of the protocol. -/
structure Row (α ω : Type*) where
  content : α
  status : Status
  attempts : ℕ
  available_at : ℤ
  locked_at : Option ℤ
  worker_id : Option ω
  last_error : Option String
  created_at : ℤ
  updated_at : ℤ
  sent_at : Option ℤ
  deriving DecidableEq, Repr

/-- The constants of an outbox.  Instants are whole numbers of one unit. -/
structure Config where
  batchSize : ℕ
  maxAttempts : ℕ
  maxAttempts_pos : 0 < maxAttempts
  /-- How long a claim keeps other workers away. -/
  lease : ℤ
  /-- How long a row rests after the given number of failures. -/
  backoff : ℕ → ℤ
  /-- How many characters of an error are kept. -/
  errorLength : ℕ

variable {ι α ω : Type*}

/-- A row as it is inserted, with the defaults of its columns. -/
def Row.new (now : ℤ) (content : α) : Row α ω where
  content := content
  status := .pending
  attempts := 0
  available_at := now
  locked_at := none
  worker_id := none
  last_error := none
  created_at := now
  updated_at := now
  sent_at := none

/-- The row is due, or the lease on it is over. -/
def Row.claimable (cfg : Config) (now : ℤ) (row : Row α ω) : Bool :=
  (row.status == .pending && decide (row.available_at ≤ now)) ||
    (row.status == .processing && row.locked_at.any fun t => decide (t < now - cfg.lease))

/-- The `SET` of a claim. -/
def Row.claimed (now : ℤ) (w : ω) (row : Row α ω) : Row α ω :=
  { row with status := .processing, worker_id := some w, locked_at := some now, updated_at := now }

/-- The `SET` of a mark after a delivery. -/
def Row.markedSent (now : ℤ) (row : Row α ω) : Row α ω :=
  { row with
    status := .sent, sent_at := some now, locked_at := none, worker_id := none, updated_at := now }

/-- The `SET` of a mark after a failure. -/
def Row.markedFailed (cfg : Config) (now : ℤ) (error : String) (row : Row α ω) : Row α ω :=
  { row with
    attempts := row.attempts + 1
    status := if row.attempts + 1 ≥ cfg.maxAttempts then .dead else .pending
    available_at := now + cfg.backoff (row.attempts + 1)
    last_error := some (String.ofList (error.toList.take cfg.errorLength))
    locked_at := none
    worker_id := none
    updated_at := now }

/-- The `ORDER BY` of a claim. -/
def Row.before (r r' : Row α ω) : Prop :=
  r.available_at < r'.available_at ∨ r.available_at = r'.available_at ∧ r.created_at ≤ r'.created_at

instance Row.decidableBefore (r r' : Row α ω) : Decidable (r.before r') := by
  unfold Row.before
  infer_instance

section Rows

/-- What every row of an outbox satisfies. -/
structure Row.Ok (cfg : Config) (row : Row α ω) : Prop where
  owned : row.worker_id.isSome = true ↔ row.status = .processing
  locked : row.locked_at.isSome = true ↔ row.status = .processing
  bounded : row.attempts ≤ cfg.maxAttempts
  dead : row.status = .dead ↔ row.attempts = cfg.maxAttempts

/-- The row is finished with. -/
def Row.Terminal (row : Row α ω) : Prop := row.status = .sent ∨ row.status = .dead

/-- The row after a mark that found its worker the owner. -/
def Row.marked (cfg : Config) (now : ℤ) (row : Row α ω) : Except String Unit → Row α ω
  | .ok () => row.markedSent now
  | .error e => row.markedFailed cfg now e

variable {cfg : Config} {row : Row α ω} {now : ℤ} {w : ω}

/-- A row that can be claimed is pending, or its lease is over. -/
theorem Row.claimable_cases (h : row.claimable cfg now = true) :
    row.status = .pending ∨
      row.status = .processing ∧ ∃ t, row.locked_at = some t ∧ t < now - cfg.lease := by
  unfold Row.claimable at h
  rcases Bool.or_eq_true_iff.1 h with h | h
  · exact Or.inl (by simpa using (Bool.and_eq_true_iff.1 h).1)
  · obtain ⟨hs, hl⟩ := Bool.and_eq_true_iff.1 h
    obtain ⟨t, ht, hlt⟩ := (Option.any_eq_true _ _).1 hl
    exact Or.inr ⟨by simpa using hs, t, ht, by simpa using hlt⟩

theorem Row.ok_new (now : ℤ) (content : α) : (Row.new now content : Row α ω).Ok cfg where
  owned := by simp [Row.new]
  locked := by simp [Row.new]
  bounded := Nat.zero_le _
  dead := by
    have h := cfg.maxAttempts_pos
    simp only [Row.new, reduceCtorEq, false_iff]
    omega

theorem Row.Ok.claimed (h : row.Ok cfg) (hc : row.claimable cfg now = true) (now' : ℤ) (w : ω) :
    (row.claimed now' w).Ok cfg where
  owned := by simp [Row.claimed]
  locked := by simp [Row.claimed]
  bounded := h.bounded
  dead := by
    have hlive : row.status ≠ .dead := by
      rcases Row.claimable_cases hc with hs | ⟨hs, _⟩ <;> simp [hs]
    simpa [Row.claimed] using fun he => hlive (h.dead.2 he)

/-- A row that has an owner has attempts left. -/
theorem Row.Ok.attempts_lt (h : row.Ok cfg) (hw : row.worker_id = some w) :
    row.attempts < cfg.maxAttempts := by
  have hs : row.status = .processing := h.owned.1 (by simp [hw])
  have hne : row.attempts ≠ cfg.maxAttempts := fun he => by
    simp [h.dead.2 he] at hs
  have hle := h.bounded
  omega

theorem Row.Ok.marked (h : row.Ok cfg) (hw : row.worker_id = some w) (now : ℤ)
    (result : Except String Unit) : (row.marked cfg now result).Ok cfg := by
  have hlt := h.attempts_lt hw
  cases result with
  | ok u =>
      refine ⟨?_, ?_, hlt.le, ?_⟩
      · simp [Row.marked, Row.markedSent]
      · simp [Row.marked, Row.markedSent]
      · simp only [Row.marked, Row.markedSent, reduceCtorEq, false_iff]
        omega
  | error e =>
      refine ⟨?_, ?_, ?_, ?_⟩
      · simp only [Row.marked, Row.markedFailed]
        split <;> simp
      · simp only [Row.marked, Row.markedFailed]
        split <;> simp
      · simp only [Row.marked, Row.markedFailed]
        omega
      · simp only [Row.marked, Row.markedFailed]
        split
        · simp only [true_iff]
          omega
        · simp only [reduceCtorEq, false_iff]
          omega

/-- A row that is finished with is not claimed again. -/
theorem Row.not_claimable (h : row.Terminal) : row.claimable cfg now = false := by
  rcases h with h | h <;> simp [Row.claimable, h]

theorem Row.Ok.worker_id_of_terminal (h : row.Ok cfg) (ht : row.Terminal) :
    row.worker_id = none := by
  have hs : row.status ≠ .processing := by
    rcases ht with ht | ht <;> simp [ht]
  have hn := fun hw => hs (h.owned.1 hw)
  simpa using hn

end Rows

/-! ### Statements -/

section Statements

variable [DecidableEq ι] [DecidableEq ω]

/-- The rows a claim takes: in order, without those that other statements have locked, at
most a batch. -/
def selected (cfg : Config) (now : ℤ) (skip : ι → Bool) (t : Table ι (Row α ω)) : List ι :=
  (((t.rows.filter fun r => r.2.claimable cfg now && !skip r.1).insertionSort
    fun r r' => r.2.before r'.2).take cfg.batchSize).map Prod.fst

/-- Claim: the rows selected become the worker's. -/
def claim (cfg : Config) (now : ℤ) (skip : ι → Bool) (w : ω) (t : Table ι (Row α ω)) :
    Table ι (Row α ω) :=
  t.map fun id row => if id ∈ selected cfg now skip t then row.claimed now w else row

/-- `UPDATE ... WHERE id = $1 AND worker_id = $2`. -/
def updateOwned (id : ι) (w : ω) (f : Row α ω → Row α ω) (t : Table ι (Row α ω)) :
    Table ι (Row α ω) :=
  t.modify id fun row => if row.worker_id = some w then f row else row

/-- Mark a row as sent. -/
def markSent (now : ℤ) (id : ι) (w : ω) (t : Table ι (Row α ω)) : Table ι (Row α ω) :=
  updateOwned id w (Row.markedSent now) t

/-- Mark a row as failed. -/
def markFailed (cfg : Config) (now : ℤ) (id : ι) (w : ω) (error : String)
    (t : Table ι (Row α ω)) : Table ι (Row α ω) :=
  updateOwned id w (Row.markedFailed cfg now error) t

end Statements

/-! ### The system -/

/-- A row a worker was handed and has not finished with. -/
structure Flight (ι ω : Type*) where
  worker : ω
  id : ι
  claimed_at : ℤ
  deriving DecidableEq, Repr

/-- The table and its workers.  `used` are the ids handed out, `gone` the workers that
crashed: a process that starts again has an id of its own. -/
structure System (ι α ω : Type*) where
  now : ℤ
  rows : Table ι (Row α ω)
  used : List ι
  flights : List (Flight ι ω)
  gone : List ω

/-- What can happen.  A statement's `now()` is the start of its transaction, `ago` before
it takes effect. -/
inductive Action (ι α ω : Type*)
  /-- Time passes. -/
  | tick (d : ℕ)
  /-- A row is inserted under a new id. -/
  | enqueue (id : ι) (content : α)
  /-- A row is deleted. -/
  | delete (id : ι)
  /-- A worker claims a batch; its answer may be lost. -/
  | claim (w : ω) (ago : ℕ) (skip : ι → Bool) (answered : Bool)
  /-- A worker is done with a row and marks it; the statement may be lost. -/
  | mark (w : ω) (id : ι) (result : Except String Unit) (ago : ℕ) (reached : Bool)
  /-- A worker crashes. -/
  | crash (w : ω)

/-- The empty outbox. -/
def System.init : System ι α ω where
  now := 0
  rows := Table.empty
  used := []
  flights := []
  gone := []

/-- The worker is still busy with the row. -/
def System.busy (s : System ι α ω) (w : ω) (id : ι) : Prop :=
  ∃ f ∈ s.flights, f.worker = w ∧ f.id = id

variable [DecidableEq ι] [DecidableEq ω]

instance System.decidableBusy (s : System ι α ω) (w : ω) (id : ι) : Decidable (s.busy w id) := by
  unfold System.busy
  infer_instance

/-- The statement a worker makes for a result. -/
def markAs (cfg : Config) (now : ℤ) (id : ι) (w : ω) (t : Table ι (Row α ω)) :
    Except String Unit → Table ι (Row α ω)
  | .ok () => markSent now id w t
  | .error e => markFailed cfg now id w e t

variable {κ : Type*} [DecidableEq κ]

/-- One action.  The content of a row has a unique key; a worker that crashed or is
waiting for its deliveries does not claim. -/
def step (cfg : Config) (key : α → κ) (s : System ι α ω) : Action ι α ω → System ι α ω
  | .tick d => { s with now := s.now + d }
  | .enqueue id content =>
    if id ∈ s.used ∨ ∃ r ∈ s.rows.rows, key r.2.content = key content then s
    else { s with rows := s.rows.insert id (Row.new s.now content), used := id :: s.used }
  | .delete id => { s with rows := s.rows.filter fun id' _ => decide (id' ≠ id) }
  | .claim w ago skip answered =>
    if w ∈ s.gone ∨ ∃ f ∈ s.flights, f.worker = w then s
    else
      { s with
        rows := claim cfg (s.now - ago) skip w s.rows
        flights := if answered then
            s.flights ++ (selected cfg (s.now - ago) skip s.rows).map fun id =>
              ⟨w, id, s.now - ago⟩
          else s.flights }
  | .mark w id result ago reached =>
    if s.busy w id then
      { s with
        rows := if reached then markAs cfg (s.now - ago) id w s.rows result else s.rows
        flights := s.flights.filter fun f => decide ¬ (f.worker = w ∧ f.id = id) }
    else s
  | .crash w =>
    { s with flights := s.flights.filter fun f => decide (f.worker ≠ w), gone := w :: s.gone }

/-- The action records a failure for the row: a mark after a failed delivery that
reaches the table and finds its worker the owner. -/
def isFailure (id : ι) (s : System ι α ω) : Action ι α ω → Bool
  | .mark w id' (.error _) _ true =>
    decide (id' = id) && decide (s.busy w id) &&
      (s.rows.find? id).any fun row => decide (row.worker_id = some w)
  | _ => false

/-! ### What a step can do -/

variable {cfg : Config} {now : ℤ}

theorem markAs_eq (cfg : Config) (now : ℤ) (id : ι) (w : ω) (t : Table ι (Row α ω))
    (result : Except String Unit) :
    markAs cfg now id w t result = updateOwned id w (fun row => row.marked cfg now result) t := by
  cases result <;> rfl

omit [DecidableEq ω] in
theorem claimable_of_selected {skip : ι → Bool} {t : Table ι (Row α ω)} {id : ι}
    (h : id ∈ selected cfg now skip t) :
    ∃ row, t.find? id = some row ∧ row.claimable cfg now = true := by
  unfold selected at h
  obtain ⟨r, hr, rfl⟩ := List.mem_map.1 h
  have hmem := (List.perm_insertionSort _ _).mem_iff.1 (List.mem_of_mem_take hr)
  obtain ⟨hrow, hc⟩ := List.mem_filter.1 hmem
  exact ⟨r.2, Table.find?_eq_some_iff.2 hrow, (Bool.and_eq_true_iff.1 hc).1⟩

/-- **What a step can do to a row.** -/
inductive RowStep (cfg : Config) (s : System ι α ω) (a : Action ι α ω) (id : ι)
    (post : Option (Row α ω)) : Prop
  | kept (hpost : post = s.rows.find? id) (hfail : isFailure id s a = false)
  | enqueued (content : α) (hact : a = .enqueue id content) (hused : id ∉ s.used)
      (hpre : s.rows.find? id = none) (hpost : post = some (Row.new s.now content))
  | deleted (hact : a = .delete id) (hpost : post = none)
  | claimed (row : Row α ω) (w : ω) (ago : ℕ) (skip : ι → Bool) (answered : Bool)
      (hact : a = .claim w ago skip answered) (hidle : ∀ f ∈ s.flights, f.worker ≠ w)
      (hpre : s.rows.find? id = some row) (hclaim : row.claimable cfg (s.now - ago) = true)
      (hpost : post = some (row.claimed (s.now - ago) w))
  | marked (row : Row α ω) (w : ω) (result : Except String Unit) (ago : ℕ)
      (hact : a = .mark w id result ago true) (hbusy : s.busy w id)
      (hpre : s.rows.find? id = some row) (howner : row.worker_id = some w)
      (hpost : post = some (row.marked cfg (s.now - ago) result))

theorem rowStep_enqueue (cfg : Config) (key : α → κ) (s : System ι α ω) (id' : ι) (content : α)
    (id : ι) : RowStep cfg s (.enqueue id' content) id
      ((step cfg key s (.enqueue id' content)).rows.find? id) := by
  by_cases hdup : id' ∈ s.used ∨ ∃ r ∈ s.rows.rows, key r.2.content = key content
  · exact .kept (by simp only [step, if_pos hdup]) rfl
  · simp only [step, if_neg hdup, Table.find?_insert]
    by_cases hid : id = id'
    · subst hid
      rw [if_pos rfl]
      cases hrow : s.rows.find? id with
      | some row => exact .kept (by rw [hrow]; rfl) rfl
      | none => exact .enqueued content rfl (fun h => hdup (Or.inl h)) hrow rfl
    · rw [if_neg hid]
      exact .kept rfl rfl

theorem rowStep_claim (cfg : Config) (key : α → κ) (s : System ι α ω) (w : ω) (ago : ℕ)
    (skip : ι → Bool) (answered : Bool) (id : ι) : RowStep cfg s (.claim w ago skip answered) id
      ((step cfg key s (.claim w ago skip answered)).rows.find? id) := by
  by_cases hbusy : w ∈ s.gone ∨ ∃ f ∈ s.flights, f.worker = w
  · exact .kept (by simp only [step, if_pos hbusy]) rfl
  · simp only [step, if_neg hbusy, claim, Table.find?_map]
    cases hrow : s.rows.find? id with
    | none => exact .kept (by rw [hrow]; rfl) rfl
    | some row =>
        by_cases hsel : id ∈ selected cfg (s.now - ago) skip s.rows
        · obtain ⟨row', hrow', hc⟩ := claimable_of_selected hsel
          obtain rfl := Option.some.inj (hrow.symm.trans hrow')
          refine .claimed row w ago skip answered rfl ?_ hrow hc ?_
          · exact fun f hf hw => hbusy (Or.inr ⟨f, hf, hw⟩)
          · rw [Option.map_some, if_pos hsel]
        · exact .kept (by rw [Option.map_some, if_neg hsel, hrow]) rfl

/-- A mark that does not reach the row of its worker records nothing. -/
theorem isFailure_mark_eq_false {s : System ι α ω} {w : ω} {id id' : ι}
    {result : Except String Unit} {ago : ℕ} {reached : Bool}
    (h : reached = true → id' = id → s.busy w id → ∀ row, s.rows.find? id = some row →
      row.worker_id ≠ some w) :
    isFailure id s (.mark w id' result ago reached) = false := by
  rw [Bool.eq_false_iff]
  intro hfail
  cases result with
  | ok u => cases hfail
  | error e =>
      cases reached with
      | false => cases hfail
      | true =>
          simp only [isFailure, Bool.and_eq_true, decide_eq_true_eq, Option.any_eq_true] at hfail
          obtain ⟨⟨hid, hbusy⟩, row, hrow, howner⟩ := hfail
          exact h rfl hid hbusy row hrow howner

theorem rowStep_mark (cfg : Config) (key : α → κ) (s : System ι α ω) (w : ω) (id' : ι)
    (result : Except String Unit) (ago : ℕ) (reached : Bool) (id : ι) :
    RowStep cfg s (.mark w id' result ago reached) id
      ((step cfg key s (.mark w id' result ago reached)).rows.find? id) := by
  by_cases hbusy : s.busy w id'
  · cases reached with
    | false =>
        refine .kept (by simp only [step, if_pos hbusy]; rfl) (isFailure_mark_eq_false ?_)
        intro hreached
        cases hreached
    | true =>
        simp only [step, if_pos hbusy, if_true, markAs_eq, updateOwned, Table.find?_modify]
        by_cases hid : id = id'
        · subst hid
          rw [if_pos rfl]
          cases hrow : s.rows.find? id with
          | none =>
              refine .kept (by rw [hrow]; rfl) (isFailure_mark_eq_false ?_)
              intro _ _ _ row hsome
              rw [hrow] at hsome
              cases hsome
          | some row =>
              by_cases hw : row.worker_id = some w
              · refine .marked row w result ago rfl hbusy hrow hw ?_
                rw [Option.map_some, if_pos hw]
              · refine .kept (by rw [Option.map_some, if_neg hw, hrow]) (isFailure_mark_eq_false ?_)
                intro _ _ _ row' hsome
                obtain rfl := Option.some.inj (hrow.symm.trans hsome)
                exact hw
        · rw [if_neg hid]
          exact .kept rfl (isFailure_mark_eq_false fun _ he => absurd he.symm hid)
  · refine .kept (by simp only [step, if_neg hbusy]) (isFailure_mark_eq_false ?_)
    rintro _ rfl hb
    exact absurd hb hbusy

/-- **Every step moves a row so, or leaves it.** -/
theorem rowStep (cfg : Config) (key : α → κ) (s : System ι α ω) (a : Action ι α ω) (id : ι) :
    RowStep cfg s a id ((step cfg key s a).rows.find? id) := by
  cases a with
  | tick d => exact .kept rfl rfl
  | crash w => exact .kept rfl rfl
  | enqueue id' content => exact rowStep_enqueue cfg key s id' content id
  | delete id' =>
      simp only [step, Table.find?_filter]
      by_cases hid : id = id'
      · subst hid
        exact .deleted rfl (by simp)
      · exact .kept (by cases s.rows.find? id <;> simp [hid]) rfl
  | claim w ago skip answered => exact rowStep_claim cfg key s w ago skip answered id
  | mark w id' result ago reached => exact rowStep_mark cfg key s w id' result ago reached id

/-! ### The invariant -/

/-- The lease of a flight is over. -/
def Flight.Expired (cfg : Config) (now : ℤ) (f : Flight ι ω) : Prop := f.claimed_at < now - cfg.lease

/-- What holds after every run. -/
structure Inv (cfg : Config) (s : System ι α ω) : Prop where
  ok : ∀ id row, s.rows.find? id = some row → row.Ok cfg
  used : ∀ id row, s.rows.find? id = some row → id ∈ s.used
  known : ∀ f ∈ s.flights, f.id ∈ s.used
  held : ∀ f ∈ s.flights, ∀ row, s.rows.find? f.id = some row →
    (row.worker_id = some f.worker ∧ row.locked_at = some f.claimed_at) ∨ f.Expired cfg s.now
  exclusive : ∀ f ∈ s.flights, ∀ g ∈ s.flights, f.id = g.id →
    f.worker = g.worker ∨ f.Expired cfg s.now ∨ g.Expired cfg s.now

omit [DecidableEq ι] [DecidableEq ω] in
theorem Flight.Expired.mono {f : Flight ι ω} {now now' : ℤ} (h : f.Expired cfg now)
    (hle : now ≤ now') : f.Expired cfg now' := by
  unfold Flight.Expired at h ⊢
  omega

omit [DecidableEq ω] in
/-- The empty outbox satisfies the invariant. -/
theorem inv_init (cfg : Config) : Inv cfg (System.init : System ι α ω) where
  ok := by simp [System.init]
  used := by simp [System.init]
  known := by simp [System.init]
  held := by simp [System.init]
  exclusive := by simp [System.init]

variable {key : α → κ} {s : System ι α ω} {a : Action ι α ω}

/-- Time does not go back. -/
theorem now_le_step (cfg : Config) (key : α → κ) (s : System ι α ω) (a : Action ι α ω) :
    s.now ≤ (step cfg key s a).now := by
  cases a <;> simp only [step] <;> (try split) <;> simp

theorem used_subset_step (cfg : Config) (key : α → κ) (s : System ι α ω) (a : Action ι α ω) :
    s.used ⊆ (step cfg key s a).used := by
  cases a <;> simp only [step] <;> (try split) <;> simp

/-- The flights after a step are flights from before, or those of a worker that had none and
claimed their rows. -/
theorem mem_flights_step {f : Flight ι ω} (hf : f ∈ (step cfg key s a).flights) :
    f ∈ s.flights ∨ ∃ ago skip, a = .claim f.worker ago skip true ∧
      f.claimed_at = s.now - ago ∧ f.worker ∉ s.gone ∧ (∀ g ∈ s.flights, g.worker ≠ f.worker) ∧
      f.id ∈ selected cfg (s.now - ago) skip s.rows := by
  cases a with
  | tick d => exact Or.inl hf
  | enqueue id content =>
      simp only [step] at hf
      split at hf <;> exact Or.inl hf
  | delete id => exact Or.inl hf
  | claim w ago skip answered =>
      simp only [step] at hf
      split at hf
      · exact Or.inl hf
      · rename_i hfree
        cases answered with
        | false => exact Or.inl hf
        | true =>
            rcases List.mem_append.1 hf with hf | hf
            · exact Or.inl hf
            · obtain ⟨id, hid, rfl⟩ := List.mem_map.1 hf
              refine Or.inr ⟨ago, skip, rfl, rfl, fun h => hfree (Or.inl h), ?_, hid⟩
              exact fun g hg hw => hfree (Or.inr ⟨g, hg, hw⟩)
  | mark w id result ago reached =>
      simp only [step] at hf
      split at hf
      · exact Or.inl (List.mem_of_mem_filter hf)
      · exact Or.inl hf
  | crash w => exact Or.inl (List.mem_of_mem_filter hf)

/-- A flight that is left after a mark is not the one of the mark. -/
theorem ne_of_mem_flights_mark {f : Flight ι ω} {w : ω} {id : ι} {result : Except String Unit}
    {ago : ℕ} {reached : Bool} (hbusy : s.busy w id)
    (hf : f ∈ (step cfg key s (.mark w id result ago reached)).flights) (hid : f.id = id) :
    f.worker ≠ w := by
  simp only [step, if_pos hbusy] at hf
  have h := (List.mem_filter.1 hf).2
  intro hw
  simp [hw, hid] at h

omit [DecidableEq ω] in
/-- Where a claim takes a row, a flight on the row is over. -/
theorem expired_of_claimable (hi : Inv cfg s) {f : Flight ι ω} (hf : f ∈ s.flights)
    {row : Row α ω} (hrow : s.rows.find? f.id = some row) {ago : ℕ}
    (hc : row.claimable cfg (s.now - ago) = true) : f.Expired cfg s.now := by
  rcases hi.held f hf row hrow with ⟨hw, hl⟩ | he
  · have hs : row.status = .processing := (hi.ok _ row hrow).owned.1 (by simp [hw])
    rcases Row.claimable_cases hc with hp | ⟨_, t, ht, hlt⟩
    · rw [hs] at hp
      cases hp
    · obtain rfl := Option.some.inj (hl.symm.trans ht)
      unfold Flight.Expired
      omega
  · exact he

/-- A row that a claim takes becomes the worker's. -/
theorem find?_step_claim {w : ω} {ago : ℕ} {skip : ι → Bool} {id : ι} (hgone : w ∉ s.gone)
    (hidle : ∀ f ∈ s.flights, f.worker ≠ w) (hsel : id ∈ selected cfg (s.now - ago) skip s.rows)
    (key : α → κ) (answered : Bool) : ∃ row, s.rows.find? id = some row ∧
      row.claimable cfg (s.now - ago) = true ∧
      (step cfg key s (.claim w ago skip answered)).rows.find? id =
        some (row.claimed (s.now - ago) w) := by
  obtain ⟨row, hrow, hc⟩ := claimable_of_selected hsel
  have hfree : ¬ (w ∈ s.gone ∨ ∃ f ∈ s.flights, f.worker = w) := by
    rintro (h | ⟨f, hf, hw⟩)
    · exact hgone h
    · exact hidle f hf hw
  refine ⟨row, hrow, hc, ?_⟩
  simp only [step, if_neg hfree, claim, Table.find?_map, hrow, Option.map_some, if_pos hsel]

theorem ok_step (hi : Inv cfg s) {id : ι} {row' : Row α ω}
    (hrow' : (step cfg key s a).rows.find? id = some row') : row'.Ok cfg := by
  have hs := rowStep cfg key s a id
  rw [hrow'] at hs
  cases hs with
  | kept hpost _ => exact hi.ok id row' hpost.symm
  | enqueued content _ _ _ hpost =>
      obtain rfl := Option.some.inj hpost
      exact Row.ok_new _ _
  | deleted _ hpost => cases hpost
  | claimed row w ago skip answered _ _ hpre hclaim hpost =>
      obtain rfl := Option.some.inj hpost
      exact (hi.ok id row hpre).claimed hclaim _ _
  | marked row w result ago _ _ hpre howner hpost =>
      obtain rfl := Option.some.inj hpost
      exact (hi.ok id row hpre).marked howner _ _

theorem used_step (hi : Inv cfg s) {id : ι} {row' : Row α ω}
    (hrow' : (step cfg key s a).rows.find? id = some row') : id ∈ (step cfg key s a).used := by
  have hmono := used_subset_step cfg key s a
  have hs := rowStep cfg key s a id
  rw [hrow'] at hs
  cases hs with
  | kept hpost _ => exact hmono (hi.used id row' hpost.symm)
  | enqueued content hact hused hpre hpost =>
      subst hact
      simp only [Outbox.step] at hrow' ⊢
      split at hrow'
      · rw [hpre] at hrow'
        cases hrow'
      · rename_i hfree
        simp [if_neg hfree]
  | deleted _ hpost => cases hpost
  | claimed row w ago skip answered _ _ hpre _ _ => exact hmono (hi.used id row hpre)
  | marked row w result ago _ _ hpre _ _ => exact hmono (hi.used id row hpre)

/-- A flight has its row, as it was claimed, or its lease is over. -/
theorem held_step (hi : Inv cfg s) {f : Flight ι ω} (hf : f ∈ (step cfg key s a).flights)
    {row' : Row α ω} (hrow' : (step cfg key s a).rows.find? f.id = some row') :
    (row'.worker_id = some f.worker ∧ row'.locked_at = some f.claimed_at) ∨
      f.Expired cfg (step cfg key s a).now := by
  have hle := now_le_step cfg key s a
  rcases mem_flights_step hf with hold | ⟨ago, skip, rfl, hat, hgone, hidle, hsel⟩
  · have hs := rowStep cfg key s a f.id
    rw [hrow'] at hs
    cases hs with
    | kept hpost _ => exact (hi.held f hold row' hpost.symm).imp_right fun he => he.mono hle
    | enqueued content _ hused _ _ => exact absurd (hi.known f hold) hused
    | deleted _ hpost => cases hpost
    | claimed row w ago skip answered _ _ hpre hclaim _ =>
        exact Or.inr ((expired_of_claimable hi hold hpre hclaim).mono hle)
    | marked row w result ago hact hbusy hpre howner _ =>
        -- the flight of the mark is gone, so this one is of a worker that lost the row
        subst hact
        have hne := ne_of_mem_flights_mark hbusy hf rfl
        rcases hi.held f hold row hpre with ⟨hw, _⟩ | he
        · exact absurd (Option.some.inj (hw.symm.trans howner)) hne
        · exact Or.inr (he.mono hle)
  · obtain ⟨row, _, _, hpost⟩ := find?_step_claim hgone hidle hsel key true
    obtain rfl := Option.some.inj (hpost.symm.trans hrow')
    exact Or.inl ⟨rfl, by rw [hat]; rfl⟩

/-- No two workers are within their leases on one row. -/
theorem exclusive_step (hi : Inv cfg s) {f g : Flight ι ω} (hf : f ∈ (step cfg key s a).flights)
    (hg : g ∈ (step cfg key s a).flights) (hid : f.id = g.id) :
    f.worker = g.worker ∨ f.Expired cfg (step cfg key s a).now ∨
      g.Expired cfg (step cfg key s a).now := by
  have hle := now_le_step cfg key s a
  rcases mem_flights_step hf with hf | ⟨ago, skip, hact, _, _, _, hsel⟩ <;>
    rcases mem_flights_step hg with hg | ⟨ago', skip', hact', _, _, _, hsel'⟩
  · rcases hi.exclusive f hf g hg hid with h | h | h
    · exact Or.inl h
    · exact Or.inr (Or.inl (h.mono hle))
    · exact Or.inr (Or.inr (h.mono hle))
  · obtain ⟨row, hrow, hc⟩ := claimable_of_selected hsel'
    exact Or.inr (Or.inl ((expired_of_claimable hi hf (hid ▸ hrow) hc).mono hle))
  · obtain ⟨row, hrow, hc⟩ := claimable_of_selected hsel
    exact Or.inr (Or.inr ((expired_of_claimable hi hg (hid ▸ hrow) hc).mono hle))
  · have he := hact.symm.trans hact'
    injection he with hw
    exact Or.inl hw

/-- **One step keeps the invariant.** -/
theorem Inv.step (hi : Inv cfg s) (a : Action ι α ω) : Inv cfg (step cfg key s a) where
  ok _ _ hrow := ok_step hi hrow
  used _ _ hrow := used_step hi hrow
  known f hf := by
    have hmono := used_subset_step cfg key s a
    rcases mem_flights_step hf with hf | ⟨ago, skip, _, _, _, _, hsel⟩
    · exact hmono (hi.known f hf)
    · obtain ⟨row, hrow, _⟩ := claimable_of_selected hsel
      exact hmono (hi.used f.id row hrow)
  held _ hf _ hrow := held_step hi hf hrow
  exclusive _ hf _ hg hid := exclusive_step hi hf hg hid

/-! ### Runs -/

/-- **The invariant holds after every run.** -/
theorem inv_run (cfg : Config) (key : α → κ) (as : List (Action ι α ω)) :
    Inv cfg (run (step cfg key) System.init as) :=
  run_induction (inv_init cfg) (fun _ a hi => hi.step a) as

/-- A row that is finished with keeps its value until it is deleted. -/
theorem find?_step_of_terminal (hi : Inv cfg s) {id : ι} {row : Row α ω}
    (hrow : s.rows.find? id = some row) (ht : row.Terminal) (ha : a ≠ .delete id) :
    (step cfg key s a).rows.find? id = some row := by
  cases rowStep cfg key s a id with
  | kept hpost _ => rw [hpost, hrow]
  | enqueued content _ _ hpre _ =>
      rw [hpre] at hrow
      cases hrow
  | deleted hact _ => exact absurd hact ha
  | claimed row' w ago skip answered _ _ hpre hclaim _ =>
      obtain rfl := Option.some.inj (hrow.symm.trans hpre)
      rw [Row.not_claimable ht] at hclaim
      cases hclaim
  | marked row' w result ago _ _ hpre howner _ =>
      obtain rfl := Option.some.inj (hrow.symm.trans hpre)
      rw [(hi.ok id row hrow).worker_id_of_terminal ht] at howner
      cases howner

/-- **Sent and dead are terminal.** -/
theorem find?_run_of_terminal (hi : Inv cfg s) {id : ι} {row : Row α ω}
    (hrow : s.rows.find? id = some row) (ht : row.Terminal) (as : List (Action ι α ω))
    (has : ∀ a ∈ as, a ≠ .delete id) :
    (run (step cfg key) s as).rows.find? id = some row := by
  induction as generalizing s with
  | nil => exact hrow
  | cons a as ih =>
      rw [List.forall_mem_cons] at has
      exact ih (hi.step a) (find?_step_of_terminal hi hrow ht has.1) has.2

/-- The failures recorded for a row. -/
def failures (id : ι) (es : List (Event (System ι α ω) (Action ι α ω))) : ℕ :=
  es.countP fun e => isFailure id e.pre e.act

theorem failures_concat (id : ι) (es : List (Event (System ι α ω) (Action ι α ω)))
    (e : Event (System ι α ω) (Action ι α ω)) :
    failures id (es ++ [e]) = failures id es + if isFailure id e.pre e.act then 1 else 0 := by
  unfold failures
  rw [List.countP_append, List.countP_singleton]

theorem isFailure_of_find?_none {id : ι} (h : s.rows.find? id = none) :
    isFailure id s a = false := by
  unfold isFailure
  split
  · simp [h]
  · rfl

/-- A step adds to the attempts of a row what it records. -/
theorem attempts_step {id : ι} {row' : Row α ω}
    (hrow' : (step cfg key s a).rows.find? id = some row') :
    (∃ row, s.rows.find? id = some row ∧
      row'.attempts = row.attempts + if isFailure id s a then 1 else 0) ∨
    (id ∉ s.used ∧ row'.attempts = 0 ∧ isFailure id s a = false) := by
  have hs := rowStep cfg key s a id
  rw [hrow'] at hs
  cases hs with
  | kept hpost hfail => exact Or.inl ⟨row', hpost.symm, by simp [hfail]⟩
  | enqueued content hact hused hpre hpost =>
      obtain rfl := Option.some.inj hpost
      exact Or.inr ⟨hused, rfl, isFailure_of_find?_none hpre⟩
  | deleted _ hpost => cases hpost
  | claimed row w ago skip answered hact _ hpre _ hpost =>
      obtain rfl := Option.some.inj hpost
      subst hact
      exact Or.inl ⟨row, hpre, rfl⟩
  | marked row w result ago hact hbusy hpre howner hpost =>
      obtain rfl := Option.some.inj hpost
      subst hact
      refine Or.inl ⟨row, hpre, ?_⟩
      cases result with
      | ok u => rfl
      | error e => simp [isFailure, hbusy, hpre, howner, Row.marked, Row.markedFailed]

/-- **The attempts of a row are the failures recorded for it.** -/
theorem attempts_eq_failures (cfg : Config) (key : α → κ) (as : List (Action ι α ω)) {id : ι}
    {row : Row α ω} (hrow : (run (step cfg key) System.init as).rows.find? id = some row) :
    row.attempts = failures id (events (step cfg key) System.init as) := by
  suffices h : Inv cfg (run (step cfg key) System.init as) ∧
      (∀ row, (run (step cfg key) System.init as).rows.find? id = some row →
        row.attempts = failures id (events (step cfg key) System.init as)) ∧
      (id ∉ (run (step cfg key) System.init as).used →
        failures id (events (step cfg key) System.init as) = 0) from h.2.1 row hrow
  refine run_events_induction (P := fun s es => Inv cfg s ∧
    (∀ row, s.rows.find? id = some row → row.attempts = failures id es) ∧
    (id ∉ s.used → failures id es = 0)) ?_ ?_ as
  · exact ⟨inv_init cfg, by simp [System.init], fun _ => rfl⟩
  · rintro s es a ⟨hi, hcount, hfresh⟩
    refine ⟨hi.step a, ?_, ?_⟩
    · intro row' hrow'
      rw [failures_concat]
      rcases attempts_step hrow' with ⟨row, hrow, he⟩ | ⟨hused, he, hfail⟩
      · rw [he, hcount row hrow]
      · rw [he, hfail, hfresh hused]
        rfl
    · intro hused
      have hold : id ∉ s.used := fun h => hused (used_subset_step cfg key s a h)
      have hnone : s.rows.find? id = none :=
        Option.eq_none_iff_forall_ne_some.2 fun row hrow => hold (hi.used id row hrow)
      rw [failures_concat, hfresh hold, isFailure_of_find?_none hnone]
      rfl

/-- The worker does not own the row. -/
def Lost (s : System ι α ω) (w : ω) (id : ι) : Prop :=
  ∀ row, s.rows.find? id = some row → row.worker_id ≠ some w

/-- A worker that lost a row and is still busy with it does not get it back. -/
theorem lost_step {w : ω} {id : ι} (h : Lost s w id) (hbusy : s.busy w id)
    (a : Action ι α ω) : Lost (step cfg key s a) w id := by
  intro row' hrow'
  have hs := rowStep cfg key s a id
  rw [hrow'] at hs
  cases hs with
  | kept hpost _ => exact h row' hpost.symm
  | enqueued content _ _ _ hpost =>
      obtain rfl := Option.some.inj hpost
      simp [Row.new]
  | deleted _ hpost => cases hpost
  | claimed row w' ago skip answered _ hidle _ _ hpost =>
      obtain rfl := Option.some.inj hpost
      obtain ⟨f, hf, hfw, _⟩ := hbusy
      intro hw
      exact hidle f hf (hfw.trans (Option.some.inj hw).symm)
  | marked row w' result ago _ _ _ _ hpost =>
      obtain rfl := Option.some.inj hpost
      cases result <;> simp [Row.marked, Row.markedSent, Row.markedFailed]

/-- **A worker that lost a row does not get it back while it is busy with it.** -/
theorem lost_run {w : ω} {id : ι} (h : Lost s w id) (as : List (Action ι α ω))
    (hbusy : ∀ e ∈ events (step cfg key) s as, e.pre.busy w id) :
    Lost (run (step cfg key) s as) w id :=
  run_induction_of (P := fun s => Lost s w id) (G := fun s _ => s.busy w id) h
    (fun _ a hl hb => lost_step hl hb a) hbusy

/-- **A worker that lost a row has no effect on it.** -/
theorem rows_mark_of_lost {w : ω} {id : ι} (h : Lost s w id) (result : Except String Unit)
    (ago : ℕ) (reached : Bool) :
    (step cfg key s (.mark w id result ago reached)).rows = s.rows := by
  simp only [step]
  split
  · cases reached with
    | false => rfl
    | true =>
        simp only [if_true, markAs_eq]
        exact Table.modify_eq_self fun row hrow => if_neg (h row hrow)
  · rfl

/-- **A claim takes the row away from every other worker that is busy with it.** -/
theorem lost_of_claim {w w' : ω} {id : ι} {ago : ℕ} {skip : ι → Bool} (hbusy : s.busy w id)
    (hgone : w' ∉ s.gone) (hidle : ∀ f ∈ s.flights, f.worker ≠ w')
    (hsel : id ∈ selected cfg (s.now - ago) skip s.rows) (key : α → κ) (answered : Bool) :
    Lost (step cfg key s (.claim w' ago skip answered)) w id := by
  obtain ⟨row, _, _, hpost⟩ := find?_step_claim hgone hidle hsel key answered
  obtain ⟨f, hf, hfw, _⟩ := hbusy
  intro row' hrow' hw
  obtain rfl := Option.some.inj (hpost.symm.trans hrow')
  exact hidle f hf (hfw.trans (Option.some.inj hw).symm)

end Outbox
end Lib
