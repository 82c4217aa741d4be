/-
# A queue with retries and a dead letter list

Messages wait in a queue.  A worker takes the first, executes what it asks for, and then has finished
with it, or puts it back with one attempt more, or, when it has no retries left, puts it among the
dead letters.

The attempts are in the message.  Beside the messages the state keeps what has happened to each id,
how often it was executed and how often that failed.  `Accounted` says that an id that was enqueued
is in exactly one place, and that the message there agrees with what has happened; every step keeps
it (`Accounted.step`), whichever worker takes it.
-/

import SentinelMesh.Lib.Run
import Mathlib.Algebra.BigOperators.Group.Finset.Basic
import Mathlib.Algebra.Order.BigOperators.Group.Finset
import Mathlib.Data.Fintype.Basic

namespace Lib
namespace Retry

/-- What is queued: what a message says of itself. -/
structure Message (ι : Type) where
  id : ι
  attempts : ℤ
  max_retries : ℤ

/-- How far a worker is with a message. -/
inductive Stage
  | taken
  | running
  /-- It has failed, and has one attempt more. -/
  | failed

/-- The messages, and what has happened. -/
structure State (ι ω : Type) where
  queue : List (Message ι)
  hand : ω → Option (Stage × Message ι)
  finished : List ι
  dead : List (Message ι)
  enqueued : List ι
  budget : ι → ℤ
  executions : ι → ℕ
  failures : ι → ℕ

variable {ι ω : Type} [DecidableEq ι] [DecidableEq ω]

/-- What can happen. -/
inductive Step (s : State ι ω) : State ι ω → Prop
  | idle : Step s s
  | push (m : Message ι) (hnew : m.id ∉ s.enqueued) (hattempts : m.attempts = 0) :
      Step s { s with
        queue := s.queue ++ [m]
        enqueued := m.id :: s.enqueued
        budget := Function.update s.budget m.id m.max_retries }
  | take (w : ω) (m : Message ι) (rest : List (Message ι)) (hqueue : s.queue = m :: rest)
      (hhand : s.hand w = none) :
      Step s { s with queue := rest, hand := Function.update s.hand w (some (.taken, m)) }
  | start (w : ω) (m : Message ι) (hhand : s.hand w = some (.taken, m)) :
      Step s { s with
        hand := Function.update s.hand w (some (.running, m))
        executions := Function.update s.executions m.id (s.executions m.id + 1) }
  | fail (w : ω) (m : Message ι) (hhand : s.hand w = some (.running, m)) :
      Step s { s with
        hand := Function.update s.hand w (some (.failed, { m with attempts := m.attempts + 1 }))
        failures := Function.update s.failures m.id (s.failures m.id + 1) }
  | succeed (w : ω) (m : Message ι) (hhand : s.hand w = some (.running, m)) :
      Step s { s with hand := Function.update s.hand w none, finished := m.id :: s.finished }
  | retry (w : ω) (m : Message ι) (hhand : s.hand w = some (.failed, m))
      (hleft : m.attempts ≤ m.max_retries) :
      Step s { s with hand := Function.update s.hand w none, queue := s.queue ++ [m] }
  | bury (w : ω) (m : Message ι) (hhand : s.hand w = some (.failed, m))
      (hleft : ¬ m.attempts ≤ m.max_retries) :
      Step s { s with hand := Function.update s.hand w none, dead := s.dead ++ [m] }

/-! ### Where an id is -/

/-- How often a list of messages has an id. -/
def idCount (l : List (Message ι)) (id : ι) : ℕ := (l.map Message.id).count id

/-- How often a hand has an id. -/
def handCount (id : ι) : Option (Stage × Message ι) → ℕ
  | none => 0
  | some (_, m) => if m.id = id then 1 else 0

@[simp] theorem handCount_none (id : ι) : handCount id none = 0 := rfl

@[simp] theorem handCount_some (id : ι) (stage : Stage) (m : Message ι) :
    handCount id (some (stage, m)) = if m.id = id then 1 else 0 := rfl

@[simp] theorem idCount_nil (id : ι) : idCount [] id = 0 := rfl

@[simp] theorem idCount_cons (m : Message ι) (l : List (Message ι)) (id : ι) :
    idCount (m :: l) id = idCount l id + if m.id = id then 1 else 0 := by
  unfold idCount
  rw [List.map_cons, List.count_cons]
  simp

@[simp] theorem idCount_append (l l' : List (Message ι)) (id : ι) :
    idCount (l ++ l') id = idCount l id + idCount l' id := by
  unfold idCount
  rw [List.map_append, List.count_append]

theorem idCount_pos {l : List (Message ι)} {m : Message ι} (h : m ∈ l) : 0 < idCount l m.id :=
  List.count_pos_iff.2 (List.mem_map_of_mem h)

variable [Fintype ω]

/-- In how many places an id is. -/
def State.places (s : State ι ω) (id : ι) : ℕ :=
  idCount s.queue id + ∑ w, handCount id (s.hand w) + s.finished.count id + idCount s.dead id

/-- What is in the hands, when one is changed. -/
theorem sum_update {α : Type} (g : α → ℕ) (f : ω → α) (w : ω) (x : α) :
    (∑ v, g (Function.update f w x v)) + g (f w) = (∑ v, g (f v)) + g x := by
  have hf := Finset.add_sum_erase Finset.univ (fun v => g (f v)) (Finset.mem_univ w)
  have hupdate := Finset.add_sum_erase Finset.univ (fun v => g (Function.update f w x v))
    (Finset.mem_univ w)
  have hsame : ∑ v ∈ Finset.univ.erase w, g (Function.update f w x v) =
      ∑ v ∈ Finset.univ.erase w, g (f v) :=
    Finset.sum_congr rfl fun v hv => by rw [Function.update_of_ne (Finset.ne_of_mem_erase hv)]
  rw [hsame, Function.update_self] at hupdate
  omega

omit [DecidableEq ω] in
theorem handCount_le (s : State ι ω) (id : ι) (w : ω) :
    handCount id (s.hand w) ≤ ∑ v, handCount id (s.hand v) :=
  Finset.single_le_sum (f := fun v => handCount id (s.hand v)) (fun _ _ => Nat.zero_le _)
    (Finset.mem_univ w)

/-- Two hands with one id. -/
theorem handCount_add_le (s : State ι ω) (id : ι) {v w : ω} (h : v ≠ w) :
    handCount id (s.hand v) + handCount id (s.hand w) ≤ ∑ u, handCount id (s.hand u) := by
  have hv := Finset.add_sum_erase Finset.univ (fun u => handCount id (s.hand u)) (Finset.mem_univ v)
  have hw : handCount id (s.hand w) ≤ ∑ u ∈ Finset.univ.erase v, handCount id (s.hand u) :=
    Finset.single_le_sum (f := fun u => handCount id (s.hand u)) (fun _ _ => Nat.zero_le _)
      (Finset.mem_erase.2 ⟨h.symm, Finset.mem_univ w⟩)
  omega

/-- Where a message can be. -/
inductive Place (ω : Type)
  | queued
  | hand (w : ω) (stage : Stage)
  | dead

/-- A message is at a place. -/
def State.At (s : State ι ω) : Place ω → Message ι → Prop
  | .queued, m => m ∈ s.queue
  | .hand w stage, m => s.hand w = some (stage, m)
  | .dead, m => m ∈ s.dead

/-- What has happened to a message agrees with what it says, and with where it is. -/
def State.Fits (s : State ι ω) (p : Place ω) (m : Message ι) : Prop :=
  m.attempts = s.failures m.id ∧ m.max_retries = s.budget m.id ∧
    match p with
    | .queued | .hand _ .taken =>
      s.executions m.id = s.failures m.id ∧ s.failures m.id ≤ (s.budget m.id).toNat
    | .hand _ .running =>
      s.executions m.id = s.failures m.id + 1 ∧ s.failures m.id ≤ (s.budget m.id).toNat
    | .hand _ .failed =>
      s.executions m.id = s.failures m.id ∧ 0 < s.failures m.id ∧
        s.failures m.id ≤ (s.budget m.id).toNat + 1
    | .dead => s.executions m.id = s.failures m.id ∧ s.failures m.id = (s.budget m.id).toNat + 1

/-- **Every id is accounted for.** -/
structure Accounted (s : State ι ω) : Prop where
  places : ∀ id, s.places id = if id ∈ s.enqueued then 1 else 0
  fresh : ∀ id, id ∉ s.enqueued → s.executions id = 0 ∧ s.failures id = 0
  fits : ∀ p m, s.At p m → s.Fits p m
  finished : ∀ id ∈ s.finished,
    s.executions id = s.failures id + 1 ∧ s.failures id ≤ (s.budget id).toNat

omit [DecidableEq ω] in
/-- A message that is somewhere is counted there. -/
theorem places_pos {s : State ι ω} {p : Place ω} {m : Message ι} (h : s.At p m) :
    0 < s.places m.id := by
  unfold State.places
  cases p with
  | queued =>
      have hpos := idCount_pos (h : m ∈ s.queue)
      omega
  | hand w stage =>
      have hhand : s.hand w = some (stage, m) := h
      have hle := handCount_le s m.id w
      rw [hhand, handCount_some, if_pos rfl] at hle
      omega
  | dead =>
      have hpos := idCount_pos (h : m ∈ s.dead)
      omega

/-! ### One place -/

section

variable {s : State ι ω}

omit [DecidableEq ω] in
theorem Accounted.places_le (h : Accounted s) (id : ι) : s.places id ≤ 1 := by
  rw [h.places id]
  split_ifs <;> omega

omit [DecidableEq ω] in
/-- An id that is somewhere was enqueued. -/
theorem Accounted.mem_enqueued (h : Accounted s) {id : ι} (hpos : 0 < s.places id) :
    id ∈ s.enqueued := by
  by_contra hnot
  rw [h.places id, if_neg hnot] at hpos
  omega

/-- **What is in a hand is nowhere else.** -/
theorem Accounted.hand_unique (h : Accounted s) {w : ω} {stage : Stage} {m : Message ι}
    (hhand : s.hand w = some (stage, m)) {p : Place ω} {m' : Message ι} (hp : s.At p m')
    (hid : m'.id = m.id) : p = .hand w stage ∧ m' = m := by
  have hle := h.places_le m.id
  have hw := handCount_le s m.id w
  rw [hhand, handCount_some, if_pos rfl] at hw
  unfold State.places at hle
  cases p with
  | queued =>
      have hpos := idCount_pos (hp : m' ∈ s.queue)
      rw [hid] at hpos
      omega
  | dead =>
      have hpos := idCount_pos (hp : m' ∈ s.dead)
      rw [hid] at hpos
      omega
  | hand v stage' =>
      have hv : s.hand v = some (stage', m') := hp
      by_cases hvw : v = w
      · subst hvw
        obtain ⟨rfl, rfl⟩ := Prod.mk.inj (Option.some.inj (hv.symm.trans hhand))
        exact ⟨rfl, rfl⟩
      · have htwo := handCount_add_le s m.id hvw
        rw [hv, hhand, handCount_some, handCount_some, if_pos hid, if_pos rfl] at htwo
        omega

omit [DecidableEq ω] in
/-- What is in a hand is not finished. -/
theorem Accounted.not_finished (h : Accounted s) {w : ω} {stage : Stage} {m : Message ι}
    (hhand : s.hand w = some (stage, m)) : m.id ∉ s.finished := by
  intro hfinished
  have hle := h.places_le m.id
  have hw := handCount_le s m.id w
  rw [hhand, handCount_some, if_pos rfl] at hw
  have hpos := List.count_pos_iff.2 hfinished
  unfold State.places at hle
  omega

omit [DecidableEq ω] in
/-- The first message of the queue is nowhere else. -/
theorem Accounted.head_unique (h : Accounted s) {m : Message ι} {rest : List (Message ι)}
    (hqueue : s.queue = m :: rest) : idCount rest m.id = 0 ∧
      (∀ v stage m', s.hand v = some (stage, m') → m'.id ≠ m.id) ∧
      ∀ m' ∈ s.dead, m'.id ≠ m.id := by
  have hle := h.places_le m.id
  unfold State.places at hle
  rw [hqueue, idCount_cons, if_pos rfl] at hle
  refine ⟨by omega, fun v stage m' hv hid => ?_, fun m' hm' hid => ?_⟩
  · have hw := handCount_le s m.id v
    rw [hv, handCount_some, if_pos hid] at hw
    omega
  · have hpos := idCount_pos hm'
    rw [hid] at hpos
    omega

end

/-! ### Steps -/

omit [DecidableEq ι] [DecidableEq ω] [Fintype ω] in
/-- What fits goes on to fit, as long as nothing happens to its id. -/
theorem State.Fits.congr {s s' : State ι ω} {p : Place ω} {m : Message ι} (h : s.Fits p m)
    (hexecutions : s'.executions m.id = s.executions m.id)
    (hfailures : s'.failures m.id = s.failures m.id) (hbudget : s'.budget m.id = s.budget m.id) :
    s'.Fits p m := by
  unfold State.Fits at h ⊢
  rw [hexecutions, hfailures, hbudget]
  exact h

section

variable {s s' : State ι ω}

omit [DecidableEq ω] in
/-- **One id moves**, and nothing happens to the others. -/
theorem Accounted.moved (h : Accounted s) {id : ι} (hid : id ∈ s.enqueued)
    (hplaces : ∀ id', s'.places id' = s.places id') (henqueued : s'.enqueued = s.enqueued)
    (hbudget : s'.budget = s.budget)
    (hother : ∀ id', id' ≠ id →
      s'.executions id' = s.executions id' ∧ s'.failures id' = s.failures id')
    (hat : ∀ p m, m.id ≠ id → s'.At p m → s.At p m) (hfits : ∀ p m, m.id = id → s'.At p m → s'.Fits p m)
    (hkept : ∀ id' ∈ s'.finished, id' ≠ id → id' ∈ s.finished)
    (hfinished : id ∈ s'.finished →
      s'.executions id = s'.failures id + 1 ∧ s'.failures id ≤ (s'.budget id).toNat) :
    Accounted s' where
  places id' := by rw [hplaces, h.places, henqueued]
  fresh id' hnew := by
    rw [henqueued] at hnew
    obtain ⟨hexecutions, hfailures⟩ := hother id' fun heq => hnew (heq ▸ hid)
    rw [hexecutions, hfailures]
    exact h.fresh id' hnew
  fits p m hp := by
    by_cases hm : m.id = id
    · exact hfits p m hm hp
    · obtain ⟨hexecutions, hfailures⟩ := hother m.id hm
      exact (h.fits p m (hat p m hm hp)).congr hexecutions hfailures (by rw [hbudget])
  finished id' hmem := by
    by_cases heq : id' = id
    · subst heq
      exact hfinished hmem
    · obtain ⟨hexecutions, hfailures⟩ := hother id' heq
      rw [hexecutions, hfailures, hbudget]
      exact h.finished id' (hkept id' hmem heq)

omit [DecidableEq ω] in
/-- A message that is new. -/
theorem accounted_push (h : Accounted s) {m : Message ι} (hnew : m.id ∉ s.enqueued)
    (hattempts : m.attempts = 0) :
    Accounted { s with
      queue := s.queue ++ [m]
      enqueued := m.id :: s.enqueued
      budget := Function.update s.budget m.id m.max_retries } where
  places id := by
    have hold := h.places id
    unfold State.places at hold ⊢
    dsimp only
    rw [idCount_append, idCount_cons, idCount_nil]
    by_cases hid : m.id = id
    · subst hid
      rw [if_neg hnew] at hold
      rw [if_pos rfl, if_pos List.mem_cons_self]
      omega
    · rw [if_neg hid]
      simp only [List.mem_cons, Ne.symm hid, false_or]
      omega
  fresh id hid := h.fresh id fun hmem => hid (List.mem_cons_of_mem _ hmem)
  fits p m' hp := by
    have hold : ∀ {p m'}, s.At p m' → State.Fits { s with
        queue := s.queue ++ [m]
        enqueued := m.id :: s.enqueued
        budget := Function.update s.budget m.id m.max_retries } p m' := fun {p m'} hp => by
      have hne : m'.id ≠ m.id := fun heq => hnew (heq ▸ h.mem_enqueued (places_pos hp))
      exact (h.fits p m' hp).congr rfl rfl (Function.update_of_ne hne _ _)
    cases p with
    | queued =>
        rcases List.mem_append.1 hp with hp | hp
        · exact hold (p := .queued) hp
        · obtain rfl := List.mem_singleton.1 hp
          obtain ⟨hexecutions, hfailures⟩ := h.fresh m'.id hnew
          unfold State.Fits
          dsimp only
          rw [Function.update_self, hexecutions, hfailures]
          exact ⟨hattempts, rfl, rfl, Nat.zero_le _⟩
    | hand w stage => exact hold (p := .hand w stage) hp
    | dead => exact hold (p := .dead) hp
  finished id hid := by
    have hne : id ≠ m.id := fun heq => by
      have hpos : 0 < s.places id := by
        have hcount : 0 < s.finished.count id := List.count_pos_iff.2 hid
        unfold State.places
        omega
      exact hnew (heq ▸ h.mem_enqueued hpos)
    dsimp only
    rw [Function.update_of_ne hne]
    exact h.finished id hid

/-- A message is taken from the queue. -/
theorem accounted_take (h : Accounted s) {w : ω} {m : Message ι} {rest : List (Message ι)}
    (hqueue : s.queue = m :: rest) (hhand : s.hand w = none) :
    Accounted { s with queue := rest, hand := Function.update s.hand w (some (.taken, m)) } := by
  have hfirst : s.At .queued m := by
    unfold State.At
    rw [hqueue]
    exact List.mem_cons_self
  obtain ⟨hrest, hhands, hdead⟩ := h.head_unique hqueue
  have hm := h.fits _ _ hfirst
  refine h.moved (h.mem_enqueued (places_pos hfirst)) ?_ rfl rfl (fun _ _ => ⟨rfl, rfl⟩) ?_ ?_
    (fun _ hmem _ => hmem) ?_
  · intro id
    have hsum := sum_update (handCount id) s.hand w (some (.taken, m))
    rw [hhand, handCount_none, handCount_some] at hsum
    unfold State.places
    dsimp only
    rw [hqueue, idCount_cons]
    omega
  · intro p m' hne hp
    cases p with
    | queued =>
        unfold State.At
        rw [hqueue]
        exact List.mem_cons_of_mem _ hp
    | hand v stage =>
        by_cases hv : v = w
        · subst hv
          have hnew : Function.update s.hand v (some (Stage.taken, m)) v = some (stage, m') := hp
          rw [Function.update_self] at hnew
          obtain ⟨-, rfl⟩ := Prod.mk.inj (Option.some.inj hnew)
          exact absurd rfl hne
        · have hold : Function.update s.hand w (some (Stage.taken, m)) v = some (stage, m') := hp
          rwa [Function.update_of_ne hv] at hold
    | dead => exact hp
  · intro p m' heq hp
    cases p with
    | queued =>
        have hpos : 0 < idCount rest m'.id := idCount_pos hp
        rw [heq] at hpos
        omega
    | hand v stage =>
        by_cases hv : v = w
        · subst hv
          have hnew : Function.update s.hand v (some (Stage.taken, m)) v = some (stage, m') := hp
          rw [Function.update_self] at hnew
          obtain ⟨rfl, rfl⟩ := Prod.mk.inj (Option.some.inj hnew)
          exact hm
        · have hold : Function.update s.hand w (some (Stage.taken, m)) v = some (stage, m') := hp
          rw [Function.update_of_ne hv] at hold
          exact absurd heq (hhands v stage m' hold)
    | dead => exact absurd heq (hdead m' hp)
  · intro hfinished
    have hle := h.places_le m.id
    have hpos : 0 < s.finished.count m.id := List.count_pos_iff.2 hfinished
    unfold State.places at hle
    rw [hqueue, idCount_cons, if_pos rfl] at hle
    omega

/-- What leaves a hand for one place is counted as often. -/
theorem places_hand {w : ω} {stage : Stage} {m : Message ι} (hhand : s.hand w = some (stage, m))
    {x : Option (Stage × Message ι)} {qs ds : List (Message ι)} {fs : List ι}
    {executions failures : ι → ℕ} {id : ι}
    (hone : handCount id x + idCount qs id + fs.count id + idCount ds id =
      if m.id = id then 1 else 0) :
    State.places { s with
      hand := Function.update s.hand w x
      queue := s.queue ++ qs
      finished := fs ++ s.finished
      dead := s.dead ++ ds
      executions
      failures } id = s.places id := by
  have hsum := sum_update (handCount id) s.hand w x
  rw [hhand, handCount_some] at hsum
  unfold State.places
  dsimp only
  rw [idCount_append, idCount_append, List.count_append]
  omega

/-- **A hand is changed**: what was in it is in one place again, and fits there. -/
theorem accounted_hand (h : Accounted s) {w : ω} {stage : Stage} {m : Message ι}
    (hhand : s.hand w = some (stage, m)) (x : Option (Stage × Message ι)) (qs ds : List (Message ι))
    (fs : List ι) (executions failures : ι → ℕ)
    (hone : ∀ id, handCount id x + idCount qs id + fs.count id + idCount ds id =
      if m.id = id then 1 else 0)
    (hother : ∀ id, id ≠ m.id → executions id = s.executions id ∧ failures id = s.failures id)
    (hs' : s' = { s with
      hand := Function.update s.hand w x
      queue := s.queue ++ qs
      finished := fs ++ s.finished
      dead := s.dead ++ ds
      executions
      failures })
    (hx : ∀ stage' m', x = some (stage', m') → s'.Fits (.hand w stage') m')
    (hqs : ∀ m' ∈ qs, s'.Fits .queued m') (hds : ∀ m' ∈ ds, s'.Fits .dead m')
    (hfs : m.id ∈ fs →
      executions m.id = failures m.id + 1 ∧ failures m.id ≤ (s.budget m.id).toNat) :
    Accounted s' := by
  subst hs'
  have hid : m.id ∈ s.enqueued := h.mem_enqueued (places_pos (p := .hand w stage) hhand)
  have hmine : ∀ {id}, 0 < handCount id x + idCount qs id + fs.count id + idCount ds id →
      m.id = id := fun {id} hpos => by
    by_contra hne
    rw [hone id, if_neg hne] at hpos
    omega
  have hupdate : ∀ {v stage' m'}, Function.update s.hand w x v = some (stage', m') →
      v = w ∧ x = some (stage', m') ∨ v ≠ w ∧ s.hand v = some (stage', m') := by
    intro v stage' m' hv
    rw [Function.update_apply] at hv
    split_ifs at hv with hvw
    · exact .inl ⟨hvw, hv⟩
    · exact .inr ⟨hvw, hv⟩
  refine h.moved hid (fun id => places_hand hhand (hone id)) rfl rfl hother ?_ ?_ ?_ ?_
  · intro p m' hne hp
    cases p with
    | queued =>
        refine (List.mem_append.1 hp).resolve_right fun hnew => ?_
        have hpos := idCount_pos hnew
        exact absurd (hmine (by omega)).symm hne
    | hand v stage' =>
        rcases hupdate hp with ⟨rfl, rfl⟩ | ⟨-, hold⟩
        · have hpos : handCount m'.id (some (stage', m')) = 1 := if_pos rfl
          exact absurd (hmine (by omega)).symm hne
        · exact hold
    | dead =>
        refine (List.mem_append.1 hp).resolve_right fun hnew => ?_
        have hpos := idCount_pos hnew
        exact absurd (hmine (by omega)).symm hne
  · intro p m' heq hp
    cases p with
    | queued =>
        refine hqs m' ((List.mem_append.1 hp).resolve_left fun hold => ?_)
        exact nomatch (h.hand_unique hhand (p := .queued) hold heq).1
    | hand v stage' =>
        rcases hupdate hp with ⟨rfl, hnew⟩ | ⟨hne, hold⟩
        · exact hx stage' m' hnew
        · obtain ⟨hplace, -⟩ := h.hand_unique hhand (p := .hand v stage') hold heq
          exact absurd (Place.hand.inj hplace).1 hne
    | dead =>
        refine hds m' ((List.mem_append.1 hp).resolve_left fun hold => ?_)
        exact nomatch (h.hand_unique hhand (p := .dead) hold heq).1
  · intro id hmem hne
    refine (List.mem_append.1 hmem).resolve_left fun hnew => ?_
    have hpos := List.count_pos_iff.2 hnew
    exact absurd (hmine (by omega)).symm hne
  · intro hmem
    refine hfs ((List.mem_append.1 hmem).resolve_right fun hold => ?_)
    exact h.not_finished hhand hold

/-- **A step keeps the accounts.** -/
theorem Accounted.step (h : Accounted s) (hstep : Step s s') : Accounted s' := by
  cases hstep with
  | idle => exact h
  | push m hnew hattempts => exact accounted_push h hnew hattempts
  | take w m rest hqueue hhand => exact accounted_take h hqueue hhand
  | start w m hhand =>
      obtain ⟨hattempts, hbudget, hexecutions, hleft⟩ := h.fits (.hand w .taken) m hhand
      refine accounted_hand h hhand (some (.running, m)) [] [] []
        (Function.update s.executions m.id (s.executions m.id + 1)) s.failures (by simp)
        (fun id hne => ⟨Function.update_of_ne hne _ _, rfl⟩) (by simp) ?_ (by simp) (by simp) (by simp)
      rintro _ _ ⟨⟩
      unfold State.Fits
      dsimp only
      rw [Function.update_self, hexecutions]
      exact ⟨hattempts, hbudget, rfl, hleft⟩
  | fail w m hhand =>
      obtain ⟨hattempts, hbudget, hexecutions, hleft⟩ := h.fits (.hand w .running) m hhand
      refine accounted_hand h hhand (some (.failed, { m with attempts := m.attempts + 1 })) [] [] []
        s.executions (Function.update s.failures m.id (s.failures m.id + 1)) (by simp)
        (fun id hne => ⟨rfl, Function.update_of_ne hne _ _⟩) (by simp) ?_ (by simp) (by simp) (by simp)
      rintro _ _ ⟨⟩
      unfold State.Fits
      dsimp only
      rw [Function.update_self, hexecutions, hattempts]
      exact ⟨by push_cast; rfl, hbudget, rfl, by omega, by omega⟩
  | succeed w m hhand =>
      obtain ⟨-, -, hexecutions, hleft⟩ := h.fits (.hand w .running) m hhand
      exact accounted_hand h hhand none [] [] [m.id] s.executions s.failures
        (fun id => by simp [List.count_singleton]) (fun _ _ => ⟨rfl, rfl⟩) (by simp) (by simp)
        (by simp) (by simp) fun _ => ⟨hexecutions, hleft⟩
  | retry w m hhand hretry =>
      obtain ⟨hattempts, hbudget, hexecutions, -, hleft⟩ := h.fits (.hand w .failed) m hhand
      refine accounted_hand h hhand none [m] [] [] s.executions s.failures (by simp)
        (fun _ _ => ⟨rfl, rfl⟩) (by simp) (by simp) ?_ (by simp) (by simp)
      intro m' hm'
      obtain rfl := List.mem_singleton.1 hm'
      exact ⟨hattempts, hbudget, hexecutions, by dsimp only; omega⟩
  | bury w m hhand hretry =>
      obtain ⟨hattempts, hbudget, hexecutions, hpos, hleft⟩ := h.fits (.hand w .failed) m hhand
      refine accounted_hand h hhand none [] [m] [] s.executions s.failures (by simp)
        (fun _ _ => ⟨rfl, rfl⟩) (by simp) (by simp) (by simp) ?_ (by simp)
      intro m' hm'
      obtain rfl := List.mem_singleton.1 hm'
      exact ⟨hattempts, hbudget, hexecutions, by dsimp only; omega⟩

/-! ### What the accounts say -/

omit [DecidableEq ω] [Fintype ω] in
theorem exists_of_idCount {l : List (Message ι)} {id : ι} (h : 0 < idCount l id) :
    ∃ m ∈ l, m.id = id := by
  obtain ⟨m, hm, hid⟩ := List.mem_map.1 (List.count_pos_iff.1 h)
  exact ⟨m, hm, hid⟩

omit [DecidableEq ω] in
/-- An id that was enqueued is somewhere. -/
theorem Accounted.exists_place (h : Accounted s) {id : ι} (hid : id ∈ s.enqueued) :
    (∃ p m, s.At p m ∧ m.id = id) ∨ id ∈ s.finished := by
  have hone := h.places id
  rw [if_pos hid] at hone
  unfold State.places at hone
  by_cases hqueue : 0 < idCount s.queue id
  · obtain ⟨m, hm, hmid⟩ := exists_of_idCount hqueue
    exact .inl ⟨.queued, m, hm, hmid⟩
  by_cases hdead : 0 < idCount s.dead id
  · obtain ⟨m, hm, hmid⟩ := exists_of_idCount hdead
    exact .inl ⟨.dead, m, hm, hmid⟩
  by_cases hfinished : 0 < s.finished.count id
  · exact .inr (List.count_pos_iff.1 hfinished)
  · have hsum : ∑ w, handCount id (s.hand w) ≠ 0 := by omega
    obtain ⟨w, -, hw⟩ := Finset.exists_ne_zero_of_sum_ne_zero hsum
    cases hhand : s.hand w with
    | none =>
        rw [hhand] at hw
        exact absurd rfl hw
    | some held =>
        obtain ⟨stage, m⟩ := held
        rw [hhand, handCount_some] at hw
        have hmid : m.id = id := by
          by_contra hne
          exact hw (if_neg hne)
        exact .inl ⟨.hand w stage, m, hhand, hmid⟩

omit [DecidableEq ω] in
/-- **An id is executed once more than it has retries, at most.** -/
theorem Accounted.executions_le (h : Accounted s) (id : ι) :
    s.executions id ≤ (s.budget id).toNat + 1 := by
  by_cases hid : id ∈ s.enqueued
  · rcases h.exists_place hid with ⟨p, m, hp, rfl⟩ | hfinished
    · obtain ⟨-, -, hfits⟩ := h.fits p m hp
      cases p with
      | queued => exact le_trans hfits.1.le (le_trans hfits.2 (Nat.le_succ _))
      | hand w stage =>
          cases stage with
          | taken => exact le_trans hfits.1.le (le_trans hfits.2 (Nat.le_succ _))
          | running => exact le_trans hfits.1.le (Nat.succ_le_succ hfits.2)
          | failed => exact le_trans hfits.1.le hfits.2.2
      | dead => exact (hfits.1.trans hfits.2).le
    · obtain ⟨hexecutions, hleft⟩ := h.finished id hfinished
      omega
  · rw [(h.fresh id hid).1]
    exact Nat.zero_le _

omit [DecidableEq ω] in
/-- **Dead are those that failed every time**, and are in no hand any more. -/
theorem Accounted.dead_iff (h : Accounted s) {id : ι} (hid : id ∈ s.enqueued) :
    idCount s.dead id = 1 ↔
      s.executions id = (s.budget id).toNat + 1 ∧ s.failures id = (s.budget id).toNat + 1 ∧
        ∀ w, handCount id (s.hand w) = 0 := by
  have hone := h.places id
  rw [if_pos hid] at hone
  unfold State.places at hone
  constructor
  · intro hdead
    obtain ⟨m, hm, rfl⟩ := exists_of_idCount (by omega : 0 < idCount s.dead id)
    obtain ⟨-, -, hexecutions, hfailures⟩ := h.fits .dead m hm
    refine ⟨hexecutions.trans hfailures, hfailures, fun w => ?_⟩
    have hle := handCount_le s m.id w
    omega
  · rintro ⟨hexecutions, hfailures, hhands⟩
    rcases h.exists_place hid with ⟨p, m, hp, rfl⟩ | hfinished
    · cases p with
      | queued =>
          obtain ⟨-, -, -, hleft⟩ := h.fits .queued m hp
          omega
      | hand w stage =>
          have hhand : s.hand w = some (stage, m) := hp
          have hnone := hhands w
          rw [hhand, handCount_some, if_pos rfl] at hnone
          omega
      | dead =>
          have hpos := idCount_pos (hp : m ∈ s.dead)
          omega
    · obtain ⟨-, hleft⟩ := h.finished id hfinished
      omega

end

end Retry
end Lib
