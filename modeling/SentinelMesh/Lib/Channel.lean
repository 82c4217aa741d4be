/-
# A channel that keeps its last messages

A broadcast channel of bounded capacity, as a list of all the messages it has had
and receivers that count how many of them they have taken.  A receiver that is
further behind than the capacity is told so in place of a message; one that
subscribes starts at the end.

Facts about the messages before and after a receiver are facts about `take` and
`drop`; the lemmas say how a message that is sent or taken moves them.

A `Receiver` keeps what it was given and how much it has missed.  It is given messages of the channel
since it subscribed, in order and none twice, and every other one is counted
(`Receiver.Sound.receive`); where it has missed none, it has all of them (`Receiver.Sound.taken_eq`).
-/

import Mathlib.Data.List.Basic

namespace Lib

variable {α : Type*} {P : α → Prop} {log : List α} {n : ℕ} {x : α}

/-- What a receiver is given: nothing yet, how many messages it has missed, or the
next message. -/
inductive Recv (α : Type*)
  | empty
  | lagged (missed : ℕ)
  | got (x : α)

/-- The answer to a receiver that has taken `next` of the messages `log`. -/
def recv (capacity : ℕ) (log : List α) (next : ℕ) : Recv α :=
  if capacity < log.length - next then .lagged (log.length - next - capacity)
  else match log[next]? with
    | some x => .got x
    | none => .empty

theorem recv_eq_got {capacity : ℕ} (h : recv capacity log n = .got x) : log[n]? = some x := by
  unfold recv at h
  split_ifs at h with hlag
  cases hx : log[n]? with
  | none =>
      rw [hx] at h
      cases h
  | some y =>
      rw [hx] at h
      cases h
      rfl

theorem forall_take_append {news : List α} (hn : n ≤ log.length) (h : ∀ y ∈ log.take n, P y) :
    ∀ y ∈ (log ++ news).take n, P y := by
  rw [List.take_append_of_le_length hn]
  exact h

theorem forall_drop_append {news : List α} (h : ∀ y ∈ log.drop n, P y) (hnews : ∀ y ∈ news, P y) :
    ∀ y ∈ (log ++ news).drop n, P y := by
  intro y hy
  rw [List.drop_append, List.mem_append] at hy
  rcases hy with hy | hy
  · exact h y hy
  · exact hnews y (List.mem_of_mem_drop hy)

theorem forall_take_succ (h : ∀ y ∈ log.take n, P y) (hx : log[n]? = some x) (hP : P x) :
    ∀ y ∈ log.take (n + 1), P y := by
  intro y hy
  rw [List.take_add_one, hx, List.mem_append] at hy
  rcases hy with hy | hy
  · exact h y hy
  · obtain rfl := List.mem_singleton.1 hy
    exact hP

theorem forall_drop_succ (h : ∀ y ∈ log.drop n, P y) : ∀ y ∈ log.drop (n + 1), P y := by
  intro y hy
  rw [← List.drop_drop] at hy
  exact h y (List.mem_of_mem_drop hy)

/-- A receiver that has missed nothing that matters may start at the end. -/
theorem forall_of_take_drop (h : ∀ y ∈ log.take n, P y) (h' : ∀ y ∈ log.drop n, P y) :
    ∀ y ∈ log, P y := by
  intro y hy
  rw [← List.take_append_drop n log, List.mem_append] at hy
  exact hy.elim (h y) (h' y)

theorem mem_drop_of_getElem? (hx : log[n]? = some x) : x ∈ log.drop n := by
  rw [← List.head?_drop] at hx
  exact List.mem_of_mem_head? hx

/-! ### Receivers -/

/-- A receiver: where it has subscribed, how far it is, what it was given and what it has missed. -/
structure Receiver (α : Type*) where
  start : ℕ
  next : ℕ
  taken : List α := []
  missed : ℕ := 0

namespace Receiver

/-- A receiver takes what it is given. -/
def receive (capacity : ℕ) (log : List α) (r : Receiver α) : Receiver α :=
  match recv capacity log r.next with
  | .empty => r
  | .lagged missed => { r with next := r.next + missed, missed := r.missed + missed }
  | .got x => { r with next := r.next + 1, taken := r.taken ++ [x] }

theorem start_receive (capacity : ℕ) (log : List α) (r : Receiver α) :
    (r.receive capacity log).start = r.start := by
  unfold receive
  cases recv capacity log r.next <;> rfl

/-- What a receiver was given, and what it has missed, is what was sent since it subscribed. -/
structure Sound (log : List α) (r : Receiver α) : Prop where
  start_le : r.start ≤ r.next
  next_le : r.next ≤ log.length
  sublist : r.taken.Sublist ((log.take r.next).drop r.start)
  count : r.taken.length + r.missed = r.next - r.start

variable {capacity : ℕ} {r : Receiver α} {news : List α}

/-- A receiver that subscribes starts at the end. -/
theorem sound_subscribe (log : List α) :
    Sound log { start := log.length, next := log.length } :=
  ⟨Nat.le_refl _, Nat.le_refl _, List.nil_sublist _, (Nat.sub_self _).symm⟩

/-- What is sent leaves a receiver as it is. -/
theorem Sound.append (h : Sound log r) : Sound (log ++ news) r where
  start_le := h.start_le
  next_le := by
    rw [List.length_append]
    exact Nat.le_trans h.next_le (Nat.le_add_right _ _)
  sublist := by
    rw [List.take_append_of_le_length h.next_le]
    exact h.sublist
  count := h.count

/-- **A receiver loses count of nothing.** -/
theorem Sound.receive (h : Sound log r) : Sound log (r.receive capacity log) := by
  have hstart := h.start_le
  have hnext := h.next_le
  have hcount := h.count
  unfold Receiver.receive
  cases hrecv : recv capacity log r.next with
  | empty => exact h
  | lagged missed =>
      have hmissed : missed = log.length - r.next - capacity := by
        unfold recv at hrecv
        split_ifs at hrecv with hlag
        · exact (Recv.lagged.inj hrecv).symm
        · cases hx : log[r.next]? with
          | none => rw [hx] at hrecv; cases hrecv
          | some x => rw [hx] at hrecv; cases hrecv
      refine ⟨?_, ?_, ?_, ?_⟩
      · dsimp only
        omega
      · dsimp only
        omega
      · refine h.sublist.trans (List.Sublist.drop ?_ _)
        exact (List.take_prefix_take_left (Nat.le_add_right _ _)).sublist
      · dsimp only
        omega
  | got x =>
      have hx := recv_eq_got hrecv
      have hlt : r.next < log.length := (List.getElem?_eq_some_iff.1 hx).1
      refine ⟨?_, ?_, ?_, ?_⟩
      · dsimp only
        omega
      · exact hlt
      · dsimp only
        rw [List.take_add_one, hx, List.drop_append_of_le_length (by
          rw [List.length_take]
          omega)]
        exact h.sublist.append (List.Sublist.refl _)
      · dsimp only
        rw [List.length_append, List.length_singleton]
        omega

/-- **A receiver that has missed nothing** has all that it has come past. -/
theorem Sound.taken_eq (h : Sound log r) (hmissed : r.missed = 0) :
    r.taken = (log.take r.next).drop r.start := by
  refine h.sublist.eq_of_length ?_
  have hcount := h.count
  have hnext := h.next_le
  rw [List.length_drop, List.length_take, Nat.min_eq_left hnext]
  omega

/-- Messages are missed where more of them wait than the channel keeps. -/
theorem missed_receive (h : log.length - r.next ≤ capacity) :
    (r.receive capacity log).missed = r.missed := by
  unfold Receiver.receive recv
  rw [if_neg (Nat.not_lt.2 h)]
  cases log[r.next]? with
  | none => rfl
  | some x => rfl

/-- Where nothing is given, nothing waits. -/
theorem Sound.next_eq_length (h : Sound log r) (hempty : recv capacity log r.next = .empty) :
    r.next = log.length := by
  have hnext := h.next_le
  unfold recv at hempty
  split_ifs at hempty with hlag
  cases hx : log[r.next]? with
  | none =>
      have := List.getElem?_eq_none_iff.1 hx
      omega
  | some x =>
      rw [hx] at hempty
      cases hempty

end Receiver

end Lib
