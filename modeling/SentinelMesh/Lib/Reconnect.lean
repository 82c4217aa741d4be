/-
# A client that connects again

A client holds one socket after another: when one closes, a timer is set, and when the timer fires the
next socket is opened.  `α` is what the client and its peer keep of a connection.

Sockets and timers are lists, and nothing but the handlers keeps a second one away.  `Single` is that
they do: all sockets but the last are closed, and a timer waits only while the last one is closed as
well, so that whatever happens on a socket that is not closed happens on the one that the client holds
(`Single.eq_of_live`).
-/

import Mathlib.Data.List.Basic
import Mathlib.Tactic.Cases

namespace Lib

/-- `readyState`. -/
inductive ReadyState
  | connecting
  | opened
  | closing
  | closed
  deriving DecidableEq

/-- A socket. -/
structure Link (α : Type*) where
  ready : ReadyState := .connecting
  data : α

/-- A client: its sockets, the timers that wait, and the last one that was set. -/
structure Reconnect (α : Type*) where
  sockets : List (Link α) := []
  timers : List ℕ := []
  reconnectTimer : ℕ := 0

namespace Reconnect

variable {α : Type*} {c : Reconnect α} {k j : ℕ} {link link' : Link α}

/-- A socket is opened. -/
def connect (c : Reconnect α) (x : α) : Reconnect α :=
  { c with sockets := c.sockets ++ [{ data := x }] }

/-- Some socket changes. -/
def modify (c : Reconnect α) (k : ℕ) (f : Link α → Link α) : Reconnect α :=
  { c with sockets := c.sockets.modify k f }

/-- The place of the socket that the client holds. -/
def current (c : Reconnect α) : ℕ := c.sockets.length - 1

/-- A socket has closed; unless it was asked to, a timer is set. -/
def close (c : Reconnect α) (k : ℕ) (clean : Bool) : Reconnect α :=
  let c := c.modify k fun link => { link with ready := .closed }
  if clean then c
  else { c with timers := c.timers ++ [c.reconnectTimer + 1], reconnectTimer := c.reconnectTimer + 1 }

/-- A timer fires. -/
def fire (c : Reconnect α) (i : ℕ) (x : α) : Reconnect α :=
  connect { c with timers := c.timers.erase i } x

/-- The client lets go of the socket that it holds, and of the last timer. -/
def release (c : Reconnect α) : Reconnect α :=
  let c := c.modify c.current fun link =>
    if link.ready = .connecting ∨ link.ready = .opened then { link with ready := .closing } else link
  { c with timers := c.timers.erase c.reconnectTimer }

/-! ### Sockets by their places -/

theorem getElem?_modify (f : Link α → Link α) :
    (c.modify k f).sockets[j]? = (c.sockets[j]?).map fun link => if k = j then f link else link :=
  List.getElem?_modify ..

/-- A socket of a client, one of whose sockets has changed. -/
theorem getElem?_modify_eq_some {f : Link α → Link α} (h : (c.modify k f).sockets[j]? = some link') :
    ∃ link, c.sockets[j]? = some link ∧ link' = if k = j then f link else link := by
  rw [getElem?_modify] at h
  obtain ⟨link, hlink, rfl⟩ := Option.map_eq_some_iff.1 h
  exact ⟨link, hlink, rfl⟩

theorem modify_modify (c : Reconnect α) (k : ℕ) (f g : Link α → Link α) :
    (c.modify k f).modify k g = c.modify k (g ∘ f) := by
  unfold modify
  rw [List.modify_modify_eq]

/-- A socket of a client that has connected. -/
theorem getElem?_connect_eq_some {x : α} (h : (c.connect x).sockets[j]? = some link) :
    c.sockets[j]? = some link ∨ j = c.sockets.length ∧ link = { data := x } := by
  have hlt : j < c.sockets.length + 1 := by
    have hbound := (List.getElem?_eq_some_iff.1 h).1
    simpa [connect] using hbound
  rcases Nat.lt_succ_iff_lt_or_eq.1 hlt with hold | rfl
  · left
    rwa [connect, List.getElem?_append_left hold] at h
  · right
    rw [connect, List.getElem?_concat_length] at h
    exact ⟨rfl, (Option.some.inj h).symm⟩

/-! ### One connection at a time -/

/-- All sockets are closed. -/
def AllClosed (c : Reconnect α) : Prop :=
  ∀ (j : ℕ) (link : Link α), c.sockets[j]? = some link → link.ready = .closed

/-- All sockets but the last are closed, and a timer waits only while that one is closed too. -/
structure Single (c : Reconnect α) : Prop where
  closed : ∀ (j : ℕ) (link : Link α), c.sockets[j]? = some link → j ≠ c.current → link.ready = .closed
  timers : c.timers = [] ∨ c.timers = [c.reconnectTimer] ∧ c.AllClosed

/-- **A socket that is not closed is the one that the client holds.** -/
theorem Single.eq_current (h : c.Single) (hlink : c.sockets[j]? = some link)
    (hlive : link.ready ≠ .closed) : j = c.current := by
  by_contra hne
  exact hlive (h.closed j link hlink hne)

theorem Single.eq_of_live (h : c.Single) (hlink : c.sockets[j]? = some link)
    (hlive : link.ready ≠ .closed) (hlink' : c.sockets[k]? = some link')
    (hlive' : link'.ready ≠ .closed) : j = k :=
  (h.eq_current hlink hlive).trans (h.eq_current hlink' hlive').symm

/-- No timer waits while a socket is not closed. -/
theorem Single.timers_eq_nil (h : c.Single) (hlink : c.sockets[j]? = some link)
    (hlive : link.ready ≠ .closed) : c.timers = [] := by
  rcases h.timers with hnil | ⟨-, hall⟩
  · exact hnil
  · exact absurd (hall j link hlink) hlive

/-- There is one timer at most. -/
theorem Single.length_timers_le (h : c.Single) : c.timers.length ≤ 1 := by
  rcases h.timers with hnil | ⟨hone, -⟩
  · simp [hnil]
  · simp [hone]

theorem single_init (x : α) : (connect {} x).Single := by
  refine ⟨fun j link hlink hne => ?_, .inl rfl⟩
  rcases getElem?_connect_eq_some hlink with hold | ⟨rfl, -⟩
  · cases hold
  · exact absurd rfl hne

/-- What changes in a socket, other than that it closes, keeps the client to one. -/
theorem Single.modify (h : c.Single) {f : Link α → Link α}
    (hf : ∀ link, c.sockets[k]? = some link → link.ready = .closed → (f link).ready = .closed) :
    (c.modify k f).Single := by
  have hready : ∀ (j : ℕ) (link' : Link α), (c.modify k f).sockets[j]? = some link' →
      ∃ link, c.sockets[j]? = some link ∧ (link.ready = .closed → link'.ready = .closed) := by
    intro j link' hlink'
    obtain ⟨link, hlink, rfl⟩ := getElem?_modify_eq_some hlink'
    refine ⟨link, hlink, fun hclosed => ?_⟩
    split_ifs with hkj
    · exact hf link (hkj ▸ hlink) hclosed
    · exact hclosed
  have hcurrent : (c.modify k f).current = c.current := by
    simp [current, Reconnect.modify]
  constructor
  · intro j link' hlink' hne
    obtain ⟨link, hlink, hclosed⟩ := hready j link' hlink'
    exact hclosed (h.closed j link hlink (hcurrent ▸ hne))
  · refine h.timers.imp_right fun ⟨hone, hall⟩ => ⟨hone, fun j link' hlink' => ?_⟩
    obtain ⟨link, hlink, hclosed⟩ := hready j link' hlink'
    exact hclosed (hall j link hlink)

/-- **When the last socket closes**, a timer is all there is. -/
theorem Single.close (h : c.Single) (hlink : c.sockets[k]? = some link)
    (hlive : link.ready ≠ .closed) (clean : Bool) :
    (c.close k clean).Single ∧ (c.close k clean).AllClosed := by
  have hall : (c.modify k fun link => { link with ready := .closed }).AllClosed := by
    intro j link' hlink'
    obtain ⟨link₀, hlink₀, rfl⟩ := getElem?_modify_eq_some hlink'
    split_ifs with hkj
    · rfl
    · by_contra hlive₀
      exact hkj (h.eq_of_live hlink hlive hlink₀ hlive₀)
  have hnil := h.timers_eq_nil hlink hlive
  unfold Reconnect.close
  dsimp only
  split_ifs
  · exact ⟨⟨fun j link' hlink' _ => hall j link' hlink', .inl hnil⟩, hall⟩
  · refine ⟨⟨fun j link' hlink' _ => hall j link' hlink', .inr ⟨?_, hall⟩⟩, hall⟩
    exact congrArg (· ++ [c.reconnectTimer + 1]) hnil

/-- **When a timer fires**, all sockets are closed, and the next is the only one. -/
theorem Single.fire (h : c.Single) {i : ℕ} (hi : i ∈ c.timers) (x : α) :
    (c.fire i x).Single ∧ c.AllClosed := by
  rcases h.timers with hnil | ⟨hone, hall⟩
  · rw [hnil] at hi
    cases hi
  · rw [hone, List.mem_singleton] at hi
    subst hi
    refine ⟨⟨fun j link hlink hne => ?_, .inl ?_⟩, hall⟩
    · rcases getElem?_connect_eq_some hlink with hold | ⟨rfl, -⟩
      · exact hall j link hold
      · exact absurd (by simp [current, Reconnect.fire, connect]) hne
    · change c.timers.erase c.reconnectTimer = []
      rw [hone, List.erase_cons_head]

/-- Letting go leaves no timer. -/
theorem Single.release (h : c.Single) : c.release.Single ∧ c.release.timers = [] := by
  have hnil : c.release.timers = [] := by
    change c.timers.erase c.reconnectTimer = []
    rcases h.timers with hnil | ⟨hone, -⟩
    · rw [hnil, List.erase_nil]
    · rw [hone, List.erase_cons_head]
  refine ⟨⟨?_, .inl hnil⟩, hnil⟩
  refine (Single.modify (k := c.current) h fun link _ hclosed => ?_).closed
  rw [if_neg (by simp [hclosed])]
  exact hclosed

end Reconnect
end Lib
