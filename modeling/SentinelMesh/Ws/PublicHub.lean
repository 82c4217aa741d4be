/-
# The public socket

`WsHub` of `ws/hub.rs` and `handle_public_ws` of `ws/mod.rs`.  The hub keeps one bounded channel a
county, made when somebody subscribes to it, and one for all; a message about a county goes to both.
A socket forwards what its channel gives it, and what its client sends is not looked at.

Any number of sockets come and go between the broadcasts, each as fast as its client.  A socket is
sent messages of its county since it subscribed, in order and none twice, and what it is not sent, it
has been told that it has missed; a socket that never lags by more than the channel keeps has all of
them (`frames_sublist`).
-/

import SentinelMesh.Lib.Channel
import SentinelMesh.Lib.Run
import SentinelMesh.Lib.Table

namespace SentinelMesh
namespace Ws
namespace PublicHub

open Lib

/-- `CHANNEL_CAPACITY`. -/
def channelCapacity : ℕ := 256

/-- `WsHub`: the channels, each with all that was sent on it. -/
abbrev Senders := Table String (List String)

/-- `subscribe`: the channel of a county is made if it is not there. -/
def subscribe (county : String) (senders : Senders) : Senders := senders.insert county []

/-- The messages of a channel. -/
def log (county : String) (senders : Senders) : List String := (senders.find? county).getD []

/-- `broadcast`. -/
def broadcast (county : Option String) (msg : String) (senders : Senders) : Senders :=
  let senders := county.elim senders fun c => senders.modify c fun log => log ++ [msg]
  senders.modify "global" fun log => log ++ [msg]

/-- A socket, with its receiver: what was taken is what was sent to the client. -/
structure Socket where
  county : String
  rx : Receiver String
  isOpen : Bool := true

/-- The hub and the sockets. -/
structure Sys where
  senders : Senders := Table.empty
  sockets : List Socket := []

/-- What happens: a socket is opened, a message is broadcast, or a socket turns, to its channel or to
its client. -/
inductive Act
  | connect (county : Option String)
  | broadcast (county : Option String) (msg : String)
  | receive (k : ℕ) (sendFails : Bool)
  | client (k : ℕ) (closes : Bool)

/-- `ws_handler`. -/
def connect (county : Option String) (s : Sys) : Sys :=
  let county := county.getD "global"
  let senders := subscribe county s.senders
  let length := (log county senders).length
  { senders, sockets := s.sockets ++ [{ county, rx := { start := length, next := length } }] }

/-- A socket turns to its channel; where a message cannot be sent, it closes. -/
def receive (sendFails : Bool) (senders : Senders) (socket : Socket) : Socket :=
  if socket.isOpen then
    let rx := socket.rx.receive channelCapacity (log socket.county senders)
    if sendFails ∧ rx.taken ≠ socket.rx.taken then { socket with isOpen := false }
    else { socket with rx }
  else socket

/-- One action. -/
def step (s : Sys) : Act → Sys
  | .connect county => connect county s
  | .broadcast county msg => { s with senders := broadcast county msg s.senders }
  | .receive k sendFails => { s with sockets := s.sockets.modify k (receive sendFails s.senders) }
  | .client k closes =>
    { s with sockets := s.sockets.modify k fun socket =>
      { socket with isOpen := socket.isOpen && !closes } }

/-! ### What is addressed to a county -/

/-- What an action sends on the channel of a county. -/
def addressed (county : String) : Act → List String
  | .broadcast county' msg =>
    (if county' = some county then [msg] else []) ++ if county = "global" then [msg] else []
  | _ => []

variable {s : Sys} {county : String} {k : ℕ} {socket : Socket}

theorem find?_broadcast (county' : Option String) (msg : String) (senders : Senders) :
    (broadcast county' msg senders).find? county =
      (senders.find? county).map fun log => log ++ addressed county (.broadcast county' msg) := by
  unfold broadcast addressed
  dsimp only
  rw [Table.find?_modify]
  cases county' with
  | none =>
      have hnone : ¬(none : Option String) = some county := Option.some_ne_none county ∘ Eq.symm
      rw [Option.elim_none, if_neg hnone, List.nil_append]
      split_ifs with hglobal
      · rw [hglobal]
      · simp
  | some c =>
      rw [Option.elim_some, Table.find?_modify, Table.find?_modify]
      by_cases hc : county = c
      · subst hc
        rw [if_pos rfl]
        by_cases hglobal : county = "global"
        · subst hglobal
          simp [Option.map_map, Function.comp_def]
        · simp [hglobal]
      · have hc' : ¬some c = some county := fun h => hc (Option.some.inj h).symm
        rw [if_neg hc, if_neg hc', List.nil_append]
        by_cases hglobal : county = "global"
        · subst hglobal
          rw [if_pos rfl, if_pos rfl, if_neg hc]
        · simp [hglobal]

/-- **What an action does to a channel** that is there: what it addresses to the county is added. -/
theorem find?_step (a : Act) {senders : List String} (h : s.senders.find? county = some senders) :
    (step s a).senders.find? county = some (senders ++ addressed county a) := by
  cases a with
  | connect county' =>
      change (s.senders.insert _ []).find? county = some (senders ++ [])
      rw [Table.find?_insert, List.append_nil]
      split_ifs with hcounty
      · rw [← hcounty, h]
        rfl
      · exact h
  | broadcast county' msg =>
      change (broadcast county' msg s.senders).find? county = _
      rw [find?_broadcast, h]
      rfl
  | receive k sendFails =>
      rw [show addressed county (.receive k sendFails) = [] from rfl, List.append_nil]
      exact h
  | client k closes =>
      rw [show addressed county (.client k closes) = [] from rfl, List.append_nil]
      exact h

/-- A socket and its channel: what was sent on it before the socket and since. -/
structure Follows (county : String) (start : ℕ) (msgs : List String) (k : ℕ) (s : Sys) : Prop where
  channel : ∃ old, s.senders.find? county = some (old ++ msgs) ∧ old.length = start
  socket : ∃ socket, s.sockets[k]? = some socket ∧ socket.county = county ∧
    socket.rx.start = start ∧ socket.rx.Sound (log county s.senders)

/-- A socket goes on with its county and where it has subscribed. -/
theorem receive_keeps (sendFails : Bool) {senders : Senders}
    (h : socket.rx.Sound (log socket.county senders)) :
    (receive sendFails senders socket).county = socket.county ∧
      (receive sendFails senders socket).rx.start = socket.rx.start ∧
      (receive sendFails senders socket).rx.Sound (log socket.county senders) := by
  unfold receive
  dsimp only
  split_ifs with hopen hfails
  · exact ⟨rfl, rfl, h⟩
  · exact ⟨rfl, Receiver.start_receive _ _ _, h.receive⟩
  · exact ⟨rfl, rfl, h⟩

theorem follows_step {start : ℕ} {msgs : List String} (h : Follows county start msgs k s) (a : Act) :
    Follows county start (msgs ++ addressed county a) k (step s a) := by
  obtain ⟨⟨old, hold, hstart⟩, socket, hsocket, hcounty, hrx, hsound⟩ := h
  have hchannel := find?_step a hold
  have hlog : log county (step s a).senders = log county s.senders ++ addressed county a := by
    unfold log
    rw [hchannel, hold]
    rfl
  refine ⟨⟨old, by rw [hchannel, List.append_assoc], hstart⟩, ?_⟩
  have hkeep : socket.rx.Sound (log county (step s a).senders) := by
    rw [hlog]
    exact hsound.append
  cases a with
  | connect county' =>
      refine ⟨socket, ?_, hcounty, hrx, hkeep⟩
      change (s.sockets ++ _)[k]? = some socket
      rw [List.getElem?_append_left (List.getElem?_eq_some_iff.1 hsocket).1, hsocket]
  | broadcast county' msg => exact ⟨socket, hsocket, hcounty, hrx, hkeep⟩
  | receive k' sendFails =>
      change ∃ socket', (s.sockets.modify k' (receive sendFails s.senders))[k]? = some socket' ∧ _
      rw [List.getElem?_modify, hsocket]
      have hsound' : socket.rx.Sound (log socket.county s.senders) := hcounty.symm ▸ hsound
      obtain ⟨hc, hr, hs⟩ := receive_keeps sendFails hsound'
      split_ifs with hk
      · exact ⟨_, rfl, hc.trans hcounty, hr.trans hrx, hcounty ▸ hs⟩
      · exact ⟨socket, rfl, hcounty, hrx, hsound⟩
  | client k' closes =>
      change ∃ socket', (s.sockets.modify k' _)[k]? = some socket' ∧ _
      rw [List.getElem?_modify, hsocket]
      split_ifs with hk
      · exact ⟨_, rfl, hcounty, hrx, hkeep⟩
      · exact ⟨socket, rfl, hcounty, hrx, hkeep⟩

/-- A socket that is opened. -/
theorem follows_connect (county : Option String) (s : Sys) :
    Follows (county.getD "global") (log (county.getD "global") (step s (.connect county)).senders).length
      [] s.sockets.length (step s (.connect county)) := by
  have hchannel : (step s (.connect county)).senders.find? (county.getD "global") =
      some ((s.senders.find? (county.getD "global")).getD []) := by
    change (s.senders.insert _ []).find? _ = _
    rw [Table.find?_insert, if_pos rfl]
  have hlog : log (county.getD "global") (step s (.connect county)).senders =
      (s.senders.find? (county.getD "global")).getD [] := by
    unfold log
    rw [hchannel]
    rfl
  refine ⟨⟨_, by rw [hchannel, List.append_nil], by rw [hlog]⟩, ?_⟩
  refine ⟨_, List.getElem?_concat_length, rfl, rfl, Receiver.sound_subscribe _⟩

theorem follows_run {start : ℕ} {msgs : List String} (h : Follows county start msgs k s)
    (as : List Act) : Follows county start (msgs ++ as.flatMap (addressed county)) k (run step s as) := by
  induction as generalizing s msgs with
  | nil => rwa [List.flatMap_nil, List.append_nil]
  | cons a as ih =>
      rw [List.flatMap_cons, ← List.append_assoc]
      exact ih (follows_step h a)

/-- No more messages wait for the socket than its channel keeps, while it is open. -/
def KeepsUp (k : ℕ) (s : Sys) : Prop :=
  ∀ socket, s.sockets[k]? = some socket → socket.isOpen = true →
    (log socket.county s.senders).length - socket.rx.next ≤ channelCapacity

/-- A socket that keeps up misses nothing more. -/
theorem missed_step (a : Act) (hk : KeepsUp k s)
    (h : ∃ socket, s.sockets[k]? = some socket ∧ socket.rx.missed = 0) :
    ∃ socket, (step s a).sockets[k]? = some socket ∧ socket.rx.missed = 0 := by
  obtain ⟨socket, hsocket, hmissed⟩ := h
  cases a with
  | connect county' =>
      refine ⟨socket, ?_, hmissed⟩
      change (s.sockets ++ _)[k]? = some socket
      rw [List.getElem?_append_left (List.getElem?_eq_some_iff.1 hsocket).1, hsocket]
  | broadcast county' msg => exact ⟨socket, hsocket, hmissed⟩
  | receive k' sendFails =>
      change ∃ socket', (s.sockets.modify k' (receive sendFails s.senders))[k]? = some socket' ∧ _
      rw [List.getElem?_modify, hsocket]
      split_ifs with hk'
      · refine ⟨_, rfl, ?_⟩
        unfold receive
        dsimp only
        split_ifs with hopen
        · exact hmissed
        · exact (Receiver.missed_receive (hk socket hsocket hopen)).trans hmissed
        · exact hmissed
      · exact ⟨socket, rfl, hmissed⟩
  | client k' closes =>
      change ∃ socket', (s.sockets.modify k' _)[k]? = some socket' ∧ _
      rw [List.getElem?_modify, hsocket]
      split_ifs
      · exact ⟨_, rfl, hmissed⟩
      · exact ⟨socket, rfl, hmissed⟩

theorem missed_run {as : List Act} (hk : ∀ e ∈ events step s as, KeepsUp k e.pre)
    (h : ∃ socket, s.sockets[k]? = some socket ∧ socket.rx.missed = 0) :
    ∃ socket, (run step s as).sockets[k]? = some socket ∧ socket.rx.missed = 0 :=
  run_induction_of (P := fun s => ∃ socket, s.sockets[k]? = some socket ∧ socket.rx.missed = 0)
    (G := fun s _ => KeepsUp k s) h (fun _ a h hk => missed_step a hk h) hk

/-- **What a socket is sent**, whatever else happens: messages of its county since it was opened, in
order and none twice.  It has been told how many it has missed; if none, it was sent the first of
them, and where nothing waits for it, it was sent or told of all.  It misses none as long as it keeps
up. -/
theorem frames_sublist (before after : List Act) (county : Option String) :
    let opened := run step {} (before ++ [.connect county])
    let s := run step opened after
    let k := (run step {} before).sockets.length
    let msgs := after.flatMap (addressed (county.getD "global"))
    ∃ socket, s.sockets[k]? = some socket ∧ socket.rx.taken.Sublist msgs ∧
      (socket.rx.missed = 0 → socket.rx.taken <+: msgs) ∧
      (recv channelCapacity (log socket.county s.senders) socket.rx.next = .empty →
        socket.rx.taken.length + socket.rx.missed = msgs.length) ∧
      ((∀ e ∈ events step opened after, KeepsUp k e.pre) → socket.rx.missed = 0) := by
  intro opened s k msgs
  have hopened : Follows (county.getD "global")
      (log (county.getD "global") opened.senders).length [] k opened := by
    have h := follows_connect county (run step {} before)
    change Follows _ (log _ (run step {} (before ++ [.connect county])).senders).length _ _
      (run step {} (before ++ [.connect county]))
    rwa [run_concat]
  obtain ⟨⟨old, hold, hstart⟩, socket, hsocket, hcounty, hrx, hsound⟩ := follows_run hopened after
  rw [List.nil_append] at hold
  have hlog : log (county.getD "global") (run step opened after).senders = old ++ msgs := by
    unfold log
    rw [hold]
    rfl
  rw [hlog] at hsound
  have hstart' : old.length = socket.rx.start := hstart.trans hrx.symm
  have hpassed : ((old ++ msgs).take socket.rx.next).drop socket.rx.start =
      msgs.take (socket.rx.next - socket.rx.start) := by
    rw [List.drop_take, List.drop_left' hstart']
  refine ⟨socket, hsocket, ?_, fun hmissed => ?_, fun hempty => ?_, fun hk => ?_⟩
  · have hsublist := hsound.sublist
    rw [hpassed] at hsublist
    exact hsublist.trans (List.take_sublist _ _)
  · rw [hsound.taken_eq hmissed, hpassed]
    exact List.take_prefix _ _
  · rw [hcounty, hlog] at hempty
    rw [hsound.count, hsound.next_eq_length hempty, List.length_append, ← hstart']
    omega
  · have hfirst : ∃ socket, opened.sockets[k]? = some socket ∧ socket.rx.missed = 0 := by
      obtain ⟨first, hfirst, -, hrx₁, hsound₁⟩ := hopened.socket
      have hnext := hsound₁.next_le
      have hcount := hsound₁.count
      exact ⟨first, hfirst, by omega⟩
    obtain ⟨socket', hsocket', hmissed⟩ := missed_run hk hfirst
    obtain rfl := Option.some.inj (hsocket.symm.trans hsocket')
    exact hmissed

end PublicHub
end Ws
end SentinelMesh
