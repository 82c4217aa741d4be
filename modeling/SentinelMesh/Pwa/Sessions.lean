/-
# Sessions of the remote signer do not interfere, in time

A call that another has overtaken takes the generation after its first `await`, looks at it
once, and what it does when it fails is done to whatever session there is
(`session_disturbed`).

`Orderly` is what holds while every step is timely: a call that may still close or publish
has the current session where there is one, the sessions made before have smaller
generations, and after a disconnection that no connection follows nothing is left that could
open one.  `sessions_separate` is the result.
-/

import SentinelMesh.Pwa.SignerSteps
import SentinelMesh.Lib.Run
import Mathlib.Tactic.Common

namespace SentinelMesh
namespace Pwa
namespace Signer

open Lib

/-! ### Lists -/

/-- What a list holds after one entry was replaced. -/
theorem getElem?_of_set {α : Type} {l : List α} {x y : ℕ} {a b : α}
    (h : (l.set x a)[y]? = some b) : (y = x ∧ b = a) ∨ (y ≠ x ∧ l[y]? = some b) := by
  rw [List.getElem?_set] at h
  split_ifs at h with hxy hlt
  · exact Or.inl ⟨hxy.symm, (Option.some.inj h).symm⟩
  · exact Or.inr ⟨fun hyx => hxy hyx.symm, h⟩

/-- What a list holds after one entry was added. -/
theorem getElem?_of_append {α : Type} {l : List α} {y : ℕ} {a b : α}
    (h : (l ++ [a])[y]? = some b) : l[y]? = some b ∨ (y = l.length ∧ b = a) := by
  rcases lt_or_ge y l.length with hlt | hge
  · rw [List.getElem?_append_left hlt] at h
    exact Or.inl h
  · rw [List.getElem?_append_right hge, List.getElem?_singleton] at h
    split_ifs at h with hy
    exact Or.inr ⟨by omega, (Option.some.inj h).symm⟩

/-! ### The invariant -/

/-- After a disconnection that no connection follows. -/
structure Ended (s : Sys) (d : Call) : Prop where
  remote : s.remote = none
  waiting : ∀ (x : ℕ) (c : Call), s.calls[x]? = some c → c.task.isWaiting = true →
    c.turn < d.turn
  cleared : d.task = .cleared ∨ d.task.isSettled = true → s.stored = none
  settled : d.task.isSettled = true → s.identity.mode = .localKey ∧
    ∀ (x : ℕ) (c : Call), s.calls[x]? = some c → c.task.isActive = false

/-- No connection is called after the call `i`. -/
def LastCall (s : Sys) (i : ℕ) : Prop :=
  ∀ (j : ℕ) (c : Call), i < j → s.calls[j]? = some c →
    c.name ≠ .connectBunker ∧ c.name ≠ .reconnectBunker

/-- What holds while every step is timely. -/
structure Orderly (s : Sys) : Prop where
  turn_le : ∀ (x : ℕ) (c : Call), s.calls[x]? = some c → c.turn ≤ s.turns
  generation_le : ∀ (x : ℕ) (c : Call) (σ : Session), s.calls[x]? = some c → c.task.session? = some σ →
    σ.generation ≤ s.generation
  remote_le : ∀ r, s.remote = some r → r.generation ≤ s.generation
  named : ∀ (x : ℕ) (c : Call), s.calls[x]? = some c → c.name = .disconnectBunker →
    c.task.isEnding = true
  opening : ∀ (y : ℕ) (c : Call), s.calls[y]? = some c → c.task.isOpening = true → c.turn = s.turns →
    s.remote = none ∧
      (∀ (x : ℕ) (d : Call), x ≠ y → s.calls[x]? = some d → d.task.isActive = true →
        d.turn < s.turns) ∧
        ∀ (x : ℕ) (d : Call) (σ : Session), s.calls[x]? = some d → d.task.session? = some σ →
          σ.generation < s.generation
  current : ∀ r, s.remote = some r → ∀ (x : ℕ) (c : Call), s.calls[x]? = some c →
    (c.task.isActive = true → c.task.session? = some r) ∧
      ∀ σ, c.task.session? = some σ → σ = r ∨ σ.generation < r.generation
  going : ∀ (y : ℕ) (c : Call), s.calls[y]? = some c → c.task.isGoing = true → c.turn = s.turns →
    (∀ (x : ℕ) (d : Call), x ≠ y → s.calls[x]? = some d → d.task.isActive = false) ∧
      ¬ (s.identity.mode = .bunker ∧ s.identity.status = .ready) ∧
        (c.task.isSaving = true → s.remote = c.task.session?)
  last : ∀ (i : ℕ) (d : Call), s.calls[i]? = some d → d.name = .disconnectBunker → LastCall s i →
    Ended s d

variable {localPubkey : Pubkey} {s s' : Sys} {x : ℕ} {c : Call} {t : Task} {a : Act}

/-- At the start there are no calls. -/
theorem orderly_init (localPubkey : Pubkey) (stored : Option StoredBunkerConnection) :
    Orderly (Sys.init localPubkey stored) := by
  have hno : ∀ {x : ℕ} {c : Call}, (Sys.init localPubkey stored).calls[x]? = some c → False :=
    fun h => by simp [Sys.init] at h
  exact
    { turn_le := fun _ _ h => (hno h).elim
      generation_le := fun _ _ _ h => (hno h).elim
      remote_le := fun _ hr => by cases hr
      named := fun _ _ h => (hno h).elim
      opening := fun _ _ h => (hno h).elim
      current := fun _ hr => by cases hr
      going := fun _ _ h => (hno h).elim
      last := fun _ _ h => (hno h).elim }

/-- What is going is active. -/
theorem isActive_of_isGoing (h : t.isGoing = true) : t.isActive = true := by
  cases t with
  | session o await => rfl
  | _ => cases h

theorem isGoing_of_isSaving (h : t.isSaving = true) : t.isGoing = true := by
  cases t with
  | session o await => cases await <;> first | rfl | cases h
  | _ => cases h

theorem isActive_of_isOpening (h : t.isOpening = true) : t.isActive = true := by
  cases t with
  | opening stored persist => rfl
  | _ => cases h

theorem isWaiting_of_isActive (h : t.isActive = true) : t.isWaiting = true := by
  cases t with
  | loading => rfl
  | loaded found => rfl
  | _ => exact h

/-- A call that ends has nothing more to close. -/
theorem isWaiting_of_isEnding (h : t.isEnding = true) : t.isWaiting = false := by
  cases t with
  | settled o => rfl
  | closing => rfl
  | clearing => rfl
  | cleared => rfl
  | _ => cases h

theorem isOpening_of_isGoing (h : t.isGoing = true) : t.isOpening = false := by
  cases t with
  | session o await => rfl
  | _ => cases h

/-- No connection follows, before or after a step that keeps the names. -/
theorem lastCall_of_set {i : ℕ} (c' : Call) (hc : s.calls[x]? = some c)
    (hcalls : s'.calls = s.calls.set x c') (hname : c'.name = c.name) (h : LastCall s' i) :
    LastCall s i := by
  intro j e hij he
  by_cases hjx : j = x
  · subst hjx
    obtain rfl : e = c := Option.some.inj (he.symm.trans hc)
    have hlt : j < s.calls.length := (List.getElem?_eq_some_iff.1 he).1
    have hset : s'.calls[j]? = some c' := by rw [hcalls, List.getElem?_set_self hlt]
    rw [← hname]
    exact h j c' hij hset
  · exact h j e hij (by rw [hcalls, List.getElem?_set_ne (Ne.symm hjx), he])

/-- No call has the next turn. -/
theorem Orderly.turn_ne (hs : Orderly s) {y : ℕ} {d : Call} (hd : s.calls[y]? = some d) :
    d.turn ≠ s.turns + 1 := by
  have hle := hs.turn_le y d hd
  omega

/-- A call that is not about to end is no disconnection. -/
theorem Orderly.name_ne (hs : Orderly s) (hc : s.calls[x]? = some c) (ht : c.task.isEnding = false) :
    c.name ≠ .disconnectBunker := by
  intro hdis
  have hend := hs.named x c hc hdis
  rw [ht] at hend
  cases hend

/-! ### A call moves -/

/-- The calls after one has moved. -/
theorem Moves.get {y : ℕ} {d : Call} (h : Moves s x c t s') (hd : s'.calls[y]? = some d) :
    (y = x ∧ d = { c with task := t }) ∨ (y ≠ x ∧ s.calls[y]? = some d) := by
  rw [h.calls] at hd
  exact getElem?_of_set hd

theorem opening_moves (hs : Orderly s) (hc : s.calls[x]? = some c) (h : Moves s x c t s') {y : ℕ}
    {d : Call} (hd : s'.calls[y]? = some d) (ht : d.task.isOpening = true)
    (hturn : d.turn = s'.turns) :
    s'.remote = none ∧
      (∀ (z : ℕ) (e : Call), z ≠ y → s'.calls[z]? = some e → e.task.isActive = true →
        e.turn < s'.turns) ∧
        ∀ (z : ℕ) (e : Call) (σ : Session), s'.calls[z]? = some e → e.task.session? = some σ →
          σ.generation < s'.generation := by
  rcases h.get hd with ⟨rfl, rfl⟩ | ⟨_, hd⟩
  · exact absurd ht (by rw [h.opening]; exact Bool.false_ne_true)
  · rw [h.turns] at hturn ⊢
    obtain ⟨hremote, hactive, hmade⟩ := hs.opening y d hd ht hturn
    refine ⟨?_, fun z e hne he hact => ?_, fun z e σ he hσ => lt_of_lt_of_le ?_ h.generation⟩
    · rcases h.remote with hsame | ⟨hnone, _⟩
      · rw [hsame, hremote]
      · exact hnone
    · rcases h.get he with ⟨rfl, rfl⟩ | ⟨_, he⟩
      · exact hactive z c hne hc (h.active hact).1
      · exact hactive z e hne he hact
    · rcases h.get he with ⟨rfl, rfl⟩ | ⟨_, he⟩
      · exact hmade z c σ hc (h.session σ hσ)
      · exact hmade z e σ he hσ

theorem current_moves (hs : Orderly s) (hc : s.calls[x]? = some c) (h : Moves s x c t s')
    {r : Session} (hr : s'.remote = some r) {y : ℕ} {d : Call} (hd : s'.calls[y]? = some d) :
    (d.task.isActive = true → d.task.session? = some r) ∧
      ∀ σ, d.task.session? = some σ → σ = r ∨ σ.generation < r.generation := by
  have hr' : s.remote = some r := by
    rcases h.remote with hsame | ⟨hnone, _⟩
    · rw [← hsame, hr]
    · rw [hnone] at hr
      cases hr
  rcases h.get hd with ⟨rfl, rfl⟩ | ⟨_, hd⟩
  · obtain ⟨hact, hmade⟩ := hs.current r hr' y c hc
    refine ⟨fun ha => ?_, fun σ hσ => hmade σ (h.session σ hσ)⟩
    obtain ⟨ha, hsession⟩ := h.active ha
    exact hsession.trans (hact ha)
  · exact hs.current r hr' y d hd

/-- The generation is that of the current session, so the session is. -/
theorem remote_eq_of_generation (hs : Orderly s) (hc : s.calls[x]? = some c) {σ : Session}
    (hσ : c.task.session? = some σ) (hgen : s.remote.map Session.generation = some σ.generation) :
    s.remote = some σ := by
  obtain ⟨r, hr, hrgen⟩ := Option.map_eq_some_iff.1 hgen
  rcases (hs.current r hr x c hc).2 σ hσ with rfl | hlt
  · exact hr
  · omega

/-- A call that is going does not publish anything as ready. -/
theorem not_ready_moves (h : Moves s x c t s') (hact : c.task.isActive = true → t.isGoing = true)
    (hready : ¬ (s.identity.mode = .bunker ∧ s.identity.status = .ready)) :
    ¬ (s'.identity.mode = .bunker ∧ s'.identity.status = .ready) := by
  rcases h.identity with hid | hid | ⟨ha, hnot⟩ | ⟨_, hid⟩
  · rw [hid]
    exact hready
  · rw [hid]
    exact fun h => by cases h.1
  · rw [hact ha] at hnot
    cases hnot
  · rw [hid]
    exact fun h => by cases h.2

theorem going_moves (hs : Orderly s) (hc : s.calls[x]? = some c) (h : Moves s x c t s') {y : ℕ}
    {d : Call} (hd : s'.calls[y]? = some d) (ht : d.task.isGoing = true)
    (hturn : d.turn = s'.turns) :
    (∀ (z : ℕ) (e : Call), z ≠ y → s'.calls[z]? = some e → e.task.isActive = false) ∧
      ¬ (s'.identity.mode = .bunker ∧ s'.identity.status = .ready) ∧
        (d.task.isSaving = true → s'.remote = d.task.session?) := by
  rw [h.turns] at hturn
  rcases h.get hd with ⟨rfl, rfl⟩ | ⟨hyx, hd⟩
  · -- it is the call that moves
    obtain ⟨hothers, hready, hsaving⟩ := hs.going y c hc (h.going ht) hturn
    have hsame : s'.remote = s.remote := by
      rcases h.remote with hsame | ⟨_, _, hnot⟩
      · exact hsame
      · rw [ht] at hnot
        cases hnot
    obtain ⟨hact, hsession⟩ := h.active (isActive_of_isGoing ht)
    refine ⟨fun z e hne he => ?_, not_ready_moves h (fun _ => ht) hready, fun hsav => ?_⟩
    · rcases h.get he with ⟨rfl, _⟩ | ⟨_, he⟩
      · exact absurd rfl hne
      · exact hothers z e hne he
    · rw [hsame]
      dsimp only
      rcases h.saving hsav with hsav | hgen
      · exact (hsaving hsav).trans hsession.symm
      · obtain ⟨σ, hσ⟩ : ∃ σ, t.session? = some σ := by
          cases t with
          | session o await => exact ⟨_, rfl⟩
          | _ => cases ht
        rw [hσ] at hgen hsession ⊢
        exact remote_eq_of_generation hs hc hsession.symm hgen
  · -- it is another: the call that moves is idle
    obtain ⟨hothers, hready, hsaving⟩ := hs.going y d hd ht hturn
    have hidle : c.task.isActive = false := hothers x c (Ne.symm hyx) hc
    have hnot : ¬ c.task.isActive = true := by simp [hidle]
    have hsame : s'.remote = s.remote := by
      rcases h.remote with hsame | ⟨_, hact, _⟩
      · exact hsame
      · exact absurd hact hnot
    refine ⟨fun z e hne he => ?_, not_ready_moves h (fun ha => absurd ha hnot) hready,
      fun hsav => hsame.trans (hsaving hsav)⟩
    rcases h.get he with ⟨rfl, rfl⟩ | ⟨_, he⟩
    · exact Bool.eq_false_iff.2 fun hact => hnot (h.active hact).1
    · exact hothers z e hne he

/-- **What has ended stays so.** -/
theorem ended_moves (hs : Orderly s) (hc : s.calls[x]? = some c) (h : Moves s x c t s') {i : ℕ}
    {d : Call} (hd : s'.calls[i]? = some d) (hname : d.name = .disconnectBunker)
    (hlast : LastCall s' i) : Ended s' d := by
  have hlast' : LastCall s i := lastCall_of_set _ hc h.calls rfl hlast
  have hremote : s.remote = none → s'.remote = none := fun hnone => by
    rcases h.remote with hsame | ⟨hgone, _⟩
    · rw [hsame, hnone]
    · exact hgone
  rcases h.get hd with ⟨rfl, rfl⟩ | ⟨hix, hd⟩
  · -- the disconnection itself moves
    have hE : Ended s c := hs.last i c hc hname hlast'
    have hend : c.task.isEnding = true := hs.named i c hc hname
    obtain ⟨_, hcleared, hsettled⟩ := h.ending hend
    have hnot : ¬ c.task.isWaiting = true := by simp [isWaiting_of_isEnding hend]
    refine ⟨hremote hE.remote, fun y e he hwait => ?_, fun ht => ?_, fun ht => ⟨?_, fun y e he => ?_⟩⟩
    · rcases h.get he with ⟨rfl, rfl⟩ | ⟨_, he⟩
      · exact absurd (h.waiting hwait) hnot
      · exact hE.waiting y e he hwait
    · rcases ht with ht | ht
      · exact hcleared ht
      · obtain ⟨hwas, hsame, _⟩ := hsettled ht
        rw [hsame]
        exact hE.cleared (Or.inl hwas)
    · exact (hsettled ht).2.2.1
    · rw [Bool.eq_false_iff]
      intro hact
      rcases h.get he with ⟨rfl, rfl⟩ | ⟨_, he⟩
      · exact hnot (isWaiting_of_isActive (h.active hact).1)
      · have hlt := hE.waiting y e he (isWaiting_of_isActive hact)
        have hle := (hsettled ht).2.2.2 e (List.mem_of_getElem? he) hact
        omega
  · -- another call moves
    have hE : Ended s d := hs.last i d hd hname hlast'
    refine ⟨hremote hE.remote, fun y e he hwait => ?_, fun ht => ?_, fun ht => ?_⟩
    · rcases h.get he with ⟨rfl, rfl⟩ | ⟨_, he⟩
      · exact hE.waiting y c hc (h.waiting hwait)
      · exact hE.waiting y e he hwait
    · rcases h.stored with hsame | hnone | ⟨hwait, hturn⟩
      · rw [hsame]
        exact hE.cleared ht
      · exact hnone
      · have hlt := hE.waiting x c hc hwait
        have hle := hs.turn_le i d hd
        omega
    · obtain ⟨hmode, hidle⟩ := hE.settled ht
      have hnot : ¬ c.task.isActive = true := by simp [hidle x c hc]
      refine ⟨?_, fun y e he => ?_⟩
      · rcases h.identity with hid | hid | ⟨hact, _⟩ | ⟨hsome, _⟩
        · rw [hid]
          exact hmode
        · exact hid
        · exact absurd hact hnot
        · rw [hE.remote] at hsome
          cases hsome
      · rcases h.get he with ⟨rfl, rfl⟩ | ⟨_, he⟩
        · exact Bool.eq_false_iff.2 fun hact => hnot (h.active hact).1
        · exact hidle y e he

/-- **A call that moves keeps order.** -/
theorem orderly_moves (hs : Orderly s) (hc : s.calls[x]? = some c) (h : Moves s x c t s') :
    Orderly s' := by
  refine
    { turn_le := fun y d hd => ?_
      generation_le := fun y d σ hd hσ => le_trans ?_ h.generation
      remote_le := fun r hr => ?_
      named := fun y d hd hname => ?_
      opening := fun y d hd ht hturn => opening_moves hs hc h hd ht hturn
      current := fun r hr y d hd => current_moves hs hc h hr hd
      going := fun y d hd ht hturn => going_moves hs hc h hd ht hturn
      last := fun i d hd hname hlast => ended_moves hs hc h hd hname hlast }
  · rw [h.turns]
    rcases h.get hd with ⟨rfl, rfl⟩ | ⟨_, hd⟩
    · exact hs.turn_le y c hc
    · exact hs.turn_le y d hd
  · rcases h.get hd with ⟨rfl, rfl⟩ | ⟨_, hd⟩
    · exact hs.generation_le y c σ hc (h.session σ hσ)
    · exact hs.generation_le y d σ hd hσ
  · rcases h.remote with hsame | ⟨hnone, _⟩
    · exact le_trans (hs.remote_le r (hsame ▸ hr)) h.generation
    · rw [hnone] at hr
      cases hr
  · rcases h.get hd with ⟨rfl, rfl⟩ | ⟨_, hd⟩
    · exact (h.ending (hs.named y c hc hname)).1
    · exact hs.named y d hd hname

/-! ### A call begins -/

/-- No connection follows in the calls before one was added. -/
theorem lastCall_of_append {i : ℕ} {c : Call} (hcalls : s'.calls = s.calls ++ [c])
    (h : LastCall s' i) : LastCall s i := fun j e hij he => h j e hij (by
  rw [hcalls, List.getElem?_append_left (List.getElem?_eq_some_iff.1 he).1, he])

/-- A connection that is added follows the calls there are. -/
theorem not_lastCall {i : ℕ} {c d : Call} (hcalls : s'.calls = s.calls ++ [c])
    (hd : s.calls[i]? = some d) (hname : c.name = .connectBunker ∨ c.name = .reconnectBunker) :
    ¬ LastCall s' i := fun h => by
  have hnew : s'.calls[s.calls.length]? = some c := by rw [hcalls, List.getElem?_concat_length]
  obtain ⟨hne, hne'⟩ := h _ c (List.getElem?_eq_some_iff.1 hd).1 hnew
  rcases hname with hname | hname
  · exact hne hname
  · exact hne' hname

/-- A reconnection that reads, or a signature at the current session, keeps order. -/
theorem orderly_waits (hs : Orderly s) (hturn : c.turn = s.turns) (hopening : c.task.isOpening = false)
    (hgoing : c.task.isGoing = false) (hname : c.name ≠ .disconnectBunker)
    (hlast : c.name = .reconnectBunker ∨ s.remote.isSome = true)
    (hsession : ∀ σ, c.task.session? = some σ → s.remote = some σ)
    (hactive : c.task.isActive = true → s.remote.isSome = true ∧ s.remote = c.task.session? ∧
      s.identity.mode = .bunker ∧ s.identity.status = .ready) : Orderly (s.waits c) := by
  have hget : ∀ {y : ℕ} {d : Call}, (s.waits c).calls[y]? = some d →
      s.calls[y]? = some d ∨ (y = s.calls.length ∧ d = c) := fun hd => getElem?_of_append hd
  refine
    { turn_le := fun y d hd => ?_
      generation_le := fun y d σ hd hσ => ?_
      remote_le := hs.remote_le
      named := fun y d hd hdis => ?_
      opening := fun y d hd ht hdturn => ?_
      current := fun r hr y d hd => ?_
      going := fun y d hd ht hdturn => ?_
      last := fun i d hd hdis hlast' => ?_ }
  · rcases hget hd with hd | ⟨_, rfl⟩
    · exact hs.turn_le y d hd
    · exact hturn.le
  · rcases hget hd with hd | ⟨_, rfl⟩
    · exact hs.generation_le y d σ hd hσ
    · exact hs.remote_le σ (hsession σ hσ)
  · rcases hget hd with hd | ⟨_, rfl⟩
    · exact hs.named y d hd hdis
    · exact absurd hdis hname
  · rcases hget hd with hd | ⟨_, rfl⟩
    · obtain ⟨hremote, hturns, hmade⟩ := hs.opening y d hd ht hdturn
      refine ⟨hremote, fun z e hne he hact => ?_, fun z e σ he hσ => ?_⟩
      · rcases hget he with he | ⟨_, rfl⟩
        · exact hturns z e hne he hact
        · have hsome := (hactive hact).1
          rw [hremote] at hsome
          cases hsome
      · rcases hget he with he | ⟨_, rfl⟩
        · exact hmade z e σ he hσ
        · rw [hremote] at hsession
          cases hsession σ hσ
    · rw [hopening] at ht
      cases ht
  · rcases hget hd with hd | ⟨_, rfl⟩
    · exact hs.current r hr y d hd
    · exact ⟨fun hact => (hactive hact).2.1.symm.trans hr,
        fun σ hσ => Or.inl (Option.some.inj ((hsession σ hσ).symm.trans hr))⟩
  · rcases hget hd with hd | ⟨_, rfl⟩
    · obtain ⟨hothers, hready, hsaving⟩ := hs.going y d hd ht hdturn
      refine ⟨fun z e hne he => ?_, hready, hsaving⟩
      rcases hget he with he | ⟨_, rfl⟩
      · exact hothers z e hne he
      · exact Bool.eq_false_iff.2 fun hact => hready (hactive hact).2.2
    · rw [hgoing] at ht
      cases ht
  · rcases hget hd with hd | ⟨_, rfl⟩
    · have hE : Ended s d := hs.last i d hd hdis (lastCall_of_append rfl hlast')
      rcases hlast with hre | hsome
      · exact absurd hlast' (not_lastCall rfl hd (Or.inr hre))
      · rw [hE.remote] at hsome
        cases hsome
    · exact absurd hdis hname

/-- A connection or a disconnection that begins keeps order. -/
theorem orderly_begins (hs : Orderly s) {name : Name}
    (h : (name = .connectBunker ∧ t.isOpening = true) ∨
      (name = .disconnectBunker ∧ t = .closing)) : Orderly (s.begins name t) := by
  have hget : ∀ {y : ℕ} {d : Call}, (s.begins name t).calls[y]? = some d → s.calls[y]? = some d ∨
      (y = s.calls.length ∧ d = { name, turn := s.turns + 1, task := t }) :=
    fun hd => getElem?_of_append hd
  have hsession : t.session? = none := by
    rcases h with ⟨_, ht⟩ | ⟨_, rfl⟩
    · cases t with
      | opening stored persist => rfl
      | _ => cases ht
    · rfl
  refine
    { turn_le := fun y d hd => ?_
      generation_le := fun y d σ hd hσ => ?_
      remote_le := fun r hr => by cases hr
      named := fun y d hd hdis => ?_
      opening := fun y d hd ht hdturn => ⟨rfl, fun z e hne he hact => ?_, fun z e σ he hσ => ?_⟩
      current := fun r hr => by cases hr
      going := fun y d hd ht hdturn => ?_
      last := fun i d hd hdis hlast => ?_ }
  · rcases hget hd with hd | ⟨_, rfl⟩
    · exact Nat.le_succ_of_le (hs.turn_le y d hd)
    · exact le_rfl
  · rcases hget hd with hd | ⟨_, rfl⟩
    · exact Nat.le_succ_of_le (hs.generation_le y d σ hd hσ)
    · exact absurd (hsession.symm.trans hσ) nofun
  · rcases hget hd with hd | ⟨_, rfl⟩
    · exact hs.named y d hd hdis
    · rcases h with ⟨rfl, _⟩ | ⟨_, rfl⟩
      · cases hdis
      · rfl
  · rcases hget hd with hd | ⟨rfl, rfl⟩
    · exact absurd hdturn (hs.turn_ne hd)
    · rcases hget he with he | ⟨rfl, _⟩
      · exact Nat.lt_succ_of_le (hs.turn_le z e he)
      · exact absurd rfl hne
  · rcases hget he with he | ⟨_, rfl⟩
    · exact Nat.lt_succ_of_le (hs.generation_le z e σ he hσ)
    · exact absurd (hsession.symm.trans hσ) nofun
  · rcases hget hd with hd | ⟨_, rfl⟩
    · exact absurd hdturn (hs.turn_ne hd)
    · rcases h with ⟨_, hopening⟩ | ⟨_, rfl⟩
      · exact absurd hopening (by rw [isOpening_of_isGoing ht]; exact Bool.false_ne_true)
      · cases ht
  · rcases h with ⟨rfl, _⟩ | ⟨rfl, rfl⟩
    · -- a connection follows whatever was there
      rcases hget hd with hd | ⟨_, rfl⟩
      · exact absurd hlast (not_lastCall rfl hd (Or.inl rfl))
      · cases hdis
    · rcases hget hd with hd | ⟨_, rfl⟩
      · have hE : Ended s d := hs.last i d hd hdis (lastCall_of_append rfl hlast)
        refine ⟨rfl, fun y e he hwait => ?_, hE.cleared, fun ht => ⟨(hE.settled ht).1, fun y e he => ?_⟩⟩
        · rcases hget he with he | ⟨_, rfl⟩
          · exact hE.waiting y e he hwait
          · cases hwait
        · rcases hget he with he | ⟨_, rfl⟩
          · exact (hE.settled ht).2 y e he
          · rfl
      · refine ⟨rfl, fun y e he hwait => ?_, fun ht => ?_, nofun⟩
        · rcases hget he with he | ⟨_, rfl⟩
          · exact Nat.lt_succ_of_le (hs.turn_le y e he)
          · cases hwait
        · rcases ht with ht | ht
          · cases ht
          · cases ht

/-- A reconnection that has read and begins to open keeps order. -/
theorem orderly_opens (hs : Orderly s) {stored : StoredBunkerConnection} (hc : s.calls[x]? = some c)
    (hloaded : c.task = .loaded (some stored))
    (hlast : ∀ d ∈ s.calls, d.name = .disconnectBunker → d.turn ≤ c.turn) :
    Orderly ({ s.closeRemote with turns := s.turns + 1 }.goes x { c with turn := s.turns + 1 }
      (.opening stored false)) := by
  have hget : ∀ {y : ℕ} {d : Call}, (s.calls.set x
        { name := c.name, turn := s.turns + 1, task := .opening stored false })[y]? = some d →
      (y = x ∧ d = { name := c.name, turn := s.turns + 1, task := .opening stored false }) ∨
        (y ≠ x ∧ s.calls[y]? = some d) := fun hd => getElem?_of_set hd
  have hwaiting : c.task.isWaiting = true := by rw [hloaded]; rfl
  have hname : c.name ≠ .disconnectBunker := hs.name_ne hc (by rw [hloaded]; rfl)
  refine
    { turn_le := fun y d hd => ?_
      generation_le := fun y d σ hd hσ => ?_
      remote_le := fun r hr => by cases hr
      named := fun y d hd hdis => ?_
      opening := fun y d hd ht hdturn => ⟨rfl, fun z e hne he hact => ?_, fun z e σ he hσ => ?_⟩
      current := fun r hr => by cases hr
      going := fun y d hd ht hdturn => ?_
      last := fun i d hd hdis hlast' => ?_ }
  · rcases hget hd with ⟨_, rfl⟩ | ⟨_, hd⟩
    · exact le_rfl
    · exact Nat.le_succ_of_le (hs.turn_le y d hd)
  · rcases hget hd with ⟨_, rfl⟩ | ⟨_, hd⟩
    · cases hσ
    · exact Nat.le_succ_of_le (hs.generation_le y d σ hd hσ)
  · rcases hget hd with ⟨_, rfl⟩ | ⟨_, hd⟩
    · exact absurd hdis hname
    · exact hs.named y d hd hdis
  · rcases hget hd with ⟨rfl, rfl⟩ | ⟨_, hd⟩
    · rcases hget he with ⟨rfl, _⟩ | ⟨_, he⟩
      · exact absurd rfl hne
      · exact Nat.lt_succ_of_le (hs.turn_le z e he)
    · exact absurd hdturn (hs.turn_ne hd)
  · rcases hget he with ⟨_, rfl⟩ | ⟨_, he⟩
    · cases hσ
    · exact Nat.lt_succ_of_le (hs.generation_le z e σ he hσ)
  · rcases hget hd with ⟨_, rfl⟩ | ⟨_, hd⟩
    · cases ht
    · exact absurd hdturn (hs.turn_ne hd)
  · rcases hget hd with ⟨_, rfl⟩ | ⟨_, hd⟩
    · exact absurd hdis hname
    · -- the disconnection was called since
      have hE : Ended s d := hs.last i d hd hdis (lastCall_of_set
        { name := c.name, turn := s.turns + 1, task := .opening stored false } hc rfl rfl hlast')
      have hlt := hE.waiting x c hc hwaiting
      have hle := hlast d (List.mem_of_getElem? hd) hdis
      omega

/-- A session that is made keeps order. -/
theorem orderly_install (hs : Orderly s) {stored : StoredBunkerConnection} {persist : Bool}
    (userPubkey : Pubkey) (hc : s.calls[x]? = some c) (hopening : c.task = .opening stored persist)
    (hturn : c.turn = s.turns) (hsettled : SettledBefore s s.turns) :
    Orderly (s.install x c stored persist userPubkey) := by
  have hget : ∀ {y : ℕ} {d : Call}, (s.install x c stored persist userPubkey).calls[y]? = some d →
      (y = x ∧ d = ⟨c.name, c.turn,
        .session ⟨stored, persist, ⟨x, userPubkey, s.generation⟩, none⟩ .connect⟩) ∨
        (y ≠ x ∧ s.calls[y]? = some d) := fun hd => getElem?_of_set hd
  have hwaiting : c.task.isWaiting = true := by rw [hopening]; rfl
  have hname : c.name ≠ .disconnectBunker := hs.name_ne hc (by rw [hopening]; rfl)
  obtain ⟨_, hturns, hmade⟩ := hs.opening x c hc (by rw [hopening]; rfl) hturn
  have hidle : ∀ {y : ℕ} {d : Call}, y ≠ x → s.calls[y]? = some d → ¬ d.task.isActive = true :=
    fun hne hd hact => by
      have hlt := hturns _ _ hne hd hact
      have hle := hsettled _ (List.mem_of_getElem? hd) hact
      omega
  refine
    { turn_le := fun y d hd => ?_
      generation_le := fun y d σ hd hσ => ?_
      remote_le := fun r hr => by cases hr; exact le_rfl
      named := fun y d hd hdis => ?_
      opening := fun y d hd ht hdturn => ?_
      current := fun r hr y d hd => ?_
      going := fun y d hd ht hdturn => ?_
      last := fun i d hd hdis hlast => ?_ }
  · rcases hget hd with ⟨_, rfl⟩ | ⟨_, hd⟩
    · exact hturn.le
    · exact hs.turn_le y d hd
  · rcases hget hd with ⟨_, rfl⟩ | ⟨_, hd⟩
    · cases hσ
      exact le_rfl
    · exact hs.generation_le y d σ hd hσ
  · rcases hget hd with ⟨_, rfl⟩ | ⟨_, hd⟩
    · exact absurd hdis hname
    · exact hs.named y d hd hdis
  · rcases hget hd with ⟨_, rfl⟩ | ⟨hne, hd⟩
    · cases ht
    · exact absurd (isActive_of_isOpening ht) (hidle hne hd)
  · cases hr
    rcases hget hd with ⟨_, rfl⟩ | ⟨hne, hd⟩
    · exact ⟨fun _ => rfl, fun σ hσ => Or.inl (Option.some.inj hσ).symm⟩
    · exact ⟨fun hact => absurd hact (hidle hne hd), fun σ hσ => Or.inr (hmade y d σ hd hσ)⟩
  · rcases hget hd with ⟨rfl, rfl⟩ | ⟨hne, hd⟩
    · refine ⟨fun z e hne he => ?_, fun h => (by cases h.2), nofun⟩
      rcases hget he with ⟨rfl, _⟩ | ⟨hne, he⟩
      · exact absurd rfl hne
      · exact Bool.eq_false_iff.2 (hidle hne he)
    · exact absurd (isActive_of_isGoing ht) (hidle hne hd)
  · rcases hget hd with ⟨_, rfl⟩ | ⟨_, hd⟩
    · exact absurd hdis hname
    · have hE : Ended s d := hs.last i d hd hdis (lastCall_of_set
        ⟨c.name, c.turn, .session ⟨stored, persist, ⟨x, userPubkey, s.generation⟩, none⟩ .connect⟩
        hc rfl rfl hlast)
      have hlt := hE.waiting x c hc hwaiting
      have hle := hs.turn_le i d hd
      omega

/-- **A timely step keeps order.** -/
theorem orderly_step (hs : Orderly s) (htimely : Timely s a) : Orderly (step localPubkey s a) := by
  have hdoes := step_does localPubkey htimely
  generalize step localPubkey s a = s' at hdoes ⊢
  cases hdoes with
  | nothing => exact hs
  | connects stored persist => exact orderly_begins hs (Or.inl ⟨rfl, rfl⟩)
  | disconnects => exact orderly_begins hs (Or.inr ⟨rfl, rfl⟩)
  | reconnects => exact orderly_waits hs rfl rfl rfl nofun (Or.inl rfl) nofun nofun
  | signs current template hremote hready =>
      have hsome : s.remote.isSome = true := by rw [hremote]; rfl
      exact orderly_waits hs rfl rfl rfl nofun (Or.inr hsome)
        (fun σ hσ => hremote.trans hσ) fun _ => ⟨hsome, hremote, hready⟩
  | opens x c stored hc hloaded hlast => exact orderly_opens hs hc hloaded hlast
  | installs x c stored persist userPubkey hc hopening hturn hsettled =>
      exact orderly_install hs userPubkey hc hopening hturn hsettled
  | moves x c t s' hc h => exact orderly_moves hs hc h

/-! ### What is asked -/

/-- What is published as ready is the current session's. -/
theorem readyIsCurrent_step (hs : Orderly s) (htimely : Timely s a) (h : ReadyIsCurrent s) :
    ReadyIsCurrent (step localPubkey s a) := by
  have hdoes := step_does localPubkey htimely
  generalize step localPubkey s a = s' at hdoes ⊢
  cases hdoes with
  | installs x c stored persist userPubkey hc hopening hturn hsettled =>
      intro p hp
      rcases List.mem_append.1 hp with hp | hp
      · exact h p hp
      · obtain rfl := List.mem_singleton.1 hp
        exact nofun
  | moves x c t s' hc hmoves =>
      rcases hmoves.published with hsame | ⟨next, happend, hnext⟩
      · unfold ReadyIsCurrent
        rw [hsame]
        exact h
      · intro p hp hmode hready
        rw [happend] at hp
        rcases List.mem_append.1 hp with hp | hp
        · exact h p hp hmode hready
        · obtain rfl := List.mem_singleton.1 hp
          obtain ⟨σ, hσ, hpubkey, hcause⟩ := hnext hmode hready
          refine ⟨σ, ?_, hpubkey⟩
          rcases hcause with ⟨hsaving, hturn⟩ | hgen
          · rw [← hσ]
            exact (hs.going x c hc (isGoing_of_isSaving hsaving) hturn).2.2 hsaving
          · exact remote_eq_of_generation hs hc hσ hgen
  | _ => exact h

/-- **A session that is not the current one changes nothing.** -/
theorem undisturbed_step (hs : Orderly s) : Undisturbed s a (step localPubkey s a) := by
  intro x r c ha hc σ current hσ hr hne
  subst ha
  have hnot : ¬ c.task.isActive = true := fun hact =>
    hne (Option.some.inj (hσ.symm.trans ((hs.current current hr x c hc).1 hact)))
  have hhear : step localPubkey s (.reply x r) = hear localPubkey s x c r := by
    simp only [step, hc]
  obtain ⟨o, hsettled⟩ : ∃ o, c.task = .settled (some o) := by
    cases ht : c.task with
    | settled o =>
        rw [ht] at hσ
        cases o with
        | none => cases hσ
        | some o => exact ⟨o, rfl⟩
    | session o await => exact absurd (by rw [ht]; rfl) hnot
    | signing current active template => exact absurd (by rw [ht]; rfl) hnot
    | signFailed current active message => exact absurd (by rw [ht]; rfl) hnot
    | _ =>
        rw [ht] at hσ
        cases hσ
  have hgen : s.remote.map Session.generation ≠ some o.session.generation := fun hgen => by
    have hσo : c.task.session? = some o.session := by rw [hsettled]; rfl
    have hcurrent := remote_eq_of_generation hs hc hσo hgen
    exact hne (Option.some.inj (hσ.symm.trans (hσo.trans (hcurrent.symm.trans hr))))
  rw [hhear]
  unfold hear
  rw [hsettled]
  cases r with
  | onauth url =>
      dsimp only [Sys.onauth]
      rw [if_pos hgen]
      exact ⟨hr, rfl⟩
  | _ => exact ⟨hr, rfl⟩

/-- **After a disconnection nothing is left.** -/
theorem disconnected_of_orderly (hs : Orderly s) : Disconnected s := by
  intro i d hd hname hlast hall
  have hE : Ended s d := hs.last i d hd hname hlast
  have hsettled := hall d (List.mem_of_getElem? hd)
  exact ⟨(hE.settled hsettled).1, hE.remote, hE.cleared (Or.inr hsettled)⟩

/-- **Sessions of the remote signer do not interfere, in time.**  In every run whose steps
are all timely: no step of a call whose session is not the current one closes the current
session or changes what is published; after a disconnection that no connection follows, once
all calls have settled, the identity is local, there is no session and nothing is stored; and
whatever was published as ready for a bunker was the identity of the session there was. -/
theorem sessions_separate (localPubkey : Pubkey) (stored : Option StoredBunkerConnection)
    (as : List Act)
    (h : ∀ e ∈ events (step localPubkey) (Sys.init localPubkey stored) as, Timely e.pre e.act) :
    (∀ e ∈ events (step localPubkey) (Sys.init localPubkey stored) as,
        Undisturbed e.pre e.act e.post) ∧
      Disconnected (run (step localPubkey) (Sys.init localPubkey stored) as) ∧
      ReadyIsCurrent (run (step localPubkey) (Sys.init localPubkey stored) as) := by
  have hinit : Orderly (Sys.init localPubkey stored) ∧
      ReadyIsCurrent (Sys.init localPubkey stored) := ⟨orderly_init localPubkey stored, nofun⟩
  have hstep : ∀ s a, (Orderly s ∧ ReadyIsCurrent s) → Timely s a →
      Orderly (step localPubkey s a) ∧ ReadyIsCurrent (step localPubkey s a) := fun s a hs ht =>
    ⟨orderly_step hs.1 ht, readyIsCurrent_step hs.1 ht hs.2⟩
  have hend := run_induction_of (P := fun s => Orderly s ∧ ReadyIsCurrent s) hinit hstep h
  refine ⟨fun e he => ?_, disconnected_of_orderly hend.1, hend.2⟩
  obtain ⟨hpre, hpost⟩ :=
    events_induction_of (P := fun s => Orderly s ∧ ReadyIsCurrent s) hinit hstep h he
  rw [hpost]
  exact undisturbed_step hpre.1

/-! ### Runs -/

/-- A pointer to a remote signer. -/
def demoPointer : BunkerPointer :=
  { pubkey := "b", relays := ["wss://relay.example.com/"], secret := none }

/-- An identity. -/
def demoPubkey : Pubkey := "aaaaaaaaaaaaaaaaaaaaaaaaaaaaaaaaaaaaaaaaaaaaaaaaaaaaaaaaaaaaaaaa"

/-- A connection up to its save. -/
def demoConnect (x : ℕ) : List Act :=
  [.connectBunker demoPointer [], .reply x (.closed demoPubkey), .reply x .resolves,
    .reply x .resolves, .reply x .resolves]

/-- A first connection, a second one that overtakes a failing signature, and a disconnection
that the second one does not survive. -/
def demoActs : List Act :=
  demoConnect 0 ++ [.reply 0 .resolves, .reply 0 .resolves,
    .signWithActiveIdentity { kind := 1, createdAt := 0, tags := [], content := "" },
    .connectBunker demoPointer [], .reply 1 (.rejects "closed"), .reply 1 .resolves,
    .reply 2 (.closed demoPubkey), .disconnectBunker, .reply 2 (.rejects "closed"),
    .reply 2 .resolves, .reply 3 .resolves, .reply 3 .resolves, .reply 3 .resolves]

/-- The theorem at a run where calls overlap. -/
theorem sessions_separate_demo :
    (∀ e ∈ events (step "c") (Sys.init "c" none) demoActs, Timely e.pre e.act) ∧
      Disconnected (run (step "c") (Sys.init "c" none) demoActs) :=
  have h : ∀ e ∈ events (step "c") (Sys.init "c" none) demoActs, Timely e.pre e.act := by
    decide
  ⟨h, (sessions_separate "c" none demoActs h).2.1⟩

/-- A connection, and one that overtakes it. -/
def demoOvertaken : List Act :=
  [.connectBunker demoPointer [], .reply 0 (.closed demoPubkey),
    .connectBunker demoPointer [], .reply 1 (.closed demoPubkey)]

/-- The first one fails. -/
def demoTimeout : Act := .reply 0 (.rejects "Remote signer connection timed out")

/-- A connection that saves while it is disconnected. -/
def demoLate : List Act :=
  demoConnect 0 ++ [.disconnectBunker, .reply 1 .resolves, .reply 1 .resolves, .reply 1 .resolves,
    .reply 0 .resolves, .reply 0 .resolves]

/-- **An overtaken session closes the current one**, and one that was being saved comes back
after the disconnection, published as ready with no session there. -/
theorem session_disturbed :
    (∃ e ∈ events (step "c") (Sys.init "c" none) (demoOvertaken ++ [demoTimeout]),
        ¬ Undisturbed e.pre e.act e.post) ∧
      ¬ Disconnected (run (step "c") (Sys.init "c" none) demoLate) ∧
      ¬ ReadyIsCurrent (run (step "c") (Sys.init "c" none) demoLate) := by
  refine ⟨⟨⟨run (step "c") (Sys.init "c" none) demoOvertaken, demoTimeout,
    step "c" (run (step "c") (Sys.init "c" none) demoOvertaken) demoTimeout⟩, ?_, fun h => ?_⟩,
    fun h => ?_, fun h => ?_⟩
  · rw [events_concat]
    exact List.mem_append_right _ (List.mem_singleton_self _)
  · have hclosed := h 0 _ ⟨.connectBunker, 1, .session
        ⟨⟨[], "b", ["wss://relay.example.com/"], none, ""⟩, true, ⟨0, demoPubkey, 1⟩, none⟩ .connect⟩
      rfl (by decide) ⟨0, demoPubkey, 1⟩ ⟨1, demoPubkey, 2⟩ (by decide)
      (by decide) (by decide)
    exact absurd hclosed.1 (by decide)
  · have hlen : (run (step "c") (Sys.init "c" none) demoLate).calls.length = 2 := by
      decide
    have hlocal := h 1 ⟨.disconnectBunker, 2, .settled none⟩ (by decide) rfl
      (fun j c hj hc => by
        have hlt := (List.getElem?_eq_some_iff.1 hc).1
        omega) (by decide)
    exact absurd hlocal.1 (by decide)
  · have hready : (⟨.bunker, demoPubkey, .ready, none, none⟩, none) ∈
        (run (step "c") (Sys.init "c" none) demoLate).published := by
      decide
    obtain ⟨current, hnone, _⟩ := h _ hready rfl rfl
    cases hnone

end Signer
end Pwa
end SentinelMesh
