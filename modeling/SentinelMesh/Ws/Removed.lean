/-
# Whether a removed member stops receiving

What holds of every message forwarded on the socket of a circle, in every
interleaving of the socket with the handlers and their broadcasts.

`CIRCLE_MEMBER_REMOVED` closes the socket of the removed member when the socket
receives it.  It does not receive it when the removal is broadcast between its
membership check and its subscription, or is among the messages it loses by lagging:
the handler then subscribes as if nothing had happened, and what is broadcast later
is forwarded (`removed_while_joining`).  Where every subscription comes without such
a loss (`covered`), nothing is forwarded after a removal (`removed_stops`).

`Sound` is the invariant.  A removal that is announced, or about to be, is one after
which the token is active only if it has been accepted again (`Gone`), and a socket
has seen no other removal of its own token than those (`Informed`).
-/

import SentinelMesh.Circles.Removal
import SentinelMesh.Ws.CircleSocket

namespace SentinelMesh
namespace Ws

open Lib
open Circles (Token CircleMessage Broadcast Env Db Keyed)

/-! ### Owners are not members -/

/-- What holds of the circles in every reachable state: no row of `circle_members` is
the owner's. -/
structure Owned (env : Env) (s : Circles.Sys) : Prop where
  keyed : Keyed env s.db
  minted : ∀ id c, s.db.circles.find? id = some c → id ∈ s.minted
  other : ∀ id t m c, s.db.members.find? (id, t) = some m → s.db.circles.find? id = some c →
    c.owner_token ≠ t

theorem owned_init (env : Env) (now : Timestamp) : Owned env (Circles.Sys.init now) where
  keyed := Circles.keyed_init env now
  minted _ _ h := by cases h
  other _ _ _ _ h := by cases h

/-- The owner of a circle stays its owner. -/
theorem owner_of_step {env : Env} {s : Circles.Sys} {a : Circles.Act} {id : Uuid} {c' : Circles.Circle}
    (hid : id ∈ s.minted) (h : (Circles.step env s a).db.circles.find? id = some c') :
    ∃ c, s.db.circles.find? id = some c ∧ c'.owner_token = c.owner_token := by
  cases Circles.circle_of_step h with
  | created req body act unused free row => exact absurd hid unused
  | kept c old owner epoch rekey quiet => exact ⟨c, old, owner⟩
  | rotated req ago body c act hs ok row => exact ⟨c, ok.found, by rw [row]; rfl⟩

theorem owned_step {env : Env} (hinj : ∀ id, Function.Injective (env.circleToken id))
    {s : Circles.Sys} (a : Circles.Act) (h : Owned env s) : Owned env (Circles.step env s a) where
  keyed := Circles.keyed_step a h.keyed
  minted id _ hc := Circles.minted_of_circle (h.minted id) hc
  other id t m' c' hm hc := by
    have before : ∀ m, s.db.members.find? (id, t) = some m → c'.owner_token ≠ t := by
      intro m hm
      obtain ⟨c₀, hc₀, _⟩ := h.keyed.wraps id t m hm
      obtain ⟨c, hc, howner⟩ := owner_of_step (h.minted id c₀ hc₀) hc
      rw [howner]
      exact h.other id t m c hm hc
    cases Circles.member_of_step hm with
    | invited req x y body circle joined act hs ok token row =>
        obtain ⟨c, hfound, howner⟩ := owner_of_step (h.minted id circle ok.found) hc
        obtain rfl : c = circle := Option.some.inj (hfound.symm.trans ok.found)
        rw [howner, ok.owner, token]
        exact fun heq => ok.other (hinj id heq).symm
    | kept m old same stays => exact before m old
    | accepted auth x circle m now act hs token ok row => exact before m ok.invited
    | passed req ago body circle m act hs ok old same out => exact before m old
    | rewrapped req ago body circle m w act hs ok old mem token row => exact before m old

/-! ### What is broadcast about a removal -/

/-- The token is accepted after the moment `a` and before the moment `b`. -/
def AcceptedBetween (accepts : List (Uuid × Token × ℕ)) (id : Uuid) (t : Token) (a b : ℕ) : Prop :=
  ∃ n, (id, t, n) ∈ accepts ∧ a < n ∧ n < b

theorem AcceptedBetween.mono {as as' : List (Uuid × Token × ℕ)} {id : Uuid} {t : Token} {a b b' : ℕ}
    (h : AcceptedBetween as id t a b) (hsub : as ⊆ as') (hle : b ≤ b') :
    AcceptedBetween as' id t a b' := by
  obtain ⟨n, hn, ha, hb⟩ := h
  exact ⟨n, hsub hn, ha, by omega⟩

/-- **What is left of a member after its removal** at a moment: it is not the owner,
and it is active only once accepted again. -/
structure Gone (s : Sys) (id : Uuid) (t : Token) (removed : ℕ) : Prop where
  before : removed < s.moment
  minted : id ∈ s.circles.minted
  other : ∀ c, s.circles.db.circles.find? id = some c → c.owner_token ≠ t
  back : s.circles.db.isActive id t = true → AcceptedBetween s.accepts id t removed s.moment

/-- Who belongs to the circle after its removal has been accepted again. -/
theorem Gone.belongs {s : Sys} {id : Uuid} {t : Token} {removed : ℕ} (h : Gone s id t removed)
    (hb : s.circles.db.belongs id t = true) : AcceptedBetween s.accepts id t removed s.moment := by
  unfold Db.belongs at hb
  rw [Bool.or_eq_true, Option.any_eq_true] at hb
  rcases hb with ⟨c, hc, howner⟩ | hact
  · exact absurd (of_decide_eq_true howner) (h.other c hc)
  · exact h.back hact

/-- A message that announces a removal is true. -/
def Announced (s : Sys) (id : Uuid) (message : CircleMessage) (committed : ℕ) : Prop :=
  ∀ t, removes t message = true → Gone s id t committed

/-- The state of the circles after an action, and the acceptances. -/
theorem handle_circles (env : Env) (s : Sys) (a : Circles.Act) :
    (s.handle env a).circles = Circles.step env s.circles a := by
  unfold Sys.handle Circles.step
  split
  · rename_i h
    rw [h]
  · rename_i h
    rw [h]

theorem handle_accepts (env : Env) (s : Sys) (a : Circles.Act) :
    s.accepts ⊆ (s.handle env a).accepts := by
  unfold Sys.handle
  split
  · exact List.subset_append_left ..
  · exact List.Subset.refl _

theorem handle_channels (env : Env) (s : Sys) (a : Circles.Act) :
    (s.handle env a).channels = s.channels := by
  unfold Sys.handle
  split <;> rfl

theorem handle_socket (env : Env) (s : Sys) (a : Circles.Act) :
    (s.handle env a).socket = s.socket := by
  unfold Sys.handle
  split <;> rfl

/-- An acceptance is recorded. -/
theorem mem_accepts_handle {env : Env} {s : Sys} {a : Circles.Act} {id : Uuid} {t : Token}
    (h : Circles.Accepted env id t ⟨s.circles, a, Circles.step env s.circles a⟩) :
    (id, t, s.moment) ∈ (s.handle env a).accepts := by
  obtain ⟨⟨out, hs⟩, auth, x, rfl, rfl⟩ := h
  unfold Sys.handle
  split
  · exact List.mem_append_right _ (List.mem_singleton_self _)
  · rename_i hexec
    rw [hexec] at hs
    cases hs

theorem gone_handle {env : Env} {s : Sys} (a : Circles.Act) {id : Uuid} {t : Token} {removed : ℕ}
    (h : Gone s id t removed) : Gone (step env s (.circles a)) id t removed where
  before := Nat.lt_succ_of_lt h.before
  minted := by
    show id ∈ (s.handle env a).circles.minted
    rw [handle_circles]
    exact Circles.minted_step h.minted
  other c' hc' := by
    have hc' : (s.handle env a).circles.db.circles.find? id = some c' := hc'
    rw [handle_circles] at hc'
    obtain ⟨c, hc, howner⟩ := owner_of_step h.minted hc'
    rw [howner]
    exact h.other c hc
  back hact := by
    have hact : (s.handle env a).circles.db.isActive id t = true := hact
    rw [handle_circles] at hact
    rcases Circles.active_of_step hact with hact | ⟨_, hacc⟩
    · exact (h.back hact).mono (handle_accepts env s a) (Nat.le_succ _)
    · exact ⟨s.moment, mem_accepts_handle hacc, h.before, Nat.lt_succ_self _⟩

/-- What is left of a member stays so. -/
theorem gone_step {env : Env} {s : Sys} (a : Act) {id : Uuid} {t : Token} {removed : ℕ}
    (h : Gone s id t removed) : Gone (step env s a) id t removed := by
  have before : removed < s.moment + 1 := Nat.lt_succ_of_lt h.before
  cases a with
  | circles a => exact gone_handle a h
  | broadcast i =>
      unfold step perform Sys.broadcast
      dsimp only
      split
      · exact ⟨before, h.minted, h.other,
          fun hact => (h.back hact).mono (List.Subset.refl _) (Nat.le_succ _)⟩
      · exact ⟨before, h.minted, h.other,
          fun hact => (h.back hact).mono (List.Subset.refl _) (Nat.le_succ _)⟩
  | socket a =>
      exact ⟨before, h.minted, h.other,
        fun hact => (h.back hact).mono (List.Subset.refl _) (Nat.le_succ _)⟩

theorem announced_step {env : Env} {s : Sys} (a : Act) {id : Uuid} {message : CircleMessage}
    {committed : ℕ} (h : Announced s id message committed) :
    Announced (step env s a) id message committed :=
  fun t ht => gone_step a (h t ht)

/-- A handler that announces a removal has made it. -/
theorem removal_of_broadcast {env : Env} {s : Circles.Sys} {a : Circles.Act}
    {out : List Broadcast} {id : Uuid} {message : CircleMessage} {t : Token}
    (h : (Circles.exec env s a).2 = .ok out) (hmem : (id, message) ∈ out)
    (ht : removes t message = true) :
    ∃ m auth, a = .removeMember id m auth ∧ t = env.circleToken id m := by
  have silent : out ≠ [] := List.ne_nil_of_mem hmem
  have quiet : ∀ {α : Type} {s : Circles.Sys} {x : Txn Db AppError α},
      (s.transact x fun _ => []).2 = .ok out → False := by
    intro α s x h
    obtain ⟨_, _, hout⟩ := Circles.transact_of_ok h
    exact silent hout.symm
  unfold Circles.exec at h
  cases a with
  | tick d => exact absurd (Except.ok.inj h).symm silent
  | createCircle id' req =>
      dsimp only at h
      split_ifs at h
      exact (quiet h).elim
  | addMember id' req c b => exact (quiet h).elim
  | acceptMember id' auth b => exact (quiet h).elim
  | commitEpoch id' req c =>
      obtain ⟨epoch, _, rfl⟩ := Circles.transact_of_ok h
      obtain ⟨_, rfl⟩ := Prod.mk.inj (List.mem_singleton.1 hmem)
      cases ht
  | removeMember id' m auth =>
      obtain ⟨epoch, _, rfl⟩ := Circles.transact_of_ok h
      rcases List.mem_cons.1 hmem with hmem | hmem
      · obtain ⟨rfl, rfl⟩ := Prod.mk.inj hmem
        exact ⟨m, auth, rfl, (of_decide_eq_true ht).symm⟩
      · obtain ⟨_, rfl⟩ := Prod.mk.inj (List.mem_singleton.1 hmem)
        cases ht
  | setEncryption id' req =>
      dsimp only at h
      split at h
      · exact absurd (Except.ok.inj h).symm silent
      · cases h
  | writeEncryption i =>
      dsimp only at h
      split at h
      · exact (quiet h).elim
      · cases h
  | deleteCircle id' auth => exact (quiet h).elim
  | pushEnvelope id' len req enabled redis c =>
      dsimp only at h
      split at h
      · exact absurd (Except.ok.inj h).symm silent
      · cases h
  | writeEnvelope i =>
      dsimp only at h
      split at h
      · obtain ⟨blob, _, rfl⟩ := Circles.transact_of_ok h
        obtain ⟨_, rfl⟩ := Prod.mk.inj (List.mem_singleton.1 hmem)
        cases ht
      · cases h
  | retain => exact absurd (Except.ok.inj h).symm silent

/-- **What a removal leaves.** -/
theorem gone_removal {env : Env} {s : Sys} (h : Owned env s.circles) {id : Uuid} {m : Pubkey}
    {auth : Circles.NostrAuth} (hs : Circles.Succeeds env s.circles (.removeMember id m auth)) :
    Gone (step env s (.circles (.removeMember id m auth))) id (env.circleToken id m) s.moment := by
  obtain ⟨c, member, hc, hrow⟩ : ∃ c member, s.circles.db.circles.find? id = some c ∧
      s.circles.db.members.find? (id, env.circleToken id m) = some member := by
    have hch := Circles.change_step hs
    generalize (Circles.step env s.circles _).db = db' at hch
    cases hch with
    | remove _ _ _ circle member ok => exact ⟨circle, member, ok.found, ok.row⟩
  have hex := Circles.excluded_removal h.keyed (h.minted id c hc) hc hs
  rw [← handle_circles] at hex
  refine ⟨Nat.lt_succ_self _, hex.minted, ?_, ?_⟩
  · intro c' hc'
    have hc' : (s.handle env (.removeMember id m auth)).circles.db.circles.find? id = some c' := hc'
    rw [handle_circles] at hc'
    obtain ⟨c₀, hc₀, howner⟩ := owner_of_step (h.minted id c hc) hc'
    rw [howner]
    exact h.other id _ member c₀ hrow hc₀
  · intro hact
    obtain ⟨e₁, e₂, hsub, _⟩ := hex.active hact
    exact absurd hsub.length_le (by simp)

/-! ### The invariant -/

/-- The socket has seen `n` broadcasts of its circle, and each removal of its own
token among them was followed by an acceptance before the moment `b`. -/
structure Aware (s : Sys) (v : Session) (n b : ℕ) : Prop where
  seen : n ≤ (s.channels v.circle_id).length
  answered : ∀ r ∈ (s.channels v.circle_id).take n, removes v.self_token r.message = true →
    AcceptedBetween s.accepts v.circle_id v.self_token r.committed b

/-- What a socket knows, by where its handler is. -/
def Informed (s : Sys) : Phase → Prop
  | .joining => True
  | .checking _ => True
  | .syncing v _ seen => Aware s v seen s.moment
  | .fetching v _ seen => Aware s v seen s.moment
  | .ready v seen => Aware s v seen s.moment
  | .live v next since => since ≤ s.moment ∧ Aware s v next since ∧
    ∀ r ∈ (s.channels v.circle_id).drop next, since ≤ r.made
  | .closed => True

/-- **A removed member stops receiving.**  Each message that was forwarded is a
broadcast, and each removal of the token of the socket that was broadcast before it
was followed by an acceptance, before it was made. -/
def Stopped (s : Sys) : Prop :=
  ∀ id t i, .forwarded id t i ∈ s.socket.frames → ∃ later, (s.channels id)[i]? = some later ∧
    ∀ r ∈ (s.channels id).take i, removes t r.message = true →
      AcceptedBetween s.accepts id t r.committed later.made

/-- **The invariant.** -/
structure Sound (env : Env) (s : Sys) : Prop where
  owned : Owned env s.circles
  queued : ∀ os ∈ s.outbox, ∀ o ∈ os, Announced s o.circle_id o.message o.committed
  announced : ∀ id, ∀ r ∈ s.channels id, Announced s id r.message r.committed
  informed : Informed s s.socket.phase
  stopped : Stopped s

/-- A later state: the channels and the acceptances have grown. -/
structure Later (s s' : Sys) : Prop where
  channels : ∀ id, ∃ news, s'.channels id = s.channels id ++ news ∧ ∀ r ∈ news, s.moment ≤ r.made
  accepts : s.accepts ⊆ s'.accepts
  moment : s.moment ≤ s'.moment

theorem later_step (env : Env) (s : Sys) (a : Act) : Later s (step env s a) := by
  have same : ∀ id, ∃ news, s.channels id = s.channels id ++ news ∧ ∀ r ∈ news, s.moment ≤ r.made :=
    fun id => ⟨[], (List.append_nil _).symm, fun _ h => (by cases h)⟩
  cases a with
  | circles a =>
      refine ⟨?_, handle_accepts env s a, Nat.le_succ _⟩
      show ∀ id, ∃ news, (s.handle env a).channels id = s.channels id ++ news ∧ _
      rw [handle_channels]
      exact same
  | broadcast i =>
      unfold step perform Sys.broadcast
      dsimp only
      split
      · rename_i o os ho
        refine ⟨?_, List.Subset.refl _, Nat.le_succ _⟩
        intro id
        dsimp only
        by_cases hid : id = o.circle_id
        · subst hid
          rw [Function.update_self]
          refine ⟨_, rfl, ?_⟩
          intro r hr
          obtain rfl := List.mem_singleton.1 hr
          exact le_rfl
        · rw [Function.update_of_ne hid]
          exact same id
      · exact ⟨same, List.Subset.refl _, Nat.le_succ _⟩
  | socket a => exact ⟨same, List.Subset.refl _, Nat.le_succ _⟩

theorem Aware.later {s s' : Sys} {v : Session} {n b b' : ℕ} (h : Aware s v n b) (hl : Later s s')
    (hb : b ≤ b') : Aware s' v n b' := by
  obtain ⟨news, hnews, _⟩ := hl.channels v.circle_id
  have hseen := h.seen
  refine ⟨?_, ?_⟩
  · rw [hnews, List.length_append]
    omega
  · rw [hnews]
    exact forall_take_append hseen fun r hr ht => (h.answered r hr ht).mono hl.accepts hb

/-- What a socket knows stays true. -/
theorem informed_later {s s' : Sys} (hl : Later s s') {p : Phase} (h : Informed s p) :
    Informed s' p := by
  cases p with
  | joining => trivial
  | checking v => trivial
  | syncing v lagged seen => exact Aware.later h hl hl.moment
  | fetching v lagged seen => exact Aware.later h hl hl.moment
  | ready v seen => exact Aware.later h hl hl.moment
  | live v next since =>
      obtain ⟨hsince, haware, hfrom⟩ := h
      obtain ⟨news, hnews, hmade⟩ := hl.channels v.circle_id
      refine ⟨hsince.trans hl.moment, haware.later hl le_rfl, ?_⟩
      rw [hnews]
      exact forall_drop_append hfrom fun r hr => hsince.trans (hmade r hr)
  | closed => trivial

/-- What was forwarded rightly remains so. -/
theorem stopped_later {s s' : Sys} (hl : Later s s') (h : Stopped s)
    (hframes : ∀ id t i, .forwarded id t i ∈ s'.socket.frames → .forwarded id t i ∈ s.socket.frames) :
    Stopped s' := by
  intro id t i hmem
  obtain ⟨later, hi, hall⟩ := h id t i (hframes id t i hmem)
  obtain ⟨news, hnews, _⟩ := hl.channels id
  have hlt : i < (s.channels id).length := (List.getElem?_eq_some_iff.1 hi).1
  rw [hnews]
  refine ⟨later, ?_, ?_⟩
  · rw [List.getElem?_append_left hlt]
    exact hi
  · exact forall_take_append hlt.le fun r hr ht => (hall r hr ht).mono hl.accepts le_rfl

/-! ### The socket, step by step -/

/-- The condition on a step: when the socket subscribes, each removal of its own token
that was broadcast since its membership check or, after a lag, since the last message it
received, has been followed by an acceptance. -/
def Covered (s : Sys) : Act → Prop
  | .socket .subscribe => match s.socket.phase with
    | .ready v seen => ∀ r ∈ (s.channels v.circle_id).drop seen, removes v.self_token r.message = true →
      AcceptedBetween s.accepts v.circle_id v.self_token r.committed s.moment
    | _ => True
  | _ => True

/-- What a stretch of the handler leaves: the socket is informed, and what it
forwards is in order. -/
structure Proper (s : Sys) (k : Socket) : Prop where
  informed : Informed s k.phase
  stopped : Stopped { s with socket := k }

theorem stopped_frames {s : Sys} (h : Stopped s) {k : Socket}
    (hframes : ∀ id t i, .forwarded id t i ∈ k.frames → .forwarded id t i ∈ s.socket.frames) :
    Stopped { s with socket := k } :=
  fun id t i hmem => h id t i (hframes id t i hmem)

/-- A frame that is not a broadcast forwards nothing. -/
theorem mem_frames_concat {frames : List Frame} {f : Frame} {id : Uuid} {t : Token} {i : ℕ}
    (h : .forwarded id t i ∈ frames ++ [f]) (hf : ∀ id t i, f ≠ .forwarded id t i) :
    .forwarded id t i ∈ frames := by
  rcases List.mem_append.1 h with h | h
  · exact h
  · exact absurd (List.mem_singleton.1 h).symm (hf id t i)

section

variable {env : Env} {s : Sys} (h : Sound env s)

include h

/-- The handler is elsewhere and has sent nothing. -/
theorem Sound.proper_move {p : Phase} (hp : Informed s p) : Proper s { s.socket with phase := p } :=
  ⟨hp, stopped_frames h.stopped fun _ _ _ hmem => hmem⟩

theorem Sound.proper_stay : Proper s s.socket := h.proper_move h.informed

/-- The handler is elsewhere and has sent something of its own. -/
theorem Sound.proper_send {p : Phase} {f : Frame} (hp : Informed s p)
    (hf : ∀ id t i, f ≠ .forwarded id t i) :
    Proper s { phase := p, frames := s.socket.frames ++ [f] } :=
  ⟨hp, stopped_frames h.stopped fun _ _ _ hmem => mem_frames_concat hmem hf⟩

theorem Sound.proper_close (code : ℕ) (reason : String) : Proper s (s.socket.close code reason) :=
  h.proper_send trivial (by simp)

theorem Sound.proper_text : Proper s s.text := by
  unfold Sys.text
  split
  · rename_i hphase
    exact h.proper_send h.informed (by simp)
  · exact h.proper_stay

theorem Sound.proper_join (id : Uuid) (auth : Option (Except String Pubkey)) :
    Proper s (s.join env id auth) := by
  unfold Sys.join
  split
  · split
    · exact h.proper_close ..
    · exact h.proper_close ..
    · exact h.proper_move trivial
  · exact h.proper_stay

/-- The check admits only who has been accepted after every removal so far. -/
theorem Sound.proper_check (reached : Bool) : Proper s (s.check reached) := by
  unfold Sys.check
  split
  · rename_i v hphase
    split_ifs with hb
    · have hbelongs := (Bool.and_eq_true_iff.1 hb).2
      refine h.proper_move ⟨le_rfl, ?_⟩
      intro r hr ht
      exact (h.announced v.circle_id r (List.mem_of_mem_take hr) _ ht).belongs hbelongs
    · exact h.proper_close ..
  · exact h.proper_stay

theorem Sound.proper_recheck (enabled reached : Bool) : Proper s (s.recheck enabled reached) := by
  have hinf := h.informed
  unfold Sys.recheck
  split
  · rename_i v lagged seen hphase
    rw [hphase] at hinf
    split_ifs
    · exact h.proper_move hinf
    · exact h.proper_move hinf
  · exact h.proper_stay

theorem Sound.proper_snapshot (fetched delivered : Bool) :
    Proper s (s.snapshot fetched delivered) := by
  have hinf := h.informed
  unfold Sys.snapshot
  split
  · rename_i v lagged seen hphase
    rw [hphase] at hinf
    split_ifs
    · exact h.proper_send hinf (by simp)
    · exact h.proper_move trivial
    · exact h.proper_move hinf
  · exact h.proper_stay

/-- A socket that has missed no removal may start at the end of the channel. -/
theorem Sound.proper_subscribe (hcov : Covered s (.socket .subscribe)) : Proper s s.subscribe := by
  have hinf := h.informed
  unfold Covered at hcov
  unfold Sys.subscribe
  split
  · rename_i v seen hphase
    rw [hphase] at hinf
    simp only [hphase] at hcov
    have hall := forall_of_take_drop hinf.answered hcov
    refine h.proper_move ⟨le_rfl, ⟨le_rfl, ?_⟩, ?_⟩
    · intro r hr
      exact hall r (List.mem_of_mem_take hr)
    · rw [List.drop_length]
      intro r hr
      cases hr
  · exact h.proper_stay

/-- A message that is forwarded comes after the subscription, and the removals before
it have been answered by then. -/
theorem Sound.proper_recv (delivered : Bool) : Proper s (s.recv delivered) := by
  have hinf := h.informed
  unfold Sys.recv
  split
  · rename_i v next since hphase
    rw [hphase] at hinf
    obtain ⟨hsince, haware, hfrom⟩ := hinf
    split
    · exact h.proper_stay
    · refine h.proper_move ⟨haware.seen, ?_⟩
      intro r hr ht
      exact (haware.answered r hr ht).mono (List.Subset.refl _) hsince
    · rename_i r hgot
      have hr := recv_eq_got hgot
      have hlt := (List.getElem?_eq_some_iff.1 hr).1
      split_ifs with hremoves
      · exact h.proper_close ..
      · have hmade : since ≤ r.made := hfrom r (mem_drop_of_getElem? hr)
        refine ⟨⟨hsince, ⟨by omega, ?_⟩, forall_drop_succ hfrom⟩, ?_⟩
        · exact forall_take_succ haware.answered hr fun ht => absurd ht hremoves
        · intro id t i hmem
          rcases List.mem_append.1 hmem with hmem | hmem
          · exact h.stopped id t i hmem
          · cases List.mem_singleton.1 hmem
            exact ⟨r, hr, fun r' hr' ht => (haware.answered r' hr' ht).mono (List.Subset.refl _) hmade⟩
      · exact h.proper_move trivial
  · exact h.proper_stay

theorem Sound.proper_handleCircleWs (a : SocketAct) (hcov : Covered s (.socket a)) :
    Proper s (handleCircleWs env s a) := by
  cases a with
  | text => exact h.proper_text
  | join id auth => exact h.proper_join id auth
  | check reached => exact h.proper_check reached
  | recheck enabled reached => exact h.proper_recheck enabled reached
  | snapshot fetched delivered => exact h.proper_snapshot fetched delivered
  | subscribe => exact h.proper_subscribe hcov
  | recv delivered => exact h.proper_recv delivered
  | hangUp => exact h.proper_move trivial

end

/-! ### Whole runs -/

theorem sound_init (env : Env) (now : Timestamp) : Sound env (Sys.init now) where
  owned := owned_init env now
  queued _ h := by cases h
  announced _ _ h := by cases h
  informed := trivial
  stopped _ _ _ h := by cases h

/-- A handler of the circles queues only what is true. -/
theorem queued_handle {env : Env} {s : Sys} (h : Sound env s) (a : Circles.Act) :
    ∀ os ∈ (s.handle env a).outbox, ∀ o ∈ os,
      Announced (step env s (.circles a)) o.circle_id o.message o.committed := by
  intro os hos o ho
  unfold Sys.handle at hos
  split at hos
  · rename_i c out hexec
    rcases List.mem_append.1 hos with hos | hos
    · exact announced_step _ (h.queued os hos o ho)
    · obtain rfl := List.mem_singleton.1 hos
      obtain ⟨⟨id, message⟩, hmem, rfl⟩ := List.mem_map.1 ho
      intro t ht
      have hok : (Circles.exec env s.circles a).2 = .ok out := by rw [hexec]
      obtain ⟨m, auth, rfl, rfl⟩ := removal_of_broadcast hok hmem ht
      exact gone_removal h.owned ⟨out, hok⟩
  · exact announced_step _ (h.queued os hos o ho)

theorem broadcast_socket (s : Sys) (i : ℕ) : (s.broadcast i).socket = s.socket := by
  unfold Sys.broadcast
  split <;> rfl

theorem broadcast_circles (s : Sys) (i : ℕ) : (s.broadcast i).circles = s.circles := by
  unfold Sys.broadcast
  split <;> rfl

/-- After a broadcast no handler has more to say than before. -/
theorem mem_outbox_broadcast {s : Sys} {i : ℕ} {os : List Outgoing} {o : Outgoing}
    (hos : os ∈ (s.broadcast i).outbox) (ho : o ∈ os) : ∃ os' ∈ s.outbox, o ∈ os' := by
  unfold Sys.broadcast at hos
  split at hos
  · rename_i o' os' ho'
    rcases List.mem_or_eq_of_mem_set hos with hos | rfl
    · exact ⟨os, hos, ho⟩
    · exact ⟨o' :: os, List.mem_of_getElem? ho', List.mem_cons_of_mem _ ho⟩
  · exact ⟨os, hos, ho⟩

/-- What is on a channel after a broadcast was there, or was a handler's to say. -/
theorem mem_channels_broadcast {s : Sys} {i : ℕ} {id : Uuid} {r : Sent}
    (hr : r ∈ (s.broadcast i).channels id) : r ∈ s.channels id ∨
      ∃ os ∈ s.outbox, ∃ o ∈ os, o.circle_id = id ∧ o.message = r.message ∧
        o.committed = r.committed := by
  unfold Sys.broadcast at hr
  split at hr
  · rename_i o os ho
    dsimp only at hr
    by_cases hid : id = o.circle_id
    · subst hid
      rw [Function.update_self] at hr
      rcases List.mem_append.1 hr with hr | hr
      · exact Or.inl hr
      · obtain rfl := List.mem_singleton.1 hr
        exact Or.inr ⟨_, List.mem_of_getElem? ho, o, List.mem_cons_self .., rfl, rfl, rfl⟩
    · rw [Function.update_of_ne hid] at hr
      exact Or.inl hr
  · exact Or.inl hr

/-- **One step.** -/
theorem sound_step {env : Env} (hinj : ∀ id, Function.Injective (env.circleToken id)) (s : Sys)
    (a : Act) (h : Sound env s) (hcov : Covered s a) : Sound env (step env s a) := by
  have hl := later_step env s a
  have hold : ∀ id, ∀ r ∈ s.channels id, Announced (step env s a) id r.message r.committed :=
    fun id r hr => announced_step a (h.announced id r hr)
  have hwait : ∀ os ∈ s.outbox, ∀ o ∈ os, Announced (step env s a) o.circle_id o.message o.committed :=
    fun os hos o ho => announced_step a (h.queued os hos o ho)
  cases a with
  | circles a =>
      have hsocket : (step env s (.circles a)).socket = s.socket := handle_socket env s a
      have hchannels : (step env s (.circles a)).channels = s.channels := handle_channels env s a
      refine ⟨?_, queued_handle h a, ?_, ?_, ?_⟩
      · show Owned env (s.handle env a).circles
        rw [handle_circles]
        exact owned_step hinj a h.owned
      · rw [hchannels]
        exact hold
      · rw [hsocket]
        exact informed_later hl h.informed
      · refine stopped_later hl h.stopped ?_
        rw [hsocket]
        exact fun _ _ _ hmem => hmem
  | broadcast i =>
      have hsocket : (step env s (.broadcast i)).socket = s.socket := broadcast_socket s i
      refine ⟨?_, ?_, ?_, ?_, ?_⟩
      · show Owned env (s.broadcast i).circles
        rw [broadcast_circles]
        exact h.owned
      · intro os hos o ho
        obtain ⟨os', hos', ho'⟩ := mem_outbox_broadcast hos ho
        exact hwait os' hos' o ho'
      · intro id r hr
        rcases mem_channels_broadcast hr with hr | ⟨os, hos, o, ho, rfl, hmessage, hcommitted⟩
        · exact hold id r hr
        · rw [← hmessage, ← hcommitted]
          exact hwait os hos o ho
      · rw [hsocket]
        exact informed_later hl h.informed
      · refine stopped_later hl h.stopped ?_
        rw [hsocket]
        exact fun _ _ _ hmem => hmem
  | socket a =>
      have hproper := h.proper_handleCircleWs a hcov
      have hl' : Later { s with socket := handleCircleWs env s a } (step env s (.socket a)) :=
        ⟨hl.channels, hl.accepts, hl.moment⟩
      exact ⟨h.owned, hwait, hold, informed_later hl hproper.informed,
        stopped_later hl' hproper.stopped fun _ _ _ hmem => hmem⟩

/-- **A removed member stops receiving**, in every run in which the socket subscribes
without having missed its removal. -/
theorem removed_stops (env : Env) (hinj : ∀ id, Function.Injective (env.circleToken id))
    (now : Timestamp) (as : List Act)
    (hcov : ∀ e ∈ events (step env) (Sys.init now) as, Covered e.pre e.act) :
    Stopped (run (step env) (Sys.init now) as) :=
  (run_induction_of (sound_init env now) (sound_step hinj) hcov).stopped

/-! ### Runs -/

theorem handle_of_exec {env : Env} {s : Sys} {a : Circles.Act} {c : Circles.Sys}
    {out : List Broadcast} (h : Circles.exec env s.circles a = (c, .ok out)) :
    step env s (.circles a) =
      { s with
        circles := c
        outbox := s.outbox ++ [out.map fun b => ⟨b.1, b.2, s.moment⟩]
        moment := s.moment + 1
        accepts := s.accepts ++ (accepted env a).toList.map fun k => (k.1, k.2, s.moment) } := by
  have hhandle : s.handle env a =
      { s with
        circles := c
        outbox := s.outbox ++ [out.map fun b => ⟨b.1, b.2, s.moment⟩]
        accepts := s.accepts ++ (accepted env a).toList.map fun k => (k.1, k.2, s.moment) } := by
    unfold Sys.handle
    rw [h]
  unfold step perform
  dsimp only
  rw [hhandle]

/-- The member's token. -/
def demoToken : Token := Circles.demoToken Circles.demoMember

/-- The state after the member has joined the circle. -/
def demoStart : Sys :=
  { circles := Circles.demoJoined, outbox := [[], [], []], moment := 3
    accepts := [("c", demoToken, 2)] }

theorem run_demoStart :
    run (step Circles.demoEnv) (Sys.init 0) (Circles.demoJoin.map Act.circles) = demoStart := by
  have hcreate := handle_of_exec (s := Sys.init 0) Circles.exec_demoCreate
  unfold Circles.demoJoin
  rw [List.map_cons, run_cons, hcreate]
  rw [List.map_cons, run_cons, handle_of_exec Circles.exec_demoInvite]
  rw [List.map_cons, run_cons, handle_of_exec Circles.exec_demoAccept]
  rfl

/-- The owner removes the member. -/
def demoRemove : Act :=
  .circles (.removeMember "c" Circles.demoMember (Circles.demoAuth Circles.demoOwner))

/-- The member's socket is checked; the member is removed, which is broadcast before
the socket subscribes; then another message is. -/
def demoRace : List Act :=
  [.socket (.join "c" (some (.ok Circles.demoMember))), .socket (.check true), demoRemove,
    .broadcast 3, .socket (.recheck false true), .socket .subscribe, .broadcast 3,
    .socket (.recv true)]

/-- **The socket of a removed member that is sent what comes later.** -/
theorem removed_while_joining : ¬ Stopped
    (run (step Circles.demoEnv) (Sys.init 0) (Circles.demoJoin.map Act.circles ++ demoRace)) := by
  rw [run_append, run_demoStart]
  intro h
  have hframes : (run (step Circles.demoEnv) demoStart demoRace).socket.frames =
      [.forwarded "c" demoToken 1] := by
    decide
  have hchannel : (run (step Circles.demoEnv) demoStart demoRace).channels "c" =
      [⟨.memberRemoved 1 demoToken, 5, 6⟩, ⟨.epochChanged 1 true, 5, 9⟩] := by
    decide
  have haccepts : (run (step Circles.demoEnv) demoStart demoRace).accepts = [("c", demoToken, 2)] := by
    decide
  obtain ⟨later, _, hall⟩ := h "c" demoToken 1 (by rw [hframes]; exact List.mem_singleton_self _)
  rw [hchannel, haccepts] at hall
  obtain ⟨n, hn, hafter, _⟩ := hall ⟨.memberRemoved 1 demoToken, 5, 6⟩ (List.mem_singleton_self _)
    (by simp [removes])
  have hn : n = 2 := congrArg (fun k => k.2.2) (List.mem_singleton.1 hn)
  dsimp only at hafter
  omega

/-- The tables after the removal. -/
def demoLeftDb : Db := Circles.demoJoinedDb.leave "c" demoToken

theorem run_demoInvite_again : (Circles.addMember Circles.demoEnv 0 0 "c"
    (Circles.demoRequest Circles.demoOwner Circles.demoInvitation)).run demoLeftDb =
      .ok ((), demoLeftDb.invite 0 "c" demoToken Circles.demoInvitation) := by
  refine Circles.run_demoInvitation (e := 1) (c := Circles.demoCircle.bump.bump.depart) ?_ ?_ ?_ ?_ ?_
  all_goals decide

theorem run_demoAccept_again : (Circles.acceptMember Circles.demoEnv 0 "c"
    (Circles.demoAuth Circles.demoMember)).run
      (demoLeftDb.invite 0 "c" demoToken Circles.demoInvitation) =
      .ok ((), (demoLeftDb.invite 0 "c" demoToken Circles.demoInvitation).activate 0 "c" demoToken) := by
  refine Circles.run_demoAcceptance (e := 1) (c := Circles.demoCircle.bump.bump.depart.bump) ?_ ?_ ?_ ?_
  all_goals decide

/-- The tables after the member has joined a second time. -/
def demoBackDb : Db := (demoLeftDb.invite 0 "c" demoToken Circles.demoInvitation).activate 0 "c" demoToken

/-- The member is removed, invited and accepted again. -/
def demoRejoin : List Act :=
  [demoRemove, .broadcast 3,
    .circles (.addMember "c" (Circles.demoRequest Circles.demoOwner Circles.demoInvitation) 0 0),
    .circles (.acceptMember "c" (Circles.demoAuth Circles.demoMember) 0)]

/-- The state after that; the second message of the removal is still to be made. -/
def demoBack : Sys :=
  { circles := Circles.demoSys demoBackDb
    outbox := [[], [], [], [⟨"c", .epochChanged 1 true, 3⟩], [], []]
    channels := Function.update (fun _ => []) "c" [⟨.memberRemoved 1 demoToken, 3, 4⟩]
    moment := 7
    accepts := [("c", demoToken, 2), ("c", demoToken, 6)] }

theorem run_demoBack : run (step Circles.demoEnv) demoStart demoRejoin = demoBack := by
  have hinvite : Circles.exec Circles.demoEnv (Circles.demoSys demoLeftDb) (.addMember "c"
      (Circles.demoRequest Circles.demoOwner Circles.demoInvitation) 0 0) =
        (Circles.demoSys (demoLeftDb.invite 0 "c" demoToken Circles.demoInvitation), .ok []) :=
    Circles.transact_of_run (Circles.demoSys demoLeftDb) _ run_demoInvite_again
  have haccept : Circles.exec Circles.demoEnv
      (Circles.demoSys (demoLeftDb.invite 0 "c" demoToken Circles.demoInvitation))
        (.acceptMember "c" (Circles.demoAuth Circles.demoMember) 0) =
          (Circles.demoSys demoBackDb, .ok []) :=
    Circles.transact_of_run (Circles.demoSys (demoLeftDb.invite 0 "c" demoToken
      Circles.demoInvitation)) _ run_demoAccept_again
  unfold demoRejoin demoRemove
  rw [run_cons, handle_of_exec (s := demoStart) Circles.exec_demoRemove, run_cons, run_cons]
  unfold demoStart
  rw [handle_of_exec (a := .addMember "c" _ 0 0) hinvite]
  rw [run_cons, handle_of_exec (a := .acceptMember "c" _ 0) haccept]
  rfl

/-- Only a subscription can miss a removal. -/
theorem covered_of_not_mem {env : Env} {s : Sys} {as : List Act}
    (h : Act.socket .subscribe ∉ as) : ∀ e ∈ events (step env) s as, Covered e.pre e.act := by
  intro e he
  obtain ⟨bs, cs, rfl, _, _⟩ := mem_events he
  unfold Covered
  split
  · rename_i hact
    rw [hact] at h
    exact absurd (List.mem_append_right _ (List.mem_cons_self ..)) h
  · trivial

/-- The member's socket, once it is back, up to its subscription. -/
def demoConnect : List Act :=
  [.socket (.join "c" (some (.ok Circles.demoMember))), .socket (.check true),
    .socket (.recheck false true)]

/-- The same, and what it is then sent. -/
def demoVisit : List Act :=
  demoConnect ++ [.socket .subscribe, .broadcast 3, .socket (.recv true)]

theorem covered_demoVisit :
    ∀ e ∈ events (step Circles.demoEnv) demoBack demoVisit, Covered e.pre e.act := by
  have hready : (run (step Circles.demoEnv) demoBack demoConnect).socket.phase =
      .ready ⟨"c", demoToken⟩ 1 := by
    decide
  have hmissed : ((run (step Circles.demoEnv) demoBack demoConnect).channels "c").drop 1 = [] := by
    decide
  have hcov : Covered (run (step Circles.demoEnv) demoBack demoConnect) (.socket .subscribe) := by
    unfold Covered
    simp only [hready, hmissed]
    intro r hr
    cases hr
  unfold demoVisit
  rw [events_append, events_cons, List.forall_mem_append, List.forall_mem_cons]
  exact ⟨covered_of_not_mem (by simp [demoConnect]), hcov, covered_of_not_mem (by simp)⟩

/-- A member that is removed, joins again and then connects is sent what comes after
its removal. -/
theorem removed_stops_rejoined :
    Stopped (run (step Circles.demoEnv) demoBack demoVisit) ∧
      (run (step Circles.demoEnv) demoBack demoVisit).socket.frames =
        [.forwarded "c" demoToken 1] := by
  have hrun : run (step Circles.demoEnv) (Sys.init 0)
      (Circles.demoJoin.map Act.circles ++ demoRejoin) = demoBack := by
    rw [run_append, run_demoStart, run_demoBack]
  have h := removed_stops Circles.demoEnv Circles.demoToken_injective 0
    ((Circles.demoJoin.map Act.circles ++ demoRejoin) ++ demoVisit) ?_
  · rw [run_append, hrun] at h
    exact ⟨h, by decide⟩
  · intro e he
    rw [events_append, hrun, List.mem_append] at he
    rcases he with he | he
    · exact covered_of_not_mem (by simp [Circles.demoJoin, demoRejoin, demoRemove]) e he
    · exact covered_demoVisit e he

end Ws
end SentinelMesh
