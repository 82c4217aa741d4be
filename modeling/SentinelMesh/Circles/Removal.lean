/-
# After a removal

What holds from the commit of a removal on, whatever happens next.  The circle
needs a new key until a rotation, and a rotation goes one epoch further, so a
location read later is accepted at later epochs only, after a rotation; the wraps
of a rotation are those of the active members, and the removed member is one again
only after it was invited and accepted.  `Excluded` relates a state after the
removal to the events since, and `excluded_step` is what one step does to it.

People are known to a circle by their tokens: "invited again" is an invitation of
a key with the removed token, which is the same key where tokens are injective.
-/

import SentinelMesh.Circles.Epoch

namespace SentinelMesh
namespace Circles

open Lib

/-- The event invites the token: `add_member` succeeds for it. -/
def Invited (env : Env) (id : Uuid) (t : Token) (e : Event Sys Act) : Prop :=
  Succeeds env e.pre e.act ∧ ∃ req x y body, e.act = .addMember id req x y ∧ req.body = some body ∧
    env.circleToken id (toAsciiLowercase body.member_pubkey) = t

/-- The event is an acceptance by the token: `accept_member` succeeds for it. -/
def Accepted (env : Env) (id : Uuid) (t : Token) (e : Event Sys Act) : Prop :=
  Succeeds env e.pre e.act ∧ ∃ auth x, e.act = .acceptMember id auth x ∧
    env.circleToken id auth.pubkey = t

/-- Among the events the token is invited and then accepts. -/
def Rejoined (env : Env) (id : Uuid) (t : Token) (es : List (Event Sys Act)) : Prop :=
  ∃ e₁ e₂, [e₁, e₂].Sublist es ∧ Invited env id t e₁ ∧ Accepted env id t e₂

/-- Among the events there is a rotation of the circle whose wraps exclude the token,
unless the token joined again before it. -/
def RotatedWithout (env : Env) (id : Uuid) (t : Token) (es : List (Event Sys Act)) : Prop :=
  ∃ xs e ys, es = xs ++ e :: ys ∧ Succeeds env e.pre e.act ∧
    ∃ req ago body, e.act = .commitEpoch id req ago ∧ req.body = some body ∧
      (t ∉ body.member_wraps.map MemberWrap.member_token ∨ Rejoined env id t xs)

theorem Rejoined.append {env : Env} {id : Uuid} {t : Token} {es : List (Event Sys Act)}
    (h : Rejoined env id t es) (fs : List (Event Sys Act)) : Rejoined env id t (es ++ fs) := by
  obtain ⟨e₁, e₂, hsub, h₁, h₂⟩ := h
  exact ⟨e₁, e₂, hsub.trans (List.sublist_append_left es fs), h₁, h₂⟩

theorem RotatedWithout.append {env : Env} {id : Uuid} {t : Token} {es : List (Event Sys Act)}
    (h : RotatedWithout env id t es) (fs : List (Event Sys Act)) :
    RotatedWithout env id t (es ++ fs) := by
  obtain ⟨xs, e, ys, rfl, h⟩ := h
  exact ⟨xs, e, ys ++ fs, by simp, h⟩

/-- **What holds after the removal** of the token `t` at the epoch `epoch`, given the
events since. -/
structure Excluded (env : Env) (id : Uuid) (t : Token) (epoch : ℤ) (s : Sys)
    (es : List (Event Sys Act)) : Prop where
  keyed : Keyed env s.db
  minted : id ∈ s.minted
  /-- The circle needs a new key, or has been rotated to a later epoch. -/
  shut : ∀ c, s.db.circles.find? id = some c →
    (c.key_epoch = epoch ∧ c.rekey_required = true) ∨
      (epoch < c.key_epoch ∧ RotatedWithout env id t es)
  /-- The token has a row only after an invitation. -/
  row : ∀ m, s.db.members.find? (id, t) = some m → ∃ e ∈ es, Invited env id t e
  /-- The token is active only after an invitation and an acceptance. -/
  active : s.db.isActive id t = true → Rejoined env id t es

theorem isActive_iff {db : Db} {id : Uuid} {t : Token} :
    db.isActive id t = true ↔
      ∃ m, db.members.find? (id, t) = some m ∧ m.membership_state = .active := by
  unfold Db.isActive
  rw [Option.any_eq_true]
  simp

/-- A member is active where it was active, or has just accepted an invitation. -/
theorem active_of_step {env : Env} {s : Sys} {a : Act} {id : Uuid} {t : Token}
    (h : (step env s a).db.isActive id t = true) :
    s.db.isActive id t = true ∨
      (∃ m, s.db.members.find? (id, t) = some m) ∧ Accepted env id t ⟨s, a, step env s a⟩ := by
  obtain ⟨m', hm, hstate⟩ := isActive_iff.1 h
  have before : ∀ m, s.db.members.find? (id, t) = some m →
      m'.membership_state = m.membership_state → s.db.isActive id t = true :=
    fun m hm hsame => isActive_iff.2 ⟨m, hm, hsame.symm.trans hstate⟩
  cases member_of_step hm with
  | invited req x y body circle joined act hs ok token row =>
      rw [row] at hstate
      cases hstate
  | kept m old same stays => exact Or.inl (before m old (congrArg Prod.fst same))
  | accepted auth x circle m now act hs token ok row =>
      exact Or.inr ⟨⟨m, ok.invited⟩, hs, auth, x, act, token.symm⟩
  | passed req ago body circle m act hs ok old same out =>
      exact Or.inl (before m old (congrArg Prod.fst same))
  | rewrapped req ago body circle m w act hs ok old mem token row =>
      exact Or.inl (before m old (congrArg Prod.fst row))

theorem excluded_shut {env : Env} {id : Uuid} {t : Token} {epoch : ℤ} {s : Sys}
    {es : List (Event Sys Act)} {a : Act} (h : Excluded env id t epoch s es) {c' : Circle}
    (hc : (step env s a).db.circles.find? id = some c') :
    (c'.key_epoch = epoch ∧ c'.rekey_required = true) ∨
      (epoch < c'.key_epoch ∧ RotatedWithout env id t (es ++ [⟨s, a, step env s a⟩])) := by
  cases circle_of_step hc with
  | created req body act unused free row => exact absurd h.minted unused
  | kept c old owner hepoch rekey quiet =>
      rcases h.shut c old with ⟨he, hr⟩ | ⟨hlt, hrot⟩
      · exact Or.inl ⟨hepoch.trans he, rekey hr⟩
      · exact Or.inr ⟨hepoch ▸ hlt, hrot.append _⟩
  | rotated req ago body c act hs ok row =>
      right
      have hnext := (ok.next_epoch h.keyed).1
      have hnew : c'.key_epoch = body.next_epoch := by rw [row]; rfl
      have hle : epoch ≤ c.key_epoch := by
        rcases h.shut c ok.found with ⟨he, _⟩ | ⟨hlt, _⟩
        · exact he.ge
        · exact hlt.le
      refine ⟨by omega, es, _, [], rfl, hs, req, ago, body, act, Request.body_of_parse ok.parsed, ?_⟩
      by_cases ht : t ∈ body.member_wraps.map MemberWrap.member_token
      · -- the token is in the set of wraps, so it is active, so it joined again
        exact Or.inr (h.active (mem_activeTokens.1 (ok.wraps.mem_iff.1 ht)))
      · exact Or.inl ht

theorem excluded_row {env : Env} {id : Uuid} {t : Token} {epoch : ℤ} {s : Sys}
    {es : List (Event Sys Act)} {a : Act} (h : Excluded env id t epoch s es) {m' : Member}
    (hm : (step env s a).db.members.find? (id, t) = some m') :
    ∃ e ∈ es ++ [⟨s, a, step env s a⟩], Invited env id t e := by
  have before : ∀ m, s.db.members.find? (id, t) = some m →
      ∃ e ∈ es ++ [⟨s, a, step env s a⟩], Invited env id t e := by
    intro m hm
    obtain ⟨e, he, hinv⟩ := h.row m hm
    exact ⟨e, List.mem_append_left _ he, hinv⟩
  cases member_of_step hm with
  | invited req x y body circle joined act hs ok token row =>
      exact ⟨_, List.mem_append_right _ (List.mem_singleton_self _), hs, req, x, y, body, act,
        Request.body_of_parse ok.parsed, token.symm⟩
  | kept m old same stays => exact before m old
  | accepted auth x circle m now act hs token ok row => exact before m ok.invited
  | passed req ago body circle m act hs ok old same out => exact before m old
  | rewrapped req ago body circle m w act hs ok old mem token row => exact before m old

theorem excluded_active {env : Env} {id : Uuid} {t : Token} {epoch : ℤ} {s : Sys}
    {es : List (Event Sys Act)} {a : Act} (h : Excluded env id t epoch s es)
    (hact : (step env s a).db.isActive id t = true) :
    Rejoined env id t (es ++ [⟨s, a, step env s a⟩]) := by
  rcases active_of_step hact with hact | ⟨⟨m, hm⟩, hacc⟩
  · exact (h.active hact).append _
  · obtain ⟨e, he, hinv⟩ := h.row m hm
    exact ⟨e, _, (List.singleton_sublist.2 he).append (List.Sublist.refl _), hinv, hacc⟩

/-- **One step after a removal.** -/
theorem excluded_step {env : Env} {id : Uuid} {t : Token} {epoch : ℤ} {s : Sys}
    {es : List (Event Sys Act)} (a : Act) (h : Excluded env id t epoch s es) :
    Excluded env id t epoch (step env s a) (es ++ [⟨s, a, step env s a⟩]) where
  keyed := keyed_step a h.keyed
  minted := minted_step h.minted
  shut _ hc := excluded_shut h hc
  row _ hm := excluded_row h hm
  active hact := excluded_active h hact

/-- **The removal itself** leaves the circle without a key and the token without a
row. -/
theorem excluded_removal {env : Env} {s : Sys} {id : Uuid} {m : Pubkey} {auth : NostrAuth}
    {c : Circle} (hk : Keyed env s.db) (hminted : id ∈ s.minted)
    (hc : s.db.circles.find? id = some c) (hs : Succeeds env s (.removeMember id m auth)) :
    Excluded env id (env.circleToken id m) c.key_epoch (step env s (.removeMember id m auth)) [] := by
  have hch := change_step hs
  have hkeyed := keyed_step (.removeMember id m auth) hk
  have hmint : id ∈ (step env s (.removeMember id m auth)).minted := minted_step hminted
  obtain ⟨s', hs'⟩ : ∃ s', s' = step env s (.removeMember id m auth) := ⟨_, rfl⟩
  rw [← hs'] at hch hkeyed hmint ⊢
  have hrow : s'.db.members.find? (id, env.circleToken id m) = none := by
    generalize s'.db = db' at hch
    cases hch with
    | remove _ _ _ circle member ok =>
        unfold Db.leave
        dsimp only
        rw [Table.find?_filter, Option.filter_eq_none_iff]
        simp
  refine ⟨hkeyed, hmint, ?_, ?_, ?_⟩
  · intro c' hc'
    left
    generalize s'.db = db' at hch hc'
    cases hch with
    | remove _ _ _ circle member ok =>
        unfold Db.leave at hc'
        dsimp only at hc'
        rw [Table.find?_modify, if_pos rfl, hc] at hc'
        obtain rfl := Option.some.inj hc'
        exact ⟨rfl, rfl⟩
  · intro m' hm'
    rw [hrow] at hm'
    cases hm'
  · intro hact
    obtain ⟨m', hm', _⟩ := isActive_iff.1 hact
    rw [hrow] at hm'
    cases hm'

/-- **Forward exclusion.**  After `remove_member` has removed `m` at the epoch of `c`,
whatever happens next: a push that reads the circle then is accepted only with a
later epoch, after a rotation whose wraps exclude `m` unless `m` joined again; and a
wrap addressed to `m` for a later epoch is stored only after an invitation of `m`. -/
theorem forward_exclusion (env : Env) (now : Timestamp) (as : List Act) (id : Uuid) (m : Pubkey)
    (auth : NostrAuth) (c : Circle)
    (hc : (run (step env) (Sys.init now) as).db.circles.find? id = some c)
    (hs : Succeeds env (run (step env) (Sys.init now) as) (.removeMember id m auth))
    (s₁ : Sys) (hs₁ : s₁ = step env (run (step env) (Sys.init now) as) (.removeMember id m auth))
    (bs : List Act) :
    (∀ len req enabled redis ago,
      Succeeds env (run (step env) s₁ bs) (.pushEnvelope id len req enabled redis ago) →
        ∃ body, req.body = some body ∧ c.key_epoch < body.key_epoch ∧
          RotatedWithout env id (env.circleToken id m) (events (step env) s₁ bs)) ∧
    (∀ t row epoch raw event, (run (step env) s₁ bs).db.members.find? (id, t) = some row →
      row.key_wrap_epoch = some epoch → c.key_epoch < epoch →
        row.key_wrap_event = some raw → raw.parse = some event →
          (∃ p, tagValues event "p" = [p] ∧ toAsciiLowercase p = m) →
            ∃ e ∈ events (step env) s₁ bs, Invited env id (env.circleToken id m) e) := by
  have hcount := counted_run env id now as
  have hex : Excluded env id (env.circleToken id m) c.key_epoch (run (step env) s₁ bs)
      (events (step env) s₁ bs) := by
    refine run_events_induction ?_ (fun _ _ a h => excluded_step a h) bs
    rw [hs₁]
    exact excluded_removal hcount.keyed (hcount.minted c hc) hc hs
  refine ⟨?_, ?_⟩
  · intro len req enabled redis ago hpush
    have hch := change_step hpush
    generalize (step env (run (step env) s₁ bs) _).db = db' at hch
    cases hch with
    | read _ _ _ _ _ _ e c' ok =>
        obtain ⟨body, hbody, hepoch⟩ := ok.submitted
        have hepoch : body.key_epoch = c'.key_epoch := hepoch.trans ok.epoch
        rcases hex.shut c' ok.found with ⟨_, hrekey⟩ | ⟨hlt, hrot⟩
        · rw [ok.keyed] at hrekey
          cases hrekey
        · exact ⟨body, hbody, hepoch ▸ hlt, hrot⟩
  · rintro t row epoch raw event hrow _ _ hraw hparse ⟨p, hp, rfl⟩
    obtain ⟨c', _, owner, recipient, epoch', raw', event', hw⟩ := hex.keyed.wraps id t row hrow
    -- the wrap of the row is addressed to the key behind its token
    obtain rfl : raw = raw' := Option.some.inj (hraw.symm.trans hw.wrap_event)
    obtain rfl : event = event' := Option.some.inj (hparse.symm.trans hw.parsed)
    obtain ⟨p', hp', rfl⟩ := hw.wrap.recipient
    obtain rfl : p = p' := (List.cons.inj (hp.symm.trans hp')).1
    rw [hw.member] at hrow
    exact hex.row row hrow

/-- The owner removes the member, rotates the key, and pushes. -/
theorem forward_exclusion_joined :
    demoJoined.db.isActive "c" (demoToken demoMember) = true ∧
      Succeeds demoEnv demoJoined (.removeMember "c" demoMember (demoAuth demoOwner)) ∧
      RotatedWithout demoEnv "c" (demoToken demoMember) (events (step demoEnv)
        (step demoEnv demoJoined (.removeMember "c" demoMember (demoAuth demoOwner)))
        [demoCommit 3 2]) := by
  have hs : Succeeds demoEnv demoJoined (.removeMember "c" demoMember (demoAuth demoOwner)) := by
    decide
  have hpush : Succeeds demoEnv (run (step demoEnv)
      (step demoEnv demoJoined (.removeMember "c" demoMember (demoAuth demoOwner)))
      [demoCommit 3 2]) (demoPush demoOwner 2) := by
    decide
  have hs' := hs
  rw [← run_demoJoin] at hs'
  obtain ⟨h, _⟩ := forward_exclusion demoEnv 0 demoJoin "c" demoMember (demoAuth demoOwner)
    demoCircle.bump.bump (by rw [run_demoJoin]; rfl) hs' _ rfl [demoCommit 3 2]
  rw [run_demoJoin] at h
  obtain ⟨_, _, _, hrot⟩ := h _ _ _ _ _ hpush
  exact ⟨by decide, hs, hrot⟩

end Circles
end SentinelMesh
