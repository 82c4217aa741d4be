/-
# Key epochs of a circle

What holds of the epochs of every circle in every reachable state, whatever the
interleaving of invitations, acceptances, rotations, departures and the rest.

`Keyed` is the invariant: the epoch is in the range of its column, every row of a
member carries a wrap by the owner for that member, and the wrap of an active
member is of the current epoch (`keyed_step`, `keyed_run`).  An epoch moves by
one, in a rotation whose wraps and labels are those of the active members
(`epoch_step`), and no epoch of a circle is committed twice
(`counted_run`).
-/

import SentinelMesh.Circles.Rows

namespace SentinelMesh
namespace Circles

open Lib

/-- The row of the token `t` carries a wrap by the owner, bound to the circle, to an
epoch and to the key behind the token. -/
structure Wrapped (env : Env) (id : Uuid) (owner_token t : Token) (m : Member) (owner : Pubkey)
    (recipient : Pubkey) (epoch : ℤ) (raw : RawEvent) (event : NostrEvent) : Prop where
  signer : owner_token = env.circleToken id owner
  member : t = env.circleToken id recipient
  wrap_epoch : m.key_wrap_epoch = some epoch
  wrap_event : m.key_wrap_event = some raw
  parsed : raw.parse = some event
  wrap : IsWrap env.verify owner id epoch recipient event

/-- **The invariant of the epochs.** -/
structure Keyed (env : Env) (db : Db) : Prop where
  epochs : ∀ id c, db.circles.find? id = some c → 0 < c.key_epoch ∧ c.key_epoch < 2 ^ 31
  wraps : ∀ id t m, db.members.find? (id, t) = some m → ∃ c, db.circles.find? id = some c ∧
    ∃ owner recipient epoch raw event,
      Wrapped env id c.owner_token t m owner recipient epoch raw event
  active : ∀ id t m c, db.members.find? (id, t) = some m → db.circles.find? id = some c →
    m.membership_state = .active → m.key_wrap_epoch = some c.key_epoch
  room : ∀ id, db.memberCount id ≤ maxCircleMembers

theorem keyed_init (env : Env) (now : Timestamp) : Keyed env (Sys.init now).db where
  epochs _ _ h := by cases h
  wraps _ _ _ h := by cases h
  active _ _ _ _ h := by cases h
  room _ := Nat.zero_le _

/-- The epoch a rotation commits is the next one. -/
theorem Rotates.next_epoch {env : Env} {db : Db} {id : Uuid} {req : Request CommitEpochBody}
    {body : CommitEpochBody} {c : Circle} (ok : Rotates env db id req body c) (h : Keyed env db) :
    body.next_epoch = c.key_epoch + 1 ∧ body.next_epoch < 2 ^ 31 := by
  have hepoch := h.epochs id c ok.found
  have hnext := ok.next
  have hpos := ok.positive
  have hmem : InRange 31 (wrap 32 (c.key_epoch + 1)) := wrap_mem 31 _
  rw [← hnext] at hmem
  unfold InRange at hmem
  have hnext' : body.next_epoch = c.key_epoch + 1 := by
    rw [hnext]
    refine wrap_of_mem (w := 31) ⟨by omega, ?_⟩
    by_contra hover
    -- the largest epoch wraps to the most negative value, which the column refuses
    have hmax : c.key_epoch + 1 = 2 ^ 31 := by omega
    rw [hmax, show wrap 32 (2 ^ 31) = -2 ^ 31 by decide] at hnext
    omega
  exact ⟨hnext', hmem.2⟩

theorem epochs_step {env : Env} {s : Sys} (a : Act) (h : Keyed env s.db) {id : Uuid} {c' : Circle}
    (hc : (step env s a).db.circles.find? id = some c') : 0 < c'.key_epoch ∧ c'.key_epoch < 2 ^ 31 := by
  cases circle_of_step hc with
  | created req body act unused free row =>
      have hone : c'.key_epoch = 1 := by rw [row]; rfl
      omega
  | kept c old owner epoch rekey quiet =>
      rw [epoch]
      exact h.epochs id c old
  | rotated req ago body c act hs ok row =>
      have hnext := ok.next_epoch h
      have hpos := ok.positive
      subst row
      exact ⟨hpos, hnext.2⟩

/-- Rows with the same keying carry the same wrap. -/
theorem Wrapped.of_keying {env : Env} {id : Uuid} {o t : Token} {m m' : Member}
    {owner recipient : Pubkey} {epoch : ℤ} {raw : RawEvent} {event : NostrEvent}
    (h : Wrapped env id o t m owner recipient epoch raw event) (hk : m'.keying = m.keying) :
    Wrapped env id o t m' owner recipient epoch raw event := by
  have hepoch : m'.key_wrap_epoch = m.key_wrap_epoch := congrArg (fun k => k.2.1) hk
  have hraw : m'.key_wrap_event = m.key_wrap_event := congrArg (fun k => k.2.2) hk
  exact ⟨h.signer, h.member, hepoch.trans h.wrap_epoch, hraw.trans h.wrap_event, h.parsed, h.wrap⟩

theorem wraps_step {env : Env} {s : Sys} {a : Act} (h : Keyed env s.db) {id : Uuid} {t : Token}
    {m' : Member} (hm : (step env s a).db.members.find? (id, t) = some m') :
    ∃ c, (step env s a).db.circles.find? id = some c ∧ ∃ owner recipient epoch raw event,
      Wrapped env id c.owner_token t m' owner recipient epoch raw event := by
  -- the circle of the row is still there, under the same owner
  have circle : ∀ c, s.db.circles.find? id = some c →
      (Succeeds env s a → ∀ auth, a ≠ .deleteCircle id auth) →
        ∃ c', (step env s a).db.circles.find? id = some c' ∧ c'.owner_token = c.owner_token := by
    intro c hc hdel
    obtain ⟨c', hc'⟩ := Option.isSome_iff_exists.1
      (circle_stays (Option.isSome_iff_exists.2 ⟨c, hc⟩) hdel)
    refine ⟨c', hc', ?_⟩
    cases circle_of_step hc' with
    | created req body act unused free row =>
        rw [hc] at free
        cases free
    | kept c₀ old owner epoch rekey quiet => rw [owner, Option.some.inj (hc.symm.trans old)]
    | rotated req ago body c₀ act hs ok row =>
        rw [row, Option.some.inj (hc.symm.trans ok.found)]
        rfl
  cases member_of_step hm with
  | invited req c b body circle₀ joined act hs ok token row =>
      obtain ⟨c', hc', howner⟩ := circle circle₀ ok.found fun _ auth ha => by simp [act] at ha
      obtain ⟨event, hparse, hwrap⟩ := ok.wrap
      refine ⟨c', hc', req.auth.pubkey, toAsciiLowercase body.member_pubkey, circle₀.key_epoch,
        body.key_wrap_event, event, howner.trans ok.owner, token, ?_, ?_, hparse, hwrap⟩
      · rw [row, ← ok.current]
        rfl
      · rw [row]
        rfl
  | kept m old same stays =>
      obtain ⟨c, hc, owner, recipient, epoch, raw, event, hw⟩ := h.wraps id t m old
      obtain ⟨c', hc', howner⟩ := circle c hc fun hs auth ha =>
        stays hs (Or.inr (Or.inr ⟨auth, ha⟩))
      rw [← howner] at hw
      exact ⟨c', hc', owner, recipient, epoch, raw, event, hw.of_keying same⟩
  | accepted auth b circle₀ m now act hs token ok row =>
      obtain ⟨c, hc, owner, recipient, epoch, raw, event, hw⟩ := h.wraps id t m ok.invited
      obtain ⟨c', hc', howner⟩ := circle c hc fun _ auth ha => by simp [act] at ha
      rw [← howner] at hw
      refine ⟨c', hc', owner, recipient, epoch, raw, event, hw.signer, hw.member, ?_, ?_, hw.parsed,
        hw.wrap⟩
      · rw [row]
        exact hw.wrap_epoch
      · rw [row]
        exact hw.wrap_event
  | passed req ago body circle₀ m act hs ok old same out =>
      obtain ⟨c, hc, owner, recipient, epoch, raw, event, hw⟩ := h.wraps id t m old
      obtain ⟨c', hc', howner⟩ := circle c hc fun _ auth ha => by simp [act] at ha
      rw [← howner] at hw
      exact ⟨c', hc', owner, recipient, epoch, raw, event, hw.of_keying same⟩
  | rewrapped req ago body circle₀ m w act hs ok old mem token row =>
      obtain ⟨c', hc', howner⟩ := circle circle₀ ok.found fun _ auth ha => by simp [act] at ha
      obtain ⟨recipient, event, hparse, hwrap, htoken⟩ := ok.bound w mem
      exact ⟨c', hc', req.auth.pubkey, recipient, body.next_epoch, w.key_wrap_event, event,
        howner.trans ok.owner, token.symm.trans htoken.symm, congrArg (fun k => k.2.1) row,
        congrArg (fun k => k.2.2) row, hparse, hwrap⟩

theorem active_step {env : Env} {s : Sys} {a : Act} (h : Keyed env s.db) {id : Uuid} {t : Token}
    {m' : Member} {c' : Circle} (hm : (step env s a).db.members.find? (id, t) = some m')
    (hc : (step env s a).db.circles.find? id = some c') (hact : m'.membership_state = .active) :
    m'.key_wrap_epoch = some c'.key_epoch := by
  cases member_of_step hm with
  | invited req c b body circle joined act hs ok token row =>
      rw [row] at hact
      cases hact
  | kept m old same stays =>
      obtain ⟨c, hc₀, _⟩ := h.wraps id t m old
      obtain ⟨c₁, hc₁, _, hepoch, _⟩ := circle_kept hc₀ stays
      obtain rfl : c' = c₁ := Option.some.inj (hc.symm.trans hc₁)
      have hstate : m'.membership_state = m.membership_state := congrArg Prod.fst same
      have hwrap : m'.key_wrap_epoch = m.key_wrap_epoch := congrArg (fun k => k.2.1) same
      rw [hwrap, hepoch]
      exact h.active id t m c old hc₀ (hstate.symm.trans hact)
  | accepted auth b circle m now act hs token ok row =>
      obtain ⟨c₁, hc₁, _, hepoch, _⟩ := circle_kept (a := a) (t := t) ok.found
        fun _ => by simp [Clears, act]
      obtain rfl : c' = c₁ := Option.some.inj (hc.symm.trans hc₁)
      rw [row, hepoch]
      exact ok.current
  | passed req ago body circle m act hs ok old same out =>
      -- an active member is in the set of wraps
      have hstate : m'.membership_state = m.membership_state := congrArg Prod.fst same
      have hin : t ∈ s.db.activeTokens id := by
        rw [mem_activeTokens, Db.isActive, old]
        exact decide_eq_true (hstate.symm.trans hact)
      exact absurd (ok.wraps.mem_iff.2 hin) out
  | rewrapped req ago body circle m w act hs ok old mem token row =>
      have hwrap : m'.key_wrap_epoch = some body.next_epoch := congrArg (fun k => k.2.1) row
      rw [hwrap]
      cases circle_of_step hc with
      | created req' body' act' unused free row' =>
          rw [act] at act'
          cases act'
      | kept c old' owner epoch rekey quiet => exact absurd act (quiet hs req ago)
      | rotated req' ago' body' c act' hs' ok' row' =>
          rw [act] at act'
          cases act'
          have hbody : body = body' := by
            have h₁ := ok.parsed
            rw [ok'.parsed] at h₁
            exact (Except.ok.inj h₁).symm
          rw [row', hbody]
          rfl

theorem room_step {env : Env} {s : Sys} (a : Act) (h : ∀ id, s.db.memberCount id ≤ maxCircleMembers)
    (id : Uuid) : (step env s a).db.memberCount id ≤ maxCircleMembers := by
  rcases refused_or_change env s a with ⟨_, hdb⟩ | ⟨_, hch⟩
  · rw [hdb]
    exact h id
  · generalize (step env s a).db = db' at hch ⊢
    cases hch with
    | tick d => exact h id
    | found id' req body hunused hfree => exact h id
    | invite id' req c b body circle ok =>
        have hle := Table.count_upsert_le s.db.members
          (id', env.circleToken id' (toAsciiLowercase body.member_pubkey))
          (newMember (s.now - b) body) (fun m => newMember m.joined_at body)
          (p := fun k _ => decide (k.1 = id)) fun _ => rfl
        have hroom := ok.room
        have hold := h id
        unfold Db.memberCount at hroom hold ⊢
        by_cases hid : id' = id
        · subst hid
          rw [if_pos (decide_eq_true rfl)] at hle
          exact hle.trans hroom
        · rw [if_neg (by simpa using hid)] at hle
          exact hle.trans hold
    | accept id' auth b circle m ok =>
        have hold := h id
        unfold Db.memberCount Db.activate at *
        rw [Table.count_eq_countP_keys _ (fun k : Uuid × Token => decide (k.1 = id))] at hold ⊢
        rw [Table.keys_modify]
        exact hold
    | rotate id' req ago body circle ok =>
        have hold := h id
        unfold Db.memberCount Db.rotate Db.labels Db.rewrap at *
        rw [Table.count_eq_countP_keys _ (fun k : Uuid × Token => decide (k.1 = id))] at hold ⊢
        rw [Table.keys_modifyEach, Table.keys_modifyEach]
        exact hold
    | remove id' mk auth circle row ok => exact (Table.count_filter_le ..).trans (h id)
    | check id' req => exact h id
    | relabel i id' body =>
        have hold := h id
        unfold Db.memberCount Db.relabel Db.labels at *
        rw [Table.count_eq_countP_keys _ (fun k : Uuid × Token => decide (k.1 = id))] at hold ⊢
        rw [Table.keys_modifyEach]
        exact hold
    | drop id' auth => exact (Table.count_filter_le ..).trans (h id)
    | read id' len req enabled redis ago e circle ok => exact h id
    | publish i e hp hc => exact h id
    | expire => exact h id

/-- **Every action keeps the invariant.** -/
theorem keyed_step {env : Env} {s : Sys} (a : Act) (h : Keyed env s.db) :
    Keyed env (step env s a).db where
  epochs _ _ hc := epochs_step a h hc
  wraps _ _ _ hm := wraps_step h hm
  active _ _ _ _ hm hc hact := active_step h hm hc hact
  room := room_step a h.room

theorem keyed_run (env : Env) (now : Timestamp) (as : List Act) :
    Keyed env (run (step env) (Sys.init now) as).db :=
  run_induction (P := fun s : Sys => Keyed env s.db) (keyed_init env now) (fun _ a h => keyed_step a h) as

/-! ### How an epoch moves -/

/-- What a rotation that changes the epoch of a circle from `c` to `c'` was asked to
do: to go one epoch further, with a wrap and a label for each active member. -/
structure Rotation (env : Env) (id : Uuid) (s : Sys) (a : Act) (c c' : Circle) : Prop where
  succeeds : Succeeds env s a
  submitted : ∃ req ago body, a = .commitEpoch id req ago ∧ req.body = some body ∧
    body.next_epoch = c'.key_epoch ∧
    (body.member_wraps.map MemberWrap.member_token).Perm (s.db.activeTokens id) ∧
    (body.member_labels.map MemberLabel.member_token).Perm (s.db.activeTokens id)
  next : c'.key_epoch = c.key_epoch + 1

/-- **An epoch changes only by one**, in a rotation of the active members. -/
theorem epoch_step {env : Env} {s : Sys} {a : Act} (h : Keyed env s.db) {id : Uuid} {c c' : Circle}
    (hc : s.db.circles.find? id = some c) (hc' : (step env s a).db.circles.find? id = some c') :
    c'.key_epoch = c.key_epoch ∨ Rotation env id s a c c' := by
  cases circle_of_step hc' with
  | created req body act unused free row =>
      rw [hc] at free
      cases free
  | kept c₀ old owner epoch rekey quiet =>
      obtain rfl : c = c₀ := Option.some.inj (hc.symm.trans old)
      exact Or.inl epoch
  | rotated req ago body c₀ act hs ok row =>
      obtain rfl : c = c₀ := Option.some.inj (hc.symm.trans ok.found)
      have hnext := (ok.next_epoch h).1
      have hepoch : c'.key_epoch = body.next_epoch := by rw [row]; rfl
      exact Or.inr ⟨hs, ⟨req, ago, body, act, Request.body_of_parse ok.parsed, hepoch.symm, ok.wraps,
        ok.labels⟩, hepoch.trans hnext⟩

/-- The epoch of the circle that an event commits. -/
def epochCommitted (env : Env) (id : Uuid) (e : Event Sys Act) : Option ℤ :=
  match e.act with
  | .commitEpoch id' req _ =>
    if id' = id ∧ Succeeds env e.pre e.act then req.body.map CommitEpochBody.next_epoch else none
  | _ => none

theorem epochCommitted_eq_some {env : Env} {id : Uuid} {e : Event Sys Act} {n : ℤ}
    (h : epochCommitted env id e = some n) :
    Succeeds env e.pre e.act ∧ ∃ req ago body, e.act = .commitEpoch id req ago ∧
      req.body = some body ∧ body.next_epoch = n := by
  unfold epochCommitted at h
  split at h
  · rename_i id' req ago hact
    split_ifs at h with hif
    obtain ⟨rfl, hs⟩ := hif
    obtain ⟨body, hbody, hn⟩ := Option.map_eq_some_iff.1 h
    exact ⟨hs, req, ago, body, hact, hbody, hn⟩
  · cases h

/-- The epochs committed so far are below the circle's, and the circle's id is used. -/
structure Counted (env : Env) (id : Uuid) (s : Sys) (es : List (Event Sys Act)) : Prop where
  keyed : Keyed env s.db
  minted : ∀ c, s.db.circles.find? id = some c → id ∈ s.minted
  used : ∀ n ∈ es.filterMap (epochCommitted env id), id ∈ s.minted
  below : ∀ n ∈ es.filterMap (epochCommitted env id), ∀ c, s.db.circles.find? id = some c →
    n ≤ c.key_epoch
  nodup : (es.filterMap (epochCommitted env id)).Nodup

theorem minted_step {env : Env} {s : Sys} {a : Act} {id : Uuid} (h : id ∈ s.minted) :
    id ∈ (step env s a).minted := by
  unfold step exec
  cases a with
  | createCircle id' req =>
      dsimp only
      split_ifs
      · exact h
      · exact List.mem_cons_of_mem _ h
  | setEncryption id' req => dsimp only; split <;> exact h
  | writeEncryption i => dsimp only; split <;> exact h
  | pushEnvelope id' len req enabled redis ago => dsimp only; split <;> exact h
  | writeEnvelope i => dsimp only; split <;> exact h
  | _ => exact h

/-- A circle's id is a drawn one. -/
theorem minted_of_circle {env : Env} {s : Sys} {a : Act} {id : Uuid} {c' : Circle}
    (h : ∀ c, s.db.circles.find? id = some c → id ∈ s.minted)
    (hc : (step env s a).db.circles.find? id = some c') : id ∈ (step env s a).minted := by
  cases circle_of_step hc with
  | created req body act unused free row =>
      subst act
      unfold step exec
      dsimp only
      rw [if_neg unused]
      exact List.mem_cons_self ..
  | kept c old owner epoch rekey quiet => exact minted_step (h c old)
  | rotated req ago body c act hs ok row => exact minted_step (h c ok.found)

theorem rotates_of_succeeds {env : Env} {s : Sys} {id : Uuid} {req : Request CommitEpochBody}
    {ago : ℕ} (h : Succeeds env s (.commitEpoch id req ago)) :
    ∃ body c, Rotates env s.db id req body c ∧
      (step env s (.commitEpoch id req ago)).db.circles.find? id = some (c.rotate body) := by
  have hch := change_step h
  generalize (step env s (.commitEpoch id req ago)).db = db' at hch ⊢
  cases hch with
  | rotate _ _ _ body c ok =>
      refine ⟨body, c, ok, ?_⟩
      unfold Db.rotate
      dsimp only
      rw [Table.find?_modify, if_pos rfl, ok.found]
      rfl

theorem counted_step {env : Env} {id : Uuid} {s : Sys} {es : List (Event Sys Act)} (a : Act)
    (h : Counted env id s es) : Counted env id (step env s a) (es ++ [⟨s, a, step env s a⟩]) := by
  have hminted : ∀ c, (step env s a).db.circles.find? id = some c → id ∈ (step env s a).minted :=
    fun c hc => minted_of_circle h.minted hc
  -- epochs committed before the step stay below
  have hbelow : ∀ n ∈ es.filterMap (epochCommitted env id), ∀ c',
      (step env s a).db.circles.find? id = some c' → n ≤ c'.key_epoch := by
    intro n hn c' hc'
    cases circle_of_step hc' with
    | created req body act unused free row => exact absurd (h.used n hn) unused
    | kept c old owner epoch rekey quiet =>
        rw [epoch]
        exact h.below n hn c old
    | rotated req ago body c act hs ok row =>
        have hle := h.below n hn c ok.found
        have hnext := (ok.next_epoch h.keyed).1
        have hepoch : c'.key_epoch = body.next_epoch := by rw [row]; rfl
        omega
  obtain ⟨e, hdef⟩ : ∃ e : Event Sys Act, e = ⟨s, a, step env s a⟩ := ⟨_, rfl⟩
  rw [← hdef]
  cases he : epochCommitted env id e with
  | none =>
      have hlist : (es ++ [e]).filterMap (epochCommitted env id) =
          es.filterMap (epochCommitted env id) := by
        simp [List.filterMap_append, he]
      refine ⟨keyed_step a h.keyed, hminted, ?_, ?_, ?_⟩
      · rw [hlist]
        exact fun n hn => minted_step (h.used n hn)
      · rw [hlist]
        exact hbelow
      · rw [hlist]
        exact h.nodup
  | some n =>
      have hlist : (es ++ [e]).filterMap (epochCommitted env id) =
          es.filterMap (epochCommitted env id) ++ [n] := by
        simp [List.filterMap_append, he]
      obtain ⟨hs, req, ago, body, hact, hbody, rfl⟩ := epochCommitted_eq_some he
      subst hdef
      dsimp only at hs hact
      subst hact
      obtain ⟨body', c, ok, hnew⟩ := rotates_of_succeeds hs
      obtain rfl : body = body' :=
        Option.some.inj (hbody.symm.trans (Request.body_of_parse ok.parsed))
      have hnext := (ok.next_epoch h.keyed).1
      refine ⟨keyed_step _ h.keyed, hminted, ?_, ?_, ?_⟩
      · intro n hn
        exact minted_step (h.minted c ok.found)
      · rw [hlist]
        intro n hn c' hc'
        rcases List.mem_append.1 hn with hn | hn
        · exact hbelow n hn c' hc'
        · obtain rfl := List.mem_singleton.1 hn
          obtain rfl : c' = c.rotate body := Option.some.inj (hc'.symm.trans hnew)
          exact le_rfl
      · rw [hlist]
        refine List.nodup_append.2 ⟨h.nodup, List.nodup_singleton _, ?_⟩
        intro n hn n' hn' heq
        obtain rfl := List.mem_singleton.1 hn'
        have hle := h.below n hn c ok.found
        omega

theorem counted_run (env : Env) (id : Uuid) (now : Timestamp) (as : List Act) :
    Counted env id (run (step env) (Sys.init now) as) (events (step env) (Sys.init now) as) :=
  run_events_induction
    ⟨keyed_init env now, fun _ h => (by cases h), fun _ h => (by cases h), fun _ h => (by cases h),
      List.nodup_nil⟩
    (fun _ _ a h => counted_step a h) as

/-! ### Whole runs -/

/-- The row of an active member `t`: a wrap of the current epoch, by the key behind
the owner's token, for the key behind `t`. -/
structure CarriesKey (env : Env) (id : Uuid) (c : Circle) (t : Token) (m : Member) : Prop where
  current : m.key_wrap_epoch = some c.key_epoch
  known : (∃ owner, env.circleToken id owner = c.owner_token) ∧ ∃ pk, env.circleToken id pk = t
  wrap : ∃ raw event, m.key_wrap_event = some raw ∧ raw.parse = some event ∧
    ∀ owner pk, env.circleToken id owner = c.owner_token → env.circleToken id pk = t →
      IsWrap env.verify owner id c.key_epoch pk event

theorem carriesKey_of_keyed {env : Env} {db : Db} {id : Uuid} {t : Token} {m : Member} {c : Circle}
    (hinj : Function.Injective (env.circleToken id)) (h : Keyed env db)
    (hm : db.members.find? (id, t) = some m) (hc : db.circles.find? id = some c)
    (hact : m.membership_state = .active) : CarriesKey env id c t m := by
  have hcurrent := h.active id t m c hm hc hact
  obtain ⟨c', hc', owner, recipient, epoch, raw, event, hw⟩ := h.wraps id t m hm
  obtain rfl : c = c' := Option.some.inj (hc.symm.trans hc')
  obtain rfl : epoch = c.key_epoch := Option.some.inj (hw.wrap_epoch.symm.trans hcurrent)
  refine ⟨hcurrent, ⟨⟨owner, hw.signer.symm⟩, recipient, hw.member.symm⟩, raw, event, hw.wrap_event,
    hw.parsed, ?_⟩
  intro owner' pk howner hpk
  obtain rfl : owner' = owner := hinj (howner.trans hw.signer)
  obtain rfl : pk = recipient := hinj (hpk.trans hw.member)
  exact hw.wrap

/-- **The key epochs of a circle, along every run.**  Active members hold the
owner's wrap of the current epoch, addressed to them; the epoch moves by one, in
rotations whose wraps and labels are those of the active members, and to no value
twice; a circle has at most `maxCircleMembers` rows; and a request that is refused
changes no table. -/
theorem epochs_of_circle (env : Env) (hinj : ∀ id, Function.Injective (env.circleToken id))
    (now : Timestamp) (as : List Act) (id : Uuid) :
    (∀ t m c, (run (step env) (Sys.init now) as).db.members.find? (id, t) = some m →
      (run (step env) (Sys.init now) as).db.circles.find? id = some c →
        m.membership_state = .active → CarriesKey env id c t m) ∧
    (∀ e ∈ events (step env) (Sys.init now) as, ∀ c c', e.pre.db.circles.find? id = some c →
      e.post.db.circles.find? id = some c' →
        c'.key_epoch = c.key_epoch ∨ Rotation env id e.pre e.act c c') ∧
    ((events (step env) (Sys.init now) as).filterMap (epochCommitted env id)).Nodup ∧
    (run (step env) (Sys.init now) as).db.memberCount id ≤ maxCircleMembers ∧
    (∀ e ∈ events (step env) (Sys.init now) as, ∀ err, (exec env e.pre e.act).2 = .error err →
      e.post.db = e.pre.db) := by
  have hkeyed := keyed_run env now as
  refine ⟨?_, ?_, (counted_run env id now as).nodup, hkeyed.room id, ?_⟩
  · intro t m c hm hc hact
    exact carriesKey_of_keyed (hinj id) hkeyed hm hc hact
  · intro e he c c' hc hc'
    obtain ⟨bs, _, _, hpre, hpost⟩ := mem_events he
    have hk : Keyed env e.pre.db := hpre ▸ keyed_run env now bs
    exact epoch_step hk hc (hpost ▸ hc')
  · intro e he err herr
    obtain ⟨_, _, _, _, hpost⟩ := mem_events he
    rw [hpost]
    exact db_of_refused herr

/-- The circle of the member that has joined. -/
theorem epochs_of_circle_joined :
    (∀ id, Function.Injective (demoEnv.circleToken id)) ∧
      demoJoined.db.isActive "c" (demoToken demoMember) = true ∧
      CarriesKey demoEnv "c" demoCircle.bump.bump (demoToken demoMember)
        ((newMember 0 demoInvitation).accept 0) := by
  have hm : demoJoined.db.members.find? ("c", demoToken demoMember) =
      some ((newMember 0 demoInvitation).accept 0) :=
    Table.find?_eq_some_iff.2 (List.mem_singleton.2 (by simp))
  have h := (epochs_of_circle demoEnv demoToken_injective 0 demoJoin "c").1
  rw [run_demoJoin] at h
  refine ⟨demoToken_injective, ?_, h _ _ _ hm rfl rfl⟩
  unfold Db.isActive
  rw [hm]
  rfl

end Circles
end SentinelMesh
