/-
# What happens when a member stops being active

`remove_member` deletes the envelope of the member and marks the circle as needing
a new key.  An invitation of a member that is already active makes it a pending one
and does neither (`reinvited_without_safeguards`): the member keeps the key of an
epoch that stays current, and its envelope stays readable.

`demotes` is the condition that names these invitations.  A step that succeeds is
safeguarded exactly when it is not one of them (`safeguarded_iff`), and in a run
without them who was active when the current key was committed is still active, as
long as no new key is needed (`leaving_safeguarded`).
-/

import SentinelMesh.Circles.Epoch

namespace SentinelMesh
namespace Circles

open Lib

/-- The action takes an active member out of the active ones. -/
def Leaves (env : Env) (s : Sys) (a : Act) (id : Uuid) (t : Token) : Prop :=
  s.db.isActive id t = true ∧ (step env s a).db.isActive id t = false

/-- **The safeguards.**  Who leaves has no envelope any more, and the circle, if it is
still there, needs a new key. -/
def Safeguarded (env : Env) (s : Sys) (a : Act) : Prop :=
  ∀ id t, Leaves env s a id t → (step env s a).db.blobs.find? (id, t) = none ∧
    ∀ c, (step env s a).db.circles.find? id = some c → c.rekey_required = true

/-- The action invites a member that is active, and that has an envelope or is in a
circle that needs no new key. -/
def demotes (env : Env) (s : Sys) : Act → Bool
  | .addMember id req _ _ => req.body.any fun body =>
    let t := env.circleToken id (toAsciiLowercase body.member_pubkey)
    s.db.isActive id t && ((s.db.blobs.find? (id, t)).isSome ||
      (s.db.circles.find? id).any fun c => !c.rekey_required)
  | _ => false

theorem demotes_addMember {env : Env} {s : Sys} {id : Uuid} {req : Request AddMemberBody} {x y : ℕ}
    {body : AddMemberBody} {c : Circle} {t : Token} (hb : req.body = some body)
    (hc : s.db.circles.find? id = some c)
    (ht : t = env.circleToken id (toAsciiLowercase body.member_pubkey)) :
    demotes env s (.addMember id req x y) = false ↔ (s.db.isActive id t = true →
      s.db.blobs.find? (id, t) = none ∧ c.rekey_required = true) := by
  subst ht
  show req.body.any _ = false ↔ _
  rw [hb, Option.any_some, hc]
  dsimp only
  rw [Option.any_some]
  cases s.db.isActive id (env.circleToken id (toAsciiLowercase body.member_pubkey)) with
  | false => simp
  | true => simp

/-- What an invitation that succeeds does to the rows of the one it invites. -/
theorem invite_rows {env : Env} {s : Sys} {id : Uuid} {req : Request AddMemberBody} {x y : ℕ}
    (hs : Succeeds env s (.addMember id req x y)) :
    ∃ body c, req.body = some body ∧ s.db.circles.find? id = some c ∧
      (step env s (.addMember id req x y)).db =
        s.db.invite (s.now - y) id (env.circleToken id (toAsciiLowercase body.member_pubkey)) body := by
  have hch := change_step hs
  generalize (step env s (.addMember id req x y)).db = db' at hch ⊢
  cases hch with
  | invite _ _ _ _ body circle ok => exact ⟨body, circle, Request.body_of_parse ok.parsed, ok.found, rfl⟩

theorem isActive_invite (db : Db) (now : Timestamp) (id : Uuid) (t : Token) (body : AddMemberBody) :
    (db.invite now id t body).isActive id t = false := by
  unfold Db.isActive Db.invite Db.upsertMember
  dsimp only
  rw [Table.find?_upsert, if_pos rfl]
  cases db.members.find? (id, t) with
  | none => rfl
  | some m => rfl

/-- The circle of an invitation needs a new key exactly when it did before. -/
theorem rekey_invite {db : Db} {now : Timestamp} {id : Uuid} {t : Token} {body : AddMemberBody}
    {c : Circle} (hc : db.circles.find? id = some c) :
    (db.invite now id t body).circles.find? id = some c.bump := by
  unfold Db.invite
  dsimp only
  rw [Table.find?_modify, if_pos rfl, hc]
  rfl

/-- A removal deletes the envelope and asks for a new key. -/
theorem safeguards_leave {db : Db} {id : Uuid} {t : Token} :
    (db.leave id t).blobs.find? (id, t) = none ∧
      ∀ c, (db.leave id t).circles.find? id = some c → c.rekey_required = true := by
  unfold Db.leave
  dsimp only
  refine ⟨?_, ?_⟩
  · rw [Table.find?_filter, Option.filter_eq_none_iff]
    simp
  · intro c hc
    rw [Table.find?_modify, if_pos rfl] at hc
    obtain ⟨c₀, _, rfl⟩ := Option.map_eq_some_iff.1 hc
    rfl

/-- A deletion takes the envelopes with the circle. -/
theorem safeguards_drop (db : Db) (id : Uuid) (t : Token) :
    (db.drop id).blobs.find? (id, t) = none ∧ (db.drop id).circles.find? id = none := by
  unfold Db.drop
  dsimp only
  refine ⟨?_, ?_⟩
  · rw [Table.find?_filter, Option.filter_eq_none_iff]
    simp
  · rw [Table.find?_filter, Option.filter_eq_none_iff]
    simp

/-- A refused request takes nobody out. -/
theorem safeguarded_of_refused {env : Env} {s : Sys} {a : Act} (h : ¬ Succeeds env s a) :
    Safeguarded env s a := by
  rintro id t ⟨hbefore, hafter⟩
  rcases refused_or_change env s a with ⟨_, hdb⟩ | ⟨hs, _⟩
  · rw [hdb, hbefore] at hafter
    cases hafter
  · exact absurd hs h

/-- Where there is no such invitation, who leaves is safeguarded. -/
theorem safeguarded_of_not_demotes {env : Env} {s : Sys} {a : Act} (hs : Succeeds env s a)
    (h : demotes env s a = false) : Safeguarded env s a := by
  rintro id t ⟨hbefore, hafter⟩
  have hunseats : Unseats env id t a := by
    by_contra hno
    rw [active_stays hbefore fun _ => hno] at hafter
    cases hafter
  rcases hunseats with ⟨m, auth, rfl, rfl⟩ | ⟨req, x, y, body, rfl, hb, rfl⟩ | ⟨auth, rfl⟩
  · have hch := change_step hs
    generalize (step env s (.removeMember id m auth)).db = db' at hch ⊢
    cases hch with
    | remove _ _ _ circle member ok => exact safeguards_leave
  · obtain ⟨body', c, hb', hc, hdb⟩ := invite_rows hs
    obtain rfl : body = body' := Option.some.inj (hb.symm.trans hb')
    obtain ⟨hblob, hrekey⟩ := (demotes_addMember hb hc rfl).1 h hbefore
    rw [hdb, rekey_invite hc]
    refine ⟨hblob, ?_⟩
    rintro c' hc'
    obtain rfl := Option.some.inj hc'
    exact hrekey
  · have hch := change_step hs
    generalize (step env s (.deleteCircle id auth)).db = db' at hch ⊢
    cases hch with
    | drop _ _ =>
        obtain ⟨hblob, hcircle⟩ := safeguards_drop s.db id t
        refine ⟨hblob, ?_⟩
        intro c hc
        rw [hcircle] at hc
        cases hc

/-- **A step that succeeds is safeguarded exactly when it is no such invitation.** -/
theorem safeguarded_iff {env : Env} {s : Sys} {a : Act} (hs : Succeeds env s a) :
    Safeguarded env s a ↔ demotes env s a = false := by
  refine ⟨?_, safeguarded_of_not_demotes hs⟩
  intro h
  cases a with
  | addMember id req x y =>
      obtain ⟨body, c, hb, hc, hdb⟩ := invite_rows hs
      refine (demotes_addMember hb hc rfl).2 ?_
      intro hactive
      have hleaves : Leaves env s (.addMember id req x y) id
          (env.circleToken id (toAsciiLowercase body.member_pubkey)) := by
        refine ⟨hactive, ?_⟩
        rw [hdb]
        exact isActive_invite ..
      obtain ⟨hblob, hrekey⟩ := h id _ hleaves
      rw [hdb] at hblob hrekey
      exact ⟨hblob, hrekey c.bump (rekey_invite hc)⟩
  | _ => rfl

/-! ### Since the last key -/

/-- Who was active is still, or the circle needs a new key. -/
def Retained (db : Db) (id : Uuid) (t : Token) : Prop :=
  db.isActive id t = true ∨ ∀ c, db.circles.find? id = some c → c.rekey_required = true

theorem retained_step {env : Env} {s : Sys} {a : Act} {id : Uuid} {t : Token}
    (hid : id ∈ s.minted) (hguard : Safeguarded env s a)
    (hkey : Succeeds env s a → ∀ req ago, a ≠ .commitEpoch id req ago) (h : Retained s.db id t) :
    Retained (step env s a).db id t := by
  cases hafter : (step env s a).db.isActive id t with
  | true => exact Or.inl hafter
  | false =>
      right
      rcases h with hbefore | hneeds
      · exact (hguard id t ⟨hbefore, hafter⟩).2
      · intro c' hc'
        cases circle_of_step hc' with
        | created req body act unused free row => exact absurd hid unused
        | kept c old owner epoch rekey quiet => exact rekey (hneeds c old)
        | rotated req ago body c act hs ok row => exact absurd act (hkey hs req ago)

/-- Nobody who was active at the last committed key has left without a new one being
needed. -/
theorem retained_run {env : Env} {id : Uuid} {t : Token} {s : Sys} {as : List Act}
    (hid : id ∈ s.minted) (h : Retained s.db id t)
    (hguard : ∀ e ∈ events (step env) s as, Safeguarded env e.pre e.act)
    (hkey : ∀ e ∈ events (step env) s as, Succeeds env e.pre e.act →
      ∀ req ago, e.act ≠ .commitEpoch id req ago) :
    Retained (run (step env) s as).db id t := by
  have hrun : id ∈ (run (step env) s as).minted ∧ Retained (run (step env) s as).db id t :=
    run_induction_of (P := fun s : Sys => id ∈ s.minted ∧ Retained s.db id t)
      (G := fun s a => Safeguarded env s a ∧
        (Succeeds env s a → ∀ req ago, a ≠ .commitEpoch id req ago))
      ⟨hid, h⟩ (fun s a h hG => ⟨minted_step h.1, retained_step h.1 hG.1 hG.2 h.2⟩)
      fun e he => ⟨hguard e he, hkey e he⟩
  exact hrun.2

/-- **Leaving is safeguarded**, in every run whose steps are no invitations of active
members: each step of it is safeguarded, and where the circle needs no new key, who
was active when the last key was committed is still active. -/
theorem leaving_safeguarded (env : Env) (now : Timestamp) (as : List Act)
    (hsteps : ∀ e ∈ events (step env) (Sys.init now) as, Succeeds env e.pre e.act →
      demotes env e.pre e.act = false) :
    (∀ e ∈ events (step env) (Sys.init now) as, Safeguarded env e.pre e.act) ∧
    ∀ bs id req ago cs, as = bs ++ .commitEpoch id req ago :: cs →
      Succeeds env (run (step env) (Sys.init now) bs) (.commitEpoch id req ago) →
      (∀ e ∈ events (step env) (run (step env) (Sys.init now) (bs ++ [.commitEpoch id req ago])) cs,
        Succeeds env e.pre e.act → ∀ req ago, e.act ≠ .commitEpoch id req ago) →
      ∀ t c, (run (step env) (Sys.init now) bs).db.isActive id t = true →
        (run (step env) (Sys.init now) as).db.circles.find? id = some c →
          c.rekey_required = false → (run (step env) (Sys.init now) as).db.isActive id t = true := by
  have hguard : ∀ e ∈ events (step env) (Sys.init now) as, Safeguarded env e.pre e.act := by
    intro e he
    by_cases hs : Succeeds env e.pre e.act
    · exact safeguarded_of_not_demotes hs (hsteps e he hs)
    · exact safeguarded_of_refused hs
  refine ⟨hguard, ?_⟩
  rintro bs id req ago cs rfl hs hlast t c hactive hc hrekey
  have hsplit : bs ++ Act.commitEpoch id req ago :: cs = (bs ++ [.commitEpoch id req ago]) ++ cs := by
    simp
  rw [hsplit] at hguard hc ⊢
  rw [run_append] at hc ⊢
  rw [events_append] at hguard
  -- a rotation is of a circle that exists, and changes no membership
  obtain ⟨hminted, hbefore⟩ :
      id ∈ (run (step env) (Sys.init now) (bs ++ [.commitEpoch id req ago])).minted ∧
        (run (step env) (Sys.init now) (bs ++ [.commitEpoch id req ago])).db.isActive id t = true := by
    have hch := change_step hs
    have hpre := counted_run env id now bs
    rw [run_concat]
    generalize hdb : (step env (run (step env) (Sys.init now) bs) (.commitEpoch id req ago)).db = db' at hch
    cases hch with
    | rotate _ _ _ body circle ok =>
        refine ⟨minted_step (hpre.minted circle ok.found), ?_⟩
        rw [isActive_rotate]
        exact hactive
  have hret := retained_run hminted (Or.inl hbefore)
    (fun e he => hguard e (List.mem_append_right _ he)) hlast
  rcases hret with hret | hneeds
  · exact hret
  · rw [hneeds c hc] at hrekey
    cases hrekey

/-! ### A member invited twice -/

/-- The key the owner commits before anybody is invited. -/
def demoKey : CommitEpochBody :=
  { expected_revision := 0, next_epoch := 2, name_ciphertext := "n" }

/-- The invitation of the member to the second epoch. -/
def demoInvite : Act := .addMember "c" (demoRequest demoOwner (demoInvitationAt 2)) 0 0

/-- The tables after the rotation, and after the member has been invited and has
accepted. -/
def demoKeyedDb : Db := demoDb.rotate "c" demoKey

def demoActiveDb : Db :=
  (demoKeyedDb.invite 0 "c" (demoToken demoMember) (demoInvitationAt 2)).activate 0 "c"
    (demoToken demoMember)

/-- A circle with a key and a member. -/
def demoActivate : List Act :=
  [.createCircle "c" (demoRequest demoOwner ⟨"n"⟩), demoCommit 0 2, demoInvite,
    .acceptMember "c" (demoAuth demoMember) 0]

theorem run_demoKey : (commitEpoch demoEnv 0 "c" (demoRequest demoOwner demoKey)).run demoDb =
    .ok (2, demoKeyedDb) := by
  have hparse : (demoRequest demoOwner demoKey).parse = .ok demoKey := rfl
  refine run_commitEpoch_of_isOk hparse ?_
  decide

theorem run_demoInvite_keyed :
    (addMember demoEnv 0 0 "c" (demoRequest demoOwner (demoInvitationAt 2))).run demoKeyedDb =
      .ok ((), demoKeyedDb.invite 0 "c" (demoToken demoMember) (demoInvitationAt 2)) := by
  refine run_demoInvitation (c := demoCircle.rotate demoKey) ?_ ?_ ?_ ?_ ?_
  all_goals decide

theorem run_demoAccept_keyed : (acceptMember demoEnv 0 "c" (demoAuth demoMember)).run
    (demoKeyedDb.invite 0 "c" (demoToken demoMember) (demoInvitationAt 2)) =
      .ok ((), demoActiveDb) := by
  refine run_demoAcceptance (e := 2) (c := (demoCircle.rotate demoKey).bump) ?_ ?_ ?_ ?_
  all_goals decide

theorem run_demoInvite_active :
    (addMember demoEnv 0 0 "c" (demoRequest demoOwner (demoInvitationAt 2))).run demoActiveDb =
      .ok ((), demoActiveDb.invite 0 "c" (demoToken demoMember) (demoInvitationAt 2)) := by
  refine run_demoInvitation (c := (demoCircle.rotate demoKey).bump.bump) ?_ ?_ ?_ ?_ ?_
  all_goals decide

theorem run_demoActivate : run (step demoEnv) (Sys.init 0) demoActivate = demoSys demoActiveDb := by
  have hcreate : step demoEnv (Sys.init 0) (.createCircle "c" (demoRequest demoOwner ⟨"n"⟩)) =
      demoSys demoDb := congrArg Prod.fst exec_demoCreate
  have hkey : step demoEnv (demoSys demoDb) (demoCommit 0 2) = demoSys demoKeyedDb :=
    congrArg Prod.fst (transact_of_run (demoSys demoDb) _ run_demoKey)
  have hinvite : step demoEnv (demoSys demoKeyedDb) demoInvite =
      demoSys (demoKeyedDb.invite 0 "c" (demoToken demoMember) (demoInvitationAt 2)) :=
    congrArg Prod.fst (transact_of_run (demoSys demoKeyedDb) (fun _ => []) run_demoInvite_keyed)
  have haccept : step demoEnv
      (demoSys (demoKeyedDb.invite 0 "c" (demoToken demoMember) (demoInvitationAt 2)))
        (.acceptMember "c" (demoAuth demoMember) 0) = demoSys demoActiveDb :=
    congrArg Prod.fst (transact_of_run (demoSys _) (fun _ => []) run_demoAccept_keyed)
  unfold demoActivate
  rw [run_cons, run_cons, run_cons, run_cons, run_nil, hcreate, hkey, hinvite, haccept]

/-- **An active member that is invited again** is active no more, in a circle that
still needs no new key. -/
theorem reinvited_without_safeguards :
    ¬ ∀ e ∈ events (step demoEnv) (Sys.init 0) (demoActivate ++ [demoInvite]),
      Safeguarded demoEnv e.pre e.act := by
  intro h
  rw [events_concat, run_demoActivate] at h
  have hguard := h _ (List.mem_append_right _ (List.mem_singleton_self _))
  have hs : Succeeds demoEnv (demoSys demoActiveDb) demoInvite :=
    ⟨[], congrArg Prod.snd
      (transact_of_run (demoSys demoActiveDb) (fun _ => []) run_demoInvite_active)⟩
  have hno := (safeguarded_iff hs).1 hguard
  have htoken : demoToken demoMember =
      demoEnv.circleToken "c" (toAsciiLowercase (demoInvitationAt 2).member_pubkey) :=
    congrArg (demoEnv.circleToken "c") toAsciiLowercase_demoMember.symm
  have hc : (demoSys demoActiveDb).db.circles.find? "c" =
      some (demoCircle.rotate demoKey).bump.bump := by
    decide
  have hactive : (demoSys demoActiveDb).db.isActive "c" (demoToken demoMember) = true := by
    decide
  have hrekey := ((demotes_addMember rfl hc htoken).1 hno hactive).2
  cases hrekey

/-- A member that is removed. -/
theorem leaving_safeguarded_removed :
    Leaves demoEnv demoJoined (.removeMember "c" demoMember (demoAuth demoOwner)) "c"
        (demoToken demoMember) ∧
      Safeguarded demoEnv demoJoined (.removeMember "c" demoMember (demoAuth demoOwner)) := by
  have hstep : step demoEnv demoJoined (.removeMember "c" demoMember (demoAuth demoOwner)) =
      demoSys (demoJoinedDb.leave "c" (demoToken demoMember)) := congrArg Prod.fst exec_demoRemove
  have h := leaving_safeguarded demoEnv 0
    (demoJoin ++ [.removeMember "c" demoMember (demoAuth demoOwner)]) ?_
  · rw [events_concat, run_demoJoin] at h
    refine ⟨⟨by decide, ?_⟩, h.1 _ (List.mem_append_right _ (List.mem_singleton_self _))⟩
    rw [hstep]
    decide
  · unfold demoJoin
    rw [events_append]
    simp only [events_cons, events_nil, List.forall_mem_append, List.forall_mem_cons]
    refine ⟨⟨fun _ => rfl, ?_, fun _ => rfl, by simp⟩, fun _ => rfl, by simp⟩
    intro _
    have hcreate : step demoEnv (Sys.init 0) (.createCircle "c" (demoRequest demoOwner ⟨"n"⟩)) =
        demoSys demoDb := congrArg Prod.fst exec_demoCreate
    rw [hcreate]
    exact (demotes_addMember (c := demoCircle) rfl rfl rfl).2 fun hactive => (by cases hactive)

end Circles
end SentinelMesh
