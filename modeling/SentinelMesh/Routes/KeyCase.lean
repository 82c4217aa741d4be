/-
# Keys in the case they are written in

`post_vouch` takes 64 hex digits of either case for a vouchee and writes them as they are;
`has_active_vouch`, the check against vouching for oneself and the one against a second vouch
compare bytes.  `add_member` lowers the key of a member before it makes the token,
`remove_member` makes the token of the key as it stands in the path.

A string names the key it is in lower case.  `Lawful` is what the vouches should satisfy for the
keys they name: an active vouch counts, none is for its voucher, and a voucher has at most one
for a key.  `not_lawful_concat` is the heart of it: right after a vouch for a string that is
not in lower case the laws fail, since either the vouch does not count or another one does.
`named_keys_iff` says the same of runs, and of the removal of a member.
-/

import SentinelMesh.Ledger.Effects
import SentinelMesh.Trust.VouchBudget
import SentinelMesh.Circles.System

namespace SentinelMesh
namespace KeyCase

open Lib Ledger

/-- The string is in the case that `to_hex` prints. -/
def Lower (pubkey : Pubkey) : Prop := toAsciiLowercase pubkey = pubkey

instance (pubkey : Pubkey) : Decidable (Lower pubkey) := inferInstanceAs (Decidable (_ = _))

/-! ### The laws -/

/-- The unrevoked vouches of a voucher for the key `key`, in any case. -/
def names (voucher key : Pubkey) (v : Vouch) : Bool :=
  v.voucher_pubkey == voucher && toAsciiLowercase v.vouchee_pubkey == key && v.active

/-- What holds of vouches for the keys they name. -/
structure Lawful (vouches : List Vouch) : Prop where
  /-- A vouch that is active, of an eligible voucher, is one for the key it names. -/
  counts : ∀ v ∈ vouches, ∀ (users : Table Pubkey User) (now : Timestamp) (roots : List Pubkey),
    v.revoked_at.isNone = true → v.expires_at.all (fun t => decide (t > now)) = true →
      (isRoot roots v.voucher_pubkey || hasEstablishedTier users v.voucher_pubkey) = true →
        hasActiveVouch users vouches now roots (toAsciiLowercase v.vouchee_pubkey) = true
  /-- No vouch names its voucher. -/
  other : ∀ v ∈ vouches, toAsciiLowercase v.vouchee_pubkey ≠ toAsciiLowercase v.voucher_pubkey
  /-- A voucher has at most one for a key. -/
  once : ∀ voucher key, vouches.countP (names voucher key) ≤ 1

/-- **After a vouch for a string in another case** the laws fail. -/
theorem not_lawful_concat {vouches : List Vouch} {began : Timestamp} {voucher vouchee : Pubkey}
    {basis : Basis} {event_id : String} (hcase : ¬ Lower vouchee) :
    ¬ Lawful (vouches ++ [newVouch began voucher vouchee basis event_id]) := by
  intro h
  have hmem : newVouch began voucher vouchee basis event_id ∈
      vouches ++ [newVouch began voucher vouchee basis event_id] :=
    List.mem_append_right _ (List.mem_singleton_self _)
  -- as long as its voucher is the only root, and no user has a tier
  have hroot : (isRoot [voucher] voucher || hasEstablishedTier Table.empty voucher) = true := by
    simp [isRoot]
  have hcounts := h.counts _ hmem Table.empty 0 [voucher] rfl rfl hroot
  unfold hasActiveVouch at hcounts
  obtain ⟨w, hw, hactive⟩ := List.any_eq_true.1 hcounts
  simp only [Bool.and_eq_true, beq_iff_eq] at hactive
  obtain ⟨⟨⟨hkey, hunrevoked⟩, _⟩, hvoucher⟩ := hactive
  have hvoucher : voucher = w.voucher_pubkey := by
    simpa [isRoot, hasEstablishedTier] using hvoucher
  have hkey : w.vouchee_pubkey = toAsciiLowercase vouchee := hkey
  -- the vouch that counts is another one for the same key
  have hold : w ∈ vouches := by
    refine (List.mem_append.1 hw).resolve_right fun hnew => hcase ?_
    rw [List.mem_singleton.1 hnew] at hkey
    exact hkey.symm
  have hone : 0 < vouches.countP (names voucher (toAsciiLowercase vouchee)) := by
    refine List.countP_pos_iff.2 ⟨w, hold, ?_⟩
    unfold names Vouch.active
    rw [← hvoucher, hkey, hunrevoked]
    simp
  have hnew : names voucher (toAsciiLowercase vouchee)
      (newVouch began voucher vouchee basis event_id) = true := by
    simp [names, newVouch, Vouch.active]
  have htwo := h.once voucher (toAsciiLowercase vouchee)
  rw [List.countP_append, List.countP_singleton, if_pos hnew] at htwo
  omega

/-! ### What the routes keep -/

/-- Every key is written in lower case, no vouch is for its voucher, and a voucher has at most one
for a string. -/
structure Plain (vouches : List Vouch) : Prop where
  voucher : ∀ v ∈ vouches, Lower v.voucher_pubkey
  vouchee : ∀ v ∈ vouches, Lower v.vouchee_pubkey
  other : ∀ v ∈ vouches, v.voucher_pubkey ≠ v.vouchee_pubkey
  once : ∀ voucher vouchee, vouches.countP (revokes voucher vouchee) ≤ 1

theorem Plain.lawful {vouches : List Vouch} (h : Plain vouches) : Lawful vouches where
  counts v hv users now roots hunrevoked hunexpired heligible := by
    refine List.any_eq_true.2 ⟨v, hv, ?_⟩
    simp only [Bool.and_eq_true, beq_iff_eq]
    exact ⟨⟨⟨(h.vouchee v hv).symm, hunrevoked⟩, hunexpired⟩, heligible⟩
  other v hv heq := h.other v hv <| by
    rw [← h.voucher v hv, ← h.vouchee v hv]
    exact heq.symm
  once voucher key := by
    refine le_trans (List.countP_mono_left fun v hv hnames => ?_) (h.once voucher key)
    unfold names at hnames
    rwa [h.vouchee v hv] at hnames

theorem plain_nil : Plain [] where
  voucher := List.forall_mem_nil _
  vouchee := List.forall_mem_nil _
  other := List.forall_mem_nil _
  once _ _ := Nat.zero_le _

/-- The vouches after a revocation. -/
theorem Plain.revoke {vouches : List Vouch} (h : Plain vouches) (now : Timestamp)
    (voucher vouchee : Pubkey) : Plain (revokeVouch now vouches voucher vouchee).1 := by
  have hsame : ∀ w ∈ (revokeVouch now vouches voucher vouchee).1, ∃ v ∈ vouches,
      w.voucher_pubkey = v.voucher_pubkey ∧ w.vouchee_pubkey = v.vouchee_pubkey := by
    intro w hw
    obtain ⟨v, hv, rfl⟩ := List.mem_map.1 hw
    refine ⟨v, hv, ?_⟩
    split_ifs <;> exact ⟨rfl, rfl⟩
  refine ⟨fun w hw => ?_, fun w hw => ?_, fun w hw => ?_, fun p q => ?_⟩
  · obtain ⟨v, hv, hvoucher, _⟩ := hsame w hw
    rw [hvoucher]
    exact h.voucher v hv
  · obtain ⟨v, hv, _, hvouchee⟩ := hsame w hw
    rw [hvouchee]
    exact h.vouchee v hv
  · obtain ⟨v, hv, hvoucher, hvouchee⟩ := hsame w hw
    rw [hvoucher, hvouchee]
    exact h.other v hv
  · have hle := VouchBudget.countP_revoke_le (revokes p q)
      (fun v hv => (Bool.and_eq_true_iff.1 hv).2) now vouches voucher vouchee vouches.length
    rw [List.take_length, List.drop_length, List.append_nil] at hle
    exact hle.trans (h.once p q)

/-- The vouches after one more, for a string in lower case. -/
theorem Plain.concat {vouches : List Vouch} (h : Plain vouches) {began : Timestamp}
    {voucher vouchee : Pubkey} {basis : Basis} {event_id : String} (hvoucher : Lower voucher)
    (hvouchee : Lower vouchee) (hother : voucher ≠ vouchee)
    (hnone : ∀ v ∈ vouches, revokes voucher vouchee v = false) :
    Plain (vouches ++ [newVouch began voucher vouchee basis event_id]) := by
  refine ⟨?_, ?_, ?_, fun p q => ?_⟩
  · exact List.forall_mem_append.2 ⟨h.voucher, List.forall_mem_singleton.2 hvoucher⟩
  · exact List.forall_mem_append.2 ⟨h.vouchee, List.forall_mem_singleton.2 hvouchee⟩
  · exact List.forall_mem_append.2 ⟨h.other, List.forall_mem_singleton.2 hother⟩
  · rw [List.countP_append, List.countP_singleton]
    split_ifs with hnew
    · -- a second vouch of the pair would have been a conflict
      have hpair : voucher = p ∧ vouchee = q := by
        simpa [revokes, newVouch, Vouch.active] using hnew
      obtain ⟨rfl, rfl⟩ := hpair
      have hzero : vouches.countP (revokes voucher vouchee) = 0 :=
        List.countP_eq_zero.2 fun v hv => by rw [hnone v hv]; decide
      rw [hzero]
    · exact h.once p q

/-- **A vouch that is issued**: its voucher is written in lower case, is not the vouchee byte for
byte, and had none for the same string. -/
theorem postVouch_issued {verify : NostrEvent → Bool} {roots : List Pubkey} {vouch_budget : ℕ}
    {checked began : Timestamp} {gates : Gates} {tiers flags : Table Pubkey User}
    {counted vouches : List Vouch} {body : IssueVouchBody}
    (h : (postVouch verify roots vouch_budget checked began gates tiers flags counted vouches
      body).2 = .ok ()) :
    Lower body.voucher_pubkey ∧ body.voucher_pubkey ≠ body.vouchee_pubkey ∧
      (∀ v ∈ vouches, revokes body.voucher_pubkey body.vouchee_pubkey v = false) ∧
      ∃ basis, (postVouch verify roots vouch_budget checked began gates tiers flags counted vouches
        body).1 = vouches ++ [newVouch began body.voucher_pubkey body.vouchee_pubkey basis
          body.nostr_event.id] := by
  unfold postVouch at h ⊢
  split at h
  · cases h
  · rename_i basis budget hok
    obtain ⟨_, hcheck, _⟩ := bind_eq_ok.1 hok
    have hlower : Lower body.voucher_pubkey := by
      unfold checkIssue at hcheck
      simp only [bind_eq_ok, ensure_eq_ok] at hcheck
      obtain ⟨_, _, _, _, _, _, _, hevent, _⟩ := hcheck
      obtain ⟨event, hparse, hpubkey, _⟩ := verifyNostrEvent_ok hevent
      unfold RawEvent.parse at hparse
      split_ifs at hparse
      rw [← hpubkey, ← Option.some.inj hparse]
      exact toAsciiLowercase_toAsciiLowercase _
    dsimp only [issueVouch] at h ⊢
    split_ifs at h ⊢ with hfull hself hdup
    · cases h
    · cases h
    · cases h
    · refine ⟨hlower, hself, fun v hv => ?_, basis, rfl⟩
      by_contra hrow
      rw [Bool.not_eq_false] at hrow
      exact hdup (List.any_eq_true.2 ⟨v, hv, hrow⟩)

/-- What an action does to the vouches: nothing, a vouch that is issued, or a revocation. -/
theorem vouches_step (gw : Gateway) (s : Sys) (a : Act) :
    (step gw s a).db.vouches = s.db.vouches ∨
      (∃ body roots sch, a = .postVouch body roots sch ∧ (exec gw s a).2 = .ok ()) ∨
      ∃ now voucher vouchee,
        (step gw s a).db.vouches = (revokeVouch now s.db.vouches voucher vouchee).1 := by
  have hcommit := commit_step gw s a
  generalize hdb : (step gw s a).db = db at hcommit ⊢
  cases hcommit with
  | idle => exact Or.inl rfl
  | create => exact Or.inl rfl
  | vote => exact Or.inl (voted_vouches ..)
  | decay => exact Or.inl rfl
  | vouch body roots sch v accepted => exact Or.inr (Or.inl ⟨body, roots, sch, rfl, accepted⟩)
  | revoke vouchee body sch vouches =>
      have hstep : (deleteVouch gw.env.verify (s.now - sch.checkedAgo) s.now sch.gates vouchee
          s.db.vouches body).1 = vouches := congrArg Db.vouches hdb
      show vouches = _ ∨ _ ∨ ∃ _ _ _, vouches = _
      rw [← hstep]
      unfold deleteVouch
      split
      · exact Or.inl rfl
      · exact Or.inr (Or.inr ⟨_, _, _, rfl⟩)

/-- An action that issues a vouch for a string that is not in lower case. -/
def MixedCase (gw : Gateway) (s : Sys) (a : Act) : Prop :=
  ∃ body roots sch, a = .postVouch body roots sch ∧ (exec gw s a).2 = .ok () ∧
    ¬ Lower body.vouchee_pubkey

/-- **One step** keeps the vouches plain, unless it issues one in another case. -/
theorem plain_step {gw : Gateway} {s : Sys} {a : Act} (h : Plain s.db.vouches)
    (hcase : ¬ MixedCase gw s a) : Plain (step gw s a).db.vouches := by
  rcases vouches_step gw s a with hsame | ⟨body, roots, sch, rfl, hok⟩ | ⟨now, p, q, hrevoked⟩
  · rw [hsame]
    exact h
  · obtain ⟨hvoucher, hother, hnone, basis, hrows⟩ := postVouch_issued hok
    have hlower : Lower body.vouchee_pubkey := by
      by_contra hmixed
      exact hcase ⟨body, roots, sch, rfl, hok, hmixed⟩
    have hstep : (step gw s (.postVouch body roots sch)).db.vouches = _ := hrows
    rw [hstep]
    exact h.concat hvoucher hlower hother hnone
  · rw [hrevoked]
    exact h.revoke now p q

/-- A vouch in another case breaks the laws where it is issued. -/
theorem not_lawful_step {gw : Gateway} {s : Sys} {a : Act} (hcase : MixedCase gw s a) :
    ¬ Lawful (step gw s a).db.vouches := by
  obtain ⟨body, roots, sch, rfl, hok, hmixed⟩ := hcase
  obtain ⟨_, _, _, basis, hrows⟩ := postVouch_issued hok
  have hstep : (step gw s (.postVouch body roots sch)).db.vouches = _ := hrows
  rw [hstep]
  exact not_lawful_concat hmixed

/-- **The laws over a run**: they hold after every action if and only if every vouch that was
issued is for a string in lower case. -/
theorem lawful_run_iff (gw : Gateway) (now : Timestamp) (safety_events : List Uuid)
    (as : List Act) :
    (∀ e ∈ events (step gw) (Sys.init now safety_events) as, Lawful e.post.db.vouches) ↔
      ∀ e ∈ events (step gw) (Sys.init now safety_events) as, ¬ MixedCase gw e.pre e.act := by
  constructor
  · intro h e he hmixed
    obtain ⟨_, _, _, _, hpost⟩ := mem_events he
    exact not_lawful_step hmixed (hpost ▸ h e he)
  · intro h e he
    obtain ⟨hplain, hpost⟩ := events_induction_of (P := fun s : Sys => Plain s.db.vouches)
      (G := fun s a => ¬ MixedCase gw s a) plain_nil (fun s a => plain_step) h he
    rw [hpost]
    exact (plain_step hplain (h e he)).lawful

/-! ### Members -/

/-- The revision of the circle can be raised. -/
def CanDepart (circle : Circles.Circle) : Prop :=
  (InRange 31 circle.depart.key_epoch ∧ InRange 31 circle.depart.membership_revision) ∧
    circle.depart.Checked

/-- The update of a circle that is there. -/
theorem run_updateCircle_depart {id : Uuid} {db db' : Circles.Db} {circle : Circles.Circle}
    (hcircle : db.circles.find? id = some circle) {u : Unit} :
    (Circles.updateCircle id Circles.Circle.depart).run db = .ok (u, db') ↔
      CanDepart circle ∧ db' = { db with circles := db.circles.modify id Circles.Circle.depart } := by
  unfold Circles.updateCircle CanDepart
  simp only [Txn.run_bind_eq_ok, Txn.run_get_eq_ok, Txn.run_require_eq_ok, Txn.run_modify_eq_ok]
  constructor
  · rintro ⟨_, _, ⟨rfl, rfl⟩, _, _, ⟨hrange, rfl⟩, _, _, ⟨hcheck, rfl⟩, hdb⟩
    rw [hcircle] at hrange hcheck
    exact ⟨⟨of_decide_eq_true hrange, of_decide_eq_true hcheck⟩, hdb.symm⟩
  · rintro ⟨⟨hrange, hcheck⟩, hdb⟩
    refine ⟨db, db, ⟨rfl, rfl⟩, (), db, ⟨?_, rfl⟩, (), db, ⟨?_, rfl⟩, hdb.symm⟩
    · rw [hcircle]
      exact decide_eq_true hrange
    · rw [hcircle]
      exact decide_eq_true hcheck

theorem run_removeMember {env : Circles.Env} {id : Uuid} {member_pubkey : Pubkey}
    {auth : Circles.NostrAuth} {db db' : Circles.Db} {circle : Circles.Circle} {epoch : ℤ}
    (hcircle : db.circles.find? id = some circle)
    (h : (Circles.removeMember env id member_pubkey auth).run db = .ok (epoch, db')) :
    CanDepart circle ∧ db' = db.leave id (env.circleToken id member_pubkey) := by
  unfold Circles.removeMember at h
  simp only [Txn.run_bind_eq_ok, Txn.run_get_eq_ok, Txn.run_require_eq_ok,
    Txn.run_fetch_eq_ok, Txn.run_modify_eq_ok, Txn.run_pure_eq_ok] at h
  obtain ⟨_, _, ⟨rfl, rfl⟩, circle', _, ⟨_, rfl⟩, _, _, ⟨_, rfl⟩, _, _, ⟨_, rfl⟩, _, _, rfl, _, _,
    rfl, _, _, hupdate, rfl, rfl⟩ := h
  exact (run_updateCircle_depart (by exact hcircle)).1 hupdate

/-- The owner may remove a row that is there. -/
theorem removeMember_run {env : Circles.Env} {id : Uuid} {member_pubkey : Pubkey}
    {auth : Circles.NostrAuth} {db : Circles.Db} {circle : Circles.Circle}
    (hcircle : db.circles.find? id = some circle)
    (howner : circle.owner_token = env.circleToken id auth.pubkey)
    (hrow : (db.members.find? (id, env.circleToken id member_pubkey)).isSome)
    (hdepart : CanDepart circle) :
    (Circles.removeMember env id member_pubkey auth).run db =
      .ok (circle.key_epoch, db.leave id (env.circleToken id member_pubkey)) := by
  unfold Circles.removeMember
  simp only [Txn.run_bind_eq_ok, Txn.run_get_eq_ok, Txn.run_require_eq_ok,
    Txn.run_fetch_eq_ok, Txn.run_modify_eq_ok, Txn.run_pure_eq_ok]
  exact ⟨db, db, ⟨rfl, rfl⟩, circle, db, ⟨hcircle, rfl⟩, (), db,
    ⟨decide_eq_true (Or.inl howner), rfl⟩, (), db, ⟨hrow, rfl⟩, (), _, rfl, (), _, rfl, (), _,
    (run_updateCircle_depart (by exact hcircle)).2 ⟨hdepart, rfl⟩, rfl, rfl⟩

/-- **The removal of a member by a string.**  In a circle of its own the owner removes the row of
the key that the string names exactly when the string is in lower case. -/
theorem removes_iff {env : Circles.Env} {id : Uuid} {member_pubkey : Pubkey}
    (hinj : Function.Injective (env.circleToken id)) {db : Circles.Db} {circle : Circles.Circle}
    {auth : Circles.NostrAuth} (hcircle : db.circles.find? id = some circle)
    (howner : circle.owner_token = env.circleToken id auth.pubkey)
    (hrow : (db.members.find? (id, env.circleToken id (toAsciiLowercase member_pubkey))).isSome) :
    (∃ epoch db', (Circles.removeMember env id member_pubkey auth).run db = .ok (epoch, db') ∧
        db'.members.find? (id, env.circleToken id (toAsciiLowercase member_pubkey)) = none) ↔
      Lower member_pubkey ∧ CanDepart circle := by
  constructor
  · rintro ⟨epoch, db', hrun, hgone⟩
    obtain ⟨hdepart, hdb⟩ := run_removeMember hcircle hrun
    refine ⟨?_, hdepart⟩
    by_contra hcase
    have hkey : (id, env.circleToken id (toAsciiLowercase member_pubkey)) ≠
        (id, env.circleToken id member_pubkey) :=
      fun heq => hcase (hinj (Prod.ext_iff.1 heq).2)
    have hkept : db'.members.find? (id, env.circleToken id (toAsciiLowercase member_pubkey)) =
        db.members.find? (id, env.circleToken id (toAsciiLowercase member_pubkey)) := by
      rw [hdb]
      show (db.members.filter _).find? _ = _
      rw [Table.find?_filter, decide_eq_true hkey]
      cases db.members.find? _ <;> rfl
    rw [hkept] at hgone
    rw [hgone] at hrow
    cases hrow
  · rintro ⟨hlower, hdepart⟩
    rw [hlower] at hrow ⊢
    refine ⟨_, _, removeMember_run hcircle howner hrow hdepart, ?_⟩
    show (db.members.filter _).find? _ = _
    rw [Table.find?_filter, decide_eq_false (not_not.2 rfl)]
    cases db.members.find? _ <;> rfl

/-- **Keys are identified up to case exactly where they come in lower case.**  The vouches are
lawful throughout a run if and only if every string that was accepted as a vouchee is in lower
case; and once a string was accepted as a member's, the owner removes the member's row by it if
and only if it is in lower case (and the revision of the circle can still be raised). -/
theorem named_keys_iff (gw : Gateway) (now : Timestamp) (safety_events : List Uuid)
    (as : List Act) (env : Circles.Env) (hinj : ∀ id, Function.Injective (env.circleToken id)) :
    ((∀ e ∈ events (step gw) (Sys.init now safety_events) as, Lawful e.post.db.vouches) ↔
        ∀ e ∈ events (step gw) (Sys.init now safety_events) as,
          ∀ body roots sch, e.act = .postVouch body roots sch → (exec gw e.pre e.act).2 = .ok () →
            Lower body.vouchee_pubkey) ∧
      ∀ checked began id req db db' body,
        (Circles.addMember env checked began id req).run db = .ok ((), db') →
          req.parse = .ok body →
            ∀ later circle auth, later.circles.find? id = some circle →
              circle.owner_token = env.circleToken id auth.pubkey →
                (later.members.find?
                  (id, env.circleToken id (toAsciiLowercase body.member_pubkey))).isSome →
                  ((∃ epoch after, (Circles.removeMember env id body.member_pubkey auth).run later =
                        .ok (epoch, after) ∧
                      after.members.find?
                        (id, env.circleToken id (toAsciiLowercase body.member_pubkey)) = none) ↔
                    Lower body.member_pubkey ∧ CanDepart circle) := by
  refine ⟨?_, fun _ _ id _ _ _ _ _ _ later circle auth hcircle howner hrow =>
    removes_iff (hinj id) hcircle howner hrow⟩
  rw [lawful_run_iff]
  refine forall₂_congr fun e _ => ?_
  constructor
  · intro h body roots sch hact hok
    by_contra hcase
    exact h ⟨body, roots, sch, hact, hok, hcase⟩
  · rintro h ⟨body, roots, sch, hact, hok, hcase⟩
    exact hcase (h body roots sch hact hok)

/-! ### A vouch for oneself -/

/-- The event of a vouch by `digits 64 'a'`. -/
def demoVouchEvent (vouchee : Pubkey) : RawEvent :=
  { id := digits 64 '1', pubkey := digits 64 'a', created_at := 0, kind := 1, tags := []
    content := vouchBindingContent vouchee, sig := digits 128 '0' }

/-- The vouch. -/
def demoVouch (vouchee : Pubkey) : IssueVouchBody :=
  { voucher_pubkey := digits 64 'a', vouchee_pubkey := vouchee, nostr_event := demoVouchEvent vouchee }

/-- A gateway on which every signature verifies. -/
def demoGateway : Gateway where
  env :=
    { snapToR9 := fun lat lng => ("", lat, lng)
      earthDistance := fun _ _ _ _ => 0
      verify := fun _ => true }
  pg := .sqlx
  decay := { enabled := false, grace_days := 90, horizon_days := 180, floor := 0 }
  vouch_budget := 3

theorem verify_demoVouch (vouchee : Pubkey) :
    verifyNostrEvent (fun _ => true) 0 (demoVouchEvent vouchee) (digits 64 'a') 300 = .ok () := by
  have hid : isHex 64 (digits 64 '1') = true := isHex_digits (by decide) (by decide) 64
  have hkey : isHex 64 (digits 64 'a') = true := isHex_digits (by decide) (by decide) 64
  have hsig : isHex 128 (digits 128 '0') = true := isHex_digits (by decide) (by decide) 128
  have hkey' : toAsciiLowercase (digits 64 'a') = digits 64 'a' := toAsciiLowercase_digits (by decide) 64
  have hparse : (demoVouchEvent vouchee).parse = some
      { id := toAsciiLowercase (digits 64 '1'), pubkey := digits 64 'a', created_at := 0, kind := 1
        tags := [], content := vouchBindingContent vouchee
        sig := toAsciiLowercase (digits 128 '0') } := by
    unfold RawEvent.parse demoVouchEvent
    dsimp only
    rw [hid, hkey, hsig, hkey']
    rfl
  unfold verifyNostrEvent
  rw [hparse]
  dsimp only
  rw [if_neg (not_not.2 rfl), if_neg (by decide)]
  rfl

theorem toAsciiLowercase_capitals : toAsciiLowercase (digits 64 'A') = digits 64 'a' := by
  unfold toAsciiLowercase digits
  rw [String.toList_ofList, List.map_replicate]
  rfl

/-- A root may vouch for any other string of 64 digits. -/
theorem exec_demoVouch {vouchee : Pubkey} (hhex : isHex64 vouchee = true)
    (hother : digits 64 'a' ≠ vouchee) :
    (exec demoGateway (Sys.init 0 []) (.postVouch (demoVouch vouchee) [digits 64 'a'] {})).2 =
      .ok () := by
  have hcheck : checkIssue (fun _ => true) 0 {} (demoVouch vouchee) = .ok () := by
    unfold checkIssue
    simp only [bind_eq_ok, ensure_eq_ok, decide_eq_true_eq]
    exact ⟨(), rfl, (), hother, (), hhex, (), verify_demoVouch vouchee, (), rfl, rfl⟩
  have heligible : eligibility [digits 64 'a'] 3 Table.empty Table.empty
      (demoVouch vouchee).voucher_pubkey = .ok (.root, 3) := by
    have hroot : isRoot [digits 64 'a'] (demoVouch vouchee).voucher_pubkey = true := by
      simp [isRoot, demoVouch]
    unfold eligibility
    rw [hroot]
    rfl
  have hissue : (issueVouch 0 [] [] (demoVouch vouchee).voucher_pubkey
      (demoVouch vouchee).vouchee_pubkey .root (demoVouch vouchee).nostr_event.id 3).2 =
        .ok .inserted := by
    have hself : (demoVouch vouchee).voucher_pubkey ≠ (demoVouch vouchee).vouchee_pubkey := hother
    unfold issueVouch
    dsimp only
    rw [List.countP_nil, if_neg (by decide), if_neg hself, List.any_nil, if_neg (by decide)]
  show (postVouch (fun _ => true) [digits 64 'a'] 3 0 0 {} Table.empty Table.empty [] []
    (demoVouch vouchee)).2 = .ok ()
  have hpassed : (do
      checkIssue (fun _ => true) 0 {} (demoVouch vouchee)
      eligibility [digits 64 'a'] 3 Table.empty Table.empty (demoVouch vouchee).voucher_pubkey) =
        .ok (.root, 3) := bind_eq_ok.2 ⟨(), hcheck, heligible⟩
  unfold postVouch
  rw [hpassed]
  show issueResponse (issueVouch 0 [] [] (demoVouch vouchee).voucher_pubkey
    (demoVouch vouchee).vouchee_pubkey .root (demoVouch vouchee).nostr_event.id 3).2 = .ok ()
  rw [hissue]
  rfl

/-- A vouch for another key, then one for oneself in capital letters. -/
def demoVouches : List Act :=
  [.postVouch (demoVouch (digits 64 'b')) [digits 64 'a'] {},
    .postVouch (demoVouch (digits 64 'A')) [digits 64 'a'] {}]

/-- Two vouches, and the removal of a member who was invited in lower case. -/
theorem named_keys_iff_demo :
    ((∀ e ∈ events (step demoGateway) (Sys.init 0 []) demoVouches, Lawful e.post.db.vouches) ↔
        ∀ e ∈ events (step demoGateway) (Sys.init 0 []) demoVouches, ∀ body roots sch,
          e.act = .postVouch body roots sch → (exec demoGateway e.pre e.act).2 = .ok () →
            Lower body.vouchee_pubkey) ∧
      ((∃ epoch after, (Circles.removeMember Circles.demoEnv "c" Circles.demoMember
            (Circles.demoAuth Circles.demoOwner)).run Circles.demoInvitedDb = .ok (epoch, after) ∧
          after.members.find? ("c", Circles.demoToken (toAsciiLowercase Circles.demoMember)) =
            none) ↔
        Lower Circles.demoMember ∧ CanDepart Circles.demoCircle.bump) := by
  obtain ⟨hlawful, hremoves⟩ := named_keys_iff demoGateway 0 [] demoVouches Circles.demoEnv
    Circles.demoToken_injective
  refine ⟨hlawful, hremoves 0 0 "c" _ _ _ _ Circles.run_demoInvite (Circles.parse_demoRequest _ _)
    Circles.demoInvitedDb _ _ rfl rfl ?_⟩
  show (Circles.demoInvitedDb.members.find?
    ("c", Circles.demoToken (toAsciiLowercase Circles.demoMember))).isSome = true
  rw [Circles.toAsciiLowercase_demoMember]
  decide

/-- **A root vouches for itself**, in capital letters: the vouch is issued and the laws fail. -/
theorem self_vouch_issued :
    toAsciiLowercase (digits 64 'A') = digits 64 'a' ∧
      (exec demoGateway (Sys.init 0 [])
        (.postVouch (demoVouch (digits 64 'A')) [digits 64 'a'] {})).2 = .ok () ∧
      ¬ Lawful (step demoGateway (Sys.init 0 [])
        (.postVouch (demoVouch (digits 64 'A')) [digits 64 'a'] {})).db.vouches := by
  have hother : digits 64 'a' ≠ digits 64 'A' := digits_ne (by decide) 63
  have hok := exec_demoVouch (isHex_digits (by decide) (by decide) 64) hother
  refine ⟨toAsciiLowercase_capitals, hok, not_lawful_step ⟨_, _, _, rfl, hok, fun hlower => ?_⟩⟩
  exact digits_ne (show 'a' ≠ 'A' by decide) 63 (toAsciiLowercase_capitals.symm.trans hlower)

end KeyCase
end SentinelMesh
