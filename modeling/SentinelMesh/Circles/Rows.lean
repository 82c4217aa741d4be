/-
# Where the rows of a circle come from

For a row that is in the tables after an action: which row it was before, and
what the action did to it.  `CircleFrom` answers for `circles`, `MemberFrom` for
`circle_members`, `BlobFrom` for `location_blobs`; the invariants of the system
are proved by cases on the answers and never look at a handler again.
-/

import SentinelMesh.Circles.System

namespace SentinelMesh
namespace Circles

open Lib

/-! ### Rows under the writes of the handlers -/

/-- What a row says about the key: its state and its wrap. -/
def Member.keying (m : Member) : MembershipState × Option ℤ × Option RawEvent :=
  (m.membership_state, m.key_wrap_epoch, m.key_wrap_event)

/-- Labels say nothing about the key. -/
theorem keying_foldl_relabel (labels : List MemberLabel) (m : Member) :
    (labels.foldl (fun m l => Member.relabel l m) m).keying = m.keying := by
  induction labels generalizing m with
  | nil => rfl
  | cons l labels ih =>
      rw [List.foldl_cons, ih]
      rfl

/-- The last of the wraps for a row counts. -/
theorem foldl_rewrap (epoch : ℤ) (wraps : List MemberWrap) (m : Member) :
    (wraps = [] ∧ wraps.foldl (fun m w => Member.rewrap epoch w m) m = m) ∨
      ∃ w ∈ wraps, wraps.foldl (fun m w => Member.rewrap epoch w m) m = Member.rewrap epoch w m := by
  induction wraps generalizing m with
  | nil => exact Or.inl ⟨rfl, rfl⟩
  | cons w wraps ih =>
      rw [List.foldl_cons]
      rcases ih (Member.rewrap epoch w m) with ⟨rfl, h⟩ | ⟨w', hw', h⟩
      · exact Or.inr ⟨w, List.mem_cons_self .., h⟩
      · exact Or.inr ⟨w', List.mem_cons_of_mem _ hw', h⟩

theorem find?_labels {db : Db} {id : Uuid} {labels : List MemberLabel} {k : Uuid × Token}
    {m' : Member} (h : (db.labels id labels).members.find? k = some m') :
    ∃ m, db.members.find? k = some m ∧ m'.keying = m.keying := by
  unfold Db.labels at h
  dsimp only at h
  rw [Table.find?_modifyEach, Option.map_eq_some_iff] at h
  obtain ⟨m, hm, rfl⟩ := h
  exact ⟨m, hm, keying_foldl_relabel _ m⟩

/-- A row after a rotation has the wrap submitted for it, or was not in the set. -/
theorem find?_rotate {db : Db} {id id' : Uuid} {t : Token} {body : CommitEpochBody} {m' : Member}
    (h : (db.rotate id body).members.find? (id', t) = some m') :
    ∃ m, db.members.find? (id', t) = some m ∧
      ((m'.keying = m.keying ∧ (id' = id → t ∉ body.member_wraps.map MemberWrap.member_token)) ∨
        (id' = id ∧ ∃ w ∈ body.member_wraps, w.member_token = t ∧
          m'.keying = (Member.rewrap body.next_epoch w m).keying)) := by
  obtain ⟨m₁, hm₁, hkey⟩ := find?_labels h
  unfold Db.rewrap at hm₁
  dsimp only at hm₁
  rw [Table.find?_modifyEach, Option.map_eq_some_iff] at hm₁
  obtain ⟨m, hm, hfold⟩ := hm₁
  refine ⟨m, hm, ?_⟩
  rcases foldl_rewrap body.next_epoch (body.member_wraps.filter fun w =>
    decide ((id, w.member_token) = (id', t))) m with ⟨hnil, heq⟩ | ⟨w, hw, heq⟩
  · left
    rw [← hfold, heq] at hkey
    refine ⟨hkey, ?_⟩
    rintro rfl ht
    obtain ⟨w, hw, rfl⟩ := List.mem_map.1 ht
    have hmem : w ∈ body.member_wraps.filter fun w' =>
        decide ((id', w'.member_token) = (id', w.member_token)) :=
      List.mem_filter.2 ⟨hw, by simp⟩
    rw [hnil] at hmem
    exact List.not_mem_nil hmem
  · right
    rw [← hfold, heq] at hkey
    obtain ⟨hmem, hk⟩ := List.mem_filter.1 hw
    obtain ⟨rfl, rfl⟩ := Prod.mk.inj (of_decide_eq_true hk)
    exact ⟨rfl, w, hmem, rfl, hkey⟩

theorem isActive_labels (db : Db) (id id' : Uuid) (labels : List MemberLabel) (t : Token) :
    (db.labels id labels).isActive id' t = db.isActive id' t := by
  unfold Db.isActive Db.labels
  dsimp only
  rw [Table.find?_modifyEach, Option.any_map]
  congr 1
  funext m
  have h := congrArg Prod.fst (keying_foldl_relabel
    (labels.filter fun l => decide ((id, l.member_token) = (id', t))) m)
  exact congrArg (fun st => decide (st = MembershipState.active)) h

/-- A rotation changes no membership. -/
theorem isActive_rotate (db : Db) (id id' : Uuid) (body : CommitEpochBody) (t : Token) :
    (db.rotate id body).isActive id' t = db.isActive id' t := by
  refine (isActive_labels (db.rewrap id body.next_epoch body.member_wraps) id id'
    body.member_labels t).trans ?_
  unfold Db.isActive Db.rewrap
  dsimp only
  rw [Table.find?_modifyEach, Option.any_map]
  congr 1
  funext m
  rcases foldl_rewrap body.next_epoch (body.member_wraps.filter fun w =>
    decide ((id, w.member_token) = (id', t))) m with ⟨_, h⟩ | ⟨w, _, h⟩
  · rw [h]
  · rw [h]
    rfl

/-! ### Circles -/

/-- The action rotates or deletes the circle, or removes the token from it. -/
def Clears (env : Env) (id : Uuid) (t : Token) (a : Act) : Prop :=
  (∃ req ago, a = .commitEpoch id req ago) ∨
    (∃ m auth, a = .removeMember id m auth ∧ t = env.circleToken id m) ∨
    ∃ auth, a = .deleteCircle id auth

/-- Where a circle comes from. -/
inductive CircleFrom (env : Env) (s : Sys) (a : Act) (id : Uuid) (c' : Circle) : Prop
  | created (req : Request CreateCircleBody) (body : CreateCircleBody)
      (act : a = .createCircle id req) (unused : id ∉ s.minted)
      (free : s.db.circles.find? id = none) (row : c' = newCircle env s.now id req.auth body)
  | kept (c : Circle) (old : s.db.circles.find? id = some c)
      (owner : c'.owner_token = c.owner_token) (epoch : c'.key_epoch = c.key_epoch)
      (rekey : c.rekey_required = true → c'.rekey_required = true)
      (quiet : Succeeds env s a → ∀ req ago, a ≠ .commitEpoch id req ago)
  | rotated (req : Request CommitEpochBody) (ago : ℕ) (body : CommitEpochBody) (c : Circle)
      (act : a = .commitEpoch id req ago) (succeeds : Succeeds env s a)
      (ok : Rotates env s.db id req body c) (row : c' = c.rotate body)

theorem CircleFrom.of_modify {env : Env} {s : Sys} {a : Act} {id id' : Uuid} {c' : Circle}
    {f : Circle → Circle} (h : (s.db.circles.modify id' f).find? id = some c')
    (howner : ∀ c, (f c).owner_token = c.owner_token) (hepoch : ∀ c, (f c).key_epoch = c.key_epoch)
    (hrekey : ∀ c, c.rekey_required = true → (f c).rekey_required = true)
    (hquiet : ∀ req ago, a ≠ .commitEpoch id req ago) : CircleFrom env s a id c' := by
  rw [Table.find?_modify] at h
  split_ifs at h with hid
  · subst hid
    obtain ⟨c, hc, rfl⟩ := Option.map_eq_some_iff.1 h
    exact .kept c hc (howner c) (hepoch c) (hrekey c) fun _ => hquiet
  · exact .kept c' h rfl rfl (fun h => h) fun _ => hquiet

theorem circle_of_step {env : Env} {s : Sys} {a : Act} {id : Uuid} {c' : Circle}
    (h : (step env s a).db.circles.find? id = some c') : CircleFrom env s a id c' := by
  rcases refused_or_change env s a with ⟨hno, hdb⟩ | ⟨hs, hch⟩
  · rw [hdb] at h
    exact .kept c' h rfl rfl (fun h => h) fun hs => absurd hs hno
  · have same : s.db.circles.find? id = some c' → (∀ req ago, a ≠ .commitEpoch id req ago) →
        CircleFrom env s a id c' :=
      fun h hq => .kept c' h rfl rfl (fun h => h) fun _ => hq
    generalize (step env s a).db = db' at h hch
    cases hch with
    | tick d => exact same h (by simp)
    | found id' req body hunused hfree =>
        unfold Db.found at h
        dsimp only at h
        rw [Table.find?_insert] at h
        split_ifs at h with hid
        · subst hid
          rw [hfree] at h
          exact .created req body rfl hunused hfree (Option.some.inj h).symm
        · exact same h (by simp)
    | invite id' req c b body circle ok =>
        exact .of_modify h (fun _ => rfl) (fun _ => rfl) (fun _ h => h) (by simp)
    | accept id' auth b circle m ok =>
        exact .of_modify h (fun _ => rfl) (fun _ => rfl) (fun _ h => h) (by simp)
    | rotate id' req ago body circle ok =>
        unfold Db.rotate at h
        dsimp only at h
        rw [Table.find?_modify] at h
        split_ifs at h with hid
        · subst hid
          rw [ok.found] at h
          exact .rotated req ago body circle rfl hs ok (Option.some.inj h).symm
        · exact same h fun req ago ha => hid (by cases ha; rfl)
    | remove id' m auth circle row ok =>
        exact .of_modify h (fun _ => rfl) (fun _ => rfl) (fun _ _ => rfl) (by simp)
    | check id' req => exact same h (by simp)
    | relabel i id' body =>
        exact .of_modify h (fun _ => rfl) (fun _ => rfl) (fun _ h => h) (by simp)
    | drop id' auth =>
        unfold Db.drop at h
        dsimp only at h
        rw [Table.find?_filter] at h
        exact same (Option.filter_eq_some_iff.1 h).1 (by simp)
    | read id' len req enabled redis ago e circle ok => exact same h (by simp)
    | publish i e hp hc => exact same h (by simp)
    | expire => exact same h (by simp)

/-- A circle goes only when it is deleted. -/
theorem circle_stays {env : Env} {s : Sys} {a : Act} {id : Uuid}
    (h : (s.db.circles.find? id).isSome = true)
    (hdel : Succeeds env s a → ∀ auth, a ≠ .deleteCircle id auth) :
    ((step env s a).db.circles.find? id).isSome = true := by
  rcases refused_or_change env s a with ⟨_, hdb⟩ | ⟨hs, hch⟩
  · rw [hdb]
    exact h
  · have hmodify : ∀ id' (f : Circle → Circle),
        ((s.db.circles.modify id' f).find? id).isSome = true := by
      intro id' f
      rw [Table.find?_modify]
      split_ifs with hid
      · subst hid
        rw [Option.isSome_map]
        exact h
      · exact h
    generalize (step env s a).db = db' at hch ⊢
    cases hch with
    | tick d => exact h
    | found id' req body hunused hfree =>
        unfold Db.found
        dsimp only
        rw [Table.find?_insert]
        split_ifs
        · rfl
        · exact h
    | invite id' req c b body circle ok => exact hmodify ..
    | accept id' auth b circle m ok => exact hmodify ..
    | rotate id' req ago body circle ok => exact hmodify ..
    | remove id' m auth circle row ok => exact hmodify ..
    | check id' req => exact h
    | relabel i id' body => exact hmodify ..
    | drop id' auth =>
        have hid : id ≠ id' := fun hid => hdel hs auth (by rw [hid])
        unfold Db.drop
        dsimp only
        obtain ⟨c, hc⟩ := Option.isSome_iff_exists.1 h
        rw [Table.find?_filter, hc, Option.filter_some, if_pos (by simpa using hid)]
        rfl
    | read id' len req enabled redis ago e circle ok => exact h
    | publish i e hp hc => exact h
    | expire => exact h

/-- A circle that is neither rotated nor deleted keeps its owner and its epoch, and
keeps needing a new key. -/
theorem circle_kept {env : Env} {s : Sys} {a : Act} {id : Uuid} {t : Token} {c : Circle}
    (h : s.db.circles.find? id = some c) (hclear : Succeeds env s a → ¬ Clears env id t a) :
    ∃ c', (step env s a).db.circles.find? id = some c' ∧ c'.owner_token = c.owner_token ∧
      c'.key_epoch = c.key_epoch ∧ (c.rekey_required = true → c'.rekey_required = true) := by
  obtain ⟨c', hc'⟩ := Option.isSome_iff_exists.1 (circle_stays (Option.isSome_iff_exists.2 ⟨c, h⟩)
    fun hs auth ha => hclear hs (Or.inr (Or.inr ⟨auth, ha⟩)))
  refine ⟨c', hc', ?_⟩
  cases circle_of_step hc' with
  | created req body act unused free row =>
      rw [h] at free
      cases free
  | kept c₀ old owner epoch rekey quiet =>
      obtain rfl : c = c₀ := Option.some.inj (h.symm.trans old)
      exact ⟨owner, epoch, rekey⟩
  | rotated req ago body c₀ act hs ok row => exact absurd (Or.inl ⟨req, ago, act⟩) (hclear hs)

/-! ### Members -/

/-- Where the row of a member comes from. -/
inductive MemberFrom (env : Env) (s : Sys) (a : Act) (id : Uuid) (t : Token) (m' : Member) : Prop
  | invited (req : Request AddMemberBody) (c b : ℕ) (body : AddMemberBody) (circle : Circle)
      (joined_at : Timestamp) (act : a = .addMember id req c b) (succeeds : Succeeds env s a)
      (ok : Invites env s.db id req body circle)
      (token : t = env.circleToken id (toAsciiLowercase body.member_pubkey))
      (row : m' = newMember joined_at body)
  | kept (m : Member) (old : s.db.members.find? (id, t) = some m) (same : m'.keying = m.keying)
      (stays : Succeeds env s a → ¬ Clears env id t a)
  | accepted (auth : NostrAuth) (b : ℕ) (circle : Circle) (m : Member) (now : Timestamp)
      (act : a = .acceptMember id auth b) (succeeds : Succeeds env s a)
      (token : t = env.circleToken id auth.pubkey) (ok : Accepts s.db id t circle m)
      (row : m' = m.accept now)
  | passed (req : Request CommitEpochBody) (ago : ℕ) (body : CommitEpochBody) (circle : Circle)
      (m : Member) (act : a = .commitEpoch id req ago) (succeeds : Succeeds env s a)
      (ok : Rotates env s.db id req body circle) (old : s.db.members.find? (id, t) = some m)
      (same : m'.keying = m.keying) (out : t ∉ body.member_wraps.map MemberWrap.member_token)
  | rewrapped (req : Request CommitEpochBody) (ago : ℕ) (body : CommitEpochBody) (circle : Circle)
      (m : Member) (w : MemberWrap) (act : a = .commitEpoch id req ago) (succeeds : Succeeds env s a)
      (ok : Rotates env s.db id req body circle) (old : s.db.members.find? (id, t) = some m)
      (mem : w ∈ body.member_wraps) (token : w.member_token = t)
      (row : m'.keying = (Member.rewrap body.next_epoch w m).keying)

theorem member_of_step {env : Env} {s : Sys} {a : Act} {id : Uuid} {t : Token} {m' : Member}
    (h : (step env s a).db.members.find? (id, t) = some m') : MemberFrom env s a id t m' := by
  rcases refused_or_change env s a with ⟨hno, hdb⟩ | ⟨hs, hch⟩
  · rw [hdb] at h
    exact .kept m' h rfl fun hs => absurd hs hno
  · have same : s.db.members.find? (id, t) = some m' → ¬ Clears env id t a →
        MemberFrom env s a id t m' :=
      fun h hq => .kept m' h rfl fun _ => hq
    generalize (step env s a).db = db' at h hch
    cases hch with
    | tick d => exact same h (by simp [Clears])
    | found id' req body hunused hfree => exact same h (by simp [Clears])
    | invite id' req c b body circle ok =>
        unfold Db.invite Db.upsertMember at h
        dsimp only at h
        rw [Table.find?_upsert] at h
        split_ifs at h with hk
        · obtain ⟨rfl, rfl⟩ := Prod.mk.inj hk
          cases hf : s.db.members.find?
              (id, env.circleToken id (toAsciiLowercase body.member_pubkey)) with
          | none =>
              rw [hf] at h
              exact .invited req c b body circle _ rfl hs ok rfl (Option.some.inj h).symm
          | some m =>
              rw [hf] at h
              exact .invited req c b body circle _ rfl hs ok rfl (Option.some.inj h).symm
        · exact same h (by simp [Clears])
    | accept id' auth b circle m ok =>
        unfold Db.activate at h
        dsimp only at h
        rw [Table.find?_modify] at h
        split_ifs at h with hk
        · obtain ⟨rfl, rfl⟩ := Prod.mk.inj hk
          rw [ok.invited] at h
          exact .accepted auth b circle m _ rfl hs rfl ok (Option.some.inj h).symm
        · exact same h (by simp [Clears])
    | rotate id' req ago body circle ok =>
        obtain ⟨m, hm, ⟨hkey, hout⟩ | ⟨rfl, w, hw, hwt, hrow⟩⟩ := find?_rotate h
        · by_cases hid : id = id'
          · subst hid
            exact .passed req ago body circle m rfl hs ok hm hkey (hout rfl)
          · exact .kept m hm hkey fun _ => by simp [Clears, Ne.symm hid]
        · exact .rewrapped req ago body circle m w rfl hs ok hm hw hwt hrow
    | remove id' mk auth circle row ok =>
        unfold Db.leave at h
        dsimp only at h
        rw [Table.find?_filter] at h
        obtain ⟨hm, hk⟩ := Option.filter_eq_some_iff.1 h
        have hk : (id, t) ≠ (id', env.circleToken id' mk) := of_decide_eq_true hk
        refine same hm ?_
        rintro (⟨_, _, ha⟩ | ⟨_, _, ha, rfl⟩ | ⟨_, ha⟩)
        · cases ha
        · cases ha
          exact hk rfl
        · cases ha
    | check id' req => exact same h (by simp [Clears])
    | relabel i id' body =>
        obtain ⟨m, hm, hkey⟩ := find?_labels h
        exact .kept m hm hkey fun _ => by simp [Clears]
    | drop id' auth =>
        unfold Db.drop at h
        dsimp only at h
        rw [Table.find?_filter] at h
        obtain ⟨hm, hid⟩ := Option.filter_eq_some_iff.1 h
        have hid : id ≠ id' := of_decide_eq_true hid
        exact same hm (by simp [Clears, Ne.symm hid])
    | read id' len req enabled redis ago e circle ok => exact same h (by simp [Clears])
    | publish i e hp hc => exact same h (by simp [Clears])
    | expire => exact same h (by simp [Clears])

/-- The action ends the membership of a token: it removes or invites it, or deletes
its circle. -/
def Unseats (env : Env) (id : Uuid) (t : Token) (a : Act) : Prop :=
  (∃ m auth, a = .removeMember id m auth ∧ t = env.circleToken id m) ∨
    (∃ req c b body, a = .addMember id req c b ∧ req.body = some body ∧
      t = env.circleToken id (toAsciiLowercase body.member_pubkey)) ∨
    ∃ auth, a = .deleteCircle id auth

theorem Request.body_of_parse {β : Type} {req : Request β} {body : β} (h : req.parse = .ok body) :
    req.body = some body := by
  unfold Request.parse at h
  obtain ⟨_, _, h⟩ := bind_eq_ok.1 h
  split at h
  · cases h
  · rename_i body' hb
    rw [hb, Except.ok.inj h]

/-- An active member stays active until something ends its membership. -/
theorem active_stays {env : Env} {s : Sys} {a : Act} {id : Uuid} {t : Token}
    (h : s.db.isActive id t = true) (hseat : Succeeds env s a → ¬ Unseats env id t a) :
    (step env s a).db.isActive id t = true := by
  rcases refused_or_change env s a with ⟨_, hdb⟩ | ⟨hs, hch⟩
  · rw [hdb]
    exact h
  · have hseat := hseat hs
    generalize (step env s a).db = db' at hch ⊢
    have hfilter : ∀ (p : Uuid × Token → Member → Bool) (circles blobs),
        (∀ m, p (id, t) m = true) →
          Db.isActive ⟨circles, s.db.members.filter p, blobs⟩ id t = true := by
      intro p circles blobs hp
      unfold Db.isActive at h ⊢
      dsimp only
      rw [Table.find?_filter]
      cases hf : s.db.members.find? (id, t) with
      | none =>
          rw [hf] at h
          cases h
      | some m =>
          rw [hf] at h
          rw [Option.filter_some, if_pos (hp m)]
          exact h
    cases hch with
    | tick d => exact h
    | found id' req body hunused hfree => exact h
    | invite id' req c b body circle ok =>
        have hk : (id, t) ≠ (id', env.circleToken id' (toAsciiLowercase body.member_pubkey)) := by
          intro hk
          obtain ⟨rfl, rfl⟩ := Prod.mk.inj hk
          exact hseat (Or.inr (Or.inl ⟨req, c, b, body, rfl, Request.body_of_parse ok.parsed, rfl⟩))
        unfold Db.isActive Db.invite Db.upsertMember at *
        dsimp only
        rw [Table.find?_upsert, if_neg hk]
        exact h
    | accept id' auth b circle m ok =>
        unfold Db.isActive Db.activate at *
        dsimp only
        rw [Table.find?_modify]
        split_ifs with hk
        · obtain ⟨rfl, rfl⟩ := Prod.mk.inj hk
          rw [ok.invited]
          rfl
        · exact h
    | rotate id' req ago body circle ok =>
        rw [isActive_rotate]
        exact h
    | remove id' mk auth circle row ok =>
        refine hfilter _ _ _ fun m => decide_eq_true fun hk => hseat (Or.inl ?_)
        obtain ⟨rfl, rfl⟩ := Prod.mk.inj hk
        exact ⟨mk, auth, rfl, rfl⟩
    | check id' req => exact h
    | relabel i id' body =>
        exact (isActive_labels s.db id' id body.member_labels t).trans h
    | drop id' auth =>
        refine hfilter _ _ _ fun m => decide_eq_true fun hid => hseat (Or.inr (Or.inr ⟨auth, ?_⟩))
        rw [show id = id' from hid]
    | read id' len req enabled redis ago e circle ok => exact h
    | publish i e hp hc => exact h
    | expire => exact h

/-! ### Envelopes -/

/-- Where a stored envelope comes from. -/
inductive BlobFrom (env : Env) (s : Sys) (a : Act) (id : Uuid) (t : Token) (b : Blob) : Prop
  | published (i : ℕ) (e : Envelope) (act : a = .writeEnvelope i) (pending : s.pushes[i]? = some e)
      (circle : (s.db.circles.find? e.circle_id).isSome = true)
      (tables : (step env s a).db = s.db.publish e) (key : e.key = (id, t)) (row : b = e.blob)
  | kept (old : s.db.blobs.find? (id, t) = some b)
      (stays : Succeeds env s a → ¬ Clears env id t a)

theorem blob_of_step {env : Env} {s : Sys} {a : Act} {id : Uuid} {t : Token} {b : Blob}
    (h : (step env s a).db.blobs.find? (id, t) = some b) : BlobFrom env s a id t b := by
  rcases refused_or_change env s a with ⟨hno, hdb⟩ | ⟨_, hch⟩
  · rw [hdb] at h
    exact .kept h fun hs => absurd hs hno
  · have same : s.db.blobs.find? (id, t) = some b → ¬ Clears env id t a → BlobFrom env s a id t b :=
      fun h hc => .kept h fun _ => hc
    obtain ⟨db', hdb⟩ : ∃ db', db' = (step env s a).db := ⟨_, rfl⟩
    rw [← hdb] at h hch
    cases hch with
    | tick d => exact same h (by simp [Clears])
    | found id' req body hunused hfree => exact same h (by simp [Clears])
    | invite id' req c b' body circle ok => exact same h (by simp [Clears])
    | accept id' auth b' circle m ok => exact same h (by simp [Clears])
    | rotate id' req ago body circle ok =>
        unfold Db.rotate at h
        dsimp only at h
        rw [Table.find?_filter] at h
        obtain ⟨hb, hid⟩ := Option.filter_eq_some_iff.1 h
        have hid : id ≠ id' := of_decide_eq_true hid
        exact same hb (by simp [Clears, Ne.symm hid])
    | remove id' mk auth circle row ok =>
        unfold Db.leave at h
        dsimp only at h
        rw [Table.find?_filter] at h
        obtain ⟨hb, hk⟩ := Option.filter_eq_some_iff.1 h
        have hk : (id, t) ≠ (id', env.circleToken id' mk) := of_decide_eq_true hk
        refine same hb ?_
        rintro (⟨_, _, ha⟩ | ⟨_, _, ha, rfl⟩ | ⟨_, ha⟩)
        · cases ha
        · cases ha
          exact hk rfl
        · cases ha
    | check id' req => exact same h (by simp [Clears])
    | relabel i id' body => exact same h (by simp [Clears])
    | drop id' auth =>
        unfold Db.drop at h
        dsimp only at h
        rw [Table.find?_filter] at h
        obtain ⟨hb, hid⟩ := Option.filter_eq_some_iff.1 h
        have hid : id ≠ id' := of_decide_eq_true hid
        exact same hb (by simp [Clears, Ne.symm hid])
    | read id' len req enabled redis ago e circle ok => exact same h (by simp [Clears])
    | publish i e hp hc =>
        unfold Db.publish at h
        dsimp only at h
        rw [Table.find?_upsert] at h
        split_ifs at h with hk
        · refine .published i e rfl hp hc hdb.symm hk.symm ?_
          cases hf : s.db.blobs.find? e.key with
          | none =>
              rw [hf] at h
              exact (Option.some.inj h).symm
          | some b' =>
              rw [hf] at h
              exact (Option.some.inj h).symm
        · exact same h (by simp [Clears])
    | expire =>
        unfold Db.expire at h
        dsimp only at h
        rw [Table.find?_filter] at h
        exact same (Option.filter_eq_some_iff.1 h).1 (by simp [Clears])

end Circles
end SentinelMesh
