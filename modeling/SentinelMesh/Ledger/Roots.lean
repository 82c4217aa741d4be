/-
# Trust starts at the genesis roots

With the gate on, nothing is verified, no score is earned and no vouch is
issued before a genesis root takes part, however many keys vote together.

Three things feed each other: the gate counts established confirmers, a tier is
earned when a report is verified, and a vouch is issued by an earned tier.
`Barren` says that all three are at their beginning, and that no confirmation
stored so far is a root's; then the count of established confirmers is zero
(`establishedConfirmations_of_barren`), no transition to `VERIFIED` or
`AUTHORITATIVE` is decided, and every table stays barren (`barren_step`).
-/

import SentinelMesh.Ledger.Effects

namespace SentinelMesh
namespace Ledger

open Lib

/-- A key of `roots` casts a `CONFIRM` vote that is accepted. -/
def ConfirmedBy (gw : Gateway) (roots : List Pubkey) (e : Event Sys Act) : Prop :=
  ∃ body rules sch, e.act = .vote body rules sch ∧ body.voter_pubkey ∈ roots ∧
    body.vote = "CONFIRM" ∧ (exec gw e.pre e.act).2 = .ok ()

/-- A key of `roots` issues a vouch. -/
def VouchedBy (gw : Gateway) (roots : List Pubkey) (e : Event Sys Act) : Prop :=
  ∃ body genesis_roots sch, e.act = .postVouch body genesis_roots sch ∧
    body.voucher_pubkey ∈ roots ∧ (exec gw e.pre e.act).2 = .ok ()

/-- The action decides under the gate and the roots `roots`. -/
def Act.GatedBy (roots : List Pubkey) : Act → Prop
  | .vote _ rules _ => rules = ⟨roots, true⟩
  | .postVouch _ genesis_roots _ => genesis_roots = roots
  | _ => True

/-- Tables in which nobody has standing and no root has confirmed. -/
structure Barren (roots : List Pubkey) (db : Db) : Prop where
  reports : ∀ id r, db.reports.find? id = some r → r.status ≠ .verified ∧ r.status ≠ .authoritative
  users : ∀ pk u, db.users.find? pk = some u →
    u.reputation_score = 0 ∧ u.reputation_tier = .newcomer ∧ u.last_verified_at = none
  vouches : db.vouches = []
  votes : ∀ k v, db.votes.find? k = some v → v.vote = .confirm → k.2 ∉ roots

theorem reputationTier_of_barren {roots : List Pubkey} {db : Db} (h : Barren roots db)
    (pk : Pubkey) : reputationTier db.users pk = .newcomer := by
  unfold reputationTier
  cases hu : db.users.find? pk with
  | none => rfl
  | some u => exact (h.users pk u hu).2.1

theorem hasEstablishedTier_eq (users : Table Pubkey User) (pk : Pubkey) :
    hasEstablishedTier users pk = tierIsEstablished (reputationTier users pk) := by
  unfold hasEstablishedTier reputationTier
  cases users.find? pk <;> rfl

/-- Touching the voter earns nothing. -/
theorem reputationTier_touchVoter (db : Db) (now : Timestamp) (voter pk : Pubkey) :
    reputationTier (db.touchVoter now voter).users pk = reputationTier db.users pk := by
  unfold reputationTier
  rw [find?_touchVoter]
  split_ifs with h
  · subst h
    cases db.users.find? pk <;> rfl
  · rfl

/-- What a vote sees of users and vouches is barren too. -/
theorem peek_of_barren {roots : List Pubkey} {s : Sys} (h : s.Always (Barren roots))
    (body : CastVoteBody) (sch : Schedule) (b : Ballot) :
    let p := s.peek sch (s.db.cast (s.began sch) body.report_id body.input b)
    (∀ pk, reputationTier p.users pk = .newcomer) ∧ p.vouches = [] := by
  dsimp only
  unfold Sys.peek
  cases sch.peek with
  | none =>
      refine ⟨fun pk => ?_, h.1.vouches⟩
      exact (reputationTier_touchVoter _ _ _ _).trans (reputationTier_of_barren h.1 pk)
  | some k => exact ⟨reputationTier_of_barren (h.view k), (h.view k).vouches⟩

/-- **Without roots the gate counts nobody.** -/
theorem establishedConfirmations_of_barren {votes : Table (Uuid × Pubkey) Vote}
    {users : Table Pubkey User} {roots : List Pubkey} (now : Timestamp) (report_id : Uuid)
    (hvotes : ∀ k v, votes.find? k = some v → v.vote = .confirm → k.2 ∉ roots)
    (husers : ∀ pk, reputationTier users pk = .newcomer) :
    establishedConfirmations votes users [] now roots report_id = 0 := by
  refine establishedConfirmations_eq_zero fun k v hr hv => ?_
  have hroot := hvotes k v (Table.find?_eq_some_iff.2 hr) hv
  have htier : hasEstablishedTier users k.2 = false := by
    rw [hasEstablishedTier_eq, husers]
    rfl
  unfold countsAsEstablished
  rw [htier]
  simp [hroot]

variable {gw : Gateway} {roots : List Pubkey} {s : Sys}

/-- The votes of a barren state stay without confirmations of roots when the new
one is not a root's. -/
theorem votes_cast_of_barren (h : Barren roots s.db) (sch : Schedule) {body : CastVoteBody}
    {b : Ballot} (hroot : b.choice = .confirm → body.voter_pubkey ∉ roots) :
    ∀ k v, (s.db.votes.insert (body.report_id, body.voter_pubkey)
      (b.row (s.began sch) body.voter_nostr_event.id)).find? k = some v →
      v.vote = .confirm → k.2 ∉ roots := by
  intro k v hv hc
  rw [Table.find?_insert] at hv
  split_ifs at hv with hk
  · subst hk
    cases hold : s.db.votes.find? (body.report_id, body.voter_pubkey) with
    | none =>
        rw [hold] at hv
        obtain rfl := Option.some.inj hv
        exact hroot hc
    | some w =>
        rw [hold] at hv
        obtain rfl := Option.some.inj hv
        exact h.votes _ _ hold hc
  · exact h.votes k v hv hc

/-- Under the gate a barren state decides neither `VERIFIED` nor
`AUTHORITATIVE`. -/
theorem decided_of_barren (h : s.Always (Barren roots)) {body : CastVoteBody} {sch : Schedule}
    {author : Pubkey} {b : Ballot} {st : ReportStatus}
    (hv : Voted gw s body ⟨roots, true⟩ sch author b (some st))
    (hroot : b.choice = .confirm → body.voter_pubkey ∉ roots) :
    st ≠ .verified ∧ st ≠ .authoritative := by
  obtain ⟨husers, hvouches⟩ := peek_of_barren h body sch b
  have hd := decision_eq_some hv.decided
  have hcount := establishedConfirmations_of_barren (s.began sch) body.report_id
    (votes_cast_of_barren h.1 sch hroot) husers
  have hzero : wrap 32 (establishedConfirmations
      (s.db.cast (s.began sch) body.report_id body.input b).votes
      (s.peek sch (s.db.cast (s.began sch) body.report_id body.input b)).users
      (s.peek sch (s.db.cast (s.began sch) body.report_id body.input b)).vouches (s.began sch) roots
      body.report_id) = 0 := by
    rw [hvouches]
    exact (congrArg (wrap 32) hcount).trans (by decide)
  rw [hzero] at hd
  rcases computeNewStatus_cases hd with ⟨rfl, _⟩ | ⟨rfl, _⟩ | ⟨rfl, _⟩ | ⟨_, _, _, _, hg⟩ |
    ⟨_, _, _, _, hg⟩
  · exact ⟨by decide, by decide⟩
  · exact ⟨by decide, by decide⟩
  · exact ⟨by decide, by decide⟩
  · exact absurd (hg rfl) (by decide)
  · exact absurd (hg rfl) (by decide)

/-- A vote by nobody's root keeps the tables barren. -/
theorem barren_voted (h : s.Always (Barren roots)) {body : CastVoteBody} {sch : Schedule}
    {author : Pubkey} {b : Ballot} {o : Option ReportStatus}
    (hv : Voted gw s body ⟨roots, true⟩ sch author b o)
    (hroot : b.choice = .confirm → body.voter_pubkey ∉ roots) :
    Barren roots (s.voted body sch author b o) := by
  have hst : ∀ st, o = some st → st ≠ .verified ∧ st ≠ .authoritative := by
    rintro st rfl
    exact decided_of_barren h hv hroot
  refine ⟨fun id r hr => ?_, fun pk u hu => ?_, ?_, ?_⟩
  · rw [voted_reports, Table.find?_modify] at hr
    split_ifs at hr with hid
    · obtain ⟨r₀, hr₀, rfl⟩ := Option.map_eq_some_iff.1 hr
      cases o with
      | none => exact h.1.reports _ r₀ hr₀
      | some st => exact hst st rfl
    · exact h.1.reports id r hr
  · obtain ⟨u₀, t, hu₀, rfl⟩ := voted_user_cases _ _ _ _ _ _ hu
    have hzero : u₀.reputation_score = 0 ∧ u₀.reputation_tier = .newcomer ∧
        u₀.last_verified_at = none := by
      rcases hu₀ with hu₀ | ⟨_, rfl⟩
      · exact h.1.users pk u₀ hu₀
      · exact ⟨rfl, rfl, rfl⟩
    split_ifs
    · -- the author is credited for `VERIFIED` alone
      cases o with
      | none => exact hzero
      | some st =>
          cases st with
          | verified => exact absurd rfl (hst _ rfl).1
          | pending | unverified | authoritative | disputed | rejected => exact hzero
    · exact hzero
  · rw [voted_vouches, h.1.vouches]
  · rw [voted_votes]
    exact votes_cast_of_barren h.1 sch hroot

/-- A new report keeps the tables barren. -/
theorem barren_create (h : Barren roots s.db) {now : Timestamp} {id : Uuid}
    {input : CreateReportInput} (hnew : s.db.reports.find? id = none) :
    Barren roots (s.db.create gw.env now id input) := by
  refine ⟨fun id' r hr => ?_, fun pk u hu => ?_, h.vouches, h.votes⟩
  · have hr : (s.db.reports.insert id _).find? id' = some r := hr
    rw [Table.find?_insert, hnew] at hr
    split_ifs at hr with hid
    · obtain rfl := Option.some.inj hr
      exact ⟨by simp [newReport], by simp [newReport]⟩
    · exact h.reports id' r hr
  · have hu : (s.db.countReport now input.nostr_pubkey).find? pk = some u := hu
    rw [find?_countReport] at hu
    split_ifs at hu with hpk
    · obtain rfl := Option.some.inj hu
      cases hold : s.db.users.find? input.nostr_pubkey with
      | none => exact ⟨rfl, rfl, rfl⟩
      | some u₀ => exact h.users _ u₀ hold
    · exact h.users pk u hu

/-- No pass has a row to write. -/
def NoDecay (s : Sys) : Prop := ∀ p ∈ s.passes, p = []

theorem decayRows_of_barren (h : Barren roots s.db) (cfg : DecayConfig) :
    decayRows cfg s.now s.db.users = [] := by
  refine List.eq_nil_iff_forall_not_mem.2 fun r hr => ?_
  obtain ⟨u, t, hu, ht, _⟩ := mem_decayRows hr
  rw [(h.users _ u hu).2.2] at ht
  cases ht

/-- The tables of the whole history are barren, and nothing waits to be written. -/
def BarrenSys (roots : List Pubkey) (s : Sys) : Prop := s.Always (Barren roots) ∧ NoDecay s

/-- **One step keeps the system barren**, if it is under the gate and neither a
root's confirmation nor a root's vouch. -/
theorem barren_step (a : Act) (h : BarrenSys roots s) (hgate : a.GatedBy roots)
    (hconfirm : ¬ ConfirmedBy gw roots ⟨s, a, step gw s a⟩)
    (hvouch : ¬ VouchedBy gw roots ⟨s, a, step gw s a⟩) : BarrenSys roots (step gw s a) := by
  refine ⟨h.1.step ?_, ?_⟩
  · have hc := commit_step gw s a
    generalize hdb : (step gw s a).db = db' at hc
    cases hc with
    | idle => exact h.1.1
    | create id input ago hr _ => exact barren_create h.1.1 hr
    | vote body rules sch author b o hv =>
        obtain rfl : rules = ⟨roots, true⟩ := hgate
        refine barren_voted h.1 hv fun hb hroot => hconfirm ⟨body, _, sch, rfl, hroot, ?_, ?_⟩
        · have := VoteChoice.text_of_ofText? hv.ballot.choice
          rw [hb] at this
          exact this
        · have hok := vote_eq_ok_iff.2 ⟨author, b, o, hv, rfl, rfl⟩
          exact congrArg (fun p : Db × Except AppError Report => p.2.map fun _ => ()) hok
    | vouch body genesis_roots sch v hok hel =>
        obtain rfl : genesis_roots = roots := hgate
        rcases hel with hroot | htier
        · exact absurd ⟨body, _, sch, rfl, hroot, hok⟩ hvouch
        · rw [reputationTier_of_barren (h.1.view sch.first)] at htier
          cases htier
    | revoke vouchee body sch vouches hsame =>
        refine ⟨h.1.1.reports, h.1.1.users, ?_, h.1.1.votes⟩
        rw [h.1.1.vouches] at hsame
        exact List.map_eq_nil_iff.1 hsame
    | decay i r rest hp =>
        exact absurd (h.2 _ (List.mem_of_getElem? hp)) (by simp)
  · intro p hp
    rcases passes_step gw s a with hsame | ⟨hnew, _⟩ | ⟨i, r, rest, hi, _⟩
    · exact h.2 p (hsame ▸ hp)
    · rw [hnew, List.mem_append] at hp
      rcases hp with hp | hp
      · exact h.2 p hp
      · rw [List.mem_singleton.1 hp]
        exact decayRows_of_barren h.1.1 gw.decay
    · exact absurd (h.2 _ (List.mem_of_getElem? hi)) (by simp)

theorem barren_init (roots : List Pubkey) (now : Timestamp) (safety_events : List Uuid) :
    BarrenSys roots (Sys.init now safety_events) := by
  refine ⟨⟨⟨?_, ?_, rfl, ?_⟩, fun db hdb => ?_⟩, fun p hp => ?_⟩
  · intro id r hr
    cases hr
  · intro pk u hu
    cases hu
  · intro k v hv
    cases hv
  · cases hdb
  · cases hp

/-- **Trust originates only from genesis roots.**  In a run under the gate in
which no root casts a `CONFIRM` vote and none issues a vouch, no report is ever
`VERIFIED` or `AUTHORITATIVE`, every user keeps the score `0` and the tier
`NEWCOMER`, and there are no vouches. -/
theorem no_trust_without_roots (gw : Gateway) (roots : List Pubkey) (start : Timestamp)
    (linked : List Uuid) (as : List Act) (hgate : ∀ a ∈ as, a.GatedBy roots)
    (hroots : ∀ e ∈ events (step gw) (Sys.init start linked) as,
      ¬ ConfirmedBy gw roots e ∧ ¬ VouchedBy gw roots e) :
    let db := (run (step gw) (Sys.init start linked) as).db
    (∀ id r, db.reports.find? id = some r → r.status ≠ .verified ∧ r.status ≠ .authoritative) ∧
    (∀ pk u, db.users.find? pk = some u → u.reputation_score = 0 ∧ u.reputation_tier = .newcomer) ∧
    db.vouches = [] := by
  have hrun : BarrenSys roots (run (step gw) (Sys.init start linked) as) := by
    refine run_induction_of (G := fun s a => a.GatedBy roots ∧
      ¬ ConfirmedBy gw roots ⟨s, a, step gw s a⟩ ∧ ¬ VouchedBy gw roots ⟨s, a, step gw s a⟩)
      (barren_init roots start linked) (fun s a h hG => barren_step a h hG.1 hG.2.1 hG.2.2) ?_
    intro e he
    obtain ⟨bs, cs, has, _, hpost⟩ := mem_events he
    refine ⟨hgate _ ?_, ?_⟩
    · rw [has]
      simp
    · rw [← hpost]
      exact hroots e he
  exact ⟨hrun.1.1.reports, fun pk u hu => ⟨(hrun.1.1.users pk u hu).1, (hrun.1.1.users pk u hu).2.1⟩,
    hrun.1.1.vouches⟩

/-- Six keys that are no roots confirm the report of a seventh, which stays
unverified. -/
theorem no_trust_without_roots_six_keys :
    let db := (run (step (demoGateway .ideal)) (Sys.init 0 []) (demoReport "r" ::
      (List.range 6).map (demoVote ⟨[demoKey 15], true⟩ 0))).db
    (db.reports.find? "r").map Report.status ≠ some .verified ∧ db.vouches = [] := by
  have h := no_trust_without_roots (demoGateway .ideal) [demoKey 15] 0 [] (demoReport "r" ::
    (List.range 6).map (demoVote ⟨[demoKey 15], true⟩ 0)) ?_ ?_
  · refine ⟨fun hr => ?_, h.2.2⟩
    obtain ⟨r, hr, hst⟩ := Option.map_eq_some_iff.1 hr
    exact (h.1 "r" r hr).1 hst
  · intro a ha
    rcases List.mem_cons.1 ha with rfl | ha
    · trivial
    · obtain ⟨n, _, rfl⟩ := List.mem_map.1 ha
      rfl
  · intro e he
    obtain ⟨bs, cs, has, _, _⟩ := mem_events he
    have hact : e.act ∈ demoReport "r" :: (List.range 6).map (demoVote ⟨[demoKey 15], true⟩ 0) := by
      rw [has]
      simp
    rcases List.mem_cons.1 hact with ha | ha
    · rw [ConfirmedBy, VouchedBy, ha]
      exact ⟨fun ⟨_, _, _, h, _⟩ => (by cases h), fun ⟨_, _, _, h, _⟩ => (by cases h)⟩
    · obtain ⟨n, hn, ha⟩ := List.mem_map.1 ha
      rw [ConfirmedBy, VouchedBy, ← ha]
      refine ⟨fun ⟨_, _, _, h, hroot, _⟩ => ?_, fun ⟨_, _, _, h, _⟩ => by cases h⟩
      cases h
      -- the voters' digits are below six and the root's is `f`
      have hne : ∀ n < 6, demoKey n ∉ [demoKey 15] := by decide
      exact hne n (List.mem_range.1 hn) hroot

end Ledger
end SentinelMesh
