/-
# Decay against verification

A verification resets a user's effective score to the earned one.  A decay pass
reads the candidates first and writes each row later, so a verification that
commits in between is overwritten with a value computed from the old score, and
the user, now inside the grace window, is not selected again
(`fresh_verification_decayed`).

The write does no harm exactly when nothing was earned since the read: if at
every write the user still has the score the pass read (`FreshUpdate`), then
users inside the grace window keep their earned standing in every state reached
(`earned_in_grace`).  Scores only grow, so the score is as good as a version
number (`Pending`).
-/

import SentinelMesh.Ledger.Rows

namespace SentinelMesh
namespace Ledger

open Lib

/-- The standing of a user is what was earned. -/
def User.Earned (u : User) : Prop :=
  u.effective_reputation_score = u.reputation_score ∧
    u.reputation_tier = computeTier u.reputation_score

instance (u : User) : Decidable u.Earned := inferInstanceAs (Decidable (_ ∧ _))

/-- Every user verified within the grace window stands at what was earned. -/
def EarnedInGrace (cfg : DecayConfig) (s : Sys) : Prop :=
  ∀ pk u t, s.db.users.find? pk = some u → u.last_verified_at = some t →
    cfg.graceStart s.now ≤ t → u.Earned

/-- A write of a decay pass finds the score the pass read. -/
def FreshUpdate (s : Sys) : Act → Prop
  | .decayUpdate i => ∀ r rest, s.passes[i]? = some (r :: rest) →
      ∀ u, s.db.users.find? r.nostr_pubkey = some u → u.reputation_score = r.reputation_score
  | _ => True

/-- A row a pass has left to write: its user has earned at least what was read,
and while it is that much, was verified before the grace window. -/
def Pending (cfg : DecayConfig) (s : Sys) (r : DecayRow) : Prop :=
  ∃ u, s.db.users.find? r.nostr_pubkey = some u ∧ r.reputation_score ≤ u.reputation_score ∧
    (u.reputation_score = r.reputation_score →
      ∃ t, u.last_verified_at = some t ∧ t < cfg.graceStart s.now)

/-- The standing of users and the rows of the passes under way. -/
structure DecaySound (cfg : DecayConfig) (s : Sys) : Prop where
  users : EarnedInGrace cfg s
  rows : ∀ p ∈ s.passes, ∀ r ∈ p, Pending cfg s r

/-- The grace window moves with the clock. -/
theorem graceStart_mono (cfg : DecayConfig) {t t' : Timestamp} (h : t ≤ t') :
    cfg.graceStart t ≤ cfg.graceStart t' :=
  Int.sub_le_sub_right h _

/-- What a step may do to the standing of a user: nothing, a verification, or a
decay. -/
inductive Standing (cfg : DecayConfig) (s : Sys) (a : Act) (pk : Pubkey) (u u' : User) : Prop
  | same (score : u'.reputation_score = u.reputation_score)
      (eff : u'.effective_reputation_score = u.effective_reputation_score)
      (tier : u'.reputation_tier = u.reputation_tier)
      (verified : u'.last_verified_at = u.last_verified_at)
  | verified (score : u'.reputation_score = u.reputation_score + 10) (earned : u'.Earned)
  | decayed (i : ℕ) (r : DecayRow) (rest : List DecayRow) (act : a = .decayUpdate i)
      (pass : s.passes[i]? = some (r :: rest)) (key : r.nostr_pubkey = pk)
      (score : u'.reputation_score = u.reputation_score)
      (verified : u'.last_verified_at = u.last_verified_at)

variable {gw : Gateway} {s : Sys}

/-- The conclusion of a vote on the standing of the author. -/
theorem standing_conclude (a : Act) (pk : Pubkey) (u : User) (t now : Timestamp)
    (o : Option ReportStatus) :
    Standing gw.decay s a pk u ({ u with last_active := t }.conclude now o) := by
  cases o with
  | none => exact .same rfl rfl rfl rfl
  | some st =>
      cases st with
      | verified => exact .verified rfl ⟨rfl, rfl⟩
      | pending | unverified | authoritative | disputed | rejected => exact .same rfl rfl rfl rfl

/-- **A user after a step** had a row whose standing moved in one of three ways,
or has a new one and was never verified. -/
theorem standing_step (a : Act) {pk : Pubkey} {u' : User}
    (h : (step gw s a).db.users.find? pk = some u') :
    (∃ u, s.db.users.find? pk = some u ∧ Standing gw.decay s a pk u u') ∨
      (s.db.users.find? pk = none ∧ (u'.last_verified_at = none ∨ u'.Earned)) := by
  have hc := commit_step gw s a
  generalize (step gw s a).db = db' at hc h
  cases hc with
  | idle => exact Or.inl ⟨u', h, .same rfl rfl rfl rfl⟩
  | create id input ago =>
      have hcount : (s.db.countReport (s.now - ago) input.nostr_pubkey).find? pk = some u' := h
      rw [find?_countReport] at hcount
      split_ifs at hcount with hpk
      · subst hpk
        obtain rfl := Option.some.inj hcount
        cases hold : s.db.users.find? input.nostr_pubkey with
        | none => exact Or.inr ⟨rfl, Or.inl rfl⟩
        | some u => exact Or.inl ⟨u, rfl, .same rfl rfl rfl rfl⟩
      · exact Or.inl ⟨u', hcount, .same rfl rfl rfl rfl⟩
  | vote body rules sch author b o hv =>
      obtain ⟨u, t, hu, rfl⟩ := voted_user_cases _ _ _ _ _ _ h
      rcases hu with hu | ⟨hno, rfl⟩
      · refine Or.inl ⟨u, hu, ?_⟩
        split_ifs
        · exact standing_conclude _ pk u t _ o
        · exact .same rfl rfl rfl rfl
      · refine Or.inr ⟨hno, ?_⟩
        split_ifs
        · cases o with
          | none => exact Or.inl rfl
          | some st =>
              cases st with
              | verified => exact Or.inr ⟨rfl, rfl⟩
              | pending | unverified | authoritative | disputed | rejected => exact Or.inl rfl
        · exact Or.inl rfl
  | vouch => exact Or.inl ⟨u', h, .same rfl rfl rfl rfl⟩
  | revoke => exact Or.inl ⟨u', h, .same rfl rfl rfl rfl⟩
  | decay i r rest hp =>
      rw [find?_decay] at h
      split_ifs at h with hpk
      · obtain ⟨u, hu, rfl⟩ := Option.map_eq_some_iff.1 h
        exact Or.inl ⟨u, hpk ▸ hu, .decayed i r rest rfl hp hpk.symm rfl rfl⟩
      · exact Or.inl ⟨u', h, .same rfl rfl rfl rfl⟩

/-- A pending row stays pending. -/
theorem pending_step (a : Act) {r : DecayRow} (h : Pending gw.decay s r) :
    Pending gw.decay (step gw s a) r := by
  obtain ⟨u, hu, hle, hold⟩ := h
  have hsome := user_step gw a (show (s.db.users.find? r.nostr_pubkey).isSome by rw [hu]; rfl)
  obtain ⟨u', hu'⟩ := Option.isSome_iff_exists.1 hsome
  have hmono := graceStart_mono gw.decay (now_le_step gw s a)
  refine ⟨u', hu', ?_⟩
  rcases standing_step a hu' with ⟨u₀, hu₀, hst⟩ | ⟨hno, _⟩
  · obtain rfl := Option.some.inj (hu.symm.trans hu₀)
    have hkeep : u'.reputation_score = u.reputation_score →
        u'.last_verified_at = u.last_verified_at → r.reputation_score ≤ u'.reputation_score ∧
        (u'.reputation_score = r.reputation_score →
          ∃ t, u'.last_verified_at = some t ∧ t < gw.decay.graceStart (step gw s a).now) := by
      intro hscore hver
      refine ⟨hscore ▸ hle, fun heq => ?_⟩
      obtain ⟨t, ht, hlt⟩ := hold (hscore ▸ heq)
      exact ⟨t, hver.trans ht, lt_of_lt_of_le hlt hmono⟩
    cases hst with
    | same hscore _ _ hver => exact hkeep hscore hver
    | verified hscore _ => exact ⟨by omega, fun heq => by omega⟩
    | decayed i r' rest _ _ _ hscore hver => exact hkeep hscore hver
  · rw [hu] at hno
    cases hno

/-- **One step keeps the standing of users in grace**, if its write is fresh. -/
theorem decaySound_step (a : Act) (h : DecaySound gw.decay s) (hfresh : FreshUpdate s a) :
    DecaySound gw.decay (step gw s a) := by
  have hmono := graceStart_mono gw.decay (now_le_step gw s a)
  refine ⟨fun pk u' t hu' ht hgrace => ?_, fun p hp r hr => ?_⟩
  · rcases standing_step a hu' with ⟨u, hu, hst⟩ | ⟨_, hnone | hearned⟩
    · cases hst with
      | same hscore heff htier hver =>
          have hearned := h.users pk u t hu (hver ▸ ht) (hmono.trans hgrace)
          unfold User.Earned
          rw [hscore, heff, htier]
          exact hearned
      | verified _ hearned => exact hearned
      | decayed i r rest hact hp hkey hscore hver =>
          -- the write is fresh, so the user was verified before the window
          subst hact hkey
          obtain ⟨u₀, hu₀, _, hold⟩ := h.rows _ (List.mem_of_getElem? hp) r List.mem_cons_self
          obtain rfl := Option.some.inj (hu.symm.trans hu₀)
          obtain ⟨t₀, ht₀, hlt⟩ := hold (hfresh r rest hp u hu)
          rw [hver, ht₀] at ht
          obtain rfl := Option.some.inj ht
          exact absurd (hmono.trans hgrace) (not_le.2 hlt)
    · rw [hnone] at ht
      cases ht
    · exact hearned
  · rcases passes_step gw s a with hsame | ⟨hnew, hdb⟩ | ⟨i, r₀, rest, hi, hset⟩
    · rw [hsame] at hp
      exact pending_step a (h.rows p hp r hr)
    · rw [hnew, List.mem_append] at hp
      rcases hp with hp | hp
      · exact pending_step a (h.rows p hp r hr)
      · -- a row just read
        rw [List.mem_singleton.1 hp] at hr
        obtain ⟨u, t, hu, ht, hlt, hscore, _⟩ := mem_decayRows hr
        exact pending_step a ⟨u, hu, hscore.ge, fun _ => ⟨t, ht, hlt⟩⟩
    · rw [hset] at hp
      rcases List.mem_or_eq_of_mem_set hp with hp | rfl
      · exact pending_step a (h.rows p hp r hr)
      · exact pending_step a (h.rows _ (List.mem_of_getElem? hi) r (List.mem_cons_of_mem _ hr))

/-- **Decay leaves fresh verifications alone as long as its writes are fresh.**
In every run in which each write of a decay pass finds the score the pass read,
every user verified within the grace window has the effective score and the
tier that were earned. -/
theorem earned_in_grace (gw : Gateway) (start : Timestamp) (linked : List Uuid) (as : List Act)
    (hfresh : ∀ e ∈ events (step gw) (Sys.init start linked) as, FreshUpdate e.pre e.act) :
    EarnedInGrace gw.decay (run (step gw) (Sys.init start linked) as) := by
  have hinit : DecaySound gw.decay (Sys.init start linked) := by
    refine ⟨fun pk u t hu => ?_, fun p hp => ?_⟩
    · cases hu
    · cases hp
  exact (run_induction_of (P := DecaySound gw.decay) (G := FreshUpdate) hinit
    (fun s a h hf => decaySound_step a h hf) hfresh).users

/-! ### The race

The key of `9` has a report verified at the start; a hundred days later a decay
pass reads it, a second report of it is verified, and the pass writes. -/

/-- The first report of the key of `9` is verified. -/
def firstVerified : List Act := demoReport "r" :: (List.range 6).map (demoVote openRules 0)

/-- Seconds in a hundred days. -/
def hundredDays : ℕ := 8640000

/-- The time passes, and a decay pass reads. -/
def passReads : List Act := [.tick (hundredDays * 1000000), .decayRead]

/-- A second report is verified. -/
def secondVerified : List Act :=
  demoReport "q" :: [6, 7, 8, 10, 11].map (demoVote openRules hundredDays)

/-- The tables once the first report is verified. -/
@[irreducible] def firstDb : Db :=
  (List.range 6).foldl (demoCast .ideal openRules 0) (demoCreate .ideal 0 {} "r")

/-- The tables once the second report is verified too. -/
@[irreducible] def secondDb : Db :=
  [6, 7, 8, 10, 11].foldl (demoCast .ideal openRules hundredDays)
    (demoCreate .ideal (hundredDays * 1000000) firstDb "q")

theorem secondDb_eq : secondDb = [6, 7, 8, 10, 11].foldl (demoCast .ideal openRules hundredDays)
    (demoCreate .ideal (hundredDays * 1000000) firstDb "q") := by
  delta secondDb
  rfl

/-- What the pass reads. -/
def staleRow : DecayRow := ⟨demoKey 9, 10, 1, 1, 100⟩

theorem decayRows_firstDb :
    decayRows (demoGateway .ideal).decay (hundredDays * 1000000) firstDb.users = [staleRow] := by
  decide +kernel

theorem run_firstVerified :
    let s := run (step (demoGateway .ideal)) (Sys.init 0 []) firstVerified
    s.db = firstDb ∧ s.now = 0 ∧ s.passes = [] := by
  dsimp only
  rw [firstVerified, run_cons, step_demoReport]
  delta firstDb
  exact run_demoVotes .ideal openRules 0 (by decide) _ (by decide) _ rfl

theorem run_passReads :
    let s := run (step (demoGateway .ideal)) (Sys.init 0 []) (firstVerified ++ passReads)
    s.db = firstDb ∧ s.now = hundredDays * 1000000 ∧ s.passes = [[staleRow]] := by
  obtain ⟨hdb, hnow, hpasses⟩ := run_firstVerified
  dsimp only
  rw [run_append]
  generalize run _ _ firstVerified = s at hdb hnow hpasses
  obtain ⟨now, db, past, passes⟩ := s
  dsimp only at hdb hnow hpasses
  subst hdb hnow hpasses
  refine ⟨rfl, Int.zero_add _, ?_⟩
  show [decayRows _ (0 + _) _] = _
  rw [Int.zero_add]
  exact congrArg (fun rows => [rows]) decayRows_firstDb

/-- The standing the race leaves: ten points of the twenty earned, a tier too low,
the last verification now. -/
theorem staleRow_secondDb :
    ((secondDb.decay (demoGateway .ideal).decay staleRow).users.find? (demoKey 9)).map (fun u =>
      (u.reputation_score, u.effective_reputation_score, u.reputation_tier, u.last_verified_at)) =
    some (20, 10, Tier.trusted, some ((hundredDays : ℤ) * 1000000)) := by
  decide +kernel

/-- **A fresh verification is decayed away.**  Between the read and the write of a
pass the user's second report is verified; when all is done, the user was
verified this instant and stands at half of what was earned. -/
theorem fresh_verification_decayed :
    let s := run (step (demoGateway .ideal)) (Sys.init 0 [])
      (firstVerified ++ passReads ++ secondVerified ++ [.decayUpdate 0])
    s.passes = [[]] ∧ ¬ EarnedInGrace (demoGateway .ideal).decay s := by
  obtain ⟨hdb, hnow, hpasses⟩ := run_passReads
  dsimp only
  rw [run_append, run_append (step _) _ _ secondVerified]
  generalize run _ _ (firstVerified ++ passReads) = s at hdb hnow hpasses
  rw [secondVerified, run_cons (step _) s, step_demoReport, hdb, hnow]
  obtain ⟨hdb', hnow', hpasses'⟩ := run_demoVotes .ideal openRules hundredDays (by decide)
    [6, 7, 8, 10, 11] (by decide)
    (s.commit (demoCreate .ideal (hundredDays * 1000000) firstDb "q"))
    ((Sys.commit_now _ _).trans hnow)
  generalize run _ _ ([6, 7, 8, 10, 11].map _) = s' at hdb' hnow' hpasses'
  rw [Sys.commit_db, ← secondDb_eq] at hdb'
  rw [Sys.commit_passes, hpasses] at hpasses'
  rw [Sys.commit_now, hnow] at hnow'
  have hpass : s'.passes[0]? = some [staleRow] := by
    rw [hpasses']
    rfl
  obtain ⟨hfinal, hclock, hdone⟩ := step_decayUpdate (demoGateway .ideal) hpass
  rw [hdb'] at hfinal
  rw [hnow'] at hclock
  rw [hpasses'] at hdone
  rw [run_cons, run_nil]
  generalize step _ s' _ = final at hfinal hclock hdone
  refine ⟨hdone, fun h => ?_⟩
  obtain ⟨u, hu, hstand⟩ := Option.map_eq_some_iff.1 staleRow_secondDb
  simp only [Prod.mk.injEq] at hstand
  obtain ⟨hscore, heff, _, hver⟩ := hstand
  have hgrace : (demoGateway .ideal).decay.graceStart final.now ≤ (hundredDays : ℤ) * 1000000 := by
    rw [hclock]
    decide
  have hearned := (h (demoKey 9) u _ (hfinal ▸ hu) hver hgrace).1
  rw [hscore, heff] at hearned
  cases hearned

/-- Without the second verification the write is fresh. -/
theorem earned_in_grace_one_pass :
    EarnedInGrace (demoGateway .ideal).decay (run (step (demoGateway .ideal)) (Sys.init 0 [])
      (firstVerified ++ passReads ++ [.decayUpdate 0])) := by
  refine earned_in_grace (demoGateway .ideal) 0 [] _ fun e he => ?_
  rw [events_append, List.mem_append] at he
  rcases he with he | he
  · -- no write before the last action
    obtain ⟨bs, cs, has, _, _⟩ := mem_events he
    have hact : e.act ∈ firstVerified ++ passReads := by
      rw [has]
      simp
    have hkind : ∀ a ∈ firstVerified ++ passReads, ∀ i, a ≠ .decayUpdate i := by
      intro a ha i
      simp only [firstVerified, passReads, List.mem_append, List.mem_cons, List.mem_map,
        List.not_mem_nil, or_false] at ha
      rintro rfl
      rcases ha with (ha | ⟨n, _, ha⟩) | ha | ha <;> cases ha
    unfold FreshUpdate
    split
    · rename_i i h
      exact absurd h (hkind _ hact i)
    · trivial
  · obtain ⟨hdb, _, hpasses⟩ := run_passReads
    obtain rfl := List.mem_singleton.1 he
    intro r rest hp u hu
    dsimp only at hp hu
    rw [hpasses] at hp
    obtain ⟨rfl, _⟩ := List.cons.inj (Option.some.inj hp)
    rw [hdb] at hu
    have hscore : (firstDb.users.find? (demoKey 9)).map User.reputation_score = some 10 := by
      decide +kernel
    rw [show staleRow.nostr_pubkey = demoKey 9 from rfl] at hu
    rw [hu] at hscore
    exact Option.some.inj hscore

end Ledger
end SentinelMesh
