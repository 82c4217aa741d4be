/-
# What each table holds after an action

The effects of `Commit`, table by table, in the form the invariants ask for:
which row a key has afterwards.  A vote adds one row to `report_votes`, moves
one row of `community_reports` (`Report.conclude`) and at most two of `users`,
the voter's and the author's (`User.conclude`).

The committed states only grow by the current one (`past_step`), so what every
step establishes of the current tables holds of all of them (`Sys.Always.step`).
-/

import SentinelMesh.Ledger.System

namespace SentinelMesh
namespace Ledger

open Lib

/-- A report's row after the conclusion of a vote. -/
def Report.conclude (r : Report) (now : Timestamp) : Option ReportStatus → Report
  | none => r
  | some s => { r with status := s, updated_at := now }

/-- The author's row after the conclusion of a vote. -/
def User.conclude (u : User) (now : Timestamp) : Option ReportStatus → User
  | none => u
  | some s => u.settle now s

section Voted

variable (s : Sys) (body : CastVoteBody) (sch : Schedule) (author : Pubkey) (b : Ballot)
  (new_status : Option ReportStatus)

@[simp] theorem voted_votes : (s.voted body sch author b new_status).votes =
    s.db.votes.insert (body.report_id, body.voter_pubkey)
      (b.row (s.began sch) body.voter_nostr_event.id) := by
  cases new_status <;> rfl

@[simp] theorem voted_authors : (s.voted body sch author b new_status).authors = s.db.authors := by
  cases new_status <;> rfl

@[simp] theorem voted_vouches : (s.voted body sch author b new_status).vouches = s.db.vouches := by
  cases new_status <;> rfl

/-- A vote moves one report. -/
theorem voted_reports : (s.voted body sch author b new_status).reports =
    s.db.reports.modify body.report_id fun r =>
      (r.tally (s.began sch) b.deltas).conclude (s.began sch) new_status := by
  cases new_status with
  | none => rfl
  | some st =>
      exact Table.modify_modify s.db.reports body.report_id (fun r => r.tally (s.began sch) b.deltas)
        fun r => { r with status := st, updated_at := s.began sch }

/-- A vote touches the voter and concludes on the author. -/
theorem find?_voted_users (pk : Pubkey) :
    (s.voted body sch author b new_status).users.find? pk =
      if pk = author then
        ((s.db.touchVoter (s.began sch) body.voter_pubkey).users.find? pk).map fun u =>
          u.conclude (s.began sch) new_status
      else (s.db.touchVoter (s.began sch) body.voter_pubkey).users.find? pk := by
  cases new_status with
  | none =>
      have hid : ∀ o : Option User, o.map (fun u => u.conclude (s.began sch) none) = o := by
        intro o
        cases o <;> rfl
      rw [hid, ite_self]
      rfl
  | some st =>
      refine (Table.find?_modify _ _ _ _).trans ?_
      split_ifs with h
      · rw [h]
        rfl
      · rfl

/-- A user's row after a vote is the old one or a new voter's, up to the time of
activity, and concluded if the user is the author. -/
theorem voted_user_cases {pk : Pubkey} {u : User}
    (h : (s.voted body sch author b new_status).users.find? pk = some u) :
    ∃ u₀ t, ((s.db.users.find? pk = some u₀) ∨
        (s.db.users.find? pk = none ∧ u₀ = newVoter (s.began sch))) ∧
      u = if pk = author then { u₀ with last_active := t }.conclude (s.began sch) new_status
        else { u₀ with last_active := t } := by
  have hold : ∀ w, (s.db.touchVoter (s.began sch) body.voter_pubkey).users.find? pk = some w →
      ∃ u₀ t, ((s.db.users.find? pk = some u₀) ∨
        (s.db.users.find? pk = none ∧ u₀ = newVoter (s.began sch))) ∧
        w = { u₀ with last_active := t } := by
    intro w hw
    rw [find?_touchVoter] at hw
    split_ifs at hw with hpk
    · subst hpk
      obtain rfl := Option.some.inj hw
      cases hu : s.db.users.find? body.voter_pubkey with
      | none => exact ⟨_, _, Or.inr ⟨rfl, rfl⟩, rfl⟩
      | some u₀ => exact ⟨u₀, _, Or.inl rfl, rfl⟩
    · exact ⟨w, w.last_active, Or.inl hw, rfl⟩
  rw [find?_voted_users] at h
  split_ifs at h ⊢ with hpk
  · obtain ⟨w, hw, rfl⟩ := Option.map_eq_some_iff.1 h
    obtain ⟨u₀, t, hu, rfl⟩ := hold w hw
    exact ⟨u₀, t, hu, rfl⟩
  · exact hold u h

end Voted

/-- The voter of a vote that commits had none on the report. -/
theorem Voted.new_vote {gw : Gateway} {s : Sys} {body : CastVoteBody} {rules : Rules}
    {sch : Schedule} {author : Pubkey} {b : Ballot} {o : Option ReportStatus}
    (hv : Voted gw s body rules sch author b o) :
    s.db.votes.find? (body.report_id, body.voter_pubkey) = none :=
  hv.cast.new_voter

@[simp] theorem status_tally (r : Report) (now : Timestamp) (d : ℤ × ℤ × ℤ) :
    (r.tally now d).status = r.status := rfl

/-- The decided status is an edge of the status graph from the report's. -/
theorem decision_eq_some {peek : Db → Peek} {now : Timestamp} {report_id : Uuid}
    {roots : List Pubkey} {gate : Bool} {db : Db} {b : Ballot} {st : ReportStatus}
    (h : decision peek now report_id roots gate db b = some st) :
    computeNewStatus b.report.status (b.report.tally now b.deltas).consensus_score
      (b.report.tally now b.deltas).confirmation_count (b.report.tally now b.deltas).denial_count
      (wrap 32 (establishedConfirmations db.votes (peek db).users (peek db).vouches now roots
        report_id)) gate = some st := h

/-- A decay changes one user's effective score and tier. -/
theorem find?_decay (db : Db) (cfg : DecayConfig) (r : DecayRow) (pk : Pubkey) :
    (db.decay cfg r).users.find? pk = if pk = r.nostr_pubkey then
      (db.users.find? r.nostr_pubkey).map fun u => u.decay (r.effective cfg)
      else db.users.find? pk :=
  Table.find?_modify ..

/-- The committed states after an action. -/
theorem past_step (gw : Gateway) (s : Sys) (a : Act) :
    ((step gw s a).past = s.past ∧ (step gw s a).db = s.db) ∨
      (step gw s a).past = s.db :: s.past := by
  cases a with
  | tick d => exact Or.inl ⟨rfl, rfl⟩
  | createReport id input ago => exact Or.inr rfl
  | vote body rules sch => exact Or.inr rfl
  | postVouch body roots sch => exact Or.inr rfl
  | deleteVouch vouchee body sch => exact Or.inr rfl
  | decayRead =>
      refine Or.inl ?_
      unfold step exec
      dsimp only
      split <;> exact ⟨rfl, rfl⟩
  | decayUpdate i =>
      unfold step exec
      dsimp only
      split
      · exact Or.inr rfl
      · exact Or.inl ⟨rfl, rfl⟩

/-- The clock never goes back. -/
theorem now_le_step (gw : Gateway) (s : Sys) (a : Act) : s.now ≤ (step gw s a).now := by
  cases a with
  | tick d =>
      exact Int.le_add_of_nonneg_right (Int.natCast_nonneg d)
  | createReport id input ago => exact le_refl s.now
  | vote body rules sch => exact le_refl s.now
  | postVouch body roots sch => exact le_refl s.now
  | deleteVouch vouchee body sch => exact le_refl s.now
  | decayRead =>
      unfold step exec
      dsimp only
      split <;> exact le_refl _
  | decayUpdate i =>
      unfold step exec
      dsimp only
      split <;> exact le_refl _

/-- The passes under way after an action: as they were, one more, or one with a
row less. -/
theorem passes_step (gw : Gateway) (s : Sys) (a : Act) :
    (step gw s a).passes = s.passes ∨
    ((step gw s a).passes = s.passes ++ [decayRows gw.decay s.now s.db.users] ∧
      (step gw s a).db = s.db) ∨
    ∃ i r rest, s.passes[i]? = some (r :: rest) ∧ (step gw s a).passes = s.passes.set i rest := by
  cases a with
  | tick d => exact Or.inl rfl
  | createReport id input ago => exact Or.inl rfl
  | vote body rules sch => exact Or.inl rfl
  | postVouch body roots sch => exact Or.inl rfl
  | deleteVouch vouchee body sch => exact Or.inl rfl
  | decayRead =>
      unfold step exec
      dsimp only
      split
      · exact Or.inr (Or.inl ⟨rfl, rfl⟩)
      · exact Or.inl rfl
  | decayUpdate i =>
      unfold step exec
      dsimp only
      split
      · rename_i r rest hp
        exact Or.inr (Or.inr ⟨i, r, rest, hp, rfl⟩)
      · exact Or.inl rfl

/-- A write of a decay pass. -/
theorem step_decayUpdate (gw : Gateway) {s : Sys} {i : ℕ} {r : DecayRow} {rest : List DecayRow}
    (hp : s.passes[i]? = some (r :: rest)) :
    (step gw s (.decayUpdate i)).db = s.db.decay gw.decay r ∧
      (step gw s (.decayUpdate i)).now = s.now ∧
      (step gw s (.decayUpdate i)).passes = s.passes.set i rest := by
  unfold step exec
  dsimp only
  rw [hp]
  exact ⟨rfl, rfl, rfl⟩

/-- `P` holds of the current tables and of all committed before. -/
def Sys.Always (s : Sys) (P : Db → Prop) : Prop := P s.db ∧ ∀ db ∈ s.past, P db

theorem Sys.Always.view {s : Sys} {P : Db → Prop} (h : s.Always P) (k : ℕ) : P (s.view k) := by
  have hall : ∀ db ∈ s.db :: s.past, P db := List.forall_mem_cons.2 h
  unfold Sys.view
  rw [List.getD_eq_getElem?_getD]
  cases hk : (s.db :: s.past)[k]? with
  | none => exact h.1
  | some db => exact hall db (List.mem_of_getElem? hk)

/-- What a step establishes of the current tables it keeps of all. -/
theorem Sys.Always.step {gw : Gateway} {s : Sys} {a : Act} {P : Db → Prop} (h : s.Always P)
    (hdb : P (step gw s a).db) : (Ledger.step gw s a).Always P := by
  refine ⟨hdb, ?_⟩
  rcases past_step gw s a with ⟨hp, _⟩ | hp
  · rw [hp]
    exact h.2
  · rw [hp]
    exact List.forall_mem_cons.2 h

end Ledger
end SentinelMesh
