/-
# The observatory

`routes/observatory.rs` and `trust/accountability.rs`: the list of vouchers that an operator reviews,
with what became of the reports of the keys they vouched for, and the two columns of `users` that the
operator sets.  Nothing here is enforced by itself.

Vouches are only ever added or revoked, so a key that was vouched for twice has two rows; the query
takes each pair of keys once.  What it adds up are counters of users, and these count reports
(`Credited`), also beside the operator's updates (`credited_step`).  So every figure of the list is a
number of things that happened (`listed_run`): keys that were vouched for, reports of theirs that were
ever verified, reports of theirs that are rejected, each once.

The query orders by two columns and takes 500 rows; where rows are equal in both, their order is
PostgreSQL's, and so is the choice of the last ones.
-/

import SentinelMesh.Ledger.Credit
import SentinelMesh.Lib.Groups
import SentinelMesh.Lib.Since
import SentinelMesh.Routes.KeyCase

namespace SentinelMesh
namespace Ledger
namespace Observatory

open Lib

/-! ### The route -/

/-- `QualityComponents`; the ratio is the quotient before it is rounded to a double. -/
structure QualityComponents where
  vouchee_count : ℤ
  accurate_count : ℤ
  rejected_count : ℤ
  quality_ratio : ℚ
  low_confidence : Bool
  deriving DecidableEq

/-- `quality_components`. -/
def qualityComponents (vouchee_count accurate rejected : ℤ) (min_sample : ℕ) : QualityComponents :=
  let denom := max (accurate + rejected) 1
  { vouchee_count
    accurate_count := accurate
    rejected_count := rejected
    quality_ratio := accurate / denom
    low_confidence := decide (vouchee_count < min_sample) }

/-- What `vouchers` answers of one voucher. -/
structure Entry where
  voucher_pubkey : Pubkey
  quality : QualityComponents
  vouching_suspended : Bool
  vouch_budget_override : Option ℤ
  deriving DecidableEq

/-- The two keys of a row. -/
def pair (v : Vouch) : Pubkey × Pubkey := (v.voucher_pubkey, v.vouchee_pubkey)

/-- `SELECT DISTINCT voucher_pubkey, vouchee_pubkey FROM vouches`. -/
def pairs (vouches : List Vouch) : List (Pubkey × Pubkey) := (vouches.map pair).dedup

/-- The columns that an operator sets. -/
def settings (u : User) : Bool × Option ℤ := (u.vouching_suspended, u.vouch_budget_override)

/-- They as the outer join reads them: a key may have no row. -/
def flags (users : Table Pubkey User) (pk : Pubkey) : Bool × Option ℤ :=
  ((users.find? pk).map settings).getD (false, none)

/-- The row of a group of pairs with one voucher, and what the route makes of it. -/
def entry (min_sample : ℕ) (users : Table Pubkey User) (voucher : Pubkey)
    (group : List (Pubkey × Pubkey)) : Entry :=
  let vouchees := group.map Prod.snd
  let found := vouchees.filterMap users.find?
  { voucher_pubkey := voucher
    quality := qualityComponents vouchees.dedup.length (found.map User.accurate_reports).sum
      (found.map User.rejected_reports).sum min_sample
    vouching_suspended := (flags users voucher).1
    vouch_budget_override := (flags users voucher).2 }

/-- The rows of the query before they are ordered. -/
def grouped (min_sample : ℕ) (db : Db) : List Entry :=
  (Groups.groups Prod.fst (pairs db.vouches)).rows.map fun r => entry min_sample db.users r.1 r.2

/-- `ORDER BY rejected DESC, vouchee_count DESC`. -/
def Entry.Before (e e' : Entry) : Prop :=
  e'.quality.rejected_count < e.quality.rejected_count ∨
    e.quality.rejected_count = e'.quality.rejected_count ∧
      e'.quality.vouchee_count ≤ e.quality.vouchee_count

/-- The response of `vouchers` may be this list. -/
def IsListing (min_sample : ℕ) (db : Db) (vouchers : List Entry) : Prop :=
  ∃ rows : List Entry, rows.Perm (grouped min_sample db) ∧ rows.Pairwise Entry.Before ∧
    vouchers = rows.take 500

/-- An `UPDATE users SET .. WHERE nostr_pubkey = ..` that has to find a row. -/
def updateUser (s : Sys) (pubkey : Pubkey) (f : User → User) : Sys × Except AppError Unit :=
  if (s.db.users.find? pubkey).isSome then
    (s.commit { s.db with users := s.db.users.modify pubkey f }, .ok ())
  else (s, .error .notFound)

/-- `set_suspended`. -/
def setSuspended (s : Sys) (pubkey : Pubkey) (val : Bool) : Sys × Except AppError Unit :=
  updateUser s pubkey fun u => { u with vouching_suspended := val }

/-- `suspend`. -/
def suspend (s : Sys) (pubkey : Pubkey) : Sys × Except AppError Unit := setSuspended s pubkey true

/-- `unsuspend`. -/
def unsuspend (s : Sys) (pubkey : Pubkey) : Sys × Except AppError Unit := setSuspended s pubkey false

/-- `set_budget`. -/
def setBudget (s : Sys) (pubkey : Pubkey) (budget : Option ℤ) : Sys × Except AppError Unit :=
  if budget.any fun b => decide (b < 0) then (s, .error (.badRequest "budget must be >= 0"))
  else updateUser s pubkey fun u => { u with vouch_budget_override := budget }

/-! ### The ledger with its operator -/

/-- What can happen: the ledger moves, or the operator sends a request. -/
inductive Act
  | ledger (a : Ledger.Act)
  | suspend (pubkey : Pubkey)
  | unsuspend (pubkey : Pubkey)
  | setBudget (pubkey : Pubkey) (budget : Option ℤ)

/-- An action and its response. -/
def exec (gw : Gateway) (s : Sys) : Act → Sys × Except AppError Unit
  | .ledger a => Ledger.exec gw s a
  | .suspend pubkey => Observatory.suspend s pubkey
  | .unsuspend pubkey => Observatory.unsuspend s pubkey
  | .setBudget pubkey budget => Observatory.setBudget s pubkey budget

/-- The state after an action. -/
def step (gw : Gateway) (s : Sys) (a : Act) : Sys := (exec gw s a).1

/-- The event is the action and succeeded. -/
def Done (gw : Gateway) (a : Act) (e : Event Sys Act) : Prop :=
  e.act = a ∧ (exec gw e.pre a).2 = .ok ()

/-! ### What the operator set -/

@[simp] theorem settings_conclude (u : User) (now : Timestamp) (o : Option ReportStatus) :
    settings (u.conclude now o) = settings u := by
  cases o with
  | none => rfl
  | some st => cases st <;> rfl

/-- **The ledger never touches these columns**, and the rows it makes have the defaults. -/
theorem flags_ledger (gw : Gateway) (s : Sys) (a : Ledger.Act) (pk : Pubkey) :
    flags (Ledger.step gw s a).db.users pk = flags s.db.users pk := by
  have hcommit := commit_step gw s a
  generalize (Ledger.step gw s a).db = db at hcommit ⊢
  unfold flags
  cases hcommit with
  | idle => rfl
  | create id input ago =>
      show (((s.db.countReport _ _).find? pk).map settings).getD _ = _
      rw [find?_countReport]
      split_ifs with hpk
      · subst hpk
        cases s.db.users.find? input.nostr_pubkey <;> rfl
      · rfl
  | vote body rules sch author b o =>
      have hconclude : ∀ u : Option User,
          (u.map fun u => u.conclude (s.began sch) o).map settings = u.map settings := by
        intro u
        cases u with
        | none => rfl
        | some u => exact congrArg some (settings_conclude u _ o)
      have htouch : (((s.db.touchVoter (s.began sch) body.voter_pubkey).users.find? pk).map
          settings).getD (false, none) = ((s.db.users.find? pk).map settings).getD (false, none) := by
        rw [find?_touchVoter]
        split_ifs with hpk
        · subst hpk
          cases s.db.users.find? body.voter_pubkey <;> rfl
        · rfl
      rw [find?_voted_users]
      split_ifs
      · rw [hconclude, htouch]
      · exact htouch
  | vouch => rfl
  | revoke => rfl
  | decay i r rest =>
      rw [find?_decay]
      split_ifs with hpk
      · subst hpk
        cases s.db.users.find? r.nostr_pubkey <;> rfl
      · rfl

/-- What an action asks for the columns of a key. -/
def change (pk : Pubkey) (f : Bool × Option ℤ) : Act → Bool × Option ℤ
  | .ledger _ => f
  | .suspend pubkey => if pk = pubkey then (true, f.2) else f
  | .unsuspend pubkey => if pk = pubkey then (false, f.2) else f
  | .setBudget pubkey budget => if pk = pubkey then (f.1, budget) else f

/-- An operator's update of a row that is there changes its columns and no other key's. -/
theorem flags_updateUser (s : Sys) (pubkey : Pubkey) {f : User → User}
    {g : Bool × Option ℤ → Bool × Option ℤ} (hf : ∀ u, settings (f u) = g (settings u)) (pk : Pubkey) :
    ((updateUser s pubkey f).2 = .ok () ∧ flags (updateUser s pubkey f).1.db.users pk =
        if pk = pubkey then g (flags s.db.users pk) else flags s.db.users pk) ∨
      (updateUser s pubkey f).2 ≠ .ok () ∧ (updateUser s pubkey f).1 = s := by
  unfold updateUser
  cases hu : s.db.users.find? pubkey with
  | none => exact Or.inr ⟨by simp, by simp⟩
  | some u =>
      refine Or.inl ⟨rfl, ?_⟩
      show flags (s.db.users.modify pubkey f) pk = _
      unfold flags
      rw [Table.find?_modify]
      split_ifs with hpk
      · subst hpk
        rw [hu]
        exact hf u
      · rfl

variable {gw : Gateway} {s : Sys}

/-- **One step** makes of the columns what it asks for if it succeeds, and leaves them otherwise. -/
theorem flags_step (gw : Gateway) (s : Sys) (a : Act) (pk : Pubkey) :
    ((exec gw s a).2 = .ok () ∧
        flags (step gw s a).db.users pk = change pk (flags s.db.users pk) a) ∨
      (exec gw s a).2 ≠ .ok () ∧ flags (step gw s a).db.users pk = flags s.db.users pk := by
  cases a with
  | ledger a => exact (em _).imp (⟨·, flags_ledger gw s a pk⟩) (⟨·, flags_ledger gw s a pk⟩)
  | suspend pubkey =>
      refine (flags_updateUser s pubkey (g := fun f => (true, f.2)) ?_ pk).imp id fun h => ⟨h.1, ?_⟩
      · exact fun _ => rfl
      · exact congrArg (fun s : Sys => flags s.db.users pk) h.2
  | unsuspend pubkey =>
      refine (flags_updateUser s pubkey (g := fun f => (false, f.2)) ?_ pk).imp id fun h => ⟨h.1, ?_⟩
      · exact fun _ => rfl
      · exact congrArg (fun s : Sys => flags s.db.users pk) h.2
  | setBudget pubkey budget =>
      by_cases hneg : (budget.any fun b => decide (b < 0)) = true
      · have hexec : exec gw s (.setBudget pubkey budget) =
            (s, .error (.badRequest "budget must be >= 0")) := if_pos hneg
        refine Or.inr ⟨?_, ?_⟩
        · rw [hexec]
          simp
        · unfold step
          rw [hexec]
      · have hexec : exec gw s (.setBudget pubkey budget) =
            updateUser s pubkey fun u => { u with vouch_budget_override := budget } := if_neg hneg
        unfold step
        rw [hexec]
        refine (flags_updateUser s pubkey (g := fun f => (f.1, budget)) ?_ pk).imp id fun h => ⟨h.1, ?_⟩
        · exact fun _ => rfl
        · exact congrArg (fun s : Sys => flags s.db.users pk) h.2

theorem done_iff {a a' : Act} {s' : Sys} (hok : (exec gw s a).2 = .ok ()) :
    Done gw a' ⟨s, a, s'⟩ ↔ a = a' := by
  refine ⟨fun h => h.1, ?_⟩
  rintro rfl
  exact ⟨rfl, hok⟩

theorem not_done {a : Act} (hno : (exec gw s a).2 ≠ .ok ()) (a' : Act) (s' : Sys) :
    ¬ Done gw a' ⟨s, a, s'⟩ := by
  rintro ⟨hact, hok⟩
  cases hact
  exact hno hok

/-- A key is suspended after a step that suspends it, or if it was and is not released. -/
theorem suspended_step (a : Act) (pk : Pubkey) :
    (flags (step gw s a).db.users pk).1 = true ↔ Done gw (.suspend pk) ⟨s, a, step gw s a⟩ ∨
      (flags s.db.users pk).1 = true ∧ ¬ Done gw (.unsuspend pk) ⟨s, a, step gw s a⟩ := by
  rcases flags_step gw s a pk with ⟨hok, hflags⟩ | ⟨hno, hflags⟩
  · rw [hflags, done_iff hok, done_iff hok]
    cases a with
    | ledger a => simp [change]
    | suspend pubkey => rcases eq_or_ne pk pubkey with rfl | hpk <;> simp [change, *, Ne.symm]
    | unsuspend pubkey => rcases eq_or_ne pk pubkey with rfl | hpk <;> simp [change, *, Ne.symm]
    | setBudget pubkey budget => rcases eq_or_ne pk pubkey with rfl | hpk <;> simp [change, *]
  · rw [hflags]
    simp [not_done hno]

/-- A key has a budget of its own after a step that sets it, or if it had and none is set. -/
theorem budget_step (a : Act) (pk : Pubkey) (b : ℤ) :
    (flags (step gw s a).db.users pk).2 = some b ↔
      Done gw (.setBudget pk (some b)) ⟨s, a, step gw s a⟩ ∨
      (flags s.db.users pk).2 = some b ∧ ∀ b', ¬ Done gw (.setBudget pk b') ⟨s, a, step gw s a⟩ := by
  rcases flags_step gw s a pk with ⟨hok, hflags⟩ | ⟨hno, hflags⟩
  · rw [hflags]
    simp only [done_iff hok]
    cases a with
    | ledger a => simp [change]
    | suspend pubkey => rcases eq_or_ne pk pubkey with rfl | hpk <;> simp [change, *]
    | unsuspend pubkey => rcases eq_or_ne pk pubkey with rfl | hpk <;> simp [change, *]
    | setBudget pubkey budget =>
        rcases eq_or_ne pk pubkey with rfl | hpk <;> simp [change, *, Ne.symm]
  · rw [hflags]
    simp [not_done hno]

/-! ### The counters -/

/-- What the ledger did. -/
def ledgerEvent (e : Event Sys Act) : Option (Event Sys Ledger.Act) :=
  match e.act with
  | .ledger a => some ⟨e.pre, a, e.post⟩
  | _ => none

/-- The events of the ledger among those of a run. -/
def ledgerEvents (es : List (Event Sys Act)) : List (Event Sys Ledger.Act) := es.filterMap ledgerEvent

/-- **An operator's update keeps the accounts**: it changes no counter. -/
theorem credited_updateUser {es : List (Event Sys Ledger.Act)} (h : Credited s es) (pubkey : Pubkey)
    {f : User → User} (hf : ∀ u, (f u).reputation_score = u.reputation_score ∧
      (f u).accurate_reports = u.accurate_reports ∧ (f u).rejected_reports = u.rejected_reports ∧
      (f u).total_reports = u.total_reports) : Credited (updateUser s pubkey f).1 es := by
  unfold updateUser
  split_ifs
  · have hfind : ∀ pk, (s.db.users.modify pubkey f).find? pk =
        if pk = pubkey then (s.db.users.find? pubkey).map f else s.db.users.find? pk :=
      fun pk => Table.find?_modify ..
    refine ⟨⟨⟨fun id author hrow => hrow, ?_⟩, ?_⟩, h.entered, fun pk u hu => ?_⟩
    · intro db hdb id author hrow
      rcases List.mem_cons.1 hdb with rfl | hdb
      · exact hrow
      · exact h.linked.1.2 db hdb id author hrow
    · refine ⟨h.linked.2.authored, fun id author hrow => ?_, h.linked.2.on_report, h.linked.2.not_own⟩
      have hknown := h.linked.2.known id author hrow
      show ((s.db.users.modify pubkey f).find? author.nostr_pubkey).isSome
      rw [hfind]
      split_ifs with hpk
      · rwa [Option.isSome_map, ← hpk]
      · exact hknown
    · have hu : (s.db.users.modify pubkey f).find? pk = some u := hu
      rw [hfind] at hu
      split_ifs at hu with hpk
      · subst hpk
        obtain ⟨u₀, hu₀, rfl⟩ := Option.map_eq_some_iff.1 hu
        exact accounts_congr (h.users pk u₀ hu₀) rfl rfl rfl (hf u₀)
      · exact accounts_congr (h.users pk u hu) rfl rfl rfl ⟨rfl, rfl, rfl, rfl⟩
  · exact h

/-- **The counters count reports**, whatever the operator does between. -/
theorem credited_observed_step (a : Act) {es : List (Event Sys Act)} (h : Credited s (ledgerEvents es)) :
    Credited (step gw s a) (ledgerEvents (es ++ [⟨s, a, step gw s a⟩])) := by
  unfold ledgerEvents at h ⊢
  rw [List.filterMap_append]
  cases a with
  | ledger a => exact credited_step a h
  | suspend pubkey =>
      rw [show [_].filterMap ledgerEvent = [] from rfl, List.append_nil]
      exact credited_updateUser h pubkey fun _ => ⟨rfl, rfl, rfl, rfl⟩
  | unsuspend pubkey =>
      rw [show [_].filterMap ledgerEvent = [] from rfl, List.append_nil]
      exact credited_updateUser h pubkey fun _ => ⟨rfl, rfl, rfl, rfl⟩
  | setBudget pubkey budget =>
      rw [show [_].filterMap ledgerEvent = [] from rfl, List.append_nil]
      show Credited (setBudget s pubkey budget).1 _
      unfold setBudget
      split_ifs
      · exact h
      · exact credited_updateUser h pubkey fun _ => ⟨rfl, rfl, rfl, rfl⟩

/-! ### The vouches -/

/-- Who vouched for whom, if the event is a vouch that was accepted. -/
def accepted (gw : Gateway) (e : Event Sys Act) : Option (Pubkey × Pubkey) :=
  match e.act, (exec gw e.pre e.act).2 with
  | .ledger (.postVouch body _ _), .ok () => some (body.voucher_pubkey, body.vouchee_pubkey)
  | _, _ => none

/-- The keys a voucher has vouched for, as often as it has. -/
def vouchedFor (gw : Gateway) (es : List (Event Sys Act)) (voucher : Pubkey) : List Pubkey :=
  ((es.filterMap (accepted gw)).filter fun p => decide (p.1 = voucher)).map Prod.snd

theorem accepted_eq_some {body : IssueVouchBody} {roots : List Pubkey} {sch : Schedule} {s' : Sys}
    (hok : (exec gw s (.ledger (.postVouch body roots sch))).2 = .ok ()) :
    accepted gw ⟨s, .ledger (.postVouch body roots sch), s'⟩ =
      some (body.voucher_pubkey, body.vouchee_pubkey) := by
  unfold accepted
  dsimp only
  rw [hok]

/-- A vouch that is accepted is a request that succeeded. -/
theorem accepted_eq_none {a : Act} {s' : Sys}
    (h : ∀ body roots sch, a = .ledger (.postVouch body roots sch) → (exec gw s a).2 ≠ .ok ()) :
    accepted gw ⟨s, a, s'⟩ = none := by
  unfold accepted
  split
  · rename_i body roots sch hact hok
    exact absurd hok (h body roots sch hact)
  · rfl

/-- **One step** adds the pair of an accepted vouch, and no revocation takes one away. -/
theorem pairs_step (gw : Gateway) (s : Sys) (a : Act) :
    (step gw s a).db.vouches.map pair =
      s.db.vouches.map pair ++ (accepted gw ⟨s, a, step gw s a⟩).toList := by
  have hkept : ∀ pubkey f, (updateUser s pubkey f).1.db.vouches = s.db.vouches := by
    intro pubkey f
    unfold updateUser
    split_ifs <;> rfl
  cases a with
  | suspend pubkey => exact (congrArg (List.map pair) (hkept pubkey _)).trans (List.append_nil _).symm
  | unsuspend pubkey => exact (congrArg (List.map pair) (hkept pubkey _)).trans (List.append_nil _).symm
  | setBudget pubkey budget =>
      have hstep : (step gw s (.setBudget pubkey budget)).db.vouches = s.db.vouches := by
        show (setBudget s pubkey budget).1.db.vouches = _
        unfold setBudget
        split_ifs
        · rfl
        · exact hkept pubkey _
      exact (congrArg (List.map pair) hstep).trans (List.append_nil _).symm
  | ledger a =>
      show (Ledger.step gw s a).db.vouches.map pair = _
      by_cases hissued : ∃ body roots sch, a = .postVouch body roots sch ∧
          (Ledger.exec gw s a).2 = .ok ()
      · obtain ⟨body, roots, sch, rfl, hok⟩ := hissued
        obtain ⟨_, _, _, basis, hrows⟩ := KeyCase.postVouch_issued hok
        have hrows : (Ledger.step gw s (.postVouch body roots sch)).db.vouches = _ := hrows
        rw [hrows, accepted_eq_some hok, List.map_append]
        rfl
      · have hnone : accepted gw ⟨s, .ledger a, step gw s (.ledger a)⟩ = none := by
          refine accepted_eq_none fun body roots sch hact hok => hissued ?_
          cases hact
          exact ⟨body, roots, sch, rfl, hok⟩
        rw [hnone, Option.toList_none, List.append_nil]
        rcases KeyCase.vouches_step gw s a with hsame | hpost | ⟨now, voucher, vouchee, hrevoked⟩
        · rw [hsame]
        · exact absurd hpost hissued
        · rw [hrevoked]
          -- a revocation writes `revoked_at` alone
          simp only [revokeVouch, List.map_map]
          refine List.map_congr_left fun v _ => ?_
          simp only [Function.comp]
          split <;> rfl

/-- **The rows are the vouches that were accepted**, in order. -/
theorem pairs_run (gw : Gateway) (start : Timestamp) (linked : List Uuid) (as : List Act) :
    (run (step gw) (Sys.init start linked) as).db.vouches.map pair =
      (events (step gw) (Sys.init start linked) as).filterMap (accepted gw) := by
  refine run_events_induction (P := fun s es => s.db.vouches.map pair = es.filterMap (accepted gw)) rfl
    (fun s es a h => ?_) as
  rw [pairs_step, h, List.filterMap_append]
  congr 1

/-- The pairs of a voucher, each once. -/
theorem mem_vouchees_iff {es : List (Event Sys Act)} (hpairs : s.db.vouches.map pair =
      es.filterMap (accepted gw)) {r : Pubkey × List (Pubkey × Pubkey)}
    (hr : r ∈ (Groups.groups Prod.fst (pairs s.db.vouches)).rows) (k : Pubkey) :
    k ∈ r.2.map Prod.snd ↔ k ∈ vouchedFor gw es r.1 := by
  unfold vouchedFor
  simp only [List.mem_map, List.mem_filter, decide_eq_true_iff, Groups.mem_row_iff hr, ← hpairs]
  unfold pairs
  simp only [List.mem_dedup, List.mem_map]

/-- Who has vouched has a group. -/
theorem exists_group {es : List (Event Sys Act)} (hpairs : s.db.vouches.map pair =
      es.filterMap (accepted gw)) {pk : Pubkey} (h : vouchedFor gw es pk ≠ []) :
    ∃ r ∈ (Groups.groups Prod.fst (pairs s.db.vouches)).rows, r.1 = pk := by
  unfold vouchedFor at h
  rw [← hpairs] at h
  obtain ⟨p, hp⟩ := List.exists_mem_of_ne_nil _ fun hnil => h (congrArg (List.map Prod.snd) hnil)
  have hfilter : (pairs s.db.vouches).filter (fun p => decide (p.1 = pk)) ≠ [] := by
    refine List.ne_nil_of_mem (a := p) ?_
    unfold pairs
    rw [List.mem_filter, List.mem_dedup]
    exact List.mem_filter.1 hp
  have hfind := Groups.find?_groups Prod.fst (pairs s.db.vouches) pk
  rw [if_neg hfilter] at hfind
  exact ⟨_, Table.find?_eq_some_iff.1 hfind, rfl⟩

theorem nodup_vouchees {vouches : List Vouch} {r : Pubkey × List (Pubkey × Pubkey)}
    (hr : r ∈ (Groups.groups Prod.fst (pairs vouches)).rows) : (r.2.map Prod.snd).Nodup := by
  have hfind := Groups.find?_groups Prod.fst (pairs vouches) r.1
  rw [Table.find?_eq_some_iff.2 hr] at hfind
  split_ifs at hfind
  have hnodup : r.2.Nodup := by
    rw [Option.some.inj hfind]
    exact (List.nodup_dedup _).filter _
  refine hnodup.map_on fun p hp q hq hpq => Prod.ext ?_ hpq
  rw [((Groups.mem_row_iff hr).1 hp).2, ((Groups.mem_row_iff hr).1 hq).2]

/-! ### The list -/

/-- A counter summed over the rows that are there, where a key without a row has nothing to count. -/
theorem sum_found {users : Table Pubkey User} {f : User → ℤ} {g : Pubkey → ℕ}
    (hsome : ∀ k u, users.find? k = some u → f u = g k) (hnone : ∀ k, users.find? k = none → g k = 0)
    (ks : List Pubkey) : ((ks.filterMap users.find?).map f).sum = ((ks.map g).sum : ℕ) := by
  induction ks with
  | nil => rfl
  | cons k ks ih =>
      rw [List.map_cons, List.sum_cons, Nat.cast_add]
      cases hk : users.find? k with
      | none => rw [List.filterMap_cons_none hk, ih, hnone k hk, Nat.cast_zero, zero_add]
      | some u => rw [List.filterMap_cons_some hk, List.map_cons, List.sum_cons, ih, hsome k u hk]

/-- The report is by one of the keys. -/
def byOneOf (db : Db) (pks : List Pubkey) (id : Uuid) : Bool := pks.any fun pk => db.authoredBy pk id

/-- **Reports counted by their authors** are counted once: a report has one author. -/
theorem sum_authoredBy (db : Db) {ks ks' : List Pubkey} (hks : ks.Nodup) (hmem : ∀ k, k ∈ ks ↔ k ∈ ks')
    (p : Uuid → Report → Bool) :
    (ks.map fun k => db.reports.count fun id r => db.authoredBy k id && p id r).sum =
      db.reports.count fun id r => byOneOf db ks' id && p id r := by
  unfold Table.count
  rw [Groups.sum_countP hks (p := fun k (r : Uuid × Report) => db.authoredBy k r.1 && p r.1 r.2)]
  · refine List.countP_congr fun r _ => ?_
    simp only [byOneOf, List.any_eq_true, Bool.and_eq_true, hmem]
    constructor
    · rintro ⟨k, hk, hby, hp⟩
      exact ⟨⟨k, hk, hby⟩, hp⟩
    · rintro ⟨⟨k, hk, hby⟩, hp⟩
      exact ⟨k, hk, hby, hp⟩
  · intro r _ k k' hk hk'
    have hk := decide_eq_true_iff.1 (Bool.and_eq_true_iff.1 hk).1
    have hk' := decide_eq_true_iff.1 (Bool.and_eq_true_iff.1 hk').1
    exact Option.some.inj (hk.symm.trans hk')

/-- What an entry should say after the events `es`. -/
structure Reviewed (min_sample : ℕ) (gw : Gateway) (s : Sys) (es : List (Event Sys Act)) (e : Entry) :
    Prop where
  vouched : vouchedFor gw es e.voucher_pubkey ≠ []
  /-- Keys it ever vouched for; reports by them that were ever verified, and that are rejected. -/
  quality : e.quality = qualityComponents (vouchedFor gw es e.voucher_pubkey).dedup.length
    (s.db.reports.count fun id _ => byOneOf s.db (vouchedFor gw es e.voucher_pubkey) id &&
      decide (0 < Ledger.entries (ledgerEvents es) id .verified))
    (s.db.reports.count fun id r => byOneOf s.db (vouchedFor gw es e.voucher_pubkey) id &&
      decide (r.status = .rejected)) min_sample
  /-- The last of the operator's commands on it that succeeded was to suspend it. -/
  suspended : e.vouching_suspended = true ↔
    Since (fun x => ¬ Done gw (.unsuspend e.voucher_pubkey) x) (Done gw (.suspend e.voucher_pubkey)) es
  /-- The budget is the one that was set last. -/
  budget : ∀ b, e.vouch_budget_override = some b ↔
    Since (fun x => ∀ b', ¬ Done gw (.setBudget e.voucher_pubkey b') x)
      (Done gw (.setBudget e.voucher_pubkey (some b))) es

/-- **The row of a group says what happened.** -/
theorem reviewed_run (gw : Gateway) (start : Timestamp) (linked : List Uuid) (as : List Act)
    (min_sample : ℕ) {r : Pubkey × List (Pubkey × Pubkey)}
    (hr : r ∈ (Groups.groups Prod.fst
      (pairs (run (step gw) (Sys.init start linked) as).db.vouches)).rows) :
    Reviewed min_sample gw (run (step gw) (Sys.init start linked) as)
      (events (step gw) (Sys.init start linked) as)
      (entry min_sample (run (step gw) (Sys.init start linked) as).db.users r.1 r.2) := by
  have hcredited : Credited (run (step gw) (Sys.init start linked) as)
      (ledgerEvents (events (step gw) (Sys.init start linked) as)) :=
    run_events_induction (P := fun s es => Credited s (ledgerEvents es))
      (credited_run gw start linked []) (fun s es a h => credited_observed_step a h) as
  have hmem := mem_vouchees_iff (pairs_run gw start linked as) hr
  have hnodup := nodup_vouchees hr
  have hsince : ∀ {R : Sys → Prop} {P Q : Event Sys Act → Prop}, ¬ R (Sys.init start linked) →
      (∀ s a, R (step gw s a) ↔ P ⟨s, a, step gw s a⟩ ∨ R s ∧ Q ⟨s, a, step gw s a⟩) →
        (R (run (step gw) (Sys.init start linked) as) ↔
          Since Q P (events (step gw) (Sys.init start linked) as)) := by
    intro R P Q h₀ h
    refine run_iff_since h₀ fun e he => ?_
    obtain ⟨_, _, _, _, hpost⟩ := mem_events he
    obtain ⟨pre, act, post⟩ := e
    dsimp only at hpost
    subst hpost
    exact h pre act
  generalize run (step gw) (Sys.init start linked) as = s at *
  generalize events (step gw) (Sys.init start linked) as = es at *
  refine ⟨?_, ?_, ?_, fun b => ?_⟩
  · obtain ⟨p, hp⟩ := List.exists_mem_of_ne_nil _ (Groups.row_ne_nil hr)
    exact List.ne_nil_of_mem ((hmem p.2).1 (List.mem_map_of_mem hp))
  · have hcount : (r.2.map Prod.snd).dedup.length = (vouchedFor gw es r.1).dedup.length :=
      ((List.perm_ext_iff_of_nodup (List.nodup_dedup _) (List.nodup_dedup _)).2 fun k => by
        rw [List.mem_dedup, List.mem_dedup, hmem]).length_eq
    have hnone : ∀ k, s.db.users.find? k = none → Accounts s.db (ledgerEvents es) k (newVoter 0) :=
      fun k hk => accounts_of_none hcredited.linked.2 hk 0
    have haccurate := sum_found (fun k u hu => (hcredited.users k u hu).accurate)
      (fun k hk => Int.natCast_eq_zero.1 (hnone k hk).accurate.symm) (r.2.map Prod.snd)
    have hrejected := sum_found (fun k u hu => (hcredited.users k u hu).rejected)
      (fun k hk => Int.natCast_eq_zero.1 (hnone k hk).rejected.symm) (r.2.map Prod.snd)
    unfold Db.everVerified at haccurate
    unfold Db.inRejected at hrejected
    rw [sum_authoredBy s.db hnodup hmem] at haccurate hrejected
    unfold entry
    dsimp only
    rw [hcount, haccurate, hrejected]
  · exact hsince (R := fun s => (flags s.db.users r.1).1 = true) (by simp [flags, Sys.init])
      fun s a => suspended_step a r.1
  · exact hsince (R := fun s => (flags s.db.users r.1).2 = some b) (by simp [flags, Sys.init])
      fun s a => budget_step a r.1 b

/-- **The list of vouchers.**  In every run of the ledger, its decay passes and its operator, a list that
`vouchers` may answer has each voucher once, those with the most rejections first, and of each says what
happened; and a voucher that is missing comes after 500 others. -/
theorem listed_run (gw : Gateway) (start : Timestamp) (linked : List Uuid) (as : List Act)
    (min_sample : ℕ) (vouchers : List Entry)
    (h : IsListing min_sample (run (step gw) (Sys.init start linked) as).db vouchers) :
    let s := run (step gw) (Sys.init start linked) as
    let es := events (step gw) (Sys.init start linked) as
    (vouchers.map Entry.voucher_pubkey).Nodup ∧ vouchers.Pairwise Entry.Before ∧
    (∀ e ∈ vouchers, Reviewed min_sample gw s es e) ∧
    (∀ pk, vouchedFor gw es pk ≠ [] → ∃ e, e.voucher_pubkey = pk ∧ Reviewed min_sample gw s es e ∧
      (e ∈ vouchers ∨ vouchers.length = 500 ∧ ∀ e' ∈ vouchers, e'.Before e)) := by
  intro s es
  obtain ⟨rows, hperm, hordered, rfl⟩ := h
  have hreviewed : ∀ e ∈ rows, Reviewed min_sample gw s es e := by
    intro e he
    obtain ⟨r, hr, rfl⟩ := List.mem_map.1 (hperm.mem_iff.1 he)
    exact reviewed_run gw start linked as min_sample hr
  have hsub := List.take_sublist 500 rows
  refine ⟨?_, hordered.sublist hsub, fun e he => hreviewed e (hsub.subset he), fun pk hpk => ?_⟩
  · have hkeys : (grouped min_sample s.db).map Entry.voucher_pubkey =
        (Groups.groups Prod.fst (pairs s.db.vouches)).rows.map Prod.fst := by
      unfold grouped
      rw [List.map_map]
      rfl
    have hnodup : (rows.map Entry.voucher_pubkey).Nodup := by
      rw [(hperm.map _).nodup_iff, hkeys]
      exact (Groups.groups Prod.fst (pairs s.db.vouches)).nodup
    exact hnodup.sublist (hsub.map _)
  · obtain ⟨r, hr, hkey⟩ := exists_group (pairs_run gw start linked as) hpk
    have he : entry min_sample s.db.users r.1 r.2 ∈ rows := hperm.mem_iff.2 (List.mem_map_of_mem hr)
    have hkey : (entry min_sample s.db.users r.1 r.2).voucher_pubkey = pk := hkey
    generalize entry min_sample s.db.users r.1 r.2 = e at *
    refine ⟨e, hkey, hreviewed e he, ?_⟩
    rw [← List.take_append_drop 500 rows] at he hordered
    rcases List.mem_append.1 he with htake | hdrop
    · exact Or.inl htake
    · right
      refine ⟨?_, fun e' he' => (List.pairwise_append.1 hordered).2.2 e' he' e hdrop⟩
      rw [List.length_take]
      have hlen := List.length_pos_of_mem hdrop
      rw [List.length_drop] at hlen
      omega

/-- A root vouches for a key. -/
def demoActs : List Act :=
  [.ledger (.postVouch (KeyCase.demoVouch (digits 64 'b')) [digits 64 'a'] {})]

/-- What the operator sees of the root. -/
def demoEntry : Entry :=
  { voucher_pubkey := digits 64 'a', quality := qualityComponents 1 0 0 5, vouching_suspended := false,
    vouch_budget_override := none }

theorem listed_run_demo :
    let s := run (step KeyCase.demoGateway) (Sys.init 0 []) demoActs
    IsListing 5 s.db [demoEntry] ∧
      Reviewed 5 KeyCase.demoGateway s (events (step KeyCase.demoGateway) (Sys.init 0 []) demoActs)
        demoEntry := by
  have hok := KeyCase.exec_demoVouch (isHex_digits (by decide) (by decide) 64)
    (digits_ne (show 'a' ≠ 'b' by decide) 63)
  have hpairs := pairs_run KeyCase.demoGateway 0 [] demoActs
  have hevents : (events (step KeyCase.demoGateway) (Sys.init 0 []) demoActs).filterMap
      (accepted KeyCase.demoGateway) = [(digits 64 'a', digits 64 'b')] :=
    List.filterMap_cons_some (accepted_eq_some hok)
  have hgrouped : grouped 5 (run (step KeyCase.demoGateway) (Sys.init 0 []) demoActs).db =
      [demoEntry] := by
    have hsame : ∀ gw s body roots sch,
        (step gw s (.ledger (.postVouch body roots sch))).db.users = s.db.users :=
      fun _ _ _ _ _ => rfl
    have husers : (run (step KeyCase.demoGateway) (Sys.init 0 []) demoActs).db.users = Table.empty := by
      unfold demoActs
      rw [run_cons, run_nil, hsame]
      rfl
    unfold grouped pairs
    rw [hpairs, hevents, husers]
    rfl
  have hlisting : IsListing 5 (run (step KeyCase.demoGateway) (Sys.init 0 []) demoActs).db
      [demoEntry] := ⟨[demoEntry], by rw [hgrouped], List.pairwise_singleton _ _, rfl⟩
  exact ⟨hlisting, (listed_run KeyCase.demoGateway 0 [] demoActs 5 [demoEntry] hlisting).2.2.1 demoEntry
    (List.mem_singleton_self _)⟩

end Observatory
end Ledger
end SentinelMesh
