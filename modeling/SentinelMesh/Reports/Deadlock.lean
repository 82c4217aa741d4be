/-
# No deadlock, and tiers that match

The calls of `Reports/Statements.lean` keep to the discipline of `Reports/Isolation.lean`, each
from the start (`starts`), so `Inv` holds in every store they reach (`inv_reached`).

That they wait in an order is `no_deadlock`.  `cast_vote` has its report first, then at most one
new user, the voter, whose key only an `INSERT` waits for; the two rows that it locks are
committed, unless one is that voter's, and come in order; and the author's row is there, since it
was committed with the report, so that the verification takes no key that was not taken then.

`tier_matches` takes `User.Justified` for what is kept of the users' rows: the row of an author is
not justified between the two `UPDATE`s of a verification, but the transaction has its key.
-/

import SentinelMesh.Reports.Isolation

namespace SentinelMesh
namespace Ledger
namespace Locking

open Lib

variable {J : User → Prop} {srv : Server} {n : ℕ} {i : Call × Store} {s : Store}
  {G : Pubkey → User → Prop} {stage : ℕ} {held : List Key} {seen : List Pubkey}

/-! ### The two users of a vote -/

theorem find?_view_addVoter {now : Timestamp} {voter : Pubkey}
    (hnew : s.db.users.find? voter = none) (pk : Pubkey) :
    ((s.addVoter n now voter).view n).users.find? pk =
      if pk = voter then some (newVoter now) else (s.view n).users.find? pk := by
  have hview : ((s.addVoter n now voter).view n).users.find? pk =
      if some (Key.user voter) = some (Key.user pk) then
        ((s.db.users.insert voter (newVoter now)).find? pk).or ((s.view n).users.find? pk)
      else (s.view n).users.find? pk := find?_view_write (s.grant n (.user voter)) n _ _ pk
  rw [hview]
  by_cases hpk : pk = voter
  · subst hpk
    simp [hnew]
  · rw [if_neg fun hk => hpk (Key.user.inj (Option.some.inj hk)).symm, if_neg hpk]

/-- A new voter is inserted. -/
theorem guarantees_addVoter (h : Inv J s) {now : Timestamp} {voter : Pubkey}
    (hfree : s.locks.find? (.user voter) = none) :
    (discipline J).Guarantees n i s (s.addVoter n now voter) := by
  have hfree' : ∀ l ∈ s.locks.find? (.user voter), l = n := fun l hl => nomatch hfree.symm.trans hl
  have hguar := guarantees_grant (i := i) h hfree'
  refine hguar.trans (guarantees_write hguar.inv fun pk hpk => ?_)
  rw [find?_record_users] at hpk
  split_ifs at hpk with hk
  · rw [← Option.some.inj hk]
    exact (has_grant s n _ _ n hfree').2 (Or.inr ⟨rfl, rfl⟩)
  · exact hguar.inv.written n pk hpk

/-- What is known of the transaction then. -/
theorem Under.addVoter (h : Under (fun _ => J) n 1 held seen s) (hJ : Kept J) (hinv : Inv J s)
    {now : Timestamp} {voter : Pubkey} (hnew : s.db.users.find? voter = none)
    (hfree : s.locks.find? (.user voter) = none) :
    Under (fun _ => J) n 2 held (voter :: seen) (s.addVoter n now voter) := by
  have hstage : (Key.user voter).stage s.db < 2 := by
    unfold Key.stage Key.rank
    dsimp only
    rw [hnew]
    exact Nat.lt_succ_self 1
  have hfree' : ∀ l ∈ s.locks.find? (.user voter), l = n := fun l hl =>
    absurd (hl.symm.trans hfree) (Option.some_ne_none l)
  have hgrant := h.grant hinv hfree' (Nat.le_succ 1) hstage
  have hsome : ∀ pk, ((s.view n).users.find? pk).isSome →
      (((s.addVoter n now voter).view n).users.find? pk).isSome := by
    intro pk hpk
    rw [find?_view_addVoter hnew]
    split_ifs
    · rfl
    · exact hpk
  refine
    { below := hgrant.below
      held := fun k hk => hgrant.held k (List.mem_cons_of_mem _ hk)
      seen := List.forall_mem_cons.2 ⟨?_, fun pk hpk => hsome pk (h.seen pk hpk)⟩
      kept := fun pk u hk hu => ?_
      founded := fun id a ha => hsome _ (hgrant.founded id a ?_) }
  · rw [find?_view_addVoter hnew, if_pos rfl]
    rfl
  · rw [find?_view_addVoter hnew] at hu
    split_ifs at hu
    · obtain rfl := Option.some.inj hu
      exact hJ.newVoter now
    · exact hgrant.kept pk u hk hu
  · have hrows : (s.addVoter n now voter).rows n = (s.rows n).record _ (some (.user voter)) :=
      Function.update_self ..
    rw [hrows, find?_record_authors, if_neg (by simp)] at ha
    exact ha

/-- **The `INSERT` of the voter**, by a transaction that has no user's key: then the voter has a
row. -/
theorem keeps_insertVoter (hJ : Kept J) (now : Timestamp) (voter : Pubkey) :
    Keeps J srv n i (Under (fun _ => J) n 1 held seen) (insertVoter now voter) fun _ =>
      Under (fun _ => J) n 2 held (voter :: seen) := by
  have hproceed : ∀ s, Inv J s → Under (fun _ => J) n 1 held seen s →
      (s.db.users.find? voter).isSome → (discipline J).Guarantees n i s (s.proceed n) ∧
        ∀ a : Unit, some () = some a → Under (fun _ => J) n 2 held (voter :: seen) (s.proceed n) := by
    intro s hinv h hsome
    refine ⟨guarantees_proceed hinv, fun _ _ => ?_⟩
    have hview : ((s.view n).users.find? voter).isSome := by
      rw [find?_view_users, Option.isSome_or, hsome, Bool.or_true]
    exact
      { below := fun k hk => Nat.lt_succ_of_lt (h.below k hk)
        held := h.held
        seen := List.forall_mem_cons.2 ⟨hview, h.seen⟩
        kept := h.kept
        founded := h.founded }
  refine Async.Does.bind (Q := fun _ => Under (fun _ => J) n 1 held seen) ?_ fun _ => ?_
  · refine keeps_attempt (fun _ => rfl) under_stable (fun _ => under_stable)
      fun s r s' hinv h hperform => ?_
    obtain ⟨rfl, rfl⟩ := Prod.mk.inj (Option.some.inj hperform)
    refine ⟨guarantees_request hinv fun _ k hk => rank_lt_of_stage ?_, fun _ _ => h.request _⟩
    exact lt_of_lt_of_le (h.below k hk) (stage_user s.db voter).1
  · refine keeps_attempt (fun _ => rfl) under_stable (fun _ => under_stable)
      fun s r s' hinv h hperform => ?_
    change (s.insertVoter srv n now voter).map (fun s' => (some (), s')) = some (r, s') at hperform
    obtain ⟨s₁, hinsert, heq⟩ := Option.map_eq_some_iff.1 hperform
    obtain ⟨rfl, rfl⟩ := Prod.mk.inj heq
    unfold Store.insertVoter at hinsert
    split at hinsert
    · rename_i hnew hfree
      obtain rfl := Option.some.inj hinsert
      exact ⟨guarantees_addVoter hinv hfree, fun _ _ => h.addVoter hJ hinv hnew hfree⟩
    · -- no user's key is its own at this stage
      rename_i m hnew hlock
      split_ifs at hinsert with hm
      subst hm
      exact absurd (h.below _ hlock) (not_lt_of_ge (stage_user s.db voter).1)
    · rename_i u m hold hlock
      split_ifs at hinsert
      obtain rfl := Option.some.inj hinsert
      exact hproceed s hinv h (by rw [hold]; rfl)
    · rename_i u hold hfree
      obtain rfl := Option.some.inj hinsert
      exact hproceed s hinv h (by rw [hold]; rfl)

/-- A transaction that is to lock the users of a list: its keys come before them. -/
structure Line (J : User → Prop) (n : ℕ) (held : List Key) (seen rest : List Pubkey) (s : Store) :
    Prop extends Under (fun _ => J) n 3 held seen s where
  ahead : ∀ k, Has n k s → ∀ pk ∈ rest, k.rank s.db < toLex (2, pk)

theorem line_stable {rest : List Pubkey} : Stable n (Line J n held seen rest) := fun s s' hrely h =>
  { under_stable s s' hrely h.toUnder with
    ahead := fun k hk pk hpk => by
      have hk' := (hrely.locks k).1 hk
      rw [rank_rely hrely hk']
      exact h.ahead k hk' pk hpk }

/-- **The rows of users are locked in order.** -/
theorem keeps_lockUsers (rest : List Pubkey) (held held' : List Key) (hsorted : rest.Pairwise (· < ·))
    (hseen : ∀ pk ∈ rest, pk ∈ seen)
    (hheld : ∀ k ∈ held', k ∈ held ∨ ∃ pk ∈ rest, k = .user pk) :
    Keeps J srv n i (Line J n held seen rest) (lockUsers rest) fun _ =>
      Under (fun _ => J) n 3 held' seen := by
  induction rest generalizing held with
  | nil =>
      refine Async.does_pure (fun s _ h => h.toUnder.mono (Nat.le_refl 3) (fun k hk => ?_)
        fun _ hpk => hpk) under_stable
      exact (hheld k hk).resolve_right fun ⟨_, hpk, _⟩ => nomatch hpk
  | cons pk rest ih =>
      rw [List.pairwise_cons] at hsorted
      have hrank : ∀ s, Inv J s → Line J n held seen (pk :: rest) s → ¬ Has n (.user pk) s →
          (Key.user pk).rank s.db = toLex (2, pk) := by
        intro s hinv h hnot
        have hview := h.seen pk (hseen pk (List.mem_cons_self ..))
        rw [find?_view_users, Option.isSome_or, Bool.or_eq_true] at hview
        exact rank_user (hview.resolve_left fun hown => hnot (hinv.written n pk hown))
      refine Async.Does.bind (Q := fun _ => Line J n (.user pk :: held) seen rest) ?_ fun _ =>
        ih (.user pk :: held) hsorted.2 (fun w hw => hseen w (List.mem_cons_of_mem _ hw)) ?_
      · refine keeps_lock line_stable line_stable (fun s h => ?_) (fun s hinv h hnot k hk => ?_)
          fun s hinv h hfree => ?_
        · refine { h.toUnder.request (.user pk) with ahead := ?_ }
          unfold Store.request
          split <;> exact h.ahead
        · rw [hrank s hinv h hnot]
          exact h.ahead k hk pk (List.mem_cons_self ..)
        · refine { h.toUnder.grant hinv hfree (Nat.le_refl 3) (stage_user s.db pk).2 with
            ahead := fun k hk w hw => ?_ }
          have hw' := List.mem_cons_of_mem pk hw
          rcases (has_grant s n (.user pk) k n hfree).1 hk with hk | ⟨rfl, -⟩
          · exact h.ahead k hk w hw'
          · by_cases hhas : Has n (.user pk) s
            · exact h.ahead _ hhas w hw'
            · change (Key.user pk).rank s.db < toLex (2, w)
              rw [hrank s hinv h hhas]
              exact Prod.Lex.toLex_lt_toLex.2 (Or.inr ⟨rfl, hsorted.1 w hw⟩)
      · intro k hk
        rcases hheld k hk with hk | ⟨w, hw, rfl⟩
        · exact Or.inl (List.mem_cons_of_mem _ hk)
        · rcases List.mem_cons.1 hw with rfl | hw
          · exact Or.inl (List.mem_cons_self ..)
          · exact Or.inr ⟨w, hw, rfl⟩

theorem mem_sortedUsers {users : Table Pubkey User} {pubkeys : List Pubkey} {pk : Pubkey} :
    pk ∈ sortedUsers users pubkeys ↔ pk ∈ pubkeys ∧ (users.find? pk).isSome := by
  unfold sortedUsers
  rw [Finset.mem_sort, List.mem_toFinset, List.mem_filter]

/-- **`SELECT .. ORDER BY nostr_pubkey FOR UPDATE`** of users that have rows: then their rows are
locked. -/
theorem keeps_selectUsers (pubkeys : List Pubkey) (hseen : ∀ pk ∈ pubkeys, pk ∈ seen) :
    Keeps J srv n i (Under (fun _ => J) n 2 held seen) (selectForUpdate pubkeys) fun _ =>
      Under (fun _ => J) n 3 (pubkeys.map .user ++ held) seen := by
  refine Async.Does.bind (Q := fun users s => Under (fun _ => J) n 2 held seen s ∧
    (users : List Pubkey).Pairwise (· < ·) ∧ ∀ pk, pk ∈ users ↔ pk ∈ pubkeys) ?_ fun users => ?_
  · refine keeps_read rfl (fun _ s s' hrely h => ⟨under_stable s s' hrely h.1, h.2⟩) ?_
    intro s a view hinv h hrun
    obtain ⟨db, db', hget, hpure⟩ := Txn.run_bind_eq_ok.1 hrun
    obtain ⟨rfl, rfl⟩ := Txn.run_get_eq_ok.1 hget
    obtain ⟨rfl, rfl⟩ := Txn.run_pure_eq_ok.1 hpure
    refine ⟨h, (Finset.sortedLT_sort _).pairwise, fun pk => ?_⟩
    rw [mem_sortedUsers]
    exact and_iff_left_of_imp fun hpk => h.seen pk (hseen pk hpk)
  · by_cases hlist : (users : List Pubkey).Pairwise (· < ·) ∧ ∀ pk, pk ∈ users ↔ pk ∈ pubkeys
    · refine (keeps_lockUsers users held (pubkeys.map .user ++ held) hlist.1
        (fun pk hpk => hseen pk ((hlist.2 pk).1 hpk)) ?_).mono (fun s _ h => ?_) fun _ _ _ h => h
      · intro k hk
        rcases List.mem_append.1 hk with hk | hk
        · obtain ⟨pk, hpk, rfl⟩ := List.mem_map.1 hk
          exact Or.inr ⟨pk, (hlist.2 pk).2 hpk, rfl⟩
        · exact Or.inl hk
      · refine { h.1.mono (Nat.le_succ 2) (fun _ hk => hk) fun _ hpk => hpk with
          ahead := fun k hk pk _ => Prod.Lex.lt_iff.2 (Or.inl ?_) }
        exact h.1.below k hk
    · exact fun s _ _ h => absurd h.2 hlist

/-! ### The rows of users that statements leave -/

/-- A row that was changed, or left out. -/
theorem or_map_eq_some {o : Option User} {f : User → User} {u : User}
    (h : (o.map f).or o = some u) : ∃ v, o = some v ∧ u = f v := by
  cases o with
  | none => cases h
  | some v => exact ⟨v, rfl, (Option.some.inj h).symm⟩

/-- A statement that leaves the users and authors to others. -/
theorem keeps_other {st : Stmt} (husers : ∀ pk, st.writes ≠ some (.user pk))
    (hauthors : ∀ id, st.writes ≠ some (.author id)) :
    Keeps J srv n i (Under G n stage held seen) (exec st) fun _ => Under G n stage held seen :=
  keeps_write (fun pk hk => absurd hk (husers pk))
    (fun pk hk => absurd hk (husers pk)) (fun _ _ _ _ hu => hu) fun id hk => absurd hk (hauthors id)

/-- A statement on the row of one user, which keeps it `J`. -/
theorem keeps_user {st : Stmt} {pk : Pubkey} (hwrites : st.writes = some (.user pk))
    (hheld : .user pk ∈ held)
    (hrow : ∀ db a db', (st.run srv).run db = .ok (a, db') → (∀ v, db.users.find? pk = some v → J v) →
      ∀ u, (db'.users.find? pk).or (db.users.find? pk) = some u → J u) :
    Keeps J srv n i (Under (fun _ => J) n stage held seen) (exec st) fun _ =>
      Under (fun _ => J) n stage held seen := by
  have hkey : ∀ pk', st.writes = some (.user pk') → pk' = pk := fun pk' hk =>
    Key.user.inj (Option.some.inj (hk.symm.trans hwrites))
  refine keeps_write (fun pk' hk => hkey pk' hk ▸ hheld) (fun pk' hk => ?_)
    (fun _ _ _ _ hu => hu) fun id hk => nomatch hwrites.symm.trans hk
  obtain rfl := hkey pk' hk
  exact hrow

theorem keeps_touchVoter (hJ : Kept J) {now : Timestamp} {voter : Pubkey}
    (hheld : .user voter ∈ held) :
    Keeps J srv n i (Under (fun _ => J) n stage held seen) (exec (.touchVoter now voter)) fun _ =>
      Under (fun _ => J) n stage held seen := by
  refine keeps_user rfl hheld fun db a db' hrun hold u hu => ?_
  obtain rfl := Txn.run_modify_eq_ok.1 hrun
  rw [Table.find?_modify, if_pos rfl] at hu
  obtain ⟨v, hv, rfl⟩ := or_map_eq_some hu
  exact hJ.touch v now (hold v hv)

theorem keeps_countReport (hJ : Kept J) {now : Timestamp} {pk : Pubkey} (hheld : .user pk ∈ held) :
    Keeps J srv n i (Under (fun _ => J) n stage held seen) (exec (.countReport now pk)) fun _ =>
      Under (fun _ => J) n stage held seen := by
  refine keeps_user rfl hheld fun db a db' hrun hold u hu => ?_
  obtain rfl := run_countReport_eq_ok hrun
  rw [find?_countReport, if_pos rfl, Option.some_or] at hu
  obtain rfl := Option.some.inj hu
  cases hv : db.users.find? pk with
  | none => exact hJ.newReporter now
  | some v => exact hJ.report v now (hold v hv)

theorem keeps_countRejected (hJ : Kept J) {pk : Pubkey} (hheld : .user pk ∈ held) :
    Keeps J srv n i (Under (fun _ => J) n stage held seen) (exec (.countRejected pk)) fun _ =>
      Under (fun _ => J) n stage held seen := by
  refine keeps_user rfl hheld fun db a db' hrun hold u hu => ?_
  obtain ⟨_, _, hget, hrun⟩ := Txn.run_bind_eq_ok.1 hrun
  obtain ⟨rfl, rfl⟩ := Txn.run_get_eq_ok.1 hget
  cases hv : db.users.find? pk with
  | none =>
      rw [hv] at hrun
      obtain ⟨-, rfl⟩ := Txn.run_pure_eq_ok.1 hrun
      rw [hv] at hu
      cases hu
  | some v =>
      rw [hv] at hrun
      obtain ⟨_, _, hrange, hrun⟩ := Txn.run_bind_eq_ok.1 hrun
      obtain ⟨-, rfl⟩ := Pg.run_integer_eq_ok.1 hrange
      obtain rfl := Txn.run_modify_eq_ok.1 hrun
      rw [Table.find?_modify, if_pos rfl] at hu
      obtain ⟨w, hw, rfl⟩ := or_map_eq_some hu
      exact hJ.reject w (hold w hw)

/-- The rows of users between the two `UPDATE`s of a verification: the author has its credit, with
the new score, and not yet its tier. -/
def Credited (J : User → Prop) (now : Timestamp) (reporter : Pubkey) (new_score : ℤ) (pk : Pubkey)
    (u : User) : Prop :=
  if pk = reporter then ∃ v, J v ∧ u = v.credit now ∧ new_score = v.reputation_score + 10 else J u

theorem run_creditVerified {pg : Pg} {now : Timestamp} {reporter : Pubkey} {db db' : Db} {a : ℤ}
    (h : (creditVerified pg now reporter).run db = .ok (a, db')) :
    ∃ v, db.users.find? reporter = some v ∧ a = v.reputation_score + 10 ∧
      db' = { db with users := db.users.modify reporter fun u => u.credit now } := by
  unfold creditVerified at h
  simp only [Txn.run_bind_eq_ok, Txn.run_get_eq_ok, Txn.run_fetch_eq_ok, Pg.run_integer_eq_ok,
    Txn.run_modify_eq_ok, Pg.run_fetchScalar_eq_ok] at h
  obtain ⟨_, _, ⟨rfl, rfl⟩, v, _, ⟨hv, rfl⟩, _, _, ⟨-, rfl⟩, _, _, ⟨-, rfl⟩, _, _, rfl, -, rfl,
    rfl⟩ := h
  exact ⟨v, hv, rfl, rfl⟩

theorem keeps_creditVerified {now : Timestamp} {reporter : Pubkey} (hheld : .user reporter ∈ held) :
    Keeps J srv n i (Under (fun _ => J) n stage held seen) (exec (.creditVerified now reporter))
      fun (new_score : ℤ) => Under (Credited J now reporter new_score) n stage held seen := by
  refine keeps_write (fun pk hk => ?_) (fun pk hk db a db' hrun hold u hu => ?_) (fun a pk u hk hu => ?_)
    fun id hk => nomatch hk
  · obtain rfl : reporter = pk := Key.user.inj (Option.some.inj hk)
    exact hheld
  · obtain rfl : reporter = pk := Key.user.inj (Option.some.inj hk)
    obtain ⟨v, hv, hscore, rfl⟩ := run_creditVerified hrun
    rw [Table.find?_modify, if_pos rfl] at hu
    obtain ⟨w, hw, rfl⟩ := or_map_eq_some hu
    obtain rfl := Option.some.inj (hv.symm.trans hw)
    unfold Credited
    rw [if_pos rfl]
    exact ⟨v, hold v hv, rfl, hscore⟩
  · unfold Credited
    rw [if_neg]
    · exact hu
    · rintro rfl
      exact hk rfl

theorem keeps_setTier (hJ : Kept J) {now : Timestamp} {reporter : Pubkey} {new_score : ℤ}
    (hheld : .user reporter ∈ held) :
    Keeps J srv n i (Under (Credited J now reporter new_score) n stage held seen)
      (exec (.setTier reporter (computeTier new_score))) fun _ =>
        Under (fun _ => J) n stage held seen := by
  refine keeps_write (fun pk hk => ?_)
    (fun pk hk db a db' hrun hold u hu => ?_) (fun a pk u hk hu => ?_) fun id hk => nomatch hk
  · obtain rfl : reporter = pk := Key.user.inj (Option.some.inj hk)
    exact hheld
  · obtain rfl : reporter = pk := Key.user.inj (Option.some.inj hk)
    obtain rfl := Txn.run_modify_eq_ok.1 hrun
    rw [Table.find?_modify, if_pos rfl] at hu
    obtain ⟨w, hw, rfl⟩ := or_map_eq_some hu
    have hcredited := hold w hw
    unfold Credited at hcredited
    rw [if_pos rfl] at hcredited
    obtain ⟨v, hv, rfl, rfl⟩ := hcredited
    exact hJ.verify v now hv
  · unfold Credited at hu
    rw [if_neg] at hu
    · exact hu
    · rintro rfl
      exact hk rfl

/-! ### The calls -/

theorem keeps_creditAuthor (hJ : Kept J) {now : Timestamp} {reporter : Pubkey} (st : ReportStatus)
    (hheld : .user reporter ∈ held) :
    Keeps J srv n i (Under (fun _ => J) n stage held seen) (creditAuthor now reporter st) fun _ =>
      Under (fun _ => J) n stage held seen := by
  unfold creditAuthor
  by_cases hverified : st = .verified
  · rw [if_pos hverified]
    refine Async.Does.bind (keeps_lock_held hheld) fun _ => ?_
    refine Async.Does.bind (keeps_creditVerified hheld) fun new_score => ?_
    exact Async.Does.bind (keeps_lock_held hheld) fun _ => keeps_setTier hJ hheld
  by_cases hrejected : st = .rejected
  · rw [if_neg hverified, if_pos hrejected]
    exact Async.Does.bind (keeps_lock_held hheld) fun _ => keeps_countRejected hJ hheld
  · rw [if_neg hverified, if_neg hrejected]
    exact keeps_pure (fun _ h => h) under_stable

theorem keeps_concludeVote (hJ : Kept J) {now : Timestamp} {report_id : Uuid} {reporter : Pubkey}
    (old : ReportStatus) (updated : Report) (new_status : Option ReportStatus)
    (hreport : .report report_id ∈ held) (hreporter : .user reporter ∈ held) :
    Keeps J srv n i (Under (fun _ => J) n stage held seen)
      (concludeVote now report_id reporter old updated new_status) fun _ =>
        Under (fun _ => J) n stage held seen := by
  cases new_status with
  | none => exact keeps_pure (fun _ h => h) under_stable
  | some st =>
      refine Async.Does.bind (keeps_lock_held hreport) fun _ => ?_
      refine Async.Does.bind (keeps_other nofun nofun) fun _ => ?_
      refine Async.Does.bind (keeps_creditAuthor hJ st hreporter) fun _ => ?_
      exact keeps_pure (fun _ h => h) under_stable

/-- **`cast_vote`**, on a report whose author has a row. -/
theorem keeps_castVote (hJ : Kept J) (now : Timestamp) (report_id : Uuid) (input : CastVoteInput)
    (roots : List Pubkey) (gate : Bool) (reporter : Pubkey) :
    Keeps J srv n i (Under (fun _ => J) n 0 [] [reporter])
      (castVote srv now report_id input roots gate reporter) fun _ _ => True := by
  refine keeps_transact (Q := fun _ => Under (fun _ => J) n 5
    [.vote report_id input.voter_pubkey, .voteEvent input.nostr_event_id, .user input.voter_pubkey,
      .user reporter, .report report_id] [input.voter_pubkey, reporter]) ?_ fun _ _ h => ⟨5, _, _, h⟩
  refine Async.Does.bind (keeps_lock_new (fun _ => Nat.zero_le _) fun _ => Nat.zero_lt_one) fun _ => ?_
  refine Async.Does.bind (keeps_other nofun nofun) fun report => ?_
  -- the voter has a row, and then both are locked
  refine Async.Does.bind (keeps_insertVoter hJ now input.voter_pubkey) fun _ => ?_
  refine Async.Does.bind (keeps_selectUsers _ fun _ hpk => hpk) fun _ => ?_
  have hvoter : .user input.voter_pubkey ∈
      [Key.user input.voter_pubkey, .user reporter, .report report_id] := List.mem_cons_self ..
  refine Async.Does.bind (keeps_lock_held hvoter) fun _ => ?_
  refine Async.Does.bind (keeps_touchVoter hJ hvoter) fun _ => ?_
  refine Async.Does.bind (keeps_other nofun nofun) fun voter_tier => ?_
  refine Async.Does.bind (Async.does_option (fun _ _ _ _ h => h) fun _ => under_stable) fun vote => ?_
  -- nothing is waited for after the vote has been inserted
  refine Async.Does.bind (keeps_lock_new (fun _ => Nat.le_refl 3) fun _ => Nat.lt_succ_self 3)
    fun _ => ?_
  refine Async.Does.bind (keeps_lock_new (fun _ => Nat.le_refl 4) fun _ => Nat.lt_succ_self 4)
    fun _ => ?_
  refine Async.Does.bind (keeps_other nofun nofun) fun _ => ?_
  refine Async.Does.bind (keeps_lock_held (by simp)) fun _ => ?_
  refine Async.Does.bind (keeps_other nofun nofun) fun updated => ?_
  refine Async.Does.bind (keeps_other nofun nofun) fun established_confirmations => ?_
  exact keeps_concludeVote hJ _ _ _ (by simp) (by simp)

/-- **`create_report`.** -/
theorem keeps_createReport (hJ : Kept J) (now : Timestamp) (id : Uuid) (input : CreateReportInput) :
    Keeps J srv n i (Under (fun _ => J) n 0 [] []) (createReport srv now id input) fun _ _ => True := by
  refine keeps_transact (Q := fun _ => Under (fun _ => J) n 6
    [.authorEvent input.nostr_event_id, .author id, .newReport id, .user input.nostr_pubkey]
    [input.nostr_pubkey]) ?_ fun _ _ h => ⟨6, _, _, h⟩
  refine Async.Does.bind (keeps_lock_new (fun _ => Nat.zero_le _) fun db => (stage_user db _).2)
    fun _ => ?_
  refine Async.Does.bind (keeps_countReport hJ (List.mem_singleton_self _)) fun _ => ?_
  refine Async.Does.bind (Q := fun _ => Under (fun _ => J) n 3 [.user input.nostr_pubkey]
    [input.nostr_pubkey]) ?_ fun tier => ?_
  · refine keeps_read rfl (fun _ => under_stable) fun s a view hinv h hrun => ?_
    obtain ⟨_, _, hget, hrun⟩ := Txn.run_bind_eq_ok.1 hrun
    obtain ⟨rfl, rfl⟩ := Txn.run_get_eq_ok.1 hget
    obtain ⟨u, _, hfetch, -⟩ := Txn.run_bind_eq_ok.1 hrun
    obtain ⟨hu, -⟩ := Txn.run_fetch_eq_ok.1 hfetch
    refine { h with seen := List.forall_mem_cons.2 ⟨?_, h.seen⟩ }
    rw [hu]
    rfl
  refine Async.Does.bind (keeps_lock_new (fun _ => Nat.le_refl 3) fun _ => Nat.lt_succ_self 3)
    fun _ => ?_
  refine Async.Does.bind (keeps_other nofun nofun) fun _ => ?_
  refine Async.Does.bind (keeps_lock_new (fun _ => Nat.le_refl 4) fun _ => Nat.lt_succ_self 4)
    fun _ => ?_
  refine Async.Does.bind (keeps_lock_new (fun _ => Nat.le_refl 5) fun _ => Nat.lt_succ_self 5)
    fun _ => ?_
  refine Async.Does.bind (keeps_write nofun nofun (fun _ _ _ _ hu => hu) ?_) fun _ =>
    keeps_pure (fun _ h => h) under_stable
  intro id' hid db a db' hrun b hb
  obtain rfl : id = id' := Key.author.inj (Option.some.inj hid)
  obtain ⟨hnew, rfl⟩ := run_insertAuthor_eq_ok hrun
  rw [Table.find?_insert, if_pos rfl, hnew] at hb
  obtain rfl := Option.some.inj hb
  exact Or.inr (List.mem_singleton_self _)

/-- **A vote**: the author of its report has a row. -/
theorem keeps_vote (hJ : Kept J) (now : Timestamp) (report_id : Uuid) (input : CastVoteInput)
    (roots : List Pubkey) (gate : Bool) :
    Keeps J srv n i (Under (fun _ => J) n 0 [] []) (vote srv now report_id input roots gate)
      fun _ _ => True := by
  refine Async.Does.bind (Q := fun author => Under (fun _ => J) n 0 [] (Option.toList author)) ?_
    fun author => ?_
  · refine keeps_read rfl (fun _ => under_stable) fun s a view hinv h hrun => ?_
    obtain ⟨_, _, hget, hrun⟩ := Txn.run_bind_eq_ok.1 hrun
    obtain ⟨rfl, rfl⟩ := Txn.run_get_eq_ok.1 hget
    obtain ⟨rfl, rfl⟩ := Txn.run_pure_eq_ok.1 hrun
    refine { h with seen := fun pk hpk => ?_ }
    obtain ⟨b, hb, rfl⟩ := Option.map_eq_some_iff.1 (Option.mem_toList.1 hpk)
    rw [find?_view_authors] at hb
    rcases Option.or_eq_some_iff.1 hb with hown | ⟨-, hcommitted⟩
    · exact h.founded report_id b hown
    · rw [find?_view_users, Option.isSome_or, hinv.founded report_id b hcommitted, Bool.or_true]
  · have hfails : ∀ {P : Store → Prop}, Keeps J srv n i P (OptionT.mk (pure none) : Part Report)
        fun _ _ => True := Async.does_option (fun _ _ _ _ _ => trivial) fun _ _ _ _ _ => trivial
    cases author with
    | none => exact hfails
    | some author =>
        by_cases hself : author = input.voter_pubkey
        · exact (show Keeps J srv n i _ (if author = input.voter_pubkey then _ else _) _ by
            rw [if_pos hself]
            exact hfails)
        · exact (show Keeps J srv n i _ (if author = input.voter_pubkey then _ else _) _ by
            rw [if_neg hself]
            exact keeps_castVote hJ now report_id input roots gate author)

/-- The transaction of a call has no key. -/
def Free (n : ℕ) (s : Store) : Prop := ∀ k, ¬ Has n k s

theorem free_stable : Stable n (Free n) := fun _ _ hrely h k hk => h k ((hrely.locks k).1 hk)

/-- The `UPDATE`s of a decay pass, each by itself. -/
theorem keeps_decayRowsOf (hJ : Kept J) (rows : List DecayRow) :
    Keeps J srv n i (Free n) (decayRowsOf rows) fun _ _ => True := by
  induction rows with
  | nil => exact keeps_pure (fun _ _ => trivial) fun _ _ _ _ => trivial
  | cons r rows ih =>
      refine Async.Does.bind (Q := fun _ => Free n) ?_ fun _ =>
        Async.Does.bind (Q := fun _ => Free n) ?_ fun _ => ih
      · refine keeps_attempt (fun _ => rfl) free_stable (fun _ => free_stable)
          fun s b s' hinv h hperform => ?_
        obtain ⟨rfl, rfl⟩ := Prod.mk.inj (Option.some.inj hperform)
        refine ⟨guarantees_request hinv fun _ k hk => absurd hk (h k), fun _ _ => ?_⟩
        unfold Store.request
        split <;> exact h
      · refine keeps_attempt (fun _ => rfl) free_stable (fun _ => free_stable)
          fun s b s' hinv h hperform => ?_
        cases hfree : s.locks.find? (.user r.nostr_pubkey) with
        | some m => simp [perform, hfree] at hperform
        | none =>
          simp only [perform, hfree] at hperform
          obtain ⟨rfl, rfl⟩ := Prod.mk.inj (Option.some.inj hperform)
          exact ⟨guarantees_decay hJ hinv hfree, fun _ _ => h⟩

/-- **Every call keeps to the discipline.** -/
theorem starts (hJ : Kept J) :
    (discipline J).Starts (system srv) fun _ _ (_ : Option (Option Report)) _ => True := by
  intro n c s hinv hidle
  have h := hidle rfl
  have hunder : Under (fun _ => J) n 0 [] [] s :=
    { below := fun k hk => absurd hk (h.locks k)
      held := fun _ hk => nomatch hk
      seen := fun _ hpk => nomatch hpk
      kept := fun pk _ hk => absurd hk (h.locks (.user pk))
      founded := fun id a ha => by
        rw [h.rows] at ha
        cases ha }
  refine ⟨fun hc => (nomatch hc), ?_⟩
  have hsafe : ∀ {P : Store → Prop} {t : Part (Option Report)}, P s →
      Keeps J srv n (c, s) P t (fun _ _ => True) →
      Async.Safe (discipline J) (system srv).perform n (c, s) (fun _ _ => True) t.run s :=
    fun hp ht => (ht s hinv (fun hc => nomatch hc) hp).mono fun _ _ _ _ => trivial
  cases c with
  | createReport now id input =>
      exact hsafe hunder (Async.Does.bind (keeps_createReport hJ now id input) fun _ =>
        keeps_pure (fun _ _ => trivial) fun _ _ _ _ => trivial)
  | vote now report_id input roots gate =>
      exact hsafe hunder (Async.Does.bind (keeps_vote hJ now report_id input roots gate) fun _ =>
        keeps_pure (fun _ _ => trivial) fun _ _ _ _ => trivial)
  | decayPass now =>
      refine hsafe (P := Free n) h.locks (Async.Does.bind (Q := fun _ _ => True) ?_ fun _ =>
        keeps_pure (fun _ _ => trivial) fun _ _ _ _ => trivial)
      refine Async.Does.bind (Q := fun _ => Free n) ?_ fun rows => keeps_decayRowsOf hJ rows
      exact keeps_exec free_stable (fun _ => free_stable) (fun _ _ _ hk => nomatch hk)
        fun _ _ _ _ hfree _ => hfree

/-- **What always holds**, from tables whose authors have rows and whose rows of users are `J`. -/
theorem inv_reached (hJ : Kept J) {db : Db} (hfounded : Founded db)
    (hkept : ∀ pk u, db.users.find? pk = some u → J u) (as : List (Async.Act Call Task.Fate)) :
    Inv J (reached srv db as) := by
  have hinit : Async.Sound (discipline J) (system srv) (fun _ _ _ _ => True)
      (Async.Pool.init (Store.init db)) := by
    refine Async.sound_init
      { written := fun _ _ h => nomatch h
        ordered := fun _ _ _ h => nomatch h
        founded := hfounded
        kept := hkept } fun n _ => ?_
    exact { rows := rfl, waits := rfl, locks := fun _ h => nomatch h }
  exact (Async.sound_run (starts hJ) hinit fun e _ => by
    cases e.act with
    | start c => trivial
    | resume n x => exact fun _ _ => trivial).inv

/-! ### The two results -/

theorem kept_true : Kept fun _ => True := by
  constructor <;> intros <;> trivial

/-- **There is no deadlock.**  However the calls run, and whoever waits for whom: no transaction
waits for itself, over others. -/
theorem no_deadlock {db : Db} (hfounded : Founded db) (as : List (Async.Act Call Task.Fate)) (n : ℕ) :
    ¬ Relation.TransGen (reached srv db as).table.WaitsFor n n :=
  LockTable.acyclic (inv_reached kept_true hfounded (fun _ _ _ => trivial) as).ordered n

/-- A server on which `ON CONFLICT DO NOTHING` waits. -/
def demoServer : Server where
  env :=
    { snapToR9 := fun lat lng => ("", lat, lng)
      earthDistance := fun _ _ _ _ => 0
      verify := fun _ => true }
  pg := .ideal
  decay := { enabled := true, grace_days := 1, horizon_days := 1, floor := 0 }
  awaitsUpdate := true

/-- A report of `pk`. -/
def demoReport (pk : Pubkey) (event : String) : CreateReportInput where
  report_type := "FIRE"
  description := none
  lat := 0
  lng := 0
  place_name := none
  nostr_pubkey := pk
  nostr_signature := ""
  nostr_event_id := event
  photo_ipfs_cid := none
  linked_event_id := none

/-- Two reports of one new user at the same time; the first has the user's key, the second asks for
it. -/
def demoRun : List (Async.Act Call Task.Fate) :=
  [.start (.createReport 0 "r" (demoReport "a" "e")), .start (.createReport 0 "q" (demoReport "a" "f")),
    .resume 0 .succeeds, .resume 0 .succeeds, .resume 1 .succeeds]

theorem founded_of_empty {db : Db} (h : db.authors = Table.empty) : Founded db := by
  intro id a ha
  rw [h] at ha
  cases ha

theorem no_deadlock_demo : (reached demoServer {} demoRun).table.WaitsFor 1 0 ∧
    ¬ Relation.TransGen (reached demoServer {} demoRun).table.WaitsFor 1 1 :=
  ⟨⟨by decide, .user "a", 1, rfl, Or.inl rfl⟩, no_deadlock (founded_of_empty rfl) demoRun 1⟩

/-- The tier of a user is the one of its effective score. -/
def User.Justified (u : User) : Prop := u.reputation_tier = computeTier u.effective_reputation_score

theorem kept_justified : Kept User.Justified :=
  { newVoter := fun _ => rfl
    newReporter := fun _ => rfl
    touch := fun _ _ h => h
    report := fun _ _ h => h
    reject := fun _ h => h
    verify := fun _ _ _ => rfl
    decay := fun _ _ _ => rfl }

/-- **Tiers match effective scores**, in every committed state. -/
theorem tier_matches {db : Db} (hfounded : Founded db)
    (hjustified : ∀ pk u, db.users.find? pk = some u → User.Justified u)
    (as : List (Async.Act Call Task.Fate)) (pk : Pubkey) (u : User)
    (hu : (reached srv db as).db.users.find? pk = some u) :
    u.reputation_tier = computeTier u.effective_reputation_score :=
  (inv_reached kept_justified hfounded hjustified as).kept pk u hu

/-- One user without reports. -/
def demoDb : Db := { users := Table.empty.insert "a" { created_at := 0, last_active := 0 } }

theorem tier_matches_demo :
    ((reached demoServer demoDb demoRun).db.users.find? "a").map User.reputation_tier =
      some (computeTier 0) := by
  have hjustified : ∀ pk u, demoDb.users.find? pk = some u → User.Justified u := by
    intro pk u hu
    unfold demoDb at hu
    dsimp only at hu
    rw [Table.find?_insert] at hu
    split_ifs at hu
    · obtain rfl := Option.some.inj hu
      rfl
    · cases hu
  obtain ⟨u, hu, heff⟩ : ∃ u, (reached demoServer demoDb demoRun).db.users.find? "a" = some u ∧
      u.effective_reputation_score = 0 := ⟨_, rfl, rfl⟩
  rw [hu, Option.map_some, tier_matches (founded_of_empty rfl) hjustified demoRun "a" u hu, heff]

end Locking
end Ledger
end SentinelMesh
