/-
# What transactions may count on

The discipline of the calls of `Reports/Statements.lean`, in the sense of rely and guarantee.

Of the store, `Inv`: a user's row that a transaction has written is one whose key it has; every
author of a report has a row; no call waits below a key it has; and every committed row of a user
is `J`, where `J` is any property the statements keep (`Kept`).  Keys are ordered by the stage of a
transaction at which they are taken (`Key.rank`): a committed report, a new user, then the
committed users by their keys, then the entries of the rows it inserts.  Where a new user is
committed its key goes up in that order, and no other transaction has it.

A call counts on this (`Rely`): the others leave alone what it has written, the keys it has, the key
it waits for and the rows of the users it has locked, and a user with a row keeps one.

`Under` says what is known of a transaction between two of its statements; `keeps_lock`,
`keeps_exec`, `keeps_transact` are the rules by which it is carried along a call.
-/

import SentinelMesh.Reports.Statements

namespace SentinelMesh
namespace Ledger
namespace Locking

open Lib

/-! ### The order of the keys -/

/-- The stage at which a key is taken; committed users are ordered by their keys. -/
def Key.rank (db : Db) : Key → ℕ ×ₗ String
  | .report _ => toLex (0, "")
  | .user pk => if (db.users.find? pk).isSome then toLex (2, pk) else toLex (1, "")
  | .newReport _ | .voteEvent _ => toLex (3, "")
  | .author _ | .vote _ _ => toLex (4, "")
  | .authorEvent _ => toLex (5, "")

/-- The stage of a key. -/
def Key.stage (db : Db) (k : Key) : ℕ := (ofLex (k.rank db)).1

theorem rank_lt_of_stage {db : Db} {h k : Key} (hlt : h.stage db < k.stage db) :
    h.rank db < k.rank db :=
  Prod.Lex.lt_iff.2 (Or.inl hlt)

theorem rank_user {db : Db} {pk : Pubkey} (h : (db.users.find? pk).isSome) :
    (Key.user pk).rank db = toLex (2, pk) := if_pos h

theorem stage_user (db : Db) (pk : Pubkey) :
    1 ≤ (Key.user pk).stage db ∧ (Key.user pk).stage db < 3 := by
  unfold Key.stage Key.rank
  dsimp only
  split
  · exact ⟨Nat.le_succ 1, Nat.lt_succ_self 2⟩
  · exact ⟨Nat.le_refl 1, Nat.lt_succ_of_lt (Nat.lt_succ_self 1)⟩

/-- The rank of a key is the same where the row of its user is. -/
theorem rank_congr {db db' : Db} {k : Key}
    (h : ∀ pk, k = .user pk → (db'.users.find? pk).isSome = (db.users.find? pk).isSome) :
    k.rank db' = k.rank db := by
  cases k with
  | user pk =>
      unfold Key.rank
      dsimp only
      rw [h pk rfl]
  | report _ | newReport _ | author _ | authorEvent _ | voteEvent _ | vote _ _ => rfl

/-- The rank of a key goes up where users get rows. -/
theorem rank_mono {db db' : Db}
    (h : ∀ pk, (db.users.find? pk).isSome → (db'.users.find? pk).isSome) (k : Key) :
    k.rank db ≤ k.rank db' := by
  cases k with
  | user pk =>
      unfold Key.rank
      dsimp only
      split
      · rename_i hpk
        rw [if_pos (h pk hpk)]
      · split
        · exact le_of_lt (Prod.Lex.lt_iff.2 (Or.inl (Nat.lt_succ_self 1)))
        · exact le_refl _
  | report _ | newReport _ | author _ | authorEvent _ | voteEvent _ | vote _ _ => exact le_refl _

/-! ### The discipline -/

/-- What the statements keep of the rows of users. -/
structure Kept (J : User → Prop) : Prop where
  newVoter : ∀ now, J (newVoter now)
  newReporter : ∀ now, J (newReporter now)
  touch : ∀ u now, J u → J { u with last_active := now }
  report : ∀ u now, J u → J { u with total_reports := u.total_reports + 1, last_active := now }
  reject : ∀ u, J u → J { u with rejected_reports := u.rejected_reports + 1 }
  verify : ∀ u now, J u → J (u.settle now .verified)
  decay : ∀ u eff, J u → J (u.decay eff)

/-- Every author of a report has a row. -/
def Founded (db : Db) : Prop :=
  ∀ id a, db.authors.find? id = some a → (db.users.find? a.nostr_pubkey).isSome

/-- The transaction of a call has a key. -/
def Has (n : ℕ) (k : Key) (s : Store) : Prop := s.locks.find? k = some n

/-- What always holds. -/
structure Inv (J : User → Prop) (s : Store) : Prop where
  written : ∀ n pk, ((s.rows n).users.find? pk).isSome → Has n (.user pk) s
  ordered : s.table.Ordered (Key.rank s.db)
  founded : Founded s.db
  kept : ∀ pk u, s.db.users.find? pk = some u → J u

/-- What a call counts on. -/
structure Rely (n : ℕ) (s s' : Store) : Prop where
  rows : s'.rows n = s.rows n
  waits : s'.waits n = s.waits n
  locks : ∀ k, Has n k s' ↔ Has n k s
  users : ∀ pk, (s.db.users.find? pk).isSome → (s'.db.users.find? pk).isSome
  held : ∀ pk, Has n (.user pk) s → s'.db.users.find? pk = s.db.users.find? pk

theorem Rely.refl (n : ℕ) (s : Store) : Rely n s s :=
  { rows := rfl
    waits := rfl
    locks := fun _ => Iff.rfl
    users := fun _ h => h
    held := fun _ _ => rfl }

theorem Rely.trans {n : ℕ} {s s' s'' : Store} (h : Rely n s s') (h' : Rely n s' s'') : Rely n s s'' :=
  { rows := h'.rows.trans h.rows
    waits := h'.waits.trans h.waits
    locks := fun k => (h'.locks k).trans (h.locks k)
    users := fun pk hpk => h'.users pk (h.users pk hpk)
    held := fun pk hpk => (h'.held pk ((h.locks _).2 hpk)).trans (h.held pk hpk) }

/-- A call that has not begun has nothing. -/
structure Idle (n : ℕ) (s : Store) : Prop where
  rows : s.rows n = {}
  waits : s.waits n = none
  locks : ∀ k, ¬ Has n k s

theorem Idle.rely {n : ℕ} {s s' : Store} (h : Idle n s) (hrely : Rely n s s') : Idle n s' :=
  { rows := hrely.rows.trans h.rows
    waits := hrely.waits.trans h.waits
    locks := fun k hk => h.locks k ((hrely.locks k).1 hk) }

/-- The discipline of the calls. -/
def discipline (J : User → Prop) : Async.Discipline Store Call Op Task.Fate where
  Inv := Inv J
  Rely := Rely
  Cond _ _ _ _ _ := True
  Local n i s := i = none → Idle n s
  refl := Rely.refl
  trans _ _ _ _ := Rely.trans
  stays _ _ _ _ hrely h hi := (h hi).rely hrely

/-- A property that the others leave as it is. -/
def Stable (n : ℕ) (P : Store → Prop) : Prop := ∀ s s', Rely n s s' → P s → P s'

/-- A part of a call keeps to the discipline. -/
abbrev Keeps (J : User → Prop) (srv : Server) (n : ℕ) (i : Call × Store) {α : Type}
    (P : Store → Prop) (t : Part α) (Q : α → Store → Prop) : Prop :=
  Async.Does (discipline J) (system srv).perform n i P t Q

variable {J : User → Prop} {srv : Server} {n : ℕ} {i : Call × Store} {s : Store}

/-- What a step has to show. -/
theorem guarantees {s' : Store} (hinv : Inv J s') (hothers : ∀ m, m ≠ n → Rely m s s') :
    (discipline J).Guarantees n i s s' :=
  { inv := hinv
    others := hothers
    own := fun h => nomatch h }

/-! ### What the steps of the server do -/

/-- What a transaction has written is over the committed rows. -/
theorem find?_view_users (s : Store) (n : ℕ) (pk : Pubkey) :
    (s.view n).users.find? pk = ((s.rows n).users.find? pk).or (s.db.users.find? pk) :=
  Table.find?_overlay _ _ _

theorem find?_view_authors (s : Store) (n : ℕ) (id : Uuid) :
    (s.view n).authors.find? id = ((s.rows n).authors.find? id).or (s.db.authors.find? id) :=
  Table.find?_overlay _ _ _

theorem find?_record_users (rows : Rows) (db : Db) (k : Option Key) (pk : Pubkey) :
    (rows.record db k).users.find? pk =
      if k = some (.user pk) then (db.users.find? pk).or (rows.users.find? pk)
      else rows.users.find? pk := by
  rcases k with - | k
  · rfl
  unfold Rows.record
  cases k with
  | user pk' =>
      by_cases hpk : pk = pk'
      · subst hpk
        cases hu : db.users.find? pk <;> simp [hu]
      · rw [if_neg fun h => hpk (Key.user.inj (Option.some.inj h)).symm]
        cases hu : db.users.find? pk' <;> simp [hu, hpk]
  | report _ | newReport _ | author _ | vote _ _ =>
      rw [if_neg (by simp)]
      dsimp only
      split <;> rfl
  | authorEvent _ | voteEvent _ => exact (if_neg (by simp)).symm

theorem find?_record_authors (rows : Rows) (db : Db) (k : Option Key) (id : Uuid) :
    (rows.record db k).authors.find? id =
      if k = some (.author id) then (db.authors.find? id).or (rows.authors.find? id)
      else rows.authors.find? id := by
  rcases k with - | k
  · rfl
  unfold Rows.record
  cases k with
  | author id' =>
      by_cases hid : id = id'
      · subst hid
        cases ha : db.authors.find? id <;> simp [ha]
      · rw [if_neg fun h => hid (Key.author.inj (Option.some.inj h)).symm]
        cases ha : db.authors.find? id' <;> simp [ha, hid]
  | report _ | newReport _ | user _ | vote _ _ =>
      rw [if_neg (by simp)]
      dsimp only
      split <;> rfl
  | authorEvent _ | voteEvent _ => exact (if_neg (by simp)).symm

/-- A step that leaves the committed tables as they are, and of the others what they have. -/
theorem rely_of_same {s' : Store} {m : ℕ} (hdb : s'.db = s.db) (hrows : s'.rows m = s.rows m)
    (hwaits : s'.waits m = s.waits m) (hlocks : ∀ k, Has m k s' ↔ Has m k s) : Rely m s s' :=
  { rows := hrows
    waits := hwaits
    locks := hlocks
    users := fun _ h => hdb ▸ h
    held := fun _ _ => by rw [hdb] }

/-- Calls that wait for what they waited for, on the same committed tables and with no more keys. -/
theorem ordered_of_same {s' : Store} (h : s.table.Ordered (Key.rank s.db)) (hdb : s'.db = s.db)
    (hwaits : ∀ m, s'.waits m = none ∨ s'.waits m = s.waits m ∧ ∀ k, Has m k s' → Has m k s) :
    s'.table.Ordered (Key.rank s'.db) := by
  intro m k j hm k' hk'
  rcases hwaits m with hnone | ⟨hsame, hkeys⟩
  · rw [show s'.waits m = some (k, j) from hm] at hnone
    cases hnone
  · rw [hdb]
    exact h m k j (hsame.symm.trans hm) k' (hkeys k' hk')

theorem has_grant (s : Store) (n : ℕ) (k k' : Key) (m : ℕ) (hfree : ∀ l ∈ s.locks.find? k, l = n) :
    Has m k' (s.grant n k) ↔ Has m k' s ∨ (k' = k ∧ m = n) := by
  change (s.locks.insert k n).find? k' = some m ↔ s.locks.find? k' = some m ∨ _
  rw [Table.find?_insert]
  by_cases hk : k' = k
  · subst hk
    rw [if_pos rfl]
    cases hl : s.locks.find? k' with
    | none => simp [eq_comm]
    | some l =>
        obtain rfl := hfree l hl
        simp [eq_comm]
  · rw [if_neg hk]
    simp [hk]

theorem has_release (s : Store) (n m : ℕ) (k : Key) : Has m k (s.release n) ↔ Has m k s ∧ m ≠ n := by
  change (s.locks.filter _).find? k = some m ↔ _
  rw [Table.find?_filter, Option.filter_eq_some_iff, decide_eq_true_eq]
  exact Iff.rfl

theorem waits_proceed (s : Store) (n m : ℕ) :
    (s.proceed n).waits m = none ∨ (s.proceed n).waits m = s.waits m := by
  by_cases hm : m = n
  · exact Or.inl (hm ▸ Function.update_self ..)
  · exact Or.inr (Function.update_of_ne hm ..)

theorem guarantees_proceed (h : Inv J s) : (discipline J).Guarantees n i s (s.proceed n) := by
  refine guarantees
    { written := h.written
      ordered := ordered_of_same h.ordered rfl fun m =>
        (waits_proceed s n m).imp_right fun hm => ⟨hm, fun _ hk => hk⟩
      founded := h.founded
      kept := h.kept } fun m hm => ?_
  exact rely_of_same rfl rfl (Function.update_of_ne hm ..) fun _ => Iff.rfl

theorem guarantees_request (h : Inv J s) {k : Key}
    (horder : ¬ Has n k s → ∀ h, Has n h s → h.rank s.db < k.rank s.db) :
    (discipline J).Guarantees n i s (s.request n k) := by
  unfold Store.request
  split
  · exact guarantees h fun m _ => Rely.refl m s
  · rename_i hk
    refine guarantees
      { written := h.written
        ordered := ?_
        founded := h.founded
        kept := h.kept } fun m hm => ?_
    · intro m k' j hm k'' hk''
      change Function.update s.waits n (some (k, s.tickets)) m = some (k', j) at hm
      by_cases hmn : m = n
      · subst hmn
        rw [Function.update_self] at hm
        obtain ⟨rfl, -⟩ := Prod.mk.inj (Option.some.inj hm)
        exact horder hk k'' hk''
      · rw [Function.update_of_ne hmn] at hm
        exact h.ordered m k' j hm k'' hk''
    · exact rely_of_same rfl rfl (Function.update_of_ne hm ..) fun _ => Iff.rfl

theorem guarantees_grant (h : Inv J s) {k : Key} (hfree : ∀ l ∈ s.locks.find? k, l = n) :
    (discipline J).Guarantees n i s (s.grant n k) := by
  refine guarantees
    { written := fun m pk hm => (has_grant s n k _ m hfree).2 (Or.inl (h.written m pk hm))
      ordered := ordered_of_same h.ordered rfl fun m => ?_
      founded := h.founded
      kept := h.kept } fun m hm => ?_
  · by_cases hm : m = n
    · exact Or.inl (hm ▸ Function.update_self ..)
    · refine Or.inr ⟨Function.update_of_ne hm .., fun k' hk' => ?_⟩
      exact ((has_grant s n k k' m hfree).1 hk').resolve_right fun hn => hm hn.2
  · refine rely_of_same rfl rfl (Function.update_of_ne hm ..) fun k' => ?_
    exact (has_grant s n k k' m hfree).trans (or_iff_left fun hn => hm hn.2)

theorem guarantees_write (h : Inv J s) {rows : Rows}
    (hwritten : ∀ pk, (rows.users.find? pk).isSome → Has n (.user pk) s) :
    (discipline J).Guarantees n i s (s.write n rows) := by
  refine guarantees
    { written := fun m pk hm => ?_
      ordered := h.ordered
      founded := h.founded
      kept := h.kept } fun m hm => ?_
  · change (((Function.update s.rows n rows) m).users.find? pk).isSome at hm
    by_cases hmn : m = n
    · subst hmn
      rw [Function.update_self] at hm
      exact hwritten pk hm
    · rw [Function.update_of_ne hmn] at hm
      exact h.written m pk hm
  · exact rely_of_same rfl (Function.update_of_ne hm ..) rfl fun _ => Iff.rfl

/-- **A step that changes the committed rows** of users that are its own or of no transaction, and
makes no user go. -/
theorem rely_of_db {s' : Store} {m : ℕ} (hrows : s'.rows m = s.rows m) (hwaits : s'.waits m = s.waits m)
    (hlocks : ∀ k, Has m k s' ↔ Has m k s)
    (husers : ∀ pk, (s.db.users.find? pk).isSome → (s'.db.users.find? pk).isSome)
    (hheld : ∀ pk, Has m (.user pk) s → s'.db.users.find? pk = s.db.users.find? pk) : Rely m s s' :=
  { rows := hrows
    waits := hwaits
    locks := hlocks
    users := husers
    held := hheld }

/-- Calls that wait still do so in order: the keys they have are as before, others may have gone
up. -/
theorem ordered_of_db {s' : Store} (h : s.table.Ordered (Key.rank s.db))
    (husers : ∀ pk, (s.db.users.find? pk).isSome → (s'.db.users.find? pk).isSome)
    (hwaits : ∀ m, s'.waits m = none ∨ s'.waits m = s.waits m ∧ (∀ k, Has m k s' → Has m k s) ∧
      ∀ pk, Has m (.user pk) s → s'.db.users.find? pk = s.db.users.find? pk) :
    s'.table.Ordered (Key.rank s'.db) := by
  intro m k j hm k' hk'
  rcases hwaits m with hnone | ⟨hsame, hkeys, hheld⟩
  · rw [show s'.waits m = some (k, j) from hm] at hnone
    cases hnone
  · have hrank : k'.rank s'.db = k'.rank s.db := rank_congr fun pk hpk => by
      subst hpk
      rw [hheld pk (hkeys _ hk')]
    rw [hrank]
    exact lt_of_lt_of_le (h m k j (hsame.symm.trans hm) k' (hkeys k' hk')) (rank_mono husers k)

theorem guarantees_release (h : Inv J s) : (discipline J).Guarantees n i s (s.release n) := by
  have hrows : ∀ m, m ≠ n → (s.release n).rows m = s.rows m := fun m hm => Function.update_of_ne hm ..
  have hlocks : ∀ m, m ≠ n → ∀ k, Has m k (s.release n) ↔ Has m k s := fun m hm k =>
    (has_release s n m k).trans (and_iff_left hm)
  refine guarantees
    { written := fun m pk hm => ?_
      ordered := ordered_of_same h.ordered rfl fun m => ?_
      founded := h.founded
      kept := h.kept } fun m hm => rely_of_same rfl (hrows m hm) (Function.update_of_ne hm ..) (hlocks m hm)
  · by_cases hmn : m = n
    · subst hmn
      rw [show (s.release m).rows m = {} from Function.update_self ..] at hm
      cases hm
    · rw [hrows m hmn] at hm
      exact (hlocks m hmn _).2 (h.written m pk hm)
  · exact (waits_proceed s n m).imp_right fun hm => ⟨hm, fun k hk => ((has_release s n m k).1 hk).1⟩

/-- **A transaction commits** rows that are `J`, of authors that have a row. -/
theorem guarantees_commit (h : Inv J s)
    (hkept : ∀ pk u, Has n (.user pk) s → (s.view n).users.find? pk = some u → J u)
    (hfounded : ∀ id a, (s.rows n).authors.find? id = some a →
      ((s.view n).users.find? a.nostr_pubkey).isSome) :
    (discipline J).Guarantees n i s (s.commit n) := by
  have hrows : ∀ m, m ≠ n → (s.commit n).rows m = s.rows m := fun m hm => Function.update_of_ne hm ..
  have hlocks : ∀ m, m ≠ n → ∀ k, Has m k (s.commit n) ↔ Has m k s := fun m hm k =>
    (has_release s n m k).trans (and_iff_left hm)
  have husers : ∀ pk, (s.db.users.find? pk).isSome → ((s.commit n).db.users.find? pk).isSome := by
    intro pk hpk
    rw [show (s.commit n).db.users.find? pk = _ from find?_view_users s n pk, Option.isSome_or, hpk,
      Bool.or_true]
  -- the rows of users that the transaction has not written stay
  have hsame : ∀ pk, ¬ Has n (.user pk) s →
      (s.commit n).db.users.find? pk = s.db.users.find? pk := by
    intro pk hpk
    rw [show (s.commit n).db.users.find? pk = _ from find?_view_users s n pk]
    cases hw : (s.rows n).users.find? pk with
    | none => rfl
    | some u => exact absurd (h.written n pk (by rw [hw]; rfl)) hpk
  have hheld : ∀ m, m ≠ n → ∀ pk, Has m (.user pk) s →
      (s.commit n).db.users.find? pk = s.db.users.find? pk := fun m hm pk hpk =>
    hsame pk fun hn => hm (Option.some.inj (hpk.symm.trans hn))
  refine guarantees
    { written := fun m pk hm => ?_
      ordered := ordered_of_db h.ordered husers fun m => ?_
      founded := fun id a ha => ?_
      kept := fun pk u hu => ?_ } fun m hm => rely_of_db (hrows m hm) (Function.update_of_ne hm ..)
        (hlocks m hm) husers (hheld m hm)
  · by_cases hmn : m = n
    · subst hmn
      rw [show (s.commit m).rows m = {} from Function.update_self ..] at hm
      cases hm
    · rw [hrows m hmn] at hm
      exact (hlocks m hmn _).2 (h.written m pk hm)
  · by_cases hmn : m = n
    · exact Or.inl (hmn ▸ Function.update_self ..)
    · exact Or.inr ⟨Function.update_of_ne hmn .., fun k => (hlocks m hmn k).1, hheld m hmn⟩
  · rw [show (s.commit n).db.authors.find? id = _ from find?_view_authors s n id] at ha
    rcases Option.or_eq_some_iff.1 ha with hown | ⟨-, hcommitted⟩
    · exact hfounded id a hown
    · exact husers _ (h.founded id a hcommitted)
  · by_cases hpk : Has n (.user pk) s
    · exact hkept pk u hpk hu
    · rw [hsame pk hpk] at hu
      exact h.kept pk u hu

/-- The `UPDATE` of the decay pass, on a row that no transaction has. -/
theorem guarantees_decay (hJ : Kept J) (h : Inv J s) {r : DecayRow}
    (hfree : s.locks.find? (.user r.nostr_pubkey) = none) :
    (discipline J).Guarantees n i s { s.proceed n with db := s.db.decay srv.decay r } := by
  have hfind : ∀ pk, (s.db.decay srv.decay r).users.find? pk = if pk = r.nostr_pubkey then
      (s.db.users.find? r.nostr_pubkey).map fun u => u.decay (r.effective srv.decay)
      else s.db.users.find? pk := fun pk => Table.find?_modify _ _ _ _
  have husers : ∀ pk, (s.db.users.find? pk).isSome →
      ((s.db.decay srv.decay r).users.find? pk).isSome := by
    intro pk hpk
    rw [hfind]
    split_ifs with heq
    · rw [Option.isSome_map, ← heq]
      exact hpk
    · exact hpk
  have hheld : ∀ m pk, Has m (.user pk) s →
      (s.db.decay srv.decay r).users.find? pk = s.db.users.find? pk := by
    intro m pk hpk
    rw [hfind, if_neg]
    rintro rfl
    exact absurd (hpk.symm.trans hfree) (Option.some_ne_none m)
  refine guarantees
    { written := h.written
      ordered := ordered_of_db h.ordered husers fun m =>
        (waits_proceed s n m).imp_right fun hm => ⟨hm, fun _ hk => hk, hheld m⟩
      founded := fun id a ha => husers _ (h.founded id a ha)
      kept := fun pk u hu => ?_ } fun m hm => rely_of_db rfl (Function.update_of_ne hm ..)
        (fun _ => Iff.rfl) husers (hheld m)
  change (s.db.decay srv.decay r).users.find? pk = some u at hu
  rw [hfind] at hu
  split_ifs at hu
  · obtain ⟨v, hv, rfl⟩ := Option.map_eq_some_iff.1 hu
    exact hJ.decay v _ (h.kept _ v hv)
  · exact h.kept pk u hu

/-! ### A transaction under way -/

/-- What is known of a transaction between two statements: its keys are of earlier stages than
`stage`, among them those of `held`; the users of `seen` have rows; the rows of the users whose keys
it has are `G`, with its own over them; and the authors it has written have rows. -/
structure Under (G : Pubkey → User → Prop) (n stage : ℕ) (held : List Key) (seen : List Pubkey)
    (s : Store) : Prop where
  below : ∀ k, Has n k s → k.stage s.db < stage
  held : ∀ k ∈ held, Has n k s
  seen : ∀ pk ∈ seen, ((s.view n).users.find? pk).isSome
  kept : ∀ pk u, Has n (.user pk) s → (s.view n).users.find? pk = some u → G pk u
  founded : ∀ id a, (s.rows n).authors.find? id = some a →
    ((s.view n).users.find? a.nostr_pubkey).isSome

variable {G G' : Pubkey → User → Prop} {stage : ℕ} {held : List Key} {seen : List Pubkey}

/-- A user with a row keeps one, in the eyes of a transaction. -/
theorem seen_rely {s' : Store} (hrely : Rely n s s') {pk : Pubkey}
    (h : ((s.view n).users.find? pk).isSome) : ((s'.view n).users.find? pk).isSome := by
  rw [find?_view_users, Option.isSome_or, Bool.or_eq_true] at h ⊢
  rw [hrely.rows]
  exact h.imp_right (hrely.users pk)

/-- The key of a transaction stays where it is in the order. -/
theorem rank_rely {s' : Store} (hrely : Rely n s s') {k : Key} (hk : Has n k s) :
    k.rank s'.db = k.rank s.db :=
  rank_congr fun pk hpk => by
    subst hpk
    rw [hrely.held pk hk]

/-- **What the others do leaves a transaction as it is.** -/
theorem under_stable : Stable n (Under G n stage held seen) := by
  intro s s' hrely h
  refine
    { below := fun k hk => ?_
      held := fun k hk => (hrely.locks k).2 (h.held k hk)
      seen := fun pk hpk => seen_rely hrely (h.seen pk hpk)
      kept := fun pk u hk hu => ?_
      founded := fun id a ha => ?_ }
  · have hk' := (hrely.locks k).1 hk
    have hstage : k.stage s'.db = k.stage s.db := congrArg (fun r => (ofLex r).1) (rank_rely hrely hk')
    rw [hstage]
    exact h.below k hk'
  · have hk' := (hrely.locks _).1 hk
    refine h.kept pk u hk' ?_
    rw [find?_view_users, hrely.rows, hrely.held pk hk'] at hu
    rw [find?_view_users]
    exact hu
  · rw [hrely.rows] at ha
    exact seen_rely hrely (h.founded id a ha)

/-- Less may be said of a transaction. -/
theorem Under.mono (h : Under G n stage held seen s) {stage' : ℕ} {held' : List Key}
    {seen' : List Pubkey} (hstage : stage ≤ stage') (hheld : ∀ k ∈ held', k ∈ held)
    (hseen : ∀ pk ∈ seen', pk ∈ seen) : Under G n stage' held' seen' s :=
  { below := fun k hk => lt_of_lt_of_le (h.below k hk) hstage
    held := fun k hk => h.held k (hheld k hk)
    seen := fun pk hpk => h.seen pk (hseen pk hpk)
    kept := h.kept
    founded := h.founded }

/-- Getting in line changes nothing of it. -/
theorem Under.request (h : Under G n stage held seen s) (k : Key) :
    Under G n stage held seen (s.request n k) := by
  unfold Store.request
  split
  · exact h
  · exact { below := h.below, held := h.held, seen := h.seen, kept := h.kept, founded := h.founded }

/-- A transaction gets a key; the row of a user that it locks is `J`, as it is a committed one. -/
theorem Under.grant (h : Under (fun _ => J) n stage held seen s) (hinv : Inv J s) {k : Key}
    (hfree : ∀ l ∈ s.locks.find? k, l = n) {stage' : ℕ} (hle : stage ≤ stage')
    (hstage : k.stage s.db < stage') :
    Under (fun _ => J) n stage' (k :: held) seen (s.grant n k) := by
  have hhas : ∀ k', Has n k' (s.grant n k) ↔ Has n k' s ∨ k' = k := fun k' =>
    (has_grant s n k k' n hfree).trans (or_congr_right (and_iff_left rfl))
  refine
    { below := fun k' hk' => ?_
      held := fun k' hk' => (hhas k').2 ?_
      seen := h.seen
      kept := fun pk u hk' hu => ?_
      founded := h.founded }
  · rcases (hhas k').1 hk' with hk' | rfl
    · exact lt_of_lt_of_le (h.below k' hk') hle
    · exact hstage
  · rcases List.mem_cons.1 hk' with rfl | hk'
    · exact Or.inr rfl
    · exact Or.inl (h.held k' hk')
  · change (s.view n).users.find? pk = some u at hu
    by_cases hhad : Has n (.user pk) s
    · exact h.kept pk u hhad hu
    · rw [find?_view_users] at hu
      cases hw : (s.rows n).users.find? pk with
      | some v => exact absurd (hinv.written n pk (by rw [hw]; rfl)) hhad
      | none =>
          rw [hw, Option.none_or] at hu
          exact hinv.kept pk u hu

/-! ### The rules -/

/-- **An operation that may fail**, and then leaves all but the line it waits in as it is. -/
theorem keeps_attempt {op : Op} {P : Store → Prop} {Q : op.Ans → Store → Prop}
    (hfails : ∀ s, perform srv n op .fails s = some (none, s.proceed n)) (hP : Stable n P)
    (hQ : ∀ a, Stable n (Q a))
    (hop : ∀ s r s', Inv J s → P s → perform srv n op .succeeds s = some (r, s') →
      (discipline J).Guarantees n i s s' ∧ ∀ a, r = some a → Q a s') :
    Keeps J srv n i P (attempt op) Q := by
  refine Async.does_attempt hP hQ fun s x r s' hinv _ hp hperform => ?_
  cases x with
  | fails =>
      obtain ⟨rfl, rfl⟩ := Prod.mk.inj (Option.some.inj ((hfails s).symm.trans hperform))
      exact ⟨guarantees_proceed hinv, fun _ ha => nomatch ha⟩
  | succeeds => exact hop s r s' hinv hp hperform

/-- **A key is asked for and waited for**, where it is above all that the transaction has. -/
theorem keeps_lock {P Q : Store → Prop} {k : Key} (hP : Stable n P) (hQ : Stable n Q)
    (hrequest : ∀ s, P s → P (s.request n k))
    (horder : ∀ s, Inv J s → P s → ¬ Has n k s → ∀ h, Has n h s → h.rank s.db < k.rank s.db)
    (hgrant : ∀ s, Inv J s → P s → (∀ l ∈ s.locks.find? k, l = n) → Q (s.grant n k)) :
    Keeps J srv n i P (lock k) fun _ => Q := by
  refine Async.Does.bind (Q := fun _ => P) ?_ fun _ => ?_
  · refine keeps_attempt (fun _ => rfl) hP (fun _ => hP) fun s r s' hinv hp hperform => ?_
    obtain ⟨rfl, rfl⟩ := Prod.mk.inj (Option.some.inj hperform)
    exact ⟨guarantees_request hinv (horder s hinv hp), fun _ _ => hrequest s hp⟩
  · refine keeps_attempt (fun _ => rfl) hP (fun _ => hQ) fun s r s' hinv hp hperform => ?_
    change (if ∀ m ∈ s.locks.find? k, m = n then some (some (), s.grant n k) else none) =
      some (r, s') at hperform
    split_ifs at hperform with hfree
    obtain ⟨rfl, rfl⟩ := Prod.mk.inj (Option.some.inj hperform)
    exact ⟨guarantees_grant hinv hfree, fun _ _ => hgrant s hinv hp hfree⟩

/-- A key of a later stage. -/
theorem keeps_lock_new {k : Key} {stage' : ℕ} (hk : ∀ db, stage ≤ k.stage db)
    (hk' : ∀ db, k.stage db < stage') :
    Keeps J srv n i (Under (fun _ => J) n stage held seen) (lock k) fun _ =>
      Under (fun _ => J) n stage' (k :: held) seen := by
  refine keeps_lock under_stable under_stable (fun s h => h.request k) ?_ ?_
  · exact fun s _ h _ k' hhas => rank_lt_of_stage (lt_of_lt_of_le (h.below k' hhas) (hk s.db))
  · exact fun s hinv h hfree =>
      h.grant hinv hfree (le_of_lt (lt_of_le_of_lt (hk s.db) (hk' s.db))) (hk' s.db)

/-- A key that the transaction has. -/
theorem keeps_lock_held {k : Key} (hk : k ∈ held) :
    Keeps J srv n i (Under G n stage held seen) (lock k) fun _ => Under G n stage held seen := by
  refine keeps_lock under_stable under_stable (fun s h => h.request k) ?_ ?_
  · exact fun s _ h hnot => absurd (h.held k hk) hnot
  · intro s _ h hfree
    have hsame : ∀ k', Has n k' (s.grant n k) ↔ Has n k' s := fun k' =>
      (has_grant s n k k' n hfree).trans (or_iff_left_of_imp fun ⟨heq, _⟩ => heq ▸ h.held k hk)
    exact
      { below := fun k' hk' => h.below k' ((hsame k').1 hk')
        held := fun k' hk' => (hsame k').2 (h.held k' hk')
        seen := h.seen
        kept := fun pk u hk' => h.kept pk u ((hsame _).1 hk')
        founded := h.founded }

/-- **A statement**: what it leaves where it succeeds. -/
theorem keeps_exec {P : Store → Prop} {st : Stmt} {Q : st.Ans → Store → Prop} (hP : Stable n P)
    (hQ : ∀ a, Stable n (Q a))
    (hheld : ∀ s, P s → ∀ pk, st.writes = some (.user pk) → Has n (.user pk) s)
    (hpost : ∀ s a view, Inv J s → P s → (st.run srv).run (s.view n) = .ok (a, view) →
      Q a (s.write n ((s.rows n).record view st.writes))) :
    Keeps J srv n i P (exec st) Q := by
  refine keeps_attempt (fun _ => rfl) hP hQ fun s r s' hinv hp hperform => ?_
  replace hperform : s.exec srv n st = (r, s') := Option.some.inj hperform
  unfold Store.exec at hperform
  split at hperform
  · rename_i a view hrun
    obtain ⟨rfl, rfl⟩ := Prod.mk.inj hperform
    refine ⟨guarantees_write hinv fun pk hpk => ?_, fun _ ha =>
      Option.some.inj ha ▸ hpost s a view hinv hp hrun⟩
    rw [find?_record_users] at hpk
    split_ifs at hpk with hk
    · exact hheld s hp pk hk
    · exact hinv.written n pk hpk
  · obtain ⟨rfl, rfl⟩ := Prod.mk.inj hperform
    exact ⟨guarantees hinv fun m _ => Rely.refl m s, fun a ha => absurd ha.symm (Option.some_ne_none a)⟩

/-- Nothing more is done. -/
theorem keeps_pure {α : Type} {P : Store → Prop} {Q : α → Store → Prop} {a : α}
    (h : ∀ s, P s → Q a s) (hQ : Stable n (Q a)) : Keeps J srv n i P (pure a : Part α) Q :=
  Async.does_pure (fun s _ hp => h s hp) hQ

/-- A statement that reads. -/
theorem keeps_read {st : Stmt} (hreads : st.writes = none) {Q : st.Ans → Store → Prop}
    (hQ : ∀ a, Stable n (Q a))
    (hpost : ∀ s a view, Inv J s → Under G n stage held seen s →
      (st.run srv).run (s.view n) = .ok (a, view) → Q a s) :
    Keeps J srv n i (Under G n stage held seen) (exec st) Q := by
  refine keeps_exec under_stable hQ (fun s _ pk hk => nomatch hreads.symm.trans hk) ?_
  intro s a view hinv hp hrun
  have hsame : s.write n ((s.rows n).record view st.writes) = s := by
    rw [hreads]
    unfold Store.write Rows.record
    rw [Function.update_eq_self]
  rw [hsame]
  exact hpost s a view hinv hp hrun

theorem find?_view_write (s : Store) (n : ℕ) (view : Db) (k : Option Key) (pk : Pubkey) :
    ((s.write n ((s.rows n).record view k)).view n).users.find? pk =
      if k = some (.user pk) then (view.users.find? pk).or ((s.view n).users.find? pk)
      else (s.view n).users.find? pk := by
  rw [find?_view_users, find?_view_users,
    show (s.write n ((s.rows n).record view k)).rows n = _ from Function.update_self ..,
    find?_record_users]
  split_ifs
  · exact Option.or_assoc
  · rfl

/-- **A statement of a transaction under way**: it has the key of the user it writes, the row it
leaves is `G'`, and an author it writes has a row. -/
theorem keeps_write {st : Stmt} {G' : st.Ans → Pubkey → User → Prop}
    (hheld : ∀ pk, st.writes = some (.user pk) → .user pk ∈ held)
    (hrow : ∀ pk, st.writes = some (.user pk) → ∀ db a db', (st.run srv).run db = .ok (a, db') →
      (∀ v, db.users.find? pk = some v → G pk v) →
        ∀ u, (db'.users.find? pk).or (db.users.find? pk) = some u → G' a pk u)
    (hother : ∀ a pk u, st.writes ≠ some (.user pk) → G pk u → G' a pk u)
    (hauthor : ∀ id, st.writes = some (.author id) → ∀ db a db', (st.run srv).run db = .ok (a, db') →
      ∀ b, db'.authors.find? id = some b → db.authors.find? id = some b ∨ b.nostr_pubkey ∈ seen) :
    Keeps J srv n i (Under G n stage held seen) (exec st) fun a => Under (G' a) n stage held seen := by
  refine keeps_exec under_stable (fun _ => under_stable) (fun s h pk hk => h.held _ (hheld pk hk)) ?_
  intro s a view hinv h hrun
  have hsome : ∀ pk, ((s.view n).users.find? pk).isSome →
      (((s.write n ((s.rows n).record view st.writes)).view n).users.find? pk).isSome := by
    intro pk hpk
    rw [find?_view_write]
    split_ifs
    · rw [Option.isSome_or, hpk, Bool.or_true]
    · exact hpk
  refine
    { below := h.below
      held := h.held
      seen := fun pk hpk => hsome pk (h.seen pk hpk)
      kept := fun pk u hk hu => ?_
      founded := fun id b hb => ?_ }
  · rw [find?_view_write] at hu
    split_ifs at hu with hwrites
    · exact hrow pk hwrites _ a view hrun (fun v hv => h.kept pk v hk hv) u hu
    · exact hother a pk u hwrites (h.kept pk u hk hu)
  · rw [show (s.write n ((s.rows n).record view st.writes)).rows n = _ from Function.update_self ..,
      find?_record_authors] at hb
    refine hsome _ ?_
    split_ifs at hb with hwrites
    · rcases Option.or_eq_some_iff.1 hb with hnew | ⟨-, hold⟩
      · rcases hauthor id hwrites _ a view hrun b hnew with hold | hseen
        · rw [find?_view_authors] at hold
          rcases Option.or_eq_some_iff.1 hold with hown | ⟨-, hcommitted⟩
          · exact h.founded id b hown
          · rw [find?_view_users, Option.isSome_or, hinv.founded id b hcommitted, Bool.or_true]
        · exact h.seen _ hseen
      · exact h.founded id b hold
    · exact h.founded id b hb

/-- **`begin` to `commit`.** -/
theorem keeps_transact {α : Type} {P : Store → Prop} {body : Part α} {Q : α → Store → Prop}
    (h : Keeps J srv n i P body Q)
    (hQ : ∀ a s, Q a s → ∃ stage held seen, Under (fun _ => J) n stage held seen s) :
    Keeps J srv n i P (transact body) fun _ _ => True := by
  intro s hinv hown hp
  refine Async.Safe.bind hinv hown (h s hinv hown hp) fun b s hinv hown hb => ?_
  cases b with
  | some a =>
      intro s₁ hinv₁ _ hrely x r s₂ _ hperform
      obtain ⟨stage, held, seen, hunder⟩ := hQ a s (hb a rfl)
      have hunder₁ := under_stable s s₁ hrely hunder
      refine ⟨?_, fun _ _ _ _ _ _ => trivial⟩
      cases x with
      | fails =>
          obtain ⟨rfl, rfl⟩ := Prod.mk.inj (Option.some.inj hperform)
          exact guarantees_release hinv₁
      | succeeds =>
          obtain ⟨rfl, rfl⟩ := Prod.mk.inj (Option.some.inj hperform)
          exact guarantees_commit hinv₁ hunder₁.kept hunder₁.founded
  | none =>
      intro s₁ hinv₁ _ hrely x r s₂ _ hperform
      refine ⟨?_, fun _ _ _ _ _ ha => nomatch ha⟩
      have hrelease : some (some (), s₁.release n) = some (r, s₂) := by
        cases x <;> exact hperform
      obtain ⟨rfl, rfl⟩ := Prod.mk.inj (Option.some.inj hrelease)
      exact guarantees_release hinv₁

end Locking
end Ledger
end SentinelMesh
