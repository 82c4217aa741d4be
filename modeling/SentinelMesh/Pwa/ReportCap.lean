/-
# Which report the cap drops

`upsert` of `store/reportSlice.ts` puts a report it has not seen in front and
cuts the list behind the hundredth.  The cut knows positions, not times: what
goes is the entry that was put in longest ago (`upsert_of_full`).  That is the
oldest report only where reports arrive from the oldest to the newest, and
`reportsHydrated` puts in what `list_reports` returns, from the newest to the
oldest, so that the newest of a page ends up behind all others
(`foldl_upsert_fresh`).

Ids never repeat and the list never grows past a hundred, whatever is dispatched
(`wellFormed_foldl`).  A list that has had its reports in the order of their
creation is from the newest to the oldest (`newestFirst_run`), and a dispatch
that goes on in that order drops the oldest (`drops_arrives`).  So does one that
drops nothing, and one that drops all: `keepsRecent_of_chronological`.
-/

import Mathlib.Data.String.Basic
import Mathlib.Order.Defs.LinearOrder
import Mathlib.Data.Finset.Card
import SentinelMesh.Pwa.Reports

namespace SentinelMesh
namespace Pwa
namespace Reports

open Lib Lib.Replica

variable {K : Type*} [LinearOrder K] {created : CommunityReport → K}
  {items : List CommunityReport} {report last : CommunityReport} {reports : List CommunityReport}

/-- No two entries with one id. -/
def Distinct (items : List CommunityReport) : Prop := (items.map CommunityReport.id).Nodup

theorem stored_eq_none : stored items report.id = none ↔ report.id ∉ items.map CommunityReport.id := by
  unfold stored
  rw [List.find?_eq_none, List.mem_map]
  simp

/-- A report that is stored is replaced in its place, or left: the ids are what
they were. -/
theorem map_id_upsert_of_stored (hlen : items.length ≤ 100)
    (h : stored items report.id ≠ none) :
    (upsert items report).map CommunityReport.id = items.map CommunityReport.id := by
  unfold upsert
  split
  · split_ifs
    · rfl
    · rw [List.take_of_length_le (by rwa [List.length_replaceF])]
      exact map_key_replaceF CommunityReport.id items report
  · rename_i hnone
    exact absurd hnone h

/-- One that is not is put in front, and the list cut. -/
theorem upsert_of_none (h : stored items report.id = none) :
    upsert items report = (report :: items).take 100 := by
  unfold upsert
  rw [h]

/-- In a list with room, nothing goes. -/
theorem upsert_of_room (h : stored items report.id = none) (hlen : items.length < 100) :
    upsert items report = report :: items :=
  (upsert_of_none h).trans (List.take_of_length_le hlen)

/-- **In a full list the last entry goes**, the one that was put in longest ago. -/
theorem upsert_of_full {front : List CommunityReport} (hitems : items = front ++ [last])
    (hfull : items.length = 100) (h : stored items report.id = none) :
    upsert items report = report :: front := by
  have hfront : (report :: front).length = 100 := by
    rw [← hfull, hitems, List.length_append, List.length_cons, List.length_singleton]
  rw [upsert_of_none h, hitems, ← List.cons_append, ← hfront, List.take_left]

/-- **Ids never repeat.** -/
theorem distinct_upsert (hlen : items.length ≤ 100) (h : Distinct items) :
    Distinct (upsert items report) := by
  unfold Distinct
  by_cases hs : stored items report.id = none
  · rw [upsert_of_none hs, List.map_take]
    exact (List.nodup_cons.mpr ⟨stored_eq_none.mp hs, h⟩).sublist (List.take_sublist _ _)
  · rw [map_id_upsert_of_stored hlen hs]
    exact h

/-- The entry with an id. -/
theorem stored_of_mem (hd : Distinct items) (h : report ∈ items) :
    stored items report.id = some report := by
  unfold stored
  obtain ⟨item, hitem⟩ := Option.isSome_iff_exists.mp (List.find?_isSome (p := fun r =>
    decide (r.id = report.id)) |>.mpr ⟨report, h, by simp⟩)
  have hid : item.id = report.id := by simpa using List.find?_some hitem
  rw [hitem, List.inj_on_of_nodup_map hd (List.mem_of_find?_eq_some hitem) h hid]

theorem mem_of_stored {item : CommunityReport} {id : Uuid} (h : stored items id = some item) :
    item ∈ items ∧ item.id = id :=
  ⟨List.mem_of_find?_eq_some h, by simpa using List.find?_some h⟩

/-- Nothing is made up. -/
theorem mem_upsert {y : CommunityReport} (h : y ∈ upsert items report) : y = report ∨ y ∈ items := by
  unfold upsert at h
  split at h
  · split_ifs at h
    · exact Or.inr h
    · have hreplaced := List.mem_of_mem_take h
      rcases List.exists_or_eq_self_of_replaceF
        (fun r => if r.id = report.id then some report else none) items with hsame |
        ⟨r, r', before, after, -, hr', hsplit, heq⟩
      · exact Or.inr (hsame ▸ hreplaced)
      · rw [heq, List.mem_append, List.mem_cons] at hreplaced
        rw [hsplit, List.mem_append, List.mem_cons]
        split_ifs at hr' with hid
        rcases hreplaced with hy | rfl | hy
        · exact Or.inr (Or.inl hy)
        · exact Or.inl (Option.some.inj hr').symm
        · exact Or.inr (Or.inr (Or.inr hy))
  · exact List.mem_cons.mp (List.mem_of_mem_take h)

theorem mem_foldl_upsert {y : CommunityReport} (h : y ∈ reports.foldl upsert items) :
    y ∈ items ∨ y ∈ reports := by
  induction reports generalizing items with
  | nil => exact Or.inl h
  | cons report reports ih =>
    rcases ih h with hy | hy
    · rcases mem_upsert hy with rfl | hy
      · exact Or.inr List.mem_cons_self
      · exact Or.inl hy
    · exact Or.inr (List.mem_cons_of_mem _ hy)

/-- A list of reports after others have been put in. -/
theorem wellFormed_foldl (hlen : items.length ≤ 100) (hd : Distinct items)
    (reports : List CommunityReport) :
    Distinct (reports.foldl upsert items) ∧ (reports.foldl upsert items).length ≤ 100 := by
  induction reports generalizing items with
  | nil => exact ⟨hd, hlen⟩
  | cons report reports ih => exact ih (length_upsert hlen report) (distinct_upsert hlen hd)

/-- The list of any run. -/
theorem wellFormed_run (actions : List Action) :
    Distinct (run reducer {} actions).items ∧ (run reducer {} actions).items.length ≤ 100 := by
  rw [items_run_reducer]
  have hempty : Distinct ([] : List CommunityReport) := List.nodup_nil
  exact wellFormed_foldl (Nat.zero_le _) hempty _

/-- What an action does to the list. -/
theorem items_reducer (state : ReportsState) (action : Action) :
    (reducer state action).items = action.reports.foldl upsert state.items := by
  cases action <;> rfl

/-! ### The clause of the cap -/

/-- What putting in reports drops, of the list or of themselves, is no newer than
what stays. -/
def DropsOldest (created : CommunityReport → K) (items reports : List CommunityReport) : Prop :=
  ∀ x ∈ items ++ reports, (∀ y ∈ reports.foldl upsert items, y.id ≠ x.id) →
    ∀ y ∈ reports.foldl upsert items, created x ≤ created y

/-- **The list keeps the most recent reports**: after every dispatch no id is
there twice and no more than a hundred entries are, and what the dispatch drops
is no newer than what stays. -/
def KeepsRecent (created : CommunityReport → K) (actions : List Action) : Prop :=
  ∀ e ∈ events reducer {} actions,
    Distinct e.post.items ∧ e.post.items.length ≤ 100 ∧
      ∀ x ∈ e.pre.items ++ e.act.reports, (∀ y ∈ e.post.items, y.id ≠ x.id) →
        ∀ y ∈ e.post.items, created x ≤ created y

/-- It is enough to look at what each dispatch drops. -/
theorem keepsRecent_of_drops {actions : List Action}
    (h : ∀ before action after, actions = before ++ action :: after →
      DropsOldest created (run reducer {} before).items action.reports) :
    KeepsRecent created actions := by
  intro e he
  obtain ⟨before, after, hactions, hpre, hpost⟩ := mem_events he
  have hitems : e.post.items = e.act.reports.foldl upsert e.pre.items := by
    rw [hpost, items_reducer]
  obtain ⟨hd, hlen⟩ := wellFormed_run before
  rw [← hpre] at hd hlen
  have hafter := wellFormed_foldl hlen hd e.act.reports
  rw [hitems]
  refine ⟨hafter.1, hafter.2, ?_⟩
  rw [hpre]
  exact h before e.act after hactions

/-! ### A dispatch that drops nothing -/

/-- There are a hundred reports at most, with those of the dispatch. -/
def Fits (items reports : List CommunityReport) : Prop :=
  ((items ++ reports).map CommunityReport.id).toFinset.card ≤ 100

/-- Where they fit, every id stays. -/
theorem ids_of_fits (hlen : items.length ≤ 100) (hd : Distinct items) (h : Fits items reports) :
    ((reports.foldl upsert items).map CommunityReport.id).toFinset =
      ((items ++ reports).map CommunityReport.id).toFinset := by
  induction reports generalizing items with
  | nil => simp
  | cons report reports ih =>
    have hids : ((upsert items report).map CommunityReport.id).toFinset =
        insert report.id (items.map CommunityReport.id).toFinset := by
      cases hs : stored items report.id with
      | none =>
        have hnew : report.id ∉ (items.map CommunityReport.id).toFinset :=
          fun hid => stored_eq_none.mp hs (List.mem_toFinset.mp hid)
        have hsub : insert report.id (items.map CommunityReport.id).toFinset ⊆
            ((items ++ report :: reports).map CommunityReport.id).toFinset := by
          intro id hid
          simp only [List.map_append, List.map_cons, List.toFinset_append, List.toFinset_cons,
            Finset.mem_insert, Finset.mem_union] at hid ⊢
          tauto
        have hcard := (Finset.card_le_card hsub).trans h
        rw [Finset.card_insert_of_notMem hnew, List.toFinset_card_of_nodup hd,
          List.length_map] at hcard
        rw [upsert_of_room hs hcard, List.map_cons, List.toFinset_cons]
      | some item =>
        obtain ⟨hitem, hid⟩ := mem_of_stored hs
        rw [map_id_upsert_of_stored hlen (by simp [hs]), Finset.insert_eq_of_mem]
        exact List.mem_toFinset.mpr (hid ▸ List.mem_map_of_mem hitem)
    have hall : ((upsert items report ++ reports).map CommunityReport.id).toFinset =
        ((items ++ report :: reports).map CommunityReport.id).toFinset := by
      rw [List.map_append, List.toFinset_append, hids, List.map_append, List.toFinset_append,
        List.map_cons, List.toFinset_cons, Finset.insert_union, Finset.union_insert]
    rw [List.foldl_cons, ih (length_upsert hlen report) (distinct_upsert hlen hd)
      (by unfold Fits; rw [hall]; exact h), hall]

theorem drops_of_fits (hlen : items.length ≤ 100) (hd : Distinct items) (h : Fits items reports) :
    DropsOldest created items reports := by
  intro x hx hgone
  have hid : x.id ∈ ((reports.foldl upsert items).map CommunityReport.id).toFinset := by
    rw [ids_of_fits hlen hd h, List.mem_toFinset]
    exact List.mem_map_of_mem hx
  obtain ⟨y, hy, hyx⟩ := List.mem_map.mp (List.mem_toFinset.mp hid)
  exact absurd hyx (hgone y hy)

/-! ### A dispatch in the order of creation -/

/-- Reports arrive in the order of their creation: none is older than what is there
or came before it, and one that replaces another was created with it. -/
structure Arrives (created : CommunityReport → K) (items reports : List CommunityReport) : Prop where
  inOrder : reports.Pairwise fun a b => created a ≤ created b
  noOlder : ∀ r ∈ reports, stored items r.id = none → ∀ y ∈ items, created y ≤ created r
  sameCreation : ∀ r ∈ reports, ∀ item, stored items r.id = some item → created item = created r
  sameReport : reports.Pairwise fun a b => a.id = b.id → created a = created b

/-- The list from the newest to the oldest. -/
def NewestFirst (created : CommunityReport → K) (items : List CommunityReport) : Prop :=
  (items.map created).Pairwise fun a b => b ≤ a

omit [LinearOrder K] in
/-- Replacing a report by one of the same creation moves nothing. -/
theorem map_created_replaceF {item : CommunityReport} (h : stored items report.id = some item)
    (hsame : created item = created report) :
    (items.replaceF fun r => if r.id = report.id then some report else none).map created =
      items.map created := by
  induction items with
  | nil => rfl
  | cons r items ih =>
    rw [List.replaceF_cons]
    by_cases hr : r.id = report.id
    · have hitem : r = item := by simpa [stored, hr] using h
      rw [if_pos hr]
      dsimp only
      rw [List.map_cons, List.map_cons, hitem, hsame]
    · have hrest : stored items report.id = some item := by simpa [stored, hr] using h
      rw [if_neg hr]
      dsimp only
      rw [List.map_cons, List.map_cons, ih hrest]

theorem newestFirst_upsert (hlen : items.length ≤ 100) (h : NewestFirst created items)
    (ha : Arrives created items (report :: reports)) : NewestFirst created (upsert items report) := by
  unfold NewestFirst
  cases hs : stored items report.id with
  | none =>
    rw [upsert_of_none hs, List.map_take]
    refine List.Pairwise.sublist (List.take_sublist _ _) (List.pairwise_cons.mpr ⟨fun k hk => ?_, h⟩)
    obtain ⟨y, hy, rfl⟩ := List.mem_map.mp hk
    exact ha.noOlder report List.mem_cons_self hs y hy
  | some item =>
    unfold upsert
    rw [hs]
    dsimp only
    split_ifs
    · exact h
    · rw [List.take_of_length_le (by rwa [List.length_replaceF]),
        map_created_replaceF hs (ha.sameCreation report List.mem_cons_self _ hs)]
      exact h

/-- The rest arrives in order in the list with the first of them. -/
theorem arrives_upsert (hlen : items.length ≤ 100) (hd : Distinct items)
    (ha : Arrives created items (report :: reports)) :
    Arrives created (upsert items report) reports where
  inOrder := (List.pairwise_cons.mp ha.inOrder).2
  noOlder r hr hnone y hy := by
    have hle : created report ≤ created r := (List.pairwise_cons.mp ha.inOrder).1 r hr
    rcases mem_upsert hy with rfl | hy
    · exact hle
    · by_cases hs : stored items report.id = none
      · exact (ha.noOlder report List.mem_cons_self hs y hy).trans hle
      · -- the ids are what they were, so that one that is new now was new before
        have hids := map_id_upsert_of_stored hlen hs
        have hold : stored items r.id = none := by
          rw [stored_eq_none] at hnone ⊢
          rwa [hids] at hnone
        exact ha.noOlder r (List.mem_cons_of_mem _ hr) hold y hy
  sameCreation r hr item hitem := by
    obtain ⟨hmem, hid⟩ := mem_of_stored hitem
    rcases mem_upsert hmem with rfl | hmem
    · exact (List.pairwise_cons.mp ha.sameReport).1 r hr hid
    · exact ha.sameCreation r (List.mem_cons_of_mem _ hr) item (hid ▸ stored_of_mem hd hmem)
  sameReport := (List.pairwise_cons.mp ha.sameReport).2

theorem newestFirst_foldl (hlen : items.length ≤ 100) (hd : Distinct items)
    (h : NewestFirst created items) (ha : Arrives created items reports) :
    NewestFirst created (reports.foldl upsert items) := by
  induction reports generalizing items with
  | nil => exact h
  | cons report reports ih =>
    exact ih (length_upsert hlen report) (distinct_upsert hlen hd) (newestFirst_upsert hlen h ha)
      (arrives_upsert hlen hd ha)

/-- **A list that has had its reports in order** is from the newest to the oldest. -/
theorem newestFirst_run {actions : List Action}
    (ha : ∀ e ∈ events reducer {} actions, Arrives created e.pre.items e.act.reports) :
    NewestFirst created (run reducer {} actions).items := by
  have hrun : Distinct (run reducer {} actions).items ∧ (run reducer {} actions).items.length ≤ 100 ∧
      NewestFirst created (run reducer {} actions).items := by
    refine run_induction_of (P := fun s : ReportsState => Distinct s.items ∧ s.items.length ≤ 100 ∧
      NewestFirst created s.items) (G := fun s (a : Action) => Arrives created s.items a.reports)
      ⟨List.nodup_nil, Nat.zero_le _, List.Pairwise.nil⟩ ?_ ha
    rintro s a ⟨hd, hlen, h⟩ ha
    rw [items_reducer]
    have hafter := wellFormed_foldl hlen hd a.reports
    exact ⟨hafter.1, hafter.2, newestFirst_foldl hlen hd h ha⟩
  exact hrun.2.2

/-- From the newest to the oldest, what a report drops is the oldest. -/
theorem le_of_dropped {x : CommunityReport} (hlen : items.length ≤ 100)
    (h : NewestFirst created items) (hs : stored items report.id = none) (hx : x ∈ items)
    (hgone : x ∉ upsert items report) : ∀ y ∈ items, created x ≤ created y := by
  rcases hlen.lt_or_eq with hroom | hfull
  · rw [upsert_of_room hs hroom] at hgone
    exact absurd (List.mem_cons_of_mem _ hx) hgone
  · obtain ⟨front, last, hitems⟩ : ∃ front last, items = front ++ [last] :=
      ⟨_, _, (List.dropLast_append_getLast (List.length_pos_iff.mp (by omega))).symm⟩
    rw [upsert_of_full hitems hfull hs] at hgone
    unfold NewestFirst at h
    rw [hitems, List.map_append, List.pairwise_append] at h
    rw [hitems] at hx ⊢
    obtain rfl : x = last := by
      rcases List.mem_append.mp hx with hx | hx
      · exact absurd (List.mem_cons_of_mem _ hx) hgone
      · exact List.mem_singleton.mp hx
    intro y hy
    rcases List.mem_append.mp hy with hy | hy
    · exact h.2.2 _ (List.mem_map_of_mem hy) _ (List.mem_map_of_mem List.mem_cons_self)
    · exact (congrArg created (List.mem_singleton.mp hy)).ge

/-- **Reports that arrive in the order of their creation** drop the oldest. -/
theorem drops_arrives (hlen : items.length ≤ 100) (hd : Distinct items)
    (h : NewestFirst created items) (ha : Arrives created items reports) :
    DropsOldest created items reports := by
  induction reports generalizing items with
  | nil =>
    intro x hx hgone
    rw [List.append_nil] at hx
    exact absurd rfl (hgone x hx)
  | cons report reports ih =>
    have hrest := ih (length_upsert hlen report) (distinct_upsert hlen hd)
      (newestFirst_upsert hlen h ha) (arrives_upsert hlen hd ha)
    -- What has an entry with its id and creation is dropped by the rest.
    have hentry : ∀ x, (∃ x' ∈ upsert items report, x'.id = x.id ∧ created x' = created x) →
        (∀ y ∈ reports.foldl upsert (upsert items report), y.id ≠ x.id) →
          ∀ y ∈ reports.foldl upsert (upsert items report),
            created x ≤ created y := by
      rintro x ⟨x', hx', hid, hcreated⟩ hgone
      rw [← hcreated]
      exact hrest x' (List.mem_append_left _ hx') (hid ▸ hgone)
    have hwritten : ∃ x' ∈ upsert items report, x'.id = report.id ∧ created x' = created report := by
      obtain ⟨holder, hreplaced, hnew, -⟩ := stored_upsert hlen report
      cases hs : stored items report.id with
      | none => exact ⟨report, (mem_of_stored (hnew hs)).1, rfl, rfl⟩
      | some item =>
        by_cases hlt : report.updated_at < item.updated_at
        · rw [holder item hs hlt]
          exact ⟨item, (mem_of_stored hs).1, (mem_of_stored hs).2,
            ha.sameCreation report List.mem_cons_self item hs⟩
        · exact ⟨report, (mem_of_stored (hreplaced item hs hlt)).1, rfl, rfl⟩
    intro x hx hgone
    rw [List.foldl_cons] at hgone ⊢
    rcases List.mem_append.mp hx with hold | hnew
    · by_cases hkept : x ∈ upsert items report
      · exact hentry x ⟨x, hkept, rfl, rfl⟩ hgone
      · by_cases hs : stored items report.id = none
        · -- it goes now, as the oldest of the list, and what arrives is no older than that
          have hle := le_of_dropped hlen h hs hold hkept
          have hreport := ha.noOlder report List.mem_cons_self hs x hold
          intro y hy
          have hfrom : y ∈ items ∨ y ∈ report :: reports := mem_foldl_upsert hy
          rcases hfrom with hy | hy
          · exact hle y hy
          · rcases List.mem_cons.mp hy with rfl | hy
            · exact hreport
            · exact hreport.trans ((List.pairwise_cons.mp ha.inOrder).1 y hy)
        · -- it was replaced
          have hids := map_id_upsert_of_stored hlen hs
          obtain ⟨x', hx', hid⟩ : ∃ x' ∈ upsert items report, x'.id = x.id :=
            List.mem_map.mp (hids ▸ List.mem_map_of_mem hold)
          refine hentry x ⟨x', hx', hid, ?_⟩ hgone
          rcases mem_upsert hx' with rfl | hx'
          · exact (ha.sameCreation _ List.mem_cons_self x (hid ▸ stored_of_mem hd hold)).symm
          · rw [List.inj_on_of_nodup_map hd hx' hold hid]
    · rcases List.mem_cons.mp hnew with rfl | hnew
      · exact hentry x hwritten hgone
      · exact hrest x (List.mem_append_right _ hnew) hgone

/-! ### A dispatch that drops all -/

/-- **New reports end up in the other order**, in front of what is left of the list. -/
theorem foldl_upsert_fresh (hlen : items.length ≤ 100) (hnodup : (reports.map CommunityReport.id ++
      items.map CommunityReport.id).Nodup) :
    reports.foldl upsert items = (reports.reverse ++ items).take 100 := by
  induction reports generalizing items with
  | nil => exact (List.take_of_length_le hlen).symm
  | cons report reports ih =>
    rw [List.map_cons, List.cons_append, List.nodup_cons, List.mem_append] at hnodup
    obtain ⟨hnew, hnodup⟩ := hnodup
    have hnone : stored items report.id = none := stored_eq_none.mpr fun h => hnew (Or.inr h)
    have hrest : (reports.map CommunityReport.id ++
        ((report :: items).take 100).map CommunityReport.id).Nodup := by
      refine List.Nodup.sublist (List.Sublist.append_left ((List.take_sublist _ _).map _) _) ?_
      rw [List.map_cons, List.nodup_middle, List.nodup_cons, List.mem_append]
      exact ⟨hnew, hnodup⟩
    rw [List.foldl_cons, upsert_of_none hnone, ih (List.length_take_le _ _) hrest,
      List.reverse_cons, List.append_assoc, List.singleton_append, List.take_append, List.take_append,
      List.take_take, Nat.min_eq_left (Nat.sub_le _ _)]

/-- A page of a hundred reports, all new and none older than what is there. -/
structure Replaces (created : CommunityReport → K) (items reports : List CommunityReport) : Prop where
  full : reports.length = 100
  nodup : (reports.map CommunityReport.id ++ items.map CommunityReport.id).Nodup
  noOlder : ∀ r ∈ reports, ∀ y ∈ items, created y ≤ created r

theorem drops_replaces (hlen : items.length ≤ 100) (h : Replaces created items reports) :
    DropsOldest created items reports := by
  have hpage : reports.foldl upsert items = reports.reverse := by
    rw [foldl_upsert_fresh hlen h.nodup]
    exact List.take_left' (by rw [List.length_reverse, h.full])
  intro x hx hgone y hy
  rw [hpage, List.mem_reverse] at hy
  rcases List.mem_append.mp hx with hx | hx
  · exact h.noOlder y hy x hx
  · rw [hpage] at hgone
    exact absurd rfl (hgone x (List.mem_reverse.mpr hx))

/-! ### Runs -/

/-- **The condition on a dispatch**: with its reports there are a hundred at most, or
it and all dispatches before it brought theirs in the order of creation, or it brings a
hundred new ones that are no older than those of the list. -/
def Chronological (created : CommunityReport → K) (before : List Action) (action : Action) : Prop :=
  Fits (run reducer {} before).items action.reports ∨
    (∀ e ∈ events reducer {} (before ++ [action]), Arrives created e.pre.items e.act.reports) ∨
    Replaces created (run reducer {} before).items action.reports

/-- **The list keeps the most recent reports** in every run whose dispatches are
chronological. -/
theorem keepsRecent_of_chronological (created : CommunityReport → K) {actions : List Action}
    (h : ∀ before action after, actions = before ++ action :: after →
      Chronological created before action) : KeepsRecent created actions := by
  refine keepsRecent_of_drops fun before action after hactions => ?_
  obtain ⟨hd, hlen⟩ := wellFormed_run before
  rcases h before action after hactions with hfits | harrives | hreplaces
  · exact drops_of_fits hlen hd hfits
  · obtain ⟨hbefore, hthis⟩ := forall_events_append.mp harrives
    exact drops_arrives hlen hd (newestFirst_run hbefore) (hthis _ List.mem_cons_self)
  · exact drops_replaces hlen hreplaces

/-! ### A page from the newest to the oldest -/

/-- **A full page loses its newest report** to the next one, unless all of it was
created at once. -/
theorem not_keepsRecent_page {page : List CommunityReport} {newest older : CommunityReport}
    (hpage : page.length = 99) (hnodup : ((newest :: page).map CommunityReport.id).Nodup)
    (hnew : report.id ∉ (newest :: page).map CommunityReport.id) (holder : older ∈ page)
    (hlt : created older < created newest) :
    ¬ KeepsRecent created [.reportsHydrated (newest :: page), .reportReceived report] := by
  intro hkeeps
  have hlist : (newest :: page).foldl upsert [] = page.reverse ++ [newest] := by
    rw [foldl_upsert_fresh (Nat.zero_le _) (by simpa using hnodup), List.append_nil,
      List.reverse_cons]
    exact List.take_of_length_le (by simp [hpage])
  have hnone : stored (page.reverse ++ [newest]) report.id = none := by
    refine stored_eq_none.mpr fun h => hnew ?_
    rw [← List.reverse_cons, List.map_reverse, List.mem_reverse] at h
    exact h
  have hafter : upsert (page.reverse ++ [newest]) report = report :: page.reverse :=
    upsert_of_full rfl (by simp [hpage]) hnone
  obtain ⟨-, -, hdrops⟩ := List.forall_mem_singleton.mp (List.forall_mem_cons.mp hkeeps).2
  dsimp only [reducer] at hdrops
  rw [hlist, hafter] at hdrops
  refine hlt.not_ge (hdrops newest (by simp) (fun y hy he => ?_) older
    (List.mem_cons_of_mem _ (List.mem_reverse.mpr holder)))
  rw [List.map_cons, List.nodup_cons] at hnodup
  rcases List.mem_cons.mp hy with rfl | hy
  · exact hnew (he ▸ List.mem_cons_self)
  · exact hnodup.1 (he ▸ List.mem_map_of_mem (List.mem_reverse.mp hy))

/-- A report of the page, with a time of creation. -/
def pageReport (n : ℕ) (created_at : String) : CommunityReport :=
  { (demoReport (demoTime 0 noon_microsecond)).report with
    id := String.ofList (List.replicate n 'a'), created_at }

/-- The reports of one second. -/
def pageTail : List CommunityReport :=
  (List.range 99).map fun n => pageReport n "2026-07-01T12:00:00Z"

/-- The newest report of the page. -/
def pageHead : CommunityReport := pageReport 99 "2026-07-01T12:00:01Z"

theorem pageReport_id_injective : Function.Injective fun n => (pageReport n "").id := by
  intro m n h
  have hlist : List.replicate m 'a' = List.replicate n 'a' := String.ofList_injective h
  simpa using congrArg List.length hlist

/-- The ids of the page, whatever the times. -/
theorem map_id_page : (pageHead :: pageTail).map CommunityReport.id =
    (99 :: List.range 99).map fun n => (pageReport n "").id := by
  unfold pageHead pageTail
  rw [List.map_cons, List.map_map, List.map_cons]
  rfl

/-- A full page, from the newest to the oldest, and then a report created a
second later: the newest of the page is dropped, and ninety-nine older ones
stay. -/
theorem keepsRecent_page_fails :
    ((pageHead :: pageTail).map CommunityReport.created_at).Pairwise (fun a b => b ≤ a) ∧
      (pageHead :: pageTail).length = 100 ∧
      ¬ KeepsRecent CommunityReport.created_at
        [.reportsHydrated (pageHead :: pageTail),
          .reportReceived (pageReport 100 "2026-07-01T12:00:02Z")] := by
  have hlt : "2026-07-01T12:00:00Z" < "2026-07-01T12:00:01Z" := by decide
  refine ⟨?_, rfl, ?_⟩
  · unfold pageTail
    rw [List.map_cons, List.map_map, List.pairwise_cons, List.pairwise_map]
    refine ⟨fun t ht => ?_, List.pairwise_of_forall fun _ _ => le_refl "2026-07-01T12:00:00Z"⟩
    obtain ⟨n, _, rfl⟩ := List.mem_map.mp ht
    exact hlt.le
  · have holder : pageReport 0 "2026-07-01T12:00:00Z" ∈ pageTail :=
      List.mem_map_of_mem (List.mem_range.mpr (by decide))
    refine not_keepsRecent_page rfl ?_ ?_ holder hlt
    · rw [map_id_page]
      exact List.Nodup.map pageReport_id_injective (by decide)
    · rw [map_id_page]
      intro h
      obtain ⟨n, hn, he⟩ := List.mem_map.mp h
      have hn' : n = 100 := pageReport_id_injective he
      subst hn'
      exact absurd hn (by decide)

/-- A hundred later reports, from the newest to the oldest. -/
def laterPage : List CommunityReport :=
  (List.range 100).map fun n =>
    pageReport (n + 100) (if n = 0 then "2026-07-01T12:00:03Z" else "2026-07-01T12:00:02Z")

theorem map_id_laterPage : laterPage.map CommunityReport.id =
    ((List.range 100).map (· + 100)).map fun n => (pageReport n "").id := by
  unfold laterPage
  rw [List.map_map, List.map_map]
  rfl

/-- The later page is new to a client that shows the first one, and later. -/
theorem replaces_laterPage :
    Replaces CommunityReport.created_at ((pageHead :: pageTail).foldl upsert []) laterPage := by
  have hfresh : ((pageHead :: pageTail).map CommunityReport.id ++ []).Nodup := by
    rw [List.append_nil, map_id_page]
    exact List.Nodup.map pageReport_id_injective (by decide)
  have hitems : (pageHead :: pageTail).foldl upsert [] =
      ((pageHead :: pageTail).reverse ++ []).take 100 := foldl_upsert_fresh (Nat.zero_le _) hfresh
  rw [List.append_nil, List.take_of_length_le (by rw [List.length_reverse]; rfl)] at hitems
  refine ⟨rfl, ?_, fun r hr y hy => ?_⟩
  · rw [hitems, map_id_laterPage, List.map_reverse, map_id_page, ← List.map_reverse,
      ← List.map_append]
    exact List.Nodup.map pageReport_id_injective (by decide +kernel)
  · have hpage : y.created_at ≤ "2026-07-01T12:00:01Z" := by
      rw [hitems, List.mem_reverse] at hy
      rcases List.mem_cons.mp hy with rfl | hy
      · exact le_refl "2026-07-01T12:00:01Z"
      · obtain ⟨n, -, rfl⟩ := List.mem_map.mp hy
        exact le_of_lt (show "2026-07-01T12:00:00Z" < "2026-07-01T12:00:01Z" by decide)
    have hlater : "2026-07-01T12:00:01Z" ≤ r.created_at := by
      obtain ⟨n, -, rfl⟩ := List.mem_map.mp hr
      unfold pageReport
      dsimp only
      split_ifs
      · exact le_of_lt (show "2026-07-01T12:00:01Z" < "2026-07-01T12:00:03Z" by decide)
      · exact le_of_lt (show "2026-07-01T12:00:01Z" < "2026-07-01T12:00:02Z" by decide)
    exact hpage.trans hlater

/-- A full page is hydrated, and then another one that is newer: all of the first is dropped. -/
theorem keepsRecent_of_chronological_demo :
    KeepsRecent CommunityReport.created_at
      [.reportsHydrated (pageHead :: pageTail), .reportsHydrated laterPage] := by
  refine keepsRecent_of_chronological _ fun before action after hactions => ?_
  match before with
  | [] =>
    obtain ⟨rfl, -⟩ := List.cons.inj hactions
    have hlength : (([] ++ (pageHead :: pageTail)).map CommunityReport.id).length = 100 := by
      rw [List.length_map]
      rfl
    exact Or.inl ((List.toFinset_card_le _).trans_eq hlength)
  | [first] =>
    obtain ⟨rfl, hrest⟩ := List.cons.inj hactions
    obtain ⟨rfl, -⟩ := List.cons.inj hrest
    refine Or.inr (Or.inr ?_)
    rw [items_run_reducer, List.flatMap_singleton]
    exact replaces_laterPage
  | _ :: _ :: before =>
    have hlength := congrArg List.length hactions
    simp at hlength

end Reports
end Pwa
end SentinelMesh
