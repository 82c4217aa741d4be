/-
# Names held for a time

A key holds at most one thing, which has a name and an instant until which it is held.  A claim first
lets what has the name and is past its time go, and is refused where another key still has the name;
a release lets go at once.  Nothing else changes what a key holds.

No two keys hold one name (`exclusive_run`).  A claim is refused exactly where another key holds the
name at that instant (`claim_eq_none_iff`), and at any instant that is not before those of the
claims, a key holds what it last claimed, if that is not past its time (`find?_run_iff`): in whatever
order the claims are made, and whatever their instants.
-/

import SentinelMesh.Lib.Run
import SentinelMesh.Lib.Table
import Mathlib.Order.Lattice

namespace Lib
namespace Lease

variable {κ ν ρ K : Type} [DecidableEq κ] [DecidableEq ρ] [LinearOrder K]
variable (name : ν → ρ) (till : ν → K)

/-- What has the name and is past its time is let go. -/
def lapse (t : Table κ (Option ν)) (r : ρ) (now : K) : Table κ (Option ν) :=
  t.map fun _ held => held.filter fun v => !decide (name v = r ∧ till v ≤ now)

/-- Another key has the name. -/
def taken (t : Table κ (Option ν)) (k : κ) (r : ρ) : Bool :=
  t.rows.any fun row => decide (row.1 ≠ k) && row.2.any fun v => decide (name v = r)

/-- A key claims what it is to hold; `none` where it is refused. -/
def claim (t : Table κ (Option ν)) (k : κ) (v : ν) (now : K) : Option (Table κ (Option ν)) :=
  if taken name (lapse name till t (name v) now) k (name v) then none
  else some ((lapse name till t (name v) now).put k (some v))

/-- A key lets go. -/
def release (t : Table κ (Option ν)) (k : κ) : Table κ (Option ν) := t.modify k fun _ => none

/-- What a key does. -/
inductive Op (κ ν K : Type)
  | claim (k : κ) (v : ν) (now : K)
  | release (k : κ)

/-- The key that does it. -/
def Op.key : Op κ ν K → κ
  | claim k _ _ => k
  | release k => k

/-- The instant is not before those of the claims. -/
def Op.Before (now : K) : Op κ ν K → Prop
  | claim _ _ now' => now' ≤ now
  | release _ => True

/-- What becomes of the table; `none` where a claim is refused. -/
def apply (t : Table κ (Option ν)) : Op κ ν K → Option (Table κ (Option ν))
  | .claim k v now => claim name till t k v now
  | .release k => some (release t k)

/-- An action of a system on the table, if `op` says that it is a claim or a release. -/
def step {α : Type} (op : α → Option (Op κ ν K)) (t : Table κ (Option ν)) (a : α) :
    Table κ (Option ν) :=
  ((op a).bind (apply name till t)).getD t

/-- What a key holds. -/
def held (t : Table κ (Option ν)) (k : κ) : Option ν := (t.find? k).join

/-- No two keys hold one name. -/
def Exclusive (t : Table κ (Option ν)) : Prop :=
  ∀ k k' v v', held t k = some v → held t k' = some v' → name v = name v' → k = k'

variable {name till} {t t' : Table κ (Option ν)} {k k' : κ} {v w : ν} {r : ρ} {now : K}

theorem held_eq_some_iff : held t k = some v ↔ t.find? k = some (some v) :=
  Option.join_eq_some_iff

@[simp] theorem held_lapse :
    held (lapse name till t r now) k =
      (held t k).filter fun v => !decide (name v = r ∧ till v ≤ now) := by
  unfold held lapse
  rw [Table.find?_map]
  cases t.find? k with
  | none => rfl
  | some held => rfl

@[simp] theorem held_release : held (release t k) k' = if k' = k then none else held t k' := by
  unfold held release
  rw [Table.find?_modify]
  split_ifs with h
  · cases t.find? k with
    | none => rfl
    | some held => rfl
  · rfl

theorem taken_iff :
    taken name t k r = true ↔ ∃ k' v, k' ≠ k ∧ held t k' = some v ∧ name v = r := by
  unfold taken
  rw [List.any_eq_true]
  constructor
  · rintro ⟨⟨k', held⟩, hrow, h⟩
    rw [Bool.and_eq_true, decide_eq_true_eq, Option.any_eq_true] at h
    obtain ⟨hne, v, rfl, hname⟩ := h
    exact ⟨k', v, hne, held_eq_some_iff.2 (Table.find?_eq_some_iff.2 hrow), of_decide_eq_true hname⟩
  · rintro ⟨k', v, hne, hheld, hname⟩
    refine ⟨(k', some v), Table.find?_eq_some_iff.1 (held_eq_some_iff.1 hheld), ?_⟩
    simp [hne, hname]

/-- What is left of the holders of a name are those whose time is not past. -/
theorem held_lapse_eq_some_iff :
    held (lapse name till t r now) k = some v ↔
      held t k = some v ∧ (name v = r → now < till v) := by
  rw [held_lapse, Option.filter_eq_some_iff]
  simp [imp_iff_not_or]

/-- **A claim is refused exactly where another key holds the name.** -/
theorem claim_eq_none_iff :
    claim name till t k v now = none ↔
      ∃ k' v', k' ≠ k ∧ held t k' = some v' ∧ name v' = name v ∧ now < till v' := by
  have hnone : claim name till t k v now = none ↔
      taken name (lapse name till t (name v) now) k (name v) = true := by
    unfold claim
    split_ifs with h
    · simp [h]
    · simp [h]
  simp only [hnone, taken_iff, held_lapse_eq_some_iff]
  constructor
  · rintro ⟨k', v', hne, ⟨hheld, htime⟩, hname⟩
    exact ⟨k', v', hne, hheld, hname, htime hname⟩
  · rintro ⟨k', v', hne, hheld, hname, htime⟩
    exact ⟨k', v', hne, ⟨hheld, fun _ => htime⟩, hname⟩

/-- What the keys hold after a claim. -/
theorem held_claim (h : claim name till t k v now = some t') :
    held t' k' =
      if k' = k then some v
      else (held t k').filter fun w => !decide (name w = name v ∧ till w ≤ now) := by
  unfold claim at h
  split_ifs at h with htaken
  obtain rfl := Option.some.inj h
  rw [← held_lapse]
  unfold held
  rw [Table.find?_put]
  split_ifs with hk
  · rfl
  · rfl

theorem held_claim_self (h : claim name till t k v now = some t') : held t' k = some v := by
  rw [held_claim h, if_pos rfl]

/-- What another key holds after a claim it held before, and its time is not past. -/
theorem held_claim_of_ne (h : claim name till t k v now = some t') (hk : k' ≠ k) :
    held t' k' = some w ↔ held t k' = some w ∧ (name w = name v → now < till w) := by
  rw [held_claim h, if_neg hk, ← held_lapse, held_lapse_eq_some_iff]

/-- A claim that is not refused leaves no other key that holds the name. -/
theorem name_ne_of_claim (h : claim name till t k v now = some t') (hk : k' ≠ k)
    (hw : held t' k' = some w) : name w ≠ name v := by
  intro hname
  obtain ⟨hheld, htime⟩ := (held_claim_of_ne h hk).1 hw
  have hrefused : claim name till t k v now = none :=
    claim_eq_none_iff.2 ⟨k', w, hk, hheld, hname, htime hname⟩
  rw [hrefused] at h
  cases h

/-! ### Runs -/

variable {o : Op κ ν K}

/-- Other keys hold no more after an action than before it. -/
theorem held_of_apply (h : apply name till t o = some t') (hk : k ≠ o.key)
    (hv : held t' k = some v) : held t k = some v := by
  cases o with
  | claim k' v' now => exact ((held_claim_of_ne h hk).1 hv).1
  | release k' =>
      obtain rfl := Option.some.inj h
      change k ≠ k' at hk
      rwa [held_release, if_neg hk] at hv

/-- What the key of an action holds after it, no other key holds. -/
theorem name_ne_of_apply (h : apply name till t o = some t') (hv : held t' o.key = some v)
    (hk : k ≠ o.key) (hw : held t' k = some w) : name w ≠ name v := by
  cases o with
  | claim k' v' now =>
      have hself : held t' k' = some v' := held_claim_self h
      obtain rfl : v' = v := Option.some.inj (hself.symm.trans hv)
      exact name_ne_of_claim h hk hw
  | release k' =>
      obtain rfl := Option.some.inj h
      change held (release t k') k' = some v at hv
      rw [held_release, if_pos rfl] at hv
      cases hv

/-- **No two keys hold one name**, before an action and after it. -/
theorem exclusive_apply (ht : Exclusive name t) (h : apply name till t o = some t') :
    Exclusive name t' := by
  intro k k' w w' hw hw' hname
  by_cases hkey : k = o.key
  · by_contra hne
    exact name_ne_of_apply h (hkey ▸ hw) (fun heq => hne (hkey.trans heq.symm)) hw' hname.symm
  · by_cases hkey' : k' = o.key
    · exact absurd hname (name_ne_of_apply h (hkey' ▸ hw') hkey hw)
    · exact ht k k' w w' (held_of_apply h hkey hw) (held_of_apply h hkey' hw') hname

variable {α : Type} {op : α → Option (Op κ ν K)} {a : α}

/-- **What an action does**: nothing, or what it claims or releases, if that is not refused. -/
theorem step_cases (name : ν → ρ) (till : ν → K) (op : α → Option (Op κ ν K))
    (t : Table κ (Option ν)) (a : α) :
    ((∀ o, op a = some o → apply name till t o = none) ∧ step name till op t a = t) ∨
      ∃ o, op a = some o ∧ apply name till t o = some (step name till op t a) := by
  unfold step
  cases ho : op a with
  | none => exact .inl ⟨by simp, rfl⟩
  | some o =>
      cases h : apply name till t o with
      | none =>
          refine .inl ⟨fun o' ho' => ?_, ?_⟩
          · obtain rfl := Option.some.inj ho'
            exact h
          · rw [Option.bind_some, h, Option.getD_none]
      | some t' =>
          refine .inr ⟨o, rfl, ?_⟩
          rw [Option.bind_some, h, Option.getD_some]

theorem exclusive_run (ht : Exclusive name t) (as : List α) :
    Exclusive name (run (step name till op) t as) := by
  refine run_induction ht (fun t a ht => ?_) as
  rcases step_cases name till op t a with ⟨-, heq⟩ | ⟨o, -, h⟩
  · rwa [heq]
  · exact exclusive_apply ht h

/-- Of the claims and releases of the key that were not refused, the last was to claim this. -/
def LastClaimed (name : ν → ρ) (till : ν → K) (op : α → Option (Op κ ν K))
    (t : Table κ (Option ν)) (as : List α) (k : κ) (v : ν) : Prop :=
  ∃ before a now after, as = before ++ a :: after ∧ op a = some (.claim k v now) ∧
    claim name till (run (step name till op) t before) k v now ≠ none ∧
    ∀ e ∈ events (step name till op) (run (step name till op) t (before ++ [a])) after,
      ∀ o, op e.act = some o → o.key = k → apply name till e.pre o = none

/-- The last claim, with one more action. -/
theorem lastClaimed_concat {as : List α} :
    LastClaimed name till op t (as ++ [a]) k v ↔
      (∃ now, op a = some (.claim k v now) ∧
        claim name till (run (step name till op) t as) k v now ≠ none) ∨
        (LastClaimed name till op t as k v ∧ ∀ o, op a = some o → o.key = k →
          apply name till (run (step name till op) t as) o = none) := by
  constructor
  · rintro ⟨before, a', now, after, has, ha, hclaim, hafter⟩
    rcases List.eq_nil_or_concat' after with rfl | ⟨after, a'', rfl⟩
    · obtain ⟨rfl, hlast⟩ := List.append_inj' has rfl
      obtain rfl := List.singleton_inj.1 hlast
      exact .inl ⟨now, ha, hclaim⟩
    · rw [← List.cons_append, ← List.append_assoc] at has
      obtain ⟨rfl, hlast⟩ := List.append_inj' has rfl
      obtain rfl := List.singleton_inj.1 hlast
      rw [events_concat, List.forall_mem_append, List.forall_mem_singleton, ← run_append,
        List.append_assoc, List.singleton_append] at hafter
      exact .inr ⟨⟨before, a', now, after, rfl, ha, hclaim, hafter.1⟩, hafter.2⟩
  · rintro (⟨now, ha, hclaim⟩ | ⟨⟨before, a', now, after, rfl, ha, hclaim, hafter⟩, hlast⟩)
    · exact ⟨as, a, now, [], rfl, ha, hclaim, by simp⟩
    · refine ⟨before, a', now, after ++ [a], by simp, ha, hclaim, ?_⟩
      rw [events_concat, List.forall_mem_append, List.forall_mem_singleton, ← run_append,
        List.append_assoc, List.singleton_append]
      exact ⟨hafter, hlast⟩

/-- **A key holds what it last claimed**, as long as the time of that is not past: whatever the
instants of the claims, if none is after this one. -/
theorem held_run_iff (ht : ∀ k, held t k = none) {as : List α} {k : κ} {v : ν} {now : K}
    (has : ∀ a ∈ as, ∀ o, op a = some o → o.Before now) (hv : now < till v) :
    held (run (step name till op) t as) k = some v ↔ LastClaimed name till op t as k v := by
  induction as using List.reverseRecOn with
  | nil =>
      rw [run_nil, ht]
      constructor
      · intro h
        cases h
      · rintro ⟨before, a, now, after, h, -⟩
        simp at h
  | append_singleton as a ih =>
      rw [List.forall_mem_append, List.forall_mem_singleton] at has
      rw [run_concat, lastClaimed_concat, ← ih has.1]
      generalize run (step name till op) t as = s
      rcases step_cases name till op s a with ⟨hnone, heq⟩ | ⟨o, ho, h⟩
      · have hclaim : ¬∃ now, op a = some (.claim k v now) ∧ claim name till s k v now ≠ none := by
          rintro ⟨now, ha, hclaim⟩
          exact hclaim (hnone _ ha)
        rw [heq, or_iff_right hclaim, and_iff_left fun o ho _ => hnone o ho]
      · have hclaim : (∃ now, op a = some (.claim k v now) ∧ claim name till s k v now ≠ none) ↔
            ∃ now, o = .claim k v now := by
          constructor
          · rintro ⟨now, ha, -⟩
            exact ⟨now, Option.some.inj (ho.symm.trans ha)⟩
          · rintro ⟨now, rfl⟩
            refine ⟨now, ho, ?_⟩
            have happly : claim name till s k v now = some (step name till op s a) := h
            rw [happly]
            exact Option.some_ne_none _
        have hother : (∀ o, op a = some o → o.key = k → apply name till s o = none) ↔ o.key ≠ k := by
          constructor
          · intro hall hkey
            rw [hall o ho hkey] at h
            cases h
          · intro hkey o' ho' hkey'
            obtain rfl := Option.some.inj (ho.symm.trans ho')
            exact absurd hkey' hkey
        rw [hclaim, hother]
        have hbefore := has.2 o ho
        generalize step name till op s a = t' at h
        cases o with
        | claim k' v' now' =>
            by_cases hk : k = k'
            · rw [hk, held_claim_self h]
              simp [Op.key, eq_comm]
            · rw [held_claim_of_ne h hk]
              have htime : name v = name v' → now' < till v := fun _ => lt_of_le_of_lt hbefore hv
              simpa [Op.key, Ne.symm hk] using fun _ => htime
        | release k' =>
            obtain rfl := Option.some.inj h
            rw [held_release]
            by_cases hk : k = k'
            · simp [Op.key, hk]
            · simp [Op.key, hk, Ne.symm hk]

end Lease
end Lib
