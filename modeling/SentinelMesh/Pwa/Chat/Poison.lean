/-
# How often a gift wrap is unwrapped

The handler of `Inbox`, for any deliveries of any wraps: valid, malformed, addressed to someone
else, repeated, overlapping, and over any number of mounts.

`processGiftWrap` marks a wrap once it is unwrapped, and a wrap that does not unwrap it does not
mark: such a wrap is unwrapped at each delivery (`unwrapped_twice`).  A history counts the
unwrappings, and says which of them came to nothing and which handler is under way with which wrap.
Where a wrap that came to nothing is not looked for again, no handler stops between the unwrapping
and the mark, and none looks for a mark that another is about to make, no wrap is unwrapped twice
(`unwrapped_once`).
-/

import SentinelMesh.Pwa.Chat.Inbox

namespace SentinelMesh
namespace Pwa
namespace Chat
namespace Poison

open Lib Lib.Task Lib.Async
open Inbox (InboxStore Op InboxM isSeen markSeen processGiftWrap processUnwrapped keepProcessed
  answer)

/-- What happens to the hook, with any wraps. -/
inductive Call
  | deliver (mount : ℕ) (wrap : Wrap)
  | unmount (mount : ℕ)

variable (lib : Libraries) (me : Pubkey)

/-- The calls of one origin. -/
def system : System InboxStore Call Op (fun op => Option op.Ans) Fate (Option Unit) where
  body
    | .deliver mount wrap => (Inbox.deliver mount wrap).run
    | .unmount mount => (attempt (Op.dispose mount) : InboxM Unit).run
  perform _ _ := attempted (answer lib me)

/-! ### The history -/

/-- How far a handler is with a wrap: it looks for the mark, or has unwrapped the wrap and is to
mark it. -/
inductive Stage
  | looking (id : String)
  | unwrapped (id : String)
  deriving DecidableEq

/-- The wrap of a stage. -/
def Stage.id : Stage → String
  | looking id | unwrapped id => id

/-- The ids of the wraps that were unwrapped, the last one first, those of which nothing came, and
the stage of each handler. -/
structure Watch where
  unwraps : List String := []
  poisoned : List String := []
  stage : ℕ → Option Stage := fun _ => none

/-- A wrap is unwrapped, and nothing comes of it. -/
def Watch.poisons (g : Watch) (id : String) : Watch :=
  { g with unwraps := id :: g.unwraps, poisoned := id :: g.poisoned }

/-- A handler is at a stage, or at none. -/
def Watch.goes (g : Watch) (n : ℕ) (stage : Option Stage) : Watch :=
  { g with stage := Function.update g.stage n stage }

/-- What is recorded. -/
def record (n : ℕ) (_ : Call) (op : Op) (x : Fate) (s : InboxStore) (g : Watch) : Watch :=
  match x, op with
  | .fails, _ => g.goes n none
  | .succeeds, .seenHas mount id =>
    if (s.seen mount).contains id then g else g.goes n (some (.looking id))
  | .succeeds, .unwrapMessage wrap =>
    -- The handler of a wrap that does not unwrap ends here, without a mark.
    if (Chat.unwrapMessage lib me wrap).isNone then (g.poisons wrap.id).goes n none
    else { g with unwraps := wrap.id :: g.unwraps }.goes n (some (.unwrapped wrap.id))
  | .succeeds, .putGiftWrap _ => g.goes n none
  | .succeeds, _ => g

/-- The calls, with the history. -/
abbrev watched : System (InboxStore × Watch) Call Op (fun op => Option op.Ans) Fate (Option Unit) :=
  (system lib me).withHistory (record lib me)

/-- A handler is under way with a wrap. -/
def UnderWay (g : Watch) (n : ℕ) (id : String) : Prop := (g.stage n).map Stage.id = some id

/-- **The condition on a step.**  When a handler looks for a mark, there is one, or no unwrapping of
the wrap has come to nothing and no other handler is under way with it; and nothing fails between an
unwrapping that comes to something and the mark. -/
def Careful (n : ℕ) (_ : Call) (op : Op) (x : Fate) (s : InboxStore × Watch) : Prop :=
  match op with
  | .seenHas mount id => x = .succeeds → (s.1.seen mount).contains id = false →
      id ∈ s.1.giftWraps ∨ id ∉ s.2.poisoned ∧ ∀ m, ¬ UnderWay s.2 m id
  | .roomConversationId _ | .seenAdd _ _ | .putGiftWrap _ => x = .succeeds
  | .getGiftWrap id => s.2.stage n = some (.unwrapped id) → x = .succeeds
  | _ => True

/-- No wrap was unwrapped twice, what was unwrapped came to nothing, or is marked or about to be, and
where two handlers are under way with a wrap it is marked. -/
structure Once (s : InboxStore × Watch) : Prop where
  nodup : s.2.unwraps.Nodup
  kept : ∀ id ∈ s.2.unwraps, id ∈ s.2.poisoned ∨ id ∈ s.1.giftWraps ∨
    ∃ n, s.2.stage n = some (.unwrapped id)
  alone : ∀ m n id, UnderWay s.2 m id → UnderWay s.2 n id → m = n ∨ id ∈ s.1.giftWraps

/-- What the others leave a handler: its stage, the marks, and the wrap it is under way with: without
a mark, and then without an unwrapping that came to nothing. -/
structure Leaves (n : ℕ) (s s' : InboxStore × Watch) : Prop where
  stage : s'.2.stage n = s.2.stage n
  marks : ∀ id ∈ s.1.giftWraps, id ∈ s'.1.giftWraps
  unmarked : ∀ id, UnderWay s.2 n id → id ∈ s'.1.giftWraps → id ∈ s.1.giftWraps
  clean : ∀ id, UnderWay s.2 n id → id ∉ s.1.giftWraps → id ∈ s'.2.poisoned → id ∈ s.2.poisoned

theorem underWay_of_stage {g g' : Watch} {n : ℕ} {id : String} (h : g'.stage n = g.stage n)
    (hway : UnderWay g n id) : UnderWay g' n id :=
  (congrArg (Option.map Stage.id) h).trans hway

theorem Leaves.refl (n : ℕ) (s : InboxStore × Watch) : Leaves n s s :=
  ⟨rfl, fun _ h => h, fun _ _ h => h, fun _ _ _ h => h⟩

theorem Leaves.trans {n : ℕ} {s s' s'' : InboxStore × Watch} (h : Leaves n s s')
    (h' : Leaves n s' s'') : Leaves n s s'' where
  stage := h'.stage.trans h.stage
  marks id hid := h'.marks id (h.marks id hid)
  unmarked id hway hid :=
    h.unmarked id hway (h'.unmarked id (underWay_of_stage h.stage hway) hid)
  clean id hway hid hpoisoned :=
    h.clean id hway hid (h'.clean id (underWay_of_stage h.stage hway)
      (fun hmarked => hid (h.unmarked id hway hmarked)) hpoisoned)

/-- How the handlers use the store. -/
def onceDiscipline : Discipline (InboxStore × Watch) Call Op Fate where
  Inv := Once
  Rely := Leaves
  Cond := Careful
  Local n i s := i = none → s.2.stage n = none
  refl := Leaves.refl
  trans _ _ _ _ := Leaves.trans
  stays _ _ _ _ h hown hnone := h.stage.trans (hown hnone)

variable {lib me} {n : ℕ} {i : Call × InboxStore × Watch}

/-! ### What an operation does -/

/-- An operation fails, or does what it does; either is recorded. -/
theorem perform_cases {op : Op} {x : Fate} {s s' : InboxStore × Watch} {r : Option op.Ans}
    (h : (watched lib me).perform n i.1 op x s = some (r, s')) :
    (x = .fails ∧ r = none ∧ s' = (s.1, s.2.goes n none)) ∨
      (x = .succeeds ∧ r = some (answer lib me op s.1).1 ∧
        s' = ((answer lib me op s.1).2, record lib me n i.1 op .succeeds s.1 s.2)) := by
  rcases history_cases h with ⟨rfl, hr, hs⟩ | ⟨rfl, hr, hs⟩
  · exact Or.inl ⟨rfl, hr, hs⟩
  · exact Or.inr ⟨rfl, hr, hs⟩

@[simp] theorem stage_goes (g : Watch) (n : ℕ) (stage : Option Stage) :
    (g.goes n stage).stage n = stage := Function.update_self ..

theorem stage_goes_of_ne {m n : ℕ} (h : m ≠ n) (g : Watch) (stage : Option Stage) :
    (g.goes n stage).stage m = g.stage m := Function.update_of_ne h _ _

/-- What is recorded of a wrap that does not unwrap. -/
theorem record_poison {wrap : Wrap} (hpoison : Chat.unwrapMessage lib me wrap = none) (n : ℕ)
    (c : Call) (s : InboxStore) (g : Watch) :
    record lib me n c (.unwrapMessage wrap) .succeeds s g = (g.poisons wrap.id).goes n none :=
  if_pos (Option.isNone_iff_eq_none.2 hpoison)

/-- What is recorded of a wrap that unwraps. -/
theorem record_unwrapped {wrap : Wrap} {m : UnwrappedMessage}
    (hm : Chat.unwrapMessage lib me wrap = some m) (n : ℕ) (c : Call) (s : InboxStore) (g : Watch) :
    record lib me n c (.unwrapMessage wrap) .succeeds s g =
      { g with unwraps := wrap.id :: g.unwraps }.goes n (some (.unwrapped wrap.id)) :=
  if_neg (by simp [hm])

/-- What a handler has unwrapped is marked, unless it is to mark it. -/
def Settled (n : ℕ) (s : InboxStore × Watch) : Prop :=
  ∀ id, s.2.stage n = some (.unwrapped id) → id ∈ s.1.giftWraps

theorem settled_of_leaves {s s' : InboxStore × Watch} (h : Leaves n s s') (hsettled : Settled n s) :
    Settled n s' :=
  fun id hid => h.marks id (hsettled id (h.stage.symm.trans hid))

/-- The marks and the history stay. -/
theorem guarantees_of_same {s s' : InboxStore × Watch}
    (hinv : Once s) (hgift : s'.1.giftWraps = s.1.giftWraps) (hwatch : s'.2 = s.2) :
    onceDiscipline.Guarantees n i s s' where
  inv := by
    refine ⟨hwatch ▸ hinv.nodup, fun id hid => ?_, fun m k id hm hk => ?_⟩
    · rw [hwatch] at hid ⊢
      rw [hgift]
      exact hinv.kept id hid
    · rw [hwatch] at hm hk
      rw [hgift]
      exact hinv.alone m k id hm hk
  others m _ := by
    refine ⟨by rw [hwatch], fun id hid => ?_, fun id _ hid => ?_, fun id _ _ hid => ?_⟩
    · rw [hgift]
      exact hid
    · rw [hgift] at hid
      exact hid
    · exact hwatch ▸ hid
  own hnone := nomatch hnone

/-- A handler with nothing left to mark gives up. -/
theorem guarantees_of_gives_up {s s' : InboxStore × Watch} (hinv : Once s)
    (hsettled : Settled n s) (hgift : s'.1.giftWraps = s.1.giftWraps)
    (hwatch : s'.2 = s.2.goes n none) : onceDiscipline.Guarantees n i s s' where
  inv := by
    have hway : ∀ m id, UnderWay s'.2 m id → UnderWay s.2 m id := by
      intro m id hm
      unfold UnderWay at hm ⊢
      rw [hwatch] at hm
      by_cases hmn : m = n
      · subst hmn
        rw [stage_goes] at hm
        cases hm
      · rwa [stage_goes_of_ne hmn] at hm
    refine ⟨hwatch ▸ hinv.nodup, fun id hid => ?_, fun m k id hm hk => ?_⟩
    · rw [hwatch] at hid ⊢
      rw [hgift]
      rcases hinv.kept id hid with hpoisoned | hmarked | ⟨m, hm⟩
      · exact Or.inl hpoisoned
      · exact Or.inr (Or.inl hmarked)
      · by_cases hmn : m = n
        · exact Or.inr (Or.inl (hsettled id (hmn ▸ hm)))
        · exact Or.inr (Or.inr ⟨m, (stage_goes_of_ne hmn _ _).trans hm⟩)
    · rw [hgift]
      exact hinv.alone m k id (hway m id hm) (hway k id hk)
  others m hm := by
    refine ⟨?_, fun id hid => ?_, fun id _ hid => ?_, fun id _ _ hid => ?_⟩
    · rw [hwatch]
      exact stage_goes_of_ne hm _ _
    · rw [hgift]
      exact hid
    · rw [hgift] at hid
      exact hid
    · rw [hwatch] at hid
      exact hid
  own hnone := nomatch hnone

/-- Operations that leave the marks, and say nothing of a stage. -/
def Quiet : Op → Prop
  | .seenHas _ _ | .unwrapMessage _ | .putGiftWrap _ => False
  | _ => True

/-- What such an operation leaves, in a handler with nothing left to mark. -/
theorem guarantees_of_settled (op : Op) (hquiet : Quiet op) {x : Fate}
    {s s' : InboxStore × Watch} {r : Option op.Ans} (hinv : Once s) (hsettled : Settled n s)
    (h : (watched lib me).perform n i.1 op x s = some (r, s')) :
    onceDiscipline.Guarantees n i s s' ∧ Settled n s' ∧
      (r = none ∨ (r = some (answer lib me op s.1).1 ∧ s'.2 = s.2 ∧
        s'.1.giftWraps = s.1.giftWraps)) := by
  rcases perform_cases h with ⟨-, rfl, rfl⟩ | ⟨-, rfl, rfl⟩
  · refine ⟨guarantees_of_gives_up hinv hsettled rfl rfl, fun id hid => ?_, Or.inl rfl⟩
    rw [stage_goes] at hid
    cases hid
  · have hgift : (answer lib me op s.1).2.giftWraps = s.1.giftWraps := by
      cases op with
      | putGiftWrap id => exact hquiet.elim
      | _ => rfl
    have hwatch : record lib me n i.1 op .succeeds s.1 s.2 = s.2 := by
      cases op with
      | seenHas mount id => exact hquiet.elim
      | unwrapMessage wrap => exact hquiet.elim
      | putGiftWrap id => exact hquiet.elim
      | _ => rfl
    refine ⟨guarantees_of_same hinv hgift hwatch, fun id hid => ?_, Or.inr ⟨rfl, hwatch, hgift⟩⟩
    change id ∈ (answer lib me op s.1).2.giftWraps
    rw [hgift]
    exact hsettled id (hwatch ▸ hid)

/-- A part of a handler that ends with nothing left to mark. -/
abbrev SafeIn {α : Type} (lib : Libraries) (me : Pubkey) (n : ℕ) (i : Call × InboxStore × Watch)
    (Q : α → InboxStore × Watch → Prop) (t : Task Op (fun op => Option op.Ans) α)
    (s : InboxStore × Watch) : Prop :=
  Safe onceDiscipline (watched lib me).perform n i Q t s

/-- An operation that leaves the marks is safe in a handler with nothing left to mark, if what
follows is. -/
theorem safe_settled {α : Type} {Q : α → InboxStore × Watch → Prop} (op : Op) (hquiet : Quiet op)
    {k : Option op.Ans → Task Op (fun op => Option op.Ans) α} {s : InboxStore × Watch}
    (hsettled : Settled n s)
    (hk : ∀ r s', Once s' → Settled n s' → SafeIn lib me n i Q (k r) s') :
    SafeIn lib me n i Q (.call op k) s := by
  intro s₁ hinv _ hrely x r s₂ _ hperform
  obtain ⟨hguar, hsettled₂, -⟩ :=
    guarantees_of_settled op hquiet hinv (settled_of_leaves hrely hsettled) hperform
  exact ⟨hguar, hk r s₂ hguar.inv hsettled₂⟩

theorem safe_done_settled {α : Type} {a : α} {s : InboxStore × Watch} (h : Settled n s) :
    SafeIn lib me n i (fun _ => Settled n) (.done a) s :=
  safe_done h fun _ _ hrely h => settled_of_leaves hrely h

/-- A part of operations that leave the marks is safe in a handler with nothing left to mark. -/
theorem safe_lift_settled {Op₀ α : Type} {Res₀ : Op₀ → Type} {f : Op₀ → Op}
    {g : ∀ op, Option (f op).Ans → Option (Res₀ op)} (hquiet : ∀ op, Quiet (f op))
    (t : Task Op₀ Res₀ α) {s : InboxStore × Watch} (hsettled : Settled n s) :
    SafeIn lib me n i (fun _ => Settled n) (t.lift f g) s := by
  refine safe_lift_keeps (Settled n) (fun _ _ => settled_of_leaves)
    (fun op x s r s' hinv _ hsettled hperform => ?_) t hsettled
  obtain ⟨hguar, hsettled', -⟩ := guarantees_of_settled (f op) (hquiet op) hinv hsettled hperform
  exact ⟨hguar, hsettled'⟩

/-- What is left of a handler once its wrap is processed. -/
theorem safe_keepProcessed (mount : ℕ) (p : Option Inbox.ProcessedInboxMessage)
    {s : InboxStore × Watch} (hsettled : Settled n s) :
    SafeIn lib me n i (fun _ => Settled n) (keepProcessed mount p).run s := by
  cases p with
  | none => exact safe_done_settled hsettled
  | some p =>
      refine safe_settled (.readDisposed mount) trivial hsettled fun r s₁ hinv₁ hsettled₁ => ?_
      cases r with
      | none => exact safe_done_settled hsettled₁
      | some disposed =>
          cases disposed with
          | true => exact safe_done_settled hsettled₁
          | false =>
              have hquiet : ∀ op, Quiet (.crypto op) := fun _ => trivial
              refine Safe.bindOption (P := fun _ => Settled n) hinv₁ (fun h => nomatch h)
                ((safe_lift_settled hquiet _ hsettled₁).mono fun b s' _ h => ?_)
                (fun _ _ _ hrely h => settled_of_leaves hrely h) fun c s₂ _ _ hsettled₂ => ?_
              · cases b <;> exact h
              · refine safe_settled (.putMessage _) trivial hsettled₂ fun r s₃ _ hsettled₃ => ?_
                cases r <;> exact safe_done_settled hsettled₃

/-! ### From the look to the mark -/

/-- The handler is under way with a wrap, of which nothing has come unless it is marked. -/
def Looking (n : ℕ) (id : String) (s : InboxStore × Watch) : Prop :=
  s.2.stage n = some (.looking id) ∧ (id ∈ s.2.poisoned → id ∈ s.1.giftWraps)

/-- The handler has looked for the mark of a wrap, and there is none. -/
def Looked (n : ℕ) (id : String) (s : InboxStore × Watch) : Prop :=
  Looking n id s ∧ id ∉ s.1.giftWraps

/-- The handler has unwrapped the wrap. -/
def Unwrapped (n : ℕ) (id : String) (s : InboxStore × Watch) : Prop :=
  s.2.stage n = some (.unwrapped id)

theorem Looking.underWay {id : String} {s : InboxStore × Watch} (h : Looking n id s) :
    UnderWay s.2 n id := congrArg (Option.map Stage.id) h.1

theorem looking_of_leaves {id : String} {s s' : InboxStore × Watch} (h : Leaves n s s')
    (hlooking : Looking n id s) : Looking n id s' := by
  refine ⟨h.stage.trans hlooking.1, fun hpoisoned => ?_⟩
  by_cases hmarked : id ∈ s.1.giftWraps
  · exact h.marks id hmarked
  · exact absurd (hlooking.2 (h.clean id hlooking.underWay hmarked hpoisoned)) hmarked

theorem looked_of_leaves {id : String} {s s' : InboxStore × Watch} (h : Leaves n s s')
    (hlooked : Looked n id s) : Looked n id s' :=
  ⟨looking_of_leaves h hlooked.1,
    fun hid => hlooked.2 (h.unmarked id hlooked.1.underWay hid)⟩

/-- The handler is under way with a wrap that is marked, or that no other is under way with. -/
theorem guarantees_looking {s : InboxStore × Watch} {id : String} (hinv : Once s)
    (hnone : s.2.stage n = none) (halone : id ∈ s.1.giftWraps ∨ ∀ m, ¬ UnderWay s.2 m id) :
    onceDiscipline.Guarantees n i s (s.1, s.2.goes n (some (.looking id))) where
  inv := by
    have hold : ∀ m id', m ≠ n → UnderWay (s.2.goes n (some (.looking id))) m id' →
        UnderWay s.2 m id' := by
      intro m id' hm hway
      unfold UnderWay at hway ⊢
      rwa [stage_goes_of_ne hm] at hway
    have hself : ∀ id', UnderWay (s.2.goes n (some (.looking id))) n id' → id' = id := by
      intro id' hway
      unfold UnderWay at hway
      rw [stage_goes] at hway
      exact (Option.some.inj hway).symm
    have hboth : ∀ m id', m ≠ n → UnderWay (s.2.goes n (some (.looking id))) m id' →
        UnderWay (s.2.goes n (some (.looking id))) n id' → id' ∈ s.1.giftWraps := by
      intro m id' hm hway hn
      obtain rfl := hself id' hn
      exact halone.resolve_right fun hnot => hnot m (hold m id' hm hway)
    refine ⟨hinv.nodup, fun id' hid => ?_, fun m k id' hm hk => ?_⟩
    · refine (hinv.kept id' hid).imp_right (Or.imp_right ?_)
      rintro ⟨m, hm⟩
      have hmn : m ≠ n := by
        rintro rfl
        exact nomatch hnone.symm.trans hm
      exact ⟨m, (stage_goes_of_ne hmn _ _).trans hm⟩
    · by_cases hmn : m = n
      · by_cases hkn : k = n
        · exact Or.inl (hmn.trans hkn.symm)
        · exact Or.inr (hboth k id' hkn hk (hmn ▸ hm))
      · by_cases hkn : k = n
        · exact Or.inr (hboth m id' hmn hm (hkn ▸ hk))
        · exact hinv.alone m k id' (hold m id' hmn hm) (hold k id' hkn hk)
  others m hm := ⟨stage_goes_of_ne hm _ _, fun _ h => h, fun _ _ h => h, fun _ _ _ h => h⟩
  own hnone := nomatch hnone

/-- **The look for a mark**: the handler is under way with a wrap that has none, or has nothing
left to mark. -/
theorem safe_isSeen {s : InboxStore × Watch} (mount : ℕ) (id : String)
    (hnone : s.2.stage n = none) :
    SafeIn lib me n i (fun a s' => match a with
      | some false => Looked n id s'
      | _ => Settled n s') (isSeen mount id).run s := by
  intro s₁ hinv _ hrely x r s₂ hcond hperform
  have hnone₁ : s₁.2.stage n = none := hrely.stage.trans hnone
  have hsettled₁ : Settled n s₁ := fun id hid => nomatch hnone₁.symm.trans hid
  rcases perform_cases hperform with ⟨-, rfl, rfl⟩ | ⟨rfl, rfl, rfl⟩
  · refine ⟨guarantees_of_gives_up hinv hsettled₁ rfl rfl, safe_done (fun id hid => ?_) ?_⟩
    · rw [stage_goes] at hid
      cases hid
    · exact fun _ _ hrely h => settled_of_leaves hrely h
  · cases hseen : (s₁.1.seen mount).contains id with
    | true =>
        have hwatch : record lib me n i.1 (.seenHas mount id) .succeeds s₁.1 s₁.2 = s₁.2 :=
          if_pos hseen
        have hanswer : (answer lib me (.seenHas mount id) s₁.1).1 = true := hseen
        refine ⟨guarantees_of_same hinv rfl hwatch, ?_⟩
        rw [hwatch, hanswer]
        exact safe_done hsettled₁ fun _ _ hrely h => settled_of_leaves hrely h
    | false =>
        have hwatch : record lib me n i.1 (.seenHas mount id) .succeeds s₁.1 s₁.2 =
            s₁.2.goes n (some (.looking id)) := if_neg (Bool.eq_false_iff.1 hseen)
        have hanswer : (answer lib me (.seenHas mount id) s₁.1).1 = false := hseen
        rw [hwatch, hanswer]
        have hway := hcond rfl hseen
        refine ⟨guarantees_looking hinv hnone₁ (hway.imp_right And.right), ?_⟩
        have hlooking₁ : Looking n id (s₁.1, s₁.2.goes n (some (.looking id))) :=
          ⟨stage_goes _ _ _, fun hpoisoned => hway.resolve_right fun h => h.1 hpoisoned⟩
        intro s₂ hinv₂ _ hrely₂ x r s₃ _ hperform₂
        have hlooking : Looking n id s₂ := looking_of_leaves hrely₂ hlooking₁
        have hsettled₂ : Settled n s₂ := fun id hid => nomatch hlooking.1.symm.trans hid
        obtain ⟨hguar, hsettled₃, hanswer₂⟩ :=
          guarantees_of_settled (.getGiftWrap id) trivial hinv₂ hsettled₂ hperform₂
        refine ⟨hguar, ?_⟩
        rcases hanswer₂ with rfl | ⟨rfl, hwatch₂, hgift₂⟩
        · exact safe_done hsettled₃ fun _ _ hrely h => settled_of_leaves hrely h
        · cases hmarked : s₂.1.giftWraps.contains id with
          | true =>
              have hanswer : (answer lib me (.getGiftWrap id) s₂.1).1 = true := hmarked
              rw [hanswer]
              exact safe_done hsettled₃ fun _ _ hrely h => settled_of_leaves hrely h
          | false =>
              have hanswer : (answer lib me (.getGiftWrap id) s₂.1).1 = false := hmarked
              rw [hanswer]
              have hlooked : Looked n id s₃ := by
                unfold Looked Looking
                rw [hwatch₂, hgift₂]
                exact ⟨hlooking,
                  fun hid => Bool.eq_false_iff.1 hmarked (List.contains_iff_mem.2 hid)⟩
              exact safe_done hlooked fun _ _ hrely h => looked_of_leaves hrely h

/-- A wrap that was looked for has not been unwrapped. -/
theorem notMem_unwraps {s : InboxStore × Watch} {id : String} (hinv : Once s)
    (hlooked : Looked n id s) : id ∉ s.2.unwraps := by
  intro hid
  rcases hinv.kept id hid with hpoisoned | hmarked | ⟨m, hm⟩
  · exact hlooked.2 (hlooked.1.2 hpoisoned)
  · exact hlooked.2 hmarked
  · rcases hinv.alone m n id (congrArg (Option.map Stage.id) hm) hlooked.1.underWay with rfl | hmarked
    · exact nomatch hlooked.1.1.symm.trans hm
    · exact hlooked.2 hmarked

/-- **The unwrapping** of a wrap that was looked for is its first. -/
theorem guarantees_unwraps {s : InboxStore × Watch} {id : String} (hinv : Once s)
    (hlooked : Looked n id s) :
    onceDiscipline.Guarantees n i s
      (s.1, { s.2 with unwraps := id :: s.2.unwraps }.goes n (some (.unwrapped id))) where
  inv := by
    have hnot : ∀ m id', s.2.stage m = some (.unwrapped id') → m ≠ n := by
      rintro m id' hm rfl
      exact nomatch hlooked.1.1.symm.trans hm
    have hold : ∀ m id', UnderWay ({ s.2 with unwraps := id :: s.2.unwraps }.goes n
        (some (.unwrapped id))) m id' → UnderWay s.2 m id' := by
      intro m id' hway
      unfold UnderWay at hway
      by_cases hmn : m = n
      · subst hmn
        rw [stage_goes] at hway
        rw [← Option.some.inj hway]
        exact hlooked.1.underWay
      · rwa [stage_goes_of_ne hmn] at hway
    refine ⟨List.nodup_cons.2 ⟨notMem_unwraps hinv hlooked, hinv.nodup⟩, fun id' hid => ?_,
      fun m k id' hm hk => hinv.alone m k id' (hold m id' hm) (hold k id' hk)⟩
    rcases List.mem_cons.1 hid with rfl | hid
    · exact Or.inr (Or.inr ⟨n, stage_goes _ _ _⟩)
    · refine (hinv.kept id' hid).imp_right (Or.imp_right ?_)
      rintro ⟨m, hm⟩
      exact ⟨m, (stage_goes_of_ne (hnot m id' hm) _ _).trans hm⟩
  others m hm := ⟨stage_goes_of_ne hm _ _, fun _ h => h, fun _ _ h => h, fun _ _ _ h => h⟩
  own hnone := nomatch hnone

/-- **An unwrapping that comes to nothing** is the first of the wrap, too. -/
theorem guarantees_poisons {s : InboxStore × Watch} {id : String} (hinv : Once s)
    (hlooked : Looked n id s) :
    onceDiscipline.Guarantees n i s (s.1, (s.2.poisons id).goes n none) where
  inv := by
    have hold : ∀ m id', UnderWay ((s.2.poisons id).goes n none) m id' → UnderWay s.2 m id' := by
      intro m id' hway
      unfold UnderWay at hway
      by_cases hmn : m = n
      · subst hmn
        rw [stage_goes] at hway
        cases hway
      · rwa [stage_goes_of_ne hmn] at hway
    refine ⟨List.nodup_cons.2 ⟨notMem_unwraps hinv hlooked, hinv.nodup⟩, fun id' hid => ?_,
      fun m k id' hm hk => hinv.alone m k id' (hold m id' hm) (hold k id' hk)⟩
    rcases List.mem_cons.1 hid with rfl | hid
    · exact Or.inl List.mem_cons_self
    · rcases hinv.kept id' hid with hpoisoned | hmarked | ⟨m, hm⟩
      · exact Or.inl (List.mem_cons_of_mem _ hpoisoned)
      · exact Or.inr (Or.inl hmarked)
      · refine Or.inr (Or.inr ⟨m, (stage_goes_of_ne ?_ _ _).trans hm⟩)
        rintro rfl
        exact nomatch hlooked.1.1.symm.trans hm
  others m hm := by
    refine ⟨stage_goes_of_ne hm _ _, fun _ h => h, fun _ _ h => h, fun id' hway hmarked hid => ?_⟩
    rcases List.mem_cons.1 hid with rfl | hid
    · exact absurd ((hinv.alone m n id' hway hlooked.1.underWay).resolve_left hm) hmarked
    · exact hid
  own hnone := nomatch hnone

/-- **The mark** is that of the handler that is under way with the wrap. -/
theorem guarantees_marks {s : InboxStore × Watch} {id : String} (hinv : Once s)
    (hunwrapped : Unwrapped n id s) :
    onceDiscipline.Guarantees n i s
      ({ s.1 with giftWraps := id :: s.1.giftWraps }, s.2.goes n none) where
  inv := by
    have hold : ∀ m id', UnderWay (s.2.goes n none) m id' → UnderWay s.2 m id' := by
      intro m id' hway
      unfold UnderWay at hway
      by_cases hmn : m = n
      · subst hmn
        rw [stage_goes] at hway
        cases hway
      · rwa [stage_goes_of_ne hmn] at hway
    refine ⟨hinv.nodup, fun id' hid => ?_, fun m k id' hm hk => ?_⟩
    · rcases hinv.kept id' hid with hpoisoned | hmarked | ⟨m, hm⟩
      · exact Or.inl hpoisoned
      · exact Or.inr (Or.inl (List.mem_cons_of_mem _ hmarked))
      · by_cases hmn : m = n
        · subst hmn
          have hsame : id = id' := Stage.unwrapped.inj (Option.some.inj (hunwrapped.symm.trans hm))
          exact Or.inr (Or.inl (hsame ▸ List.mem_cons_self))
        · exact Or.inr (Or.inr ⟨m, (stage_goes_of_ne hmn _ _).trans hm⟩)
    · exact (hinv.alone m k id' (hold m id' hm) (hold k id' hk)).imp_right
        (List.mem_cons_of_mem _)
  others m hm := by
    refine ⟨stage_goes_of_ne hm _ _, fun _ h => List.mem_cons_of_mem _ h, fun id' hway hid => ?_,
      fun _ _ _ h => h⟩
    rcases List.mem_cons.1 hid with rfl | hid
    · exact (hinv.alone m n id' hway (congrArg (Option.map Stage.id) hunwrapped)).resolve_left hm
    · exact hid
  own hnone := nomatch hnone

/-- An operation that must not fail between the unwrapping and the mark. -/
theorem safe_unwrapped {α : Type} {Q : α → InboxStore × Watch → Prop} (op : Op)
    (hquiet : Quiet op) {id : String}
    (hmust : ∀ x s, Careful n i.1 op x s → Unwrapped n id s → x = .succeeds)
    {k : Option op.Ans → Task Op (fun op => Option op.Ans) α} {s : InboxStore × Watch}
    (hunwrapped : Unwrapped n id s)
    (hk : ∀ s₁ : InboxStore × Watch, Once s₁ → Unwrapped n id s₁ →
      SafeIn lib me n i Q (k (some (answer lib me op s₁.1).1)) ((answer lib me op s₁.1).2, s₁.2)) :
    SafeIn lib me n i Q (.call op k) s := by
  intro s₁ hinv _ hrely x r s₂ hcond hperform
  have hunwrapped₁ : Unwrapped n id s₁ := hrely.stage.trans hunwrapped
  rcases perform_cases hperform with ⟨rfl, -, -⟩ | ⟨-, rfl, rfl⟩
  · exact nomatch hmust .fails s₁ hcond hunwrapped₁
  · have hgift : (answer lib me op s₁.1).2.giftWraps = s₁.1.giftWraps := by
      cases op with
      | putGiftWrap id => exact hquiet.elim
      | _ => rfl
    have hwatch : record lib me n i.1 op .succeeds s₁.1 s₁.2 = s₁.2 := by
      cases op with
      | seenHas mount id => exact hquiet.elim
      | unwrapMessage wrap => exact hquiet.elim
      | putGiftWrap id => exact hquiet.elim
      | _ => rfl
    refine ⟨guarantees_of_same hinv hgift hwatch, ?_⟩
    rw [hwatch]
    exact hk s₁ hinv hunwrapped₁

/-- Marking what is unwrapped. -/
theorem safe_markSeen {s : InboxStore × Watch} (mount : ℕ) {id : String}
    (hunwrapped : Unwrapped n id s) :
    SafeIn lib me n i (fun _ => Settled n) (markSeen mount id).run s := by
  refine safe_unwrapped (.seenAdd mount id) trivial (fun _ _ hcond _ => hcond) hunwrapped
    fun s₁ _ hunwrapped₁ => ?_
  refine safe_unwrapped (.getGiftWrap id) trivial (fun _ _ hcond h => hcond h) hunwrapped₁
    fun s₂ _ hunwrapped₂ => ?_
  cases hmarked : s₂.1.giftWraps.contains id with
  | true =>
      have hanswer : (answer lib me (.getGiftWrap id) s₂.1).1 = true := hmarked
      have hsettled : Settled n s₂ := by
        intro id' hid
        obtain rfl := Stage.unwrapped.inj (Option.some.inj (hunwrapped₂.symm.trans hid))
        exact List.contains_iff_mem.1 hmarked
      rw [hanswer]
      exact safe_done_settled hsettled
  | false =>
      have hanswer : (answer lib me (.getGiftWrap id) s₂.1).1 = false := hmarked
      rw [hanswer]
      intro s₃ hinv₃ _ hrely₃ x r s₄ hcond hperform
      rcases perform_cases hperform with ⟨hx, -, -⟩ | ⟨-, rfl, rfl⟩
      · exact nomatch hx.symm.trans hcond
      · refine ⟨guarantees_marks hinv₃ (hrely₃.stage.trans hunwrapped₂), ?_⟩
        refine safe_done_settled fun id' hid => ?_
        rw [show (record lib me n i.1 (.putGiftWrap id) .succeeds s₃.1 s₃.2).stage n = none from
          stage_goes _ _ _] at hid
        cases hid

/-- What is made of a wrap: at the end nothing is left to mark. -/
theorem safe_processGiftWrap {s : InboxStore × Watch} (mount : ℕ) (wrap : Wrap) (hinv : Once s)
    (hnone : s.2.stage n = none) :
    SafeIn lib me n i (fun _ => Settled n)
      (processGiftWrap wrap (isSeen mount) (markSeen mount)).run s := by
  have hsettled : Settled n s := fun id hid => nomatch hnone.symm.trans hid
  have hstays : ∀ s s', Once s' → Leaves n s s' → Settled n s → Settled n s' :=
    fun _ _ _ hrely h => settled_of_leaves hrely h
  unfold processGiftWrap
  by_cases hkind : wrap.kind ≠ nip59KindGiftWrap
  · rw [if_pos hkind]
    exact safe_done_settled hsettled
  · rw [if_neg hkind]
    refine Safe.bindOption (P := fun seen s' => match seen with
        | false => Looked n wrap.id s'
        | true => Settled n s') hinv (fun h => nomatch h) ?_ hstays
      fun seen s₁ _ _ hseen => ?_
    · refine (safe_isSeen mount wrap.id hnone).mono fun a s' _ h => ?_
      match a with
      | none => exact h
      | some true => exact h
      | some false => exact h
    · cases seen with
      | true => exact safe_done_settled hseen
      | false =>
          intro s₂ hinv₂ _ hrely₂ x r s₃ hcond hperform
          have hlooked : Looked n wrap.id s₂ := looked_of_leaves hrely₂ hseen
          rcases perform_cases hperform with ⟨-, rfl, rfl⟩ | ⟨rfl, rfl, rfl⟩
          · have hsettled₂ : Settled n s₂ := fun id hid => nomatch hlooked.1.1.symm.trans hid
            refine ⟨guarantees_of_gives_up hinv₂ hsettled₂ rfl rfl, ?_⟩
            refine safe_done_settled fun id hid => ?_
            rw [stage_goes] at hid
            cases hid
          · have hanswer : (answer lib me (.unwrapMessage wrap) s₂.1).1 =
              Chat.unwrapMessage lib me wrap := rfl
            rw [hanswer]
            cases hm : Chat.unwrapMessage lib me wrap with
            | none =>
                rw [record_poison hm]
                refine ⟨guarantees_poisons hinv₂ hlooked, safe_done_settled fun id hid => ?_⟩
                rw [stage_goes] at hid
                cases hid
            | some m =>
                rw [record_unwrapped hm]
                refine ⟨guarantees_unwraps hinv₂ hlooked, ?_⟩
                refine safe_unwrapped (.roomConversationId m.participants) trivial
                  (fun _ _ hcond _ => hcond) (show Unwrapped n wrap.id _ from stage_goes _ _ _)
                  fun s₄ hinv₄ hunwrapped₄ => ?_
                refine Safe.bindOption (P := fun _ => Settled n) hinv₄ (fun h => nomatch h)
                  ((safe_markSeen mount hunwrapped₄).mono fun b s' _ h => ?_) hstays
                  fun _ s₅ _ _ hsettled₅ => safe_done_settled hsettled₅
                cases b <;> exact h

/-- **The handler** keeps to the discipline. -/
theorem safe_deliver {s : InboxStore × Watch} (mount : ℕ) (wrap : Wrap) (hinv : Once s)
    (hnone : s.2.stage n = none) :
    SafeIn lib me n i (fun _ => Settled n) (Inbox.deliver mount wrap).run s := by
  refine Safe.bindOption (P := fun _ => Settled n) hinv (fun h => nomatch h)
    ((safe_processGiftWrap mount wrap hinv hnone).mono fun b s' _ h => ?_)
    (fun _ _ _ hrely h => settled_of_leaves hrely h)
    fun p s₁ _ _ hsettled => safe_keepProcessed mount p hsettled
  cases b <;> exact h

/-- **Every call keeps to the discipline**, wherever it begins. -/
theorem starts (lib : Libraries) (me : Pubkey) :
    onceDiscipline.Starts (watched lib me) fun n _ _ => Settled n := by
  intro n c s hinv hfresh
  have hnone : s.2.stage n = none := hfresh rfl
  refine ⟨(fun h => nomatch h), ?_⟩
  cases c with
  | deliver mount wrap => exact safe_deliver mount wrap hinv hnone
  | unmount mount =>
      have hsettled : Settled n s := fun id hid => nomatch hnone.symm.trans hid
      refine safe_settled (.dispose mount) trivial hsettled fun r s' _ hsettled' => ?_
      exact safe_done_settled hsettled'

/-- At first nothing was unwrapped. -/
theorem sound_start (lib : Libraries) (me : Pubkey) (s : InboxStore) :
    Sound onceDiscipline (watched lib me) (fun n _ _ => Settled n) (Pool.init (s, {})) :=
  sound_init ⟨List.nodup_nil, (fun _ h => nomatch h), fun _ _ _ h => nomatch h⟩ fun _ _ => rfl

/-- **No wrap is unwrapped twice**, over any run from any store, where a wrap of which nothing came
is not looked for again, nothing fails between the unwrapping and the mark, and a handler looks for
no mark that another is about to make. -/
theorem unwrapped_once (lib : Libraries) (me : Pubkey) (s : InboxStore)
    {as : List (Act Call Fate)}
    (hcareful : ∀ e ∈ events (step (watched lib me)) (Pool.init (s, {})) as,
      MeetsAt (Careful) e.pre e.act) (id : String) :
    (run (step (watched lib me)) (Pool.init (s, {})) as).store.2.unwraps.count id ≤ 1 := by
  have hsound := sound_run (starts lib me) (sound_start lib me s) hcareful
  exact List.nodup_iff_count_le_one.1 hsound.inv.nodup id

/-! ### A wrap that does not unwrap -/

/-- The last thread goes on. -/
theorem resume_last {σ κ Op χ α : Type} {Res : Op → Type} {sys : System σ κ Op Res χ α} {s s' : σ}
    {threads : List (Thread σ κ Op Res α)} {c : κ} {b : σ} {op : Op}
    {k : Res op → Task Op Res α} {x : χ} {r : Res op} {t : Task Op Res α}
    (h : sys.perform threads.length c op x s = some (r, s')) (ht : k r = t) :
    step sys { store := s, threads := threads ++ [{ call := c, began := b, task := .call op k }] }
        (.resume threads.length x) =
      { store := s', threads := threads ++ [{ call := c, began := b, task := t }] } := by
  unfold step Pool.resume
  rw [← ht]
  simp only [List.getElem?_concat_length, h]
  rw [List.set_append_right _ _ (Nat.le_refl _), Nat.sub_self, List.set_cons_zero]

/-- A delivery, and three steps of its handler. -/
def delivery (n mount : ℕ) (wrap : Wrap) : List (Act Call Fate) :=
  .start (.deliver mount wrap) :: List.replicate 3 (.resume n .succeeds)

/-- **A wrap that has no mark is unwrapped** by the first three steps of its handler. -/
theorem run_delivery {mount : ℕ} {wrap : Wrap} (hkind : wrap.kind = nip59KindGiftWrap)
    {s : InboxStore} {g : Watch} (hseen : wrap.id ∉ s.seen mount) (hmarked : wrap.id ∉ s.giftWraps)
    (threads : List (Thread (InboxStore × Watch) Call Op (fun op => Option op.Ans) (Option Unit))) :
    run (step (watched lib me)) { store := (s, g), threads } (delivery threads.length mount wrap) =
      { store := (s, record lib me threads.length (.deliver mount wrap) (.unwrapMessage wrap) .succeeds
          s (g.goes threads.length (some (.looking wrap.id))))
        threads := threads ++ [
          { call := .deliver mount wrap
            began := (s, g)
            task := (processUnwrapped wrap (markSeen mount) (Chat.unwrapMessage lib me wrap) >>=
              keepProcessed mount).run }] } := by
  obtain ⟨k₁, k₂, k₃, hbody, hk₁, hk₂, hk₃⟩ : ∃ k₁ k₂ k₃,
      (Inbox.deliver mount wrap).run = .call (.seenHas mount wrap.id) k₁ ∧
        k₁ (some false) = .call (.getGiftWrap wrap.id) k₂ ∧
        k₂ (some false) = .call (.unwrapMessage wrap) k₃ ∧
        ∀ unwrapped, k₃ (some unwrapped) =
          (processUnwrapped wrap (markSeen mount) unwrapped >>= keepProcessed mount).run := by
    unfold Inbox.deliver processGiftWrap
    rw [if_neg (not_not.2 hkind)]
    exact ⟨_, _, _, rfl, rfl, rfl, fun _ => rfl⟩
  have hseen' : (s.seen mount).contains wrap.id = false :=
    Bool.eq_false_iff.2 fun h => hseen (List.contains_iff_mem.1 h)
  have hmarked' : s.giftWraps.contains wrap.id = false :=
    Bool.eq_false_iff.2 fun h => hmarked (List.contains_iff_mem.1 h)
  have hstart : step (watched lib me) { store := (s, g), threads } (.start (.deliver mount wrap)) =
      { store := (s, g)
        threads := threads ++ [
          { call := .deliver mount wrap
            began := (s, g)
            task := .call (.seenHas mount wrap.id) k₁ }] } := by
    rw [← hbody]
    rfl
  have hlook : (watched lib me).perform threads.length (.deliver mount wrap)
      (.seenHas mount wrap.id) .succeeds (s, g) =
        some (some false, s, g.goes threads.length (some (.looking wrap.id))) := by
    change some (some ((s.seen mount).contains wrap.id), s,
      if (s.seen mount).contains wrap.id then g else _) = _
    rw [hseen']
    rfl
  have hget : ∀ g, (watched lib me).perform threads.length (.deliver mount wrap)
      (.getGiftWrap wrap.id) .succeeds (s, g) = some (some false, s, g) := by
    intro g
    change some (some (s.giftWraps.contains wrap.id), s, g) = _
    rw [hmarked']
  have hunwrap : ∀ g, (watched lib me).perform threads.length (.deliver mount wrap)
      (.unwrapMessage wrap) .succeeds (s, g) = some (some (Chat.unwrapMessage lib me wrap), s,
        record lib me threads.length (.deliver mount wrap) (.unwrapMessage wrap) .succeeds s g) :=
    fun _ => rfl
  unfold delivery
  rw [run_cons, hstart, List.replicate_succ, run_cons, resume_last hlook hk₁,
    List.replicate_succ, run_cons, resume_last (hget _) hk₂, List.replicate_one, run_cons,
    resume_last (hunwrap _) (hk₃ _), run_nil]

/-- Deliveries one after the other. -/
def deliveries (mount : ℕ) (wrap : Wrap) : ℕ → List (Act Call Fate)
  | 0 => []
  | k + 1 => deliveries mount wrap k ++ delivery k mount wrap

/-- **A wrap that does not unwrap is unwrapped as often as it is delivered.** -/
theorem unwrapped_each_time {mount : ℕ} {wrap : Wrap} (hkind : wrap.kind = nip59KindGiftWrap)
    (hpoison : Chat.unwrapMessage lib me wrap = none) {s : InboxStore}
    (hseen : wrap.id ∉ s.seen mount) (hmarked : wrap.id ∉ s.giftWraps) (k : ℕ) :
    (run (step (watched lib me)) (Pool.init (s, {})) (deliveries mount wrap k)).store.2.unwraps =
      List.replicate k wrap.id := by
  have hrun : ∃ g threads, run (step (watched lib me)) (Pool.init (s, {}))
      (deliveries mount wrap k) = { store := (s, g), threads } ∧
        g.unwraps = List.replicate k wrap.id ∧ threads.length = k := by
    induction k with
    | zero => exact ⟨{}, [], rfl, rfl, rfl⟩
    | succ k ih =>
        obtain ⟨g, threads, hpool, hunwraps, rfl⟩ := ih
        have hone := @run_delivery lib me mount wrap hkind s g hseen hmarked threads
        rw [record_poison hpoison] at hone
        refine ⟨_, _, Eq.trans ?_ hone, congrArg (wrap.id :: ·) hunwraps, List.length_append⟩
        rw [deliveries, run_append, hpool]
  obtain ⟨g, threads, hpool, hunwraps, _⟩ := hrun
  rw [hpool]
  exact hunwraps

/-- A wrap without a seal does not unwrap. -/
theorem unwrapMessage_of_content {wrap : Wrap} (h : wrap.content = none) :
    Chat.unwrapMessage lib me wrap = none := by
  rw [← Option.not_isSome_iff_eq_none, Option.isSome_iff_exists]
  rintro ⟨m, hm⟩
  unfold Chat.unwrapMessage unwrapGiftWrap at hm
  obtain ⟨rumor, hrumor, _⟩ := Option.bind_eq_some_iff.1 hm
  obtain ⟨_, _, hrumor⟩ := Option.bind_eq_some_iff.1 hrumor
  obtain ⟨_, _, hrumor⟩ := Option.bind_eq_some_iff.1 hrumor
  rw [h] at hrumor
  cases hrumor

/-- A wrap that is addressed to us and holds no seal. -/
def poison : Wrap := { Inbox.demoWrap with content := none }

/-- It is delivered twice, and unwrapped twice. -/
theorem unwrapped_twice :
    (run (step (watched demoLibraries (demoKey 'b'))) (Pool.init (Inbox.newDevice, {}))
      (deliveries 0 poison 2)).store.2.unwraps.count poison.id = 2 := by
  have hseen : poison.id ∉ Inbox.newDevice.seen 0 := List.not_mem_nil
  have hmarked : poison.id ∉ Inbox.newDevice.giftWraps := List.not_mem_nil
  rw [unwrapped_each_time rfl (unwrapMessage_of_content rfl) hseen hmarked, List.count_replicate_self]

/-- A step that meets the condition in a run that has met it, as far as it can be computed. -/
def allowed (p : Pool (InboxStore × Watch) Call Op (fun op => Option op.Ans) (Option Unit)) :
    Act Call Fate → Bool
  | .start _ => true
  | .resume n .fails => (p.next n).all fun i => match i.2 with
    | .roomConversationId _ | .seenAdd _ _ | .putGiftWrap _ | .getGiftWrap _ => false
    | _ => true
  | .resume n .succeeds => (p.next n).all fun i => match i.2 with
    | .seenHas _ id => decide (id ∈ p.store.1.giftWraps) ||
      (decide (id ∉ p.store.2.poisoned) &&
        (List.range p.threads.length).all fun m =>
          decide ((p.store.2.stage m).map Stage.id ≠ some id))
    | _ => true

theorem careful_of_allowed
    {p : Pool (InboxStore × Watch) Call Op (fun op => Option op.Ans) (Option Unit)}
    (hfresh : ∀ m, p.threads.length ≤ m → p.store.2.stage m = none) {a : Act Call Fate}
    (h : allowed p a = true) : MeetsAt Careful p a := by
  cases a with
  | start c => trivial
  | resume n x =>
      rintro ⟨c, op⟩ hi
      cases x with
      | fails =>
          dsimp only [allowed] at h
          rw [Option.mem_def.1 hi, Option.all_some] at h
          cases op <;> simp_all [Careful]
      | succeeds =>
          dsimp only [allowed] at h
          rw [Option.mem_def.1 hi, Option.all_some] at h
          cases op with
          | seenHas mount id =>
              intro _ _
              rcases Bool.or_eq_true_iff.1 h with hmarked | hfree
              · exact Or.inl (of_decide_eq_true hmarked)
              · obtain ⟨hclean, hall⟩ := Bool.and_eq_true_iff.1 hfree
                refine Or.inr ⟨of_decide_eq_true hclean, fun m hway => ?_⟩
                rcases Nat.lt_or_ge m p.threads.length with hlt | hge
                · exact of_decide_eq_true (List.all_eq_true.1 hall m (List.mem_range.2 hlt)) hway
                · rw [UnderWay, hfresh m hge] at hway
                  cases hway
          | _ => simp [Careful]

/-- Another wrap without a seal. -/
def stray : Wrap := { poison with id := demoKey 'c' }

/-- It is delivered, and so is a valid wrap. -/
def bothDelivered : List (Act Call Fate) := delivery 0 0 stray ++ delivery 1 0 Inbox.demoWrap

/-- The handler of the valid wrap goes on to the end, and the next mount is delivered the wrap
again. -/
def redelivered : List (Act Call Fate) :=
  List.replicate 10 (.resume 1 .succeeds) ++
    [.start (.deliver 1 Inbox.demoWrap), .resume 2 .succeeds, .resume 2 .succeeds]

/-- The calls of the device. -/
abbrev demoSystem := watched demoLibraries (demoKey 'b')

theorem run_stray : run (step demoSystem) (Pool.init (Inbox.newDevice, {})) (delivery 0 0 stray) =
    { store := (Inbox.newDevice,
        (({} : Watch).goes 0 (some (.looking stray.id)) |>.poisons stray.id).goes 0 none)
      threads := [
        { call := .deliver 0 stray
          began := (Inbox.newDevice, {})
          task := .done (some ()) }] } := by
  have hpoison : Chat.unwrapMessage demoLibraries (demoKey 'b') stray = none :=
    unwrapMessage_of_content rfl
  have hrun := @run_delivery demoLibraries (demoKey 'b') 0 stray rfl Inbox.newDevice {}
    List.not_mem_nil List.not_mem_nil []
  rw [record_poison hpoison, hpoison] at hrun
  exact hrun

/-- A wrap of which nothing comes and one that is delivered twice are unwrapped once each. -/
theorem unwrapped_once_demo :
    let s := (run (step demoSystem) (Pool.init (Inbox.newDevice, {}))
      (bothDelivered ++ redelivered)).store
    (∀ id, s.2.unwraps.count id ≤ 1) ∧ s.2.unwraps = [Inbox.demoWrap.id, stray.id] ∧
      s.1.giftWraps = [Inbox.demoWrap.id] := by
  intro s
  have hboth := @run_delivery demoLibraries (demoKey 'b') 0 Inbox.demoWrap rfl Inbox.newDevice
    (({} : Watch).goes 0 (some (.looking stray.id)) |>.poisons stray.id |>.goes 0 none)
    List.not_mem_nil List.not_mem_nil
    [{ call := .deliver 0 stray, began := (Inbox.newDevice, {}), task := .done (some ()) }]
  rw [record_unwrapped Inbox.unwrapMessage_demoWrap, Inbox.unwrapMessage_demoWrap] at hboth
  have hallowed : ∀ e ∈ events (step demoSystem) (Pool.init (Inbox.newDevice, {}))
      (bothDelivered ++ redelivered), allowed e.pre e.act = true := by
    refine forall_events_append.2 ⟨forall_events_append.2 ⟨by decide, ?_⟩, ?_⟩
    · rw [run_stray]
      decide
    · rw [bothDelivered, run_append, run_stray]
      rw [show run (step demoSystem) _ (delivery 1 0 Inbox.demoWrap) = _ from hboth]
      decide +kernel
  have hcareful : ∀ e ∈ events (step demoSystem) (Pool.init (Inbox.newDevice, {}))
      (bothDelivered ++ redelivered), MeetsAt Careful e.pre e.act := by
    refine events_of_check (fun p a => allowed p a = true) (sound_start _ _ _)
      (fun p a hp ha => (sound_step (starts _ _) hp ha).1) (fun p a hp ha => ?_) hallowed
    exact careful_of_allowed (fun m hm => hp.fresh m hm rfl) ha
  have hs : s = (run (step demoSystem) (run (step demoSystem) (run (step demoSystem)
      (Pool.init (Inbox.newDevice, {})) (delivery 0 0 stray)) (delivery 1 0 Inbox.demoWrap))
        redelivered).store := by
    rw [← run_append, ← run_append]
    rfl
  refine ⟨unwrapped_once _ _ _ hcareful, ?_⟩
  rw [hs, run_stray, show run (step demoSystem) _ (delivery 1 0 Inbox.demoWrap) = _ from hboth]
  decide +kernel

end Poison
end Chat
end Pwa
end SentinelMesh
