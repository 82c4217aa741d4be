/-
# Does the epoch of a client go back?

The epoch a client uses for a circle (`useCircleWsConnection` of `services/circleWebSocket.ts`) is
written by two that know nothing of each other: `useCircles` applies the responses it was waiting
for, and the connection applies the messages of rotations.  Both assign what they have.

So the epoch in use is the last one applied (`used_arrive`), and it never goes back if and only if the
epochs are applied in their order (`never_back_iff`).  A response that was asked for before a
rotation and comes after its message takes the client back, and the envelopes of the circle are
dropped (`stale_response`).
-/

import SentinelMesh.Pwa.CircleClient

namespace SentinelMesh
namespace Pwa
namespace CircleClient

open Lib CircleStore
open Circles (Token CircleDetail)
open CircleLocation (Crypto)

variable {crypto : Crypto} {circleId : Uuid}

/-- What happens to a client, its loads included. -/
inductive Arrival
  /-- `useCircles` applies a response, and the component renders. -/
  | load (labels : Labels) (key : Option Bytes) (detail : CircleDetail)
  | act (a : Action)

/-- What an arrival does. -/
def arrive (crypto : Crypto) (circleId : Uuid) (s : Client) : Arrival → Client
  | .load labels key detail => s.load circleId labels key detail
  | .act a => step crypto circleId s a

/-- The epoch the client uses for a circle, from the next render on. -/
def Client.used (s : Client) (circleId : Uuid) : ℤ := (s.store.roster circleId).epoch

/-- The epoch an arrival applies to the circle. -/
def applied (crypto : Crypto) (circleId : Uuid) (s : Client) : Arrival → Option ℤ
  | .load _ _ detail => if detail.id = circleId then some detail.key_epoch else none
  | .act a => match dispatched crypto s a with
    | some (.circleEpochChanged circle_id key_epoch _) =>
      if circle_id = circleId then some key_epoch else none
    | _ => none

/-- The client stays in its circles: no action resets the store, and circles are loaded by loads. -/
def stays (crypto : Crypto) (s : Client) : Arrival → Bool
  | .load _ _ _ => true
  | .act a => match dispatched crypto s a with
    | some .circleLeft => false
    | some (.circleLoaded _ _) => false
    | _ => true

/-! ### What an arrival does to the epoch -/

/-- A replacement of elements a search passes by. -/
theorem find?_replaceF_of_ne {α : Type} {f : α → Option α} {p : α → Bool} {l : List α}
    (h : ∀ x y, f x = some y → p x = false ∧ p y = false) : (l.replaceF f).find? p = l.find? p := by
  induction l with
  | nil => rfl
  | cons x xs ih =>
      rw [List.replaceF_cons]
      cases hx : f x with
      | none =>
          dsimp only
          rw [List.find?_cons, List.find?_cons, ih]
      | some y =>
          obtain ⟨hpx, hpy⟩ := h x y hx
          dsimp only
          rw [List.find?_cons, List.find?_cons, hpx, hpy]

/-- The epoch in use is read from the two fields of the store. -/
theorem used_congr {s s' : Client}
    (hepochs : s'.store.epochs.find? circleId = s.store.epochs.find? circleId)
    (hcircle : findCircle s'.store.circles circleId = findCircle s.store.circles circleId) :
    s'.used circleId = s.used circleId := by
  unfold Client.used CirclesState.roster
  dsimp only
  rw [hepochs, hcircle]

theorem used_of_epochs {s : Client} {e : CircleEpoch}
    (h : s.store.epochs.find? circleId = some e) : s.used circleId = e.key_epoch := by
  unfold Client.used CirclesState.roster
  dsimp only
  rw [h]

/-- An assignment to the epoch of the circle. -/
theorem epochs_circleEpochChanged (state : CirclesState) (key_epoch : ℤ) (rekey_required : Bool) :
    (state.circleEpochChanged circleId key_epoch rekey_required).epochs.find? circleId =
      some { key_epoch, rekey_required } := by
  unfold CirclesState.circleEpochChanged
  dsimp only
  rw [Table.find?_put, if_pos rfl]

/-- An assignment to another circle. -/
theorem circleEpochChanged_of_ne (state : CirclesState) {circle_id : Uuid} (hne : circle_id ≠ circleId)
    (key_epoch : ℤ) (rekey_required : Bool) :
    (state.circleEpochChanged circle_id key_epoch rekey_required).epochs.find? circleId =
        state.epochs.find? circleId ∧
      findCircle (state.circleEpochChanged circle_id key_epoch rekey_required).circles circleId =
        findCircle state.circles circleId := by
  unfold CirclesState.circleEpochChanged findCircle
  dsimp only
  constructor
  · rw [Table.find?_put, if_neg (Ne.symm hne)]
  · refine find?_replaceF_of_ne fun c c' hc => ?_
    split_ifs at hc with hid
    obtain rfl := Option.some.inj hc
    have hother : c.circle_id ≠ circleId := by
      rw [hid]
      exact hne
    exact ⟨decide_eq_false hother, decide_eq_false hother⟩

/-- A load of another circle. -/
theorem circleLoaded_of_ne (state : CirclesState) {circle : CircleStore.Circle}
    (hne : circle.circle_id ≠ circleId) (members : List CircleMember) :
    (state.circleLoaded circle members).epochs.find? circleId = state.epochs.find? circleId ∧
      findCircle (state.circleLoaded circle members).circles circleId =
        findCircle state.circles circleId := by
  unfold CirclesState.circleLoaded
  dsimp only
  refine ⟨rfl, ?_⟩
  split_ifs
  · unfold findCircle
    refine find?_replaceF_of_ne fun c c' hc => ?_
    split_ifs at hc with hid
    obtain rfl := Option.some.inj hc
    have hother : c.circle_id ≠ circleId := by
      rw [hid]
      exact hne
    exact ⟨decide_eq_false hother, decide_eq_false hne⟩
  · unfold findCircle
    rw [List.find?_append, List.find?_singleton, decide_eq_false hne]
    simp

theorem used_load (s : Client) (labels : Labels) (key : Option Bytes) (detail : CircleDetail) :
    (s.load circleId labels key detail).used circleId =
      (applied crypto circleId s (.load labels key detail)).getD (s.used circleId) := by
  unfold applied
  dsimp only
  split_ifs with hid
  · subst hid
    refine used_of_epochs (e := ⟨detail.key_epoch, detail.rekey_required⟩) ?_
    exact epochs_circleEpochChanged _ _ _
  · have hother : (toCircleAndMembers labels key detail).1.circle_id ≠ circleId := hid
    obtain ⟨hloadedEpochs, hloadedCircle⟩ :=
      circleLoaded_of_ne s.store hother (toCircleAndMembers labels key detail).2
    obtain ⟨hepochs, hcircle⟩ := circleEpochChanged_of_ne
      (s.store.circleLoaded (toCircleAndMembers labels key detail).1
        (toCircleAndMembers labels key detail).2) hother detail.key_epoch detail.rekey_required
    exact used_congr (hepochs.trans hloadedEpochs) (hcircle.trans hloadedCircle)

/-- **An arrival that applies an epoch puts it into use**, and any other leaves the one in use. -/
theorem used_arrive {s : Client} {a : Arrival} (hstays : stays crypto s a = true) :
    (arrive crypto circleId s a).used circleId =
      (applied crypto circleId s a).getD (s.used circleId) := by
  cases a with
  | load labels key detail => exact used_load s labels key detail
  | act a =>
      have hstore := store_step crypto circleId s a
      unfold stays at hstays
      unfold arrive applied
      dsimp only at hstays ⊢
      cases hdisp : dispatched crypto s a with
      | none =>
          rw [hdisp] at hstore
          exact used_congr (by rw [hstore]; rfl) (by rw [hstore]; rfl)
      | some action =>
          rw [hdisp] at hstore hstays
          rw [Option.elim_some] at hstore
          cases action with
          | circleEpochChanged circle_id key_epoch rekey_required =>
              dsimp only
              split_ifs with hid
              · subst hid
                refine used_of_epochs (e := ⟨key_epoch, rekey_required⟩) ?_
                rw [hstore]
                exact epochs_circleEpochChanged _ _ _
              · obtain ⟨hepochs, hcircle⟩ :=
                  circleEpochChanged_of_ne s.store hid key_epoch rekey_required
                exact used_congr (by rw [hstore]; exact hepochs) (by rw [hstore]; exact hcircle)
          | circleLoaded => cases hstays
          | circleLeft => cases hstays
          | locationReceived => exact used_congr (by rw [hstore]; rfl) (by rw [hstore]; rfl)
          | memberAccepted => exact used_congr (by rw [hstore]; rfl) (by rw [hstore]; rfl)
          | circleDecryptError => exact used_congr (by rw [hstore]; rfl) (by rw [hstore]; rfl)
          | memberRemoved circle_id pubkey token =>
              have hsame : (s.store.memberRemoved circle_id pubkey token).epochs = s.store.epochs ∧
                  (s.store.memberRemoved circle_id pubkey token).circles = s.store.circles := by
                unfold CirclesState.memberRemoved
                cases pubkey with
                | none => exact ⟨rfl, rfl⟩
                | some pubkey =>
                    dsimp only
                    split_ifs <;> exact ⟨rfl, rfl⟩
              refine used_congr ?_ ?_
              · rw [hstore]
                exact congrArg (Table.find? · circleId) hsame.1
              · rw [hstore]
                exact congrArg (findCircle · circleId) hsame.2

/-! ### Runs -/

/-- The epochs a run applies to the circle, in order. -/
def appliedOf (crypto : Crypto) (circleId : Uuid) (as : List Arrival) : List ℤ :=
  (events (arrive crypto circleId) {} as).filterMap fun e => applied crypto circleId e.pre e.act

/-- The client takes an envelope up: it has the epoch of the roster. -/
def Client.takes (s : Client) (env : CircleLocationEnvelopeV1) : Prop :=
  (s.handleEnvelope env).calls.length = s.calls.length + 1

/-- **The epoch of the circle never goes back**, and once the latest of all was applied, the client
takes up every envelope of it, whatever is applied afterwards. -/
structure NeverBack (crypto : Crypto) (circleId : Uuid) (as : List Arrival) : Prop where
  used : ∀ bs cs ds, as = bs ++ cs ++ ds →
    (run (arrive crypto circleId) {} bs).used circleId ≤
      (run (arrive crypto circleId) {} (bs ++ cs)).used circleId
  latest : ∀ latest, (∀ e ∈ appliedOf crypto circleId as, e ≤ latest) → ∀ bs a cs ds,
    as = bs ++ a :: cs ++ ds →
      applied crypto circleId (run (arrive crypto circleId) {} bs) a = some latest →
        ∀ env : CircleLocationEnvelopeV1, env.key_epoch = latest →
          (step crypto circleId (run (arrive crypto circleId) {} (bs ++ a :: cs)) .render).takes env

theorem appliedOf_append (as bs : List Arrival) :
    appliedOf crypto circleId (as ++ bs) = appliedOf crypto circleId as ++
      (events (arrive crypto circleId) (run (arrive crypto circleId) {} as) bs).filterMap
        fun e => applied crypto circleId e.pre e.act := by
  unfold appliedOf
  rw [events_append, List.filterMap_append]

theorem appliedOf_concat (as : List Arrival) (a : Arrival) :
    appliedOf crypto circleId (as ++ [a]) = appliedOf crypto circleId as ++
      (applied crypto circleId (run (arrive crypto circleId) {} as) a).toList := by
  rw [appliedOf_append, events_cons, events_nil]
  cases happlied : applied crypto circleId (run (arrive crypto circleId) {} as) a with
  | none => simp [happlied]
  | some e => simp [happlied]

/-- The epoch in use is the default, or one that was applied. -/
theorem used_mem (as : List Arrival)
    (hstays : ∀ e ∈ events (arrive crypto circleId) {} as, stays crypto e.pre e.act = true) :
    (run (arrive crypto circleId) {} as).used circleId ∈ 1 :: appliedOf crypto circleId as := by
  induction as using List.reverseRecOn with
  | nil => exact List.mem_cons_self ..
  | append_singleton as a ih =>
      rw [forall_events_append, events_cons, events_nil, List.forall_mem_singleton] at hstays
      rw [run_concat, used_arrive hstays.2, appliedOf_concat]
      cases happlied : applied crypto circleId (run (arrive crypto circleId) {} as) a with
      | none =>
          rw [Option.toList_none, List.append_nil]
          exact ih hstays.1
      | some e =>
          rw [Option.toList_some]
          exact List.mem_cons_of_mem _ (List.mem_append_right _ (List.mem_singleton_self e))

/-- Every epoch that was applied was in use. -/
theorem exists_used_of_mem (as : List Arrival)
    (hstays : ∀ e ∈ events (arrive crypto circleId) {} as, stays crypto e.pre e.act = true) {n : ℤ}
    (hn : n ∈ 1 :: appliedOf crypto circleId as) :
    ∃ bs cs, as = bs ++ cs ∧ (run (arrive crypto circleId) {} bs).used circleId = n := by
  induction as using List.reverseRecOn with
  | nil => exact ⟨[], [], rfl, (List.mem_singleton.1 hn).symm⟩
  | append_singleton as a ih =>
      rw [forall_events_append, events_cons, events_nil, List.forall_mem_singleton] at hstays
      rw [appliedOf_concat, ← List.cons_append, List.mem_append] at hn
      rcases hn with hn | hn
      · obtain ⟨bs, cs, rfl, hused⟩ := ih hstays.1 hn
        exact ⟨bs, cs ++ [a], List.append_assoc .., hused⟩
      · refine ⟨as ++ [a], [], (List.append_nil _).symm, ?_⟩
        rw [run_concat, used_arrive hstays.2, Option.mem_toList.1 hn]
        rfl

/-- A client takes up the envelopes of the epoch in use, once it has rendered. -/
theorem takes_of_used {s : Client} {env : CircleLocationEnvelopeV1}
    (h : env.key_epoch = s.used circleId) : (step crypto circleId s .render).takes env := by
  unfold Client.takes Client.handleEnvelope step
  dsimp only
  have hsame : env.key_epoch = (s.store.roster circleId).epoch := h
  rw [if_neg (not_not.2 hsame)]
  exact List.length_append

/-- Epochs in use that never go back were applied in order. -/
theorem sorted_of_used (as : List Arrival)
    (hstays : ∀ e ∈ events (arrive crypto circleId) {} as, stays crypto e.pre e.act = true)
    (hused : ∀ bs cs ds, as = bs ++ cs ++ ds →
      (run (arrive crypto circleId) {} bs).used circleId ≤
        (run (arrive crypto circleId) {} (bs ++ cs)).used circleId) :
    (1 :: appliedOf crypto circleId as).Pairwise (· ≤ ·) := by
  induction as using List.reverseRecOn with
  | nil => exact List.pairwise_singleton _ _
  | append_singleton as a ih =>
      rw [forall_events_append, events_cons, events_nil, List.forall_mem_singleton] at hstays
      have hold := ih hstays.1 fun bs cs ds has => hused bs cs (ds ++ [a]) (by simp [has])
      rw [appliedOf_concat, ← List.cons_append]
      refine List.pairwise_append.2 ⟨hold, ?_, ?_⟩
      · cases applied crypto circleId (run (arrive crypto circleId) {} as) a with
        | none => exact List.Pairwise.nil
        | some e => exact List.pairwise_singleton _ _
      · intro n hn e he
        -- the older epoch was in use at a moment before
        obtain ⟨bs, cs, rfl, rfl⟩ := exists_used_of_mem as hstays.1 hn
        have hle := hused bs (cs ++ [a]) [] (by simp)
        rw [← List.append_assoc, run_concat, used_arrive hstays.2, Option.mem_toList.1 he] at hle
        exact hle

/-- Epochs that are applied in order are in use in order. -/
theorem used_of_sorted {as : List Arrival}
    (hstays : ∀ e ∈ events (arrive crypto circleId) {} as, stays crypto e.pre e.act = true)
    (hsorted : (1 :: appliedOf crypto circleId as).Pairwise (· ≤ ·)) (bs cs ds : List Arrival)
    (has : as = bs ++ cs ++ ds) :
    (run (arrive crypto circleId) {} bs).used circleId ≤
      (run (arrive crypto circleId) {} (bs ++ cs)).used circleId := by
  induction cs using List.reverseRecOn generalizing ds with
  | nil => rw [List.append_nil]
  | append_singleton cs a ih =>
      have hle := ih (a :: ds) (by simp [has])
      rw [has, forall_events_append, ← List.append_assoc, forall_events_append, events_cons,
        events_nil, List.forall_mem_singleton] at hstays
      rw [← List.append_assoc, run_concat, used_arrive hstays.1.2]
      cases happlied : applied crypto circleId (run (arrive crypto circleId) {} (bs ++ cs)) a with
      | none => exact hle
      | some e =>
          rw [has, appliedOf_append, ← List.append_assoc, appliedOf_concat, happlied,
            Option.toList_some, ← List.cons_append, ← List.cons_append] at hsorted
          have hpair := (List.pairwise_append.1 (List.pairwise_append.1 hsorted).1).2.2
          refine hpair _ ?_ e (List.mem_singleton_self e)
          have hmem := used_mem bs (forall_events_append.1 hstays.1.1).1
          rw [appliedOf_append, ← List.cons_append]
          exact List.mem_append_left _ hmem

/-- **The epoch of a client goes back exactly if epochs are applied out of order**, by a response or
a message that is older than what was applied before it. -/
theorem never_back_iff (crypto : Crypto) (circleId : Uuid) (as : List Arrival)
    (hstays : ∀ e ∈ events (arrive crypto circleId) {} as, stays crypto e.pre e.act = true) :
    NeverBack crypto circleId as ↔ (1 :: appliedOf crypto circleId as).Pairwise (· ≤ ·) := by
  constructor
  · intro h
    exact sorted_of_used as hstays h.used
  · intro hsorted
    have hused := used_of_sorted hstays hsorted
    refine ⟨hused, ?_⟩
    intro latest hlatest bs a cs ds has happlied env henv
    refine takes_of_used ?_
    have hstays' := hstays
    rw [has, forall_events_append] at hstays'
    have hin : latest ∈ appliedOf crypto circleId as := by
      have hsplit : as = (bs ++ [a]) ++ (cs ++ ds) := by simp [has]
      rw [hsplit, appliedOf_append, appliedOf_concat, happlied, Option.toList_some]
      exact List.mem_append_left _ (List.mem_append_right _ (List.mem_singleton_self latest))
    have hstart : (run (arrive crypto circleId) {} (bs ++ [a])).used circleId = latest := by
      have hone : stays crypto (run (arrive crypto circleId) {} bs) a = true := by
        rw [forall_events_append, events_cons, List.forall_mem_cons] at hstays'
        exact hstays'.1.2.1
      rw [run_concat, used_arrive hone, happlied]
      rfl
    have hge := hused (bs ++ [a]) cs ds (by simp [has])
    have hsplit : bs ++ [a] ++ cs = bs ++ a :: cs := by simp
    rw [hstart, hsplit] at hge
    rw [henv]
    refine le_antisymm hge ?_
    rcases List.mem_cons.1 (used_mem (bs ++ a :: cs) hstays'.1) with hdefault | hmem
    · rw [hdefault]
      exact (List.pairwise_cons.1 hsorted).1 latest hin
    · refine hlatest _ ?_
      rw [has, appliedOf_append]
      exact List.mem_append_left _ hmem

/-! ### A slow response -/

/-- The detail of a circle at an epoch. -/
def detailAt (key_epoch : ℤ) : CircleDetail :=
  { id := "c"
    name_ciphertext := none
    name_version := 1
    key_epoch
    location_protocol_version := 1
    rekey_required := false
    membership_revision := 0
    created_at := 0
    is_owner := false
    self_token := "t"
    members := []
    my_key_wrap := none }

/-- No label opens. -/
def noLabels : Labels where
  decryptString _ _ := none
  parse _ := none

/-- The libraries, which nothing here calls. -/
def noCrypto : Crypto where
  encrypt _ _ _ text := text
  decrypt _ _ _ := none
  stringifyEvent _ := ""
  parseEvent _ := none
  stringify _ := ""
  parse _ := none
  verifyEvent _ := false
  approximateLocation lat lng := (lat, lng, .finite 250)

/-- The circle is loaded, and its rotation arrives. -/
def rotated : List Arrival :=
  [.load noLabels none (detailAt 1), .act (.message (.epochChanged "c" 2 false))]

/-- After a rotation that arrives in order the client has its epoch. -/
theorem never_back_rotated :
    (∀ e ∈ events (arrive noCrypto "c") {} rotated, stays noCrypto e.pre e.act = true) ∧
      NeverBack noCrypto "c" rotated := by
  have hstays : ∀ e ∈ events (arrive noCrypto "c") {} rotated, stays noCrypto e.pre e.act = true := by
    decide
  exact ⟨hstays, (never_back_iff noCrypto "c" rotated hstays).2 (by decide)⟩

/-- A response of before the rotation comes after its message: the client goes back to epoch 1, and
leaves every envelope of epoch 2 alone. -/
theorem stale_response :
    ¬ NeverBack noCrypto "c" (rotated ++ [.load noLabels none (detailAt 1)]) ∧
    (run (arrive noCrypto "c") {} rotated).used "c" = 2 ∧
    (run (arrive noCrypto "c") {} (rotated ++ [.load noLabels none (detailAt 1)])).used "c" = 1 ∧
    ¬ (run (arrive noCrypto "c") {} (rotated ++ [.load noLabels none (detailAt 1)])).takes
      ⟨"c", 2, "AQ=="⟩ := by
  have hbefore : (run (arrive noCrypto "c") {} rotated).used "c" = 2 := by decide
  have hafter : (run (arrive noCrypto "c") {} (rotated ++ [.load noLabels none (detailAt 1)])).used
      "c" = 1 := by decide
  refine ⟨?_, hbefore, hafter, by unfold Client.takes; decide⟩
  intro h
  have hle := h.used rotated [.load noLabels none (detailAt 1)] [] (by simp)
  rw [hbefore, hafter] at hle
  omega

end CircleClient
end Pwa
end SentinelMesh
