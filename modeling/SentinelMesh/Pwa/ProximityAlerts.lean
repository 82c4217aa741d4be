/-
# Proximity alerts

`hooks/useProximityAlerts.ts` over the reducers of `store/circlesSlice.ts` and
`store/eventsSlice.ts` that deliver members, locations and events: after each update the
effect of the hook runs, and it evaluates only if `decryptedLocations` is another object
than when it last did.

The object is a number that goes up with every change of the record, as the drafts of the
store make one.  Distance is a parameter.  The keys of the record are those of verified
events in lower case (`SignerKey`); an id of an alert is when it was made.  What a pair has
come to (`raised_eq`) is what the effect found of it the first time it evaluated and found
it: nothing if it never did (`alert_missed`), and as many alerts as the store listed the
pair.  `alerted_iff` is the result.
-/

import SentinelMesh.Pwa.Signer
import SentinelMesh.Lib.Run
import SentinelMesh.Lib.Table
import Mathlib.Data.Rat.Defs
import Mathlib.Data.List.ProdSigma

namespace SentinelMesh
namespace Pwa
namespace Alerts

open Lib

/-! ### The store -/

/-- `Severity`. -/
inductive Severity
  | low
  | medium
  | high
  | critical
  deriving DecidableEq

/-- `SEVERITY_RANK`. -/
def severityRank : Severity → ℕ
  | .low => 0
  | .medium => 1
  | .high => 2
  | .critical => 3

/-- `LatLng`. -/
structure LatLng where
  lat : ℚ
  lng : ℚ
  deriving DecidableEq

/-- The key of a verified event, in lower case. -/
structure SignerKey where
  text : Pubkey
  valid : Signer.validPubkey text = true

/-- `DecryptedLocation`. -/
structure DecryptedLocation extends LatLng where
  expiresAt : Option ℚ
  deriving DecidableEq

/-- `CircleMember`. -/
structure CircleMember where
  memberToken : Option String
  alertRadiusKm : Option ℚ
  alertSeverity : Option Severity
  pubkey : Option Pubkey
  deriving DecidableEq

/-- `SafetyEvent`. -/
structure SafetyEvent extends LatLng where
  id : Uuid
  severity : Severity
  title : String
  isActive : Bool
  updatedAt : Option String
  deriving DecidableEq

/-- `Omit<ProximityAlert, 'id'>`. -/
structure AlertData where
  memberPubkey : Pubkey
  zoneName : String
  eventId : Uuid
  severity : Severity
  triggeredAt : Timestamp
  deriving DecidableEq

/-- `ProximityAlert`. -/
structure ProximityAlert extends AlertData where
  id : ℕ
  deriving DecidableEq

/-- The part of the store the hook reads, and which object `decryptedLocations` is. -/
structure Store where
  activeCircleId : Option Uuid := none
  members : Table Uuid (List CircleMember) := .empty
  decryptedLocations : Table Pubkey DecryptedLocation := .empty
  locationsRef : ℕ := 0
  proximityAlerts : List ProximityAlert := []
  activeAlert : Option ProximityAlert := none
  events : List SafetyEvent := []

/-- An update of the store. -/
inductive Update
  | circleLoaded (circleId : Uuid) (members : List CircleMember)
  | locationReceived (pubkey : SignerKey) (location : DecryptedLocation)
  | memberRemoved (circleId : Uuid) (pubkey : Option Pubkey) (token : Option String)
  | locationsPruned (now : ℚ)
  | eventReceived (event : SafetyEvent)
  | eventsHydrated (events : List SafetyEvent)
  | viewportEventsSet (events : List SafetyEvent)
  | viewportEventsBatchApply (added updated : List SafetyEvent)
  | eventResolved (id : Uuid)

/-- A text that is there and not empty. -/
def truthy : Option String → Option String
  | some "" => none
  | o => o

/-- `mergeEvent`: what is not defined is kept. -/
def mergeEvent (current incoming : SafetyEvent) : SafetyEvent :=
  { incoming with updatedAt := incoming.updatedAt.or current.updatedAt }

/-- The event is older than the one there is. -/
def isStale (current event : SafetyEvent) : Bool :=
  match truthy current.updatedAt, truthy event.updatedAt with
  | some old, some new => decide (new < old)
  | _, _ => false

/-- `upsert` of `eventsSlice.ts`. -/
def upsert (items : List SafetyEvent) (event : SafetyEvent) : List SafetyEvent :=
  match items.findIdx? fun e => decide (e.id = event.id) with
  | some i => items.modify i fun current =>
    if isStale current event then current else mergeEvent current event
  | none => event :: items

/-- The reducers. -/
def Store.update (st : Store) : Update → Store
  | .circleLoaded circleId members =>
    { st with
      members := st.members.upsert circleId members fun _ => members
      activeCircleId := some circleId }
  | .locationReceived pubkey location =>
    { st with
      decryptedLocations := st.decryptedLocations.upsert pubkey.text location fun _ => location
      locationsRef := st.locationsRef + 1 }
  | .memberRemoved circleId pubkey token =>
    let members := st.members.modify circleId fun members => members.filter fun m =>
      match pubkey with
      | some pubkey => decide (m.pubkey ≠ some pubkey)
      -- a `null` is no token, and a token that is not given is none of the rows'
      | none => decide (m.memberToken = none ∨ m.memberToken ≠ token)
    match truthy pubkey with
    | some pubkey =>
      if (st.decryptedLocations.find? pubkey).isSome then
        { st with
          members
          decryptedLocations := st.decryptedLocations.filter fun k _ => decide (k ≠ pubkey)
          locationsRef := st.locationsRef + 1 }
      else { st with members }
    | none => { st with members }
  | .locationsPruned now =>
    let expired := fun (_ : Pubkey) (loc : DecryptedLocation) => loc.expiresAt.any (decide <| · ≤ now)
    if st.decryptedLocations.count expired = 0 then st
    else
      { st with
        decryptedLocations := st.decryptedLocations.filter fun k loc => !expired k loc
        locationsRef := st.locationsRef + 1 }
  | .eventReceived event => { st with events := upsert st.events event }
  | .eventsHydrated events =>
    { st with events := events.foldl (fun items event =>
        match items.find? fun e => decide (e.id = event.id) with
        | some current => upsert items (mergeEvent event current)
        | none => upsert items event) st.events }
  | .viewportEventsSet events => { st with events := events.foldl upsert st.events }
  | .viewportEventsBatchApply added updated =>
    { st with events := (added ++ updated).foldl upsert st.events }
  | .eventResolved id =>
    { st with events := match st.events.findIdx? fun e => decide (e.id = id) with
      | some i => st.events.modify i fun e => { e with isActive := false }
      | none => st.events }

/-- `proximityAlertAdded`. -/
def Store.proximityAlertAdded (st : Store) (alert : ProximityAlert) : Store :=
  if st.proximityAlerts.any fun a => decide (a.id = alert.id) then st
  else { st with proximityAlerts := alert :: st.proximityAlerts, activeAlert := some alert }

/-- The members of the active circle. -/
def Store.activeMembers (st : Store) : List CircleMember :=
  ((st.activeCircleId.bind st.members.find?)).getD []

/-! ### The hook -/

/-- The hook: the store, which object the locations were when the effect last evaluated, and
the next id. -/
structure Sys where
  store : Store := {}
  prevLocations : Option ℕ := none
  nextId : ℕ := 0

variable (haversineKm : LatLng → LatLng → ℚ)

/-- The checks of `computeProximityAlerts` on a member at a location, and an event. -/
def isNear (member : CircleMember) (loc : LatLng) (event : SafetyEvent) : Bool :=
  event.isActive &&
    decide (severityRank (member.alertSeverity.getD .medium) ≤ severityRank event.severity) &&
    decide (haversineKm loc event.toLatLng ≤ member.alertRadiusKm.getD 5)

/-- `computeProximityAlerts`. -/
def computeProximityAlerts (now : Timestamp) (members : List CircleMember)
    (locations : Table Pubkey DecryptedLocation) (events : List SafetyEvent) :
    List AlertData :=
  members.flatMap fun member =>
    match truthy member.pubkey with
    | none => []
    | some pubkey =>
      match locations.find? pubkey with
      | none => []
      | some loc => (events.filter (isNear haversineKm member loc.toLatLng)).map fun event =>
        { memberPubkey := pubkey
          zoneName := event.title
          eventId := event.id
          severity := event.severity
          triggeredAt := now }

/-- The key of an alert. -/
def AlertData.key (a : AlertData) : String := a.memberPubkey ++ ":" ++ a.eventId

/-- One alert of the effect, unless its key was there. -/
def Sys.raise (existingAlertKeys : List String) (s : Sys) (alert : AlertData) : Sys :=
  if existingAlertKeys.contains alert.key then s
  else
    { s with
      store := s.store.proximityAlertAdded { alert with id := s.nextId }
      nextId := s.nextId + 1 }

/-- The effect of `useProximityAlerts`. -/
def Sys.effect (s : Sys) (now : Timestamp) : Sys :=
  if s.prevLocations = some s.store.locationsRef then s
  else (computeProximityAlerts haversineKm now s.store.activeMembers s.store.decryptedLocations
    s.store.events).foldl (Sys.raise (s.store.proximityAlerts.map fun a => a.key))
      { s with prevLocations := some s.store.locationsRef }

/-- An update, and the effect after it. -/
def step (s : Sys) (a : Update × Timestamp) : Sys :=
  { s with store := s.store.update a.1 }.effect haversineKm a.2

/-- The start: the effect has run on the empty store. -/
def Sys.init : Sys := { prevLocations := some 0 }

/-! ### Pairs -/

/-- The member has this key, and the event is active, severe and near enough for where it was
last seen. -/
def qualifies (st : Store) (member : CircleMember) (event : SafetyEvent) (p : Pubkey) : Bool :=
  decide (truthy member.pubkey = some p) &&
    (st.decryptedLocations.find? p).any fun loc => isNear haversineKm member loc.toLatLng event

/-- How often the store lists the pair of a key and the id of an event so that it qualifies. -/
def listed (st : Store) (p : Pubkey) (e : Uuid) : ℕ :=
  (st.activeMembers.flatMap fun member => st.events.map fun event => (member, event)).countP fun me =>
    decide (me.2.id = e) && qualifies haversineKm st me.1 me.2 p

/-- The alert is about the pair. -/
def AlertData.isFor (p : Pubkey) (e : Uuid) (a : AlertData) : Bool :=
  decide (a.memberPubkey = p ∧ a.eventId = e)

/-- How many alerts there are about the pair. -/
def raised (st : Store) (p : Pubkey) (e : Uuid) : ℕ :=
  st.proximityAlerts.countP fun a => a.isFor p e

/-- **Every pair that qualifies has been raised once only.** -/
def Alerted (st : Store) : Prop :=
  ∀ member ∈ st.activeMembers, ∀ event ∈ st.events, ∀ p,
    qualifies haversineKm st member event p = true → raised st p event.id = 1

/-- How often the pair was listed after each update that changed the locations. -/
def listings (es : List (Event Sys (Update × Timestamp))) (p : Pubkey) (e : Uuid) : List ℕ :=
  (es.filter fun ev => decide (ev.pre.store.locationsRef ≠ ev.post.store.locationsRef)).map
    fun ev => listed haversineKm ev.post.store p e

/-- Every pair that qualifies has qualified after an update that changed the locations, and
was listed once at the first. -/
def SeenOnce (es : List (Event Sys (Update × Timestamp))) (st : Store) : Prop :=
  ∀ member ∈ st.activeMembers, ∀ event ∈ st.events, ∀ p,
    qualifies haversineKm st member event p = true →
      (listings haversineKm es p event.id).find? (fun n => decide (0 < n)) = some 1

variable {haversineKm} {s : Sys} {now : Timestamp}

/-- Valid keys have one length, so that the keys of alerts tell the pairs apart. -/
theorem key_eq_iff {a b : AlertData} (ha : Signer.validPubkey a.memberPubkey = true)
    (hb : Signer.validPubkey b.memberPubkey = true) :
    a.key = b.key ↔ a.memberPubkey = b.memberPubkey ∧ a.eventId = b.eventId := by
  have hlength : ∀ {p : Pubkey}, Signer.validPubkey p = true → p.toList.length = 64 := fun h => by
    unfold Signer.validPubkey at h
    simp only [Bool.and_eq_true, decide_eq_true_eq] at h
    exact h.1
  constructor
  · intro h
    unfold AlertData.key at h
    rw [← String.toList_inj] at h
    simp only [String.toList_append, List.append_assoc] at h
    obtain ⟨hp, he⟩ := List.append_inj h ((hlength ha).trans (hlength hb).symm)
    exact ⟨String.toList_inj.1 hp, String.toList_inj.1 (List.append_cancel_left he)⟩
  · rintro ⟨hp, he⟩
    unfold AlertData.key
    rw [hp, he]

/-- **What is computed is what is listed.** -/
theorem countP_compute (haversineKm : LatLng → LatLng → ℚ) (now : Timestamp) (st : Store)
    (p : Pubkey) (e : Uuid) :
    (computeProximityAlerts haversineKm now st.activeMembers st.decryptedLocations
      st.events).countP (AlertData.isFor p e) = listed haversineKm st p e := by
  unfold computeProximityAlerts listed
  rw [List.countP_flatMap, List.countP_flatMap]
  refine congrArg List.sum (List.map_congr_left fun member _ => ?_)
  simp only [Function.comp_apply]
  rw [List.countP_map]
  have hqualifies : ∀ event, ((fun me : CircleMember × SafetyEvent => decide (me.2.id = e) &&
      qualifies haversineKm st me.1 me.2 p) ∘ fun event => (member, event)) event =
        (decide (event.id = e) && qualifies haversineKm st member event p) := fun _ => rfl
  cases hpub : truthy member.pubkey with
  | none =>
      symm
      rw [List.countP_nil, List.countP_eq_zero]
      intro event _
      rw [hqualifies]
      simp [qualifies, hpub]
  | some pubkey =>
      dsimp only
      cases hloc : st.decryptedLocations.find? pubkey with
      | none =>
          symm
          dsimp only
          rw [List.countP_nil, List.countP_eq_zero]
          intro event _
          rw [hqualifies]
          by_cases hp : pubkey = p
          · subst hp
            simp [qualifies, hloc]
          · simp [qualifies, hpub, hp]
      | some loc =>
          dsimp only
          rw [List.countP_map, List.countP_filter]
          refine List.countP_congr fun event _ => ?_
          rw [hqualifies]
          by_cases hp : pubkey = p
          · subst hp
            simp [qualifies, hpub, hloc, AlertData.isFor]
          · simp [qualifies, hpub, hp, AlertData.isFor]

/-- An alert is about a key that has a location. -/
theorem find?_of_mem_compute (haversineKm : LatLng → LatLng → ℚ) (now : Timestamp) (st : Store)
    (a : AlertData) (ha : a ∈ computeProximityAlerts haversineKm now st.activeMembers st.decryptedLocations
      st.events) : ∃ loc, st.decryptedLocations.find? a.memberPubkey = some loc := by
  obtain ⟨member, _, ha⟩ := List.mem_flatMap.1 ha
  cases hpub : truthy member.pubkey with
  | none => simp [hpub] at ha
  | some pubkey =>
      cases hloc : st.decryptedLocations.find? pubkey with
      | none => simp [hpub, hloc] at ha
      | some loc =>
          rw [hpub] at ha
          dsimp only at ha
          rw [hloc] at ha
          obtain ⟨event, _, rfl⟩ := List.mem_map.1 ha
          exact ⟨loc, hloc⟩

/-! ### The effect -/

/-- No alert has an id that is still to come. -/
def Fresh (s : Sys) : Prop := ∀ a ∈ s.store.proximityAlerts, a.id < s.nextId

/-- What one alert of the effect does. -/
theorem raise_eq {keys : List String} (hs : Fresh s) (alert : AlertData) :
    s.raise keys alert = if keys.contains alert.key then s else
      { s with
        store := { s.store with
          proximityAlerts := { alert with id := s.nextId } :: s.store.proximityAlerts
          activeAlert := some { alert with id := s.nextId } }
        nextId := s.nextId + 1 } := by
  have hnew : (s.store.proximityAlerts.any fun a => decide (a.id = s.nextId)) = false := by
    rw [List.any_eq_false]
    intro a ha
    have hlt := hs a ha
    simp
    omega
  unfold Sys.raise Store.proximityAlertAdded
  dsimp only
  rw [hnew]
  rfl

theorem raise_fresh {keys : List String} (hs : Fresh s) (alert : AlertData) :
    Fresh (s.raise keys alert) := by
  rw [raise_eq hs]
  split_ifs
  · exact hs
  · intro a ha
    rcases List.mem_cons.1 ha with rfl | ha
    · exact Nat.lt_succ_self _
    · exact Nat.lt_succ_of_lt (hs a ha)

/-- **What the alerts of the effect do**: they are put before those there were, unless their
keys were there, and nothing else the hook reads changes. -/
theorem foldl_raise (keys : List String) (alerts : List AlertData) (hs : Fresh s) :
    Fresh (alerts.foldl (Sys.raise keys) s) ∧
      (alerts.foldl (Sys.raise keys) s).prevLocations = s.prevLocations ∧
      (∃ all active, (alerts.foldl (Sys.raise keys) s).store =
        { s.store with proximityAlerts := all, activeAlert := active }) ∧
      (∀ a ∈ (alerts.foldl (Sys.raise keys) s).store.proximityAlerts,
        a ∈ s.store.proximityAlerts ∨ a.toAlertData ∈ alerts) ∧
      ∀ p e, raised (alerts.foldl (Sys.raise keys) s).store p e =
        raised s.store p e + alerts.countP fun a => a.isFor p e && !keys.contains a.key := by
  induction alerts generalizing s with
  | nil => exact ⟨hs, rfl, ⟨_, _, rfl⟩, fun a ha => Or.inl ha, fun p e => rfl⟩
  | cons alert alerts ih =>
      obtain ⟨hfresh, hprev, ⟨all, active, hstore⟩, hmem, hraised⟩ := ih (raise_fresh hs alert)
      have hraise : s.raise keys alert = _ := raise_eq hs alert
      rw [List.foldl_cons]
      refine ⟨hfresh, ?_, ⟨all, active, ?_⟩, fun a ha => ?_, fun p e => ?_⟩
      · rw [hprev, hraise]
        split_ifs <;> rfl
      · rw [hstore, hraise]
        split_ifs <;> rfl
      · rcases hmem a ha with ha | ha
        · rw [hraise] at ha
          split_ifs at ha
          · exact Or.inl ha
          · rcases List.mem_cons.1 ha with rfl | ha
            · exact Or.inr List.mem_cons_self
            · exact Or.inl ha
        · exact Or.inr (List.mem_cons_of_mem _ ha)
      · rw [hraised, hraise, List.countP_cons]
        by_cases hkey : keys.contains alert.key = true
        · rw [if_pos hkey, hkey, Bool.not_true, Bool.and_false, if_neg Bool.false_ne_true]
          rfl
        · rw [if_neg hkey, Bool.eq_false_iff.2 hkey, Bool.not_false, Bool.and_true]
          unfold raised
          dsimp only
          rw [List.countP_cons]
          dsimp only
          omega

/-- Of the new alerts about a pair, all are unseen, or none. -/
theorem countP_unseen {alerts : List ProximityAlert} {new : List AlertData}
    (halerts : ∀ a ∈ alerts, Signer.validPubkey a.memberPubkey = true)
    (hnew : ∀ a ∈ new, Signer.validPubkey a.memberPubkey = true) (p : Pubkey) (e : Uuid) :
    (new.countP fun a => a.isFor p e && !(alerts.map fun a => a.key).contains a.key) =
      if 0 < alerts.countP (fun a => a.isFor p e) then 0 else new.countP (AlertData.isFor p e) := by
  -- an alert about the pair was seen exactly if there is one about it
  have hseen : ∀ a ∈ new, a.isFor p e = true →
      ((alerts.map fun a => a.key).contains a.key = true ↔
        0 < alerts.countP fun a => a.isFor p e) := fun a ha hfor => by
    unfold AlertData.isFor at hfor ⊢
    rw [decide_eq_true_eq] at hfor
    obtain ⟨rfl, rfl⟩ := hfor
    rw [List.contains_iff_mem, List.mem_map, List.countP_pos_iff]
    refine exists_congr fun b => and_congr_right fun hb => ?_
    rw [key_eq_iff (halerts b hb) (hnew a ha), decide_eq_true_eq]
  split_ifs with hpos
  · rw [List.countP_eq_zero]
    intro a ha
    rw [Bool.and_eq_true, Bool.not_eq_true']
    rintro ⟨hfor, hno⟩
    rw [(hseen a ha hfor).2 hpos] at hno
    cases hno
  · refine List.countP_congr fun a ha => ?_
    rw [Bool.and_eq_true, Bool.not_eq_true']
    refine ⟨fun h => h.1, fun hfor => ⟨hfor, Bool.eq_false_iff.2 fun hcon => hpos ?_⟩⟩
    exact (hseen a ha hfor).1 hcon

/-- What holds between two updates. -/
structure Between (s : Sys) : Prop where
  evaluated : s.prevLocations = some s.store.locationsRef
  fresh : Fresh s
  locations : ∀ p loc, s.store.decryptedLocations.find? p = some loc →
    Signer.validPubkey p = true
  alerts : ∀ a ∈ s.store.proximityAlerts, Signer.validPubkey a.memberPubkey = true

/-- What the reducers do: no alert comes or goes, and the locations change with their object. -/
theorem update_keeps (st : Store) (u : Update) :
    (st.update u).proximityAlerts = st.proximityAlerts ∧
      ∀ p loc, (st.update u).decryptedLocations.find? p = some loc →
        Signer.validPubkey p = true ∨ ∃ loc', st.decryptedLocations.find? p = some loc' := by
  cases u with
  | locationReceived pubkey location =>
      refine ⟨rfl, fun p loc hloc => ?_⟩
      simp only [Store.update, Table.find?_upsert] at hloc
      split_ifs at hloc with hp
      · rw [hp]
        exact Or.inl pubkey.valid
      · exact Or.inr ⟨loc, hloc⟩
  | memberRemoved circleId pubkey token =>
      simp only [Store.update]
      split
      · split_ifs
        · refine ⟨rfl, fun p loc hloc => Or.inr ⟨loc, ?_⟩⟩
          rw [Table.find?_filter] at hloc
          exact (Option.filter_eq_some_iff.1 hloc).1
        · exact ⟨rfl, fun p loc hloc => Or.inr ⟨loc, hloc⟩⟩
      · exact ⟨rfl, fun p loc hloc => Or.inr ⟨loc, hloc⟩⟩
  | locationsPruned now =>
      simp only [Store.update]
      split_ifs
      · exact ⟨rfl, fun p loc hloc => Or.inr ⟨loc, hloc⟩⟩
      · refine ⟨rfl, fun p loc hloc => Or.inr ⟨loc, ?_⟩⟩
        rw [Table.find?_filter] at hloc
        exact (Option.filter_eq_some_iff.1 hloc).1
  | _ => exact ⟨rfl, fun p loc hloc => Or.inr ⟨loc, hloc⟩⟩

/-- **What the effect does**: nothing to a pair, unless it evaluates and no alert is about it;
then it raises as many as are listed. -/
theorem effect_spec (haversineKm : LatLng → LatLng → ℚ) (now : Timestamp) (hfresh : Fresh s)
    (hlocations : ∀ p loc, s.store.decryptedLocations.find? p = some loc →
      Signer.validPubkey p = true)
    (halerts : ∀ a ∈ s.store.proximityAlerts, Signer.validPubkey a.memberPubkey = true) :
    Between (s.effect haversineKm now) ∧
      (∃ all active, (s.effect haversineKm now).store =
        { s.store with proximityAlerts := all, activeAlert := active }) ∧
      ∀ p e, raised (s.effect haversineKm now).store p e =
        if s.prevLocations = some s.store.locationsRef ∨ 0 < raised s.store p e then
          raised s.store p e
        else listed haversineKm s.store p e := by
  unfold Sys.effect
  by_cases hprev : s.prevLocations = some s.store.locationsRef
  · rw [if_pos hprev]
    exact ⟨⟨hprev, hfresh, hlocations, halerts⟩, ⟨_, _, rfl⟩, fun p e => by
      rw [if_pos (Or.inl hprev)]⟩
  · rw [if_neg hprev]
    have hcompute := fun a => find?_of_mem_compute haversineKm now s.store a
    generalize hnew : computeProximityAlerts haversineKm now s.store.activeMembers
      s.store.decryptedLocations s.store.events = new at *
    obtain ⟨hfresh', hprev', ⟨all, active, hstore⟩, hmem, hraised⟩ :=
      foldl_raise (s := { s with prevLocations := some s.store.locationsRef })
        (s.store.proximityAlerts.map fun a => a.key) new hfresh
    have hvalid : ∀ a ∈ new, Signer.validPubkey a.memberPubkey = true := fun a ha => by
      obtain ⟨loc, hloc⟩ := hcompute a ha
      exact hlocations _ loc hloc
    refine ⟨⟨?_, hfresh', fun p loc hloc => ?_, fun a ha => ?_⟩, ⟨all, active, hstore⟩, fun p e => ?_⟩
    · rw [hprev', hstore]
    · rw [hstore] at hloc
      exact hlocations p loc hloc
    · rcases hmem a ha with ha | ha
      · exact halerts a ha
      · exact hvalid _ ha
    · have hsum := (hraised p e).trans
        (congrArg (raised s.store p e + ·) (countP_unseen halerts hvalid p e))
      refine hsum.trans ?_
      rw [← countP_compute haversineKm now, hnew]
      change raised s.store p e + (if 0 < raised s.store p e then 0 else _) = _
      by_cases hpos : 0 < raised s.store p e
      · rw [if_pos (Or.inr hpos), if_pos hpos, Nat.add_zero]
      · rw [if_neg (not_or.2 ⟨hprev, hpos⟩), if_neg hpos]
        omega

/-! ### Runs -/

/-- **What an update does to a pair**: nothing if the locations stay or an alert is about it;
otherwise it raises as many as are listed. -/
theorem step_spec (haversineKm : LatLng → LatLng → ℚ) (hs : Between s) (a : Update × Timestamp) :
    Between (step haversineKm s a) ∧ ∀ p e, raised (step haversineKm s a).store p e =
      if s.store.locationsRef = (step haversineKm s a).store.locationsRef ∨
        0 < raised s.store p e then raised s.store p e
      else listed haversineKm (step haversineKm s a).store p e := by
  obtain ⟨halerts, hlocations⟩ := update_keeps s.store a.1
  have hraised : ∀ p e, raised (s.store.update a.1) p e = raised s.store p e := fun p e => by
    unfold raised
    rw [halerts]
  obtain ⟨hbetween, ⟨all, active, hstore⟩, hspec⟩ :=
    effect_spec haversineKm a.2 (s := { s with store := s.store.update a.1 })
      (fun b hb => hs.fresh b (halerts ▸ hb))
      (fun p loc hloc => by
        rcases hlocations p loc hloc with hvalid | ⟨loc', hloc'⟩
        · exact hvalid
        · exact hs.locations p loc' hloc')
      (fun b hb => hs.alerts b (halerts ▸ hb))
  refine ⟨hbetween, fun p e => (hspec p e).trans ?_⟩
  have hlisted : listed haversineKm (step haversineKm s a).store p e =
      listed haversineKm (s.store.update a.1) p e := by
    unfold step
    rw [hstore]
    rfl
  have href : (step haversineKm s a).store.locationsRef = (s.store.update a.1).locationsRef := by
    unfold step
    rw [hstore]
  dsimp only
  rw [hlisted, href, hraised, hs.evaluated]
  simp only [Option.some.injEq]

/-- One more update. -/
theorem listings_concat (es : List (Event Sys (Update × Timestamp)))
    (ev : Event Sys (Update × Timestamp)) (p : Pubkey) (e : Uuid) :
    listings haversineKm (es ++ [ev]) p e = listings haversineKm es p e ++
      if ev.pre.store.locationsRef = ev.post.store.locationsRef then []
      else [listed haversineKm ev.post.store p e] := by
  unfold listings
  rw [List.filter_append, List.map_append]
  by_cases href : ev.pre.store.locationsRef = ev.post.store.locationsRef
  · simp [href]
  · simp [href]

/-- What the effect has found of a pair the first time it found it. -/
def firstListing (ns : List ℕ) : ℕ := (ns.find? fun n => decide (0 < n)).getD 0

theorem firstListing_concat (ns : List ℕ) (n : ℕ) :
    firstListing (ns ++ [n]) = if 0 < firstListing ns then firstListing ns else n := by
  unfold firstListing
  rw [List.find?_append]
  cases hfind : ns.find? fun n => decide (0 < n) with
  | some m =>
      have hm : 0 < m := by simpa using List.find?_some hfind
      simp [hm]
  | none =>
      by_cases hn : 0 < n
      · simp [hn]
      · simp [Nat.eq_zero_of_not_pos hn]

/-- **What a pair has come to** is what the effect found of it the first time it evaluated
and found it. -/
theorem raised_eq (haversineKm : LatLng → LatLng → ℚ) (as : List (Update × Timestamp)) :
    Between (run (step haversineKm) Sys.init as) ∧
      ∀ p e, raised (run (step haversineKm) Sys.init as).store p e =
        firstListing (listings haversineKm (events (step haversineKm) Sys.init as) p e) := by
  refine run_events_induction (P := fun s es => Between s ∧
    ∀ p e, raised s.store p e = firstListing (listings haversineKm es p e)) ?_ ?_ as
  · refine ⟨⟨rfl, nofun, fun p loc h => ?_, nofun⟩, fun p e => rfl⟩
    cases h
  · rintro s es a ⟨hs, hraised⟩
    obtain ⟨hbetween, hspec⟩ := step_spec haversineKm hs a
    refine ⟨hbetween, fun p e => ?_⟩
    rw [hspec, listings_concat]
    by_cases href : s.store.locationsRef = (step haversineKm s a).store.locationsRef
    · rw [if_pos (Or.inl href), if_pos href, List.append_nil, hraised]
    · rw [if_neg href, firstListing_concat, ← hraised]
      simp only [href, false_or]

/-- **Proximity alerts.**  After every sequence of updates, with the effect run after each:
every pair of a member with a known key and location and an active event that is severe and
near enough has been raised once only, if and only if every such pair has qualified after an
update that changed the locations, and was listed once at the first such. -/
theorem alerted_iff (haversineKm : LatLng → LatLng → ℚ) (as : List (Update × Timestamp)) :
    Alerted haversineKm (run (step haversineKm) Sys.init as).store ↔
      SeenOnce haversineKm (events (step haversineKm) Sys.init as)
        (run (step haversineKm) Sys.init as).store := by
  obtain ⟨_, hraised⟩ := raised_eq haversineKm as
  refine forall₂_congr fun member _ => forall₂_congr fun event _ => forall₂_congr fun p _ => ?_
  rw [hraised]
  unfold firstListing
  cases hfind : (listings haversineKm (events (step haversineKm) Sys.init as) p
    event.id).find? fun n => decide (0 < n) with
  | none => simp
  | some n => simp

/-! ### Two orders -/

/-- A key of a member. -/
def demoKey : SignerKey :=
  { text := "aaaaaaaaaaaaaaaaaaaaaaaaaaaaaaaaaaaaaaaaaaaaaaaaaaaaaaaaaaaaaaaa"
    valid := by decide }

/-- A member with the defaults. -/
def demoMember : CircleMember :=
  { memberToken := none, alertRadiusKm := none, alertSeverity := none, pubkey := some demoKey.text }

/-- An active event. -/
def demoEvent : SafetyEvent :=
  { lat := 0
    lng := 0
    id := "e1"
    severity := .critical
    title := "Crisis Zone B"
    isActive := true
    updatedAt := none }

/-- The member, then where it is, then the event. -/
def demoUpdates : List (Update × Timestamp) :=
  [(.circleLoaded "c1" [demoMember], 0),
    (.locationReceived demoKey { lat := 0, lng := 0, expiresAt := none }, 1),
    (.eventReceived demoEvent, 2)]

/-- **The alert is missed** when the event comes last. -/
theorem alert_missed :
    ¬ Alerted (fun _ _ => 0) (run (step fun _ _ => 0) Sys.init demoUpdates).store := by
  intro h
  have honce := h demoMember (by decide) demoEvent (by decide) demoKey.text
    (by decide)
  exact absurd honce (by decide)

/-- When the location comes last it is raised once. -/
example : raised (run (step fun _ _ => 0) Sys.init
    [(.eventReceived demoEvent, 0), (.circleLoaded "c1" [demoMember], 1),
      (.locationReceived demoKey { lat := 0, lng := 0, expiresAt := none }, 2)]).store
    demoKey.text "e1" = 1 := by
  decide

end Alerts
end Pwa
end SentinelMesh
