/-
# The location that is shown is the newest

`useCircleWsConnection` of `services/circleWebSocket.ts` handles envelopes in calls that wait twice
and finish in any order.  After its second `await` a call compares the location with the last one
of its signer in `seenRef`, puts it there and dispatches it, and nothing comes in between.

`Tracks` is the invariant: what is shown of a key was accepted and is as new as what `seenRef` has
of it, which is as new as everything accepted of it.  What `seenRef` has of a key only gets newer
(`seenRef_step`), also while nothing is shown of it.

A call of an earlier connection has the same `seenRef`, and is one of the calls here; nothing else
in the client dispatches a location.
-/

import SentinelMesh.Pwa.Published

namespace SentinelMesh
namespace Pwa
namespace CircleClient

open Lib CircleStore
open CircleLocation (Crypto VerifiedCircleLocationV1)

variable {crypto : Crypto} {circleId : Uuid}

/-- What is shown of a key. -/
def Client.shown (s : Client) (pubkey : Pubkey) : Option DecryptedLocation :=
  s.store.decryptedLocations.find? pubkey

/-- The location an event accepts: the envelope of a call is decrypted, by a signer on its roster. -/
def accepts (crypto : Crypto) (e : Event Client Action) : Option VerifiedCircleLocationV1 :=
  match e.act with
  | .decrypted i => (e.pre.calls[i]?).bind (Call.decrypted crypto)
  | _ => none

/-- The locations that were accepted. -/
def acceptedOf (crypto : Crypto) (es : List (Event Client Action)) : List VerifiedCircleLocationV1 :=
  es.filterMap (accepts crypto)

/-- Calls of `handleEnvelope` are all that dispatches a location. -/
def Action.fromCalls : Action → Bool
  | .dispatch (.locationReceived _ _) => false
  | _ => true

/-- A reducer that takes no location away. -/
def keepsLocations : CirclesAction → Bool
  | .memberRemoved _ (some _) _ => false
  | .circleLeft => false
  | _ => true

/-! ### What a step does to what is shown -/

/-- A call shows what it accepts, unless it was seen. -/
theorem fresh_eq (s : Client) (i : ℕ) :
    s.fresh crypto i =
      ((s.calls[i]?).bind (Call.decrypted crypto)).filter fun loc => !s.seen loc := by
  unfold Client.fresh
  cases hcall : s.calls[i]? with
  | none => rfl
  | some call =>
      cases hloc : call.decrypted crypto with
      | none => simp [hloc]
      | some loc =>
          cases hseen : s.seen loc with
          | false => simp [hloc, hseen, Option.filter_some]
          | true => simp [hloc, hseen, Option.filter_some]

/-- A step of anything but a decryption leaves `seenRef`. -/
theorem seenRef_of_not_decrypted {s : Client} {a : Action} (ha : ∀ i, a ≠ .decrypted i) :
    (step crypto circleId s a).seenRef = s.seenRef := by
  cases a with
  | message msg =>
      unfold step
      dsimp only
      split
      · rfl
      · cases msg with
        | snapshot payload =>
            obtain ⟨calls, hcalls⟩ := handleEnvelopes_eq s payload
            simp only [Client.onmessage, hcalls]
        | envelope payload =>
            obtain ⟨calls, hcalls⟩ := handleEnvelope_eq s payload
            simp only [Client.onmessage, hcalls]
        | epochChanged => rfl
        | memberRemoved circle_id token =>
            unfold Client.onmessage
            dsimp only
            split <;> rfl
  | render => rfl
  | keyLoaded i key now =>
      unfold step Client.keyLoaded
      dsimp only
      split
      · rfl
      · cases key <;> rfl
  | threw i => rfl
  | decrypted i => exact absurd rfl (ha i)
  | dispatch action => rfl

/-- A decryption that shows nothing leaves `seenRef` and the store. -/
theorem decrypted_of_none {s : Client} {i : ℕ} (h : s.fresh crypto i = none) :
    (step crypto circleId s (.decrypted i)).seenRef = s.seenRef ∧
      (step crypto circleId s (.decrypted i)).store = s.store := by
  unfold step Client.decrypted
  dsimp only
  rw [h]
  dsimp only
  split
  · exact ⟨rfl, rfl⟩
  · exact ⟨rfl, rfl⟩

/-- A decryption that shows a location puts it in both places. -/
theorem decrypted_of_some {s : Client} {i : ℕ} {loc : VerifiedCircleLocationV1}
    (h : s.fresh crypto i = some loc) :
    (step crypto circleId s (.decrypted i)).seenRef =
        s.seenRef.put (toAsciiLowercase loc.pubkey)
          { event_id := loc.event_id, captured_at := loc.captured_at } ∧
      (step crypto circleId s (.decrypted i)).store = s.store.reduce (received loc) := by
  unfold step Client.decrypted
  dsimp only
  rw [h]
  exact ⟨rfl, rfl⟩

/-- A reducer that receives no location shows nothing new. -/
theorem locations_reduce {state : CirclesState} {action : CirclesAction}
    (h : ∀ pubkey location, action ≠ .locationReceived pubkey location) {pubkey : Pubkey}
    {l : DecryptedLocation} (hl : (state.reduce action).decryptedLocations.find? pubkey = some l) :
    state.decryptedLocations.find? pubkey = some l := by
  cases action with
  | locationReceived pubkey location => exact absurd rfl (h pubkey location)
  | circleLoaded => exact hl
  | circleEpochChanged => exact hl
  | memberAccepted => exact hl
  | circleDecryptError => exact hl
  | circleLeft => cases hl
  | memberRemoved circle_id named token =>
      unfold CirclesState.reduce CirclesState.memberRemoved at hl
      dsimp only at hl
      cases named with
      | none => exact hl
      | some named =>
          dsimp only at hl
          split at hl
          · exact hl
          · rw [Table.find?_filter] at hl
            exact (Option.filter_eq_some_iff.1 hl).1

/-- One that takes none away leaves what is shown. -/
theorem locations_reduce_of_keeps {state : CirclesState} {action : CirclesAction}
    (h : ∀ pubkey location, action ≠ .locationReceived pubkey location)
    (hkeeps : keepsLocations action = true) :
    (state.reduce action).decryptedLocations = state.decryptedLocations := by
  cases action with
  | locationReceived pubkey location => exact absurd rfl (h pubkey location)
  | circleLoaded => rfl
  | circleEpochChanged => rfl
  | memberAccepted => rfl
  | circleDecryptError => rfl
  | circleLeft => cases hkeeps
  | memberRemoved circle_id named token =>
      cases named with
      | none => rfl
      | some named => cases hkeeps

/-- Nothing but a decryption dispatches a location. -/
theorem dispatched_ne_location {s : Client} {a : Action} (hcalls : a.fromCalls = true)
    (ha : ∀ i, a ≠ .decrypted i) {action : CirclesAction} (h : dispatched crypto s a = some action)
    (pubkey : Pubkey) (location : DecryptedLocation) : action ≠ .locationReceived pubkey location := by
  rintro rfl
  cases a with
  | message msg =>
      unfold dispatched at h
      dsimp only at h
      split at h
      · cases h
      · cases msg with
        | snapshot => cases h
        | envelope => cases h
        | epochChanged => cases h
        | memberRemoved circle_id token =>
            dsimp only at h
            split at h <;> cases h
  | render => cases h
  | keyLoaded i key now =>
      unfold dispatched at h
      dsimp only at h
      split at h <;> cases h
  | threw i => cases h
  | decrypted i => exact ha i rfl
  | dispatch action =>
      obtain rfl := Option.some.inj h
      cases hcalls

/-! ### The invariant -/

/-- An event with an id and a time verifies. -/
def Dated (crypto : Crypto) (id : String) (t : ℤ) : Prop :=
  ∃ event, crypto.verifyEvent event = true ∧ event.id = id ∧ event.created_at = t

/-- **What `verifyEvent` is relied on for**: the id is the hash of an event, so that two events with
one id have one time. -/
def IdsDate (crypto : Crypto) : Prop :=
  ∀ event event', crypto.verifyEvent event = true → crypto.verifyEvent event' = true →
    event.id = event'.id → event.created_at = event'.created_at

theorem dated_of_decrypted {call : Call} {loc : VerifiedCircleLocationV1}
    (h : call.decrypted crypto = some loc) : Dated crypto loc.event_id loc.captured_at := by
  unfold Call.decrypted at h
  split at h
  · obtain ⟨_, _, event, _, ⟨hverify, _⟩, _, _, _, _, _, content, _, ⟨hcaptured, _⟩, rfl⟩ :=
      CircleLocation.decryptCircleLocationV1_eq_some.1 h
    exact ⟨event, hverify, rfl, hcaptured.symm⟩
  · cases h

/-- **What is shown, what was seen and what was accepted.** -/
structure Tracks (crypto : Crypto) (s : Client) (accepted : List VerifiedCircleLocationV1) : Prop where
  /-- What is shown was accepted. -/
  shown_accepted : ∀ pubkey l, s.shown pubkey = some l →
    ∃ loc ∈ accepted, received loc = .locationReceived pubkey l
  /-- What is shown is what was seen last. -/
  shown_seen : ∀ pubkey l, s.shown pubkey = some l →
    ∃ last, s.seenRef.find? pubkey = some last ∧ last.captured_at = l.ts
  /-- What was seen is of an event that verifies. -/
  seen_dated : ∀ pubkey last, s.seenRef.find? pubkey = some last →
    Dated crypto last.event_id last.captured_at
  /-- Nothing newer was accepted. -/
  newest : ∀ loc ∈ accepted, ∃ last,
    s.seenRef.find? (toAsciiLowercase loc.pubkey) = some last ∧ loc.captured_at ≤ last.captured_at

theorem tracks_init : Tracks crypto {} [] where
  shown_accepted _ _ hl := by cases hl
  shown_seen _ _ hl := by cases hl
  seen_dated _ _ hlast := by cases hlast
  newest _ hloc := by cases hloc

/-- What was not seen is as new as the last that was. -/
theorem le_of_not_seen {s : Client} {loc : VerifiedCircleLocationV1} (h : s.seen loc = false)
    {last : LastSeen} (hlast : s.seenRef.find? (toAsciiLowercase loc.pubkey) = some last) :
    last.captured_at ≤ loc.captured_at := by
  unfold Client.seen at h
  rw [hlast] at h
  simp only [Option.any_some, decide_eq_false_iff_not, not_or, not_lt] at h
  exact h.2

/-- What was seen is the last that was seen, or older. -/
theorem exists_last_of_seen {s : Client} {loc : VerifiedCircleLocationV1} (h : s.seen loc = true) :
    ∃ last, s.seenRef.find? (toAsciiLowercase loc.pubkey) = some last ∧
      (last.event_id = loc.event_id ∨ loc.captured_at < last.captured_at) := by
  unfold Client.seen at h
  obtain ⟨last, hlast, hor⟩ := (Option.any_eq_true _ _).1 h
  exact ⟨last, hlast, of_decide_eq_true hor⟩

/-- **What was seen of a key only gets newer.** -/
theorem seenRef_step (crypto : Crypto) (circleId : Uuid) {s : Client} (a : Action) {pubkey : Pubkey} {last : LastSeen}
    (h : s.seenRef.find? pubkey = some last) :
    ∃ last', (step crypto circleId s a).seenRef.find? pubkey = some last' ∧
      last.captured_at ≤ last'.captured_at := by
  by_cases ha : ∀ i, a ≠ .decrypted i
  · rw [seenRef_of_not_decrypted ha]
    exact ⟨last, h, le_rfl⟩
  · obtain ⟨i, rfl⟩ : ∃ i, a = .decrypted i := by simpa using ha
    cases hfresh : s.fresh crypto i with
    | none =>
        rw [(decrypted_of_none hfresh).1]
        exact ⟨last, h, le_rfl⟩
    | some loc =>
        rw [(decrypted_of_some hfresh).1, Table.find?_put]
        rw [fresh_eq] at hfresh
        obtain ⟨_, hunseen⟩ := Option.filter_eq_some_iff.1 hfresh
        split_ifs with hkey
        · subst hkey
          exact ⟨_, rfl, le_of_not_seen (by simpa using hunseen) h⟩
        · exact ⟨last, h, le_rfl⟩

/-- A step that accepts and shows nothing keeps the invariant. -/
theorem Tracks.of_quiet {s s' : Client} {accepted : List VerifiedCircleLocationV1}
    (h : Tracks crypto s accepted) (hseen : s'.seenRef = s.seenRef)
    (hshown : ∀ pubkey l, s'.shown pubkey = some l → s.shown pubkey = some l) :
    Tracks crypto s' accepted where
  shown_accepted pubkey l hl := h.shown_accepted pubkey l (hshown pubkey l hl)
  shown_seen pubkey l hl := by
    rw [hseen]
    exact h.shown_seen pubkey l (hshown pubkey l hl)
  seen_dated pubkey last hlast := by
    rw [hseen] at hlast
    exact h.seen_dated pubkey last hlast
  newest loc hloc := by
    rw [hseen]
    exact h.newest loc hloc

/-- A location that was accepted and seen is no news. -/
theorem Tracks.of_seen (hids : IdsDate crypto) {s s' : Client}
    {accepted : List VerifiedCircleLocationV1} (h : Tracks crypto s accepted)
    {loc : VerifiedCircleLocationV1} (hdated : Dated crypto loc.event_id loc.captured_at)
    (hloc : s.seen loc = true) (hseen : s'.seenRef = s.seenRef)
    (hstore : s'.store.decryptedLocations = s.store.decryptedLocations) :
    Tracks crypto s' (accepted ++ [loc]) := by
  have hquiet : Tracks crypto s' accepted := h.of_quiet hseen fun pubkey l hl => by
    unfold Client.shown at hl ⊢
    rwa [hstore] at hl
  refine ⟨fun pubkey l hl => ?_, hquiet.shown_seen, hquiet.seen_dated, ?_⟩
  · obtain ⟨loc', hin, hreceived⟩ := hquiet.shown_accepted pubkey l hl
    exact ⟨loc', List.mem_append_left _ hin, hreceived⟩
  · intro loc' hin
    rcases List.mem_append.1 hin with hin | hin
    · exact hquiet.newest loc' hin
    · obtain rfl := List.mem_singleton.1 hin
      obtain ⟨last, hlast, hid | hlt⟩ := exists_last_of_seen hloc
      · -- one id has one time
        obtain ⟨event, hverify, hevent, htime⟩ := hdated
        obtain ⟨event', hverify', hevent', htime'⟩ := h.seen_dated _ last hlast
        have hsame := hids event event' hverify hverify' (by rw [hevent, hevent', hid])
        exact ⟨last, hseen ▸ hlast, by omega⟩
      · exact ⟨last, hseen ▸ hlast, hlt.le⟩

/-- A location that was accepted and not seen is shown. -/
theorem Tracks.of_shown {s s' : Client} {accepted : List VerifiedCircleLocationV1}
    (h : Tracks crypto s accepted) {loc : VerifiedCircleLocationV1}
    (hdated : Dated crypto loc.event_id loc.captured_at) (hloc : s.seen loc = false)
    (hseen : s'.seenRef = s.seenRef.put (toAsciiLowercase loc.pubkey)
      { event_id := loc.event_id, captured_at := loc.captured_at })
    (hstore : s'.store.decryptedLocations =
      (s.store.reduce (received loc)).decryptedLocations) :
    Tracks crypto s' (accepted ++ [loc]) := by
  have hput : ∀ pubkey l, s'.shown pubkey = some l →
      (pubkey = toAsciiLowercase loc.pubkey ∧ received loc = .locationReceived pubkey l) ∨
        (pubkey ≠ toAsciiLowercase loc.pubkey ∧ s.shown pubkey = some l) := by
    intro pubkey l hl
    unfold Client.shown at hl ⊢
    rw [hstore] at hl
    unfold received CirclesState.reduce CirclesState.locationReceived at hl
    dsimp only at hl
    rw [Table.find?_put] at hl
    split_ifs at hl with hkey
    · left
      refine ⟨hkey, ?_⟩
      rw [hkey, ← Option.some.inj hl]
      rfl
    · exact Or.inr ⟨hkey, hl⟩
  refine ⟨?_, ?_, ?_, ?_⟩
  · intro pubkey l hl
    rcases hput pubkey l hl with ⟨_, hreceived⟩ | ⟨_, hold⟩
    · exact ⟨loc, List.mem_append_right _ (List.mem_singleton_self loc), hreceived⟩
    · obtain ⟨loc', hin, hreceived⟩ := h.shown_accepted pubkey l hold
      exact ⟨loc', List.mem_append_left _ hin, hreceived⟩
  · intro pubkey l hl
    rw [hseen, Table.find?_put]
    rcases hput pubkey l hl with ⟨hkey, hreceived⟩ | ⟨hkey, hold⟩
    · rw [if_pos hkey]
      refine ⟨_, rfl, ?_⟩
      unfold received at hreceived
      rw [← (CirclesAction.locationReceived.inj hreceived).2]
    · rw [if_neg hkey]
      exact h.shown_seen pubkey l hold
  · intro pubkey last hlast
    rw [hseen, Table.find?_put] at hlast
    split_ifs at hlast with hkey
    · rw [← Option.some.inj hlast]
      exact hdated
    · exact h.seen_dated pubkey last hlast
  · intro loc' hin
    rw [hseen, Table.find?_put]
    rcases List.mem_append.1 hin with hin | hin
    · obtain ⟨last, hlast, hle⟩ := h.newest loc' hin
      split_ifs with hkey
      · rw [hkey] at hlast
        exact ⟨_, rfl, hle.trans (le_of_not_seen hloc hlast)⟩
      · exact ⟨last, hlast, hle⟩
    · obtain rfl := List.mem_singleton.1 hin
      rw [if_pos rfl]
      exact ⟨_, rfl, le_rfl⟩

/-- **Every step keeps it**, with what the step accepts. -/
theorem tracks_step (hids : IdsDate crypto) {s : Client}
    {accepted : List VerifiedCircleLocationV1} (h : Tracks crypto s accepted) {a : Action}
    (ha : a.fromCalls = true) :
    Tracks crypto (step crypto circleId s a)
      (accepted ++ (accepts crypto ⟨s, a, step crypto circleId s a⟩).toList) := by
  by_cases hother : ∀ i, a ≠ .decrypted i
  · have hnone : accepts crypto ⟨s, a, step crypto circleId s a⟩ = none := by
      unfold accepts
      cases a with
      | decrypted i => exact absurd rfl (hother i)
      | _ => rfl
    rw [hnone, Option.toList_none, List.append_nil]
    refine h.of_quiet (seenRef_of_not_decrypted hother) fun pubkey l hl => ?_
    unfold Client.shown at hl ⊢
    rw [store_step] at hl
    cases hdisp : dispatched crypto s a with
    | none =>
        rw [hdisp] at hl
        exact hl
    | some action =>
        rw [hdisp] at hl
        exact locations_reduce (dispatched_ne_location ha hother hdisp) hl
  · obtain ⟨i, rfl⟩ : ∃ i, a = .decrypted i := by simpa using hother
    have haccepts : accepts crypto ⟨s, .decrypted i, step crypto circleId s (.decrypted i)⟩ =
        (s.calls[i]?).bind (Call.decrypted crypto) := rfl
    rw [haccepts]
    have hfresh : s.fresh crypto i = _ := fresh_eq s i
    cases hdecrypted : (s.calls[i]?).bind (Call.decrypted crypto) with
    | none =>
        rw [hdecrypted] at hfresh
        obtain ⟨hseen, hstore⟩ : _ ∧ (step crypto circleId s (.decrypted i)).store = s.store :=
          decrypted_of_none hfresh
        rw [Option.toList_none, List.append_nil]
        refine h.of_quiet hseen fun pubkey l hl => ?_
        unfold Client.shown at hl ⊢
        rwa [hstore] at hl
    | some loc =>
        rw [hdecrypted, Option.filter_some] at hfresh
        obtain ⟨call, _, hcall⟩ := Option.bind_eq_some_iff.1 hdecrypted
        have hdated := dated_of_decrypted hcall
        rw [Option.toList_some]
        cases hseenLoc : s.seen loc with
        | true =>
            rw [hseenLoc] at hfresh
            obtain ⟨hseen, hstore⟩ : _ ∧ (step crypto circleId s (.decrypted i)).store = s.store :=
              decrypted_of_none hfresh
            exact h.of_seen hids hdated hseenLoc hseen (congrArg CirclesState.decryptedLocations hstore)
        | false =>
            rw [hseenLoc] at hfresh
            obtain ⟨hseen, hstore⟩ : _ ∧
                (step crypto circleId s (.decrypted i)).store = s.store.reduce (received loc) :=
              decrypted_of_some hfresh
            exact h.of_shown hdated hseenLoc hseen (congrArg CirclesState.decryptedLocations hstore)

/-! ### Runs -/

theorem acceptedOf_concat (as : List Action) (a : Action) :
    acceptedOf crypto (events (step crypto circleId) {} (as ++ [a])) =
      acceptedOf crypto (events (step crypto circleId) {} as) ++
        (accepts crypto ⟨run (step crypto circleId) {} as, a,
          step crypto circleId (run (step crypto circleId) {} as) a⟩).toList := by
  unfold acceptedOf
  rw [events_concat, List.filterMap_append]
  cases haccepts : accepts crypto ⟨run (step crypto circleId) {} as, a,
    step crypto circleId (run (step crypto circleId) {} as) a⟩ with
  | none => simp [haccepts]
  | some loc => simp [haccepts]

theorem tracks_run (circleId : Uuid) (hids : IdsDate crypto) (as : List Action)
    (hcalls : ∀ a ∈ as, a.fromCalls = true) :
    Tracks crypto (run (step crypto circleId) {} as)
      (acceptedOf crypto (events (step crypto circleId) {} as)) := by
  induction as using List.reverseRecOn with
  | nil => exact tracks_init
  | append_singleton as a ih =>
      rw [run_concat, acceptedOf_concat]
      rw [List.forall_mem_append] at hcalls
      exact tracks_step hids (ih hcalls.1) (hcalls.2 a (List.mem_singleton_self a))

theorem seenRef_run (crypto : Crypto) (circleId : Uuid) {s : Client} (as : List Action) {pubkey : Pubkey} {last : LastSeen}
    (h : s.seenRef.find? pubkey = some last) :
    ∃ last', (run (step crypto circleId) s as).seenRef.find? pubkey = some last' ∧
      last.captured_at ≤ last'.captured_at := by
  induction as generalizing s last with
  | nil => exact ⟨last, h, le_rfl⟩
  | cons a as ih =>
      obtain ⟨last', hlast', hle⟩ := seenRef_step crypto circleId a h
      obtain ⟨last'', hlast'', hle'⟩ := ih hlast'
      exact ⟨last'', hlast'', hle.trans hle'⟩

/-- Something is shown of every key that was seen. -/
def ShowsSeen (s : Client) : Prop :=
  ∀ pubkey last, s.seenRef.find? pubkey = some last → ∃ l, s.shown pubkey = some l

theorem showsSeen_step {s : Client} {a : Action} (h : ShowsSeen s) (hcalls : a.fromCalls = true)
    (hkeeps : ∀ action ∈ dispatched crypto s a, keepsLocations action = true) :
    ShowsSeen (step crypto circleId s a) := by
  intro pubkey last hlast
  unfold Client.shown
  by_cases hother : ∀ i, a ≠ .decrypted i
  · rw [seenRef_of_not_decrypted hother] at hlast
    have hstore : (step crypto circleId s a).store.decryptedLocations =
        s.store.decryptedLocations := by
      rw [store_step]
      cases hdisp : dispatched crypto s a with
      | none => rfl
      | some action =>
          exact locations_reduce_of_keeps (dispatched_ne_location hcalls hother hdisp)
            (hkeeps action hdisp)
    rw [hstore]
    exact h pubkey last hlast
  · obtain ⟨i, rfl⟩ : ∃ i, a = .decrypted i := by simpa using hother
    cases hfresh : s.fresh crypto i with
    | none =>
        obtain ⟨hseen, hstore⟩ : _ ∧ (step crypto circleId s (.decrypted i)).store = s.store :=
          decrypted_of_none hfresh
        rw [hseen] at hlast
        rw [hstore]
        exact h pubkey last hlast
    | some loc =>
        obtain ⟨hseen, hstore⟩ : _ ∧
            (step crypto circleId s (.decrypted i)).store = s.store.reduce (received loc) :=
          decrypted_of_some hfresh
        rw [hstore]
        unfold received CirclesState.reduce CirclesState.locationReceived
        dsimp only
        rw [Table.find?_put]
        rw [hseen, Table.find?_put] at hlast
        split_ifs at hlast ⊢ with hkey
        · exact ⟨_, rfl⟩
        · exact h pubkey last hlast

theorem showsSeen_run (as : List Action) (hcalls : ∀ a ∈ as, a.fromCalls = true)
    (hkeeps : ∀ e ∈ events (step crypto circleId) {} as,
      ∀ action ∈ dispatched crypto e.pre e.act, keepsLocations action = true) :
    ShowsSeen (run (step crypto circleId) {} as) := by
  refine run_induction_of (G := fun s a => a.fromCalls = true ∧
    ∀ action ∈ dispatched crypto s a, keepsLocations action = true) (fun _ _ h => by cases h)
    (fun s a h hG => showsSeen_step h hG.1 hG.2) fun e he => ⟨?_, hkeeps e he⟩
  obtain ⟨bs, cs, has, _, _⟩ := mem_events he
  exact hcalls e.act (by rw [has]; simp)

/-- **Locations move forward in time.**  Whatever envelopes arrive, and however their calls
interleave, what is shown of a key is never older than what was shown of it before; and unless the
store drops locations, what is shown of a key is an accepted location of it and as new as every
other. -/
theorem newest_location_shown (hids : IdsDate crypto) (circleId : Uuid) (as : List Action)
    (hcalls : ∀ a ∈ as, a.fromCalls = true) :
    (∀ bs cs ds, as = bs ++ cs ++ ds → ∀ pubkey l l',
      (run (step crypto circleId) {} bs).shown pubkey = some l →
      (run (step crypto circleId) {} (bs ++ cs)).shown pubkey = some l' → l.ts ≤ l'.ts) ∧
    ((∀ e ∈ events (step crypto circleId) {} as,
        ∀ action ∈ dispatched crypto e.pre e.act, keepsLocations action = true) → ∀ pubkey,
      (∀ loc ∈ acceptedOf crypto (events (step crypto circleId) {} as),
        toAsciiLowercase loc.pubkey = pubkey →
          ∃ l, (run (step crypto circleId) {} as).shown pubkey = some l ∧ loc.captured_at ≤ l.ts) ∧
      ∀ l, (run (step crypto circleId) {} as).shown pubkey = some l →
        ∃ loc ∈ acceptedOf crypto (events (step crypto circleId) {} as),
          received loc = .locationReceived pubkey l) := by
  constructor
  · rintro bs cs ds rfl pubkey l l' hl hl'
    rw [List.append_assoc, List.forall_mem_append, List.forall_mem_append] at hcalls
    have htracks := tracks_run circleId hids bs hcalls.1
    have htracks' := tracks_run circleId hids (bs ++ cs)
      (List.forall_mem_append.2 ⟨hcalls.1, hcalls.2.1⟩)
    obtain ⟨last, hlast, htime⟩ := htracks.shown_seen pubkey l hl
    obtain ⟨last', hlast', htime'⟩ := htracks'.shown_seen pubkey l' hl'
    obtain ⟨last'', hlast'', hle⟩ := seenRef_run crypto circleId cs hlast
    rw [← run_append] at hlast''
    obtain rfl : last' = last'' := Option.some.inj (hlast'.symm.trans hlast'')
    omega
  · intro hkeeps pubkey
    have htracks := tracks_run circleId hids as hcalls
    refine ⟨?_, htracks.shown_accepted pubkey⟩
    rintro loc hloc rfl
    obtain ⟨last, hlast, hle⟩ := htracks.newest loc hloc
    obtain ⟨l, hl⟩ := showsSeen_run as hcalls hkeeps _ last hlast
    obtain ⟨last', hlast', htime⟩ := htracks.shown_seen _ l hl
    obtain rfl : last = last' := Option.some.inj (hlast.symm.trans hlast')
    exact ⟨l, hl, by omega⟩

/-! ### Two envelopes out of order -/

/-- An event of a sender, signed at an instant. -/
def newsEvent (id : String) (t : ℤ) : CircleLocation.VerifiedEvent :=
  { id
    pubkey := "ab"
    created_at := t
    kind := CircleLocation.circleLocationEventKind
    tags := [["circle", "c"], ["epoch", "1"], ["expires", "60"],
      ["nonce", "00000000-0000-0000-0000-000000000000"]]
    content := id
    sig := "" }

/-- The libraries, for two events. -/
def newsCrypto : Crypto where
  encrypt _ _ _ text := text
  decrypt _ _ ciphertext := some ciphertext
  stringifyEvent event := event.id
  parseEvent s :=
    if s = "old" then some (newsEvent "old" 0)
    else if s = "new" then some (newsEvent "new" 10)
    else none
  stringify _ := ""
  parse s := some (.object (CircleLocation.contentFields (.finite 1) (.finite 2) (.finite 5)
    (.finite (if s = "old" then 0 else 10)) .exact))
  verifyEvent event := decide (event = newsEvent "old" 0 ∨ event = newsEvent "new" 10)
  approximateLocation lat lng := (lat, lng, .finite 250)

theorem idsDate_newsCrypto : IdsDate newsCrypto := by
  intro event event' hverify hverify' hid
  have hcases : event = newsEvent "old" 0 ∨ event = newsEvent "new" 10 := of_decide_eq_true hverify
  have hcases' : event' = newsEvent "old" 0 ∨ event' = newsEvent "new" 10 :=
    of_decide_eq_true hverify'
  rcases hcases with rfl | rfl <;> rcases hcases' with rfl | rfl
  · rfl
  · exact absurd hid (by decide)
  · exact absurd hid (by decide)
  · rfl

/-- The circle and its member. -/
def newsLoaded : CirclesAction :=
  .circleLoaded
    { circle_id := "c", name := "", name_ciphertext := none, name_version := 1, key_epoch := 1,
      location_protocol_version := 1, rekey_required := false, membership_revision := 0,
      self_token := "", created_at := 0, is_owner := false }
    [{ circle_id := "c", member_token := none, alert_radius_km := 5, alert_severity := "MEDIUM",
       joined_at := 0, member_label_ciphertext := none, membership_state := .active,
       accepted_at := none, key_wrap_epoch := none, pubkey := some "AB", label := none }]

/-- The newer envelope is decrypted before the older one. -/
def newsRun : List Action :=
  [.dispatch newsLoaded, .render,
    .message (.snapshot [⟨"c", 1, "old"⟩, ⟨"c", 1, "new"⟩]),
    .keyLoaded 0 (some []) 10, .keyLoaded 1 (some []) 10, .decrypted 1, .decrypted 0]

/-- Both envelopes are accepted, and the newer one is shown. -/
theorem newest_location_shown_demo :
    IdsDate newsCrypto ∧ (∀ a ∈ newsRun, a.fromCalls = true) ∧
    (acceptedOf newsCrypto (events (step newsCrypto "c") {} newsRun)).map
      (fun loc => (loc.pubkey, loc.captured_at)) = [("ab", 10), ("ab", 0)] ∧
    ∃ l, (run (step newsCrypto "c") {} newsRun).shown "ab" = some l ∧ 10 ≤ l.ts := by
  have hcalls : ∀ a ∈ newsRun, a.fromCalls = true := by decide
  have htimes : (acceptedOf newsCrypto (events (step newsCrypto "c") {} newsRun)).map
      (fun loc => (loc.pubkey, loc.captured_at)) = [("ab", 10), ("ab", 0)] := by decide
  have hkeeps : ∀ e ∈ events (step newsCrypto "c") {} newsRun,
      ∀ action ∈ dispatched newsCrypto e.pre e.act, keepsLocations action = true := by
    decide
  refine ⟨idsDate_newsCrypto, hcalls, htimes, ?_⟩
  have hin : ("ab", (10 : ℤ)) ∈ (acceptedOf newsCrypto
      (events (step newsCrypto "c") {} newsRun)).map fun loc => (loc.pubkey, loc.captured_at) := by
    rw [htimes]
    exact List.mem_cons_self ..
  obtain ⟨loc, hloc, hpair⟩ := List.mem_map.1 hin
  obtain ⟨hpubkey, hcaptured⟩ := Prod.mk.inj hpair
  have hkey : toAsciiLowercase loc.pubkey = "ab" := by
    rw [hpubkey]
    decide
  rw [← hcaptured]
  exact ((newest_location_shown idsDate_newsCrypto "c" newsRun hcalls).2 hkeeps "ab").1 loc hloc hkey

end CircleClient
end Pwa
end SentinelMesh
