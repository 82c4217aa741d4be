/-
# Does a removed member disappear?

The message of a removal names the member by a token.  The client compares it with the
tokens of its rows, which `get_circle` sends to the owner alone, and `memberRemoved` deletes
a location under a public key, which no message names.

So the row of the member goes from the owner's client and stays on every other one
(`mem_run`), and a location that was ever shown stays on both (`location_run`).
`removed_gone_iff` is when nothing is left of the member: on the client of the owner, when
it never showed one of the member's locations.
-/

import SentinelMesh.Pwa.Published

namespace SentinelMesh
namespace Pwa
namespace CircleClient

open Lib CircleStore
open Circles (Token Env Db Member CircleDetail getCircle getCircle_eq_ok mem_membersOf)
open CircleLocation (Crypto)

/-- What happens to a client between two loads: its connection, and the locations that calls
of an earlier connection dispatch. -/
def Action.serves : Action → Bool
  | .dispatch (.locationReceived _ _) => true
  | .dispatch _ => false
  | _ => true

/-- The action dispatches a location for a key. -/
def Shows (crypto : Crypto) (s : Client) (a : Action) (pubkey : Pubkey) : Prop :=
  ∃ location, dispatched crypto s a = some (.locationReceived pubkey location)

/-- The message that a member was removed. -/
def removal (circle_id : Uuid) (token : Token) : Action := .message (.memberRemoved circle_id token)

/-- **What a client dispatches while it stays**: an epoch, a location, an error, or the
removal of a message, by its token. -/
theorem dispatched_cases {crypto : Crypto} {circleId : Uuid} {s : Client} {a : Action}
    (hserves : a.serves = true) (hstay : (step crypto circleId s a).closed = false)
    {action : CirclesAction} (h : dispatched crypto s a = some action) :
    (∃ circle_id key_epoch rekey_required,
        action = .circleEpochChanged circle_id key_epoch rekey_required) ∨
      (∃ pubkey location, action = .locationReceived pubkey location) ∨
      (∃ error, action = .circleDecryptError error) ∨
      ∃ circle_id token, a = removal circle_id token ∧
        action = .memberRemoved circle_id none (some token) := by
  cases a with
  | message msg =>
    unfold dispatched at h
    dsimp only at h
    split at h
    · cases h
    · cases msg with
      | snapshot => cases h
      | envelope => cases h
      | epochChanged circle_id key_epoch rekey_required =>
        exact .inl ⟨_, _, _, (Option.some.inj h).symm⟩
      | memberRemoved circle_id token =>
        dsimp only at h
        split at h
        · rename_i hself
          have hclosed := (closed_step crypto circleId s (removal circle_id token)).2
            (.inr ⟨_, _, rfl, hself⟩)
          rw [removal, hstay] at hclosed
          cases hclosed
        · exact .inr (.inr (.inr ⟨_, _, rfl, (Option.some.inj h).symm⟩))
  | render => cases h
  | keyLoaded i key now =>
    unfold dispatched at h
    dsimp only at h
    split at h
    · exact .inr (.inr (.inl ⟨_, (Option.some.inj h).symm⟩))
    · cases h
  | threw i => cases h
  | decrypted i =>
    obtain ⟨loc, _, hloc⟩ := Option.map_eq_some_iff.1 h
    exact .inr (.inl ⟨_, _, hloc.symm⟩)
  | dispatch other =>
    obtain rfl := Option.some.inj h
    cases other with
    | locationReceived pubkey location => exact .inr (.inl ⟨_, _, rfl⟩)
    | circleLoaded => cases hserves
    | circleEpochChanged => cases hserves
    | memberRemoved => cases hserves
    | memberAccepted => cases hserves
    | circleDecryptError => cases hserves
    | circleLeft => cases hserves

/-- A client that stays removes the member of a message. -/
theorem dispatched_removal {crypto : Crypto} {circleId circle_id : Uuid} {s : Client} {token : Token}
    (hstay : (step crypto circleId s (removal circle_id token)).closed = false) :
    dispatched crypto s (removal circle_id token) =
      some (.memberRemoved circle_id none (some token)) := by
  have hopen : ¬ s.closed = true := fun hclosed => by
    rw [(closed_step crypto circleId s (removal circle_id token)).2 (.inl hclosed)] at hstay
    cases hstay
  have hother : ¬ s.rosterRef.selfToken = some token := fun hself => by
    rw [(closed_step crypto circleId s (removal circle_id token)).2
      (.inr ⟨_, _, rfl, hself⟩)] at hstay
    cases hstay
  unfold dispatched removal
  dsimp only
  rw [if_neg hopen, if_neg hother]

/-- A removal by token leaves the rows without that token. -/
theorem mem_memberRemoved {state : CirclesState} {circle_id circleId : Uuid} {token : Token}
    {row : CircleMember} :
    row ∈ (state.memberRemoved circle_id none (some token)).membersOf circleId ↔
      row ∈ state.membersOf circleId ∧ (circle_id = circleId → row.member_token ≠ some token) := by
  have hfind : (state.memberRemoved circle_id none (some token)).members.find? circleId =
      if circleId = circle_id then
        (state.members.find? circle_id).map (List.filter (remaining none (some token)))
      else state.members.find? circleId := Table.find?_modify _ _ _ _
  have hremaining : remaining none (some token) row = true ↔ row.member_token ≠ some token := by
    unfold remaining
    rw [decide_eq_true_eq]
    constructor
    · rintro (hnone | hne) hsome
      · rw [hnone] at hsome
        cases hsome
      · exact hne hsome
    · exact .inr
  unfold CirclesState.membersOf
  rw [hfind]
  by_cases hid : circleId = circle_id
  · subst hid
    rw [if_pos rfl]
    cases hrows : state.members.find? circleId with
    | none => simp
    | some rows => simp [hremaining]
  · rw [if_neg hid]
    exact ⟨fun h => ⟨h, fun h' => absurd h'.symm hid⟩, fun h => h.1⟩

variable {crypto : Crypto} {circleId : Uuid}

/-- **What a step does to the rows of a circle.**  The rows with the token of a removal go. -/
theorem mem_step {s : Client} {a : Action} (hserves : a.serves = true)
    (hstay : (step crypto circleId s a).closed = false) {row : CircleMember} :
    row ∈ (step crypto circleId s a).store.membersOf circleId ↔
      row ∈ s.store.membersOf circleId ∧
        ∀ token, a = removal circleId token → row.member_token ≠ some token := by
  have hsame : ∀ state : CirclesState, state.membersOf circleId = s.store.membersOf circleId →
      (∀ token, dispatched crypto s a ≠ some (.memberRemoved circleId none (some token))) →
      (row ∈ state.membersOf circleId ↔ row ∈ s.store.membersOf circleId ∧
        ∀ token, a = removal circleId token → row.member_token ≠ some token) := by
    intro state hstate hne
    have hno : ∀ token, a ≠ removal circleId token := by
      rintro token rfl
      exact hne token (dispatched_removal hstay)
    rw [hstate]
    exact ⟨fun h => ⟨h, fun token heq => absurd heq (hno token)⟩, fun h => h.1⟩
  rw [store_step]
  cases hd : dispatched crypto s a with
  | none => exact hsame _ rfl (by simp [hd])
  | some action =>
    obtain ⟨_, _, _, rfl⟩ | ⟨_, _, rfl⟩ | ⟨_, rfl⟩ | ⟨circle_id, token, rfl, rfl⟩ :=
      dispatched_cases hserves hstay hd
    · exact hsame _ rfl (by simp [hd])
    · exact hsame _ rfl (by simp [hd])
    · exact hsame _ rfl (by simp [hd])
    · refine mem_memberRemoved.trans (and_congr_right fun _ => ?_)
      constructor
      · rintro h token' heq
        obtain ⟨hid, htoken⟩ := CircleWsMessage.memberRemoved.inj (Action.message.inj heq)
        rw [← htoken]
        exact h hid
      · rintro h rfl
        exact h token rfl

/-- **What a step does to the location of a key.**  None is deleted. -/
theorem location_step {s : Client} {a : Action} (hserves : a.serves = true)
    (hstay : (step crypto circleId s a).closed = false) {pubkey : Pubkey} :
    (step crypto circleId s a).store.decryptedLocations.find? pubkey = none ↔
      s.store.decryptedLocations.find? pubkey = none ∧ ¬ Shows crypto s a pubkey := by
  unfold Shows
  rw [store_step]
  cases hd : dispatched crypto s a with
  | none => simp
  | some action =>
    obtain ⟨_, _, _, rfl⟩ | ⟨shown, location, rfl⟩ | ⟨_, rfl⟩ | ⟨circle_id, token, rfl, rfl⟩ :=
      dispatched_cases hserves hstay hd
    · exact ⟨fun h => ⟨h, by simp⟩, fun h => h.1⟩
    · have hfind : (s.store.locationReceived shown location).decryptedLocations.find? pubkey =
          if pubkey = shown then some location else s.store.decryptedLocations.find? pubkey :=
        Table.find?_put _ _ _ _
      refine (Iff.of_eq (congrArg (· = none) hfind)).trans ?_
      by_cases hkey : pubkey = shown
      · subst hkey
        simp
      · rw [if_neg hkey]
        refine ⟨fun h => ⟨h, ?_⟩, fun h => h.1⟩
        rintro ⟨location', heq⟩
        exact hkey (CirclesAction.locationReceived.inj (Option.some.inj heq)).1.symm
    · exact ⟨fun h => ⟨h, by simp⟩, fun h => h.1⟩
    · exact ⟨fun h => ⟨h, by simp⟩, fun h => h.1⟩

/-- A client that stays has stayed until now. -/
theorem closed_of_run {s : Client} {as : List Action}
    (h : (run (step crypto circleId) s as).closed = false) : s.closed = false := by
  cases hclosed : s.closed with
  | false => rfl
  | true =>
    have hrun : (run (step crypto circleId) s as).closed = true :=
      run_induction (P := fun s : Client => s.closed = true) hclosed
        (fun s a hs => (closed_step crypto circleId s a).2 (.inl hs)) as
    rw [hrun] at h
    cases h

/-- **The rows after a run**: those of the start whose token no message has named. -/
theorem mem_run {s : Client} {as : List Action} (hserves : ∀ a ∈ as, a.serves = true)
    (hstay : (run (step crypto circleId) s as).closed = false) {row : CircleMember} :
    row ∈ (run (step crypto circleId) s as).store.membersOf circleId ↔
      row ∈ s.store.membersOf circleId ∧
        ∀ token, removal circleId token ∈ as → row.member_token ≠ some token := by
  induction as generalizing s with
  | nil => simp
  | cons a as ih =>
    have hstep := @mem_step crypto circleId s a (hserves a List.mem_cons_self)
      (closed_of_run hstay) row
    rw [run_cons, ih (fun b hb => hserves b (List.mem_cons_of_mem a hb)) hstay, hstep]
    simp only [List.mem_cons]
    constructor
    · rintro ⟨⟨hrow, hhead⟩, htail⟩
      refine ⟨hrow, fun token => ?_⟩
      rintro (heq | hmem)
      · exact hhead token heq.symm
      · exact htail token hmem
    · rintro ⟨hrow, hall⟩
      exact ⟨⟨hrow, fun token heq => hall token (.inl heq.symm)⟩, fun token hmem =>
        hall token (.inr hmem)⟩

/-- **The locations after a run**: those of the start and those the run has shown. -/
theorem location_run {s : Client} {as : List Action} (hserves : ∀ a ∈ as, a.serves = true)
    (hstay : (run (step crypto circleId) s as).closed = false) {pubkey : Pubkey} :
    (run (step crypto circleId) s as).store.decryptedLocations.find? pubkey = none ↔
      s.store.decryptedLocations.find? pubkey = none ∧
        ∀ e ∈ events (step crypto circleId) s as, ¬ Shows crypto e.pre e.act pubkey := by
  induction as generalizing s with
  | nil => simp
  | cons a as ih =>
    have hstep := @location_step crypto circleId s a (hserves a List.mem_cons_self)
      (closed_of_run hstay) pubkey
    rw [run_cons, ih (fun b hb => hserves b (List.mem_cons_of_mem a hb)) hstay, hstep,
      events_cons, List.forall_mem_cons, and_assoc]

/-! ### The member -/

/-- The row of a member, in the store of who has loaded the detail. -/
def rowOf (labels : Labels) (key : Option Bytes) (detail : CircleDetail) (token : Token)
    (m : Member) : CircleMember :=
  toMember labels key (m.detail detail.id detail.is_owner token)

/-- A load has a row for each row of the table. -/
theorem rowOf_mem (labels : Labels) (key : Option Bytes) {env : Env} {db : Db} {viewer : Pubkey}
    {detail : CircleDetail} (hget : getCircle env db circleId viewer = .ok detail) {token : Token}
    {m : Member} (hrow : db.members.find? (circleId, token) = some m) {s : Client}
    (hload : s.store.membersOf circleId = (toCircleAndMembers labels key detail).2) :
    rowOf labels key detail token m ∈ s.store.membersOf circleId := by
  obtain ⟨circle, _, hid, _, _, _, hmembers⟩ := getCircle_eq_ok hget
  rw [hload]
  refine List.mem_map_of_mem ?_
  rw [hmembers, hid]
  exact List.mem_map.2 ⟨(_, m), mem_membersOf.2 hrow, rfl⟩

/-- The token of a row is there for the owner. -/
theorem rowOf_token (labels : Labels) (key : Option Bytes) (detail : CircleDetail) (token : Token)
    (m : Member) : (rowOf labels key detail token m).member_token =
      if detail.is_owner then some token else none := rfl

/-- **When nothing is left of a removed member.**  A client has loaded a circle, a member is
removed from it, and the client stays.  From the message on, the member's row is gone and no
location is there for the member's key, exactly if the client is the owner's, had none when
it loaded, and has shown none since. -/
theorem removed_gone_iff (labels : Labels) (key : Option Bytes) {env : Env} {db : Db}
    {viewer pubkey : Pubkey} {detail : CircleDetail} {m : Member}
    (hget : getCircle env db circleId viewer = .ok detail)
    (hrow : db.members.find? (circleId, env.circleToken circleId pubkey) = some m) {s : Client}
    (hload : s.store.membersOf circleId = (toCircleAndMembers labels key detail).2)
    {as : List Action} (hserves : ∀ a ∈ as, a.serves = true)
    (hremoved : removal circleId (env.circleToken circleId pubkey) ∈ as)
    (hstay : (run (step crypto circleId) s as).closed = false) :
    (rowOf labels key detail (env.circleToken circleId pubkey) m ∉
          (run (step crypto circleId) s as).store.membersOf circleId ∧
        (run (step crypto circleId) s as).store.decryptedLocations.find?
          (toAsciiLowercase pubkey) = none) ↔
      detail.is_owner = true ∧
        s.store.decryptedLocations.find? (toAsciiLowercase pubkey) = none ∧
        ∀ e ∈ events (step crypto circleId) s as,
          ¬ Shows crypto e.pre e.act (toAsciiLowercase pubkey) := by
  rw [mem_run hserves hstay, location_run hserves hstay, rowOf_token]
  refine and_congr_left fun _ => ?_
  cases howner : detail.is_owner with
  | true =>
    simp only [iff_true]
    exact fun h => h.2 _ hremoved rfl
  | false =>
    simp only [Bool.false_eq_true, iff_false, not_not]
    exact ⟨rowOf_mem labels key hget hrow hload, by simp⟩

/-! ### The owner's client, and another member's -/

/-- **The owner's client forgets a member it has never seen.** -/
theorem removed_gone_owner :
    rowOf demoLabels (some []) (demoDetail Circles.demoOwner true)
        (Circles.demoToken Circles.demoMember) demoRow ∉
          (run (step (demoCrypto Circles.demoMember) "c") (demoViewer Circles.demoOwner true)
            [removal "c" (Circles.demoToken Circles.demoMember)]).store.membersOf "c" ∧
      (run (step (demoCrypto Circles.demoMember) "c") (demoViewer Circles.demoOwner true)
          [removal "c" (Circles.demoToken Circles.demoMember)]).store.decryptedLocations.find?
        (toAsciiLowercase Circles.demoMember) = none := by
  have hrow : Circles.demoActiveDb.members.find? ("c", Circles.demoToken Circles.demoMember) =
      some demoRow := by decide
  have hstay : (step (demoCrypto Circles.demoMember) "c" (demoViewer Circles.demoOwner true)
      (removal "c" (Circles.demoToken Circles.demoMember))).closed = false := by decide
  have hrun : (run (step (demoCrypto Circles.demoMember) "c") (demoViewer Circles.demoOwner true)
      [removal "c" (Circles.demoToken Circles.demoMember)]).closed = false := hstay
  refine (removed_gone_iff demoLabels (some []) get_owner hrow
    (loaded_demoViewer Circles.demoOwner true).members (by simp [removal, Action.serves])
    List.mem_cons_self hrun).2 ⟨rfl, rfl, ?_⟩
  simp only [events_cons, events_nil, List.forall_mem_singleton]
  rintro ⟨location, hshows⟩
  have hother := (dispatched_removal hstay).symm.trans hshows
  cases hother

/-- A second member. -/
def demoThird : Pubkey := digits 64 'c'

/-- The second member's row. -/
def demoThirdRow : Member := { demoRow with member_label_ciphertext := some "m" }

/-- The tables with both. -/
def demoTrioDb : Db :=
  { Circles.demoActiveDb with
    members := Circles.demoActiveDb.members.insert ("c", Circles.demoToken demoThird) demoThirdRow }

/-- What the second member reads. -/
def demoTrioDetail : CircleDetail :=
  { demoDetail demoThird false with
    members := [demoRow.detail "c" false (Circles.demoToken Circles.demoMember),
      demoThirdRow.detail "c" false (Circles.demoToken demoThird)] }

/-- The labels of the two. -/
def demoTrioLabels : Labels where
  decryptString _ ciphertext := some ciphertext
  parse text :=
    some { pubkey := some (if text = "m" then demoThird else Circles.demoMember), name := none }

theorem get_third : getCircle Circles.demoEnv demoTrioDb "c" demoThird = .ok demoTrioDetail := by
  decide

/-- The owner's client: an envelope of the member came and its key is loaded when the message
of the member's removal arrives. -/
def demoInFlight : List Action :=
  [.message (.envelope (wire (demoSent Circles.demoMember))), .keyLoaded 0 (some []) 0,
    removal "c" (Circles.demoToken Circles.demoMember)]

/-- **A removed member stays.**  On the client of the second member the row of the first
outlives the message of its removal.  On the owner's client a location shows up after it, of
an envelope that came before. -/
theorem removed_member_stays :
    (∃ s : Client, Loaded "c" demoTrioLabels (some []) demoTrioDetail s ∧
        (run (step (demoCrypto Circles.demoMember) "c") s
          [removal "c" (Circles.demoToken Circles.demoMember)]).closed = false ∧
        rowOf demoTrioLabels (some []) demoTrioDetail (Circles.demoToken Circles.demoMember)
          demoRow ∈ (run (step (demoCrypto Circles.demoMember) "c") s
            [removal "c" (Circles.demoToken Circles.demoMember)]).store.membersOf "c") ∧
      (run (step (demoCrypto Circles.demoMember) "c") (demoViewer Circles.demoOwner true)
          (demoInFlight ++ [.decrypted 0])).closed = false ∧
      (run (step (demoCrypto Circles.demoMember) "c") (demoViewer Circles.demoOwner true)
          (demoInFlight ++ [.decrypted 0])).store.decryptedLocations.find?
        (toAsciiLowercase Circles.demoMember) ≠ none := by
  constructor
  · have hload := loaded_load (s := {}) rfl demoTrioLabels (some []) demoTrioDetail
    have hrow : demoTrioDb.members.find? ("c", Circles.demoToken Circles.demoMember) =
        some demoRow := by decide
    have hstay : (run (step (demoCrypto Circles.demoMember) "c")
        (({} : Client).load "c" demoTrioLabels (some []) demoTrioDetail)
        [removal "c" (Circles.demoToken Circles.demoMember)]).closed = false := by decide
    refine ⟨_, hload, hstay, (mem_run (by simp [removal, Action.serves]) hstay).2 ⟨?_, ?_⟩⟩
    · exact rowOf_mem demoTrioLabels (some []) get_third hrow hload.members
    · intro token _ htoken
      cases htoken
  · have hopen : (run (step (demoCrypto Circles.demoMember) "c")
        (demoViewer Circles.demoOwner true) demoInFlight).closed = false := by decide
    have hunseen : (run (step (demoCrypto Circles.demoMember) "c")
        (demoViewer Circles.demoOwner true) demoInFlight).seenRef = Table.empty := by decide
    have hload := loaded_demoViewer Circles.demoOwner true
    have hlength : (demoViewer Circles.demoOwner true).calls.length = 0 := rfl
    obtain ⟨loc, hpubkey, _, hfresh⟩ := fresh_of_published (demoCrypto_lawful Circles.demoMember)
      (demoSign_signs _) push_member (by decide) (encrypt_demo _) rfl get_owner hload
    rw [hlength] at hfresh
    have hshown := hfresh [] [removal "c" (Circles.demoToken Circles.demoMember)] 0 _ (by simp)
      (by simp [removal, Action.resumes]) (by decide) (by decide) rfl
    rw [List.nil_append] at hshown
    rw [run_concat]
    unfold demoInFlight at hopen hunseen ⊢
    generalize run (step (demoCrypto Circles.demoMember) "c") (demoViewer Circles.demoOwner true)
      [.message (.envelope (wire (demoSent Circles.demoMember))), .keyLoaded 0 (some []) 0,
        removal "c" (Circles.demoToken Circles.demoMember)] = s at hopen hunseen hshown ⊢
    have hseen : s.seen loc = false := by
      unfold Client.seen
      rw [hunseen]
      rfl
    rw [if_pos ⟨(mem_roster get_owner hload).2 named_demoMember, hseen⟩] at hshown
    have hstay : (step (demoCrypto Circles.demoMember) "c" s (.decrypted 0)).closed = false := by
      rw [Bool.eq_false_iff]
      intro hclosed
      obtain hclosed | ⟨_, _, heq, _⟩ := (closed_step _ _ _ _).1 hclosed
      · rw [hopen] at hclosed
        cases hclosed
      · cases heq
    obtain ⟨location, hlocation⟩ : ∃ location, received loc =
        .locationReceived (toAsciiLowercase loc.pubkey) location := ⟨_, rfl⟩
    refine ⟨hstay, fun hnone => ((location_step rfl hstay).1 hnone).2 ⟨location, ?_⟩⟩
    unfold dispatched
    dsimp only
    rw [hshown, Option.map_some, hlocation, hpubkey]
    rfl

end CircleClient
end Pwa
end SentinelMesh
