/-
# Is a published location shown?

The server takes an envelope from the owner of a circle and from its active members
(`push_envelope`).  A client reads an envelope when the roster has its signer, and the
roster is made of the labels of the members' rows.

An envelope the server took is followed here through a client that has loaded the circle:
its call keeps the roster it took whatever happens in between (`call_run`), and the roster
has the keys the labels name (`mem_roster`).  So `published_shown_iff`: the location is
shown exactly when an active row has a label with the sender's key.  The owner has no row.
-/

import SentinelMesh.Circles.Removal
import SentinelMesh.Circles.Safeguards
import SentinelMesh.Pwa.CircleClient
import SentinelMesh.Pwa.Identity
import Mathlib.Data.Rat.Encodable
import Mathlib.Logic.Equiv.List

namespace SentinelMesh
namespace Pwa
namespace CircleClient

open Lib CircleStore CircleLocation
open Circles (Token Env Db Member CircleDetail Envelope PushEnvelopeBody Request getCircle
  getCircle_eq_ok mem_membersOf pushEnvelope pushEnvelope_eq_ok)

/-! ### The client that has loaded a circle -/

/-- The store has the members of a detail, and the roster is theirs. -/
structure Loaded (circleId : Uuid) (labels : Labels) (key : Option Bytes) (detail : CircleDetail)
    (s : Client) : Prop where
  connected : s.closed = false
  members : s.store.membersOf circleId = (toCircleAndMembers labels key detail).2
  roster : s.rosterRef.pubkeys = (s.store.membersOf circleId).filterMap CircleMember.signer
  epoch : s.rosterRef.epoch = detail.key_epoch

/-- A load makes it so. -/
theorem loaded_load {s : Client} (hs : s.closed = false) (labels : Labels) (key : Option Bytes)
    (detail : CircleDetail) :
    Loaded detail.id labels key detail (s.load detail.id labels key detail) where
  connected := hs
  members := by
    have hfind : ∀ t : Table Uuid (List CircleMember), ∀ members,
        (t.put detail.id members).find? detail.id = some members := fun t members => by
      rw [Table.find?_put, if_pos rfl]
    unfold CirclesState.membersOf
    exact congrArg (Option.getD · []) (hfind _ _)
  roster := rfl
  epoch := by
    have hfind : ∀ t : Table Uuid CircleEpoch, ∀ e, (t.put detail.id e).find? detail.id = some e :=
      fun t e => by rw [Table.find?_put, if_pos rfl]
    unfold Client.load CirclesState.roster CirclesState.circleEpochChanged
    dsimp only [toCircleAndMembers]
    rw [hfind]

/-- An active member of the circle has a label that names a key. -/
def Named (labels : Labels) (key : Bytes) (db : Db) (circleId : Uuid) (pubkey : Pubkey) : Prop :=
  ∃ token m label named, db.members.find? (circleId, token) = some m ∧
    m.membership_state = .active ∧
    openLabel labels (some key) m.member_label_ciphertext = some label ∧
    label.pubkey = some named ∧ named ≠ "" ∧ toAsciiLowercase named = toAsciiLowercase pubkey

/-- **The roster has the keys the labels name.** -/
theorem mem_roster {env : Env} {db : Db} {circleId : Uuid} {viewer : Pubkey} {detail : CircleDetail}
    (hget : getCircle env db circleId viewer = .ok detail) {labels : Labels} {key : Bytes}
    {s : Client} (hload : Loaded circleId labels (some key) detail s) {pubkey : Pubkey} :
    toAsciiLowercase pubkey ∈ s.rosterRef.pubkeys ↔ Named labels key db circleId pubkey := by
  obtain ⟨circle, _, hid, _, _, _, hmembers⟩ := getCircle_eq_ok hget
  rw [hload.roster, hload.members, List.mem_filterMap]
  unfold toCircleAndMembers
  dsimp only
  rw [hmembers]
  constructor
  · rintro ⟨row, hrow, hsigner⟩
    obtain ⟨_, hdetail, rfl⟩ := List.mem_map.1 hrow
    obtain ⟨⟨token, m⟩, hm, rfl⟩ := List.mem_map.1 hdetail
    simp only [CircleMember.signer, toMember, Member.detail, Option.bind_eq_bind,
      Option.bind_eq_some_iff, Option.guard_eq_some', Option.pure_def, Option.some.injEq] at hsigner
    obtain ⟨named, ⟨label, hlabel, hnamed⟩, _, ⟨hne, hstate⟩, hlower⟩ := hsigner
    have hactive : m.membership_state = .active := by
      cases hm : m.membership_state with
      | pending => exact absurd hm hstate
      | active => rfl
    exact ⟨token, m, label, named, mem_membersOf.1 hm, hactive, hlabel, hnamed, hne, hlower⟩
  · rintro ⟨token, m, label, named, hm, hactive, hlabel, hnamed, hne, hlower⟩
    refine ⟨_, List.mem_map_of_mem (List.mem_map_of_mem (mem_membersOf.2 hm)), ?_⟩
    simp only [CircleMember.signer, toMember, Member.detail, Option.bind_eq_bind,
      Option.bind_eq_some_iff, Option.guard_eq_some', Option.pure_def, Option.some.injEq]
    exact ⟨named, ⟨label, hlabel, hnamed⟩, (), ⟨hne, by rw [hactive]; decide⟩, hlower⟩

/-- The labels of the active members tell whose rows they are on. -/
def Truthful (env : Env) (labels : Labels) (key : Bytes) (db : Db) (circleId : Uuid) : Prop :=
  ∀ token m, db.members.find? (circleId, token) = some m → m.membership_state = .active →
    ∃ label named, openLabel labels (some key) m.member_label_ciphertext = some label ∧
      label.pubkey = some named ∧ named ≠ "" ∧
      token = env.circleToken circleId (toAsciiLowercase named)

/-- **Truthful labels name the active members**, and nobody else: not the owner, who has no
row. -/
theorem named_iff_isActive {env : Env} {labels : Labels} {key : Bytes} {db : Db} {circleId : Uuid}
    (hinj : Function.Injective (env.circleToken circleId))
    (htrue : Truthful env labels key db circleId) {pubkey : Pubkey} :
    Named labels key db circleId pubkey ↔
      db.isActive circleId (env.circleToken circleId (toAsciiLowercase pubkey)) = true := by
  rw [Circles.isActive_iff]
  constructor
  · rintro ⟨token, m, label, named, hm, hactive, hlabel, hnamed, _, hlower⟩
    obtain ⟨label', named', hlabel', hnamed', _, htoken⟩ := htrue token m hm hactive
    rw [hlabel] at hlabel'
    obtain rfl := Option.some.inj hlabel'
    rw [hnamed] at hnamed'
    obtain rfl := Option.some.inj hnamed'
    rw [← hlower, ← htoken]
    exact ⟨m, hm, hactive⟩
  · rintro ⟨m, hm, hactive⟩
    obtain ⟨label, named, hlabel, hnamed, hne, htoken⟩ := htrue _ m hm hactive
    exact ⟨_, m, label, named, hm, hactive, hlabel, hnamed, hne, (hinj htoken).symm⟩

/-! ### The call of an envelope -/

/-- The action goes on with a call. -/
def Action.resumes (i : ℕ) : Action → Bool
  | .keyLoaded j _ _ => decide (j = i)
  | .threw j => decide (j = i)
  | .decrypted j => decide (j = i)
  | _ => false

theorem setStage_call {s : Client} {i j : ℕ} (hne : j ≠ i) (stage : Stage) :
    (s.setStage j stage).calls[i]? = s.calls[i]? := by
  rw [setStage_calls]
  exact List.getElem?_modify_ne _ _ hne

variable {crypto : Crypto} {circleId : Uuid}

/-- **A step leaves the calls it does not go on with.** -/
theorem call_step {s : Client} {a : Action} {i : ℕ} (ha : a.resumes i = false) {c : Call}
    (hc : s.calls[i]? = some c) : (step crypto circleId s a).calls[i]? = some c := by
  have happend : ∀ calls, (s.calls ++ calls)[i]? = some c := fun calls => by
    rw [List.getElem?_append_left (List.getElem?_eq_some_iff.1 hc).1]
    exact hc
  cases a with
  | message msg =>
    unfold step
    dsimp only
    split
    · exact hc
    · cases msg with
      | snapshot payload =>
        obtain ⟨calls, hcalls⟩ := handleEnvelopes_eq s payload
        simp only [Client.onmessage, hcalls]
        exact happend calls
      | envelope payload =>
        obtain ⟨calls, hcalls⟩ := handleEnvelope_eq s payload
        simp only [Client.onmessage, hcalls]
        exact happend calls
      | epochChanged => exact hc
      | memberRemoved circle_id token =>
        unfold Client.onmessage
        dsimp only
        split
        · exact hc
        · exact hc
  | render => exact hc
  | keyLoaded j key now =>
    have hne : j ≠ i := of_decide_eq_false ha
    unfold step Client.keyLoaded
    dsimp only
    split
    · exact hc
    · cases key with
      | none => exact (setStage_call hne _).trans hc
      | some key => exact (setStage_call hne _).trans hc
  | threw j => exact (setStage_call (of_decide_eq_false ha) _).trans hc
  | decrypted j =>
    have hne : j ≠ i := of_decide_eq_false ha
    unfold step Client.decrypted
    dsimp only
    split
    · split
      · exact (setStage_call hne _).trans hc
      · exact hc
    · exact (setStage_call hne _).trans hc
  | dispatch action => exact hc

/-- **So does a run.** -/
theorem call_run {s : Client} {as : List Action} {i : ℕ} (has : ∀ a ∈ as, a.resumes i = false)
    {c : Call} (hc : s.calls[i]? = some c) :
    (run (step crypto circleId) s as).calls[i]? = some c := by
  induction as generalizing s with
  | nil => exact hc
  | cons a as ih =>
    exact ih (fun b hb => has b (List.mem_cons_of_mem a hb))
      (call_step (has a List.mem_cons_self) hc)

/-- **What becomes of an envelope of the client's epoch**: with its key it is decrypted under
the roster of the moment it came, whatever happens meanwhile. -/
theorem call_of_message {s : Client} (hopen : s.closed = false) {env : CircleLocationEnvelopeV1}
    (hepoch : env.key_epoch = s.rosterRef.epoch) {as₁ as₂ : List Action}
    (has₁ : ∀ a ∈ as₁, a.resumes s.calls.length = false)
    (has₂ : ∀ a ∈ as₂, a.resumes s.calls.length = false) (key : Bytes) (now : ℤ) :
    (run (step crypto circleId) s (.message (.envelope env) ::
        (as₁ ++ .keyLoaded s.calls.length (some key) now :: as₂))).calls[s.calls.length]? =
      some { env, pubkeys := s.rosterRef.pubkeys, stage := .decrypting key now } := by
  set i := s.calls.length with hi
  have hmessage : (step crypto circleId s (.message (.envelope env))).calls[i]? =
      some { env, pubkeys := s.rosterRef.pubkeys, stage := .loadingKey } := by
    unfold step Client.onmessage Client.handleEnvelope
    dsimp only
    rw [hopen, if_neg (by simp), if_neg (not_not.2 hepoch), hi, List.getElem?_concat_length]
  have hloading : (run (step crypto circleId)
      (step crypto circleId s (.message (.envelope env))) as₁).calls[i]? =
        some { env, pubkeys := s.rosterRef.pubkeys, stage := .loadingKey } := call_run has₁ hmessage
  rw [run_cons, run_append, run_cons]
  refine call_run has₂ ?_
  set s' := run (step crypto circleId) (step crypto circleId s (.message (.envelope env))) as₁
  have hstage : s'.stage i = some .loadingKey := by
    unfold Client.stage
    rw [hloading]
    rfl
  unfold step Client.keyLoaded
  dsimp only
  rw [if_neg (not_not.2 hstage), setStage_calls, List.getElem?_modify_eq, hloading]
  rfl

/-! ### From the sender to the client -/

/-- The envelope of a push, as it is broadcast. -/
def wire (e : Envelope) : CircleLocationEnvelopeV1 :=
  { circle_id := e.circle_id, key_epoch := e.key_epoch, ciphertext := e.ciphertext }

section Shown

variable (hc : crypto.Lawful) {sign : EventTemplate → Option VerifiedEvent}
  {env : Env} {db db' : Db} {pushedAt : Timestamp} {redis : Option Bool} {len : ℕ}
  {req : Request PushEnvelopeBody} (hs : Signs crypto sign req.auth.pubkey) {e : Envelope}
  (hpush : pushEnvelope env true pushedAt redis db circleId len req = .ok e)
  {nonce : String} (hnonce : isNonce nonce = true) {iv : ℕ} {circleKey : Bytes}
  {location : Position} {precision : LocationPrecision} {expiresAt : ℕ}
  (hencrypt : encryptCircleLocationV1 crypto sign nonce iv circleKey circleId e.key_epoch location
    precision expiresAt = some e.ciphertext)
include hc hs hpush hnonce hencrypt

/-- What a client makes of a published envelope: the location it was made of, if the roster
has the sender and the location was not seen. -/
theorem fresh_of_published (hcircles : db'.circles = db.circles) {viewer : Pubkey} {detail : CircleDetail}
    (hget : getCircle env db' circleId viewer = .ok detail) {labels : Labels} {s : Client}
    (hload : Loaded circleId labels (some circleKey) detail s) :
    ∃ loc : VerifiedCircleLocationV1, loc.pubkey = req.auth.pubkey ∧
      loc.captured_at = location.captured_at ∧
      ∀ (as₁ as₂ : List Action) (now : ℤ) (s' : Client),
        (∀ a ∈ as₁, a.resumes s.calls.length = false) →
        (∀ a ∈ as₂, a.resumes s.calls.length = false) →
        location.captured_at ≤ now → now < expiresAt →
        s' = run (step crypto circleId) s (.message (.envelope (wire e)) ::
          (as₁ ++ .keyLoaded s.calls.length (some circleKey) now :: as₂)) →
        s'.fresh crypto s.calls.length =
          if toAsciiLowercase req.auth.pubkey ∈ s.rosterRef.pubkeys ∧ s'.seen loc = false then
            some loc
          else none := by
  obtain ⟨loc, hpubkey, _, hcaptured, _, hdecrypt⟩ := decrypt_encrypt hc hs hnonce hencrypt
  obtain ⟨circle, hpublishes⟩ := pushEnvelope_eq_ok hpush
  obtain ⟨circle', hfound, _, hepoch, _⟩ := getCircle_eq_ok hget
  refine ⟨loc, hpubkey, hcaptured, ?_⟩
  intro as₁ as₂ now s' has₁ has₂ hle hlt hrun
  have hcurrent : (wire e).key_epoch = s.rosterRef.epoch := by
    rw [hcircles, hpublishes.found] at hfound
    rw [hload.epoch, hepoch, ← Option.some.inj hfound]
    exact hpublishes.epoch
  have hcall : s'.calls[s.calls.length]? = some
      { env := wire e, pubkeys := s.rosterRef.pubkeys, stage := .decrypting circleKey now } := by
    rw [hrun]
    exact call_of_message hload.connected hcurrent has₁ has₂ circleKey now
  unfold Client.fresh
  rw [hcall]
  unfold Call.decrypted wire
  dsimp only [Option.bind_eq_bind, Option.bind_some]
  have hskew : location.captured_at - locationFutureSkewSeconds ≤ now := by omega
  rw [hpublishes.target, hdecrypt s.rosterRef.pubkeys now]
  simp only [hskew, hlt, and_true]
  by_cases hmem : toAsciiLowercase req.auth.pubkey ∈ s.rosterRef.pubkeys
  · cases hseen : s'.seen loc with
    | false => simp [hmem, hseen]
    | true => simp [hseen]
  · simp [hmem]

/-- **When a published location is shown.**  The server accepts an envelope that its sender
made under the key of the epoch; a client that has loaded the circle with that key, from the
same rows, receives it and handles it before it expires, among whatever else happens, and
with no newer location of the sender shown.  The location is shown exactly if an active
member's label names the sender and it was not the last one shown already. -/
theorem published_shown_iff (hcircles : db'.circles = db.circles) (hmembers : db'.members = db.members)
    {viewer : Pubkey} {detail : CircleDetail} (hget : getCircle env db' circleId viewer = .ok detail)
    {labels : Labels} {s : Client} (hload : Loaded circleId labels (some circleKey) detail s) :
    ∃ loc : VerifiedCircleLocationV1, loc.pubkey = req.auth.pubkey ∧
      loc.captured_at = location.captured_at ∧
      ∀ (as₁ as₂ : List Action) (now : ℤ) (s' : Client),
        (∀ a ∈ as₁, a.resumes s.calls.length = false) →
        (∀ a ∈ as₂, a.resumes s.calls.length = false) →
        location.captured_at ≤ now → now < expiresAt →
        s' = run (step crypto circleId) s (.message (.envelope (wire e)) ::
          (as₁ ++ .keyLoaded s.calls.length (some circleKey) now :: as₂)) →
        (∀ last, s'.seenRef.find? (toAsciiLowercase req.auth.pubkey) = some last →
          last.captured_at ≤ location.captured_at) →
        (dispatched crypto s' (.decrypted s.calls.length) = some (received loc) ↔
          Named labels circleKey db circleId req.auth.pubkey ∧
            ∀ last, s'.seenRef.find? (toAsciiLowercase req.auth.pubkey) = some last →
              last.event_id ≠ loc.event_id) := by
  obtain ⟨loc, hpubkey, hcaptured, hfresh⟩ :=
    fresh_of_published hc hs hpush hnonce hencrypt hcircles hget hload
  refine ⟨loc, hpubkey, hcaptured, ?_⟩
  intro as₁ as₂ now s' has₁ has₂ hle hlt hrun hnewest
  have hseen : s'.seen loc = false ↔
      ∀ last, s'.seenRef.find? (toAsciiLowercase req.auth.pubkey) = some last →
        last.event_id ≠ loc.event_id := by
    unfold Client.seen
    rw [hpubkey]
    cases hlast : s'.seenRef.find? (toAsciiLowercase req.auth.pubkey) with
    | none => simp
    | some last =>
      have hnotNewer := hnewest last hlast
      rw [← hcaptured] at hnotNewer
      simp [hnotNewer]
  have hnamed : toAsciiLowercase req.auth.pubkey ∈ s.rosterRef.pubkeys ↔
      Named labels circleKey db circleId req.auth.pubkey := by
    rw [mem_roster hget hload]
    unfold Named
    rw [hmembers]
  rw [← hnamed, ← hseen]
  unfold dispatched
  dsimp only
  rw [hfresh as₁ as₂ now s' has₁ has₂ hle hlt hrun]
  split
  · rename_i hshown
    exact ⟨fun _ => hshown, fun _ => rfl⟩
  · rename_i hdropped
    exact ⟨fun h => absurd h (by simp), fun h => absurd h hdropped⟩

end Shown

/-! ### A circle of two

The libraries are stand-ins: an event, and a content, is written as a numeral in base one, and
the one text that is sent is encrypted as `AQ==`, any other by a letter before it. -/

instance encodableEvent : Encodable VerifiedEvent :=
  Encodable.ofLeftInverse (fun e => (e.id, e.pubkey, e.created_at, e.kind, e.tags, e.content, e.sig))
    (fun (id, pubkey, created_at, kind, tags, content, sig) =>
      { id, pubkey, created_at, kind, tags, content, sig }) fun _ => rfl

/-- The fields of a content, as values of a type that is counted. -/
def valueCode : Value → Option (Option ℚ ⊕ String)
  | .number (.finite x) => some (.inl (some x))
  | .number .nonFinite => some (.inl none)
  | .string s => some (.inr s)
  | .other => none

/-- The other way. -/
def valueOf : Option (Option ℚ ⊕ String) → Value
  | some (.inl (some x)) => .number (.finite x)
  | some (.inl none) => .number .nonFinite
  | some (.inr s) => .string s
  | none => .other

instance encodableValue : Encodable Value :=
  Encodable.ofLeftInverse valueCode valueOf fun v => by
    rcases v with (_ | _) | _ | _ <;> rfl

instance encodableJson : Encodable Json :=
  Encodable.ofLeftInverse
    (fun j => match j with
      | .object fields => some fields
      | .other => none)
    (fun o => match o with
      | some fields => .object fields
      | none => .other)
    fun j => by cases j <;> rfl

/-- A numeral in base one. -/
def numeral {α : Type} [Encodable α] (x : α) : String :=
  String.ofList (List.replicate (Encodable.encode x) '1')

/-- What a numeral is of. -/
def ofNumeral {α : Type} [Encodable α] (s : String) : Option α := Encodable.decode s.toList.length

theorem ofNumeral_numeral {α : Type} [Encodable α] (x : α) : ofNumeral (numeral x) = some x := by
  unfold ofNumeral numeral
  simp

attribute [irreducible] numeral

/-- The place that is sent. -/
def demoPosition : Position :=
  { lat := .finite 1, lng := .finite 2, accuracy_m := .finite 5, captured_at := 0 }

/-- What is sent of it. -/
def demoContent : List (String × Value) :=
  contentFields demoPosition.lat demoPosition.lng demoPosition.accuracy_m
    (.finite demoPosition.captured_at) .exact

/-- The event a person signs for it. -/
def demoLocationEvent (pk : Pubkey) : VerifiedEvent :=
  { id := digits 64 '0'
    pubkey := pk
    created_at := 0
    kind := circleLocationEventKind
    tags := [["circle", "c"], ["epoch", toString (2 : ℤ)], ["expires", toString 60],
      ["nonce", "00000000-0000-0000-0000-000000000000"]]
    content := numeral (Json.object demoContent)
    sig := digits 128 '0' }

/-- The libraries, where a person's event is the text that is sent. -/
def demoCrypto (pk : Pubkey) : Crypto where
  encrypt _ _ _ text := if text = numeral (demoLocationEvent pk) then "AQ==" else "x" ++ text
  decrypt _ _ ciphertext :=
    if ciphertext = "AQ==" then some (numeral (demoLocationEvent pk))
    else some (ciphertext.drop 1).toString
  stringifyEvent := numeral
  parseEvent := ofNumeral
  stringify := numeral
  parse := ofNumeral
  verifyEvent e := decide (e.sig = digits 128 '0')
  approximateLocation lat lng := (lat, lng, .finite 250)

theorem demoCrypto_lawful (pk : Pubkey) : (demoCrypto pk).Lawful where
  decrypt_encrypt iv key aad text := by
    unfold demoCrypto
    dsimp only
    by_cases htext : text = numeral (demoLocationEvent pk)
    · rw [if_pos htext, if_pos rfl, htext]
    · have hne : "x" ++ text ≠ "AQ==" := fun h => by
        have h := congrArg String.toList h
        simp at h
      rw [if_neg htext, if_neg hne]
      refine congrArg some (String.toList_inj.1 ?_)
      simp
  parseEvent_stringify := ofNumeral_numeral
  parse_stringify fields _ _ := ofNumeral_numeral _

/-- Signing, with a person's key. -/
def demoSign (pk : Pubkey) (template : EventTemplate) : Option VerifiedEvent :=
  some
    { id := digits 64 '0'
      pubkey := pk
      created_at := template.created_at
      kind := template.kind
      tags := template.tags
      content := template.content
      sig := digits 128 '0' }

theorem demoSign_signs (pk : Pubkey) : Signs (demoCrypto pk) (demoSign pk) pk := by
  intro template event h
  obtain rfl := Option.some.inj h
  exact ⟨by simp [demoCrypto], rfl, rfl, rfl, rfl, rfl⟩

theorem encrypt_demo (pk : Pubkey) :
    encryptCircleLocationV1 (demoCrypto pk) (demoSign pk) "00000000-0000-0000-0000-000000000000" 0 []
      "c" 2 demoPosition .exact 60 = some "AQ==" := by
  have hvalid : (validCoordinateContent (.object demoContent)).isSome = true := by decide
  obtain ⟨content, hcontent⟩ := Option.isSome_iff_exists.1 hvalid
  unfold encryptCircleLocationV1
  simp only [Option.bind_eq_bind, Option.bind_eq_some_iff, Option.guard_eq_some', Option.pure_def,
    Option.some.injEq]
  refine ⟨(), by decide, content, hcontent, (), by decide, demoLocationEvent pk, rfl, ?_⟩
  exact if_pos rfl

/-- The request that publishes. -/
def demoPublish (pk : Pubkey) : Request PushEnvelopeBody :=
  Circles.demoRequest pk
    { version := 1, key_epoch := 2, ciphertext := "AQ==", expires_at := 60000000 }

/-- The envelope it is taken as. -/
def demoSent (pk : Pubkey) : Envelope :=
  { circle_id := "c"
    sender_token := Circles.demoToken pk
    key_epoch := 2
    ciphertext := "AQ=="
    ciphertext_hash := "4bf5122f344554c53bde2ebb8cd2b7e3d1600ad631c385a5d7cce23c7785459a"
    created_at := 0
    expires_at := 60000000 }

/-- The labels of the circle: each names the member. -/
def demoLabels : Labels where
  decryptString _ ciphertext := some ciphertext
  parse _ := some { pubkey := some Circles.demoMember, name := some "Ann" }

theorem push_owner : pushEnvelope Circles.demoEnv true 0 (some true) Circles.demoActiveDb "c" 128
    (demoPublish Circles.demoOwner) = .ok (demoSent Circles.demoOwner) := by
  decide

theorem push_member : pushEnvelope Circles.demoEnv true 0 (some true) Circles.demoActiveDb "c" 128
    (demoPublish Circles.demoMember) = .ok (demoSent Circles.demoMember) := by
  decide

/-- The member's row. -/
def demoRow : Member := (Circles.newMember 0 (Circles.demoInvitationAt 2)).accept 0

/-- What a participant reads of the circle. -/
def demoDetail (pk : Pubkey) (is_owner : Bool) : CircleDetail :=
  { id := "c"
    name_ciphertext := some "n"
    name_version := 1
    key_epoch := 2
    location_protocol_version := 1
    rekey_required := false
    membership_revision := 2
    created_at := 0
    is_owner
    self_token := Circles.demoToken pk
    members := [demoRow.detail "c" is_owner (Circles.demoToken Circles.demoMember)]
    my_key_wrap := if is_owner then none else some demoRow.keyWrap }

theorem get_owner : getCircle Circles.demoEnv Circles.demoActiveDb "c" Circles.demoOwner =
    .ok (demoDetail Circles.demoOwner true) := by
  decide

theorem get_member : getCircle Circles.demoEnv Circles.demoActiveDb "c" Circles.demoMember =
    .ok (demoDetail Circles.demoMember false) := by
  decide

/-- A client that has loaded it. -/
def demoViewer (pk : Pubkey) (is_owner : Bool) : Client :=
  ({} : Client).load "c" demoLabels (some []) (demoDetail pk is_owner)

theorem loaded_demoViewer (pk : Pubkey) (is_owner : Bool) :
    Loaded "c" demoLabels (some []) (demoDetail pk is_owner) (demoViewer pk is_owner) :=
  loaded_load rfl demoLabels (some []) (demoDetail pk is_owner)

/-- The client with the envelope, and with its key loaded. -/
def demoHandled (viewer sender : Pubkey) (is_owner : Bool) : Client :=
  run (step (demoCrypto sender) "c") (demoViewer viewer is_owner)
    [.message (.envelope (wire (demoSent sender))), .keyLoaded 0 (some []) 0]

/-- The member's label is the member's. -/
theorem named_demoMember :
    Named demoLabels [] Circles.demoActiveDb "c" Circles.demoMember := by
  have hrow : Circles.demoActiveDb.members.find? ("c", Circles.demoToken Circles.demoMember) =
      some demoRow := by decide
  exact ⟨_, demoRow, _, Circles.demoMember, hrow, rfl, rfl, rfl, by decide, rfl⟩

theorem published_shown_member : ∃ loc : VerifiedCircleLocationV1,
    loc.pubkey = Circles.demoMember ∧
      dispatched (demoCrypto Circles.demoMember)
        (demoHandled Circles.demoOwner Circles.demoMember true) (.decrypted 0) =
          some (received loc) := by
  obtain ⟨loc, hpubkey, _, hshown⟩ := published_shown_iff (demoCrypto_lawful Circles.demoMember)
    (demoSign_signs _) push_member (by decide) (encrypt_demo _) rfl rfl get_owner
    (loaded_demoViewer Circles.demoOwner true)
  have hunseen : (demoHandled Circles.demoOwner Circles.demoMember true).seenRef = Table.empty := by
    decide
  have hnone : ∀ last, (demoHandled Circles.demoOwner Circles.demoMember true).seenRef.find?
      (toAsciiLowercase Circles.demoMember) ≠ some last := by
    rw [hunseen]
    simp
  exact ⟨loc, hpubkey, (hshown [] [] 0 _ (by simp) (by simp) (by decide) (by decide) rfl
    fun last hlast => absurd hlast (hnone last)).2
      ⟨named_demoMember, fun last hlast => absurd hlast (hnone last)⟩⟩

/-- **An owner who publishes is not shown.**  The server takes the owner's envelope, and the
member's client, which has loaded the circle and has its key, drops it. -/
theorem owner_not_shown :
    pushEnvelope Circles.demoEnv true 0 (some true) Circles.demoActiveDb "c" 128
        (demoPublish Circles.demoOwner) = .ok (demoSent Circles.demoOwner) ∧
      encryptCircleLocationV1 (demoCrypto Circles.demoOwner) (demoSign Circles.demoOwner)
        "00000000-0000-0000-0000-000000000000" 0 [] "c" 2 demoPosition .exact 60 =
          some (demoSent Circles.demoOwner).ciphertext ∧
      getCircle Circles.demoEnv Circles.demoActiveDb "c" Circles.demoMember =
        .ok (demoDetail Circles.demoMember false) ∧
      Loaded "c" demoLabels (some []) (demoDetail Circles.demoMember false)
        (demoViewer Circles.demoMember false) ∧
      dispatched (demoCrypto Circles.demoOwner)
        (demoHandled Circles.demoMember Circles.demoOwner false) (.decrypted 0) = none := by
  have hload := loaded_demoViewer Circles.demoMember false
  refine ⟨push_owner, encrypt_demo _, get_member, hload, ?_⟩
  have hnamed : ¬ Named demoLabels [] Circles.demoActiveDb "c" Circles.demoOwner := by
    rintro ⟨_, m, label, named, _, _, hlabel, hname, _, hlower⟩
    have hparse : demoLabels.parse (m.member_label_ciphertext.getD "") = some label := by
      simp only [openLabel, Option.bind_eq_bind, Option.bind_eq_some_iff] at hlabel
      obtain ⟨_, _, _, _, _, _, _, _, _, _, hparse⟩ := hlabel
      exact hparse
    obtain rfl := Option.some.inj hparse
    obtain rfl := Option.some.inj hname
    rw [Circles.toAsciiLowercase_demoMember, Circles.demoOwner,
      toAsciiLowercase_digits (by decide) 64] at hlower
    exact Circles.demoMember_ne_demoOwner hlower
  obtain ⟨loc, _, _, hfresh⟩ := fresh_of_published (demoCrypto_lawful Circles.demoOwner)
    (demoSign_signs _) push_owner (by decide) (encrypt_demo _) rfl get_member hload
  have hnone := hfresh [] [] 0 _ (by simp) (by simp) (by decide) (by decide) rfl
  rw [if_neg fun h => hnamed ((mem_roster get_member hload).1 h.1)] at hnone
  unfold dispatched
  dsimp only
  exact congrArg (Option.map received) hnone

end CircleClient
end Pwa
end SentinelMesh
