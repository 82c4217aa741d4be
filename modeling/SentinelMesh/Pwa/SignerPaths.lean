/-
# The two ways to sign

`signWithActiveIdentity` and `getNostrSigner` of `services/signerService.ts`, side by side, by
what a call returns.  Both ask the extension or the remote signer in the modes that have one;
the first compares what comes back with the template and the active identity, the second hands
it on.

A call is begun in one state of the module and goes on in another, `later`, when the answer is
there: any state, so that whatever other calls did in between is covered.  An answer is an
event, any event, or the text of a rejection.

`returned_iff` is what the two have and have not in common.
-/

import SentinelMesh.Pwa.Signer

namespace SentinelMesh
namespace Pwa
namespace Signer

/-- What the extension or the remote signer answers. -/
abbrev Answer := Except String SignedEvent

/-- What a call for a signature uses besides the identity and the session: `getPublicKey` of
`nostr-tools`, the cached secret key, and whether there is a usable extension. -/
structure Host where
  getPublicKey : Bytes → Pubkey
  secretKey : Bytes
  nostr07Extension : Bool

/-- `finalizeEvent`. -/
def Host.finalizeEvent (h : Host) (template : EventTemplate) (secretKey : Bytes) : SignedEvent :=
  { template with pubkey := h.getPublicKey secretKey, verified := true }

/-- The check of `signWithActiveIdentity`: the event is not the one that was asked for. -/
def altered (pubkey : Pubkey) (template : EventTemplate) (event : SignedEvent) : Bool :=
  !event.verified || event.pubkey != pubkey || !sameTemplate template event

/-- `signWithActiveIdentity`, called in `s` and answered in `later`. -/
def signWithActiveIdentity (h : Host) (s : Sys) (template : EventTemplate) (answer : Answer)
    (later : Sys) : Except String SignedEvent :=
  let active := s.identity
  match active.mode with
  | .localKey => .ok (h.finalizeEvent template h.secretKey)
  | .nip07 =>
    if !h.nostr07Extension then .error "NIP-07 extension is unavailable"
    else match answer with
      | .error message => .error message
      | .ok event =>
        if altered active.pubkey template event then
          .error "NIP-07 extension altered the requested event"
        else .ok event
  | .bunker =>
    match s.remote with
    | none => .error "Remote signer is offline"
    | some current =>
      if active.status ≠ .ready then .error "Remote signer is offline"
      else match answer with
        | .error message => .error message
        | .ok event =>
          if later.remote ≠ some current ∨ current.generation ≠ later.generation then
            .error "Remote signer session changed"
          else if altered active.pubkey template event then
            .error "Remote signer altered the requested event"
          else .ok event

/-- `NostrSigner`, as far as it signs: the event, from the answer where there is one to wait
for. -/
structure NostrSigner where
  mode : SignerMode
  signEvent : EventTemplate → Answer → Except String SignedEvent

/-- `createLocalNostrSigner`. -/
def createLocalNostrSigner (h : Host) (secretKey : Bytes) : NostrSigner where
  mode := .localKey
  signEvent template _ := .ok (h.finalizeEvent template secretKey)

/-- `bunkerNostrSigner`. -/
def bunkerNostrSigner (s : Sys) : Except String NostrSigner :=
  if s.identity.status ≠ .ready ∨ s.remote = none then .error "Remote signer is offline"
  else .ok { mode := .bunker, signEvent := fun _ answer => answer }

/-- `nip07NostrSigner`. -/
def nip07NostrSigner : NostrSigner where
  mode := .nip07
  signEvent _ answer := answer

/-- `getNostrSigner`. -/
def getNostrSigner (h : Host) (s : Sys) : Except String NostrSigner :=
  match s.identity.mode with
  | .bunker => bunkerNostrSigner s
  | .nip07 =>
    if !h.nostr07Extension then .error "NIP-07 extension is unavailable"
    else .ok nip07NostrSigner
  | .localKey => .ok (createLocalNostrSigner h h.secretKey)

/-- A way to a signed event. -/
inductive Path
  | signWithActiveIdentity
  | getNostrSigner
  deriving DecidableEq

/-- What a caller gets by a path. -/
def Path.sign (p : Path) (h : Host) (s : Sys) (template : EventTemplate) (answer : Answer)
    (later : Sys) : Except String SignedEvent :=
  match p with
  | .signWithActiveIdentity => Signer.signWithActiveIdentity h s template answer later
  | .getNostrSigner =>
    match Signer.getNostrSigner h s with
    | .error message => .error message
    | .ok signer => signer.signEvent template answer

/-- The event is validly signed by the identity, and is the template. -/
def IsRequested (active : ActiveIdentity) (template : EventTemplate) (event : SignedEvent) :
    Prop :=
  event.verified = true ∧ event.pubkey = active.pubkey ∧ event.toEventTemplate = template

/-- There is an extension or a session to ask. -/
def Asks (h : Host) (s : Sys) : Prop :=
  match s.identity.mode with
  | .localKey => False
  | .nip07 => h.nostr07Extension = true
  | .bunker => s.identity.status = .ready ∧ s.remote ≠ none

/-- The check finds exactly the events that were not asked for. -/
theorem altered_eq_false_iff {active : ActiveIdentity} {template : EventTemplate}
    {event : SignedEvent} :
    altered active.pubkey template event = false ↔ IsRequested active template event := by
  simp [altered, IsRequested, sameTemplate, and_assoc]

/-- Signing at home is signing what was asked for, with the cached key. -/
theorem isRequested_finalizeEvent_iff {h : Host} {active : ActiveIdentity}
    {template : EventTemplate} {secretKey : Bytes} :
    IsRequested active template (h.finalizeEvent template secretKey) ↔
      h.getPublicKey secretKey = active.pubkey := by
  constructor
  · exact fun hreq => hreq.2.1
  · exact fun heq => ⟨rfl, heq, rfl⟩

/-- **The path with the check** returns what was asked for in every mode but the local one,
whatever the extension or the signer answers and whatever happens before it does. -/
theorem signWithActiveIdentity_ok {h : Host} {s later : Sys} {template : EventTemplate}
    {answer : Answer} {event : SignedEvent} (hmode : s.identity.mode ≠ .localKey)
    (hok : signWithActiveIdentity h s template answer later = .ok event) :
    IsRequested s.identity template event := by
  rw [← altered_eq_false_iff, ← Bool.not_eq_true]
  intro haltered
  unfold signWithActiveIdentity at hok
  cases hm : s.identity.mode with
  | localKey => exact hmode hm
  | nip07 =>
      simp only [hm] at hok
      cases answer with
      | error message => split_ifs at hok
      | ok event' =>
          dsimp only at hok
          split_ifs at hok with _ hnot
          cases hok
          exact hnot haltered
  | bunker =>
      simp only [hm] at hok
      cases hremote : s.remote with
      | none =>
          rw [hremote] at hok
          cases hok
      | some current =>
          simp only [hremote] at hok
          cases answer with
          | error message => split_ifs at hok
          | ok event' =>
              dsimp only at hok
              split_ifs at hok with _ _ hnot
              cases hok
              exact hnot haltered

/-- What the path without the check returns: at home what was asked for, else the answer. -/
theorem getNostrSigner_sign {h : Host} {s later : Sys} {template : EventTemplate}
    {answer : Answer} {event : SignedEvent} (hmode : s.identity.mode ≠ .localKey) :
    Path.getNostrSigner.sign h s template answer later = .ok event ↔
      Asks h s ∧ answer = .ok event := by
  unfold Path.sign getNostrSigner bunkerNostrSigner nip07NostrSigner Asks
  cases hm : s.identity.mode with
  | localKey => exact absurd hm hmode
  | nip07 =>
      cases hext : h.nostr07Extension with
      | false => simp
      | true => simp
  | bunker =>
      by_cases hoffline : s.identity.status ≠ .ready ∨ s.remote = none
      · rw [if_pos hoffline]
        refine iff_of_false (fun heq => nomatch heq) ?_
        rintro ⟨⟨hready, hsome⟩, _⟩
        exact hoffline.elim (fun hnot => hnot hready) hsome
      · rw [if_neg hoffline]
        rw [not_or, not_not] at hoffline
        exact (and_iff_right hoffline).symm

/-- **Where the two paths agree.**  What a call returns is validly signed by the active identity
and is the template if and only if: in the local mode, the cached key is that of the identity;
otherwise, where the path is `getNostrSigner` and there is a signer to ask, its answer passes
the check of the other path. -/
theorem returned_iff (p : Path) (h : Host) (s : Sys) (template : EventTemplate) (answer : Answer)
    (later : Sys) :
    (∀ event, p.sign h s template answer later = .ok event →
        IsRequested s.identity template event) ↔
      (s.identity.mode = .localKey → h.getPublicKey h.secretKey = s.identity.pubkey) ∧
      (p = .getNostrSigner → Asks h s → ∀ event, answer = .ok event →
        altered s.identity.pubkey template event = false) := by
  by_cases hmode : s.identity.mode = .localKey
  · have hsign : p.sign h s template answer later =
        .ok (h.finalizeEvent template h.secretKey) := by
      cases p with
      | signWithActiveIdentity =>
          unfold Path.sign Signer.signWithActiveIdentity
          simp only [hmode]
      | getNostrSigner =>
          unfold Path.sign Signer.getNostrSigner
          simp only [hmode]
          rfl
    have hnot : ¬ Asks h s := by
      unfold Asks
      simp [hmode]
    rw [hsign]
    constructor
    · intro hall
      exact ⟨fun _ => isRequested_finalizeEvent_iff.1 (hall _ rfl), fun _ hasks => (hnot hasks).elim⟩
    · rintro ⟨hkey, _⟩ event heq
      cases heq
      exact isRequested_finalizeEvent_iff.2 (hkey hmode)
  · simp only [altered_eq_false_iff]
    cases p with
    | signWithActiveIdentity =>
        exact iff_of_true (fun event => signWithActiveIdentity_ok hmode)
          ⟨fun heq => (hmode heq).elim, fun heq => nomatch heq⟩
    | getNostrSigner =>
        simp only [getNostrSigner_sign hmode]
        constructor
        · exact fun hall => ⟨fun heq => (hmode heq).elim, fun _ hasks event heq =>
            hall event ⟨hasks, heq⟩⟩
        · exact fun hall event hreturned => hall.2 trivial hreturned.1 event hreturned.2

/-! ### An extension that signs something else -/

/-- An extension is there. -/
def demoHost : Host :=
  { getPublicKey := fun _ => "cc", secretKey := [1], nostr07Extension := true }

/-- Its identity is active. -/
def demoState : Sys :=
  { identity := { mode := .nip07, pubkey := "aa", status := .ready }, stored := none }

/-- The seal to be signed. -/
def demoTemplate : EventTemplate := { kind := 13, createdAt := 0, tags := [], content := "" }

/-- The extension signs with another key and adds a tag: `getNostrSigner` returns its event. -/
theorem altered_returned :
    ∃ event, Path.getNostrSigner.sign demoHost demoState demoTemplate
        (.ok { demoTemplate with tags := [["p", "bb"]], pubkey := "bb", verified := true })
        demoState = .ok event ∧
      event.pubkey ≠ demoState.identity.pubkey ∧ event.tags ≠ demoTemplate.tags :=
  ⟨_, rfl, by decide, by decide⟩

end Signer
end Pwa
end SentinelMesh
