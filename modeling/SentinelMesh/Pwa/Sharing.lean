/-
# Sharing a location

`createLocationPublisher` of `services/locationPublisher.ts` and the controls of
`FamilyCircleDashboard.tsx` that drive it: a press of the button makes a publisher, which is asked to
publish at once and then by a timer, until the button, another timer, an error or the end of the page
stops it.

A publish is a chain of awaits, and nothing that stops a publisher interrupts one that is under way:
the variable is read at the beginning of a publish alone.  Whenever sharing is off, every publisher is
stopped, and of each at most the location that it was about to send still leaves the device, in any
order of the steps, also after sharing has been turned on again (`sharing_stops`).
-/

import SentinelMesh.Circles.Envelopes
import SentinelMesh.Lib.Async
import SentinelMesh.Pwa.CircleLocation

namespace SentinelMesh
namespace Pwa
namespace Sharing

open Lib Lib.Async CircleLocation

/-! ### The publisher -/

/-- `LocationPublisherOptions`, as far as the dashboard gives them. -/
structure Options where
  circleId : Uuid
  keyEpoch : ℤ
  precision : LocationPrecision

/-- A publisher, with the call that has set `inFlight`. -/
structure Publisher where
  options : Options
  stopped : Bool := false
  inFlight : Option ℕ := none

/-- What `buildLocationEnvelopeBody` puts into a text. -/
structure EnvelopeBody where
  version : ℕ
  key_epoch : ℤ
  ciphertext : String
  expires_at : ℤ

/-- A request that leaves the device: the publisher and the call it comes from, and the event that is
signed for it. -/
structure Post where
  publisher : ℕ
  call : ℕ
  url : String
  body : String
  auth : EventTemplate

/-- What the page is built with: the flag of the feature, the libraries, `signWithActiveIdentity`,
`JSON.stringify` of a body, `sha256Hex`, and `new URL` over the origin of the page. -/
structure Env where
  safeCircleLocationEnabled : Bool
  crypto : Crypto
  sign : EventTemplate → Option VerifiedEvent
  stringify : EnvelopeBody → String
  sha256Hex : String → String
  absolute : String → String

/-- What the dashboard keeps, with what was sent. -/
structure Dashboard where
  publishers : List Publisher := []
  publisherRef : Option ℕ := none
  interval : Option ℕ := none
  duration : Bool := false
  sharing : Bool := false
  mounted : Bool := true
  posts : List Post := []

/-- Some publisher changes. -/
def Dashboard.modify (d : Dashboard) (i : ℕ) (f : Publisher → Publisher) : Dashboard :=
  { d with publishers := d.publishers.modify i f }

/-- `stop`. -/
def stop (i : ℕ) (d : Dashboard) : Dashboard := d.modify i fun p => { p with stopped := true }

/-- The `finally` of `publish`. -/
def finish (i : ℕ) (d : Dashboard) : Dashboard := d.modify i fun p => { p with inFlight := none }

/-- How `publish` begins, in call `n`, and whether it goes on. -/
def begin (env : Env) (n i : ℕ) (d : Dashboard) : Dashboard × Bool :=
  match d.publishers[i]? with
  | none => (d, false)
  | some p =>
    if p.stopped then (d, false)
    else if !env.safeCircleLocationEnabled then (stop i d, false)
    else if p.inFlight.isSome then (d, false)
    else if ¬(1 ≤ p.options.keyEpoch ∧ p.options.keyEpoch ≤ maxSafeInteger) then (stop i d, false)
    else (d.modify i fun p => { p with inFlight := some n }, true)

/-! ### The controls -/

/-- `stopSharing`. -/
def stopSharing (d : Dashboard) : Dashboard :=
  { d.publisherRef.elim d fun i => stop i d with
    publisherRef := none, interval := none, duration := false, sharing := false }

/-- What is done when the page goes away. -/
def unmount (d : Dashboard) : Dashboard :=
  { d.publisherRef.elim d fun i => stop i d with
    interval := none, duration := false, mounted := false }

/-- `startSharing`, with the beginning of the first publish: the publisher and whether it goes on. -/
def startSharing (env : Env) (n : ℕ) (options : Options) (d : Dashboard) : Dashboard × ℕ × Bool :=
  let i := d.publishers.length
  let (d, begun) :=
    begin env n i { d with publishers := d.publishers ++ [{ options }], publisherRef := some i }
  ({ d with interval := some i, duration := true, sharing := true }, i, begun)

/-! ### The awaits -/

/-- What is awaited. -/
inductive Op
  | startSharing (options : Options)
  | tick
  | loadCircleKey (i : ℕ)
  | getPosition (i : ℕ)
  | encrypt (i : ℕ) (key : Bytes) (location : Position)
  | send (i : ℕ) (ciphertext : String) (expiresAt : ℤ)
  | response (i : ℕ)
  | stopSharing
  | unmount

/-- What an await gives, where it gives anything. -/
abbrev Op.Ans : Op → Type
  | startSharing _ | tick => ℕ × Bool
  | loadCircleKey _ => Option Bytes
  | getPosition _ => Option Position
  | encrypt _ _ _ => Option String
  | send _ _ _ | response _ => Bool
  | stopSharing | unmount => Unit

/-- What the world answers. -/
inductive Answer
  | fails
  | absent
  | key (key : Bytes)
  | position (lat lng accuracy_m : Number) (now : ℤ)
  | drawn (nonce : String) (iv : ℕ)
  | signed (nonce : String) (now : ℤ)
  | status (status : ℕ)
  | done

/-- The event of `signNip98AuthEvent`. -/
def nip98Template (url payloadHash nonce : String) (now : ℤ) : EventTemplate where
  kind := 27235
  created_at := now
  tags := [["u", url], ["method", "POST"], ["nonce", nonce], ["payload", payloadHash]]
  content := ""

/-- The request of a publish. -/
def post (env : Env) (n i : ℕ) (options : Options) (ciphertext : String) (expiresAt : ℤ)
    (nonce : String) (now : ℤ) : Post :=
  let body := env.stringify
    { version := 1, key_epoch := options.keyEpoch, ciphertext, expires_at := expiresAt }
  let url := "/api/circles/" ++ options.circleId ++ "/location"
  { publisher := i
    call := n
    url
    body
    auth := nip98Template (env.absolute url) (env.sha256Hex body) nonce now }

/-- What is done from one await to the next, in call `n`. -/
def perform (env : Env) (n : ℕ) (op : Op) (x : Answer) (d : Dashboard) :
    Option (op.Ans × Dashboard) :=
  match op, x with
  | .startSharing options, _ =>
    -- the button starts only where it does not stop
    if d.sharing ∨ !d.mounted then none
    else
      let (d, i, begun) := startSharing env n options d
      some ((i, begun), d)
  | .tick, _ => d.interval.map fun i =>
    let (d, begun) := begin env n i d
    ((i, begun), d)
  | .loadCircleKey i, .fails => some (none, finish i d)
  | .loadCircleKey i, .absent => some (none, finish i (stop i d))
  | .loadCircleKey _, .key key => some (some key, d)
  | .getPosition i, .fails => some (none, finish i (stop i d))
  | .getPosition _, .position lat lng accuracy_m now =>
    some (some { lat, lng, accuracy_m, captured_at := now }, d)
  | .encrypt i _ _, .fails => some (none, finish i d)
  | .encrypt i key location, .drawn nonce iv =>
    d.publishers[i]?.map fun p =>
      match encryptCircleLocationV1 env.crypto env.sign nonce iv key p.options.circleId
        p.options.keyEpoch location p.options.precision (location.captured_at + 5 * 60) with
      | none => (none, finish i d)
      | some ciphertext => (some ciphertext, d)
  | .send i _ _, .fails => some (false, finish i d)
  | .send i ciphertext expiresAt, .signed nonce now => d.publishers[i]?.map fun p =>
    (true, { d with posts := d.posts ++ [post env n i p.options ciphertext expiresAt nonce now] })
  | .response i, .fails => some (false, finish i d)
  | .response i, .status status =>
    if status = 409 ∨ status = 422 ∨ status = 503 then some (false, finish i (stop i d))
    else some (decide (200 ≤ status ∧ status < 300), finish i d)
  | .stopSharing, _ => some ((), stopSharing d)
  | .unmount, _ => some ((), unmount d)
  | _, _ => none

/-- `publish` after its beginning, and whether it succeeds. -/
def publish (i : ℕ) (begun : Bool) : Lib.Task Op Op.Ans Bool :=
  if begun = false then pure false
  else do
    let key : Option Bytes ← Task.await (Op.loadCircleKey i)
    match key with
    | none => pure false
    | some key =>
      let location : Option Position ← Task.await (Op.getPosition i)
      match location with
      | none => pure false
      | some location =>
        let ciphertext : Option String ← Task.await (Op.encrypt i key location)
        match ciphertext with
        | none => pure false
        | some ciphertext =>
          let sent : Bool ← Task.await (Op.send i ciphertext (location.captured_at + 5 * 60))
          if sent then Task.await (Op.response i) else pure false

/-- `publishOnce`: what is thrown stops the sharing. -/
def publishOnce (i : ℕ) (begun : Bool) : Lib.Task Op Op.Ans Unit := do
  let published ← publish i begun
  if published then pure () else Task.await Op.stopSharing

/-- What begins on the page: a press of the button or a timer. -/
inductive Call
  | startSharing (options : Options)
  | tick
  | stopSharing
  | unmount

/-- The calls of the page. -/
def system (env : Env) : System Dashboard Call Op Op.Ans Answer Unit where
  body
    | .startSharing options => do
      let begun : ℕ × Bool ← Task.await (Op.startSharing options)
      publishOnce begun.1 begun.2
    | .tick => do
      let begun : ℕ × Bool ← Task.await Op.tick
      publishOnce begun.1 begun.2
    | .stopSharing => Task.await Op.stopSharing
    | .unmount => Task.await Op.unmount
  perform n _ := perform env n

/-! ### What is left to send -/

/-- The call that a publisher has in flight. -/
def flight (i : ℕ) (d : Dashboard) : Option ℕ := d.publishers[i]?.bind Publisher.inFlight

/-- A publisher that is stopped. -/
def Stopped (i : ℕ) (d : Dashboard) : Prop :=
  ∃ p, d.publishers[i]? = some p ∧ p.stopped = true

/-- The number of locations that a publisher has sent. -/
def sent (i : ℕ) (d : Dashboard) : ℕ := d.posts.countP fun p => p.publisher = i

/-- A call has sent its location. -/
def posted (n : ℕ) (d : Dashboard) : Bool := d.posts.any fun p => p.call = n

/-- The number of locations that a publisher is about to send. -/
def pending (i : ℕ) (d : Dashboard) : ℕ :=
  match flight i d with
  | none => 0
  | some n => if posted n d then 0 else 1

/-- A publisher that is not. -/
def Live (i : ℕ) (d : Dashboard) : Prop :=
  ∃ p, d.publishers[i]? = some p ∧ p.stopped = false

/-- Where a publisher is not stopped, sharing is on and it is the one of the button. -/
def OneLive (d : Dashboard) : Prop :=
  ∀ i, Live i d → d.sharing = true ∧ d.mounted = true ∧ d.publisherRef = some i

/-- What call `n` counts on: others leave what it has in flight, and do not send in its name; and a
stopped publisher stays so, and has less and less left to send. -/
structure View (n : ℕ) (d d' : Dashboard) : Prop where
  flight : ∀ i, flight i d = some n → Sharing.flight i d' = some n
  posted : posted n d' = Sharing.posted n d
  stopped : ∀ i, Stopped i d → Stopped i d' ∧ sent i d' + pending i d' ≤ sent i d + pending i d

variable {env : Env} {n m i j : ℕ} {d d' d'' : Dashboard}

theorem View.refl (n : ℕ) (d : Dashboard) : View n d d :=
  ⟨fun _ h => h, rfl, fun _ h => ⟨h, Nat.le_refl _⟩⟩

theorem View.trans (h : View n d d') (h' : View n d' d'') : View n d d'' where
  flight i hi := h'.flight i (h.flight i hi)
  posted := h'.posted.trans h.posted
  stopped i hi := by
    obtain ⟨hi', hle⟩ := h.stopped i hi
    obtain ⟨hi'', hle'⟩ := h'.stopped i hi'
    exact ⟨hi'', hle'.trans hle⟩

/-- What does not concern the publishers concerns nobody. -/
theorem view_of_eq (hpublishers : d'.publishers = d.publishers) (hposts : d'.posts = d.posts) :
    View n d d' := by
  have hflight : ∀ i, flight i d' = flight i d := fun i => by rw [flight, flight, hpublishers]
  have hposted : ∀ m, posted m d' = posted m d := fun m => by rw [posted, posted, hposts]
  refine ⟨fun i hi => (hflight i).trans hi, hposted n, fun i hi => ⟨?_, ?_⟩⟩
  · obtain ⟨p, hp, hstopped⟩ := hi
    exact ⟨p, by rwa [hpublishers], hstopped⟩
  · rw [sent, sent, hposts, pending, pending, hflight]
    simp only [hposted]
    exact Nat.le_refl _

/-! ### A publisher changes -/

theorem getElem?_modify (f : Publisher → Publisher) :
    (d.modify i f).publishers[j]? = if i = j then d.publishers[j]?.map f else d.publishers[j]? := by
  unfold Dashboard.modify
  rw [List.getElem?_modify]
  split_ifs with h
  · rfl
  · exact Option.map_id_apply

/-- What call `n` does to a publisher concerns no other call, if it takes nothing from another that
has it in flight, and starts no publisher again. -/
theorem view_modify {f : Publisher → Publisher} (hm : m ≠ n)
    (hinFlight : ∀ p, d.publishers[i]? = some p → (f p).inFlight ≠ p.inFlight →
      (p.inFlight = some n ∧ (f p).inFlight = none) ∨
        (p.inFlight = none ∧ (f p).inFlight = some n ∧ p.stopped = false))
    (hstopped : ∀ p, p.stopped = true → (f p).stopped = true) : View m d (d.modify i f) := by
  refine ⟨fun j hj => ?_, rfl, fun j hj => ⟨?_, ?_⟩⟩
  · unfold flight at hj ⊢
    rw [getElem?_modify]
    split_ifs with hij
    · subst hij
      obtain ⟨p, hp, hflight⟩ := Option.bind_eq_some_iff.1 hj
      rw [hp, Option.map_some, Option.bind_some]
      by_contra hne
      rcases hinFlight p hp (by rwa [hflight]) with ⟨hn, -⟩ | ⟨hnone, -, -⟩
      · rw [hflight] at hn
        exact hm (Option.some.inj hn)
      · rw [hflight] at hnone
        cases hnone
    · exact hj
  · obtain ⟨p, hp, hp'⟩ := hj
    unfold Stopped
    rw [getElem?_modify, hp]
    split_ifs with hij
    · exact ⟨f p, rfl, hstopped p hp'⟩
    · exact ⟨p, rfl, hp'⟩
  · refine Nat.add_le_add_left ?_ _
    obtain ⟨p, hp, hp'⟩ := hj
    unfold pending flight
    rw [getElem?_modify, hp]
    split_ifs with hij
    · subst hij
      rw [Option.map_some, Option.bind_some, Option.bind_some]
      by_cases heq : (f p).inFlight = p.inFlight
      · rw [heq]
        exact Nat.le_refl _
      · rcases hinFlight p hp heq with ⟨-, hnone⟩ | ⟨-, -, hlive⟩
        · rw [hnone]
          exact Nat.zero_le _
        · rw [hp'] at hlive
          cases hlive
    · exact Nat.le_refl _

/-- A stop leaves what any call counts on. -/
theorem view_stop (i : ℕ) : View m d (stop i d) :=
  view_modify (n := m + 1) (Nat.ne_of_lt (Nat.lt_succ_self m)) (fun _ _ hne => absurd rfl hne)
    fun _ _ => rfl

/-- The end of one request leaves what the other calls count on. -/
theorem view_finish (hm : m ≠ n) (h : flight i d = some n) : View m d (finish i d) := by
  refine view_modify hm (fun p hp hne => ?_) fun _ hp => hp
  unfold flight at h
  rw [hp, Option.bind_some] at h
  exact .inl ⟨h, rfl⟩

/-- A publisher that is stopped keeps its request in flight. -/
theorem flight_stop : flight j (stop i d) = flight j d := by
  unfold flight stop
  rw [getElem?_modify]
  split_ifs with hij
  · cases d.publishers[j]? with
    | none => rfl
    | some p => rfl
  · rfl

/-- No publisher is started again. -/
theorem live_of_modify {f : Publisher → Publisher}
    (hstopped : ∀ p, (f p).stopped = false → p.stopped = false) (h : Live j (d.modify i f)) :
    Live j d := by
  obtain ⟨p, hp, hlive⟩ := h
  rw [getElem?_modify] at hp
  split_ifs at hp with hij
  · obtain ⟨q, hq, rfl⟩ := Option.map_eq_some_iff.1 hp
    exact ⟨q, hq, hstopped q hlive⟩
  · exact ⟨p, hp, hlive⟩

theorem live_of_stop (h : Live j (stop i d)) : Live j d ∧ i ≠ j := by
  refine ⟨live_of_modify (fun _ hp => absurd hp Bool.noConfusion) h, fun hij => ?_⟩
  obtain ⟨p, hp, hlive⟩ := h
  unfold stop at hp
  rw [getElem?_modify, if_pos hij] at hp
  obtain ⟨q, -, rfl⟩ := Option.map_eq_some_iff.1 hp
  cases hlive

theorem oneLive_stop (i : ℕ) (h : OneLive d) : OneLive (stop i d) :=
  fun j hj => h j (live_of_stop hj).1

theorem oneLive_finish (i : ℕ) (h : OneLive d) : OneLive (finish i d) :=
  fun j hj => h j (live_of_modify (f := fun p => { p with inFlight := none }) (fun _ hp => hp) hj)

/-! ### A publish begins -/

/-- **How a publish begins**: the publisher is left as it is or stopped, or it has the call in
flight. -/
theorem begin_cases (env : Env) (n i : ℕ) (d : Dashboard) :
    (begin env n i d = (d, false) ∨ begin env n i d = (stop i d, false)) ∨
      ∃ p, d.publishers[i]? = some p ∧ p.stopped = false ∧ p.inFlight = none ∧
        begin env n i d = (d.modify i fun p => { p with inFlight := some n }, true) := by
  unfold begin
  cases hp : d.publishers[i]? with
  | none => exact .inl (.inl rfl)
  | some p =>
      dsimp only
      split_ifs with hstopped hflag hflight hepoch
      · exact .inl (.inl rfl)
      · exact .inl (.inr rfl)
      · exact .inl (.inl rfl)
      · exact .inr ⟨p, rfl, Bool.eq_false_iff.2 hstopped, by simpa using hflight, rfl⟩
      · exact .inl (.inr rfl)

theorem view_begin (env : Env) (i : ℕ) (hm : m ≠ n) : View m d (begin env n i d).1 := by
  rcases begin_cases env n i d with (h | h) | ⟨p, hp, hlive, hnone, h⟩
  · rw [h]
    exact View.refl m d
  · rw [h]
    exact view_stop i
  · rw [h]
    refine view_modify hm (fun q hq _ => ?_) fun _ hq => hq
    obtain rfl := Option.some.inj (hp.symm.trans hq)
    exact .inr ⟨hnone, rfl, hlive⟩

/-- A request makes no publisher live. -/
theorem live_of_begin (h : Live j (begin env n i d).1) : Live j d := by
  rcases begin_cases env n i d with (heq | heq) | ⟨p, -, -, -, heq⟩
  · rwa [heq] at h
  · rw [heq] at h
    exact (live_of_stop h).1
  · rw [heq] at h
    exact live_of_modify (f := fun p => { p with inFlight := some n }) (fun _ hp => hp) h

/-- Beginning to publish leaves the controls as they are. -/
theorem begin_fst (env : Env) (n i : ℕ) (d : Dashboard) :
    ∃ publishers, (begin env n i d).1 = { d with publishers } := by
  rcases begin_cases env n i d with (heq | heq) | ⟨p, -, -, -, heq⟩
  · exact ⟨d.publishers, by rw [heq]⟩
  · exact ⟨_, by rw [heq]; rfl⟩
  · exact ⟨_, by rw [heq]; rfl⟩

theorem oneLive_begin (h : OneLive d) : OneLive (begin env n i d).1 := by
  intro j hj
  have hd := h j (live_of_begin hj)
  obtain ⟨publishers, heq⟩ := begin_fst env n i d
  rw [heq]
  exact hd

/-- A request that begins is in flight. -/
theorem flight_begin (h : (begin env n i d).2 = true) : flight i (begin env n i d).1 = some n := by
  rcases begin_cases env n i d with (heq | heq) | ⟨p, hp, -, -, heq⟩
  · rw [heq] at h
    cases h
  · rw [heq] at h
    cases h
  · rw [heq]
    unfold flight
    rw [getElem?_modify, if_pos rfl, hp]
    rfl

theorem posts_begin : (begin env n i d).1.posts = d.posts := by
  obtain ⟨publishers, heq⟩ := begin_fst env n i d
  rw [heq]

theorem posted_congr (h : d'.posts = d.posts) : posted n d' = posted n d := by
  rw [posted, posted, h]

/-! ### A location is sent -/

/-- What call `n` has in flight, it sends once. -/
theorem view_post {post : Post} (hm : m ≠ n) (hcall : post.call = n) (hi : post.publisher = i)
    (hflight : flight i d = some n) (hposted : posted n d = false) :
    View m d { d with posts := d.posts ++ [post] } := by
  have hsame : ∀ k, k ≠ n → posted k { d with posts := d.posts ++ [post] } = posted k d := by
    intro k hk
    unfold posted
    rw [List.any_append, List.any_cons, List.any_nil, hcall, decide_eq_false (Ne.symm hk)]
    simp
  refine ⟨fun j hj => hj, hsame m hm, fun j hj => ⟨hj, ?_⟩⟩
  have hsent : sent j { d with posts := d.posts ++ [post] } = sent j d + if i = j then 1 else 0 := by
    unfold sent
    rw [List.countP_append, List.countP_singleton, hi]
    simp
  rw [hsent]
  by_cases hij : i = j
  · subst hij
    have hbefore : pending i d = 1 := by
      unfold pending
      rw [hflight]
      simp [hposted]
    have hafter : pending i { d with posts := d.posts ++ [post] } = 0 := by
      have hflight' : flight i { d with posts := d.posts ++ [post] } = some n := hflight
      unfold pending
      rw [hflight']
      simp [posted, hcall]
    rw [hbefore, hafter, if_pos rfl]
  · rw [if_neg hij]
    have hpending : pending j { d with posts := d.posts ++ [post] } ≤ pending j d := by
      have hflight' : flight j { d with posts := d.posts ++ [post] } = flight j d := rfl
      unfold pending
      rw [hflight']
      cases flight j d with
      | none => exact Nat.le_refl _
      | some k =>
          dsimp only
          by_cases hk : k = n
          · subst hk
            simp [posted, hcall]
          · rw [hsame k hk]
    omega

/-! ### The controls -/

theorem view_ref {x : Option ℕ} : View m d (x.elim d fun i => stop i d) := by
  cases x with
  | none => exact View.refl m d
  | some i => exact view_stop i

theorem view_stopSharing : View m d (stopSharing d) := by
  have href : View m d (d.publisherRef.elim d fun i => stop i d) := view_ref
  exact href.trans (view_of_eq rfl rfl)

theorem view_unmount : View m d (unmount d) := by
  have href : View m d (d.publisherRef.elim d fun i => stop i d) := view_ref
  exact href.trans (view_of_eq rfl rfl)

/-- Where the publisher of the button is stopped, all are. -/
theorem not_live_ref (h : OneLive d) : ¬Live i (d.publisherRef.elim d fun i => stop i d) := by
  intro hlive
  cases href : d.publisherRef with
  | none =>
      rw [href] at hlive
      have hsome := (h i hlive).2.2
      rw [href] at hsome
      cases hsome
  | some k =>
      rw [href] at hlive
      obtain ⟨hi, hne⟩ := live_of_stop hlive
      exact hne (Option.some.inj (href.symm.trans (h i hi).2.2))

theorem oneLive_stopSharing (h : OneLive d) : OneLive (stopSharing d) :=
  fun _ hi => absurd hi (not_live_ref h)

theorem oneLive_unmount (h : OneLive d) : OneLive (unmount d) :=
  fun _ hi => absurd hi (not_live_ref h)

/-- A new publisher concerns no other. -/
theorem view_append {p : Publisher} {x : Option ℕ} :
    View m d { d with publishers := d.publishers ++ [p], publisherRef := x } := by
  have hold : ∀ {i : ℕ} {q : Publisher}, d.publishers[i]? = some q →
      (d.publishers ++ [p])[i]? = some q := by
    intro i q hq
    rw [List.getElem?_append_left (List.getElem?_eq_some_iff.1 hq).1, hq]
  refine ⟨fun i hi => ?_, rfl, fun i hi => ⟨?_, ?_⟩⟩
  · obtain ⟨q, hq, hflight⟩ := Option.bind_eq_some_iff.1 hi
    exact Option.bind_eq_some_iff.2 ⟨q, hold hq, hflight⟩
  · obtain ⟨q, hq, hstopped⟩ := hi
    exact ⟨q, hold hq, hstopped⟩
  · obtain ⟨q, hq, -⟩ := hi
    unfold pending flight
    rw [hq]
    dsimp only
    rw [hold hq]
    exact Nat.le_refl _

theorem view_startSharing {options : Options} (hm : m ≠ n) :
    View m d (startSharing env n options d).1 :=
  View.trans view_append (View.trans (view_begin env _ hm) (view_of_eq rfl rfl))

/-- A press of the button, where no other publisher is live. -/
theorem oneLive_startSharing (env : Env) (n : ℕ) (options : Options) (h : OneLive d)
    (hoff : d.sharing = false) (hmounted : d.mounted = true) : OneLive (startSharing env n options d).1 := by
  intro i hi
  have hbegun : Live i (begin env n d.publishers.length { d with
      publishers := d.publishers ++ [{ options }], publisherRef := some d.publishers.length }).1 := hi
  have hnew := live_of_begin hbegun
  obtain ⟨publishers, heq⟩ := begin_fst env n d.publishers.length
    { d with publishers := d.publishers ++ [{ options }], publisherRef := some d.publishers.length }
  have hi' : i = d.publishers.length := by
    obtain ⟨p, hp, hlive⟩ := hnew
    dsimp only at hp
    rw [List.getElem?_append] at hp
    split_ifs at hp with hlt
    · have hsharing := (h i ⟨p, hp, hlive⟩).1
      rw [hoff] at hsharing
      cases hsharing
    · rw [List.getElem?_singleton] at hp
      split_ifs at hp with hzero
      omega
  unfold startSharing
  dsimp only
  rw [heq]
  exact ⟨rfl, hmounted, congrArg some hi'.symm⟩

/-! ### Every order of the steps -/

/-- How the calls use the page. -/
def discipline : Discipline Dashboard Call Op Answer where
  Inv := OneLive
  Rely := View
  Cond _ _ _ _ _ := True
  Local n c d := c = none → posted n d = false
  refl := View.refl
  trans _ _ _ _ := View.trans
  stays _ _ _ _ h hfresh hc := h.posted.trans (hfresh hc)

/-- What the step of a call does that leaves the others alone. -/
theorem guarantees {c : Call × Dashboard} (hinv : OneLive d') (hview : ∀ m, m ≠ n → View m d d') :
    discipline.Guarantees n c d d' :=
  ⟨hinv, hview, fun h => absurd h (Option.some_ne_none c)⟩

/-- Call `n` has a publish of the publisher in flight, and has not sent its location. -/
def InFlight (n i : ℕ) (d : Dashboard) : Prop := flight i d = some n ∧ posted n d = false

theorem InFlight.view (h : InFlight n i d) (hview : View n d d') : InFlight n i d' :=
  ⟨hview.flight i h.1, hview.posted.trans h.2⟩

theorem guarantees_finish {c : Call × Dashboard} (hinv : OneLive d) (h : flight i d = some n) :
    discipline.Guarantees n c d (finish i d) :=
  guarantees (oneLive_finish i hinv) fun _ hm => view_finish hm h

theorem guarantees_finish_stop {c : Call × Dashboard} (hinv : OneLive d) (h : flight i d = some n) :
    discipline.Guarantees n c d (finish i (stop i d)) :=
  guarantees (oneLive_finish i (oneLive_stop i hinv)) fun _ hm =>
    (view_stop i).trans (view_finish hm (flight_stop.trans h))

/-! ### What an await does -/

/-- A publish has ended: its publisher is as it was, or stopped. -/
def Ended (i : ℕ) (d d' : Dashboard) : Prop := d' = finish i d ∨ d' = finish i (stop i d)

variable {c : Call × Dashboard} {x : Answer}

theorem guarantees_ended (hinv : OneLive d) (h : flight i d = some n) (hended : Ended i d d') :
    discipline.Guarantees n c d d' := by
  rcases hended with rfl | rfl
  · exact guarantees_finish hinv h
  · exact guarantees_finish_stop hinv h

/-- Without a key, or where it cannot be read, the request ends. -/
theorem loadCircleKey_cases {r : Option Bytes}
    (h : perform env n (.loadCircleKey i) x d = some (r, d')) :
    (r = none ∧ Ended i d d') ∨ ∃ key, r = some key ∧ d' = d := by
  cases x with
  | fails =>
      obtain ⟨rfl, rfl⟩ := Prod.mk.inj (Option.some.inj h)
      exact .inl ⟨rfl, .inl rfl⟩
  | absent =>
      obtain ⟨rfl, rfl⟩ := Prod.mk.inj (Option.some.inj h)
      exact .inl ⟨rfl, .inr rfl⟩
  | key key =>
      obtain ⟨rfl, rfl⟩ := Prod.mk.inj (Option.some.inj h)
      exact .inr ⟨key, rfl, rfl⟩
  | _ => cases h

/-- So it does without a position, -/
theorem getPosition_cases {r : Option Position}
    (h : perform env n (.getPosition i) x d = some (r, d')) :
    (r = none ∧ Ended i d d') ∨ ∃ location, r = some location ∧ d' = d := by
  cases x with
  | fails =>
      obtain ⟨rfl, rfl⟩ := Prod.mk.inj (Option.some.inj h)
      exact .inl ⟨rfl, .inr rfl⟩
  | position lat lng accuracy_m now =>
      obtain ⟨rfl, rfl⟩ := Prod.mk.inj (Option.some.inj h)
      exact .inr ⟨_, rfl, rfl⟩
  | _ => cases h

/-- without an envelope, -/
theorem encrypt_cases {key : Bytes} {location : Position} {r : Option String}
    (h : perform env n (.encrypt i key location) x d = some (r, d')) :
    (r = none ∧ Ended i d d') ∨ ∃ ciphertext, r = some ciphertext ∧ d' = d := by
  cases x with
  | fails =>
      obtain ⟨rfl, rfl⟩ := Prod.mk.inj (Option.some.inj h)
      exact .inl ⟨rfl, .inl rfl⟩
  | drawn nonce iv =>
      obtain ⟨p, -, hp⟩ := Option.map_eq_some_iff.1 h
      cases hencrypt : encryptCircleLocationV1 env.crypto env.sign nonce iv key p.options.circleId
          p.options.keyEpoch location p.options.precision (location.captured_at + 5 * 60) with
      | none =>
          rw [hencrypt] at hp
          obtain ⟨rfl, rfl⟩ := Prod.mk.inj hp
          exact .inl ⟨rfl, .inl rfl⟩
      | some ciphertext =>
          rw [hencrypt] at hp
          obtain ⟨rfl, rfl⟩ := Prod.mk.inj hp
          exact .inr ⟨ciphertext, rfl, rfl⟩
  | _ => cases h

/-- and where the envelope is not sent; else it is one more post. -/
theorem send_cases {ciphertext : String} {expiresAt : ℤ} {r : Bool}
    (h : perform env n (.send i ciphertext expiresAt) x d = some (r, d')) :
    (r = false ∧ Ended i d d') ∨ ∃ options nonce now, r = true ∧ d' = { d with
      posts := d.posts ++ [post env n i options ciphertext expiresAt nonce now] } := by
  cases x with
  | fails =>
      obtain ⟨rfl, rfl⟩ := Prod.mk.inj (Option.some.inj h)
      exact .inl ⟨rfl, .inl rfl⟩
  | signed nonce now =>
      obtain ⟨p, -, hp⟩ := Option.map_eq_some_iff.1 h
      obtain ⟨rfl, rfl⟩ := Prod.mk.inj hp
      exact .inr ⟨p.options, nonce, now, rfl, rfl⟩
  | _ => cases h

/-- With its answer the request ends. -/
theorem response_cases {r : Bool} (h : perform env n (.response i) x d = some (r, d')) :
    Ended i d d' := by
  cases x with
  | fails =>
      obtain ⟨-, rfl⟩ := Prod.mk.inj (Option.some.inj h)
      exact .inl rfl
  | status status =>
      unfold perform at h
      dsimp only at h
      split_ifs at h
      · obtain ⟨-, rfl⟩ := Prod.mk.inj (Option.some.inj h)
        exact .inr rfl
      · obtain ⟨-, rfl⟩ := Prod.mk.inj (Option.some.inj h)
        exact .inl rfl
  | _ => cases h

/-! ### The calls keep to it -/

/-- The calls of the page, as one of them sees it. -/
abbrev Keeps {α : Type} (env : Env) (n : ℕ) (c : Call × Dashboard) (t : Lib.Task Op Op.Ans α)
    (d : Dashboard) : Prop :=
  Safe discipline (fun n _ => perform env n) n c (fun _ _ => True) t d

theorem keeps_done {α : Type} {a : α} : Keeps env n c (.done a) d := fun _ _ _ _ => trivial

/-- **A publish that is in flight** sends at most once. -/
theorem keeps_publish (h : InFlight n i d) : Keeps env n c (publish i true) d := by
  intro d₁ hinv _ hview x r d₂ _ hperform
  replace h := h.view hview
  obtain ⟨rfl, hended⟩ | ⟨key, rfl, rfl⟩ := loadCircleKey_cases hperform
  · exact ⟨guarantees_ended hinv h.1 hended, keeps_done⟩
  refine ⟨guarantees hinv fun m _ => View.refl m _, ?_⟩
  intro d₁ hinv _ hview x r d₂ _ hperform
  replace h := h.view hview
  obtain ⟨rfl, hended⟩ | ⟨location, rfl, rfl⟩ := getPosition_cases hperform
  · exact ⟨guarantees_ended hinv h.1 hended, keeps_done⟩
  refine ⟨guarantees hinv fun m _ => View.refl m _, ?_⟩
  intro d₁ hinv _ hview x r d₂ _ hperform
  replace h := h.view hview
  obtain ⟨rfl, hended⟩ | ⟨ciphertext, rfl, rfl⟩ := encrypt_cases hperform
  · exact ⟨guarantees_ended hinv h.1 hended, keeps_done⟩
  refine ⟨guarantees hinv fun m _ => View.refl m _, ?_⟩
  intro d₁ hinv _ hview x r d₂ _ hperform
  replace h := h.view hview
  obtain ⟨rfl, hended⟩ | ⟨options, nonce, now, rfl, rfl⟩ := send_cases hperform
  · exact ⟨guarantees_ended hinv h.1 hended, keeps_done⟩
  have hsent : ∀ m, m ≠ n → View m d₁ { d₁ with posts := d₁.posts ++
      [post env n i options ciphertext (location.captured_at + 5 * 60) nonce now] } :=
    fun m hm => view_post hm rfl rfl h.1 h.2
  refine ⟨guarantees hinv hsent, ?_⟩
  intro d₃ hinv _ hview x r d₂ _ hperform
  exact ⟨guarantees_ended hinv (hview.flight i h.1) (response_cases hperform), keeps_done⟩

theorem keeps_stopSharing : Keeps env n c (Task.await Op.stopSharing) d := by
  intro d₁ hinv _ _ x r d₂ _ hperform
  have heq : d₂ = stopSharing d₁ := by
    cases x <;> exact (Prod.mk.inj (Option.some.inj hperform)).2.symm
  rw [heq]
  exact ⟨guarantees (oneLive_stopSharing hinv) fun m _ => view_stopSharing, keeps_done⟩

theorem keeps_unmount : Keeps env n c (Task.await Op.unmount) d := by
  intro d₁ hinv _ _ x r d₂ _ hperform
  have heq : d₂ = unmount d₁ := by
    cases x <;> exact (Prod.mk.inj (Option.some.inj hperform)).2.symm
  rw [heq]
  exact ⟨guarantees (oneLive_unmount hinv) fun m _ => view_unmount, keeps_done⟩

theorem keeps_publishOnce {begun : Bool} (hinv : OneLive d) (h : begun = true → InFlight n i d) :
    Keeps env n c (publishOnce i begun) d := by
  have hown : discipline.Local n (some c) d := fun h => absurd h (Option.some_ne_none c)
  refine Safe.bind (P := fun _ _ => True) hinv hown ?_ fun published d' _ _ _ => ?_
  · cases begun with
    | false => exact keeps_done
    | true => exact keeps_publish (h rfl)
  · cases published with
    | false => exact keeps_stopSharing
    | true => exact keeps_done

/-- What begins to publish has its publish in flight. -/
theorem inFlight_begin (hfresh : posted n d = false) (h : (begin env n i d).2 = true) :
    InFlight n i (begin env n i d).1 :=
  ⟨flight_begin h, (posted_congr posts_begin).trans hfresh⟩

theorem keeps_call (call : Call) (hfresh : posted n d = false) :
    Keeps env n c ((system env).body call) d := by
  cases call with
  | startSharing options =>
      intro d₁ hinv _ hview x r d₂ _ hperform
      have hfresh₁ : posted n d₁ = false := hview.posted.trans hfresh
      unfold perform at hperform
      dsimp only at hperform
      split_ifs at hperform with hoff
      rw [not_or, Bool.not_eq_true, Bool.not_eq_true', Bool.not_eq_false] at hoff
      obtain ⟨rfl, rfl⟩ := Prod.mk.inj (Option.some.inj hperform)
      have hnext := oneLive_startSharing env n options hinv hoff.1 hoff.2
      refine ⟨guarantees hnext fun m hm => view_startSharing hm, keeps_publishOnce hnext ?_⟩
      exact fun hbegun => inFlight_begin (d := { d₁ with
        publishers := d₁.publishers ++ [{ options }], publisherRef := some d₁.publishers.length })
        hfresh₁ hbegun
  | tick =>
      intro d₁ hinv _ hview x r d₂ _ hperform
      have hfresh₁ : posted n d₁ = false := hview.posted.trans hfresh
      have htick : d₁.interval.map (fun i => ((i, (begin env n i d₁).2), (begin env n i d₁).1)) =
          some (r, d₂) := by
        cases x <;> exact hperform
      obtain ⟨i, -, heq⟩ := Option.map_eq_some_iff.1 htick
      obtain ⟨rfl, rfl⟩ := Prod.mk.inj heq
      have hnext : OneLive (begin env n i d₁).1 := oneLive_begin hinv
      exact ⟨guarantees hnext fun m hm => view_begin env i hm,
        keeps_publishOnce hnext (inFlight_begin hfresh₁)⟩
  | stopSharing => exact keeps_stopSharing
  | unmount => exact keeps_unmount

theorem starts (env : Env) : discipline.Starts (system env) fun _ _ _ _ => True :=
  fun _ call d _ hfresh =>
    ⟨fun h => absurd h (Option.some_ne_none (call, d)), keeps_call call (hfresh rfl)⟩

/-- The page when it is opened. -/
def opened : Pool Dashboard Call Op Op.Ans Unit := Pool.init {}

/-- No step is left out. -/
theorem meets_all (p : Pool Dashboard Call Op Op.Ans Unit) (a : Act Call Answer) :
    MeetsAt discipline.Cond p a := by
  cases a with
  | start c => trivial
  | resume n x => exact fun _ _ => trivial

theorem sound_opened (env : Env) (as : List (Act Call Answer)) :
    Sound discipline (system env) (fun _ _ _ _ => True) (run (step (system env)) opened as) := by
  refine Async.sound_run (starts env) (sound_init ?_ fun _ _ => rfl) fun e _ =>
    meets_all e.pre e.act
  rintro i ⟨p, hp, -⟩
  cases hp

/-- A publisher is about to send at most one location. -/
theorem pending_le_one (i : ℕ) (d : Dashboard) : pending i d ≤ 1 := by
  unfold pending
  cases flight i d with
  | none => exact Nat.zero_le 1
  | some n =>
      dsimp only
      split_ifs
      · exact Nat.zero_le 1
      · exact Nat.le_refl 1

/-- **Sharing stops**, in every order of the steps.  Whenever sharing is off, or the page is gone,
every publisher is stopped; and a stopped publisher stays so, whatever happens, and sends no more than
the location that it was about to send. -/
theorem sharing_stops (env : Env) (as bs : List (Act Call Answer)) :
    let d := (run (step (system env)) opened as).store
    let d' := (run (step (system env)) opened (as ++ bs)).store
    (d.sharing = false ∨ d.mounted = false → ∀ i < d.publishers.length, Stopped i d) ∧
      ∀ i, Stopped i d → Stopped i d' ∧ sent i d' ≤ sent i d + pending i d ∧ pending i d ≤ 1 := by
  intro d d'
  have hsound := sound_opened env as
  constructor
  · intro hoff i hi
    by_contra hlive
    obtain ⟨hsharing, hmounted, -⟩ := hsound.inv i ⟨d.publishers[i], List.getElem?_eq_getElem hi, by
      by_contra hstopped
      exact hlive ⟨d.publishers[i], List.getElem?_eq_getElem hi, by simpa using hstopped⟩⟩
    rcases hoff with hoff | hoff
    · rw [hsharing] at hoff
      cases hoff
    · rw [hmounted] at hoff
      cases hoff
  · intro i hi
    have hmeets : ∀ e ∈ events (step (system env)) (run (step (system env)) opened as) bs,
        MeetsAt discipline.Cond e.pre e.act := fun e _ => meets_all e.pre e.act
    have hstay := stable_run
      (P := fun s => Stopped i s ∧ sent i s + pending i s ≤ sent i d + pending i d) (starts env)
      (fun n s s' hview hs => ⟨(hview.stopped i hs.1).1, (hview.stopped i hs.1).2.trans hs.2⟩)
      hsound ⟨hi, Nat.le_refl _⟩ hmeets
    rw [← run_append] at hstay
    exact ⟨hstay.1, (Nat.le_add_right _ _).trans hstay.2, pending_le_one i d⟩

end Sharing
end Pwa
end SentinelMesh
