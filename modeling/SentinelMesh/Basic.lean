/-
# Shared types of the gateway

What the modules of `services/gateway/src` have in common: keys and ids as the
strings the database stores, instants, the errors of `error.rs`, and the Nostr
events of `nostr_sdk` as far as the gateway reads them.

A UUID is written as its canonical hyphenated text, which is how it enters
signed contents and token inputs.  An instant of `TIMESTAMPTZ` is a whole number
of microseconds, the resolution of the type; `seconds` is
`DateTime::timestamp()`.  `nostr_sdk` itself is not part of the repository: of
parsing, that ids and keys are read from hex of either case and printed in
lower case; of `Event::verify`, only that it is a predicate, a parameter of
what uses it.
-/

import SentinelMesh.Lib.MachineInt

namespace SentinelMesh

/-- A Nostr public key as text: 64 hex digits where it is valid. -/
abbrev Pubkey := String

/-- A UUID as its canonical text. -/
abbrev Uuid := String

/-- An instant, in microseconds since the Unix epoch. -/
abbrev Timestamp := ℤ

/-- `DateTime::timestamp()`: whole seconds, rounded down. -/
def seconds (t : Timestamp) : ℤ := t / 1000000

/-- Microseconds in a day. -/
def day : ℤ := 86400 * 1000000

/-- `AppError` of `error.rs`.  An `Internal` error carries the text of its
cause. -/
inductive AppError
  | notFound
  | badRequest (message : String)
  | unauthorized
  | forbidden
  | rateLimited
  | unavailable
  | conflict (message : String)
  | unprocessable (message : String)
  | internal (cause : String)
  deriving DecidableEq, Repr

/-- A chain of checks ends well when each of them does. -/
theorem bind_eq_ok {ε α β : Type} {x : Except ε α} {f : α → Except ε β} {b : β} :
    (x >>= f) = .ok b ↔ ∃ a, x = .ok a ∧ f a = .ok b := by
  cases x with
  | error e =>
      constructor
      · intro h
        cases h
      · rintro ⟨a, h, _⟩
        cases h
  | ok a =>
      constructor
      · intro h
        exact ⟨a, rfl, h⟩
      · rintro ⟨a', h, hf⟩
        cases h
        exact hf

/-- A check that fails with `e` unless `b`. -/
def ensure {ε : Type} (b : Bool) (e : ε) : Except ε Unit := if b then .ok () else .error e

@[simp] theorem ensure_eq_ok {ε : Type} {b : Bool} {e : ε} {u : Unit} :
    ensure b e = .ok u ↔ b = true := by
  unfold ensure
  cases b <;> simp

/-- `u8::is_ascii_hexdigit`. -/
def isHexDigit (c : Char) : Bool :=
  c.isDigit || (decide ('a' ≤ c) && decide (c ≤ 'f')) || (decide ('A' ≤ c) && decide (c ≤ 'F'))

/-- `n` hex digits of either case. -/
def isHex (n : ℕ) (s : String) : Bool := decide (s.utf8ByteSize = n) && s.toList.all isHexDigit

/-- `str::to_ascii_lowercase`. -/
def toAsciiLowercase (s : String) : String := String.ofList (s.toList.map Char.toLower)

theorem toLower_of_not_upper {c : Char} (h : ¬ (c.val ≥ 'A'.val ∧ c.val ≤ 'Z'.val)) :
    c.toLower = c := by
  unfold Char.toLower
  rw [dif_neg h]

theorem toLower_toLower (c : Char) : c.toLower.toLower = c.toLower := by
  by_cases h : c.val ≥ 'A'.val ∧ c.val ≤ 'Z'.val
  · have hval : c.toLower.val = c.val + ('a'.val - 'A'.val) := by
      unfold Char.toLower
      rw [dif_pos h]
    have hA : ('A'.val).toNat = 65 := rfl
    have hZ : ('Z'.val).toNat = 90 := rfl
    have hshift : ('a'.val - 'A'.val).toNat = 32 := rfl
    refine toLower_of_not_upper ?_
    rw [hval]
    simp only [ge_iff_le, UInt32.le_iff_toNat_le, UInt32.toNat_add] at h ⊢
    omega
  · rw [toLower_of_not_upper h, toLower_of_not_upper h]

@[simp] theorem toAsciiLowercase_toAsciiLowercase (p : Pubkey) :
    toAsciiLowercase (toAsciiLowercase p) = toAsciiLowercase p := by
  unfold toAsciiLowercase
  rw [String.toList_ofList, List.map_map]
  exact congrArg String.ofList (List.map_congr_left fun c _ => toLower_toLower c)

/-- `str::to_ascii_uppercase`. -/
def toAsciiUppercase (s : String) : String := String.ofList (s.toList.map Char.toUpper)

/-- `str::eq_ignore_ascii_case`. -/
def eqIgnoreAsciiCase (s t : String) : Bool := decide (toAsciiLowercase s = toAsciiLowercase t)

/-- `i64::abs` in wrapping arithmetic. -/
def absI64 (x : ℤ) : ℤ := Lib.wrap 64 |x|

/-- An event as submitted: the JSON object with the texts it carries. -/
structure RawEvent where
  id : String
  pubkey : String
  created_at : ℕ
  kind : ℕ
  tags : List (List String)
  content : String
  sig : String
  deriving DecidableEq, Repr

/-- `nostr_sdk::Event`: the parsed event, ids and keys as `to_hex` prints them. -/
structure NostrEvent where
  id : String
  pubkey : Pubkey
  created_at : ℕ
  kind : ℕ
  tags : List (List String)
  content : String
  sig : String
  deriving DecidableEq, Repr

/-- `serde_json::from_value::<nostr_sdk::Event>`: hex of the right lengths, a
64-bit time and a 16-bit kind. -/
def RawEvent.parse (raw : RawEvent) : Option NostrEvent :=
  if isHex 64 raw.id && isHex 64 raw.pubkey && isHex 128 raw.sig
      && decide (raw.created_at < 2 ^ 64) && decide (raw.kind < 2 ^ 16) then
    some { raw with
      id := toAsciiLowercase raw.id
      pubkey := toAsciiLowercase raw.pubkey
      sig := toAsciiLowercase raw.sig }
  else none

/-- `tag_values`: the values of the tags with a name, in order, skipping tags
that carry no value. -/
def tagValues (event : NostrEvent) (name : String) : List String :=
  event.tags.filterMap fun tag => if tag.head? = some name then tag[1]? else none

/-- `verify_nostr_event` of `routes/reports.rs`: the event parses, is by the
expected key, is at most `max_age_secs` old and at most ten seconds ahead, and
its signature verifies.  The age is computed in wrapping 64-bit arithmetic. -/
def verifyNostrEvent (verify : NostrEvent → Bool) (now : Timestamp) (raw : RawEvent)
    (expected_pubkey : Pubkey) (max_age_secs : ℤ) : Except AppError Unit :=
  match raw.parse with
  | none => .error (.badRequest "invalid nostr_event")
  | some event =>
    if event.pubkey ≠ expected_pubkey then
      .error (.badRequest "nostr_event pubkey mismatch")
    else
      let age := Lib.wrap 64 (seconds now - Lib.wrap 64 event.created_at)
      if age > max_age_secs ∨ age < -10 then
        .error (.badRequest "nostr_event is expired")
      else if !verify event then
        .error (.badRequest "invalid nostr signature")
      else .ok ()

/-- What an accepted event is: parsed, by the expected key, and verified. -/
theorem verifyNostrEvent_ok {verify : NostrEvent → Bool} {now : Timestamp} {raw : RawEvent}
    {pk : Pubkey} {age : ℤ} (h : verifyNostrEvent verify now raw pk age = .ok ()) :
    ∃ event, raw.parse = some event ∧ event.pubkey = pk ∧ verify event = true := by
  unfold verifyNostrEvent at h
  split at h
  · cases h
  · rename_i event hparse
    split at h
    · cases h
    · rename_i hpk
      dsimp only at h
      split at h
      · cases h
      · split at h
        · cases h
        · rename_i hv
          exact ⟨event, hparse, not_not.1 hpk, by simpa using hv⟩

/-- Parsing keeps the content and reads the id up to letter case. -/
theorem RawEvent.parse_eq_some {raw : RawEvent} {event : NostrEvent}
    (h : raw.parse = some event) :
    event.content = raw.content ∧ event.id = toAsciiLowercase raw.id := by
  unfold RawEvent.parse at h
  split at h
  · cases h
    exact ⟨rfl, rfl⟩
  · cases h

/-- `n` times the same digit, the keys and ids of concrete runs. -/
def digits (n : ℕ) (c : Char) : String := String.ofList (List.replicate n c)

theorem utf8ByteSize_digits {c : Char} (hsize : c.utf8Size = 1) (n : ℕ) :
    (digits n c).utf8ByteSize = n := by
  unfold digits
  induction n with
  | zero => rfl
  | succ n ih =>
      simp only [List.replicate_succ, String.ofList_cons, String.utf8ByteSize_append,
        String.utf8ByteSize_singleton]
      omega

theorem isHex_digits {c : Char} (hc : isHexDigit c = true) (hsize : c.utf8Size = 1) (n : ℕ) :
    isHex n (digits n c) = true := by
  unfold isHex
  rw [utf8ByteSize_digits hsize]
  simp [digits, hc]

theorem toAsciiLowercase_digits {c : Char} (hc : c.toLower = c) (n : ℕ) :
    toAsciiLowercase (digits n c) = digits n c := by
  unfold toAsciiLowercase digits
  rw [String.toList_ofList, List.map_replicate, hc]

theorem digits_ne {c d : Char} (h : c ≠ d) (n : ℕ) : digits (n + 1) c ≠ digits (n + 1) d := by
  intro he
  have hlist := congrArg String.toList he
  unfold digits at hlist
  rw [String.toList_ofList, String.toList_ofList, List.replicate_succ, List.replicate_succ] at hlist
  exact h (List.cons.inj hlist).1

/-- What stands before the first separator. -/
theorem takeWhile_field {c : Char} {s : String} (hs : c ∉ s.toList) (t : String) :
    (s ++ (String.singleton c ++ t)).toList.takeWhile (· ≠ c) = s.toList := by
  have hall : ∀ d ∈ s.toList, decide (d ≠ c) = true := by
    intro d hd
    rw [decide_eq_true_iff]
    rintro rfl
    exact hs hd
  rw [String.toList_append, List.takeWhile_append_of_pos hall]
  simp

/-- Fields that hold no separator can be told apart from what follows them. -/
theorem field_inj {c : Char} {s s' t t' : String} (hs : c ∉ s.toList) (hs' : c ∉ s'.toList) :
    s ++ (String.singleton c ++ t) = s' ++ (String.singleton c ++ t') ↔ s = s' ∧ t = t' := by
  constructor
  · intro h
    have hfield := takeWhile_field hs t
    rw [h, takeWhile_field hs' t'] at hfield
    obtain rfl : s' = s := String.toList_inj.1 hfield
    rw [String.append_right_inj, String.append_right_inj] at h
    exact ⟨rfl, h⟩
  · rintro ⟨rfl, rfl⟩
    rfl

/-- **An id names one event.**  `Event::verify` recomputes the id as a hash of
the event's key, time, kind, tags and content; hashes are taken not to collide. -/
def IdsBind (verify : NostrEvent → Bool) : Prop :=
  ∀ e e', verify e = true → verify e' = true → e.id = e'.id →
    e.pubkey = e'.pubkey ∧ e.content = e'.content

end SentinelMesh
