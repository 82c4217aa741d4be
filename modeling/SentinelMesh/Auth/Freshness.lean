/-
# What the freshness windows let through

Four checks compare the `created_at` of an event, a `u64`, with the clock, an `i64`:
`validate_key_wrap_v2`, `verify_ws_auth` and `validate_nip98_request` by the absolute value of
the difference, `verify_nostr_event` by the difference.  `validate_nip98_request` converts with
`try_from`; the others with `as i64`, and subtraction and `abs` wrap.

`age_eq` says what the wrapped difference is: the difference itself, except when the event is
dated more than `2^63` seconds ahead, where it comes out as an age.  `absI64_le_iff` adds that
`abs` of the least number is that number, which is below every bound.  `windows_iff` puts the
two together: for each check, at which times an event can be accepted out of its window.
-/

import SentinelMesh.Auth.SingleUse
import SentinelMesh.Circles.Schema

namespace SentinelMesh
namespace Auth

open Lib
open Circles (validateKeyWrapV2 keyWrapFreshnessSecs IsWrap)

/-! ### The arithmetic of an age -/

/-- The wrapped difference of a time and a clock. -/
theorem age_eq {now : ℤ} (hnow : 0 ≤ now ∧ now < 2 ^ 63) {c : ℕ} (hc : c < 2 ^ 64) :
    wrap 64 (now - wrap 64 c) = if (c : ℤ) ≤ now + 2 ^ 63 then now - c else now + 2 ^ 64 - c := by
  have hmod : wrap 64 (now - wrap 64 c) = wrap 64 (now - c) := by
    unfold wrap
    exact Int.sub_bmod_bmod ..
  have hc : (c : ℤ) < 2 ^ 64 := by exact_mod_cast hc
  rw [hmod]
  split_ifs with hahead
  · exact wrap_of_mem (w := 63) ⟨by omega, by omega⟩
  · -- one turn further the difference is in range
    have hturn := wrap_sub_two_pow 64 (now + 2 ^ 64 - c)
    rw [show now + 2 ^ 64 - (c : ℤ) - 2 ^ 64 = now - c by ring] at hturn
    rw [hturn]
    exact wrap_of_mem (w := 63) ⟨by omega, by omega⟩

/-- `abs` of the least number is that number. -/
theorem absI64_le_iff {d k : ℤ} (hd : InRange 63 d) (hk : 0 ≤ k) :
    absI64 d ≤ k ↔ d = -2 ^ 63 ∨ |d| ≤ k := by
  obtain ⟨hlow, hhigh⟩ := hd
  unfold absI64
  by_cases hleast : d = -2 ^ 63
  · subst hleast
    have hturn := wrap_sub_two_pow 64 (2 ^ 63)
    rw [show (2 : ℤ) ^ 63 - 2 ^ 64 = -2 ^ 63 by norm_num,
      wrap_of_mem (w := 63) ⟨le_refl _, by norm_num⟩] at hturn
    rw [show |(-2 ^ 63 : ℤ)| = 2 ^ 63 by norm_num, ← hturn]
    exact iff_of_true (by linarith [show (0 : ℤ) ≤ 2 ^ 63 by norm_num]) (Or.inl rfl)
  · have habs : |d| < 2 ^ 63 := abs_lt.2 ⟨by omega, hhigh⟩
    rw [wrap_of_mem (w := 63) ⟨by linarith [abs_nonneg d], habs⟩]
    exact ⟨Or.inr, fun h => h.resolve_left hleast⟩

/-- **When a distance is accepted**: the times that are taken for near ones are the one whose
difference has no absolute value, and those just below `2^64` as long as the clock is near zero. -/
theorem distance_le_iff {now : ℤ} (hnow : 0 ≤ now ∧ now < 2 ^ 63) {c : ℕ} (hc : c < 2 ^ 64) :
    absI64 (wrap 64 (now - wrap 64 c)) ≤ 60 ↔
      |now - c| ≤ 60 ∨ (c : ℤ) = now + 2 ^ 63 ∨ now + 2 ^ 64 - c ≤ 60 := by
  have hc' : (c : ℤ) < 2 ^ 64 := by exact_mod_cast hc
  rw [absI64_le_iff (wrap_mem 63 _) (by norm_num), age_eq hnow hc]
  simp only [abs_le]
  split_ifs with hahead <;> omega

/-- When an age is accepted. -/
theorem age_le_iff {now max_age : ℤ} (hnow : 0 ≤ now ∧ now < 2 ^ 63) (hmax : max_age < 2 ^ 63)
    {c : ℕ} (hc : c < 2 ^ 64) :
    ¬ (wrap 64 (now - wrap 64 c) > max_age ∨ wrap 64 (now - wrap 64 c) < -10) ↔
      (-10 ≤ now - c ∧ now - c ≤ max_age) ∨ now + 2 ^ 64 - c ≤ max_age := by
  have hc' : (c : ℤ) < 2 ^ 64 := by exact_mod_cast hc
  rw [age_eq hnow hc]
  split_ifs with hahead <;> omega

/-! ### The checks -/

/-- What `validate_key_wrap_v2` accepts is at most 60 seconds from the clock. -/
def WrapWindow (now : Timestamp) (c : ℕ) : Prop :=
  ∀ verify owner circle_id epoch (raw : RawEvent) recipient, raw.created_at = c →
    validateKeyWrapV2 verify now owner circle_id epoch raw = .ok recipient → |seconds now - c| ≤ 60

/-- What `verify_ws_auth` accepts is. -/
def WsWindow (now : ℤ) (c : ℕ) : Prop :=
  ∀ env (raw : RawEvent) circle_id event, raw.created_at = c →
    checkWsAuth env now raw circle_id = .ok event → |now - c| ≤ 60

/-- What `verify_nostr_event` accepts is at most ten seconds ahead and `max_age` old. -/
def EventWindow (now : Timestamp) (max_age : ℤ) (c : ℕ) : Prop :=
  ∀ verify (raw : RawEvent) expected_pubkey, raw.created_at = c →
    verifyNostrEvent verify now raw expected_pubkey max_age = .ok () →
      -10 ≤ seconds now - c ∧ seconds now - c ≤ max_age

/-- What `validate_nip98_request` accepts is at most 60 seconds from the clock. -/
def Nip98Window (now : ℤ) (c : ℕ) : Prop :=
  ∀ env parts config (event : NostrEvent) auth, event.created_at = c →
    checkNip98 env now parts config event = .ok auth → |now - c| ≤ 60

theorem created_at_of_parse {raw : RawEvent} {event : NostrEvent} (h : raw.parse = some event) :
    event.created_at = raw.created_at := by
  unfold RawEvent.parse at h
  split_ifs at h
  rw [← Option.some.inj h]

theorem keyEvent_eq_ok {raw : RawEvent} {event : NostrEvent} (h : Circles.keyEvent raw = .ok event) :
    raw.parse = some event := by
  unfold Circles.keyEvent at h
  split at h
  · cases h
  · rename_i event' hparse
    rw [hparse, Except.ok.inj h]

/-- A wrap that is accepted was near in wrapping arithmetic. -/
theorem fresh_of_validate {verify : NostrEvent → Bool} {now : Timestamp} {owner : Pubkey}
    {circle_id : Uuid} {epoch : ℤ} {raw : RawEvent} {recipient : Pubkey}
    (h : validateKeyWrapV2 verify now owner circle_id epoch raw = .ok recipient) :
    absI64 (wrap 64 (seconds now - wrap 64 raw.created_at)) ≤ 60 := by
  unfold validateKeyWrapV2 at h
  simp only [bind_eq_ok, ensure_eq_ok, decide_eq_true_eq] at h
  obtain ⟨event, hevent, _, _, _, _, _, hfresh, _⟩ := h
  rw [created_at_of_parse (keyEvent_eq_ok hevent)] at hfresh
  exact hfresh

/-- So was an event that a socket is opened with. -/
theorem fresh_of_checkWsAuth {env : Env} {now : ℤ} {raw : RawEvent} {circle_id : Uuid}
    {event : NostrEvent} (h : checkWsAuth env now raw circle_id = .ok event) :
    absI64 (wrap 64 (now - wrap 64 raw.created_at)) ≤ 60 := by
  obtain ⟨hparse, _, hfresh⟩ := checkWsAuth_eq_ok h
  rw [← created_at_of_parse hparse]
  exact hfresh

/-- A time that `try_from` converts is not past the greatest `i64`. -/
theorem created_at_of_checkNip98 {env : Env} {now : ℤ} {parts : Parts} {config : Config}
    {event : NostrEvent} {auth : ValidatedNostrAuth}
    (h : checkNip98 env now parts config event = .ok auth) : (event.created_at : ℤ) < 2 ^ 63 := by
  unfold checkNip98 at h
  simp only [bind_eq_ok] at h
  obtain ⟨_, _, c, hc, _⟩ := h
  obtain ⟨rfl, hlt⟩ := createdAt_eq_ok hc
  exact hlt

/-! ### Events of any date -/

/-- An event of a kind with some tags, dated `c`. -/
def dated (kind : ℕ) (tags : List (List String)) (c : ℕ) : RawEvent :=
  { id := digits 64 '1', pubkey := digits 64 'a', created_at := c, kind, tags, content := "k",
    sig := digits 128 '0' }

/-- The event, parsed. -/
def datedEvent (kind : ℕ) (tags : List (List String)) (c : ℕ) : NostrEvent :=
  { id := digits 64 '1', pubkey := digits 64 'a', created_at := c, kind, tags, content := "k",
    sig := digits 128 '0' }

theorem parse_dated {kind : ℕ} (hkind : kind < 2 ^ 16) (tags : List (List String)) {c : ℕ}
    (hc : c < 2 ^ 64) : (dated kind tags c).parse = some (datedEvent kind tags c) := by
  have hid : isHex 64 (digits 64 '1') = true := isHex_digits (by decide) (by decide) 64
  have hkey : isHex 64 (digits 64 'a') = true := isHex_digits (by decide) (by decide) 64
  have hsig : isHex 128 (digits 128 '0') = true := isHex_digits (by decide) (by decide) 128
  have hid' : toAsciiLowercase (digits 64 '1') = digits 64 '1' := toAsciiLowercase_digits (by decide) 64
  have hkey' : toAsciiLowercase (digits 64 'a') = digits 64 'a' := toAsciiLowercase_digits (by decide) 64
  have hsig' : toAsciiLowercase (digits 128 '0') = digits 128 '0' :=
    toAsciiLowercase_digits (by decide) 128
  unfold RawEvent.parse dated
  dsimp only
  rw [hid, hkey, hsig, hid', hkey', hsig', decide_eq_true hc, decide_eq_true hkind]
  rfl

/-- The tags of a wrap for a member. -/
def wrapTags : List (List String) :=
  [["d", Circles.circleKeyEventTypeV2], ["circle", "c"], ["epoch", toString (1 : ℤ)],
    ["p", digits 64 'b']]

/-- A wrap that differs from an accepted one in its date alone. -/
theorem validate_dated {now : Timestamp} {c : ℕ} (hc : c < 2 ^ 64)
    (hfresh : absI64 (wrap 64 (seconds now - wrap 64 c)) ≤ 60) :
    validateKeyWrapV2 (fun _ => true) now (digits 64 'a') "c" 1
      (dated Circles.circleKeyEventKind wrapTags c) = .ok (digits 64 'b') := by
  have hlower : toAsciiLowercase (digits 64 'b') = digits 64 'b' := toAsciiLowercase_digits (by decide) 64
  have hhex : isHex 64 (digits 64 'b') = true := isHex_digits (by decide) (by decide) 64
  have hwrap : IsWrap (fun _ => true) (digits 64 'a') "c" 1 (digits 64 'b')
      (datedEvent Circles.circleKeyEventKind wrapTags c) :=
    ⟨rfl, rfl, rfl, rfl, rfl, rfl, digits 64 'b', rfl, hlower⟩
  have hcontent : "k" ≠ "" ∧ "k".utf8ByteSize ≤ Circles.maxKeyWrapContentLen := by decide
  have h := Circles.validateKeyWrapV2_of (p := digits 64 'b') (parse_dated (by decide) wrapTags hc)
    (hlower.symm ▸ hwrap) rfl (hlower.symm ▸ hhex) hfresh hcontent
  rwa [hlower] at h

/-- The tags of an authentication event. -/
def wsTags : List (List String) :=
  [["circle", "c"], ["nonce", "n"], ["u", "wss://mesh/ws/circles"], ["method", "GET"]]

/-- The same for an authentication event. -/
theorem checkWsAuth_dated {now : ℤ} {c : ℕ} (hc : c < 2 ^ 64)
    (hfresh : absI64 (wrap 64 (now - wrap 64 c)) ≤ 60) :
    checkWsAuth ⟨fun _ => true, id⟩ now (dated authKind wsTags c) "c" =
      .ok (datedEvent authKind wsTags c) := by
  have hparse : wsEvent (dated authKind wsTags c) = .ok (datedEvent authKind wsTags c) := by
    unfold wsEvent
    rw [parse_dated (by decide) wsTags hc]
  have hends : endsWith "wss://mesh/ws/circles" "/ws/circles" = true := by decide
  have hmethod : eqIgnoreAsciiCase "GET" "GET" = true := by decide
  unfold checkWsAuth
  simp only [bind_eq_ok, ensure_eq_ok, decide_eq_true_eq]
  exact ⟨_, hparse, (), rfl, (), hfresh, (), trivial, "c", rfl, (), rfl, "n", rfl,
    "wss://mesh/ws/circles", rfl, (), hends, "GET", rfl, (), hmethod, rfl⟩

/-- The same for an event that signs a request. -/
theorem verifyNostrEvent_dated {now : Timestamp} {max_age : ℤ} {c : ℕ} (hc : c < 2 ^ 64)
    (hage : ¬ (wrap 64 (seconds now - wrap 64 c) > max_age ∨
      wrap 64 (seconds now - wrap 64 c) < -10)) :
    verifyNostrEvent (fun _ => true) now (dated 1 [] c) (digits 64 'a') max_age = .ok () := by
  unfold verifyNostrEvent
  rw [parse_dated (by decide) [] hc]
  dsimp only [datedEvent]
  rw [if_neg (not_not.2 rfl), if_neg hage]
  rfl

/-! ### The windows -/

theorem wrapWindow_iff {now : Timestamp} {c : ℕ} (hc : c < 2 ^ 64) :
    WrapWindow now c ↔
      (absI64 (wrap 64 (seconds now - wrap 64 c)) ≤ 60 → |seconds now - c| ≤ 60) := by
  constructor
  · intro h hfresh
    exact h _ _ _ _ _ _ rfl (validate_dated hc hfresh)
  · rintro h verify owner circle_id epoch raw recipient rfl hok
    exact h (fresh_of_validate hok)

theorem wsWindow_iff {now : ℤ} {c : ℕ} (hc : c < 2 ^ 64) :
    WsWindow now c ↔ (absI64 (wrap 64 (now - wrap 64 c)) ≤ 60 → |now - c| ≤ 60) := by
  constructor
  · intro h hfresh
    exact h _ _ _ _ rfl (checkWsAuth_dated hc hfresh)
  · rintro h env raw circle_id event rfl hok
    exact h (fresh_of_checkWsAuth hok)

/-- A distance that is accepted is a distance, except at the times that are taken for near. -/
theorem near_iff {now : ℤ} (hnow : 0 ≤ now ∧ now < 2 ^ 63) {c : ℕ} (hc : c < 2 ^ 64) :
    (absI64 (wrap 64 (now - wrap 64 c)) ≤ 60 → |now - c| ≤ 60) ↔
      (c : ℤ) ≠ now + 2 ^ 63 ∧ 60 < now + 2 ^ 64 - c := by
  have hc' : (c : ℤ) < 2 ^ 64 := by exact_mod_cast hc
  rw [distance_le_iff hnow hc, abs_le]
  omega

theorem eventWindow_iff {now : Timestamp} {max_age : ℤ}
    (hnow : 0 ≤ seconds now ∧ seconds now < 2 ^ 63) (hmax : max_age < 2 ^ 63) {c : ℕ}
    (hc : c < 2 ^ 64) : EventWindow now max_age c ↔ max_age < seconds now + 2 ^ 64 - c := by
  have hc' : (c : ℤ) < 2 ^ 64 := by exact_mod_cast hc
  have hage := age_le_iff hnow hmax hc
  constructor
  · intro h
    by_contra hold
    have hwindow := h _ _ _ rfl (verifyNostrEvent_dated hc (hage.2 (Or.inr (not_lt.1 hold))))
    omega
  · rintro hyoung verify raw expected_pubkey rfl hok
    obtain ⟨event, hparse, _, _⟩ := verifyNostrEvent_ok hok
    unfold verifyNostrEvent at hok
    rw [hparse] at hok
    dsimp only at hok
    split_ifs at hok with _ hin
    rw [created_at_of_parse hparse] at hin
    exact (hage.1 hin).resolve_right (not_le.2 hyoung)

/-- `try_from` refuses what would wrap. -/
theorem nip98Window {now : ℤ} (hnow : 0 ≤ now ∧ now < 2 ^ 63) (c : ℕ) : Nip98Window now c := by
  rintro env parts config event auth rfl hok
  have hlt := created_at_of_checkNip98 hok
  obtain ⟨_, _, hfresh⟩ := checkNip98_eq_ok hok
  have hlt' : event.created_at < 2 ^ 64 := by
    have : event.created_at < 2 ^ 63 := by exact_mod_cast hlt
    omega
  rcases (distance_le_iff hnow hlt').1 hfresh with hnear | hfar | hold
  · exact hnear
  · omega
  · omega

/-- **When the windows mean what they say.**  A wrap or a socket's event dated exactly `2^63`
seconds ahead is accepted, and so is one dated just below `2^64` while the clock is within a minute
of zero; a signed request is wrong in the second way alone, and a NIP-98 event never. -/
theorem windows_iff (now : Timestamp) (hnow : 0 ≤ seconds now ∧ seconds now < 2 ^ 63) (c : ℕ)
    (hc : c < 2 ^ 64) (max_age : ℤ) (hmax : max_age < 2 ^ 63) :
    (WrapWindow now c ↔ (c : ℤ) ≠ seconds now + 2 ^ 63 ∧ 60 < seconds now + 2 ^ 64 - c) ∧
      (WsWindow (seconds now) c ↔
        (c : ℤ) ≠ seconds now + 2 ^ 63 ∧ 60 < seconds now + 2 ^ 64 - c) ∧
      (EventWindow now max_age c ↔ max_age < seconds now + 2 ^ 64 - c) ∧
      Nip98Window (seconds now) c := by
  refine ⟨?_, ?_, eventWindow_iff hnow hmax hc, nip98Window hnow c⟩
  · rw [wrapWindow_iff hc, near_iff hnow hc]
  · rw [wsWindow_iff hc, near_iff hnow hc]

/-- The windows for an event of the clock's own second, at the start of 2026. -/
theorem windows_iff_now :
    (WrapWindow 1767225600000000 1767225600 ↔
        ((1767225600 : ℕ) : ℤ) ≠ seconds 1767225600000000 + 2 ^ 63 ∧
          60 < seconds 1767225600000000 + 2 ^ 64 - (1767225600 : ℕ)) ∧
      (WsWindow (seconds 1767225600000000) 1767225600 ↔
        ((1767225600 : ℕ) : ℤ) ≠ seconds 1767225600000000 + 2 ^ 63 ∧
          60 < seconds 1767225600000000 + 2 ^ 64 - (1767225600 : ℕ)) ∧
      (EventWindow 1767225600000000 300 1767225600 ↔
        300 < seconds 1767225600000000 + 2 ^ 64 - (1767225600 : ℕ)) ∧
      Nip98Window (seconds 1767225600000000) 1767225600 :=
  windows_iff 1767225600000000 (by decide) 1767225600 (by decide) 300 (by decide)

/-- **A wrap of the far future is fresh**: at the start of 2026, dated `2^63` seconds later. -/
theorem far_wrap_accepted :
    validateKeyWrapV2 (fun _ => true) 1767225600000000 (digits 64 'a') "c" 1
        (dated Circles.circleKeyEventKind wrapTags (2 ^ 63 + 1767225600)) = .ok (digits 64 'b') ∧
      ¬ |seconds 1767225600000000 - ((2 ^ 63 + 1767225600 : ℕ) : ℤ)| ≤ 60 :=
  ⟨validate_dated (by decide) (by decide), by decide⟩

end Auth
end SentinelMesh
