/-
# Wraps the server stores and wraps the member opens

`validate_key_wrap_v2` of `routes/circles.rs` and the checks of `unwrapNip44CircleKey` of
`services/e2eeService.ts` before it decrypts, on the same event.

They read tags differently: `tag_values` skips a tag that carries no value, where `singleTag` counts
it, and the server compares the recipient in lower case.  The server reads the id and the signer
from hex of either case, the client as they are written.  `Canonical` is what is left to ask of an
event the server has stored (`stored_wrap_opens`).
-/

import SentinelMesh.Circles.Epoch
import SentinelMesh.Pwa.CircleKeys

namespace SentinelMesh
namespace Pwa
namespace CircleKeys

open Lib

/-! ### The checks before decryption -/

/-- The checks of `unwrapNip44CircleKey` on the event, with the epoch they leave. -/
def Libraries.opens (lib : Libraries) (secretKey : Bytes) (circleId : Uuid) (ownerPubkey : Pubkey)
    (event : RawEvent) : Option ℕ := do
  guard (isLowerHex64 ownerPubkey = true)
  guard (lib.verifyEvent event = true ∧ event.kind = Circles.circleKeyEventKind)
  guard (event.pubkey = toAsciiLowercase ownerPubkey)
  guard (singleTag event "d" = some Circles.circleKeyEventTypeV2 ∧
    singleTag event "circle" = some circleId ∧
    singleTag event "p" = some (toAsciiLowercase (lib.publicKey secretKey)))
  keyEpoch event

theorem opens_eq_some_iff {lib : Libraries} {secretKey : Bytes} {circleId : Uuid}
    {ownerPubkey : Pubkey} {event : RawEvent} {n : ℕ} :
    lib.opens secretKey circleId ownerPubkey event = some n ↔
      isLowerHex64 ownerPubkey = true ∧
        (lib.verifyEvent event = true ∧ event.kind = Circles.circleKeyEventKind) ∧
        event.pubkey = toAsciiLowercase ownerPubkey ∧
        (singleTag event "d" = some Circles.circleKeyEventTypeV2 ∧
          singleTag event "circle" = some circleId ∧
          singleTag event "p" = some (toAsciiLowercase (lib.publicKey secretKey))) ∧
        keyEpoch event = some n := by
  unfold Libraries.opens
  simp only [Option.bind_eq_bind, Option.bind_eq_some_iff, Option.guard_eq_some', exists_const]

/-! ### Tags -/

/-- Each tag with the name carries a value. -/
def Valued (event : RawEvent) (name : String) : Prop :=
  ∀ tag ∈ event.tags, tag.head? = some name → tag[1]?.isSome = true

/-- A list that keeps one value, and loses none, has one element. -/
theorem eq_singleton_of_filterMap {α β : Type} {f : α → Option β} {l : List α} {v : β}
    (h : l.filterMap f = [v]) (hall : ∀ x ∈ l, (f x).isSome = true) : ∃ x, l = [x] ∧ f x = some v := by
  cases l with
  | nil => cases h
  | cons x xs =>
      obtain ⟨w, hw⟩ := Option.isSome_iff_exists.1 (hall x (List.mem_cons_self ..))
      rw [List.filterMap_cons_some hw] at h
      obtain ⟨rfl, hxs⟩ := List.cons.inj h
      have hnil : xs = [] := by
        refine List.eq_nil_iff_forall_not_mem.2 fun y hy => ?_
        have hsome := hall y (List.mem_cons_of_mem x hy)
        rw [List.filterMap_eq_nil_iff.1 hxs y hy] at hsome
        cases hsome
      exact ⟨x, by rw [hnil], hw⟩

/-- **One value to the server is one to the client** where each tag carries one. -/
theorem singleTag_iff_valued {raw : RawEvent} {event : NostrEvent} {name value : String}
    (htags : event.tags = raw.tags) (h : tagValues event name = [value]) :
    singleTag raw name = some value ↔ Valued raw name := by
  have hvalues : (raw.tags.filter fun tag => decide (tag.head? = some name)).filterMap
      (fun tag => tag[1]?) = [value] := by
    rw [← h, tagValues, htags, List.filterMap_filter]
    refine List.filterMap_congr fun tag _ => ?_
    simp only [decide_eq_true_eq]
  have hmem : ∀ tag, tag ∈ raw.tags.filter (fun tag => decide (tag.head? = some name)) ↔
      tag ∈ raw.tags ∧ tag.head? = some name := by
    intro tag
    rw [List.mem_filter, decide_eq_true_iff]
  unfold singleTag
  generalize raw.tags.filter (fun tag => decide (tag.head? = some name)) = tags at hvalues hmem ⊢
  constructor
  · intro hsingle tag htag hname
    have hin := (hmem tag).2 ⟨htag, hname⟩
    split at hsingle
    · rename_i only
      obtain rfl := List.mem_singleton.1 hin
      rw [hsingle]
      rfl
    · cases hsingle
  · intro hvalued
    obtain ⟨tag, rfl, htag⟩ := eq_singleton_of_filterMap hvalues fun tag hin =>
      hvalued tag ((hmem tag).1 hin).1 ((hmem tag).1 hin).2
    exact htag

theorem mem_tagValues {event : NostrEvent} {name value : String} :
    value ∈ tagValues event name ↔
      ∃ tag ∈ event.tags, tag.head? = some name ∧ tag[1]? = some value := by
  unfold tagValues
  rw [List.mem_filterMap]
  constructor
  · rintro ⟨tag, htag, hvalue⟩
    split_ifs at hvalue with hname
    exact ⟨tag, htag, hname, hvalue⟩
  · rintro ⟨tag, htag, hname, hvalue⟩
    exact ⟨tag, htag, (if_pos hname).trans hvalue⟩

theorem exists_tag_of_singleTag {raw : RawEvent} {name value : String}
    (h : singleTag raw name = some value) :
    ∃ tag ∈ raw.tags, tag.head? = some name ∧ tag[1]? = some value := by
  unfold singleTag at h
  split at h
  · rename_i tag hfilter
    have hin : tag ∈ raw.tags.filter fun tag => decide (tag.head? = some name) := by
      rw [hfilter]
      exact List.mem_singleton_self tag
    rw [List.mem_filter, decide_eq_true_iff] at hin
    exact ⟨tag, hin.1, hin.2, h⟩
  · cases h

/-- What a tag carries is the one value that the server reads. -/
theorem eq_of_tagValues {raw : RawEvent} {event : NostrEvent} {name value : String}
    (htags : event.tags = raw.tags) (h : tagValues event name = [value]) {tag : List String}
    (htag : tag ∈ raw.tags) (hname : tag.head? = some name) {v : String} (hv : tag[1]? = some v) :
    v = value := by
  have hin : v ∈ tagValues event name := mem_tagValues.2 ⟨tag, htags.symm ▸ htag, hname, hv⟩
  rw [h] at hin
  exact List.mem_singleton.1 hin

/-- The value that the client finds is the one that the server reads. -/
theorem eq_of_singleTag {raw : RawEvent} {event : NostrEvent} {name value v : String}
    (htags : event.tags = raw.tags) (h : tagValues event name = [value])
    (hv : singleTag raw name = some v) : v = value := by
  obtain ⟨tag, htag, hname, hread⟩ := exists_tag_of_singleTag hv
  exact eq_of_tagValues htags h htag hname hread

/-- The epoch of a wrap is read back as it was written. -/
theorem keyEpoch_of_tag {event : RawEvent} {epoch : ℤ} (hpos : 0 < epoch)
    (h : singleTag event "epoch" = some (toString epoch)) : keyEpoch event = some epoch.toNat := by
  obtain ⟨n, rfl⟩ := Int.eq_ofNat_of_zero_le hpos.le
  obtain ⟨hdigits, hvalue⟩ := CircleLocation.isDigits_toString n
  have htext : toString (n : ℤ) = toString n := rfl
  rw [htext] at h
  unfold keyEpoch
  rw [h]
  simp only [Option.bind_eq_bind, Option.bind_some, hdigits, guard_true, Option.pure_def, hvalue,
    Int.toNat_natCast]

/-! ### The server's wraps -/

/-- **What the client asks of a wrap beyond the server.**  The id, the signer and the recipient are
in lower case, and no tag that the wrap is bound with lacks its value. -/
structure Canonical (event : RawEvent) : Prop where
  id : toAsciiLowercase event.id = event.id
  pubkey : toAsciiLowercase event.pubkey = event.pubkey
  recipient : ∀ tag ∈ event.tags, tag.head? = some "p" → ∀ p ∈ tag[1]?, toAsciiLowercase p = p
  valued : ∀ name ∈ ["d", "circle", "epoch", "p"], Valued event name

/-- What a parsed event keeps of the text. -/
theorem parse_eq_some {raw : RawEvent} {event : NostrEvent} (h : raw.parse = some event) :
    isHex 64 raw.pubkey = true ∧ event.id = toAsciiLowercase raw.id ∧
      event.pubkey = toAsciiLowercase raw.pubkey ∧ event.kind = raw.kind ∧ event.tags = raw.tags := by
  unfold RawEvent.parse at h
  split_ifs at h with hchecks
  simp only [Bool.and_eq_true] at hchecks
  obtain rfl := Option.some.inj h
  exact ⟨hchecks.1.1.1.2, rfl, rfl, rfl, rfl⟩

theorem parse_with_tags (raw : RawEvent) (tags : List (List String)) :
    ({ raw with tags } : RawEvent).parse = raw.parse.map fun event => { event with tags } := by
  unfold RawEvent.parse
  dsimp only
  split_ifs <;> rfl

/-- `verifyEvent` of `nostr-tools` is that of the server, for ids and keys written in lower case. -/
def SameVerifier (env : Circles.Env) (lib : Libraries) : Prop :=
  ∀ raw event, raw.parse = some event →
    (lib.verifyEvent raw = true ↔
      env.verify event = true ∧ raw.id = event.id ∧ raw.pubkey = event.pubkey)

/-- A wrap for the key of the client passes its checks if and only if it is canonical. -/
theorem opens_iff_canonical {env : Circles.Env} {lib : Libraries} (hverify : SameVerifier env lib)
    {secretKey : Bytes} {id : Uuid} {owner : Pubkey} {epoch : ℤ} {raw : RawEvent}
    {event : NostrEvent} (hpos : 0 < epoch) (hparse : raw.parse = some event)
    (hwrap : Circles.IsWrap env.verify owner id epoch (lib.publicKey secretKey) event) :
    (lib.opens secretKey id owner raw).isSome = true ↔ Canonical raw := by
  obtain ⟨hhex, hid, hpubkey, hkind, htags⟩ := parse_eq_some hparse
  obtain ⟨p, hp, hrecipient⟩ := hwrap.recipient
  have hlower : toAsciiLowercase (lib.publicKey secretKey) = lib.publicKey secretKey := by
    rw [← hrecipient, toAsciiLowercase_toAsciiLowercase]
  have howner : owner = toAsciiLowercase raw.pubkey := hwrap.signer.symm.trans hpubkey
  rw [Option.isSome_iff_exists]
  constructor
  · rintro ⟨n, hopens⟩
    obtain ⟨-, ⟨hsig, -⟩, -, ⟨hd, hcircle, hpTag⟩, hepoch⟩ := opens_eq_some_iff.1 hopens
    obtain ⟨-, hid', hpubkey'⟩ := (hverify raw event hparse).1 hsig
    have hpEq : toAsciiLowercase (lib.publicKey secretKey) = p := eq_of_singleTag htags hp hpTag
    have hpSelf : toAsciiLowercase p = p := by
      rw [hrecipient, ← hlower, hpEq]
    refine ⟨hid.symm.trans hid'.symm, hpubkey.symm.trans hpubkey'.symm, ?_, ?_⟩
    · intro tag htag hname q hq
      rw [eq_of_tagValues htags hp htag hname hq, hpSelf]
    · have hepochTag : ∃ value, singleTag raw "epoch" = some value := by
        unfold keyEpoch at hepoch
        obtain ⟨value, hvalue, -⟩ := Option.bind_eq_some_iff.1 hepoch
        exact ⟨value, hvalue⟩
      obtain ⟨value, hvalue⟩ := hepochTag
      have hvalueEq : value = toString epoch := eq_of_singleTag htags hwrap.epoch hvalue
      simp only [List.forall_mem_cons, List.not_mem_nil, false_implies, implies_true, and_true]
      refine ⟨(singleTag_iff_valued htags hwrap.purpose).1 hd,
        (singleTag_iff_valued htags hwrap.circle).1 hcircle,
        (singleTag_iff_valued htags hwrap.epoch).1 (hvalueEq ▸ hvalue),
        (singleTag_iff_valued htags hp).1 (hpEq ▸ hpTag)⟩
  · intro h
    have hownerRaw : owner = raw.pubkey := howner.trans h.pubkey
    have hvalued : ∀ name ∈ ["d", "circle", "epoch", "p"], Valued raw name := h.valued
    simp only [List.forall_mem_cons, List.not_mem_nil, false_implies, implies_true,
      and_true] at hvalued
    obtain ⟨hd, hcircle, hepoch, hpValued⟩ := hvalued
    have hpTag : singleTag raw "p" = some p := (singleTag_iff_valued htags hp).2 hpValued
    have hpSelf : toAsciiLowercase p = p := by
      obtain ⟨tag, htag, hname, hvalue⟩ := exists_tag_of_singleTag hpTag
      exact h.recipient tag htag hname p hvalue
    refine ⟨epoch.toNat, opens_eq_some_iff.2 ⟨?_, ⟨?_, ?_⟩, ?_, ⟨?_, ?_, ?_⟩, ?_⟩⟩
    · unfold isLowerHex64
      rw [hownerRaw, hhex, h.pubkey]
      simp
    · exact (hverify raw event hparse).2
        ⟨hwrap.verified, (hid.trans h.id).symm, (hpubkey.trans h.pubkey).symm⟩
    · rw [← hkind, hwrap.kind]
    · rw [hownerRaw, h.pubkey]
    · exact (singleTag_iff_valued htags hwrap.purpose).2 hd
    · exact (singleTag_iff_valued htags hwrap.circle).2 hcircle
    · rw [hpTag, hlower, ← hrecipient, hpSelf]
    · exact keyEpoch_of_tag hpos ((singleTag_iff_valued htags hwrap.epoch).2 hepoch)

/-! ### Every reachable state -/

/-- The epochs of the wraps in the rows of members are positive. -/
def WrapEpochs (db : Circles.Db) : Prop :=
  ∀ id t m epoch, db.members.find? (id, t) = some m → m.key_wrap_epoch = some epoch → 0 < epoch

theorem wrapEpochs_step {env : Circles.Env} {s : Circles.Sys} (a : Circles.Act)
    (hkeyed : Circles.Keyed env s.db) (h : WrapEpochs s.db) :
    WrapEpochs (Circles.step env s a).db := by
  intro id t m' epoch hm hepoch
  cases Circles.member_of_step hm with
  | invited req c b body circle joined act hs ok token row =>
      have hpos := (hkeyed.epochs id circle ok.found).1
      rw [← ok.current] at hpos
      rw [row] at hepoch
      obtain rfl : body.key_wrap_epoch = epoch := Option.some.inj hepoch
      exact hpos
  | kept m old same stays =>
      have hwrap : m'.key_wrap_epoch = m.key_wrap_epoch := congrArg (fun k => k.2.1) same
      exact h id t m epoch old (hwrap.symm.trans hepoch)
  | accepted auth b circle m now act hs token ok row =>
      rw [row] at hepoch
      exact h id t m epoch ok.invited hepoch
  | passed req ago body circle m act hs ok old same out =>
      have hwrap : m'.key_wrap_epoch = m.key_wrap_epoch := congrArg (fun k => k.2.1) same
      exact h id t m epoch old (hwrap.symm.trans hepoch)
  | rewrapped req ago body circle m w act hs ok old mem token row =>
      have hwrap : m'.key_wrap_epoch = some body.next_epoch := congrArg (fun k => k.2.1) row
      obtain rfl : body.next_epoch = epoch := Option.some.inj (hwrap.symm.trans hepoch)
      exact ok.positive

theorem wrapEpochs_run (env : Circles.Env) (now : Timestamp) (as : List Circles.Act) :
    WrapEpochs (run (Circles.step env) (Circles.Sys.init now) as).db := by
  have hboth : Circles.Keyed env (run (Circles.step env) (Circles.Sys.init now) as).db ∧
      WrapEpochs (run (Circles.step env) (Circles.Sys.init now) as).db := by
    refine run_induction (P := fun s : Circles.Sys => Circles.Keyed env s.db ∧ WrapEpochs s.db)
      ⟨Circles.keyed_init env now, ?_⟩ ?_ as
    · intro id t m epoch hm
      cases hm
    · intro s a h
      exact ⟨Circles.keyed_step a h.1, wrapEpochs_step a h.1 h.2⟩
  exact hboth.2

/-- **Of the wraps the server stores, a member opens the canonical ones.**  In every reachable
state, the client behind the token of a row that trusts the owner gets to the decryption of its wrap
if and only if the wrap is canonical. -/
theorem stored_wrap_opens (env : Circles.Env) (lib : Libraries)
    (htoken : ∀ id, Function.Injective (env.circleToken id)) (hverify : SameVerifier env lib)
    (now : Timestamp) (as : List Circles.Act) {id : Uuid} {t : Circles.Token} {c : Circles.Circle}
    {m : Circles.Member} {raw : RawEvent} {owner : Pubkey} {secretKey : Bytes}
    (hc : (run (Circles.step env) (Circles.Sys.init now) as).db.circles.find? id = some c)
    (hm : (run (Circles.step env) (Circles.Sys.init now) as).db.members.find? (id, t) = some m)
    (hraw : m.key_wrap_event = some raw) (howner : env.circleToken id owner = c.owner_token)
    (hkey : env.circleToken id (lib.publicKey secretKey) = t) :
    (lib.opens secretKey id owner raw).isSome = true ↔ Canonical raw := by
  obtain ⟨c', hc', owner', recipient, epoch, raw', event, hw⟩ :=
    (Circles.keyed_run env now as).wraps id t m hm
  obtain rfl : c = c' := Option.some.inj (hc.symm.trans hc')
  obtain rfl : raw = raw' := Option.some.inj (hraw.symm.trans hw.wrap_event)
  obtain rfl : owner = owner' := htoken id (howner.trans hw.signer)
  obtain rfl : lib.publicKey secretKey = recipient := htoken id (hkey.trans hw.member)
  exact opens_iff_canonical hverify (wrapEpochs_run env now as id t m epoch hm hw.wrap_epoch)
    hw.parsed hw.wrap

/-! ### A member without the key -/

/-- The client of the member, whose verifier is that of the server. -/
def memberLibraries : Libraries where
  publicKey _ := Circles.demoMember
  verifyEvent raw := raw.parse.any fun event => Circles.demoEnv.verify event &&
    decide (raw.id = event.id) && decide (raw.pubkey = event.pubkey)
  decrypt _ _ _ := none
  parse _ := none
  atob _ := none

theorem sameVerifier_demo : SameVerifier Circles.demoEnv memberLibraries := by
  intro raw event hparse
  unfold memberLibraries
  simp only [hparse, Option.any_some, Bool.and_eq_true, decide_eq_true_eq, and_assoc]

/-- The wrap of the demo is canonical. -/
theorem canonical_demoWrap : Canonical (Circles.demoWrap 1) where
  id := toAsciiLowercase_digits (by decide) 64
  pubkey := toAsciiLowercase_digits (by decide) 64
  recipient := by
    simp only [Circles.demoWrap, List.forall_mem_cons, List.not_mem_nil, false_implies,
      implies_true, and_true]
    refine ⟨by decide, by decide, ?_, ?_⟩
    · intro h
      exact absurd h (by decide)
    · rintro - p hp
      obtain rfl : Circles.demoMember = p := Option.some.inj hp
      exact Circles.toAsciiLowercase_demoMember
  valued := by
    intro name _ tag htag _
    simp only [Circles.demoWrap, List.mem_cons, List.not_mem_nil, or_false] at htag
    rcases htag with rfl | rfl | rfl | rfl <;> rfl

/-- The member of the demo gets to the decryption of its wrap. -/
theorem stored_wrap_opens_joined :
    ((∀ id, Function.Injective (Circles.demoEnv.circleToken id)) ∧
      SameVerifier Circles.demoEnv memberLibraries) ∧
    (memberLibraries.opens [] "c" Circles.demoOwner (Circles.demoWrap 1)).isSome = true := by
  have hm : (run (Circles.step Circles.demoEnv) (Circles.Sys.init 0) Circles.demoJoin).db.members.find?
      ("c", Circles.demoToken Circles.demoMember) =
        some ((Circles.newMember 0 Circles.demoInvitation).accept 0) := by
    rw [Circles.run_demoJoin]
    exact Table.find?_eq_some_iff.2 (List.mem_singleton.2 (by simp))
  have hc : (run (Circles.step Circles.demoEnv) (Circles.Sys.init 0) Circles.demoJoin).db.circles.find?
      "c" = some Circles.demoCircle.bump.bump := by
    rw [Circles.run_demoJoin]
    rfl
  refine ⟨⟨Circles.demoToken_injective, sameVerifier_demo⟩, ?_⟩
  exact (stored_wrap_opens Circles.demoEnv memberLibraries Circles.demoToken_injective
    sameVerifier_demo 0 Circles.demoJoin hc hm rfl rfl rfl).2 canonical_demoWrap

/-- The wrap with a second tag `p`, which carries no value. -/
def strayWrap : RawEvent :=
  { Circles.demoWrap 1 with tags := (Circles.demoWrap 1).tags ++ [["p"]] }

/-- The invitation with that wrap. -/
def strayInvitation : Circles.AddMemberBody :=
  { Circles.demoInvitation with key_wrap_event := strayWrap }

/-- The member joins the circle with it. -/
def strayJoin : List Circles.Act :=
  [.createCircle "c" (Circles.demoRequest Circles.demoOwner ⟨"n"⟩),
    .addMember "c" (Circles.demoRequest Circles.demoOwner strayInvitation) 0 0,
    .acceptMember "c" (Circles.demoAuth Circles.demoMember) 0]

theorem validate_strayWrap :
    Circles.validateKeyWrapV2 Circles.demoEnv.verify 0 Circles.demoOwner "c" 1 strayWrap =
      .ok Circles.demoMember := by
  have hlower := Circles.toAsciiLowercase_demoMember
  have hparse : strayWrap.parse = some { Circles.demoEvent 1 with tags := strayWrap.tags } := by
    unfold strayWrap
    rw [parse_with_tags, Circles.parse_demoWrap]
    rfl
  have hwrap : Circles.IsWrap Circles.demoEnv.verify Circles.demoOwner "c" 1
      (toAsciiLowercase Circles.demoMember)
        { Circles.demoEvent 1 with tags := strayWrap.tags } :=
    { verified := by simp [Circles.demoEnv, Circles.demoEvent]
      signer := rfl
      kind := rfl
      purpose := rfl
      circle := rfl
      epoch := rfl
      recipient := ⟨Circles.demoMember, rfl, rfl⟩ }
  have hfresh : absI64 (wrap 64 (seconds 0 - wrap 64 (0 : ℕ))) ≤ Circles.keyWrapFreshnessSecs := by
    decide
  have hcontent : "k" ≠ "" ∧ "k".utf8ByteSize ≤ Circles.maxKeyWrapContentLen := by decide
  have h : Circles.validateKeyWrapV2 Circles.demoEnv.verify 0 Circles.demoOwner "c" 1 strayWrap =
      .ok (toAsciiLowercase Circles.demoMember) :=
    Circles.validateKeyWrapV2_of hparse hwrap rfl (hlower.symm ▸ Circles.isHex_demoMember) hfresh
      hcontent
  rwa [hlower] at h

/-- The server stores the wrap, and the client of the member, which is in the circle now, refuses
it before it decrypts. -/
theorem stray_wrap_stored :
    ((run (Circles.step Circles.demoEnv) (Circles.Sys.init 0) strayJoin).db.members.find?
        ("c", Circles.demoToken Circles.demoMember) =
      some ((Circles.newMember 0 strayInvitation).accept 0)) ∧
    ((Circles.newMember 0 strayInvitation).accept 0).membership_state = .active ∧
    ((Circles.newMember 0 strayInvitation).accept 0).key_wrap_event = some strayWrap ∧
    memberLibraries.opens [] "c" Circles.demoOwner strayWrap = none := by
  have hcreate : Circles.step Circles.demoEnv (Circles.Sys.init 0)
      (.createCircle "c" (Circles.demoRequest Circles.demoOwner ⟨"n"⟩)) =
        Circles.demoSys Circles.demoDb := congrArg Prod.fst Circles.exec_demoCreate
  have hinvite : Circles.step Circles.demoEnv (Circles.demoSys Circles.demoDb)
      (.addMember "c" (Circles.demoRequest Circles.demoOwner strayInvitation) 0 0) =
        Circles.demoSys (Circles.demoDb.invite 0 "c" (Circles.demoToken Circles.demoMember)
          strayInvitation) := by
    have hrun : (Circles.addMember Circles.demoEnv 0 0 "c"
        (Circles.demoRequest Circles.demoOwner strayInvitation)).run Circles.demoDb = .ok ((),
          Circles.demoDb.invite 0 "c" (Circles.demoToken Circles.demoMember) strayInvitation) :=
      Circles.run_invitation (c := Circles.demoCircle) rfl rfl rfl rfl validate_strayWrap
        (by decide) rfl
    exact congrArg Prod.fst (Circles.transact_of_run (Circles.demoSys Circles.demoDb) (fun _ => []) hrun)
  have haccept : Circles.step Circles.demoEnv (Circles.demoSys (Circles.demoDb.invite 0 "c"
      (Circles.demoToken Circles.demoMember) strayInvitation))
        (.acceptMember "c" (Circles.demoAuth Circles.demoMember) 0) =
          Circles.demoSys ((Circles.demoDb.invite 0 "c" (Circles.demoToken Circles.demoMember)
            strayInvitation).activate 0 "c" (Circles.demoToken Circles.demoMember)) := by
    have hepoch : strayInvitation.key_wrap_epoch = Circles.demoCircle.bump.key_epoch := rfl
    have hrun : (Circles.acceptMember Circles.demoEnv 0 "c" (Circles.demoAuth Circles.demoMember)).run
        (Circles.demoDb.invite 0 "c" (Circles.demoToken Circles.demoMember) strayInvitation) = .ok ((),
          (Circles.demoDb.invite 0 "c" (Circles.demoToken Circles.demoMember)
            strayInvitation).activate 0 "c" (Circles.demoToken Circles.demoMember)) :=
      Circles.run_acceptance (c := Circles.demoCircle.bump) rfl hepoch
        (Table.find?_eq_some_iff.2 (List.mem_singleton.2 rfl)) rfl
    exact congrArg Prod.fst (Circles.transact_of_run (Circles.demoSys (Circles.demoDb.invite 0 "c"
      (Circles.demoToken Circles.demoMember) strayInvitation)) (fun _ => []) hrun)
  refine ⟨?_, rfl, rfl, ?_⟩
  · unfold strayJoin
    rw [run_cons, run_cons, run_cons, run_nil, hcreate, hinvite, haccept]
    exact Table.find?_eq_some_iff.2 (List.mem_singleton.2 (by simp))
  · have hp : singleTag strayWrap "p" = none := rfl
    rw [Option.eq_none_iff_forall_ne_some]
    intro n hopens
    have hpTag := (opens_eq_some_iff.1 hopens).2.2.2.1.2.2
    rw [hp] at hpTag
    cases hpTag

end CircleKeys
end Pwa
end SentinelMesh
