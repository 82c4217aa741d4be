/-
# A ciphertext that is accepted again

`push_envelope` refuses a ciphertext whose hash another row of `location_blobs`
has.  The rows are its only memory, and a row goes: the next push of its sender
overwrites it, a rotation, a departure and the deletion of the circle purge it,
the retention worker deletes it.  And a sender's own row never counts against
it, because the insert is an update of that row.

`accepted` lists the envelopes a run wrote.  `written_once` is that no two of
them have the same bytes exactly if, whenever a push writes bytes that were
accepted before, the row of that time is still in place and is another
sender's (`Remembers`).
-/

import SentinelMesh.Circles.Rows

namespace SentinelMesh
namespace Circles

open Lib

/-- The decoded ciphertext of an envelope. -/
def Envelope.bytes (env : Env) (e : Envelope) : Option (List UInt8) := env.decode e.ciphertext

/-- The envelope an event writes: that of a push which is answered with success. -/
def writes (env : Env) (e : Event Sys Act) : Option Envelope :=
  match e.act with
  | .writeEnvelope i => if Succeeds env e.pre e.act then e.pre.pushes[i]? else none
  | _ => none

/-- The envelopes a run accepts, in order. -/
def accepted (env : Env) (s : Sys) (as : List Act) : List Envelope :=
  (events (step env) s as).filterMap (writes env)

/-- **Once**: no two accepted pushes carry the same bytes. -/
def AcceptedOnce (env : Env) (s : Sys) (as : List Act) : Prop :=
  (accepted env s as).Pairwise fun e e' => e.bytes env ≠ e'.bytes env

/-- The row that an accepted envelope wrote is as it wrote it, and is not the row the new one goes to. -/
structure InPlace (db : Db) (old e : Envelope) : Prop where
  other : old.key ≠ e.key
  stored : db.blobs.find? old.key = some old.blob

/-- The condition on a step: a push comes to its write with bytes accepted before only while the row
of that time is in place. -/
def Remembers (env : Env) (s : Sys) (before : List Envelope) : Act → Prop
  | .writeEnvelope i => ∀ e ∈ s.pushes[i]?, (s.db.circles.find? e.circle_id).isSome = true →
      ∀ old ∈ before, old.bytes env = e.bytes env → InPlace s.db old e
  | _ => True

/-! ### What a push has hashed -/

/-- The hash of an envelope is that of its bytes. -/
def Hashed (env : Env) (e : Envelope) : Prop :=
  ∃ decoded, e.bytes env = some decoded ∧ e.ciphertext_hash = env.sha256 decoded

theorem decode_of_validateBody {env : Env} {len : ℕ} {body : Option PushEnvelopeBody}
    {now : Timestamp} {value : PushEnvelopeBody} {decoded : List UInt8}
    (h : validateBody env len body now = .ok (value, decoded)) :
    env.decode value.ciphertext = some decoded := by
  unfold validateBody at h
  simp only [bind_eq_ok, ensure_eq_ok] at h
  obtain ⟨_, _, value', _, _, _, decoded', hdecoded, _, _, _, _, hret⟩ := h
  obtain ⟨rfl, rfl⟩ := Prod.mk.inj (Except.ok.inj hret)
  unfold decodeCiphertext at hdecoded
  split at hdecoded
  · cases hdecoded
  · rename_i decoded hd
    rw [hd, Except.ok.inj hdecoded]

theorem hashed_pushEnvelope {env : Env} {enabled : Bool} {now : Timestamp} {redis : Option Bool}
    {db : Db} {circle_id : Uuid} {len : ℕ} {req : Request PushEnvelopeBody} {e : Envelope}
    (h : pushEnvelope env enabled now redis db circle_id len req = .ok e) : Hashed env e := by
  unfold pushEnvelope at h
  simp only [bind_eq_ok, ensure_eq_ok] at h
  obtain ⟨_, _, _, _, ⟨body, decoded⟩, hbody, h⟩ := h
  have hdecoded := decode_of_validateBody hbody
  dsimp only at h
  split at h
  · cases h
  · simp only [bind_eq_ok, ensure_eq_ok] at h
    obtain ⟨_, _, _, _, _, _, hret⟩ := h
    obtain rfl := Except.ok.inj hret
    exact ⟨decoded, hdecoded, rfl⟩

/-- Equal bytes have equal hashes. -/
theorem hash_eq_of_bytes_eq {env : Env} {e e' : Envelope} (he : Hashed env e) (he' : Hashed env e')
    (h : e.bytes env = e'.bytes env) : e.ciphertext_hash = e'.ciphertext_hash := by
  obtain ⟨b, hb, hhash⟩ := he
  obtain ⟨b', hb', hhash'⟩ := he'
  obtain rfl : b = b' := Option.some.inj (hb.symm.trans (h.trans hb'))
  exact hhash.trans hhash'.symm

/-- Where no two byte strings have one hash, equal hashes are of equal bytes. -/
theorem bytes_eq_of_hash_eq {env : Env} (hinj : Function.Injective env.sha256) {e e' : Envelope}
    (he : Hashed env e) (he' : Hashed env e') (h : e.ciphertext_hash = e'.ciphertext_hash) :
    e.bytes env = e'.bytes env := by
  obtain ⟨b, hb, hhash⟩ := he
  obtain ⟨b', hb', hhash'⟩ := he'
  rw [hb, hb', hinj (hhash.symm.trans (h.trans hhash'))]

/-- A push that waits to write was waiting before, or has just been checked. -/
theorem pushes_step {env : Env} {s : Sys} {a : Act} {e : Envelope} (h : e ∈ (step env s a).pushes) :
    e ∈ s.pushes ∨ Hashed env e := by
  unfold step at h
  cases a with
  | createCircle id req =>
      unfold exec at h
      dsimp only at h
      split at h <;> exact Or.inl h
  | setEncryption id req =>
      unfold exec at h
      dsimp only at h
      split at h <;> exact Or.inl h
  | writeEncryption i =>
      unfold exec at h
      dsimp only at h
      split at h <;> exact Or.inl h
  | pushEnvelope id len req enabled redis checkedAgo =>
      unfold exec at h
      dsimp only at h
      split at h
      · rename_i e' hpush
        rcases List.mem_append.1 h with hold | hnew
        · exact Or.inl hold
        · rw [List.mem_singleton.1 hnew]
          exact Or.inr (hashed_pushEnvelope hpush)
      · exact Or.inl h
  | writeEnvelope i =>
      unfold exec at h
      dsimp only at h
      split at h
      · exact Or.inl (List.mem_of_mem_eraseIdx h)
      · exact Or.inl h
  | _ => exact Or.inl h

/-! ### When a write is accepted -/

theorem run_writeEnvelope {e : Envelope} {db : Db}
    (hcircle : (db.circles.find? e.circle_id).isSome = true) (hnew : db.replayed e = false) :
    (writeEnvelope e).run db = .ok (e.blob, db.publish e) := by
  unfold writeEnvelope
  simp only [Txn.run_bind_eq_ok, Txn.run_get_eq_ok, Txn.run_require_eq_ok, Txn.run_modify_eq_ok,
    Txn.run_pure_eq_ok]
  exact ⟨_, _, ⟨rfl, rfl⟩, (), _, ⟨hcircle, rfl⟩, (), _, ⟨by rw [hnew]; rfl, rfl⟩, ⟨⟩, _,
    rfl, trivial, rfl⟩

theorem not_replayed_of_run {e : Envelope} {db db' : Db} {b : Blob}
    (h : (writeEnvelope e).run db = .ok (b, db')) : db.replayed e = false := by
  unfold writeEnvelope at h
  simp only [Txn.run_bind_eq_ok, Txn.run_get_eq_ok, Txn.run_require_eq_ok] at h
  obtain ⟨_, _, ⟨rfl, rfl⟩, _, _, ⟨_, rfl⟩, _, _, ⟨hnew, rfl⟩, _⟩ := h
  simpa using hnew

/-- **A write is accepted** if the circle is there and no other row has the hash. -/
theorem succeeds_writeEnvelope {env : Env} {s : Sys} {i : ℕ} {e : Envelope}
    (hpending : s.pushes[i]? = some e) :
    Succeeds env s (.writeEnvelope i) ↔
      (s.db.circles.find? e.circle_id).isSome = true ∧ s.db.replayed e = false := by
  have hexec : exec env s (.writeEnvelope i) =
      Sys.transact { s with pushes := s.pushes.eraseIdx i } (writeEnvelope e)
        fun blob => [(e.circle_id, .locationEnvelope blob)] := by
    unfold exec
    simp only [hpending]
  unfold Succeeds
  rw [hexec]
  constructor
  · rintro ⟨out, h⟩
    obtain ⟨blob, hrun, -⟩ := transact_of_ok h
    exact ⟨(run_writeEnvelope_eq_ok hrun).1, not_replayed_of_run hrun⟩
  · rintro ⟨hcircle, hnew⟩
    have hrun := transact_of_run { s with pushes := s.pushes.eraseIdx i }
      (fun blob => [(e.circle_id, .locationEnvelope blob)]) (run_writeEnvelope hcircle hnew)
    exact ⟨_, congrArg Prod.snd hrun⟩

theorem replayed_iff {db : Db} {e : Envelope} : db.replayed e = true ↔
    ∃ k b, db.blobs.find? k = some b ∧ k ≠ e.key ∧ b.ciphertext_hash = e.ciphertext_hash := by
  unfold Db.replayed
  rw [List.any_eq_true]
  constructor
  · rintro ⟨⟨k, b⟩, hrow, hsame⟩
    obtain ⟨hk, hhash⟩ := of_decide_eq_true hsame
    exact ⟨k, b, Table.find?_eq_some_iff.2 hrow, hk, hhash⟩
  · rintro ⟨k, b, hrow, hk, hhash⟩
    exact ⟨(k, b), Table.find?_eq_some_iff.1 hrow, decide_eq_true ⟨hk, hhash⟩⟩

theorem writes_eq_some {env : Env} {s s' : Sys} {a : Act} {e : Envelope} :
    writes env ⟨s, a, s'⟩ = some e ↔
      ∃ i, a = .writeEnvelope i ∧ Succeeds env s a ∧ s.pushes[i]? = some e := by
  unfold writes
  constructor
  · intro h
    split at h
    · rename_i i ha
      split_ifs at h with hs
      exact ⟨i, ha, hs, h⟩
    · cases h
  · rintro ⟨i, rfl, hs, hpending⟩
    exact (if_pos hs).trans hpending

theorem accepted_concat (env : Env) (s : Sys) (as : List Act) (a : Act) :
    accepted env s (as ++ [a]) = accepted env s as ++
      (writes env ⟨run (step env) s as, a, step env (run (step env) s as) a⟩).toList := by
  unfold accepted
  rw [events_concat, List.filterMap_append]
  cases h : writes env ⟨run (step env) s as, a, step env (run (step env) s as) a⟩ <;> simp [h]

/-! ### What the rows remember -/

/-- Every envelope carries the hash of its bytes, and every row is one that was accepted. -/
structure Recorded (env : Env) (s : Sys) (before : List Envelope) : Prop where
  pending : ∀ e ∈ s.pushes, Hashed env e
  past : ∀ e ∈ before, Hashed env e
  rows : ∀ k b, s.db.blobs.find? k = some b → ∃ e ∈ before, e.key = k ∧ e.blob = b

theorem recorded_step {env : Env} {s : Sys} {before : List Envelope} (h : Recorded env s before)
    (a : Act) :
    Recorded env (step env s a) (before ++ (writes env ⟨s, a, step env s a⟩).toList) where
  pending e he := (pushes_step he).elim (h.pending e) id
  past e he := by
    rcases List.mem_append.1 he with hold | hnew
    · exact h.past e hold
    · obtain ⟨i, -, -, hpending⟩ := writes_eq_some.1 (Option.mem_toList.1 hnew)
      exact h.pending e (List.mem_of_getElem? hpending)
  rows k b hrow := by
    rcases refused_or_change env s a with ⟨-, hdb⟩ | ⟨hs, -⟩
    · rw [hdb] at hrow
      obtain ⟨e, he, hkey, hblob⟩ := h.rows k b hrow
      exact ⟨e, List.mem_append_left _ he, hkey, hblob⟩
    · obtain ⟨id, t⟩ := k
      cases blob_of_step hrow with
      | published i e act pending circle tables key row =>
          have hwrites : writes env ⟨s, a, step env s a⟩ = some e :=
            writes_eq_some.2 ⟨i, act, hs, pending⟩
          exact ⟨e, List.mem_append_right _ (Option.mem_toList.2 hwrites), key, row.symm⟩
      | kept old stays =>
          obtain ⟨e, he, hkey, hblob⟩ := h.rows _ _ old
          exact ⟨e, List.mem_append_left _ he, hkey, hblob⟩

theorem recorded_run (env : Env) (now : Timestamp) (as : List Act) :
    Recorded env (run (step env) (Sys.init now) as) (accepted env (Sys.init now) as) := by
  induction as using List.reverseRecOn with
  | nil =>
      exact
        { pending := fun _ h => nomatch h
          past := fun _ h => nomatch h
          rows := fun _ _ h => nomatch h }
  | append_singleton as a ih =>
      rw [run_concat, accepted_concat]
      exact recorded_step ih a

theorem pairwise_toList {α : Type} {R : α → α → Prop} (o : Option α) : o.toList.Pairwise R := by
  cases o <;> simp

/-- A row in place that has the bytes of a push makes it a replay. -/
theorem InPlace.replayed {env : Env} {db : Db} {old e : Envelope} (h : InPlace db old e)
    (hold : Hashed env old) (he : Hashed env e) (hbytes : old.bytes env = e.bytes env) :
    db.replayed e = true :=
  replayed_iff.2 ⟨old.key, old.blob, h.stored, h.other, hash_eq_of_bytes_eq hold he hbytes⟩

/-- **A step that remembers accepts nothing again.** -/
theorem new_of_remembers {env : Env} {s : Sys} {before : List Envelope} {a : Act}
    (h : Recorded env s before) (hremembers : Remembers env s before a) {e : Envelope}
    (he : writes env ⟨s, a, step env s a⟩ = some e) :
    ∀ old ∈ before, old.bytes env ≠ e.bytes env := by
  intro old hold hbytes
  obtain ⟨i, rfl, hs, hpending⟩ := writes_eq_some.1 he
  obtain ⟨hcircle, hnew⟩ := (succeeds_writeEnvelope hpending).1 hs
  have hplace := hremembers e hpending hcircle old hold hbytes
  have hreplayed :=
    hplace.replayed (h.past old hold) (h.pending e (List.mem_of_getElem? hpending)) hbytes
  exact absurd (hreplayed.symm.trans hnew) (by simp)

/-- **A step remembers** if nothing was accepted twice and it accepts nothing again. -/
theorem remembers_of_new {env : Env} (hinj : Function.Injective env.sha256) {s : Sys}
    {before : List Envelope} {a : Act} (h : Recorded env s before)
    (honce : before.Pairwise fun e e' => e.bytes env ≠ e'.bytes env)
    (hnew : ∀ e, writes env ⟨s, a, step env s a⟩ = some e →
      ∀ old ∈ before, old.bytes env ≠ e.bytes env) :
    Remembers env s before a := by
  cases a with
  | writeEnvelope i =>
      intro e hpending hcircle old hold hbytes
      have hpending : s.pushes[i]? = some e := hpending
      have hreplayed : s.db.replayed e = true := by
        by_contra hno
        have hs : Succeeds env s (.writeEnvelope i) :=
          (succeeds_writeEnvelope hpending).2 ⟨hcircle, by simpa using hno⟩
        exact hnew e (writes_eq_some.2 ⟨i, rfl, hs, hpending⟩) old hold hbytes
      obtain ⟨k, b, hrow, hk, hhash⟩ := replayed_iff.1 hreplayed
      obtain ⟨w, hw, rfl, rfl⟩ := h.rows k b hrow
      have hsame : w.bytes env = e.bytes env :=
        bytes_eq_of_hash_eq hinj (h.past w hw) (h.pending e (List.mem_of_getElem? hpending)) hhash
      -- the row is that of the earlier push: no other had these bytes
      obtain rfl : w = old := by
        by_contra hne
        have : Std.Symm fun e e' : Envelope => e.bytes env ≠ e'.bytes env :=
          ⟨fun _ _ h => Ne.symm h⟩
        exact honce.forall hw hold hne (hsame.trans hbytes.symm)
      exact ⟨hk, hrow⟩
  | _ => trivial

/-- **A ciphertext is accepted once** in a run whose pushes come to bytes accepted before only while the
row of that time is in place under another sender, and, hashes being of one byte string each, in no
other run. -/
theorem written_once (env : Env) (now : Timestamp) (as : List Act) :
    ((∀ bs a cs, as = bs ++ a :: cs →
        Remembers env (run (step env) (Sys.init now) bs) (accepted env (Sys.init now) bs) a) →
      AcceptedOnce env (Sys.init now) as) ∧
    (Function.Injective env.sha256 → AcceptedOnce env (Sys.init now) as →
      ∀ bs a cs, as = bs ++ a :: cs →
        Remembers env (run (step env) (Sys.init now) bs) (accepted env (Sys.init now) bs) a) := by
  constructor
  · intro hremembers
    induction as using List.reverseRecOn with
    | nil => exact List.Pairwise.nil
    | append_singleton as a ih =>
        have hlast := hremembers as a [] rfl
        have honce := ih fun bs b cs has => hremembers bs b (cs ++ [a]) (by simp [has])
        unfold AcceptedOnce
        rw [accepted_concat]
        refine List.pairwise_append.2 ⟨honce, pairwise_toList _, fun old hold e he => ?_⟩
        exact new_of_remembers (recorded_run env now as) hlast (Option.mem_toList.1 he) old hold
  · rintro hinj honce bs a cs rfl
    have hprefix : AcceptedOnce env (Sys.init now) (bs ++ [a]) := by
      have hsplit : bs ++ a :: cs = (bs ++ [a]) ++ cs := by simp
      rw [hsplit] at honce
      unfold AcceptedOnce accepted at honce ⊢
      rw [events_append, List.filterMap_append] at honce
      exact (List.pairwise_append.1 honce).1
    unfold AcceptedOnce at hprefix
    rw [accepted_concat] at hprefix
    obtain ⟨hbefore, -, hnew⟩ := List.pairwise_append.1 hprefix
    exact remembers_of_new hinj (recorded_run env now bs) hbefore
      fun e he old hold => hnew old hold e (Option.mem_toList.2 he)

/-- The owner pushes, and ten seconds later the same ciphertext again. -/
def pushTwice : List Act :=
  [.createCircle "c" (demoRequest demoOwner ⟨"n"⟩), demoCommit 0 2, demoPush demoOwner 2,
    .writeEnvelope 0, .tick 10000000, demoPush demoOwner 2, .writeEnvelope 0]

/-- **A ciphertext is accepted twice**: the sender's own row does not count against it. -/
theorem accepted_twice : ¬ AcceptedOnce demoEnv (Sys.init 0) pushTwice := by
  have hbytes : (accepted demoEnv (Sys.init 0) pushTwice).map (Envelope.bytes demoEnv) =
      [some [1], some [1]] := by decide
  intro h
  have hpairs := List.pairwise_map.2 h
  rw [hbytes] at hpairs
  exact absurd hpairs (by decide)

end Circles
end SentinelMesh
