/-
# Stored locations

Whether the envelopes in `location_blobs` are of their circle's current epoch and
of senders that belong to it (`Located`).

A rotation deletes the envelopes of the circle and a departure those of the
member, but a push writes what it checked some time before, under no lock: an
envelope of the epoch before can be stored after the rotation
(`stale_envelope_stored`), and one of a member after its removal.  An invitation
of an active member makes it a pending one and leaves its envelope.  `fresh` is
the condition that keeps both out, on the state before a step, and `located_run`
says that it is enough, over whole runs.
-/

import SentinelMesh.Circles.Rows

namespace SentinelMesh
namespace Circles

open Lib

/-- **No stale or unauthorised location**: an envelope is of its circle's epoch, and
its sender is the owner or an active member. -/
def Located (db : Db) : Prop :=
  ∀ id t b, db.blobs.find? (id, t) = some b →
    ∃ c, db.circles.find? id = some c ∧ b.key_epoch = c.key_epoch ∧ db.belongs id t = true

/-- The token is the owner's. -/
def Db.isOwner (db : Db) (id : Uuid) (t : Token) : Bool :=
  (db.circles.find? id).any fun c => decide (c.owner_token = t)

/-- The condition on a step: a push writes while the circle is still at the epoch of
its envelope and its sender still belongs, and an invitation is not for a member
whose envelope is stored. -/
def fresh (env : Env) (s : Sys) : Act → Bool
  | .writeEnvelope i => (s.pushes[i]?).all fun e =>
    (s.db.circles.find? e.circle_id).all (fun c => decide (c.key_epoch = e.key_epoch)) &&
      s.db.belongs e.circle_id e.sender_token
  | .addMember id req _ _ => req.body.all fun body =>
    let t := env.circleToken id (toAsciiLowercase body.member_pubkey)
    (s.db.blobs.find? (id, t)).isNone || s.db.isOwner id t
  | _ => true

theorem fresh_writeEnvelope {env : Env} {s : Sys} {i : ℕ} {e : Envelope} {c : Circle}
    (hp : s.pushes[i]? = some e) (hc : s.db.circles.find? e.circle_id = some c) :
    fresh env s (.writeEnvelope i) =
      (decide (c.key_epoch = e.key_epoch) && s.db.belongs e.circle_id e.sender_token) := by
  show (s.pushes[i]?).all _ = _
  rw [hp, Option.all_some, hc, Option.all_some]

theorem fresh_addMember {env : Env} {s : Sys} {id : Uuid} {req : Request AddMemberBody} {x y : ℕ}
    {body : AddMemberBody} {t : Token} (hb : req.body = some body)
    (ht : t = env.circleToken id (toAsciiLowercase body.member_pubkey)) :
    fresh env s (.addMember id req x y) =
      ((s.db.blobs.find? (id, t)).isNone || s.db.isOwner id t) := by
  show req.body.all _ = _
  rw [hb, Option.all_some, ht]

theorem belongs_iff {db : Db} {id : Uuid} {t : Token} :
    db.belongs id t = true ↔ db.isOwner id t = true ∨ db.isActive id t = true := by
  unfold Db.belongs
  rw [Bool.or_eq_true]
  rfl

theorem isOwner_iff {db : Db} {id : Uuid} {t : Token} :
    db.isOwner id t = true ↔ ∃ c, db.circles.find? id = some c ∧ c.owner_token = t := by
  unfold Db.isOwner
  rw [Option.any_eq_true]
  simp

/-- **A fresh step stores no stale location.** -/
theorem located_step {env : Env} {s : Sys} {a : Act} (h : Located s.db)
    (hf : fresh env s a = true) : Located (step env s a).db := by
  intro id t b hb
  cases blob_of_step hb with
  | published i e act pending circle tables key row =>
      subst act
      obtain ⟨c, hc⟩ := Option.isSome_iff_exists.1 circle
      obtain ⟨rfl, rfl⟩ := Prod.mk.inj key
      rw [fresh_writeEnvelope pending hc, Bool.and_eq_true, decide_eq_true_eq] at hf
      rw [tables, row]
      exact ⟨c, hc, hf.1.symm, hf.2⟩
  | kept old stays =>
      obtain ⟨c, hc, hepoch, hbelongs⟩ := h id t b old
      obtain ⟨c', hc', howner, hepoch', _⟩ := circle_kept hc stays
      refine ⟨c', hc', hepoch.trans hepoch'.symm, belongs_iff.2 ?_⟩
      have owner : s.db.isOwner id t = true → (step env s a).db.isOwner id t = true := by
        intro hown
        obtain ⟨c₀, hc₀, ht⟩ := isOwner_iff.1 hown
        obtain rfl : c = c₀ := Option.some.inj (hc.symm.trans hc₀)
        exact isOwner_iff.2 ⟨c', hc', howner.trans ht⟩
      by_cases hown : s.db.isOwner id t = true
      · exact Or.inl (owner hown)
      · have hactive := (belongs_iff.1 hbelongs).resolve_left hown
        refine Or.inr (active_stays hactive fun hs hseat => ?_)
        rcases hseat with hremove | ⟨req, x, y, body, rfl, hbody, ht⟩ | hdelete
        · exact stays hs (Or.inr (Or.inl hremove))
        · -- an invitation of the sender: excluded, since its envelope is stored
          rw [fresh_addMember hbody ht, old, Option.isNone_some, Bool.false_or] at hf
          exact hown hf
        · exact stays hs (Or.inr (Or.inr hdelete))

/-- **In a run of fresh steps every stored location is current and authorised**, in
every state reached. -/
theorem located_run (env : Env) (now : Timestamp) (as : List Act)
    (hf : ∀ e ∈ events (step env) (Sys.init now) as, fresh env e.pre e.act = true) :
    Located (run (step env) (Sys.init now) as).db :=
  run_induction_of (P := fun s : Sys => Located s.db) (fun _ _ _ h => by cases h)
    (fun _ _ h hf => located_step h hf) hf

/-- The owner pushes and the envelope is written at once. -/
theorem located_run_push :
    (∀ e ∈ events (step demoEnv) (Sys.init 0) [.createCircle "c" (demoRequest demoOwner ⟨"n"⟩),
        demoCommit 0 2, demoPush demoOwner 2, .writeEnvelope 0], fresh demoEnv e.pre e.act = true) ∧
      Located (run (step demoEnv) (Sys.init 0) [.createCircle "c" (demoRequest demoOwner ⟨"n"⟩),
        demoCommit 0 2, demoPush demoOwner 2, .writeEnvelope 0]).db := by
  have h : ∀ e ∈ events (step demoEnv) (Sys.init 0) [.createCircle "c" (demoRequest demoOwner ⟨"n"⟩),
      demoCommit 0 2, demoPush demoOwner 2, .writeEnvelope 0], fresh demoEnv e.pre e.act = true := by
    rw [← List.all_eq_true (p := fun e : Event Sys Act => fresh demoEnv e.pre e.act)]
    decide
  exact ⟨h, located_run demoEnv 0 _ h⟩

/-- The owner pushes, rotates the key, and only then the envelope is written. -/
def staleWrite : List Act :=
  [.createCircle "c" (demoRequest demoOwner ⟨"n"⟩), demoCommit 0 2, demoPush demoOwner 2,
    demoCommit 0 3, .writeEnvelope 0]

/-- **A stale location can be stored**: an envelope of epoch 2 in a circle at epoch
3. -/
theorem stale_envelope_stored : ¬ Located (run (step demoEnv) (Sys.init 0) staleWrite).db := by
  have hblob : ((run (step demoEnv) (Sys.init 0) staleWrite).db.blobs.find?
      ("c", demoToken demoOwner)).map Blob.key_epoch = some 2 := by decide
  have hcircle : ((run (step demoEnv) (Sys.init 0) staleWrite).db.circles.find? "c").map
      Circle.key_epoch = some 3 := by decide
  intro h
  obtain ⟨b, hb, hb2⟩ := Option.map_eq_some_iff.1 hblob
  obtain ⟨c, hc, hepoch, _⟩ := h _ _ b hb
  rw [hc, Option.map_some, ← hepoch, hb2] at hcircle
  cases hcircle

end Circles
end SentinelMesh
