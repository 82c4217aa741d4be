/-
# The report route

`post_report` of `routes/reports.rs`: the checks on the request, then
`create_report`.

The row of `report_authors` that an accepted report leaves stores the event id
as it was spelled in the request, and `new_event_of_createReport` is what its
`UNIQUE` constraint says of that text.
-/

import SentinelMesh.Routes.Binding

namespace SentinelMesh
namespace Ledger

open Lib

/-- `CreateReportBody`. -/
structure CreateReportBody where
  report_type : String
  description : Option String
  lat : Double
  lng : Double
  place_name : Option String
  nostr_pubkey : Pubkey
  nostr_event : RawEvent
  photo_ipfs_cid : Option String
  linked_event_id : Option Uuid
  deriving DecidableEq

/-- The `CreateReportInput` of a request. -/
def CreateReportBody.input (body : CreateReportBody) : CreateReportInput :=
  { report_type := body.report_type, description := body.description, lat := body.lat.value,
    lng := body.lng.value, place_name := body.place_name, nostr_pubkey := body.nostr_pubkey,
    nostr_signature := body.nostr_event.sig, nostr_event_id := body.nostr_event.id,
    photo_ipfs_cid := body.photo_ipfs_cid, linked_event_id := body.linked_event_id }

/-- The checks of `post_report` on the request alone. -/
def checkReport (verify : NostrEvent → Bool) (now : Timestamp) (gates : Gates)
    (body : CreateReportBody) : Except AppError Unit := do
  ensure (!gates.limited) .rateLimited
  ensure (decide (body.report_type ∈ validReportTypes))
    (.badRequest ("invalid report_type: " ++ body.report_type))
  verifyNostrEvent verify now body.nostr_event body.nostr_pubkey 300
  ensure (inRange body.lat body.lng) (.badRequest "lat must be in -90..90, lng in -180..180")
  ensure (decide (body.nostr_event.content =
      reportBindingContent body.report_type body.lat body.lng body.description))
    (.badRequest "nostr_event content is not bound to the report fields")
  replayGuard gates.redis body.nostr_event.id

/-- `post_report`: the request is checked at `checked`, `create_report` began at
`began`; `id` is what `gen_random_uuid()` returns. -/
def postReport (env : Env) (pg : Pg) (checked began : Timestamp) (gates : Gates) (id : Uuid)
    (body : CreateReportBody) (db : Db) : Db × Except AppError Report :=
  match checkReport env.verify checked gates body with
  | .error e => (db, .error e)
  | .ok () =>
    match (createReport env pg began id body.input).commit db with
    | (db, .ok report) => (db, .ok report)
    | (db, .error e) => (db, .error e.internal)

/-- A report that is accepted passed the checks and ran `create_report` to its end. -/
theorem postReport_ok {env : Env} {pg : Pg} {checked began : Timestamp} {gates : Gates} {id : Uuid}
    {body : CreateReportBody} {db db' : Db} {r : Report}
    (h : postReport env pg checked began gates id body db = (db', .ok r)) :
    checkReport env.verify checked gates body = .ok () ∧
      (createReport env pg began id body.input).run db = .ok (r, db') := by
  unfold postReport at h
  split at h
  · simp at h
  · rename_i hcheck
    refine ⟨hcheck, Txn.commit_eq_ok_iff.1 ?_⟩
    split at h
    · rename_i db₁ r₁ hcommit
      simp only [Prod.mk.injEq, Except.ok.injEq] at h
      rw [hcommit, h.1, h.2]
    · simp at h

/-- A report that is refused changes no row. -/
theorem postReport_of_error {env : Env} {pg : Pg} {checked began : Timestamp} {gates : Gates}
    {id : Uuid} {body : CreateReportBody} {db : Db} {e : AppError}
    (h : (postReport env pg checked began gates id body db).2 = .error e) :
    (postReport env pg checked began gates id body db).1 = db := by
  unfold postReport at h ⊢
  split at h
  · rfl
  · split at h
    · cases h
    · rename_i db₁ e₁ hcommit
      have hdb := Txn.commit_of_error (congrArg Prod.snd hcommit)
      rw [hcommit] at hdb
      exact hdb

/-- **An event id is stored once**, as a text: a report that is created has an
event id that no row of `report_authors` spells alike. -/
theorem new_event_of_createReport {env : Env} {pg : Pg} {now : Timestamp} {id : Uuid}
    {input : CreateReportInput} {db db' : Db} {r : Report}
    (h : (createReport env pg now id input).run db = .ok (r, db')) {k : Uuid} {a : Author}
    (ha : (k, a) ∈ db.authors.rows) : a.nostr_event_id ≠ input.nostr_event_id := by
  unfold createReport at h
  simp only [Txn.run_bind_eq_ok, Txn.run_get_eq_ok, Txn.run_fetch_eq_ok, Txn.run_pure_eq_ok] at h
  obtain ⟨_, _, hcount, _, _, ⟨rfl, rfl⟩, reporter, _, ⟨_, rfl⟩, _, _, hreport, _, _, hauthor, _⟩ := h
  obtain rfl := run_countReport_eq_ok hcount
  obtain ⟨_, rfl⟩ := run_insertReport_eq_ok hreport
  unfold insertAuthor at hauthor
  simp only [Txn.run_bind_eq_ok, Txn.run_get_eq_ok, Txn.run_require_eq_ok] at hauthor
  obtain ⟨_, _, ⟨rfl, rfl⟩, _, _, _, _, _, ⟨hevent, _⟩, _⟩ := hauthor
  exact of_decide_eq_true (List.all_eq_true.1 hevent (k, a) ha)

end Ledger
end SentinelMesh
