/-
# What a signed report stores

Two accepted requests of the report route whose events have one content, and the rows
`create_report` leaves.

The content names the type, the coordinates to six decimals and the description
(`reportBindingContent`), so the rows agree in these (`stored_of_content`): a description
that is left out and an empty one are signed alike, and two coordinates that print alike
are at most a millionth of a degree apart, which may still be two cells.  The place name, the
photo and the linked event are not part of the content; they are stored as submitted.
-/

import SentinelMesh.Routes.Replay

namespace SentinelMesh
namespace Ledger

open Lib

/-! ### Numbers that print alike -/

/-- Two numbers are a millionth apart, of which a million each is half a unit from one other. -/
theorem abs_sub_le_of_millionths {a b r : ℚ} (ha : |a * 10 ^ 6 - r| ≤ 1 / 2)
    (hb : |b * 10 ^ 6 - r| ≤ 1 / 2) : |a - b| ≤ 1 / 10 ^ 6 := by
  rw [abs_le] at ha hb ⊢
  constructor <;> linarith [ha.1, ha.2, hb.1, hb.2]

/-- **Numbers with the same six decimals are a millionth apart.** -/
theorem abs_sub_le_of_sixDecimals {x y : Double} (h : sixDecimals x = sixDecimals y) :
    |x.value - y.value| ≤ 1 / 10 ^ 6 := by
  have hsign : x.negative = y.negative := congrArg SixDecimals.negative h
  have hround : roundHalfEven (x.magnitude * 10 ^ 6) = roundHalfEven (y.magnitude * 10 ^ 6) := by
    have hx := roundHalfEven_nonneg (mul_nonneg x.magnitude_nonneg (by norm_num : (0 : ℚ) ≤ 10 ^ 6))
    have hy := roundHalfEven_nonneg (mul_nonneg y.magnitude_nonneg (by norm_num : (0 : ℚ) ≤ 10 ^ 6))
    have hmillionths := congrArg SixDecimals.millionths h
    simp only [sixDecimals] at hmillionths
    omega
  have hmagnitude : |x.magnitude - y.magnitude| ≤ 1 / 10 ^ 6 := by
    have hx := abs_sub_roundHalfEven_le (x.magnitude * 10 ^ 6)
    rw [hround] at hx
    exact abs_sub_le_of_millionths hx (abs_sub_roundHalfEven_le (y.magnitude * 10 ^ 6))
  unfold Double.value
  rw [hsign]
  split_ifs
  · rwa [neg_sub_neg, abs_sub_comm]
  · exact hmagnitude

/-! ### The row of a request -/

/-- What a row has of the request it was made from. -/
structure StoredFrom (env : Env) (body : CreateReportBody) (r : Report) : Prop where
  report_type : r.report_type = body.report_type
  description : r.description = body.description
  place_name : r.place_name = body.place_name
  photo_ipfs_cid : r.photo_ipfs_cid = body.photo_ipfs_cid
  linked_event_id : r.linked_event_id = body.linked_event_id
  /-- The exact coordinates are not stored. -/
  cell : (r.h3_r9, r.lat, r.lng) = env.snapToR9 body.lat.value body.lng.value

/-- **The row of an accepted report is made from its request**, and the content of the event
is the one recomputed from it. -/
theorem stored_of_postReport {env : Env} {pg : Pg} {checked began : Timestamp} {gates : Gates}
    {id : Uuid} {body : CreateReportBody} {db db' : Db} {r : Report}
    (h : postReport env pg checked began gates id body db = (db', .ok r)) :
    ∃ row, db'.reports.find? id = some row ∧ StoredFrom env body row ∧
      body.report_type ∈ validReportTypes ∧
      body.nostr_event.content =
        reportBindingContent body.report_type body.lat body.lng body.description := by
  obtain ⟨hcheck, hcreate⟩ := postReport_ok h
  obtain ⟨hfree, -, rfl⟩ := run_createReport_eq_ok hcreate
  have hrow : (db.create env began id body.input).reports.find? id =
      some (newReport env began body.input (reputationTier db.users body.input.nostr_pubkey)) := by
    unfold Db.create
    rw [Table.find?_insert, if_pos rfl, hfree]
    rfl
  unfold checkReport at hcheck
  simp only [bind_eq_ok, ensure_eq_ok, decide_eq_true_eq] at hcheck
  obtain ⟨_, _, _, htype, _, _, _, _, _, hcontent, _⟩ := hcheck
  exact ⟨_, hrow, ⟨rfl, rfl, rfl, rfl, rfl, rfl⟩, htype, hcontent⟩

/-- What rows of one signed content have in common. -/
structure SameSigned (body body' : CreateReportBody) (r r' : Report) : Prop where
  report_type : r.report_type = r'.report_type
  /-- A description that is left out is signed as an empty one. -/
  description : r.description.getD "" = r'.description.getD ""
  /-- The coordinates of the requests print alike. -/
  printed : sixDecimals body.lat = sixDecimals body'.lat ∧ sixDecimals body.lng = sixDecimals body'.lng
  close : |body.lat.value - body'.lat.value| ≤ 1 / 10 ^ 6 ∧
    |body.lng.value - body'.lng.value| ≤ 1 / 10 ^ 6

/-- **What is stored of a report is what its author signed**, as far as the content goes: for
any two accepted requests whose events have the same content, the rows agree in the type and, an
absent one counted as empty, in the description; each row has the cell of the coordinates of
its request, and these agree to six decimals. -/
theorem stored_of_content {env : Env} {pg pg' : Pg} {checked checked' began began' : Timestamp}
    {gates gates' : Gates} {id id' : Uuid} {body body' : CreateReportBody} {db db' dbAfter dbAfter' : Db}
    {r r' : Report} (h : postReport env pg checked began gates id body db = (dbAfter, .ok r))
    (h' : postReport env pg' checked' began' gates' id' body' db' = (dbAfter', .ok r'))
    (hcontent : body.nostr_event.content = body'.nostr_event.content) :
    ∃ row row', dbAfter.reports.find? id = some row ∧ dbAfter'.reports.find? id' = some row' ∧
      StoredFrom env body row ∧ StoredFrom env body' row' ∧ SameSigned body body' row row' := by
  obtain ⟨row, hrow, hstored, htype, hsigned⟩ := stored_of_postReport h
  obtain ⟨row', hrow', hstored', htype', hsigned'⟩ := stored_of_postReport h'
  rw [hsigned, hsigned'] at hcontent
  obtain ⟨hsame, hlat, hlng, hdescription⟩ := (reportBindingContent_inj htype htype').1 hcontent
  refine ⟨row, row', hrow, hrow', hstored, hstored', ?_, ?_, ⟨hlat, hlng⟩,
    abs_sub_le_of_sixDecimals hlat, abs_sub_le_of_sixDecimals hlng⟩
  · rw [hstored.report_type, hstored'.report_type, hsame]
  · rw [hstored.description, hstored'.description, hdescription]

/-! ### What the content leaves out -/

/-! ### Two requests of one signature -/

/-- The dependencies, with the border of two cells at one half. -/
def borderEnv : Env :=
  { Replay.demoGateway.env with
    snapToR9 := fun lat lng => if lat < 1 / 2 then ("south", 0, lng) else ("north", 1, lng) }

/-- The number next to one half, which prints alike. -/
def belowHalf : Double := ⟨false, 2 ^ 53 - 1, -54, by decide, by decide, by decide, by decide⟩

/-- What an intermediary makes of the report of a fire. -/
def alteredBody : CreateReportBody :=
  { Replay.demoBody 'a' with
    description := some "", lat := belowHalf, place_name := some "the market",
    photo_ipfs_cid := some "another photo", linked_event_id := some "e" }

/-- Tables with one event. -/
def borderDb : Db := { safety_events := ["e"] }

theorem check_alteredBody :
    checkReport borderEnv.verify Replay.demoNow.1 {} alteredBody = .ok () := by
  have hcheck := Replay.check_demoBody (c := 'a') (Or.inl rfl)
  unfold checkReport at hcheck ⊢
  simp only [bind_eq_ok, ensure_eq_ok, decide_eq_true_eq] at hcheck ⊢
  obtain ⟨_, hlimited, _, htype, _, hevent, _, _, _, _, hguard⟩ := hcheck
  have hrange : inRange alteredBody.lat alteredBody.lng = true := by
    show inRange belowHalf Pwa.half = true
    decide +kernel
  have hcontent : alteredBody.nostr_event.content = reportBindingContent alteredBody.report_type
      alteredBody.lat alteredBody.lng alteredBody.description := by
    show "r1|FIRE|0.500000|0.500000|" = reportBindingContent "FIRE" belowHalf Pwa.half (some "")
    decide +kernel
  exact ⟨(), hlimited, (), htype, (), hevent, (), hrange, (), hcontent, hguard⟩

/-- A request that passes the checks and can be stored is accepted. -/
theorem postReport_of_create {env : Env} {pg : Pg} {now : Timestamp} {gates : Gates} {id : Uuid}
    {body : CreateReportBody} {db : Db} (hcheck : checkReport env.verify now gates body = .ok ())
    (hcreate : ((createReport env pg now id body.input).commit db).2.isOk = true) :
    ∃ db' r, postReport env pg now now gates id body db = (db', .ok r) := by
  unfold postReport
  rw [hcheck]
  generalize (createReport env pg now id body.input).commit db = created at hcreate
  obtain ⟨db', res⟩ := created
  cases res with
  | error e => cases hcreate
  | ok r => exact ⟨db', r, rfl⟩

theorem postReport_demoBody : ∃ db' r, postReport borderEnv .sqlx Replay.demoNow.1 Replay.demoNow.1 {}
    "r" (Replay.demoBody 'a') borderDb = (db', .ok r) :=
  postReport_of_create (Replay.check_demoBody (Or.inl rfl)) (by decide +kernel)

theorem postReport_alteredBody : ∃ db' r, postReport borderEnv .sqlx Replay.demoNow.1
    Replay.demoNow.1 {} "r" alteredBody borderDb = (db', .ok r) :=
  postReport_of_create check_alteredBody (by decide +kernel)

/-- The two requests, of which the rows have the type in common. -/
theorem stored_of_content_fire : ∃ db' db'' row row',
    (∃ r, postReport borderEnv .sqlx Replay.demoNow.1 Replay.demoNow.1 {} "r" (Replay.demoBody 'a')
      borderDb = (db', .ok r)) ∧
    (∃ r, postReport borderEnv .sqlx Replay.demoNow.1 Replay.demoNow.1 {} "r" alteredBody
      borderDb = (db'', .ok r)) ∧
    db'.reports.find? "r" = some row ∧ db''.reports.find? "r" = some row' ∧
      SameSigned (Replay.demoBody 'a') alteredBody row row' := by
  obtain ⟨db', r, h⟩ := postReport_demoBody
  obtain ⟨db'', r', h'⟩ := postReport_alteredBody
  obtain ⟨row, row', hrow, hrow', -, -, hsame⟩ := stored_of_content h h' rfl
  exact ⟨db', db'', row, row', ⟨r, h⟩, ⟨r', h'⟩, hrow, hrow', hsame⟩

/-- **One signature, two rows.**  The report of a fire and what an intermediary makes of it are both
accepted, their events are the same, and the rows differ in the description, the place, the photo, the
linked event and the cell. -/
theorem altered_report_accepted : ∃ db' db'' row row',
    (∃ r, postReport borderEnv .sqlx Replay.demoNow.1 Replay.demoNow.1 {} "r" (Replay.demoBody 'a')
      borderDb = (db', .ok r)) ∧
    (∃ r, postReport borderEnv .sqlx Replay.demoNow.1 Replay.demoNow.1 {} "r" alteredBody
      borderDb = (db'', .ok r)) ∧
    (Replay.demoBody 'a').nostr_event = alteredBody.nostr_event ∧
    db'.reports.find? "r" = some row ∧ db''.reports.find? "r" = some row' ∧
      row.description ≠ row'.description ∧ row.place_name ≠ row'.place_name ∧
      row.photo_ipfs_cid ≠ row'.photo_ipfs_cid ∧ row.linked_event_id ≠ row'.linked_event_id ∧
      row.h3_r9 ≠ row'.h3_r9 := by
  obtain ⟨db', r, h⟩ := postReport_demoBody
  obtain ⟨db'', r', h'⟩ := postReport_alteredBody
  obtain ⟨row, hrow, hstored, -, -⟩ := stored_of_postReport h
  obtain ⟨row', hrow', hstored', -, -⟩ := stored_of_postReport h'
  have hcell : row.h3_r9 = "north" := by
    have hhalf : ¬ Pwa.half.value < 1 / 2 := by decide +kernel
    exact (congrArg Prod.fst hstored.cell).trans (congrArg Prod.fst (if_neg hhalf))
  have hcell' : row'.h3_r9 = "south" := by
    have hhalf : belowHalf.value < 1 / 2 := by decide +kernel
    exact (congrArg Prod.fst hstored'.cell).trans (congrArg Prod.fst (if_pos hhalf))
  refine ⟨db', db'', row, row', ⟨r, h⟩, ⟨r', h'⟩, rfl, hrow, hrow', ?_⟩
  rw [hstored.description, hstored'.description, hstored.place_name, hstored'.place_name,
    hstored.photo_ipfs_cid, hstored'.photo_ipfs_cid, hstored.linked_event_id,
    hstored'.linked_event_id, hcell, hcell']
  decide

end Ledger
end SentinelMesh
