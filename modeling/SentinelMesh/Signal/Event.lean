/-
# The event of a signal

`build_event` of `nlp/event_fuser.py` and `emit_event` of `publisher.py`.  A producer makes a
dictionary of what it has found out, a signal; signals are merged into the payload of one event, and
a payload that does not validate against `event_schema.json` is dropped.

What the dictionary of a signal must have is nowhere stated.  `buildEvent_singleton` is what
`build_event` makes of one signal whose entries have the right types, and `validates_payload` that it
validates.
-/

import SentinelMesh.Lib.Python

namespace SentinelMesh
namespace Signal

open Lib Lib.Python Lib.JsonSchema

/-- What a call takes from the machine it runs on. -/
structure Runtime where
  /-- `str(uuid.uuid4())`. -/
  uuid4 : String
  /-- `datetime.now(timezone.utc)`. -/
  now : UtcTime
  /-- `repr`. -/
  repr : Value → String

/-- `SEVERITY_ORDER`. -/
def severityOrder : List String := ["LOW", "MEDIUM", "HIGH", "CRITICAL"]

/-- `build_event`. -/
def buildEvent (rt : Runtime) (signals : List Value) : Py Value := do
  let best ← maxByKey (·.getItem "confidence") (signals.map pure)
  let highest_severity ← maxByKey (index severityOrder) (signals.map (·.getItem "severity"))
  let loc := (← best.get "location").or (.dict [])
  let lat ← loc.get "lat"
  let lng ← loc.get "lng"
  if lat.isNone || lng.isNone then
    throw (.valueError
      ("cannot build event: signal has no coordinates (location=" ++ rt.repr loc ++ ")"))
  let event_type ← best.getItem "event_type"
  let title ← best.getItem "title"
  let started_at ← (← minByKey pure (signals.map (·.getItem "timestamp"))).isoformat
  let summary ← best.get "summary"
  let source_id ← best.get "source_id"
  let origin_channel ← best.get "origin_channel"
  let place_name ← loc.get "place_name"
  let county ← loc.get "county"
  let created_at ← (Value.datetime rt.now).isoformat
  return .dict
    [("schema_version", .int 1),
     ("id", .str rt.uuid4),
     ("event_type", event_type),
     ("severity", highest_severity),
     ("title", title),
     ("lat", lat),
     ("lng", lng),
     ("started_at", .str started_at),
     ("summary", summary),
     ("source_id", source_id),
     ("origin_channel", origin_channel),
     ("place_name", place_name),
     ("county", county),
     ("is_active", .bool true),
     ("created_at", .str created_at)]

/-- `event_schema.json`. -/
def eventSchema : Schema where
  required :=
    ["created_at", "event_type", "id", "is_active", "lat", "lng", "schema_version", "severity",
     "started_at", "title"]
  properties :=
    [("county", { types := [.string, .null] }),
     ("created_at", { types := [.string] }),
     ("event_type", { types := [.string] }),
     ("id", { types := [.string] }),
     ("is_active", { types := [.boolean] }),
     ("lat", { types := [.number] }),
     ("lng", { types := [.number] }),
     ("origin_channel", { types := [.string, .null] }),
     ("place_name", { types := [.string, .null] }),
     ("schema_version", { types := [.integer], minimum := some 0 }),
     ("severity", { types := [.string] }),
     ("source_id", { types := [.string, .null] }),
     ("started_at", { types := [.string] }),
     ("state", { types := [.string, .null] }),
     ("summary", { types := [.string, .null] }),
     ("title", { types := [.string] })]
  additionalProperties := false

/-- `emit_event`: what is added to the stream. -/
def emitEvent (xadd : Py Unit) (event : Value) : Py (List Value) :=
  if eventSchema.validates event then do
    xadd
    return [event]
  else return []

/-! ### Locations and signals -/

/-- What `extract_locations` finds: an entry of the gazetteer, its name, and a confidence. -/
structure Place where
  lat : Option ℚ
  lng : Option ℚ
  county : Option String
  type : Option String
  aliases : List String
  place_name : Option String
  confidence : ℚ

/-- The dictionary of a location. -/
def Place.toValue (p : Place) : Value :=
  .dict
    [("lat", .ofFloat p.lat),
     ("lng", .ofFloat p.lng),
     ("county", .ofOption p.county),
     ("type", .ofOption p.type),
     ("aliases", .list (p.aliases.map .str)),
     ("place_name", .ofOption p.place_name),
     ("confidence", .float p.confidence)]

/-- The entries of a signal. -/
structure Entries where
  event_type : String
  severity : String
  title : String
  summary : Option String
  location : Place
  confidence : ℚ
  source_type : String
  source_id : Option String
  origin_channel : String
  timestamp : Value

/-- The dictionary of a signal. -/
def Entries.toValue (e : Entries) : Value :=
  .dict
    [("event_type", .str e.event_type),
     ("severity", .str e.severity),
     ("title", .str e.title),
     ("summary", .ofOption e.summary),
     ("location", e.location.toValue),
     ("confidence", .float e.confidence),
     ("source_type", .str e.source_type),
     ("source_id", .ofOption e.source_id),
     ("origin_channel", .str e.origin_channel),
     ("timestamp", e.timestamp)]

/-- The payload of one signal. -/
def payload (rt : Runtime) (e : Entries) (lat lng : ℚ) (started_at created_at : String) : Value :=
  .dict
    [("schema_version", .int 1),
     ("id", .str rt.uuid4),
     ("event_type", .str e.event_type),
     ("severity", .str e.severity),
     ("title", .str e.title),
     ("lat", .float lat),
     ("lng", .float lng),
     ("started_at", .str started_at),
     ("summary", .ofOption e.summary),
     ("source_id", .ofOption e.source_id),
     ("origin_channel", .str e.origin_channel),
     ("place_name", .ofOption e.location.place_name),
     ("county", .ofOption e.location.county),
     ("is_active", .bool true),
     ("created_at", .str created_at)]

/-- A severity there is has a place in the order. -/
theorem index_severityOrder {severity : String} (h : severity ∈ severityOrder) :
    ∃ i, index severityOrder (.str severity) = .ok i := by
  simp only [severityOrder, List.mem_cons, List.not_mem_nil, or_false] at h
  rcases h with rfl | rfl | rfl | rfl
  · exact ⟨.int 0, rfl⟩
  · exact ⟨.int 1, rfl⟩
  · exact ⟨.int 2, rfl⟩
  · exact ⟨.int 3, rfl⟩

/-- **What is built of one signal** with a severity there is: the payload, at a place with coordinates,
or what the timestamp raises. -/
theorem buildEvent_singleton (rt : Runtime) {e : Entries} (hseverity : e.severity ∈ severityOrder) :
    buildEvent rt [e.toValue] =
      match e.location.lat, e.location.lng with
      | some lat, some lng => (do
          let started_at ← e.timestamp.isoformat
          let created_at ← (Value.datetime rt.now).isoformat
          return payload rt e lat lng started_at created_at)
      | _, _ => .error (.valueError ("cannot build event: signal has no coordinates (location=" ++
          rt.repr e.location.toValue ++ ")")) := by
  obtain ⟨i, hi⟩ := index_severityOrder hseverity
  have hconfidence : e.toValue.getItem "confidence" = .ok (.float e.confidence) := rfl
  have hsev : e.toValue.getItem "severity" = .ok (.str e.severity) := rfl
  have hlocation : e.toValue.get "location" = .ok e.location.toValue := rfl
  have hloc : e.location.toValue.or (.dict []) = e.location.toValue := rfl
  have hlat : e.location.toValue.get "lat" = .ok (.ofFloat e.location.lat) := rfl
  have hlng : e.location.toValue.get "lng" = .ok (.ofFloat e.location.lng) := rfl
  have htimestamp : e.toValue.getItem "timestamp" = .ok e.timestamp := rfl
  have hsingle : ∀ {α : Type} (f : Value → Py α), [e.toValue].map f = [f e.toValue] := fun _ => rfl
  unfold buildEvent
  rw [hsingle, hsingle, hsingle, maxByKey_singleton, maxByKey_singleton, minByKey_singleton]
  simp only [pure_bind, ok_bind, hconfidence, hsev, hi, hlocation, hloc, hlat, hlng, htimestamp]
  cases e.location.lat with
  | none => rfl
  | some lat =>
      cases e.location.lng with
      | none => rfl
      | some lng => rfl

/-- **A payload validates.** -/
theorem validates_payload (rt : Runtime) (e : Entries) (lat lng : ℚ) (started_at created_at : String) :
    eventSchema.validates (payload rt e lat lng started_at created_at) = true := by
  have hnullable : ∀ s : Option String, Property.accepts { types := [.string, .null] } (.ofOption s)
      = true := by
    intro s
    cases s <;> rfl
  have hschema : eventSchema.validates (payload rt e lat lng started_at created_at) =
      (Property.accepts { types := [.string, .null] } (.ofOption e.summary) &&
        (Property.accepts { types := [.string, .null] } (.ofOption e.source_id) &&
          (Property.accepts { types := [.string, .null] } (.ofOption e.location.place_name) &&
            (Property.accepts { types := [.string, .null] } (.ofOption e.location.county) &&
              true)))) := by
    rfl
  rw [hschema, hnullable, hnullable, hnullable, hnullable]
  rfl

end Signal
end SentinelMesh
