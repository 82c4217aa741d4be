/-
# The three producers of signals

`_process_entry` of `ingest/rss_parser.py`, the loop of `ingest/twitter_stream.py` and
`process_transcription_job` of `worker/transcriber.py`.  Each has a text, drops what it has seen
before, what is not classified clearly enough and what names no place, and makes a signal of the rest.

What a text is classified as and which places it names is found out by `Classifier` and `Locations`
(`analysisOf`).  `can_emit` says of which texts that pass the gates an event is built that validates,
and for that it can be anything (`Analysis`).
-/

import SentinelMesh.Signal.Locations
import SentinelMesh.Signal.Queue

namespace SentinelMesh
namespace Signal

open Lib Lib.Python
open Queue (JobData JobResult)

/-! ### What is found out of a text -/

/-- What is found out of a text. -/
structure Analysis where
  /-- `str.lower`. -/
  lower : String → String
  classify_event : String → ClassificationResult
  extract_locations : String → List Place

/-- What the functions of `nlp` find out. -/
def analysisOf (tools : LocationTools) : Analysis where
  lower := tools.lower
  classify_event := Classifier.classifyEvent tools.toTextTools
  extract_locations := Locations.extractLocations tools

/-- `_CRITICAL_KEYWORDS`. -/
def criticalKeywords : List String :=
  ["kills", "dead", "deaths", "fatalities", "mass casualty", "bomb", "blast", "explosion", "terrorist",
   "terror attack", "collapsed building", "multiple dead"]

/-- `_HIGH_KEYWORDS`. -/
def highKeywords : List String :=
  ["injured", "wounded", "armed", "shooting", "gunshot", "fire", "inferno", "major flood",
   "flash flood", "evacuation", "building collapse", "riot", "looting"]

/-- `_MEDIUM_KEYWORDS`. -/
def mediumKeywords : List String :=
  ["accident", "crash", "collision", "road block", "protest", "flooding", "power outage", "robbery",
   "traffic jam"]

/-- One of the words is in the text. -/
def anyIn (keywords : List String) (text : String) : Bool :=
  keywords.any fun kw => Classifier.isIn kw text

/-- `score_severity`. -/
def scoreSeverity (an : Analysis) (text : String) : String :=
  let text_lower := an.lower text
  if anyIn criticalKeywords text_lower then "CRITICAL"
  else if anyIn highKeywords text_lower then "HIGH"
  else if anyIn mediumKeywords text_lower then "MEDIUM"
  else "LOW"

theorem scoreSeverity_mem (an : Analysis) (text : String) :
    scoreSeverity an text ∈ severityOrder := by
  unfold scoreSeverity
  dsimp only
  split_ifs <;> decide

/-- What a call finds on the machine: the clock and the rest, whether `is_duplicate` has seen the text
before, and what becomes of `xadd`. -/
structure Context extends Runtime where
  is_duplicate : Py Bool := .ok false
  xadd : Py Unit := .ok ()

/-! ### RSS -/

/-- The first six fields of a `struct_time`. -/
structure StructTime where
  year : ℤ
  month : ℤ
  day : ℤ
  hour : ℤ
  minute : ℤ
  second : ℤ

/-- An entry of a feed. -/
structure Entry where
  title : Option String := none
  summary : Option String := none
  description : Option String := none
  published_parsed : Option StructTime := none

/-- `urlparse(url).netloc`, of a URL whose host is no address in brackets. -/
def netloc (url : String) : String :=
  let chars := url.toList
  let rest := match chars.dropWhile fun c => c.isAlphanum || c ∈ ['+', '-', '.'] with
    | ':' :: rest => rest
    | _ => chars
  match rest with
  | '/' :: '/' :: rest => String.ofList (rest.takeWhile fun c => !decide (c ∈ ['/', '?', '#']))
  | _ => ""

/-- `a or b`. -/
def orElse (a b : String) : String := if a = "" then b else a

/-- The summary of an entry. -/
def Entry.summaryText (entry : Entry) : String :=
  orElse (entry.summary.getD "") (entry.description.getD "")

/-- The text of an entry. -/
def Entry.text (entry : Entry) : String := entry.title.getD "" ++ ". " ++ entry.summaryText

/-- When an entry was published. -/
def Entry.timestamp (ctx : Context) (entry : Entry) : Py UtcTime :=
  match entry.published_parsed with
  | some t => datetime t.year t.month t.day t.hour t.minute t.second
  | none => .ok ctx.now

/-- The signal of an entry. -/
def rssSignal (an : Analysis) (entry : Entry) (source_url : String) (location : Place) (ts : UtcTime) :
    Entries :=
  let classification := an.classify_event entry.text
  { event_type := classification.event_type
    severity := scoreSeverity an entry.text
    title := prefixOf 200 (entry.title.getD "")
    summary := if entry.summaryText = "" then none else some (prefixOf 500 entry.summaryText)
    location
    confidence := classification.confidence
    source_type := "rss"
    source_id := some (orElse (netloc source_url) source_url)
    origin_channel := "rss"
    timestamp := .datetime ts }

/-- `_process_entry`: the events it emits. -/
def processEntry (an : Analysis) (ctx : Context) (entry : Entry) (source_url : String) :
    Py (List Value) := do
  if ← ctx.is_duplicate then return []
  let classification := an.classify_event entry.text
  if classification.event_type = "FALSE_ALARM" ∨ classification.confidence < 3 / 10 then return []
  match an.extract_locations entry.text with
  | [] => return []
  | location :: _ =>
    let ts ← entry.timestamp ctx
    let event ← buildEvent ctx.toRuntime [(rssSignal an entry source_url location ts).toValue]
    emitEvent ctx.xadd event

/-! ### Twitter -/

/-- A tweet of the stream. -/
structure Tweet where
  text : Option String := none
  author_id : Option String := none

/-- A line of the stream.  `users` is `includes.users`, each with its `username`. -/
structure StreamLine where
  data : Tweet := {}
  users : Option (List (Option String)) := none

/-- `source_id` of a tweet. -/
def StreamLine.sourceId (line : StreamLine) : Py (Option String) :=
  let author := line.data.author_id.getD ""
  if author ≠ "" then .ok (some author)
  else match line.users with
    | none => .ok none
    | some [] => .error (.indexError "list index out of range")
    | some (username :: _) => .ok username

/-- The text of a tweet. -/
def StreamLine.text (line : StreamLine) : String := line.data.text.getD ""

/-- The signal of a tweet. -/
def twitterSignal (an : Analysis) (ctx : Context) (line : StreamLine) (location : Place)
    (source_id : Option String) : Entries :=
  let classification := an.classify_event line.text
  { event_type := classification.event_type
    severity := scoreSeverity an line.text
    title := prefixOf 200 line.text
    summary := none
    location
    confidence := classification.confidence
    source_type := "twitter"
    source_id
    origin_channel := "twitter"
    timestamp := .datetime ctx.now }

/-- A line of `start_twitter_stream`: the events that are emitted. -/
def processLine (an : Analysis) (ctx : Context) (line : StreamLine) : Py (List Value) := do
  if line.text = "" then return []
  if ← ctx.is_duplicate then return []
  if (an.classify_event line.text).confidence < 3 / 10 then return []
  match an.extract_locations line.text with
  | [] => return []
  | location :: _ =>
    let source_id ← line.sourceId
    let event ← buildEvent ctx.toRuntime [(twitterSignal an ctx line location source_id).toValue]
    emitEvent ctx.xadd event

/-! ### Radio -/

/-- `MIN_TRANSCRIPT_CHARS`. -/
def minTranscriptChars : ℕ := 30

/-- What an execution of a job meets: the audio it captures, and the transcript, if there is one in
time. -/
structure RadioContext extends Context where
  capture : Py Unit := .ok ()
  transcript : Option (Py String)

/-- The signal of a job. -/
def radioSignal (an : Analysis) (job_data : JobData) (text : String) (location : Place)
    (timestamp : String) : Entries :=
  let classification := an.classify_event text
  { event_type := classification.event_type
    severity := scoreSeverity an text
    title := prefixOf 200 text
    summary := some (prefixOf 500 text)
    location
    confidence := classification.confidence
    source_type := "radio"
    source_id := some job_data.id
    origin_channel := "radio"
    timestamp := .str timestamp }

/-- `process_transcription_job` within its `try`, after the transcript: the result, and the events
that are emitted. -/
def processTranscript (an : Analysis) (ctx : Context) (job_data : JobData) (text : String) :
    Py (JobResult × List Value) := do
  if text.length < minTranscriptChars then
    return ({ status := "skipped", reason := some "transcript_too_short" }, [])
  if ← ctx.is_duplicate then return ({ status := "skipped", reason := some "duplicate" }, [])
  let classification := an.classify_event text
  if classification.confidence < 4 / 10 then
    return ({ status := "skipped", reason := some "low_confidence" }, [])
  match an.extract_locations text with
  | [] => return ({ status := "skipped", reason := some "no_locations" }, [])
  | location :: locations =>
    let timestamp ← (Value.datetime ctx.now).isoformat
    let event ← buildEvent ctx.toRuntime
      [(radioSignal an job_data text location timestamp).toValue]
    let emitted ← emitEvent ctx.xadd event
    return (
      { status := "completed"
        transcript := some text
        event_type := some classification.event_type
        locations := some (location :: locations) },
      emitted)

/-- `process_transcription_job`: the result, and the events that are emitted.  Whatever is raised is
a failure. -/
def processTranscriptionJob (an : Analysis) (ctx : RadioContext) (job_data : JobData) :
    JobResult × List Value :=
  match ctx.capture, ctx.transcript with
  | .error e, _ => ({ status := "failed", error := some e.text }, [])
  | .ok _, none => ({ status := "failed", error := some "transcription timeout after 120s" }, [])
  | .ok _, some (.error e) => ({ status := "failed", error := some e.text }, [])
  | .ok _, some (.ok text) => match processTranscript an ctx.toContext job_data text with
    | .ok outcome => outcome
    | .error e => ({ status := "failed", error := some e.text }, [])

/-! ### What passes the gates -/

/-- The first place of a text has coordinates. -/
def Located (an : Analysis) (text : String) : Prop :=
  ∃ location rest lat lng, an.extract_locations text = location :: rest ∧
    location.lat = some lat ∧ location.lng = some lng

/-- The text has not been seen, and the stream takes an event. -/
def Context.Open (ctx : Context) : Prop := ctx.is_duplicate = .ok false ∧ ctx.xadd = .ok ()

/-- A call of a producer. -/
inductive Call
  | rss (ctx : Context) (entry : Entry) (source_url : String)
  | twitter (ctx : Context) (line : StreamLine)
  | radio (ctx : RadioContext) (job_data : JobData)

/-- The events that are emitted; what is raised is caught. -/
def Call.emitted (an : Analysis) : Call → List Value
  | rss ctx entry source_url => (processEntry an ctx entry source_url).toOption.getD []
  | twitter ctx line => (processLine an ctx line).toOption.getD []
  | radio ctx job_data => (processTranscriptionJob an ctx job_data).2

/-- The text of a call passes the gates of its producer. -/
def Call.Passes (an : Analysis) : Call → Prop
  | rss ctx entry _ => ctx.Open ∧ (an.classify_event entry.text).event_type ≠ "FALSE_ALARM" ∧
      3 / 10 ≤ (an.classify_event entry.text).confidence ∧ Located an entry.text
  | twitter ctx line => ctx.Open ∧ line.text ≠ "" ∧
      3 / 10 ≤ (an.classify_event line.text).confidence ∧ Located an line.text
  | radio ctx _ => ctx.toContext.Open ∧ ctx.capture = .ok () ∧
      ∃ text, ctx.transcript = some (.ok text) ∧ minTranscriptChars ≤ text.length ∧
        4 / 10 ≤ (an.classify_event text).confidence ∧ Located an text

/-- The date of an entry is a date, and a tweet has an author or a list of users that is not empty.  A
job of the radio never. -/
def Call.CanEmit : Call → Prop
  | rss _ entry _ => ∀ t, entry.published_parsed = some t →
      ValidDate t.year t.month t.day t.hour t.minute t.second
  | twitter _ line => line.data.author_id.getD "" ≠ "" ∨ line.users ≠ some []
  | radio _ _ => False

/-! ### What is emitted -/

/-- An event is built of a signal with a time, and validates. -/
theorem builds_of_datetime (rt : Runtime) {e : Entries} (hseverity : e.severity ∈ severityOrder)
    {lat lng : ℚ} (hlat : e.location.lat = some lat) (hlng : e.location.lng = some lng) {t : UtcTime}
    (htimestamp : e.timestamp = .datetime t) :
    ∃ event, buildEvent rt [e.toValue] = .ok event ∧ eventSchema.validates event = true := by
  obtain ⟨started_at, hstarted⟩ : ∃ s, (Value.datetime t).isoformat = .ok s := ⟨_, rfl⟩
  obtain ⟨created_at, hcreated⟩ : ∃ s, (Value.datetime rt.now).isoformat = .ok s := ⟨_, rfl⟩
  refine ⟨payload rt e lat lng started_at created_at, ?_,
    validates_payload rt e lat lng started_at created_at⟩
  rw [buildEvent_singleton rt hseverity, hlat, hlng, htimestamp]
  dsimp only
  rw [hstarted, ok_bind, hcreated, ok_bind]
  rfl

/-- **A signal with a time is emitted**, and validates. -/
theorem emits_of_datetime (rt : Runtime) {e : Entries} (hseverity : e.severity ∈ severityOrder)
    {lat lng : ℚ} (hlat : e.location.lat = some lat) (hlng : e.location.lng = some lng) {t : UtcTime}
    (htimestamp : e.timestamp = .datetime t) :
    ∃ event, (do let event ← buildEvent rt [e.toValue]; emitEvent (.ok ()) event) = .ok [event] ∧
      eventSchema.validates event = true := by
  obtain ⟨event, hevent, hvalid⟩ := builds_of_datetime rt hseverity hlat hlng htimestamp
  refine ⟨event, ?_, hvalid⟩
  rw [hevent, ok_bind]
  unfold emitEvent
  rw [if_pos hvalid]
  rfl

/-- **A signal with a text for a time raises.** -/
theorem raises_of_str (rt : Runtime) {e : Entries} (hseverity : e.severity ∈ severityOrder)
    {lat lng : ℚ} (hlat : e.location.lat = some lat) (hlng : e.location.lng = some lng) {s : String}
    (htimestamp : e.timestamp = .str s) :
    buildEvent rt [e.toValue] =
      .error (.attributeError "'str' object has no attribute 'isoformat'") := by
  rw [buildEvent_singleton rt hseverity, hlat, hlng, htimestamp]
  rfl

variable {an : Analysis}

/-- What `_process_entry` does with a text that passes. -/
theorem emits_rss {ctx : Context} {entry : Entry} {source_url : String}
    (h : (Call.rss ctx entry source_url).Passes an) :
    (∃ event, (Call.rss ctx entry source_url).emitted an = [event] ∧
      eventSchema.validates event = true) ↔ (Call.rss ctx entry source_url).CanEmit := by
  obtain ⟨⟨hduplicate, hxadd⟩, htype, hconfidence, location, rest, lat, lng, hlocations, hlat, hlng⟩ := h
  have hgates : ¬ ((an.classify_event entry.text).event_type = "FALSE_ALARM" ∨
      (an.classify_event entry.text).confidence < 3 / 10) := by
    rintro (hfalse | hlow)
    · exact htype hfalse
    · exact hlow.not_ge hconfidence
  have hprocess : processEntry an ctx entry source_url = (do
      let ts ← entry.timestamp ctx
      let event ← buildEvent ctx.toRuntime [(rssSignal an entry source_url location ts).toValue]
      emitEvent (.ok ()) event) := by
    unfold processEntry
    simp only [hduplicate, ok_bind, Bool.false_eq_true, if_false, hgates, hlocations, hxadd]
  have hemits : ∀ ts, entry.timestamp ctx = .ok ts →
      ∃ event, (Call.rss ctx entry source_url).emitted an = [event] ∧
        eventSchema.validates event = true := by
    intro ts hts
    obtain ⟨event, hevent, hvalid⟩ :=
      emits_of_datetime ctx.toRuntime (e := rssSignal an entry source_url location ts)
        (scoreSeverity_mem an entry.text) hlat hlng rfl
    refine ⟨event, ?_, hvalid⟩
    unfold Call.emitted
    dsimp only
    rw [hprocess, hts, ok_bind, hevent]
    rfl
  constructor
  · rintro ⟨event, hevent, -⟩ t ht
    rw [← exists_datetime_iff]
    cases hdate : datetime t.year t.month t.day t.hour t.minute t.second with
    | ok ts => exact ⟨ts, rfl⟩
    | error e =>
        have hts : entry.timestamp ctx = .error e := by
          unfold Entry.timestamp
          rw [ht]
          exact hdate
        unfold Call.emitted at hevent
        dsimp only at hevent
        rw [hprocess, hts] at hevent
        cases hevent
  · intro hcan
    cases hpublished : entry.published_parsed with
    | none =>
        refine hemits ctx.now ?_
        unfold Entry.timestamp
        rw [hpublished]
    | some t =>
        obtain ⟨ts, hts⟩ := exists_datetime_iff.2 (hcan t hpublished)
        refine hemits ts ?_
        unfold Entry.timestamp
        rw [hpublished]
        exact hts

/-- When a tweet has a source. -/
theorem exists_sourceId_iff {line : StreamLine} :
    (∃ source_id, line.sourceId = .ok source_id) ↔
      line.data.author_id.getD "" ≠ "" ∨ line.users ≠ some [] := by
  unfold StreamLine.sourceId
  dsimp only
  split_ifs with hauthor
  · exact iff_of_true ⟨_, rfl⟩ (.inl hauthor)
  · cases husers : line.users with
    | none => exact iff_of_true ⟨_, rfl⟩ (.inr (by simp))
    | some users =>
        cases users with
        | nil =>
            refine iff_of_false (fun ⟨_, hok⟩ => nomatch hok) ?_
            rintro (hne | hne)
            · exact hauthor hne
            · exact hne rfl
        | cons username users => exact iff_of_true ⟨_, rfl⟩ (.inr (by simp))

/-- What the stream does with a text that passes. -/
theorem emits_twitter {ctx : Context} {line : StreamLine} (h : (Call.twitter ctx line).Passes an) :
    (∃ event, (Call.twitter ctx line).emitted an = [event] ∧ eventSchema.validates event = true) ↔
      (Call.twitter ctx line).CanEmit := by
  obtain ⟨⟨hduplicate, hxadd⟩, htext, hconfidence, location, rest, lat, lng, hlocations, hlat, hlng⟩ := h
  have hprocess : processLine an ctx line = (do
      let source_id ← line.sourceId
      let event ← buildEvent ctx.toRuntime [(twitterSignal an ctx line location source_id).toValue]
      emitEvent (.ok ()) event) := by
    unfold processLine
    simp only [htext, if_false, hduplicate, ok_bind, Bool.false_eq_true, hconfidence.not_gt, hlocations,
      hxadd]
  refine Iff.trans ?_ exists_sourceId_iff
  unfold Call.emitted
  dsimp only
  rw [hprocess]
  cases hsource : line.sourceId with
  | error e => exact iff_of_false (fun ⟨_, hevent, _⟩ => nomatch hevent) fun ⟨_, hok⟩ => nomatch hok
  | ok source_id =>
      obtain ⟨event, hevent, hvalid⟩ :=
        emits_of_datetime ctx.toRuntime (e := twitterSignal an ctx line location source_id)
          (scoreSeverity_mem an line.text) hlat hlng rfl
      refine iff_of_true ⟨event, ?_, hvalid⟩ ⟨source_id, rfl⟩
      rw [ok_bind, hevent]
      rfl

/-- **What a job of the radio comes to** whose transcript passes: `build_event` raises. -/
theorem radio_fails {ctx : RadioContext} {job_data : JobData}
    (h : (Call.radio ctx job_data).Passes an) :
    processTranscriptionJob an ctx job_data =
      ({ status := "failed", error := some "'str' object has no attribute 'isoformat'" }, []) := by
  obtain ⟨⟨hduplicate, -⟩, hcapture, text, htranscript, hlength, hconfidence, location, rest, lat, lng,
    hlocations, hlat, hlng⟩ := h
  obtain ⟨timestamp, htimestamp⟩ : ∃ s, (Value.datetime ctx.now).isoformat = .ok s := ⟨_, rfl⟩
  have hraises := raises_of_str ctx.toRuntime
    (e := radioSignal an job_data text location timestamp) (scoreSeverity_mem an text) hlat hlng rfl
  have hprocess : processTranscript an ctx.toContext job_data text =
      .error (.attributeError "'str' object has no attribute 'isoformat'") := by
    unfold processTranscript
    simp only [hlength.not_gt, if_false, hduplicate, ok_bind, Bool.false_eq_true, hconfidence.not_gt,
      hlocations, htimestamp, hraises]
    rfl
  unfold processTranscriptionJob
  rw [hcapture, htranscript]
  dsimp only
  rw [hprocess]
  rfl

theorem radio_emits_nothing {ctx : RadioContext} {job_data : JobData}
    (h : (Call.radio ctx job_data).Passes an) : (Call.radio ctx job_data).emitted an = [] :=
  congrArg Prod.snd (radio_fails h)

/-- **Who can emit.**  Of a text that passes the gates an event is emitted, and validates, exactly if
it comes from a feed with a date that is one, or from the stream with an author or a user. -/
theorem can_emit (an : Analysis) {call : Call} (hpasses : call.Passes an) :
    (∃ event, call.emitted an = [event] ∧ eventSchema.validates event = true) ↔ call.CanEmit := by
  cases call with
  | rss ctx entry source_url => exact emits_rss hpasses
  | twitter ctx line => exact emits_twitter hpasses
  | radio ctx job_data =>
      refine iff_of_false (fun ⟨event, hevent, _⟩ => ?_) id
      rw [radio_emits_nothing hpasses] at hevent
      cases hevent

/-- A text in which a name of the gazetteer is has a place. -/
theorem located_of_name {tools : LocationTools} {text name : String}
    (hname : name ∈ Locations.listAliases tools)
    (hin : Classifier.isIn name (tools.lower text) = true)
    (hknown : (Locations.lookupPlace tools name).isSome = true) : Located (analysisOf tools) text :=
  Locations.located_of_name hname hin (Option.isSome_iff_ne_none.1 hknown)

/-- A text with two keywords of one type is classified, and above the gate of the radio. -/
theorem classified_of_hits {tools : LocationTools} {text : String} {k : String × List String}
    (hk : k ∈ Classifier.keywords)
    (hhits : 2 ≤ Classifier.hits tools.toTextTools (tools.lower text) k.2) :
    ((analysisOf tools).classify_event text).event_type ≠ "FALSE_ALARM" ∧
      4 / 10 ≤ ((analysisOf tools).classify_event text).confidence := by
  obtain ⟨-, -, hdefault, hhigh⟩ := Classifier.classify_gates tools.toTextTools text
  refine ⟨fun h => ?_, hhigh.2 ⟨k, hk, hhits⟩⟩
  have hnone := hdefault.1 h k hk
  omega

/-! ### A flood, on two ways -/

/-- What Python makes of ASCII, where spaCy finds nothing. -/
def demoTools : LocationTools where
  lower s := String.ofList (s.toList.map Char.toLower)
  isWord := Suppression.isAsciiWord
  strip s := String.ofList ((s.toList.dropWhile Char.isWhitespace).rdropWhile Char.isWhitespace)
  entities _ := []

/-- A report with two keywords of a flood. -/
def demoText : String := "Flood and flooding: floods displaced people in Mathare today"

/-- The keywords of a flood. -/
def floodKeywords : String × List String :=
  ("FLOOD",
    ["flood", "flooding", "mafuriko", "inundation", "submerged", "overflow", "river burst",
     "imefurika", "water level", "flash flood"])

theorem flood_mem : floodKeywords ∈ Classifier.keywords := List.mem_cons_self

/-- The gazetteer knows Mathare. -/
theorem mathare_demo : "mathare" ∈ Locations.listAliases demoTools ∧
    (Locations.lookupPlace demoTools "mathare").isSome = true := by
  rw [Locations.listAliases, List.mem_eraseDups]
  exact ⟨by decide +kernel, by decide +kernel⟩

/-- A machine. -/
def demoContext : Context where
  uuid4 := "00000000-0000-0000-0000-000000000001"
  now :=
    { year := 2026, month := 4, day := 28, hour := 9, minute := 0, second := 0, microsecond := 0
      year_lt := by decide, month_mem := by decide, day_mem := by decide, hour_lt := by decide
      minute_lt := by decide, second_lt := by decide, microsecond_lt := by decide }
  repr _ := ""

/-- An entry of a feed without a date. -/
def demoEntry : Entry := { title := some demoText }

theorem passes_demo :
    (Call.rss demoContext demoEntry "https://ntv.co.ke/feed/").Passes (analysisOf demoTools) := by
  obtain ⟨hmem, hknown⟩ := mathare_demo
  have hhits : 2 ≤ Classifier.hits demoTools.toTextTools (demoTools.lower demoEntry.text)
      floodKeywords.2 := by decide +kernel
  obtain ⟨htype, hconfidence⟩ := classified_of_hits flood_mem hhits
  have hin : Classifier.isIn "mathare" (demoTools.lower demoEntry.text) = true := by decide +kernel
  exact ⟨⟨rfl, rfl⟩, htype, le_trans (by norm_num) hconfidence, located_of_name hmem hin hknown⟩

/-- An event is emitted of it. -/
theorem can_emit_demo :
    ∃ event, (Call.rss demoContext demoEntry "https://ntv.co.ke/feed/").emitted
      (analysisOf demoTools) = [event] ∧ eventSchema.validates event = true :=
  (can_emit (analysisOf demoTools) passes_demo).2 (by rintro t ⟨⟩)

/-- A job of the radio. -/
def demoJob : JobData where
  id := "j1"
  type := Queue.taskType
  payload := { stream_id := "nation_fm", audio_url := "http://radio", captured_at := "" }
  status := "queued"
  created_at := ""
  attempts := some 0
  max_retries := some 3

/-- **No event is emitted of a transcript**, also where the same text is emitted by a feed. -/
theorem transcript_is_lost :
    ¬ ∀ (tools : LocationTools) (call : Call), call.Passes (analysisOf tools) →
      ∃ event, call.emitted (analysisOf tools) = [event] ∧ eventSchema.validates event = true := by
  intro hall
  obtain ⟨hmem, hknown⟩ := mathare_demo
  have hhits : 2 ≤ Classifier.hits demoTools.toTextTools (demoTools.lower demoText)
      floodKeywords.2 := by decide +kernel
  obtain ⟨-, hconfidence⟩ := classified_of_hits flood_mem hhits
  have hin : Classifier.isIn "mathare" (demoTools.lower demoText) = true := by decide +kernel
  have hpasses : (Call.radio { demoContext with transcript := some (.ok demoText) } demoJob).Passes
      (analysisOf demoTools) :=
    ⟨⟨rfl, rfl⟩, rfl, demoText, rfl, by decide, hconfidence, located_of_name hmem hin hknown⟩
  obtain ⟨event, hevent, -⟩ := hall demoTools _ hpasses
  rw [radio_emits_nothing hpasses] at hevent
  cases hevent

end Signal
end SentinelMesh
