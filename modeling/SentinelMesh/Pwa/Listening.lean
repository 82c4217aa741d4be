/-
# What the microphone is heard to say

The path of a sound in the browser: `process` of `public/audio-processor.js`, which copies the blocks that
the audio thread hands it into a buffer and posts the buffer when it is full, and `processWindow` of
`services/acousticDetectionService.ts` with `constants/acousticThreats.ts`, which names the threat that a
model scores highest.

The windows are the chunks of the stream of samples, whatever the blocks are (`posted_process`), so what
is detected depends on the sound alone (`detections_of_stream`).  A detection is the first of the threats
with the greatest score, at or above the threshold, and its fingerprint is that of the scores rounded to
hundredths (`acousticFingerprint_eq_iff`).
-/

import SentinelMesh.Lib.Chunks
import SentinelMesh.Lib.Run
import SentinelMesh.Pwa.LocationRoundTrip
import Mathlib.Data.List.MinMax
import Mathlib.Data.Rat.Floor

namespace SentinelMesh
namespace Pwa
namespace Listening

open Lib

/-! ### The audio worklet -/

variable {Sample : Type}

/-- `WINDOW_SAMPLES`. -/
def windowSamples : ℕ := 15360

/-- `SentinelAudioProcessor`: the buffer, of which the samples from the offset on are old. -/
structure Processor (Sample : Type) where
  buffer : List Sample
  offset : ℕ
  length_buffer : buffer.length = windowSamples
  offset_lt : offset < windowSamples

/-- `Float32Array.prototype.set`. -/
def setAt (buffer samples : List Sample) (offset : ℕ) : List Sample :=
  buffer.take offset ++ samples ++ buffer.drop (offset + samples.length)

theorem length_setAt {buffer samples : List Sample} {offset : ℕ}
    (h : offset + samples.length ≤ buffer.length) :
    (setAt buffer samples offset).length = buffer.length := by
  unfold setAt
  rw [List.length_append, List.length_append, List.length_take, List.length_drop]
  omega

/-- The samples that are copied in one turn of the loop. -/
def Processor.copied (p : Processor Sample) (channel : List Sample) : List Sample :=
  channel.take (min (windowSamples - p.offset) channel.length)

theorem Processor.length_copied (p : Processor Sample) (channel : List Sample) :
    (p.copied channel).length = min (windowSamples - p.offset) channel.length := by
  unfold Processor.copied
  rw [List.length_take]
  omega

theorem windowSamples_pos : 0 < windowSamples := by decide

theorem Processor.fits (p : Processor Sample) (channel : List Sample) :
    p.offset + (p.copied channel).length ≤ windowSamples := by
  have hcopied := p.length_copied channel
  have hoffset := p.offset_lt
  omega

/-- The buffer after a turn of the loop. -/
def Processor.filled (p : Processor Sample) (channel : List Sample) : List Sample :=
  setAt p.buffer (p.copied channel) p.offset

theorem Processor.length_filled (p : Processor Sample) (channel : List Sample) :
    (p.filled channel).length = windowSamples :=
  (length_setAt ((p.fits channel).trans_eq p.length_buffer.symm)).trans p.length_buffer

/-- A turn of the loop of `process` that leaves the buffer full posts it. -/
def Processor.turn (p : Processor Sample) (channel : List Sample) :
    Processor Sample × List (List Sample) :=
  if h : p.offset + (p.copied channel).length = windowSamples then
    (⟨p.filled channel, 0, p.length_filled channel, windowSamples_pos⟩, [p.filled channel])
  else
    (⟨p.filled channel, p.offset + (p.copied channel).length, p.length_filled channel,
      lt_of_le_of_ne (p.fits channel) h⟩, [])

/-- The loop of `process`, with the windows that are posted. -/
def Processor.copy (p : Processor Sample) (channel : List Sample) :
    Processor Sample × List (List Sample) :=
  if _h : channel = [] then (p, [])
  else
    let turned := p.turn channel
    let after := turned.1.copy (channel.drop (p.copied channel).length)
    (after.1, turned.2 ++ after.2)
termination_by channel.length
decreasing_by
  have hpos := List.length_pos_iff.2 _h
  have hcopied := p.length_copied channel
  have hoffset := p.offset_lt
  rw [List.length_drop]
  omega

/-- `process`: `channel` is `inputs[0]?.[0]`. -/
def Processor.process (p : Processor Sample) (channel : Option (List Sample)) :
    Processor Sample × List (List Sample) :=
  match channel with
  | none => (p, [])
  | some channel => p.copy channel

/-- The samples that wait for the buffer to be full. -/
def Processor.waiting (p : Processor Sample) : List Sample := p.buffer.take p.offset

/-- **A turn of the loop** adds what it copies to what waits, and posts that when it is a window. -/
theorem turn_spec (p : Processor Sample) (channel : List Sample) :
    (p.turn channel).2 = Chunks.whole windowSamples (p.waiting ++ p.copied channel) ∧
      (p.turn channel).1.waiting = Chunks.left windowSamples (p.waiting ++ p.copied channel) := by
  have hwaiting : p.waiting.length = p.offset := by
    unfold Processor.waiting
    rw [List.length_take, p.length_buffer]
    exact Nat.min_eq_left p.offset_lt.le
  have hlength : (p.waiting ++ p.copied channel).length = p.offset + (p.copied channel).length := by
    rw [List.length_append, hwaiting]
  have htake : (p.filled channel).take (p.offset + (p.copied channel).length) =
      p.waiting ++ p.copied channel := by
    unfold Processor.filled setAt
    exact List.take_left' hlength
  unfold Processor.turn
  split_ifs with hfull
  · have hfilled : p.filled channel = p.waiting ++ p.copied channel := by
      rw [← htake, hfull, ← p.length_filled channel, List.take_length]
    obtain ⟨hwhole, hleft⟩ := Chunks.whole_append_left windowSamples_pos (hlength.trans hfull) []
    rw [List.append_nil] at hwhole hleft
    rw [hwhole, hleft, Chunks.whole_of_lt windowSamples_pos, Chunks.left_of_lt windowSamples_pos]
    exact ⟨congrArg (fun window => [window]) hfilled, rfl⟩
  · have hlt := lt_of_le_of_ne (p.fits channel) hfull
    rw [Chunks.whole_of_lt (hlength.trans_lt hlt), Chunks.left_of_lt (hlength.trans_lt hlt)]
    exact ⟨rfl, htake⟩

/-- **The loop** posts the chunks of what waits and the block, and keeps what is left. -/
theorem copy_spec (p : Processor Sample) (channel : List Sample) :
    (p.copy channel).2 = Chunks.whole windowSamples (p.waiting ++ channel) ∧
      (p.copy channel).1.waiting = Chunks.left windowSamples (p.waiting ++ channel) := by
  induction p, channel using Processor.copy.induct with
  | case1 p =>
      have hlt : (p.waiting ++ []).length < windowSamples := by
        rw [List.append_nil, Processor.waiting, List.length_take]
        exact (Nat.min_le_left _ _).trans_lt p.offset_lt
      rw [Processor.copy, dif_pos rfl, Chunks.whole_of_lt hlt, Chunks.left_of_lt hlt, List.append_nil]
      exact ⟨rfl, rfl⟩
  | case2 p channel hne turned ih =>
      obtain ⟨hposted, hwaiting⟩ := turn_spec p channel
      have hblock : p.copied channel ++ channel.drop (p.copied channel).length = channel := by
        unfold Processor.copied
        rw [List.length_take, Nat.min_eq_left (Nat.min_le_right _ _), List.take_append_drop]
      obtain ⟨hwhole, hleft⟩ := Chunks.whole_append windowSamples_pos (p.waiting ++ p.copied channel)
        (channel.drop (p.copied channel).length)
      rw [List.append_assoc, hblock, ← hposted, ← hwaiting] at hwhole
      rw [List.append_assoc, hblock, ← hwaiting] at hleft
      rw [Processor.copy, dif_neg hne, hwhole, hleft]
      exact ⟨congrArg _ ih.1, ih.2⟩

/-- **The windows of a block.** -/
theorem process_spec (p : Processor Sample) (channel : Option (List Sample)) :
    (p.process channel).2 = Chunks.whole windowSamples (p.waiting ++ channel.getD []) ∧
      (p.process channel).1.waiting = Chunks.left windowSamples (p.waiting ++ channel.getD []) := by
  cases channel with
  | none =>
      have hnil := copy_spec p []
      rw [Processor.copy, dif_pos rfl] at hnil
      exact hnil
  | some channel => exact copy_spec p channel

/-! ### Threats -/

/-- `ThreatCategory`. -/
inductive ThreatCategory
  | securityIncident
  | fire
  | civilUnrest
  | accident
  deriving DecidableEq

/-- A row of `YAMNET_THREAT_MAP`. -/
structure ThreatEntry where
  classIndex : ℕ
  label : String
  category : ThreatCategory
  deriving DecidableEq

/-- `ThreatDetection`. -/
structure ThreatDetection extends ThreatEntry where
  confidence : ℚ
  fingerprint : Option String := none
  deriving DecidableEq

/-- `DETECTION_THRESHOLD`: the double that `0.80` is. -/
def detectionThreshold : ℚ := 3602879701896397 / 4503599627370496

/-- `YAMNET_THREAT_MAP`. -/
def yamnetThreatMap : List ThreatEntry :=
  [⟨427, "Gunshot", .securityIncident⟩, ⟨429, "Explosion", .securityIncident⟩,
   ⟨25, "Screaming", .securityIncident⟩, ⟨26, "Yell", .securityIncident⟩,
   ⟨60, "Glass breaking", .securityIncident⟩, ⟨345, "Crowd", .civilUnrest⟩,
   ⟨401, "Fire alarm", .fire⟩, ⟨402, "Smoke detector", .fire⟩,
   ⟨504, "Crash", .accident⟩, ⟨505, "Car crash", .accident⟩]

/-- The body of the loop of `getThreatFromScores`. -/
def consider (scores : List ℚ) (best : Option ThreatDetection) (entry : ThreatEntry) :
    Option ThreatDetection :=
  match scores[entry.classIndex]? with
  | none => best
  | some confidence =>
    if detectionThreshold ≤ confidence then
      match best with
      | none => some { entry with confidence }
      | some b => if b.confidence < confidence then some { entry with confidence } else best
    else best

/-- `getThreatFromScores`. -/
def getThreatFromScores (scores : List ℚ) : Option ThreatDetection :=
  yamnetThreatMap.foldl (consider scores) none

/-- `Math.round`. -/
def mathRound (x : ℚ) : ℤ := ⌊x + 1 / 2⌋

/-- What `acousticFingerprint` hashes. -/
def summary : List ℚ → String
  | [] => ""
  | score :: scores => toString (mathRound (score * 100)) ++ (String.singleton ',' ++ summary scores)

/-- The model and the hash. -/
structure Env (Sample : Type) where
  predict : List Sample → List ℚ
  sha256Hex : String → String

/-- `acousticFingerprint`. -/
def acousticFingerprint (sha256Hex : String → String) (scores : List ℚ) : String :=
  sha256Hex (summary scores)

/-- `processWindow`: what `onThreat` is called with, if it is. -/
def processWindow (env : Env Sample) (samples : List Sample) : Option ThreatDetection :=
  let scores := env.predict samples
  (getThreatFromScores scores).map fun threat =>
    { threat with fingerprint := some (acousticFingerprint env.sha256Hex scores) }

/-- A row whose score reaches the threshold, with the score. -/
def reached (scores : List ℚ) (entry : ThreatEntry) : Option ThreatDetection :=
  (scores[entry.classIndex]?).bind fun confidence =>
    if detectionThreshold ≤ confidence then some { entry with confidence } else none

/-- **The threat is the first with the greatest score**, of those that reach the threshold. -/
theorem getThreatFromScores_eq_argmax (scores : List ℚ) :
    getThreatFromScores scores =
      (yamnetThreatMap.filterMap (reached scores)).argmax ThreatDetection.confidence := by
  unfold getThreatFromScores List.argmax
  rw [List.foldl_filterMap]
  congr 1
  funext best entry
  unfold consider reached
  cases scores[entry.classIndex]? with
  | none => rfl
  | some confidence =>
      simp only [Option.bind_some]
      split_ifs
      · cases best <;> rfl
      · rfl

/-! ### The stream -/

/-- The worklet, with the windows that were posted. -/
structure Worklet (Sample : Type) where
  processor : Processor Sample
  posted : List (List Sample) := []

/-- The processor that is constructed, with an array of zeros. -/
def Worklet.init (zero : Sample) : Worklet Sample :=
  { processor := ⟨List.replicate windowSamples zero, 0, List.length_replicate, windowSamples_pos⟩ }

/-- The audio thread calls `process`. -/
def step (w : Worklet Sample) (channel : Option (List Sample)) : Worklet Sample :=
  let (processor, windows) := w.processor.process channel
  { processor, posted := w.posted ++ windows }

/-- The samples of the blocks. -/
def stream (calls : List (Option (List Sample))) : List Sample := calls.flatMap fun c => c.getD []

/-- **What is posted are the chunks of the stream**, and the rest of it waits. -/
theorem posted_run (zero : Sample) (calls : List (Option (List Sample))) :
    (run step (Worklet.init zero) calls).posted = Chunks.whole windowSamples (stream calls) ∧
      (run step (Worklet.init zero) calls).processor.waiting =
        Chunks.left windowSamples (stream calls) := by
  induction calls using List.reverseRecOn with
  | nil =>
      rw [run_nil, stream, List.flatMap_nil, Chunks.whole_of_lt windowSamples_pos,
        Chunks.left_of_lt windowSamples_pos]
      exact ⟨rfl, rfl⟩
  | append_singleton calls channel ih =>
      obtain ⟨hposted, hwaiting⟩ := ih
      have hstream : stream (calls ++ [channel]) = stream calls ++ channel.getD [] := by
        unfold stream
        rw [List.flatMap_append, List.flatMap_singleton]
      obtain ⟨hwindows, hleft⟩ := process_spec (run step (Worklet.init zero) calls).processor channel
      obtain ⟨hwhole', hleft'⟩ := Chunks.whole_append windowSamples_pos (stream calls) (channel.getD [])
      rw [run_concat, hstream, hwhole', hleft', ← hposted, ← hwaiting, ← hwindows, ← hleft]
      exact ⟨rfl, rfl⟩

/-- What is detected in what the audio thread hands over. -/
def heard (env : Env Sample) (zero : Sample) (calls : List (Option (List Sample))) :
    List ThreatDetection :=
  (run step (Worklet.init zero) calls).posted.filterMap (processWindow env)

theorem mem_reached {scores : List ℚ} {d : ThreatDetection} :
    d ∈ yamnetThreatMap.filterMap (reached scores) ↔
      ∃ entry ∈ yamnetThreatMap, ∃ confidence, scores[entry.classIndex]? = some confidence ∧
        detectionThreshold ≤ confidence ∧ { entry with confidence } = d := by
  rw [List.mem_filterMap]
  unfold reached
  refine exists_congr fun entry => and_congr_right fun _ => ?_
  rw [Option.bind_eq_some_iff]
  refine exists_congr fun confidence => and_congr_right fun _ => ?_
  split_ifs with hreached
  · simp [hreached]
  · simp [hreached]

/-- **What is detected depends on the sound alone**, not on the blocks in which it is handed over: it is
what the model makes of the windows of the stream.  Of a window the threat is one with the greatest score
of all, which reaches the threshold; and there is none where no score does. -/
theorem detections_of_stream (env : Env Sample) (zero : Sample) (calls : List (Option (List Sample))) :
    heard env zero calls =
        (Chunks.whole windowSamples (stream calls)).filterMap (processWindow env) ∧
      ∀ samples,
        (∀ d, processWindow env samples = some d →
          d.toThreatEntry ∈ yamnetThreatMap ∧ detectionThreshold ≤ d.confidence ∧
            (env.predict samples)[d.classIndex]? = some d.confidence ∧
            ∀ entry ∈ yamnetThreatMap, ∀ c, (env.predict samples)[entry.classIndex]? = some c →
              c ≤ d.confidence) ∧
        (processWindow env samples = none ↔ ∀ entry ∈ yamnetThreatMap, ∀ c,
          (env.predict samples)[entry.classIndex]? = some c → c < detectionThreshold) := by
  refine ⟨congrArg _ (posted_run zero calls).1, fun samples => ⟨fun d hd => ?_, ?_⟩⟩
  · unfold processWindow at hd
    obtain ⟨threat, hthreat, rfl⟩ := Option.map_eq_some_iff.1 hd
    rw [getThreatFromScores_eq_argmax] at hthreat
    obtain ⟨entry, hentry, confidence, hscore, hreached, rfl⟩ := mem_reached.1 (List.argmax_mem hthreat)
    refine ⟨hentry, hreached, hscore, fun other hother c hc => ?_⟩
    rcases le_or_gt detectionThreshold c with hle | hlt
    · exact List.le_of_mem_argmax (mem_reached.2 ⟨other, hother, c, hc, hle, rfl⟩) hthreat
    · exact hlt.le.trans hreached
  · unfold processWindow
    rw [Option.map_eq_none_iff, getThreatFromScores_eq_argmax, List.argmax_eq_none,
      List.eq_nil_iff_forall_not_mem]
    constructor
    · intro hnone entry hentry c hc
      by_contra hle
      exact hnone _ (mem_reached.2 ⟨entry, hentry, c, hc, not_lt.1 hle, rfl⟩)
    · intro hbelow d hd
      obtain ⟨entry, hentry, confidence, hscore, hreached, -⟩ := mem_reached.1 hd
      exact absurd hreached (not_le.2 (hbelow entry hentry confidence hscore))

/-! ### The fingerprint -/

/-- A score, in hundredths. -/
def hundredths (score : ℚ) : ℤ := mathRound (score * 100)

theorem comma_notMem (z : ℤ) : ',' ∉ (toString z).toList := by
  intro hin
  rw [CircleLocation.toList_toString] at hin
  split_ifs at hin
  · rcases List.mem_cons.1 hin with hsign | hdigit
    · exact absurd hsign (by decide)
    · exact absurd (CircleLocation.isDigit_of_mem_toDigits hdigit) (by decide)
  · exact absurd (CircleLocation.isDigit_of_mem_toDigits hin) (by decide)

/-- The summary is read back, number by number. -/
theorem summary_eq_iff (scores scores' : List ℚ) :
    summary scores = summary scores' ↔ scores.map hundredths = scores'.map hundredths := by
  have hne : ∀ score scores, summary (score :: scores) ≠ "" := by
    intro score scores hempty
    have hlist := congrArg String.toList hempty
    simp [summary] at hlist
  induction scores generalizing scores' with
  | nil =>
      cases scores' with
      | nil => simp
      | cons score' scores' => exact iff_of_false (hne score' scores').symm (by simp)
  | cons score scores ih =>
      cases scores' with
      | nil => exact iff_of_false (hne score scores) (by simp)
      | cons score' scores' =>
          rw [summary, summary, field_inj (comma_notMem _) (comma_notMem _), List.map_cons, List.map_cons,
            List.cons.injEq]
          exact and_congr ⟨CircleLocation.toString_int_inj, congrArg toString⟩ (ih scores')

/-- **A fingerprint tells scores apart up to a hundredth**: two vectors have the same one exactly if they
are as long and round alike, where the hash does not take their two texts to one digest. -/
theorem acousticFingerprint_eq_iff {sha256Hex : String → String} {scores scores' : List ℚ}
    (hsha : sha256Hex (summary scores) = sha256Hex (summary scores') → summary scores = summary scores') :
    acousticFingerprint sha256Hex scores = acousticFingerprint sha256Hex scores' ↔
      scores.map hundredths = scores'.map hundredths :=
  ⟨fun h => (summary_eq_iff scores scores').1 (hsha h),
    fun h => congrArg sha256Hex ((summary_eq_iff scores scores').2 h)⟩

/-- The digests of the two summaries below. -/
def demoSha256 (text : String) : String :=
  if text = "50,81," then "32959defef352b3d189a32020e9622c8dcb2bb20343eedbe70e7b51baf273d5a"
  else "ae5ffdb1e268b4746ce14ecf9a9ddbab5f70ec42f13cd6328f0bef21dcad65c7"

/-- Scores that differ by more than a hundredth. -/
theorem acousticFingerprint_eq_iff_demo :
    acousticFingerprint demoSha256 [1 / 2, 13 / 16] ≠ acousticFingerprint demoSha256 [1 / 2, 25 / 32] := by
  have hfirst : summary [1 / 2, 13 / 16] = "50,81," := by decide +kernel
  have hsecond : summary [1 / 2, 25 / 32] = "50,78," := by decide +kernel
  refine fun heq => absurd ((acousticFingerprint_eq_iff fun h => ?_).1 heq) (by decide +kernel)
  rw [hfirst, hsecond] at h
  exact absurd h (by decide +kernel)

end Listening
end Pwa
end SentinelMesh
