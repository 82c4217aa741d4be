/-
# The weights of a cluster in exact arithmetic

`compute_weights` and the scores of `process_cluster`, with the rounding of each operation as a
parameter: `computeWeightsWith single` is the function as it runs (`computeWeightsWith_single`,
`score_of_assess`), and `computeWeightsWith id` the same function over the rationals, which this
module is about.  `validate_signal_body` of `routes/acoustic.rs` is here too, with the row that
`submit_signal` writes of what it accepts.

`computeWeightsWith_id` says what the weights are: the decayed trust of a signal times what the
cap leaves of its key.  The orders in which the maps are iterated drop out there.  `bounded_mean`
follows: the weights are positive and sum to the mass, the raw score is a mean of the confidences,
the adjusted one between half of it and all of it, and the order of the signals does not matter.

The cap is a quarter of the total before anything is cut off, and the share of a key is of the
total after that.  `capped_share_iff` says when the first bounds the second: when no key had more
than a quarter to begin with, in which case there was nothing to cut.
-/

import SentinelMesh.Acoustic.Synthesis
import SentinelMesh.Lib.WeightedMean
import Mathlib.Data.Finset.Max

namespace SentinelMesh
namespace Acoustic

open Lib

/-! ### What is submitted -/

/-- `SubmitSignalBody`, the numbers exact. -/
structure SubmitSignalBody where
  client_id : Uuid
  threat_class : String
  confidence : ℚ
  confidence_variance : Option ℚ
  lat : ℚ
  lng : ℚ
  model_version : String
  threshold_profile : String
  inference_backend : String
  processing_latency : Option ℤ
  dropped_frames : ℤ
  device_category : Option String
  signal_fingerprint : Option String
  schema_version : Option ℤ
  deriving DecidableEq

/-- `validate_signal_body`. -/
def validateSignalBody (body : SubmitSignalBody) : Except AppError Unit := do
  ensure (decide (0 ≤ body.confidence ∧ body.confidence ≤ 1))
    (.badRequest "confidence must be 0.0–1.0")
  ensure (body.confidence_variance.all fun v => decide (0 ≤ v ∧ v ≤ 1))
    (.badRequest "confidence_variance must be 0.0–1.0")
  ensure (decide (-90 ≤ body.lat ∧ body.lat ≤ 90)) (.badRequest "lat out of range")
  ensure (decide (-180 ≤ body.lng ∧ body.lng ≤ 180)) (.badRequest "lng out of range")
  ensure (decide (body.threat_class ≠ "")) (.badRequest "threat_class must not be empty")
  ensure (decide (body.model_version ≠ "")) (.badRequest "model_version must not be empty")
  ensure (decide (0 ≤ body.dropped_frames)) (.badRequest "dropped_frames must be non-negative")

/-- The row that `submit_signal` inserts, as far as clusters read it; `cells` are those of
`h3_cells_from`. -/
def SubmitSignalBody.signal (body : SubmitSignalBody) (pubkey : Pubkey) (cells : String × String)
    (received_at : Timestamp) : Signal :=
  { pubkey
    threat_class := body.threat_class
    confidence := body.confidence
    confidence_variance := body.confidence_variance
    h3_r9 := some cells.1
    h3_r7 := cells.2
    received_at
    signal_fingerprint := body.signal_fingerprint }

/-- The signal was submitted, and may have been promoted since. -/
def Submitted (g : Signal) : Prop :=
  ∃ body cells, validateSignalBody body = .ok () ∧
    g = { body.signal g.pubkey cells g.received_at with trust_state := g.trust_state }

/-- What is submitted has its confidence and its variance between zero and one. -/
theorem Submitted.bounds {g : Signal} (h : Submitted g) :
    0 ≤ g.confidence_variance.getD 0 ∧ g.confidence_variance.getD 0 ≤ 1 ∧ 0 ≤ g.confidence ∧
      g.confidence ≤ 1 := by
  obtain ⟨body, cells, hvalid, hrow⟩ := h
  unfold validateSignalBody at hvalid
  simp only [bind_eq_ok, ensure_eq_ok, decide_eq_true_eq] at hvalid
  obtain ⟨_, hconfidence, _, hvariance, _⟩ := hvalid
  have hc : g.confidence = body.confidence := congrArg Signal.confidence hrow
  have hv : g.confidence_variance = body.confidence_variance :=
    congrArg Signal.confidence_variance hrow
  rw [hc, hv]
  cases hbody : body.confidence_variance with
  | none => exact ⟨le_refl 0, zero_le_one, hconfidence⟩
  | some v =>
      rw [hbody] at hvariance
      have hv01 : 0 ≤ v ∧ v ≤ 1 := of_decide_eq_true hvariance
      exact ⟨hv01.1, hv01.2, hconfidence⟩

/-! ### The functions, with the rounding given -/

section Rounded

variable (round : ℚ → ℚ)

/-- A sum, rounded after each addition. -/
def sumWith (xs : List ℚ) : ℚ := xs.foldl (fun sum x => round (sum + x)) 0

/-- The trust in a signal of that age, none beyond the cutoff. -/
def decayedTrustWith (now : Timestamp) (g : Signal) : Option ℚ :=
  let age := (now - g.received_at).tdiv 1000000
  if temporalCutoffSecs < age then none
  else some (round (round (2 / 5) * if temporalHalfWeightSecs < age then 1 / 2 else 1))

/-- The signals inside the cutoff, with their trust. -/
def decayedWith (signals : List SignalRow) (now : Timestamp) : List (SignalRow × ℚ) :=
  signals.filterMap fun r => (decayedTrustWith round now r.2).map fun trust => (r, trust)

/-- `pubkey_trust`. -/
def pubkeyTrustWith (decayed : List (SignalRow × ℚ)) (pubkey : Pubkey) : ℚ :=
  sumWith round ((decayed.filter fun d => decide (d.1.2.pubkey = pubkey)).map Prod.snd)

/-- `compute_weights`. -/
def computeWeightsWith (orders : List Pubkey × List Pubkey) (signals : List SignalRow)
    (now : Timestamp) : Weights :=
  let decayed := decayedWith round signals now
  if decayed = [] then { weighted := [], total_trust_mass := 0, numerator := 0, total_conf_var := 0 }
  else
    let pubkey_trust := pubkeyTrustWith round decayed
    let pubkeys := (decayed.map fun d => d.1.2.pubkey).dedup
    let total_uncapped := sumWith round ((iterated orders.1 pubkeys).map pubkey_trust)
    let trust_cap := round (1 / 4 * total_uncapped)
    let capped := fun pubkey => min (pubkey_trust pubkey) trust_cap
    let signal_trust := fun (d : SignalRow × ℚ) =>
      if 0 < pubkey_trust d.1.2.pubkey then
        round (d.2 * round (capped d.1.2.pubkey / pubkey_trust d.1.2.pubkey))
      else 0
    { weighted := decayed.map fun d => (d.1, signal_trust d)
      total_trust_mass := sumWith round ((iterated orders.2 pubkeys).map capped)
      numerator := sumWith round (decayed.map fun d => round (signal_trust d * d.1.2.confidence))
      total_conf_var := sumWith round (decayed.map fun d => d.1.2.confidence_variance.getD 0) }

/-- The scores of `process_cluster`. -/
structure Scores where
  cluster_score_raw : ℚ
  mean_conf_var : ℚ
  cluster_score_adj : ℚ
  deriving DecidableEq

/-- The scores, from the weights. -/
def scoresWith (weights : Weights) : Scores :=
  let cluster_score_raw :=
    if 0 < weights.total_trust_mass then round (weights.numerator / weights.total_trust_mass) else 0
  let mean_conf_var := round (weights.total_conf_var / round weights.weighted.length)
  { cluster_score_raw
    mean_conf_var
    cluster_score_adj := round (cluster_score_raw * round (1 - round (1 / 2 * mean_conf_var))) }

end Rounded

/-- With the rounding of singles it is the function that runs. -/
theorem computeWeightsWith_single (orders : List Pubkey × List Pubkey) (signals : List SignalRow)
    (now : Timestamp) :
    computeWeightsWith single orders signals now = computeWeights orders signals now := rfl

/-- The scores of a cluster that is promoted. -/
theorem score_of_assess {orders : List Pubkey × List Pubkey} {signals : List SignalRow}
    {now : Timestamp} {c : Cluster} (h : assess orders signals now = some c) :
    scoresWith single (computeWeightsWith single orders signals now) =
      { cluster_score_raw := c.cluster_score_raw
        mean_conf_var := c.mean_conf_var
        cluster_score_adj := c.cluster_score_adj } := by
  unfold assess at h
  split at h
  · cases h
  · split at h
    · cases h
    · dsimp only at h
      rw [← computeWeightsWith_single] at h
      generalize computeWeightsWith single orders _ now = weights at h ⊢
      unfold scoresWith
      by_cases hmass : 0 < weights.total_trust_mass
      · rw [if_pos hmass] at h ⊢
        split_ifs at h
        obtain rfl := Option.some.inj h
        rfl
      · rw [if_neg hmass] at h ⊢
        split_ifs at h
        obtain rfl := Option.some.inj h
        rfl

/-! ### In exact arithmetic -/

/-- The key of a signal. -/
def keyOf (d : SignalRow × ℚ) : Pubkey := d.1.2.pubkey

/-- The keys, each once. -/
def keysOf (decayed : List (SignalRow × ℚ)) : List Pubkey := (decayed.map keyOf).dedup

/-- The trust in the signals of a key. -/
def trustOf (decayed : List (SignalRow × ℚ)) (pubkey : Pubkey) : ℚ :=
  groupSum keyOf Prod.snd decayed pubkey

/-- What the cap leaves of it. -/
def cappedOf (decayed : List (SignalRow × ℚ)) (pubkey : Pubkey) : ℚ :=
  min (trustOf decayed pubkey) (1 / 4 * ((keysOf decayed).map (trustOf decayed)).sum)

/-- The weight of a signal. -/
def weightOf (decayed : List (SignalRow × ℚ)) (d : SignalRow × ℚ) : ℚ :=
  d.2 * (cappedOf decayed (keyOf d) / trustOf decayed (keyOf d))

/-- `total_trust_mass`. -/
def massOf (decayed : List (SignalRow × ℚ)) : ℚ := ((keysOf decayed).map (cappedOf decayed)).sum

/-- `numerator`. -/
def numeratorOf (decayed : List (SignalRow × ℚ)) : ℚ :=
  (decayed.map fun d => weightOf decayed d * d.1.2.confidence).sum

/-- `total_conf_var`. -/
def varianceOf (decayed : List (SignalRow × ℚ)) : ℚ :=
  (decayed.map fun d => d.1.2.confidence_variance.getD 0).sum

@[simp] theorem sumWith_id (xs : List ℚ) : sumWith id xs = xs.sum := List.sum_eq_foldl.symm

theorem iterated_perm (order keys : List Pubkey) : (iterated order keys).Perm keys := by
  unfold iterated
  split_ifs with h
  · exact h
  · exact List.Perm.refl keys

theorem pubkeyTrustWith_id (decayed : List (SignalRow × ℚ)) :
    pubkeyTrustWith id decayed = trustOf decayed := by
  funext pubkey
  exact sumWith_id _

/-- A signal inside the cutoff is trusted. -/
theorem decayed_pos (signals : List SignalRow) (now : Timestamp) :
    ∀ d ∈ decayedWith id signals now, 0 < d.2 := by
  intro d hd
  obtain ⟨r, _, hr⟩ := List.mem_filterMap.1 hd
  obtain ⟨trust, htrust, rfl⟩ := Option.map_eq_some_iff.1 hr
  unfold decayedTrustWith at htrust
  dsimp only [id] at htrust
  split_ifs at htrust <;>
    · obtain rfl := Option.some.inj htrust
      norm_num

section Decayed

variable {decayed : List (SignalRow × ℚ)}

theorem keyOf_mem {d : SignalRow × ℚ} (hd : d ∈ decayed) : keyOf d ∈ keysOf decayed :=
  List.mem_dedup.2 (List.mem_map_of_mem hd)

/-- The keys together are trusted as the signals are. -/
theorem sum_trustOf (decayed : List (SignalRow × ℚ)) :
    ((keysOf decayed).map (trustOf decayed)).sum = (decayed.map Prod.snd).sum :=
  sum_groupSum keyOf Prod.snd (List.nodup_dedup _) decayed fun _ => keyOf_mem

variable (hpos : ∀ d ∈ decayed, 0 < d.2)

include hpos

theorem trustOf_pos {d : SignalRow × ℚ} (hd : d ∈ decayed) : 0 < trustOf decayed (keyOf d) :=
  groupSum_pos keyOf hpos hd

theorem cappedOf_pos {d : SignalRow × ℚ} (hd : d ∈ decayed) : 0 < cappedOf decayed (keyOf d) := by
  have htotal : 0 < (decayed.map Prod.snd).sum := sum_map_pos hpos (List.ne_nil_of_mem hd)
  refine lt_min (trustOf_pos hpos hd) ?_
  rw [sum_trustOf]
  exact mul_pos (by norm_num) htotal

theorem weightOf_pos {d : SignalRow × ℚ} (hd : d ∈ decayed) : 0 < weightOf decayed d :=
  mul_pos (hpos d hd) (div_pos (cappedOf_pos hpos hd) (trustOf_pos hpos hd))

theorem cappedOf_of_notMem {pubkey : Pubkey} (hkey : pubkey ∉ keysOf decayed) :
    trustOf decayed pubkey = 0 ∧ cappedOf decayed pubkey = 0 := by
  have hnone : decayed.filter (fun d => decide (keyOf d = pubkey)) = [] := by
    refine List.filter_eq_nil_iff.2 fun d hd hd' => hkey ?_
    rw [← of_decide_eq_true hd']
    exact keyOf_mem hd
  have htrust : trustOf decayed pubkey = 0 := by
    unfold trustOf groupSum
    rw [hnone]
    rfl
  have htotal : 0 ≤ (decayed.map Prod.snd).sum :=
    List.sum_nonneg (List.forall_mem_map.2 fun d hd => (hpos d hd).le)
  refine ⟨htrust, ?_⟩
  unfold cappedOf
  rw [htrust, sum_trustOf]
  exact min_eq_left (mul_nonneg (by norm_num) htotal)

/-- **The weights of a key** sum to what the cap leaves of its trust. -/
theorem groupSum_weightOf (pubkey : Pubkey) :
    groupSum keyOf (weightOf decayed) decayed pubkey = cappedOf decayed pubkey := by
  have hscaled := groupSum_scaled keyOf Prod.snd
    (fun pubkey => cappedOf decayed pubkey / trustOf decayed pubkey) decayed pubkey
  refine hscaled.trans ?_
  by_cases hkey : pubkey ∈ keysOf decayed
  · obtain ⟨d, hd, rfl⟩ := List.mem_map.1 (List.mem_dedup.1 hkey)
    exact mul_div_cancel₀ _ (trustOf_pos hpos hd).ne'
  · obtain ⟨htrust, hcapped⟩ := cappedOf_of_notMem hpos hkey
    rw [hcapped, zero_div, mul_zero]

/-- **The weights sum to the mass.** -/
theorem sum_weightOf : (decayed.map (weightOf decayed)).sum = massOf decayed := by
  rw [← sum_groupSum keyOf (weightOf decayed) (List.nodup_dedup _) decayed fun _ => keyOf_mem]
  exact congrArg List.sum (List.map_congr_left fun pubkey _ => groupSum_weightOf hpos pubkey)

end Decayed

/-- **What `compute_weights` computes.** -/
theorem computeWeightsWith_id (orders : List Pubkey × List Pubkey) (signals : List SignalRow)
    (now : Timestamp) :
    computeWeightsWith id orders signals now =
      let decayed := decayedWith id signals now
      { weighted := decayed.map fun d => (d.1, weightOf decayed d)
        total_trust_mass := massOf decayed
        numerator := numeratorOf decayed
        total_conf_var := varianceOf decayed } := by
  have hpos := decayed_pos signals now
  unfold computeWeightsWith
  generalize decayedWith id signals now = decayed at hpos ⊢
  dsimp only [id]
  split_ifs with hempty
  · subst hempty
    rfl
  · simp only [pubkeyTrustWith_id, sumWith_id]
    have huncapped : ((iterated orders.1 (decayed.map fun d => d.1.2.pubkey).dedup).map
        (trustOf decayed)).sum = ((keysOf decayed).map (trustOf decayed)).sum :=
      ((iterated_perm orders.1 _).map _).sum_eq
    rw [huncapped]
    have hweight : ∀ d ∈ decayed, (if 0 < trustOf decayed d.1.2.pubkey then
        d.2 * (cappedOf decayed d.1.2.pubkey / trustOf decayed d.1.2.pubkey) else 0) =
          weightOf decayed d := fun d hd => if_pos (trustOf_pos hpos hd)
    congr 1
    · exact List.map_congr_left fun d hd => congrArg (Prod.mk d.1) (hweight d hd)
    · exact ((iterated_perm orders.2 _).map _).sum_eq
    · exact congrArg List.sum (List.map_congr_left fun d hd =>
        congrArg (· * d.1.2.confidence) (hweight d hd))

/-! ### A bounded mean -/

/-- The signal is inside the cutoff. -/
def Signal.inside (now : Timestamp) (g : Signal) : Bool :=
  decide ((now - g.received_at).tdiv 1000000 ≤ temporalCutoffSecs)

/-- The weights are those of the signals inside the cutoff, positive, and sum to the mass; the raw
score is between the smallest and the largest confidence, the adjusted one between half of it and
all of it; and what is divided by is not zero. -/
structure BoundedMean (signals : List SignalRow) (now : Timestamp) (weights : Weights)
    (scores : Scores) : Prop where
  included : weights.weighted.map Prod.fst = signals.filter fun r => r.2.inside now
  positive : ∀ d ∈ weights.weighted, 0 < d.2
  mass : (weights.weighted.map Prod.snd).sum = weights.total_trust_mass
  smallest : ∃ d ∈ weights.weighted,
    (∀ d' ∈ weights.weighted, d.1.2.confidence ≤ d'.1.2.confidence) ∧
      d.1.2.confidence ≤ scores.cluster_score_raw
  largest : ∃ d ∈ weights.weighted,
    (∀ d' ∈ weights.weighted, d'.1.2.confidence ≤ d.1.2.confidence) ∧
      scores.cluster_score_raw ≤ d.1.2.confidence
  half : scores.cluster_score_raw / 2 ≤ scores.cluster_score_adj
  full : scores.cluster_score_adj ≤ scores.cluster_score_raw
  trust_ne : ∀ d ∈ weights.weighted,
    pubkeyTrustWith id (decayedWith id signals now) d.1.2.pubkey ≠ 0
  mass_ne : weights.total_trust_mass ≠ 0
  count_ne : (weights.weighted.length : ℚ) ≠ 0

/-- The signals that are weighed. -/
theorem decayed_fst (signals : List SignalRow) (now : Timestamp) :
    (decayedWith id signals now).map Prod.fst = signals.filter fun r => r.2.inside now := by
  unfold decayedWith
  induction signals with
  | nil => rfl
  | cons r signals ih =>
      by_cases hold : temporalCutoffSecs < (now - r.2.received_at).tdiv 1000000
      · have hnone : decayedTrustWith id now r.2 = none := if_pos hold
        have hout : r.2.inside now = false := decide_eq_false (not_le.2 hold)
        rw [List.filterMap_cons_none (by rw [hnone]; rfl),
          List.filter_cons_of_neg (by rw [hout]; decide), ih]
      · obtain ⟨trust, hsome⟩ : ∃ trust, decayedTrustWith id now r.2 = some trust :=
          ⟨_, if_neg hold⟩
        have hin : r.2.inside now = true := decide_eq_true (not_lt.1 hold)
        have hfilter : (r :: signals).filter (fun r => r.2.inside now) =
            r :: signals.filter fun r => r.2.inside now := List.filter_cons_of_pos hin
        rw [List.filterMap_cons_some (by rw [hsome]; rfl), List.map_cons,
          hfilter, ih]

/-- What is weighed was among the signals. -/
theorem decayed_mem {signals : List SignalRow} {now : Timestamp} {d : SignalRow × ℚ}
    (hd : d ∈ decayedWith id signals now) : d.1 ∈ signals := by
  have hmem := List.mem_map_of_mem (f := Prod.fst) hd
  rw [decayed_fst] at hmem
  exact (List.mem_filter.1 hmem).1

section Order

variable {decayed decayed' : List (SignalRow × ℚ)}

theorem cappedOf_perm (h : decayed.Perm decayed') : cappedOf decayed = cappedOf decayed' := by
  have htrust : trustOf decayed = trustOf decayed' := funext (groupSum_perm keyOf Prod.snd h)
  have htotal : ((keysOf decayed).map (trustOf decayed')).sum =
      ((keysOf decayed').map (trustOf decayed')).sum := (((h.map keyOf).dedup).map _).sum_eq
  funext pubkey
  unfold cappedOf
  rw [htrust, htotal]

theorem weightOf_perm (h : decayed.Perm decayed') : weightOf decayed = weightOf decayed' := by
  have htrust : trustOf decayed = trustOf decayed' := funext (groupSum_perm keyOf Prod.snd h)
  funext d
  unfold weightOf
  rw [htrust, cappedOf_perm h]

end Order

section Mean

variable {decayed : List (SignalRow × ℚ)} (hpos : ∀ d ∈ decayed, 0 < d.2)

include hpos

theorem mass_pos (hne : decayed ≠ []) : 0 < massOf decayed := by
  rw [← sum_weightOf hpos]
  exact sum_map_pos (fun _ => weightOf_pos hpos) hne

/-- The raw score is at least a lower bound of the confidences. -/
theorem le_raw (hne : decayed ≠ []) {lo : ℚ} (hlo : ∀ d ∈ decayed, lo ≤ d.1.2.confidence) :
    lo ≤ numeratorOf decayed / massOf decayed := by
  rw [le_div_iff₀ (mass_pos hpos hne), ← sum_weightOf hpos]
  exact mul_sum_le (fun d hd => (weightOf_pos hpos hd).le) hlo

/-- The raw score is at most an upper bound of the confidences. -/
theorem raw_le (hne : decayed ≠ []) {hi : ℚ} (hhi : ∀ d ∈ decayed, d.1.2.confidence ≤ hi) :
    numeratorOf decayed / massOf decayed ≤ hi := by
  rw [div_le_iff₀ (mass_pos hpos hne), ← sum_weightOf hpos]
  exact sum_le_mul (fun d hd => (weightOf_pos hpos hd).le) hhi

end Mean

/-- A mean of numbers between zero and one. -/
theorem mean_between {ι : Type} {v : ι → ℚ} {xs : List ι} (hne : xs ≠ [])
    (hv : ∀ x ∈ xs, 0 ≤ v x ∧ v x ≤ 1) :
    0 ≤ (xs.map v).sum / xs.length ∧ (xs.map v).sum / xs.length ≤ 1 := by
  have hlength : (0 : ℚ) < xs.length := Nat.cast_pos.2 (List.length_pos_iff.2 hne)
  have hlow : 0 ≤ (xs.map v).sum := by
    refine List.sum_nonneg fun y hy => ?_
    obtain ⟨x, hx, rfl⟩ := List.mem_map.1 hy
    exact (hv x hx).1
  have hhigh : (xs.map v).sum ≤ xs.length := by
    have hsum := List.sum_le_sum (g := fun _ => 1) fun x hx => (hv x hx).2
    rwa [List.map_const', List.sum_replicate, nsmul_one] at hsum
  exact ⟨div_nonneg hlow hlength.le, (div_le_one hlength).2 hhigh⟩

/-- **The order of the signals** does not matter to the sums, nor the order of the maps. -/
theorem weights_perm (orders orders' : List Pubkey × List Pubkey) {signals signals' : List SignalRow}
    (now : Timestamp) (h : signals.Perm signals') :
    let weights := computeWeightsWith id orders signals now
    let weights' := computeWeightsWith id orders' signals' now
    weights.weighted.Perm weights'.weighted ∧
      weights.total_trust_mass = weights'.total_trust_mass ∧
      weights.numerator = weights'.numerator ∧ weights.total_conf_var = weights'.total_conf_var := by
  have hdecayed : (decayedWith id signals now).Perm (decayedWith id signals' now) :=
    h.filterMap _
  rw [computeWeightsWith_id, computeWeightsWith_id]
  dsimp only
  unfold massOf numeratorOf
  rw [weightOf_perm hdecayed, cappedOf_perm hdecayed]
  refine ⟨hdecayed.map _, ?_, (hdecayed.map _).sum_eq, (hdecayed.map _).sum_eq⟩
  exact (((hdecayed.map keyOf).dedup).map _).sum_eq

/-- The scores do not depend on the order either. -/
theorem scores_perm {weights weights' : Weights} (h : weights.weighted.Perm weights'.weighted)
    (hmass : weights.total_trust_mass = weights'.total_trust_mass)
    (hnumerator : weights.numerator = weights'.numerator)
    (hvar : weights.total_conf_var = weights'.total_conf_var) :
    scoresWith id weights = scoresWith id weights' := by
  unfold scoresWith
  rw [hmass, hnumerator, hvar, h.length_eq]

/-- **What the scores are**, where there is a mass. -/
theorem scores_exact {decayed : List (SignalRow × ℚ)} (hmass : 0 < massOf decayed)
    (weighted : List (SignalRow × ℚ)) :
    scoresWith id
        { weighted
          total_trust_mass := massOf decayed
          numerator := numeratorOf decayed
          total_conf_var := varianceOf decayed } =
      let raw := numeratorOf decayed / massOf decayed
      let variance := varianceOf decayed / weighted.length
      { cluster_score_raw := raw
        mean_conf_var := variance
        cluster_score_adj := raw * (1 - 1 / 2 * variance) } := by
  unfold scoresWith
  dsimp only [id]
  rw [if_pos hmass]

/-- A mean variance between zero and one takes at most half off a score. -/
theorem adjusted_between {raw variance : ℚ} (hraw : 0 ≤ raw) (hpos : 0 ≤ variance)
    (hone : variance ≤ 1) :
    raw / 2 ≤ raw * (1 - 1 / 2 * variance) ∧ raw * (1 - 1 / 2 * variance) ≤ raw := by
  have hlow := mul_le_mul_of_nonneg_left (show 1 / 2 ≤ 1 - 1 / 2 * variance by linarith) hraw
  have hhigh := mul_le_mul_of_nonneg_left (show 1 - 1 / 2 * variance ≤ 1 by linarith) hraw
  rw [mul_one] at hhigh
  rw [mul_one_div] at hlow
  exact ⟨hlow, hhigh⟩

/-- A signal inside the cutoff has a weight. -/
theorem decayed_ne_nil {signals : List SignalRow} {now : Timestamp}
    (hinside : ∃ r ∈ signals, r.2.inside now = true) : decayedWith id signals now ≠ [] := by
  obtain ⟨r, hr, hin⟩ := hinside
  have hmem : r ∈ (decayedWith id signals now).map Prod.fst := by
    rw [decayed_fst]
    exact List.mem_filter.2 ⟨hr, hin⟩
  intro hempty
  rw [hempty] at hmem
  cases hmem

/-- Of what was submitted, in one order. -/
theorem boundedMean_weights (orders : List Pubkey × List Pubkey) {signals : List SignalRow}
    {now : Timestamp} (hsubmitted : ∀ r ∈ signals, Submitted r.2)
    (hne : decayedWith id signals now ≠ []) :
    BoundedMean signals now (computeWeightsWith id orders signals now)
      (scoresWith id (computeWeightsWith id orders signals now)) := by
  have hpos := decayed_pos signals now
  have hfst := decayed_fst signals now
  have hbounds : ∀ d ∈ decayedWith id signals now,
      0 ≤ d.1.2.confidence_variance.getD 0 ∧ d.1.2.confidence_variance.getD 0 ≤ 1 ∧
        0 ≤ d.1.2.confidence ∧ d.1.2.confidence ≤ 1 :=
    fun d hd => (hsubmitted d.1 (decayed_mem hd)).bounds
  rw [computeWeightsWith_id]
  generalize hdecayed : decayedWith id signals now = decayed at *
  have hmass := mass_pos hpos hne
  have hvar := mean_between hne fun d hd => ⟨(hbounds d hd).1, (hbounds d hd).2.1⟩
  have hraw : 0 ≤ numeratorOf decayed / massOf decayed :=
    le_raw hpos hne fun d hd => (hbounds d hd).2.2.1
  have hadj := adjusted_between hraw hvar.1 hvar.2
  have hnonempty := (List.toFinset_nonempty_iff decayed).2 hne
  obtain ⟨dmin, hdmin, hmin⟩ :=
    Finset.exists_min_image decayed.toFinset (fun d => d.1.2.confidence) hnonempty
  obtain ⟨dmax, hdmax, hmax⟩ :=
    Finset.exists_max_image decayed.toFinset (fun d => d.1.2.confidence) hnonempty
  simp only [List.mem_toFinset] at hdmin hmin hdmax hmax
  have hscores := scores_exact hmass (decayed.map fun d => (d.1, weightOf decayed d))
  rw [List.length_map] at hscores
  dsimp only
  rw [hscores]
  exact
    { included := by
        rw [List.map_map]
        exact hfst
      positive := List.forall_mem_map.2 fun d hd => weightOf_pos hpos hd
      mass := by
        rw [List.map_map]
        exact sum_weightOf hpos
      smallest := ⟨_, List.mem_map_of_mem hdmin, List.forall_mem_map.2 hmin,
        le_raw hpos hne hmin⟩
      largest := ⟨_, List.mem_map_of_mem hdmax, List.forall_mem_map.2 hmax,
        raw_le hpos hne hmax⟩
      half := hadj.1
      full := hadj.2
      trust_ne := List.forall_mem_map.2 fun d hd => by
        rw [hdecayed, pubkeyTrustWith_id]
        exact (trustOf_pos hpos hd).ne'
      mass_ne := hmass.ne'
      count_ne := by
        rw [List.length_map]
        exact Nat.cast_ne_zero.2 (mt List.length_eq_zero_iff.1 hne) }

/-- **The score is a bounded weighted mean** of what was submitted, whatever the order of the
signals and of the maps. -/
theorem bounded_mean (orders : List Pubkey × List Pubkey) (signals : List SignalRow)
    (now : Timestamp) (hsubmitted : ∀ r ∈ signals, Submitted r.2)
    (hinside : ∃ r ∈ signals, r.2.inside now = true) :
    let weights := computeWeightsWith id orders signals now
    BoundedMean signals now weights (scoresWith id weights) ∧
      ∀ orders' signals', signals.Perm signals' →
        let weights' := computeWeightsWith id orders' signals' now
        weights.total_trust_mass = weights'.total_trust_mass ∧
          weights.numerator = weights'.numerator ∧
          scoresWith id weights = scoresWith id weights' := by
  refine ⟨boundedMean_weights orders hsubmitted (decayed_ne_nil hinside),
    fun orders' signals' hperm => ?_⟩
  obtain ⟨hweighted, hmass, hnumerator, hvar⟩ := weights_perm orders orders' now hperm
  exact ⟨hmass, hnumerator, scores_perm hweighted hmass hnumerator hvar⟩

/-- A body that is accepted. -/
def demoSubmitted (confidence : ℚ) (confidence_variance : Option ℚ) : SubmitSignalBody :=
  { client_id := "c", threat_class := "gunshot", confidence, confidence_variance
    lat := 0, lng := 0, model_version := "m", threshold_profile := "t", inference_backend := "b"
    processing_latency := none, dropped_frames := 0, device_category := none
    signal_fingerprint := none, schema_version := none }

theorem validate_demoSubmitted {confidence : ℚ} {confidence_variance : Option ℚ}
    (hconfidence : 0 ≤ confidence ∧ confidence ≤ 1)
    (hvariance : ∀ v ∈ confidence_variance, 0 ≤ v ∧ v ≤ 1) :
    validateSignalBody (demoSubmitted confidence confidence_variance) = .ok () := by
  have hall : (confidence_variance.all fun v => decide (0 ≤ v ∧ v ≤ 1)) = true := by
    cases confidence_variance with
    | none => rfl
    | some v => exact decide_eq_true (hvariance v rfl)
  unfold validateSignalBody demoSubmitted
  dsimp only
  rw [hall, decide_eq_true hconfidence]
  rfl

/-- A signal of a key, received at the start. -/
def demoScored (id : Uuid) (pubkey : Pubkey) (confidence : ℚ) (confidence_variance : Option ℚ) :
    SignalRow :=
  (id, (demoSubmitted confidence confidence_variance).signal pubkey ("9", "7") 0)

/-- Two signals of one key and one of another, a minute and a half later. -/
theorem bounded_mean_demo :
    let signals := [demoScored "1" "a" (9 / 10) none, demoScored "2" "a" (1 / 2) (some (1 / 4)),
      demoScored "3" "b" 1 none]
    let weights := computeWeightsWith id ([], []) signals 90000000
    BoundedMean signals 90000000 weights (scoresWith id weights) ∧
      ∀ orders' signals', signals.Perm signals' →
        let weights' := computeWeightsWith id orders' signals' 90000000
        weights.total_trust_mass = weights'.total_trust_mass ∧
          weights.numerator = weights'.numerator ∧
          scoresWith id weights = scoresWith id weights' := by
  refine bounded_mean _ _ _ ?_ ⟨_, List.mem_cons_self, by decide⟩
  simp only [List.forall_mem_cons]
  have hnone : ∀ v ∈ (none : Option ℚ), 0 ≤ v ∧ v ≤ 1 := fun v hv => nomatch hv
  have hsome : ∀ v ∈ some (1 / 4 : ℚ), 0 ≤ v ∧ v ≤ 1 := by
    rintro v ⟨⟩
    norm_num
  exact ⟨⟨_, ("9", "7"), validate_demoSubmitted (by norm_num) hnone, rfl⟩,
    ⟨_, ("9", "7"), validate_demoSubmitted (by norm_num) hsome, rfl⟩,
    ⟨_, ("9", "7"), validate_demoSubmitted (by norm_num) hnone, rfl⟩, List.forall_mem_nil _⟩

/-! ### The share of a key -/

/-- The trust in a signal of that age, in fifths: two, one from a minute on, none beyond the
cutoff. -/
def Signal.fifths (now : Timestamp) (g : Signal) : ℕ :=
  let age := (now - g.received_at).tdiv 1000000
  if temporalCutoffSecs < age then 0 else if temporalHalfWeightSecs < age then 1 else 2

/-- The trust in signals, in fifths. -/
def fifths (now : Timestamp) (signals : List SignalRow) : ℕ :=
  (signals.map fun r => r.2.fifths now).sum

/-- The signals of a key. -/
def signalsOf (signals : List SignalRow) (pubkey : Pubkey) : List SignalRow :=
  signals.filter fun r => decide (r.2.pubkey = pubkey)

/-- What the weights give a key. -/
def Weights.share (weights : Weights) (pubkey : Pubkey) : ℚ :=
  groupSum keyOf Prod.snd weights.weighted pubkey

theorem sum_decayed (signals : List SignalRow) (now : Timestamp) :
    ((decayedWith id signals now).map Prod.snd).sum = fifths now signals / 5 := by
  unfold decayedWith
  induction signals with
  | nil => exact (zero_div _).symm
  | cons r signals ih =>
      have hcons : fifths now (r :: signals) = r.2.fifths now + fifths now signals := rfl
      have htrust : ((decayedTrustWith id now r.2).getD 0) = (r.2.fifths now : ℚ) / 5 := by
        unfold decayedTrustWith Signal.fifths
        dsimp only [id]
        split_ifs <;> norm_num
      rw [hcons, Nat.cast_add, add_div, ← ih, ← htrust]
      cases hr : decayedTrustWith id now r.2 with
      | none =>
          rw [List.filterMap_cons_none (by rw [hr]; rfl)]
          exact (zero_add _).symm
      | some trust =>
          rw [List.filterMap_cons_some (by rw [hr]; rfl)]
          rfl

theorem trustOf_decayed (signals : List SignalRow) (now : Timestamp) (pubkey : Pubkey) :
    trustOf (decayedWith id signals now) pubkey = fifths now (signalsOf signals pubkey) / 5 := by
  rw [← sum_decayed]
  have hfilter : decayedWith id (signalsOf signals pubkey) now =
      (decayedWith id signals now).filter fun d => decide (keyOf d = pubkey) := by
    unfold decayedWith signalsOf
    rw [List.filterMap_filter, List.filter_filterMap]
    refine List.filterMap_congr fun r _ => ?_
    cases decayedTrustWith id now r.2 with
    | none => exact ite_self none
    | some trust => rfl
  rw [hfilter]
  rfl

/-- The shares are what the cap leaves, and the mass is all of that. -/
theorem share_computeWeights (orders : List Pubkey × List Pubkey) (signals : List SignalRow)
    (now : Timestamp) (pubkey : Pubkey) :
    (computeWeightsWith id orders signals now).share pubkey =
        cappedOf (decayedWith id signals now) pubkey ∧
      (computeWeightsWith id orders signals now).total_trust_mass =
        massOf (decayedWith id signals now) := by
  rw [computeWeightsWith_id]
  refine ⟨?_, rfl⟩
  rw [← groupSum_weightOf (decayed_pos signals now)]
  unfold Weights.share groupSum
  rw [List.filter_map, List.map_map]
  rfl

/-- **Shares of at most a quarter** of the mass, in terms of what was submitted. -/
theorem cappedOf_le_iff (signals : List SignalRow) (now : Timestamp) :
    (∀ pubkey, cappedOf (decayedWith id signals now) pubkey ≤
        1 / 4 * massOf (decayedWith id signals now)) ↔
      ∀ pubkey, 4 * fifths now (signalsOf signals pubkey) ≤ fifths now signals := by
  have hpos := decayed_pos signals now
  have hfifths : ∀ pubkey, trustOf (decayedWith id signals now) pubkey ≤
        1 / 4 * ((keysOf (decayedWith id signals now)).map
          (trustOf (decayedWith id signals now))).sum ↔
      4 * fifths now (signalsOf signals pubkey) ≤ fifths now signals := by
    intro pubkey
    rw [sum_trustOf, sum_decayed, trustOf_decayed]
    constructor
    · intro h
      have hcast : (4 * fifths now (signalsOf signals pubkey) : ℚ) ≤ fifths now signals := by
        linarith
      exact_mod_cast hcast
    · intro h
      have hcast : (4 * fifths now (signalsOf signals pubkey) : ℚ) ≤ fifths now signals := by
        exact_mod_cast h
      linarith
  have hshares := shares_le_iff (trustOf (decayedWith id signals now))
    (keysOf (decayedWith id signals now)) (show (0 : ℚ) < 1 / 4 by norm_num)
  have hmass : 0 ≤ massOf (decayedWith id signals now) := by
    rw [← sum_weightOf hpos]
    exact List.sum_nonneg (List.forall_mem_map.2 fun d hd => (weightOf_pos hpos hd).le)
  constructor
  · intro h pubkey
    refine (hfifths pubkey).1 ?_
    by_cases hkey : pubkey ∈ keysOf (decayedWith id signals now)
    · exact hshares.1 (fun k _ => h k) pubkey hkey
    · rw [(cappedOf_of_notMem hpos hkey).1, sum_trustOf]
      exact mul_nonneg (by norm_num)
        (List.sum_nonneg (List.forall_mem_map.2 fun d hd => (hpos d hd).le))
  · intro h pubkey
    by_cases hkey : pubkey ∈ keysOf (decayedWith id signals now)
    · exact hshares.2 (fun k _ => (hfifths k).2 (h k)) pubkey hkey
    · rw [(cappedOf_of_notMem hpos hkey).2]
      exact mul_nonneg (by norm_num) hmass

/-- **The cap caps** exactly when there is nothing to cut: the share of every key is at most a
quarter of the mass if and only if no key has more than a quarter of the trust. -/
theorem capped_share_iff (orders : List Pubkey × List Pubkey) (signals : List SignalRow)
    (now : Timestamp) :
    (∀ pubkey, (computeWeightsWith id orders signals now).share pubkey ≤
        1 / 4 * (computeWeightsWith id orders signals now).total_trust_mass) ↔
      ∀ pubkey, 4 * fifths now (signalsOf signals pubkey) ≤ fifths now signals := by
  rw [← cappedOf_le_iff]
  refine forall_congr' fun pubkey => ?_
  obtain ⟨hshare, hmass⟩ := share_computeWeights orders signals now pubkey
  rw [hshare, hmass]

/-- Five signals, two of them of one key: a quarter of their trust is more than a quarter of what
is left under the cap. -/
theorem capped_share_exceeds :
    let signals := [demoScored "1" "a" 1 none, demoScored "2" "a" 1 none, demoScored "3" "b" 1 none,
      demoScored "4" "c" 1 none, demoScored "5" "d" 1 none]
    ((signals.filter fun r => r.2.inside 0).map fun r => r.2.pubkey).dedup.length = 4 ∧
      ¬ ∀ pubkey, (computeWeightsWith id ([], []) signals 0).share pubkey ≤
        1 / 4 * (computeWeightsWith id ([], []) signals 0).total_trust_mass := by
  refine ⟨by decide, fun h => ?_⟩
  have hcapped := (cappedOf_le_iff _ 0).1 fun pubkey => by
    obtain ⟨hshare, hmass⟩ := share_computeWeights ([], []) _ 0 pubkey
    exact hshare ▸ hmass ▸ h pubkey
  exact absurd (hcapped "a") (by decide)

end Acoustic
end SentinelMesh
