import Mathlib.Data.Real.Basic
import Mathlib.Tactic.FieldSimp
import Mathlib.Tactic.Positivity
import Sectum.Probes.Calibrate

/-! The sweep recommends the best threshold of all, unless the scores it has to tell apart are so
close that rounding them leaves no candidate between them. -/

namespace Sectum

open Py

section Counts

variable {examples : List CalibrationExample}

/-- A threshold that admits no negative. -/
def Excludes (examples : List CalibrationExample) (t : ℝ) : Prop :=
  ∀ e ∈ examples, e.isPositive = false → (e.similarity : ℝ) < t

open scoped Classical in
/-- How many positives a threshold admits. -/
noncomputable def admitted (examples : List CalibrationExample) (t : ℝ) : Nat :=
  examples.countP fun e => e.isPositive = true ∧ t ≤ (e.similarity : ℝ)

theorem scoreAt_truePositives (threshold : ℚ) :
    (scoreAt threshold examples).truePositives = admitted examples threshold := by
  unfold admitted scoreAt
  apply List.countP_congr
  intro e _
  simp

theorem scoreAt_zeroFalsePositive {threshold : ℚ} :
    (scoreAt threshold examples).zeroFalsePositive = true ↔ Excludes examples threshold := by
  unfold ThresholdScore.zeroFalsePositive scoreAt
  rw [decide_eq_true_eq, List.countP_eq_zero]
  refine forall₂_congr fun e _ => ?_
  simp

theorem admitted_anti {t t' : ℝ} (h : t ≤ t') : admitted examples t' ≤ admitted examples t := by
  unfold admitted
  refine List.countP_mono_left fun e _ hadmitted => ?_
  simp only [decide_eq_true_eq] at hadmitted ⊢
  exact ⟨hadmitted.1, h.trans hadmitted.2⟩

theorem admitted_pos {t : ℝ} : 0 < admitted examples t ↔
    ∃ e ∈ examples, e.isPositive = true ∧ t ≤ (e.similarity : ℝ) := by
  unfold admitted
  rw [List.countP_pos_iff]
  simp

/-- A threshold that some positive reaches admits more than one above that positive. -/
theorem admitted_lt {t : ℝ} {e : CalibrationExample} (he : e ∈ examples)
    (hpositive : e.isPositive = true) (h : (e.similarity : ℝ) < t) :
    admitted examples t < admitted examples e.similarity := by
  unfold admitted
  have hsplit : ∀ (examples : List CalibrationExample), e ∈ examples →
      examples.countP (fun x => decide (x.isPositive = true ∧ t ≤ (x.similarity : ℝ))) <
        examples.countP fun x => decide (x.isPositive = true ∧
          (e.similarity : ℝ) ≤ (x.similarity : ℝ)) := by
    intro examples he
    obtain ⟨before, after, rfl⟩ := List.append_of_mem he
    have hmono : ∀ examples : List CalibrationExample,
        examples.countP (fun x => decide (x.isPositive = true ∧ t ≤ (x.similarity : ℝ))) ≤
          examples.countP fun x => decide (x.isPositive = true ∧
            (e.similarity : ℝ) ≤ (x.similarity : ℝ)) :=
      fun examples => @admitted_anti examples _ _ h.le
    have hbefore := hmono before
    have hafter := hmono after
    rw [List.countP_append, List.countP_append, List.countP_cons, List.countP_cons]
    have hin : decide (e.isPositive = true ∧ (e.similarity : ℝ) ≤ (e.similarity : ℝ)) = true := by
      simp [hpositive]
    have hout : decide (e.isPositive = true ∧ t ≤ (e.similarity : ℝ)) = false := by
      simp [hpositive, h]
    rw [hin, hout]
    simp only [if_true, Bool.false_eq_true, if_false]
    omega
  exact hsplit examples he

/-- The positives of a set, split at what reaches a threshold. -/
theorem positives_split (examples : List CalibrationExample) (reached : CalibrationExample → Bool) :
    examples.countP (fun e => e.isPositive = true ∧ reached e = true) +
      examples.countP (fun e => e.isPositive = true ∧ reached e = false) =
        examples.countP CalibrationExample.isPositive := by
  induction examples with
  | nil => rfl
  | cons e examples ih =>
    simp only [List.countP_cons]
    by_cases hpositive : e.isPositive = true <;> by_cases hreached : reached e = true <;>
      simp [hpositive, hreached] at ih ⊢ <;> omega

theorem scoreAt_total (threshold : ℚ) :
    (scoreAt threshold examples).truePositives + (scoreAt threshold examples).falseNegatives =
      examples.countP CalibrationExample.isPositive :=
  positives_split examples fun e => decide (threshold ≤ e.similarity)

theorem scoreAt_falsePositives {threshold : ℚ} (h : Excludes examples threshold) :
    (scoreAt threshold examples).falsePositives = 0 := by
  have hzero := scoreAt_zeroFalsePositive.mpr h
  unfold ThresholdScore.zeroFalsePositive at hzero
  exact of_decide_eq_true hzero

end Counts

section ExactF1

variable {examples : List CalibrationExample}

/-- F1 of the counts, before it is rounded. -/
def f1Of (truePositives falsePositives falseNegatives : Nat) : ℚ :=
  let precision := ratio truePositives (truePositives + falsePositives)
  let «recall» := ratio truePositives (truePositives + falseNegatives)
  ratio (2 * precision * «recall») (precision + «recall»)

theorem scoreAt_f1 (threshold : ℚ) :
    (scoreAt threshold examples).f1 = roundTo 4 (f1Of (scoreAt threshold examples).truePositives
      (scoreAt threshold examples).falsePositives (scoreAt threshold examples).falseNegatives) :=
  rfl

theorem f1Of_no_false (truePositives falseNegatives : Nat) :
    f1Of truePositives 0 falseNegatives =
      2 * truePositives / (truePositives + falseNegatives + truePositives) := by
  unfold f1Of ratio
  rcases Nat.eq_zero_or_pos truePositives with rfl | hpos
  · simp
  · have htrue : (0 : ℚ) < truePositives := by exact_mod_cast hpos
    have hwhole : (0 : ℚ) < truePositives + falseNegatives := by positivity
    have hrecall : (0 : ℚ) < truePositives / (truePositives + falseNegatives) := by positivity
    rw [Nat.cast_zero, add_zero, if_neg htrue.ne', if_neg hwhole.ne', div_self htrue.ne',
      if_neg (by positivity)]
    field_simp

theorem f1Of_le_iff {total few many fewMissed manyMissed : Nat} (hfew : few + fewMissed = total)
    (hmany : many + manyMissed = total) :
    f1Of few 0 fewMissed ≤ f1Of many 0 manyMissed ↔ few ≤ many := by
  rw [f1Of_no_false, f1Of_no_false]
  have hfew' : (few : ℚ) + fewMissed = total := by exact_mod_cast hfew
  have hmany' : (many : ℚ) + manyMissed = total := by exact_mod_cast hmany
  rw [hfew', hmany']
  rcases Nat.eq_zero_or_pos total with rfl | hpos
  · obtain rfl : few = 0 := by omega
    obtain rfl : many = 0 := by omega
    simp
  · have htotal : (0 : ℚ) < total := by exact_mod_cast hpos
    rw [div_le_div_iff₀ (by positivity) (by positivity)]
    constructor
    · intro h
      have hscaled : (few : ℚ) * total ≤ many * total := by nlinarith only [h]
      exact_mod_cast le_of_mul_le_mul_right hscaled htotal
    · intro h
      have hle : (few : ℚ) ≤ many := by exact_mod_cast h
      nlinarith only [mul_le_mul_of_nonneg_right hle htotal.le]

open scoped Classical in
/-- F1 of admitting what reaches a threshold, which may be any real number. -/
noncomputable def exactF1 (examples : List CalibrationExample) (t : ℝ) : ℚ :=
  let count (isPositive admitted : Bool) := examples.countP fun e =>
    e.isPositive = isPositive ∧ decide (t ≤ (e.similarity : ℝ)) = admitted
  f1Of (count true true) (count false true) (count true false)

theorem exactF1_le_iff {t t' : ℝ} (h : Excludes examples t) (h' : Excludes examples t') :
    exactF1 examples t ≤ exactF1 examples t' ↔ admitted examples t ≤ admitted examples t' := by
  have hcounts : ∀ {t : ℝ}, Excludes examples t → ∃ missed,
      admitted examples t + missed = examples.countP CalibrationExample.isPositive ∧
        exactF1 examples t = f1Of (admitted examples t) 0 missed := by
    intro t h
    classical
    refine ⟨examples.countP fun e =>
      e.isPositive = true ∧ decide (t ≤ (e.similarity : ℝ)) = false, ?_, ?_⟩
    · rw [← positives_split examples fun e => decide (t ≤ (e.similarity : ℝ))]
      congr 1
      exact List.countP_congr fun e _ => by simp
    · have hnone : examples.countP (fun e =>
          e.isPositive = false ∧ t ≤ (e.similarity : ℝ)) = 0 :=
        List.countP_eq_zero.mpr fun e he => by simpa using h e he
      simp only [exactF1, admitted, decide_eq_true_eq, hnone]
  obtain ⟨missed, htotal, hf1⟩ := hcounts h
  obtain ⟨missed', htotal', hf1'⟩ := hcounts h'
  rw [hf1, hf1']
  exact f1Of_le_iff htotal htotal'

end ExactF1

section Recommended

variable {examples : List CalibrationExample}

theorem mem_thresholdScores {score : ThresholdScore} : score ∈ thresholdScores examples ↔
    ∃ threshold ∈ candidateThresholds examples, scoreAt threshold examples = score := by
  simp [thresholdScores]

theorem mem_eligible {score : ThresholdScore} : score ∈ eligible (thresholdScores examples) ↔
    ∃ threshold ∈ candidateThresholds examples, scoreAt threshold examples = score ∧
      Excludes examples threshold ∧ 0 < admitted examples threshold := by
  unfold eligible
  rw [List.mem_filter, mem_thresholdScores, decide_eq_true_eq]
  constructor
  · rintro ⟨⟨threshold, hmem, rfl⟩, hzero, hpos⟩
    exact ⟨threshold, hmem, rfl, scoreAt_zeroFalsePositive.mp hzero,
      scoreAt_truePositives threshold ▸ hpos⟩
  · rintro ⟨threshold, hmem, rfl, hexcludes, hpos⟩
    exact ⟨⟨threshold, hmem, rfl⟩, scoreAt_zeroFalsePositive.mpr hexcludes,
      scoreAt_truePositives threshold ▸ hpos⟩

/-- Where two roundings agree, the lower threshold is taken, and it admits no fewer. -/
theorem recommend_most {score : ThresholdScore} {threshold : ℚ}
    (hscore : recommend (thresholdScores examples) = some score)
    (hmem : threshold ∈ candidateThresholds examples) (hexcludes : Excludes examples threshold) :
    admitted examples threshold ≤ admitted examples score.threshold := by
  obtain ⟨best, -, rfl, hbest, -⟩ := mem_eligible.mp (List.argmax_mem hscore)
  change admitted examples threshold ≤ admitted examples best
  by_contra hless
  rw [not_le] at hless
  have heligible : scoreAt threshold examples ∈ eligible (thresholdScores examples) :=
    mem_eligible.mpr ⟨threshold, hmem, rfl, hexcludes, by omega⟩
  have hkey := List.le_of_mem_argmax heligible hscore
  have hf1 : (scoreAt best examples).f1 ≤ (scoreAt threshold examples).f1 := by
    rw [scoreAt_f1, scoreAt_f1, scoreAt_falsePositives hbest, scoreAt_falsePositives hexcludes]
    refine roundTo_mono 4 ((f1Of_le_iff (scoreAt_total best) (scoreAt_total threshold)).mpr ?_)
    rw [scoreAt_truePositives, scoreAt_truePositives]
    exact hless.le
  rcases Prod.Lex.toLex_le_toLex.mp hkey with hlt | ⟨-, hrest⟩
  · exact absurd hlt (not_lt.mpr hf1)
  · have hthreshold : best ≤ threshold := by
      rcases Prod.Lex.toLex_le_toLex.mp hrest with hlt | ⟨heq, -⟩
      · exact (neg_lt_neg_iff.mp hlt).le
      · exact (neg_inj.mp heq).ge
    have := @admitted_anti examples best threshold (by exact_mod_cast hthreshold)
    omega

/-- What calibrating promises: a recommended threshold is the best of all that admit no negative,
and without one there is none that admits a positive. -/
structure OptimalAndSafe (examples : List CalibrationExample) : Prop where
  excludes : ∀ score, recommend (thresholdScores examples) = some score →
    Excludes examples score.threshold
  admits : ∀ score, recommend (thresholdScores examples) = some score →
    0 < admitted examples score.threshold
  most : ∀ score, recommend (thresholdScores examples) = some score →
    ∀ t : ℝ, Excludes examples t → admitted examples t ≤ admitted examples score.threshold
  bestF1 : ∀ score, recommend (thresholdScores examples) = some score →
    ∀ t : ℝ, Excludes examples t → exactF1 examples t ≤ exactF1 examples score.threshold
  none : recommend (thresholdScores examples) = none →
    ∀ t : ℝ, Excludes examples t → admitted examples t = 0

/-- The lowest positive that is above every negative. -/
structure LeastAbove (examples : List CalibrationExample) (p : ℚ) : Prop where
  positive : ∃ e ∈ examples, e.isPositive = true ∧ e.similarity = p
  excludes : Excludes examples p
  least : ∀ e ∈ examples, e.isPositive = true → Excludes examples e.similarity → p ≤ e.similarity

theorem LeastAbove.admitted_le {p : ℚ} (h : LeastAbove examples p) {t : ℝ}
    (ht : Excludes examples t) : admitted examples t ≤ admitted examples p := by
  unfold admitted
  refine List.countP_mono_left fun e he hadmitted => ?_
  simp only [decide_eq_true_eq] at hadmitted ⊢
  have habove : Excludes examples e.similarity := fun negative hmem hnegative =>
    (ht negative hmem hnegative).trans_le hadmitted.2
  exact ⟨hadmitted.1, by exact_mod_cast h.least e he hadmitted.1 habove⟩

theorem exists_leastAbove {t : ℝ} (ht : Excludes examples t) (hpos : 0 < admitted examples t) :
    ∃ p, LeastAbove examples p := by
  classical
  obtain ⟨e, he, hpositive, hreached⟩ := admitted_pos.mp hpos
  have habove : Excludes examples e.similarity := fun negative hmem hnegative =>
    (ht negative hmem hnegative).trans_le hreached
  obtain ⟨least, hleast⟩ : ∃ least, ((examples.filter fun e =>
      e.isPositive = true ∧ Excludes examples e.similarity).argmin
        CalibrationExample.similarity) = some least := by
    rw [← Option.ne_none_iff_exists', Ne, List.argmin_eq_none, List.filter_eq_nil_iff]
    intro hnone
    exact hnone e he (decide_eq_true ⟨hpositive, habove⟩)
  have hmem := List.mem_filter.mp (List.argmin_mem hleast)
  rw [decide_eq_true_eq] at hmem
  refine ⟨least.similarity, ⟨least, hmem.1, hmem.2.1, rfl⟩, hmem.2.2, ?_⟩
  intro other hother hpositive' habove'
  exact List.le_of_mem_argmin (List.mem_filter.mpr ⟨hother, decide_eq_true ⟨hpositive', habove'⟩⟩)
    hleast

theorem optimalAndSafe_iff : OptimalAndSafe examples ↔ ∀ p, LeastAbove examples p →
    ∃ c ∈ candidateThresholds examples, Excludes examples (c : ℚ) ∧ c ≤ p := by
  constructor
  · intro h p hp
    obtain ⟨e, he, hpositive, hsimilarity⟩ := hp.positive
    have hpos : 0 < admitted examples p :=
      admitted_pos.mpr ⟨e, he, hpositive, by rw [hsimilarity]⟩
    cases hrecommend : recommend (thresholdScores examples) with
    | none =>
      have := h.none hrecommend p hp.excludes
      omega
    | some score =>
      obtain ⟨c, hc, rfl, hexcludes, -⟩ := mem_eligible.mp (List.argmax_mem hrecommend)
      refine ⟨c, hc, hexcludes, le_of_not_gt fun hlt => ?_⟩
      have hmost := h.most _ hrecommend p hp.excludes
      have hfewer : admitted examples (c : ℚ) < admitted examples p := by
        rw [← hsimilarity] at hlt ⊢
        exact admitted_lt he hpositive (by exact_mod_cast hlt)
      exact absurd hmost (not_le.mpr hfewer)
  · intro h
    have hmost : ∀ score, recommend (thresholdScores examples) = some score → ∀ t : ℝ,
        Excludes examples t → admitted examples t ≤ admitted examples score.threshold := by
      intro score hscore t ht
      rcases Nat.eq_zero_or_pos (admitted examples t) with hzero | hpos
      · omega
      · obtain ⟨p, hp⟩ := exists_leastAbove ht hpos
        obtain ⟨c, hc, hexcludes, hle⟩ := h p hp
        calc admitted examples t ≤ admitted examples p := hp.admitted_le ht
          _ ≤ admitted examples c := admitted_anti (by exact_mod_cast hle)
          _ ≤ admitted examples score.threshold := recommend_most hscore hc hexcludes
    have hexcludes : ∀ score, recommend (thresholdScores examples) = some score →
        Excludes examples score.threshold ∧ 0 < admitted examples score.threshold := by
      intro score hscore
      obtain ⟨c, -, rfl, hexcludes, hpos⟩ := mem_eligible.mp (List.argmax_mem hscore)
      exact ⟨hexcludes, hpos⟩
    refine ⟨fun score hscore => (hexcludes score hscore).1,
      fun score hscore => (hexcludes score hscore).2, hmost, ?_, ?_⟩
    · intro score hscore t ht
      exact (exactF1_le_iff ht (hexcludes score hscore).1).mpr (hmost score hscore t ht)
    · intro hnone t ht
      by_contra hne
      obtain ⟨p, hp⟩ := exists_leastAbove ht (by omega)
      obtain ⟨c, hc, hexcludes, hle⟩ := h p hp
      have hadmits : 0 < admitted examples (c : ℚ) := by
        have := hp.admitted_le ht
        have := @admitted_anti examples c p (by exact_mod_cast hle)
        omega
      have hmem := mem_eligible.mpr ⟨c, hc, rfl, hexcludes, hadmits⟩
      rw [List.argmax_eq_none.mp hnone] at hmem
      exact absurd hmem List.not_mem_nil

end Recommended

section Candidates

variable {examples : List CalibrationExample}

theorem mem_roundedScores {score : ℚ} :
    score ∈ roundedScores examples ↔ ∃ e ∈ examples, roundTo 6 e.similarity = score := by
  simp [roundedScores, mem_sortedSet]

/-- Two of the scores, one after the other: they differ by a step of the rounding at least. -/
theorem adjacent_step {lower upper : ℚ}
    (h : (lower, upper) ∈ (roundedScores examples).zip (roundedScores examples).tail) :
    lower + 1 / 10 ^ 6 ≤ upper := by
  obtain ⟨hlower, hupper, hlt, -⟩ := (mem_zip_tail (pairwise_sortedSet _)).mp h
  obtain ⟨e, -, rfl⟩ := mem_roundedScores.mp hlower
  obtain ⟨e', -, rfl⟩ := mem_roundedScores.mp hupper
  exact roundTo_step 6 hlt

theorem mem_candidateThresholds (hne : examples ≠ []) :
    ∃ first last, (∀ e ∈ examples, first ≤ roundTo 6 e.similarity ∧
        roundTo 6 e.similarity ≤ last) ∧
      ∀ c, c ∈ candidateThresholds examples ↔ c = max 0 (first - 1 / 10 ^ 6) ∨
        (∃ lower upper,
          (lower, upper) ∈ (roundedScores examples).zip (roundedScores examples).tail ∧
          (lower + upper) / 2 = c) ∨ c = last + 1 / 10 ^ 6 := by
  have hsorted : (roundedScores examples).Pairwise (· ≤ ·) :=
    (pairwise_sortedSet _).imp fun h => h.le
  have hne : roundedScores examples ≠ [] := by
    obtain ⟨e, he⟩ := List.exists_mem_of_ne_nil _ hne
    exact List.ne_nil_of_mem (mem_roundedScores.mpr ⟨e, he, rfl⟩)
  refine ⟨(roundedScores examples).head hne, (roundedScores examples).getLast hne, ?_, ?_⟩
  · intro e he
    have hmem := mem_roundedScores.mpr ⟨e, he, rfl⟩
    exact ⟨hsorted.rel_head hmem, hsorted.rel_getLast hmem⟩
  · intro c
    unfold candidateThresholds
    simp only [List.head?_eq_some_head hne, List.getLast?_eq_some_getLast hne]
    simp only [List.cons_append, List.mem_cons, List.mem_append, List.mem_map, Prod.exists,
      List.not_mem_nil, or_false]

structure HighestNegative (examples : List CalibrationExample) (n : ℚ) : Prop where
  negative : ∃ e ∈ examples, e.isPositive = false ∧ e.similarity = n
  highest : ∀ e ∈ examples, e.isPositive = false → e.similarity ≤ n

/-- The rounding of the scores leaves a candidate between two of them. -/
def Resolved (examples : List CalibrationExample) (n p : ℚ) : Prop :=
  (roundTo 6 n < roundTo 6 p ∧
    ¬ (roundTo 6 p = roundTo 6 n + 1 / 10 ^ 6 ∧ n = roundTo 6 n + 1 / 10 ^ 6 / 2)) ∨
  (roundTo 6 n = roundTo 6 p ∧ p = roundTo 6 p + 1 / 10 ^ 6 / 2 ∧
    ∃ e ∈ examples, roundTo 6 e.similarity = roundTo 6 p + 1 / 10 ^ 6)

variable {n p : ℚ}

theorem HighestNegative.excludes_iff (h : HighestNegative examples n) {c : ℚ} :
    Excludes examples (c : ℚ) ↔ n < c := by
  obtain ⟨e, he, hnegative, rfl⟩ := h.negative
  constructor
  · intro hexcludes
    exact_mod_cast hexcludes e he hnegative
  · intro hlt other hother hnegative'
    exact_mod_cast (h.highest other hother hnegative').trans_lt hlt

theorem resolved_of_candidate (hnonneg : 0 ≤ n)
    (hn : ∃ e ∈ examples, e.similarity = n) (hp : ∃ e ∈ examples, e.similarity = p)
    {c : ℚ} (hc : c ∈ candidateThresholds examples) (hlow : n < c) (hhigh : c ≤ p) :
    Resolved examples n p := by
  obtain ⟨e, he, rfl⟩ := hn
  obtain ⟨e', he', rfl⟩ := hp
  obtain ⟨first, last, hends, hmem⟩ := mem_candidateThresholds (List.ne_nil_of_mem he)
  obtain ⟨hnlow, hnhigh⟩ := roundTo_near 6 e.similarity
  obtain ⟨hplow, hphigh⟩ := roundTo_near 6 e'.similarity
  rcases (hmem c).mp hc with rfl | ⟨lower, upper, hpair, rfl⟩ | rfl
  · have := (hends e he).1
    rcases lt_max_iff.mp hlow with h | h <;> linarith
  · have hstep := adjacent_step hpair
    obtain ⟨-, hupper, -, hbetween⟩ := (mem_zip_tail (pairwise_sortedSet _)).mp hpair
    have habove : roundTo 6 e.similarity ≤ lower := by
      rcases hbetween _ (mem_roundedScores.mpr ⟨e, he, rfl⟩) with h | h
      · exact h
      · linarith
    rcases hbetween _ (mem_roundedScores.mpr ⟨e', he', rfl⟩) with hless | hless
    · -- The candidate is above both: the lower one of a tie that rounds down reaches it.
      have htie : e'.similarity = roundTo 6 e'.similarity + 1 / 10 ^ 6 / 2 := by linarith
      rcases habove.trans_eq (le_antisymm (by linarith) hless) |>.lt_or_eq with hlt | heq
      · refine .inl ⟨hlt, fun h => ?_⟩
        exact roundTo_tie 6 h.2 htie h.1
      · obtain ⟨other, hother, hround⟩ := mem_roundedScores.mp hupper
        exact .inr ⟨heq, htie, other, hother, by linarith⟩
    · refine .inl ⟨by linarith, fun h => ?_⟩
      linarith
  · have := (hends e' he').2
    linarith

theorem candidate_of_resolved (hn : ∃ e ∈ examples, e.similarity = n)
    (hp : ∃ e ∈ examples, e.similarity = p) (hbelow : n < p) (h : Resolved examples n p) :
    ∃ c ∈ candidateThresholds examples, n < c ∧ c ≤ p := by
  obtain ⟨e, he, rfl⟩ := hn
  obtain ⟨e', he', rfl⟩ := hp
  obtain ⟨first, last, -, hmem⟩ := mem_candidateThresholds (List.ne_nil_of_mem he)
  obtain ⟨hnlow, hnhigh⟩ := roundTo_near 6 e.similarity
  obtain ⟨hplow, hphigh⟩ := roundTo_near 6 e'.similarity
  have hlow := mem_roundedScores.mpr ⟨e, he, rfl⟩
  have hhigh := mem_roundedScores.mpr ⟨e', he', rfl⟩
  have hsorted := pairwise_sortedSet (examples.map fun e => roundTo 6 e.similarity)
  rcases h with ⟨hlt, hno⟩ | ⟨heq, htie, other, hother, hround⟩
  · obtain ⟨next, hnext, hle⟩ := exists_next hsorted hlow hhigh hlt
    have hstep := adjacent_step hnext
    by_cases hbetween : e.similarity < (roundTo 6 e.similarity + next) / 2
    · refine ⟨_, (hmem _).mpr (.inr (.inl ⟨_, _, hnext, rfl⟩)), hbetween, ?_⟩
      rcases hle.lt_or_eq with hless | rfl
      · obtain ⟨-, hnextmem, -, -⟩ := (mem_zip_tail hsorted).mp hnext
        obtain ⟨e'', -, rfl⟩ := mem_roundedScores.mp hnextmem
        have := roundTo_step 6 hless
        linarith
      · linarith
    · -- The highest negative is itself half way: the candidate after the next score is above it.
      have hless : next < roundTo 6 e'.similarity := by
        refine lt_of_le_of_ne hle fun heq => hno ⟨?_, ?_⟩ <;> linarith
      obtain ⟨-, hnextmem, -, -⟩ := (mem_zip_tail hsorted).mp hnext
      obtain ⟨after, hafter, hle'⟩ := exists_next hsorted hnextmem hhigh hless
      have hstep' := adjacent_step hafter
      exact ⟨_, (hmem _).mpr (.inr (.inl ⟨_, _, hafter, rfl⟩)), by linarith, by linarith⟩
  · have hlt : roundTo 6 e'.similarity < roundTo 6 other.similarity := by
      rw [hround]
      norm_num
    obtain ⟨next, hnext, hle⟩ :=
      exists_next hsorted hhigh (mem_roundedScores.mpr ⟨other, hother, rfl⟩) hlt
    have hstep := adjacent_step hnext
    exact ⟨_, (hmem _).mpr (.inr (.inl ⟨_, _, hnext, rfl⟩)), by linarith, by linarith⟩

theorem candidate_of_no_negative (hp : ∃ e ∈ examples, e.similarity = p) (hnonneg : 0 ≤ p) :
    ∃ c ∈ candidateThresholds examples, c ≤ p := by
  obtain ⟨e, he, rfl⟩ := hp
  obtain ⟨first, last, hends, hmem⟩ := mem_candidateThresholds (List.ne_nil_of_mem he)
  obtain ⟨-, hhigh⟩ := roundTo_near 6 e.similarity
  refine ⟨_, (hmem _).mpr (.inl rfl), max_le hnonneg ?_⟩
  have := (hends e he).1
  linarith

theorem exists_highestNegative {e : CalibrationExample} (he : e ∈ examples)
    (hnegative : e.isPositive = false) : ∃ n, HighestNegative examples n := by
  have hne : ((examples.filter fun e => e.isPositive = false).argmax
      CalibrationExample.similarity) ≠ none := by
    rw [Ne, List.argmax_eq_none, List.filter_eq_nil_iff]
    intro hnone
    exact hnone e he (decide_eq_true hnegative)
  obtain ⟨highest, hhighest⟩ := Option.ne_none_iff_exists'.mp hne
  obtain ⟨hmem, hfalse⟩ := List.mem_filter.mp (List.argmax_mem hhighest)
  refine ⟨highest.similarity, ⟨highest, hmem, of_decide_eq_true hfalse, rfl⟩, ?_⟩
  intro other hother hnegative'
  exact List.le_of_mem_argmax (List.mem_filter.mpr ⟨hother, decide_eq_true hnegative'⟩) hhighest

end Candidates

/-- Calibrating is optimal and safe exactly where rounding leaves a candidate between the highest
negative and the lowest positive above it. -/
theorem optimalAndSafe_iff_resolved (examples : List CalibrationExample)
    (hrange : ∀ e ∈ examples, 0 ≤ e.similarity ∧ e.similarity ≤ 1) :
    OptimalAndSafe examples ↔
      ∀ n p, HighestNegative examples n → LeastAbove examples p → Resolved examples n p := by
  rw [optimalAndSafe_iff]
  constructor
  · intro h n p hn hp
    obtain ⟨c, hc, hexcludes, hle⟩ := h p hp
    obtain ⟨negative, hnegative, -, hsimilarity⟩ := hn.negative
    obtain ⟨positive, hpositive, -, hsimilarity'⟩ := hp.positive
    exact resolved_of_candidate (hsimilarity ▸ (hrange negative hnegative).1)
      ⟨negative, hnegative, hsimilarity⟩ ⟨positive, hpositive, hsimilarity'⟩ hc
      (hn.excludes_iff.mp hexcludes) hle
  · intro h p hp
    obtain ⟨positive, hpositive, -, hsimilarity'⟩ := hp.positive
    by_cases hnone : ∀ e ∈ examples, e.isPositive = true
    · obtain ⟨c, hc, hle⟩ := candidate_of_no_negative ⟨positive, hpositive, hsimilarity'⟩
        (hsimilarity' ▸ (hrange positive hpositive).1)
      refine ⟨c, hc, fun e he hnegative => ?_, hle⟩
      rw [hnone e he] at hnegative
      cases hnegative
    · obtain ⟨e, hnone⟩ := not_forall.mp hnone
      obtain ⟨he, hnegative⟩ := Classical.not_imp.mp hnone
      obtain ⟨n, hn⟩ := exists_highestNegative he (Bool.eq_false_iff.mpr hnegative)
      obtain ⟨negative, hnegative, -, hsimilarity⟩ := hn.negative
      obtain ⟨c, hc, hlt, hle⟩ := candidate_of_resolved ⟨negative, hnegative, hsimilarity⟩
        ⟨positive, hpositive, hsimilarity'⟩ (hn.excludes_iff.mp hp.excludes) (h n p hn hp)
      exact ⟨c, hc, hn.excludes_iff.mpr hlt, hle⟩

section Sample

def apartSet : List CalibrationExample := [⟨true, 9 / 10, "leak"⟩, ⟨false, 4 / 10, "near miss"⟩]

theorem apart_optimalAndSafe : OptimalAndSafe apartSet := by
  refine (optimalAndSafe_iff_resolved apartSet (List.forall_mem_cons.mpr ⟨by norm_num, ?_⟩)).mpr ?_
  · exact List.forall_mem_cons.mpr ⟨by norm_num, List.forall_mem_nil _⟩
  · intro n p hn hp
    obtain ⟨e, he, hnegative, rfl⟩ := hn.negative
    obtain ⟨e', he', hpositive, rfl⟩ := hp.positive
    simp only [apartSet, List.mem_cons, List.not_mem_nil, or_false] at he he'
    rcases he with rfl | rfl
    · cases hnegative
    · rcases he' with rfl | rfl
      · exact .inl ⟨by decide +kernel, by decide +kernel⟩
      · cases hpositive

/-- Two scores that round to the same six decimals. -/
def closeSet : List CalibrationExample :=
  [⟨true, 5000004 / 10 ^ 7, "leak"⟩, ⟨false, 5000001 / 10 ^ 7, "near miss"⟩]

theorem close_scores_not_told_apart : (∀ e ∈ closeSet, 0 ≤ e.similarity ∧ e.similarity ≤ 1) ∧
    recommend (thresholdScores closeSet) = none ∧ Excludes closeSet (5000003 / 10 ^ 7) ∧
    admitted closeSet (5000003 / 10 ^ 7) = 1 ∧ ¬ OptimalAndSafe closeSet := by
  have hnone : recommend (thresholdScores closeSet) = none :=
    List.argmax_eq_none.mpr (by decide +kernel)
  have hexcludes : Excludes closeSet (5000003 / 10 ^ 7) := by
    intro e he hnegative
    simp only [closeSet, List.mem_cons, List.not_mem_nil, or_false] at he
    rcases he with rfl | rfl
    · cases hnegative
    · norm_num
  have hone : admitted closeSet (5000003 / 10 ^ 7) = 1 := by
    norm_num [admitted, closeSet]
  refine ⟨List.forall_mem_cons.mpr ⟨by norm_num, List.forall_mem_cons.mpr ⟨by norm_num,
    List.forall_mem_nil _⟩⟩, hnone, hexcludes, hone, fun h => ?_⟩
  have := h.none hnone _ hexcludes
  omega

end Sample

end Sectum
