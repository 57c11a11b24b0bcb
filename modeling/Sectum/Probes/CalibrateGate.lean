import Sectum.Probes.CalibrateSweep
import Sectum.Probes.DetectionSpec

/-! What a calibrated threshold promises, kept by the pipeline it is deployed in: the calibration
and the semantic gate read one score. -/

namespace Sectum

open Py
open DetectionPipeline (isPresent)

section Pipeline

variable [Unicode] [MathSqrt]

namespace DetectionPipeline

variable (p : DetectionPipeline)

/-- The entity markers that the gate of `_semantic` lets through to the judge. -/
def judgedMarkers (text : String) : List Marker → WindowCache → Except PyError (List Marker)
  | [], _ => .ok []
  | marker :: markers, cache => do
    let (similarity, cache) ← p.bestWindowSimilarity (tokenize text) marker cache
    let rest ← judgedMarkers text markers cache
    return if !isPresent text marker && similarity < p.threshold then rest else marker :: rest

theorem bestForeign_spec {text : String} {markers : List Marker} {best : ℚ} {cache : WindowCache}
    (hc : p.CacheValid cache)
    (hscore : ∀ marker ∈ markers, ∃ score, p.score text marker = .ok score) :
    ∃ highest, p.bestForeign (tokenize text) markers best cache = .ok highest ∧
      ∀ bound, highest < bound ↔ best < bound ∧
        ∀ marker ∈ markers, ∀ score, p.score text marker = .ok score → score < bound := by
  induction markers generalizing best cache with
  | nil => exact ⟨best, rfl, fun bound => by simp⟩
  | cons marker markers ih =>
    obtain ⟨score, hmarker⟩ := hscore marker List.mem_cons_self
    obtain ⟨cache', hvalid, hsim⟩ := p.bestWindowSimilarity_eq text marker hc
    rw [hmarker] at hsim
    obtain ⟨highest, hrest, hbound⟩ := @ih (max best score) cache' hvalid fun m hm =>
      hscore m (List.mem_cons_of_mem _ hm)
    refine ⟨highest, ?_, fun bound => ?_⟩
    · rw [bestForeign, hsim]
      exact hrest
    · rw [hbound, max_lt_iff, List.forall_mem_cons, and_assoc]
      simp [hmarker]

theorem judgedMarkers_spec {text : String} {markers : List Marker} {cache : WindowCache}
    (hc : p.CacheValid cache)
    (hscore : ∀ marker ∈ markers, ∃ score, p.score text marker = .ok score) :
    ∃ judged, p.judgedMarkers text markers cache = .ok judged ∧
      ∀ marker, marker ∈ judged ↔ marker ∈ markers ∧ (isPresent text marker = true ∨
        ∃ score, p.score text marker = .ok score ∧ p.threshold ≤ score) := by
  induction markers generalizing cache with
  | nil => exact ⟨[], rfl, fun marker => by simp⟩
  | cons first markers ih =>
    obtain ⟨score, hfirst⟩ := hscore first List.mem_cons_self
    obtain ⟨cache', hvalid, hsim⟩ := p.bestWindowSimilarity_eq text first hc
    rw [hfirst] at hsim
    obtain ⟨judged, hrest, hmem⟩ := @ih cache' hvalid fun m hm =>
      hscore m (List.mem_cons_of_mem _ hm)
    by_cases hgate : isPresent text first = true ∨ p.threshold ≤ score
    · have hskip : (!isPresent text first && decide (score < p.threshold)) = false := by
        rcases hgate with h | h <;> simp [h]
      refine ⟨first :: judged, ?_, fun marker => ?_⟩
      · rw [judgedMarkers, hsim]
        change (p.judgedMarkers text markers cache' >>= _) = _
        rw [hrest]
        simp only [hskip]
        rfl
      · rw [List.mem_cons, List.mem_cons, hmem]
        constructor
        · rintro (rfl | ⟨hmarker, hpasses⟩)
          · exact ⟨.inl rfl, hgate.imp_right fun h => ⟨score, hfirst, h⟩⟩
          · exact ⟨.inr hmarker, hpasses⟩
        · rintro ⟨rfl | hmarker, hpasses⟩
          · exact .inl rfl
          · exact .inr ⟨hmarker, hpasses⟩
    · have hskip : (!isPresent text first && decide (score < p.threshold)) = true := by
        rw [not_or, not_le, Bool.not_eq_true] at hgate
        simp [hgate.1, hgate.2]
      refine ⟨judged, ?_, fun marker => ?_⟩
      · rw [judgedMarkers, hsim]
        change (p.judgedMarkers text markers cache' >>= _) = _
        rw [hrest]
        simp only [hskip]
        rfl
      · rw [List.mem_cons, hmem]
        refine ⟨fun h => ⟨.inr h.1, h.2⟩, ?_⟩
        rintro ⟨rfl | hmarker, hpasses⟩
        · refine absurd (hpasses.imp_right fun h => ?_) hgate
          obtain ⟨score', hscore', hreached⟩ := h
          rw [hfirst] at hscore'
          exact Except.ok.inj hscore' ▸ hreached
        · exact ⟨hmarker, hpasses⟩

variable {provider : EmbeddingProvider} (hembed : p.embed = provider.embed)
include hembed

theorem foreign_score_total (observer : Principal) (text : String) :
    ∀ marker ∈ p.foreign observer .entityCanary, ∃ score, p.score text marker = .ok score := by
  intro marker hmarker
  obtain ⟨hmem, htype, -⟩ := p.mem_foreign.mp hmarker
  exact p.score_total hembed hmem htype

/-- Below 1 the similarity that calibrates is the highest score of all foreign markers. -/
theorem bestForeignSimilarity_spec (observer : Principal) (text : String) :
    ∃ best, p.bestForeignSimilarity observer text = .ok best ∧ best ≤ 1 ∧
      ∀ bound ≤ 1, best < bound ↔ 0 < bound ∧ ∀ marker ∈ p.foreign observer .entityCanary,
        ∀ score, p.score text marker = .ok score → score < bound := by
  obtain ⟨highest, hbest, hbound⟩ := @bestForeign_spec _ _ p text _ 0 ∅ p.cacheValid_empty
    (p.foreign_score_total hembed observer text)
  refine ⟨min 1 highest, ?_, min_le_left _ _, fun bound hle => ?_⟩
  · rw [bestForeignSimilarity, hbest]
    rfl
  · rw [← hbound, min_lt_iff, or_iff_right (not_lt.mpr hle)]

omit hembed in
/-- A marker that reached the judge has a finding, and no other has. -/
theorem semanticLoop_markers {observer : Principal} {text : String} {surface : Surface}
    {probeId : String} {markers judged : List Marker} {cache : WindowCache} {fs : List Finding}
    (h : p.semanticLoop observer text surface probeId markers cache = .ok fs)
    (hjudged : p.judgedMarkers text markers cache = .ok judged) :
    fs.map Finding.markerId = judged.map fun marker => some marker.markerId := by
  induction markers generalizing cache fs judged with
  | nil =>
    obtain rfl := Except.ok.inj h
    obtain rfl := Except.ok.inj hjudged
    rfl
  | cons marker markers ih =>
    rw [semanticLoop] at h
    obtain ⟨⟨found, after⟩, hmarker, h⟩ := bind_eq_ok.mp h
    obtain ⟨rest, hrest, h⟩ := bind_eq_ok.mp h
    obtain rfl := Except.ok.inj h
    rw [semanticMarker] at hmarker
    obtain ⟨⟨similarity, cache'⟩, hsim, hmarker⟩ := bind_eq_ok.mp hmarker
    rw [judgedMarkers, hsim] at hjudged
    obtain ⟨_, hpair, hjudged⟩ := bind_eq_ok.mp hjudged
    obtain rfl := Except.ok.inj hpair
    obtain ⟨judged', hjudged', hskip⟩ := bind_eq_ok.mp hjudged
    obtain rfl := Except.ok.inj hskip
    dsimp only at hmarker hrest hjudged' ⊢
    split at hmarker
    · rename_i hgate
      obtain ⟨rfl, rfl⟩ := Prod.mk.inj (Except.ok.inj hmarker)
      rw [if_pos hgate]
      exact ih hrest hjudged'
    · rename_i hgate
      obtain ⟨unit, -, hmarker⟩ := bind_eq_ok.mp hmarker
      obtain ⟨rfl, rfl⟩ := Prod.mk.inj (Except.ok.inj hmarker)
      rw [if_neg hgate, Option.toList_some, List.singleton_append, List.map_cons, List.map_cons,
        ih hrest hjudged']
      rfl

/-- On a text that carries no foreign entity, a marker reaches the judge exactly where the
similarity that calibrates reaches the threshold. -/
theorem judged_iff_best (hpos : 0 < p.threshold) (hone : p.threshold ≤ 1) (observer : Principal)
    (text : String)
    (hclean : ∀ marker ∈ p.foreign observer .entityCanary, isPresent text marker = false) :
    ∃ best judged, p.bestForeignSimilarity observer text = .ok best ∧
      p.judgedMarkers text (p.foreign observer .entityCanary) ∅ = .ok judged ∧
      (judged ≠ [] ↔ p.threshold ≤ best) := by
  obtain ⟨best, hbest, -, hbound⟩ := p.bestForeignSimilarity_spec hembed observer text
  obtain ⟨judged, hjudged, hmem⟩ := p.judgedMarkers_spec p.cacheValid_empty
    (p.foreign_score_total hembed observer text)
  refine ⟨best, judged, hbest, hjudged, ?_⟩
  rw [← not_lt, hbound _ hone, not_iff_not, List.eq_nil_iff_forall_not_mem]
  constructor
  · intro hnone
    refine ⟨hpos, fun marker hmarker score hscore => ?_⟩
    by_contra hreached
    exact hnone marker ((hmem marker).mpr ⟨hmarker, .inr ⟨score, hscore, not_lt.mp hreached⟩⟩)
  · rintro ⟨-, hbelow⟩ marker hmarker
    obtain ⟨hforeign, hpresent | ⟨score, hscore, hreached⟩⟩ := (hmem marker).mp hmarker
    · rw [hclean marker hforeign] at hpresent
      cases hpresent
    · exact absurd (hbelow marker hforeign score hscore) (not_lt.mpr hreached)

end DetectionPipeline

section SamePipeline

variable {p q : DetectionPipeline} (hmarkers : q.markers = p.markers) (hembed : q.embed = p.embed)
include hembed

omit [Unicode] in
theorem scoreWindows_congr (vector : Embedding) (windows : List (List String)) (best : ℚ) :
    q.scoreWindows vector windows best = p.scoreWindows vector windows best := by
  induction windows generalizing best with
  | nil => rfl
  | cons window windows ih =>
    rw [DetectionPipeline.scoreWindows, DetectionPipeline.scoreWindows, hembed]
    exact congrArg _ (funext fun similarity => ih _)

include hmarkers

/-- A score does not depend on the threshold or the judge. -/
theorem score_congr (text : String) (marker : Marker) :
    q.score text marker = p.score text marker := by
  have hvector : q.markerVector marker = p.markerVector marker := by
    unfold DetectionPipeline.markerVector DetectionPipeline.entityIndex
    rw [hmarkers, hembed]
  unfold DetectionPipeline.score
  rw [hvector]
  exact congrArg _ (funext fun vector => scoreWindows_congr hembed vector _ 0)

end SamePipeline

section CalibrationSet

variable {p : DetectionPipeline} {provider : EmbeddingProvider} (hembed : p.embed = provider.embed)
include hembed

theorem scoreText_total (text : CalibrationText) : ∃ similarity,
    p.bestForeignSimilarity ⟨text.observer, none⟩ text.text = .ok similarity ∧ similarity ≤ 1 ∧
      scoreText p text = .ok ⟨text.isPositive, similarity, text.label⟩ := by
  obtain ⟨similarity, hsimilarity, hle, -⟩ :=
    p.bestForeignSimilarity_spec hembed ⟨text.observer, none⟩ text.text
  refine ⟨similarity, hsimilarity, hle, ?_⟩
  rw [scoreText, hsimilarity]
  rfl

/-- The labelled set of a substrate holds every text of its entity markers, scored, and no
similarity above 1. -/
theorem buildCalibrationSet_spec {substrate : Substrate} {examples : List CalibrationExample}
    (htenants : 2 ≤ substrate.tenants.length)
    (h : buildCalibrationSet substrate p = .ok examples) :
    (∀ e ∈ examples, e.similarity ≤ 1) ∧
      ∀ marker ∈ entityMarkers substrate, ∀ texts, textsOf substrate marker = .ok texts →
        ∀ text ∈ texts, ∃ similarity,
          p.bestForeignSimilarity ⟨text.observer, none⟩ text.text = .ok similarity ∧
            ⟨text.isPositive, similarity, text.label⟩ ∈ examples := by
  rw [buildCalibrationSet, if_neg (by omega)] at h
  obtain ⟨scored, hscored, h⟩ := bind_eq_ok.mp h
  obtain rfl := Except.ok.inj h
  have hmarkers := mapM_all.mp ⟨scored, hscored, fun _ hmem => hmem⟩
  constructor
  · have hall : ∀ marker ∈ entityMarkers substrate, ∃ examples,
        (textsOf substrate marker >>= fun texts => texts.mapM (scoreText p)) = .ok examples ∧
          ∀ e ∈ examples, e.similarity ≤ 1 := by
      intro marker hmarker
      obtain ⟨examples, hexamples, -⟩ := hmarkers marker hmarker
      obtain ⟨texts, htexts, -⟩ := bind_eq_ok.mp hexamples
      have htext : ∀ text ∈ texts, ∃ e, scoreText p text = .ok e ∧ e.similarity ≤ 1 := by
        intro text _
        obtain ⟨similarity, -, hle, hscore⟩ := scoreText_total hembed text
        exact ⟨_, hscore, hle⟩
      obtain ⟨examples', hexamples', hle⟩ := mapM_all.mpr htext
      exact ⟨examples', bind_eq_ok.mpr ⟨texts, htexts, hexamples'⟩, hle⟩
    obtain ⟨scored', hscored', hle⟩ := mapM_all.mpr hall
    rw [hscored] at hscored'
    obtain rfl := Except.ok.inj hscored'
    intro e he
    obtain ⟨examples, hexamples, hmem⟩ := List.mem_flatten.mp he
    exact hle examples hexamples e hmem
  · intro marker hmarker texts htexts text htext
    obtain ⟨examples, hexamples, hmem⟩ := hmarkers marker hmarker
    rw [htexts] at hexamples
    obtain ⟨e, he, hin⟩ :=
      mapM_all.mp ⟨examples, hexamples, fun _ hmem => hmem⟩ text htext
    obtain ⟨similarity, hsimilarity, -, hscore⟩ := scoreText_total hembed text
    rw [hscore] at he
    obtain rfl := Except.ok.inj he
    exact ⟨similarity, hsimilarity, List.mem_flatten.mpr ⟨examples, hmem, hin⟩⟩

end CalibrationSet

theorem calibrateThreshold_spec {substrate : Substrate} {modelName : String}
    {embed : String → Embedding} {judge : Judge} {result : CalibrationResult}
    {score : ThresholdScore}
    (h : calibrateThreshold substrate modelName embed judge = .ok result)
    (hscore : result.recommendedScore = some score) :
    buildCalibrationSet substrate
        ⟨substrate.manifest.markers, embed, judge, defaultSemanticThreshold⟩ =
          .ok result.examples ∧
      recommend (thresholdScores result.examples) = some score ∧
      result.recommendedThreshold = score.threshold := by
  obtain ⟨examples, hexamples, h⟩ := bind_eq_ok.mp h
  obtain rfl := Except.ok.inj h
  refine ⟨hexamples, hscore, ?_⟩
  change recommend (thresholdScores examples) = some score at hscore
  simp only [hscore]

/-- A text that calibrating takes for a negative. -/
def IsNegativeText (substrate : Substrate) (text : CalibrationText) : Prop :=
  text.isPositive = false ∧ ∃ marker ∈ entityMarkers substrate, ∃ texts,
    textsOf substrate marker = .ok texts ∧ text ∈ texts

def Substrate.pipeline (substrate : Substrate) (embed : String → Embedding) (judge : Judge)
    (threshold : ℚ) : DetectionPipeline :=
  ⟨substrate.manifest.markers, embed, judge, threshold⟩

namespace DetectionPipeline

variable (q : DetectionPipeline) (observer : Principal) (text : String) (surface : Surface)
  (probeId : String)

/-- A detection returns, and the entities it finds are ones that the text carries. -/
def FindsOnlyPresent (stamp : ControlStamp) : Prop :=
  ∃ found, q.semantic observer text surface probeId = .ok found ∧
    q.detect observer text surface probeId stamp = .ok ((q.exact observer text surface probeId ++
      q.secretFormat observer text surface probeId ++ found).map (restamp stamp)) ∧
    ∀ f ∈ found, ∃ marker ∈ q.foreign observer .entityCanary, isPresent text marker = true ∧
      ∃ unit, f = q.semanticFinding observer text surface probeId marker unit

/-- A marker reaches the judge, and so has a finding, exactly where the similarity that calibrates
reaches the threshold. -/
def GateAgrees : Prop :=
  ∃ best judged found, q.bestForeignSimilarity observer text = .ok best ∧
    q.judgedMarkers text (q.foreign observer .entityCanary) ∅ = .ok judged ∧
    q.semantic observer text surface probeId = .ok found ∧
    found.map Finding.markerId = judged.map (fun marker => some marker.markerId) ∧
    (judged ≠ [] ↔ q.threshold ≤ best)

variable {q observer text surface probeId} {provider : EmbeddingProvider}
  (hembed : q.embed = provider.embed)
include hembed

theorem semantic_total : ∃ found, q.semantic observer text surface probeId = .ok found :=
  q.semanticLoop_total q.cacheValid_empty (q.foreign_score_total hembed observer text)

theorem findsOnlyPresent_of_below (stamp : ControlStamp)
    (h : ∀ marker ∈ q.foreign observer .entityCanary, ∀ score, q.score text marker = .ok score →
      score < q.threshold) : q.FindsOnlyPresent observer text surface probeId stamp := by
  obtain ⟨found, hfound⟩ := @semantic_total _ _ q observer text surface probeId _ hembed
  refine ⟨found, hfound, ?_, fun f hf => ?_⟩
  · rw [detect, hfound]
    rfl
  · obtain ⟨marker, hmarker, score, hscore, hreports⟩ :=
      (q.mem_semanticLoop q.cacheValid_empty hfound f).mp hf
    unfold Reports at hreports
    split at hreports
    · rename_i hgate
      obtain ⟨unit, -, hunit⟩ := hreports
      have hpresent := hgate.resolve_right (not_le.mpr (h marker hmarker score hscore))
      exact ⟨marker, hmarker, hpresent, unit, Option.some.inj hunit⟩
    · cases hreports

theorem gateAgrees_of_clean (hpos : 0 < q.threshold) (hone : q.threshold ≤ 1)
    (hclean : ∀ marker ∈ q.foreign observer .entityCanary, isPresent text marker = false) :
    q.GateAgrees observer text surface probeId := by
  obtain ⟨best, judged, hbest, hjudged, hiff⟩ :=
    q.judged_iff_best hembed hpos hone observer text hclean
  obtain ⟨found, hfound⟩ := @semantic_total _ _ q observer text surface probeId _ hembed
  exact ⟨best, judged, found, hbest, hjudged, hfound, q.semanticLoop_markers hfound hjudged, hiff⟩

end DetectionPipeline

/-- A calibrated threshold is above every score of a negative text. -/
theorem calibrated_above {substrate : Substrate} {provider : EmbeddingProvider}
    {modelName : String} {judge : Judge} {result : CalibrationResult} {score : ThresholdScore}
    (htenants : 2 ≤ substrate.tenants.length)
    (h : calibrateThreshold substrate modelName provider.embed judge = .ok result)
    (hscore : result.recommendedScore = some score) {text : CalibrationText}
    (htext : IsNegativeText substrate text) (judge' : Judge) :
    ∀ marker ∈ (substrate.pipeline provider.embed judge' result.recommendedThreshold).foreign
      ⟨text.observer, none⟩ .entityCanary, ∀ score,
      (substrate.pipeline provider.embed judge' result.recommendedThreshold).score text.text
        marker = .ok score → score < result.recommendedThreshold := by
  obtain ⟨hset, hrecommend, hthreshold⟩ := calibrateThreshold_spec h hscore
  obtain ⟨c, -, rfl, hexcludes, hadmits⟩ := mem_eligible.mp (List.argmax_mem hrecommend)
  change result.recommendedThreshold = c at hthreshold
  rw [hthreshold]
  have hembed : (substrate.pipeline provider.embed judge defaultSemanticThreshold).embed =
    provider.embed := rfl
  obtain ⟨hrange, hmem⟩ := buildCalibrationSet_spec hembed htenants hset
  obtain ⟨hnegative, marker, hmarker, texts, htexts, hin⟩ := htext
  obtain ⟨similarity, hsimilarity, hexample⟩ := hmem marker hmarker texts htexts text hin
  have hbelow : similarity < c := by exact_mod_cast hexcludes _ hexample hnegative
  have hone : c ≤ 1 := by
    obtain ⟨e, he, -, hreached⟩ := admitted_pos.mp hadmits
    have hreached' : c ≤ e.similarity := by exact_mod_cast hreached
    exact hreached'.trans (hrange e he)
  obtain ⟨best, hbest, -, hbound⟩ :=
    DetectionPipeline.bestForeignSimilarity_spec _ hembed ⟨text.observer, none⟩ text.text
  obtain rfl : best = similarity := Except.ok.inj (hbest.symm.trans hsimilarity)
  intro foreign hforeign score' hscore'
  refine ((hbound c hone).mp hbelow).2 foreign hforeign score' ?_
  rw [← hscore']
  exact @score_congr _ _ (substrate.pipeline provider.embed judge' c)
    (substrate.pipeline provider.embed judge defaultSemanticThreshold) rfl rfl text.text foreign

/-- A pipeline at the calibrated threshold finds entities in a negative text only where the text
carries them, and at any threshold its gate admits the texts that calibrating counts as admitted. -/
theorem calibrated_threshold_holds (substrate : Substrate) (provider : EmbeddingProvider)
    (modelName : String) (judge judge' : Judge) (surface : Surface) (probeId : String)
    (stamp : ControlStamp) :
    (2 ≤ substrate.tenants.length → ∀ result score,
      calibrateThreshold substrate modelName provider.embed judge = .ok result →
      result.recommendedScore = some score → ∀ text, IsNegativeText substrate text →
      (substrate.pipeline provider.embed judge' result.recommendedThreshold).FindsOnlyPresent
        ⟨text.observer, none⟩ text.text surface probeId stamp) ∧
    ∀ threshold : ℚ, 0 < threshold → threshold ≤ 1 → ∀ (observer : Principal) (text : String),
      (∀ marker ∈ (substrate.pipeline provider.embed judge' threshold).foreign observer
        .entityCanary, isPresent text marker = false) →
      (substrate.pipeline provider.embed judge' threshold).GateAgrees observer text surface
        probeId := by
  constructor
  · intro htenants result score h hscore text htext
    have hembed : (substrate.pipeline provider.embed judge' result.recommendedThreshold).embed =
      provider.embed := rfl
    exact DetectionPipeline.findsOnlyPresent_of_below hembed stamp
      (calibrated_above htenants h hscore htext judge')
  · intro threshold hpos hone observer text hclean
    have hembed : (substrate.pipeline provider.embed judge' threshold).embed = provider.embed := rfl
    exact DetectionPipeline.gateAgrees_of_clean hembed hpos hone hclean

end Pipeline

section Sample

attribute [local instance] Unicode.ascii MathSqrt.exact

/-- Two tenants, the first of which owns an entity. -/
def quasarSubstrate : Substrate where
  scenario := ⟨"two", 0, [], "demo", [], [], "1"⟩
  tenants := [⟨⟨1⟩, "one", "law", "en-US", 1, [], by decide⟩,
    ⟨⟨2⟩, "two", "law", "en-US", 1, [], by decide⟩]
  documents := []
  manifest := ⟨"two", "", [⟨"m", .entityCanary, ⟨1⟩, none, "q-1", none, [], by decide⟩], "1"⟩
  schemaVersion := "1"

/-- An embedder that tells the entity from every other text. -/
def quasarProvider : EmbeddingProvider where
  dim := 2
  embed text := if text = "q-1" ∨ text = "q 1" then [1, 0] else [0, 1]
  embed_length text := by split <;> rfl

theorem quasar_recommends : ∃ result score,
    calibrateThreshold quasarSubstrate "fake" quasarProvider.embed fakeJudge = .ok result ∧
      result.recommendedScore = some score := by
  have hsome : ((calibrateThreshold quasarSubstrate "fake" quasarProvider.embed
      fakeJudge).toOption.bind CalibrationResult.recommendedScore).isSome = true := by
    decide +kernel
  obtain ⟨score, hscore⟩ := Option.isSome_iff_exists.mp hsome
  obtain ⟨result, hresult, hrecommended⟩ := Option.bind_eq_some_iff.mp hscore
  refine ⟨result, score, ?_, hrecommended⟩
  cases h : calibrateThreshold quasarSubstrate "fake" quasarProvider.embed fakeJudge with
  | error e =>
    rw [h] at hresult
    cases hresult
  | ok result' =>
    rw [h] at hresult
    exact congrArg _ (Option.some.inj hresult)

/-- The owner reads its own entity, before a judge that affirms everything. -/
theorem calibrated_threshold_holds_quasar : ∃ threshold,
    (quasarSubstrate.pipeline quasarProvider.embed (fun _ _ => ⟨true, "yes", ""⟩)
      threshold).FindsOnlyPresent ⟨⟨1⟩, none⟩ (firstLeakTemplate.format "q-1") .api "manual" {} ∧
    (quasarSubstrate.pipeline quasarProvider.embed (fun _ _ => ⟨true, "yes", ""⟩)
      (1 / 2)).GateAgrees ⟨⟨2⟩, none⟩ "nothing" .api "manual" := by
  obtain ⟨result, score, hresult, hscore⟩ := quasar_recommends
  obtain ⟨hfinds, hgate⟩ := calibrated_threshold_holds quasarSubstrate quasarProvider "fake"
    fakeJudge (fun _ _ => ⟨true, "yes", ""⟩) .api "manual" {}
  refine ⟨result.recommendedThreshold, ?_, ?_⟩
  · refine hfinds (by decide) result score hresult hscore
      ⟨false, ⟨1⟩, firstLeakTemplate.format "q-1", "same-tenant m"⟩ ⟨rfl, ?_⟩
    exact ⟨_, List.mem_cons_self, _, rfl, by simp [markerTexts, leakTemplates]⟩
  · refine hgate (1 / 2) (by norm_num) (by norm_num) ⟨⟨2⟩, none⟩ "nothing" ?_
    have hnone : ((quasarSubstrate.pipeline quasarProvider.embed (fun _ _ => ⟨true, "yes", ""⟩)
        (1 / 2)).foreign ⟨⟨2⟩, none⟩ .entityCanary).all
          (fun marker => !isPresent "nothing" marker) = true := by decide +kernel
    intro marker hmarker
    simpa using List.all_eq_true.mp hnone marker hmarker

end Sample

end Sectum
