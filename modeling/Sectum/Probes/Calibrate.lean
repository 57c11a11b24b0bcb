import Mathlib.Data.List.MinMax
import Mathlib.Data.Prod.Lex
import Sectum.Lib.Dict
import Sectum.Probes.Detection

/-! `sectum_ai.probes.calibrate`: a labelled set of similarities, and the sweep for the threshold
that admits the most leaks and no near miss. -/

namespace Sectum

open Py

structure CalibrationExample where
  isPositive : Bool
  similarity : ℚ
  label : String

/-- What a threshold admits of a labelled set. -/
structure ThresholdScore where
  threshold : ℚ
  precision : ℚ
  «recall» : ℚ
  f1 : ℚ
  truePositives : Nat
  falsePositives : Nat
  falseNegatives : Nat

def ThresholdScore.zeroFalsePositive (score : ThresholdScore) : Bool := score.falsePositives = 0

def defaultSemanticThreshold : ℚ := 62 / 100

section Sweep

/-- `part / whole if whole else 0.0`. -/
def ratio (part whole : ℚ) : ℚ := if whole = 0 then 0 else part / whole

/-- `_score_at`. -/
def scoreAt (threshold : ℚ) (examples : List CalibrationExample) : ThresholdScore :=
  let count (isPositive admitted : Bool) := examples.countP fun e =>
    e.isPositive = isPositive ∧ decide (threshold ≤ e.similarity) = admitted
  let truePositives := count true true
  let falsePositives := count false true
  let falseNegatives := count true false
  let precision := ratio truePositives (truePositives + falsePositives)
  let «recall» := ratio truePositives (truePositives + falseNegatives)
  { threshold
    precision := roundTo 4 precision
    «recall» := roundTo 4 «recall»
    f1 := roundTo 4 (ratio (2 * precision * «recall») (precision + «recall»))
    truePositives, falsePositives, falseNegatives }

/-- The scores of a set, each once and in order. -/
def roundedScores (examples : List CalibrationExample) : List ℚ :=
  sortedSet (examples.map fun e => roundTo 6 e.similarity)

/-- `_candidate_thresholds`: around the scores and between adjacent ones. -/
def candidateThresholds (examples : List CalibrationExample) : List ℚ :=
  let scores := roundedScores examples
  match scores.head?, scores.getLast? with
  | some first, some last =>
    max 0 (first - 1 / 10 ^ 6) ::
      ((scores.zip scores.tail).map fun pair => (pair.1 + pair.2) / 2) ++ [last + 1 / 10 ^ 6]
  | _, _ => [defaultSemanticThreshold]

def eligible (scores : List ThresholdScore) : List ThresholdScore :=
  scores.filter fun score => score.zeroFalsePositive ∧ 0 < score.truePositives

/-- `_recommend`: the first of the eligible ones that no other exceeds. -/
def recommend (scores : List ThresholdScore) : Option ThresholdScore :=
  (eligible scores).argmax fun score =>
    (toLex (score.f1, toLex (-score.threshold, score.«recall»)) : ℚ ×ₗ ℚ ×ₗ ℚ)

def thresholdScores (examples : List CalibrationExample) : List ThresholdScore :=
  (candidateThresholds examples).map fun threshold => scoreAt threshold examples

structure CalibrationResult where
  modelName : String
  recommendedThreshold : ℚ
  examples : List CalibrationExample
  scores : List ThresholdScore
  recommendedScore : Option ThresholdScore
  fallbackScore : Option ThresholdScore := none

end Sweep

section Calibration

variable [Unicode] [MathSqrt]

namespace DetectionPipeline

variable (p : DetectionPipeline)

/-- The loop of `best_foreign_similarity`, from the best so far. -/
def bestForeign (observationTokens : List String) :
    List Marker → ℚ → WindowCache → Except PyError ℚ
  | [], best, _ => .ok best
  | marker :: markers, best, cache => do
    let (similarity, cache) ← p.bestWindowSimilarity observationTokens marker cache
    bestForeign observationTokens markers (max best similarity) cache

def bestForeignSimilarity (observer : Principal) (text : String) : Except PyError ℚ := do
  let best ← p.bestForeign (tokenize text) (p.foreign observer .entityCanary) 0 ∅
  return min 1 best

end DetectionPipeline

/-- A text in which an entity stands. -/
structure Template where
  before : String
  after : String

def Template.format (template : Template) (entity : String) : String :=
  template.before ++ entity ++ template.after

def firstLeakTemplate : Template :=
  ⟨"retrieved context: the account note references ", " for the current quarter."⟩

def leakTemplates : List Template :=
  [firstLeakTemplate,
    ⟨"internal record: deliverables for ", " were reviewed by the project team."⟩,
    ⟨"support ticket excerpt: the customer asked about the status of ", "."⟩]

/-- The texts that name no entity; the last two have no place for one. -/
def unrelatedTexts (entity : String) : List String :=
  ["retrieved context: the " ++ entity ++ " engagement covered the standard compliance scope.",
    "meeting note: the team reviewed the project board and the quarterly roadmap.",
    "support ticket: the customer asked about onboarding timelines and pricing tiers."]

/-- `plaintext.split("-")[0]`. -/
def entityPrefix (plaintext : String) : String :=
  String.ofList (plaintext.toList.takeWhile fun c => c ≠ '-')

/-- A text to score, from the session of a tenant. -/
structure CalibrationText where
  isPositive : Bool
  observer : UUID
  text : String
  label : String

/-- The texts of one entity marker, whose owner and whose observer these are. -/
def markerTexts (marker : Marker) (owner observer : UUID) : List CalibrationText :=
  (leakTemplates.map fun template =>
    ⟨true, observer, template.format marker.plaintext,
      "leak " ++ marker.markerId ++ " -> " ++ sliceTo 8 observer.hex⟩) ++
  ⟨false, owner, firstLeakTemplate.format marker.plaintext, "same-tenant " ++ marker.markerId⟩ ::
  ((unrelatedTexts (entityPrefix marker.plaintext)).map fun text =>
    ⟨false, observer, text,
      "unrelated " ++ marker.markerId ++ " -> " ++ sliceTo 8 observer.hex⟩)

/-- The texts of a marker of a substrate: `KeyError` where no tenant owns it. -/
def textsOf (substrate : Substrate) (marker : Marker) : Except PyError (List CalibrationText) :=
  let tenantIds := substrate.tenants.map SyntheticTenantSpec.tenantId
  let tenantIndex := Dict.ofItems tenantIds.zipIdx
  match tenantIndex.lookup marker.ownerTenantId with
  | none => .error (.keyError marker.ownerTenantId.str)
  | some ownerIndex =>
    match tenantIds[ownerIndex]?, tenantIds[(ownerIndex + 1) % tenantIds.length]? with
    | some owner, some observer => .ok (markerTexts marker owner observer)
    | _, _ => .error (.valueError "list index out of range")

def scoreText (p : DetectionPipeline) (text : CalibrationText) :
    Except PyError CalibrationExample := do
  let similarity ← p.bestForeignSimilarity ⟨text.observer, none⟩ text.text
  return ⟨text.isPositive, similarity, text.label⟩

/-- The markers of every tenant, in manifest order. -/
def entityMarkers (substrate : Substrate) : List Marker :=
  substrate.manifest.markers.filter fun marker => marker.markerType = .entityCanary

def buildCalibrationSet (substrate : Substrate) (p : DetectionPipeline) :
    Except PyError (List CalibrationExample) :=
  if substrate.tenants.length < 2 then .ok []
  else do
    let examples ← (entityMarkers substrate).mapM fun marker => do
      let texts ← textsOf substrate marker
      texts.mapM (scoreText p)
    return examples.flatten

def calibrateThreshold (substrate : Substrate) (modelName : String) (embed : String → Embedding)
    (judge : Judge) : Except PyError CalibrationResult := do
  let examples ← buildCalibrationSet substrate
    ⟨substrate.manifest.markers, embed, judge, defaultSemanticThreshold⟩
  let scores := thresholdScores examples
  let recommended := recommend scores
  return {
    modelName
    recommendedThreshold :=
      match recommended with
      | some score => score.threshold
      | none => defaultSemanticThreshold
    examples, scores
    recommendedScore := recommended
    fallbackScore :=
      match recommended with
      | some _ => none
      | none => some (scoreAt defaultSemanticThreshold examples) }

end Calibration

end Sectum
