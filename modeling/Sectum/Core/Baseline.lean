import Sectum.Core.Score
import Sectum.Lib.Sweep

/-! `sectum_ai.baseline`: compares a later run with an earlier one, metric by metric and finding by
finding, and says whether it is worse or measured less.  A count becomes a float exactly here, as it
does in the source up to 2^53. -/

namespace Sectum

open Py

structure MetricDelta where
  name : String
  baseline : ℚ
  current : ℚ
  informational : Bool := false
  keyLost : Bool := false
  baselineAbsent : Bool := false
  currentAbsent : Bool := false
  bounded : Bool := false
  deriving DecidableEq, Repr

/-- `1e-9`. -/
def tolerance : ℚ := 1 / 10 ^ 9

def MetricDelta.regressed (delta : MetricDelta) : Bool :=
  if delta.informational then false
  else if delta.bounded then false
  else delta.baseline + tolerance < delta.current

structure BaselineComparison where
  deltas : List MetricDelta

namespace BaselineComparison

variable (comparison : BaselineComparison)

def regressed : Bool := comparison.deltas.any MetricDelta.regressed

def headlineUnmeasured : List String :=
  (comparison.deltas.filter fun delta => delta.keyLost && !isIn "[" delta.name).map
    MetricDelta.name

end BaselineComparison

section Deltas

variable {κ ν : Type} [LinearOrder κ]

/-- The entry of `_dict_deltas` for one key, of maps whose keys are named by `name` and whose values
are floats by `float`. -/
def keyDelta (label : String) (name : κ → String) (float : ν → ℚ) (baseline current : Dict κ ν)
    (informational absentWhenClean : Bool) (boundedKeys : List κ) (key : κ) : MetricDelta :=
  { name := label ++ "[" ++ name key ++ "]"
    baseline := ((baseline.lookup key).map float).getD 0
    current := ((current.lookup key).map float).getD 0
    informational
    keyLost := !absentWhenClean && decide (key ∈ baseline) && decide (key ∉ current)
    baselineAbsent := !absentWhenClean && decide (key ∉ baseline)
    currentAbsent := !absentWhenClean && decide (key ∉ current)
    bounded := key ∈ boundedKeys }

def dictDeltas (label : String) (name : κ → String) (float : ν → ℚ) (baseline current : Dict κ ν)
    (informational absentWhenClean : Bool := false) (boundedKeys : List κ := []) :
    List MetricDelta :=
  (sortedSet (baseline.keys ++ current.keys)).map
    (keyDelta label name float baseline current informational absentWhenClean boundedKeys)

end Deltas

def rateDelta (name : String) (baseline current : Option ℚ) : MetricDelta :=
  { name, baseline := baseline.getD 0, current := current.getD 0
    keyLost := baseline.isSome && current.isNone
    baselineAbsent := baseline.isNone
    currentAbsent := current.isNone }

def RunMetrics.pivotRate (metrics : RunMetrics) : Option ℚ :=
  Sectum.rateFromCounts metrics.retrievalPivotK metrics.retrievalPivotN metrics.retrievalPivotRate

def compareMetrics (baseline current : RunMetrics) : BaselineComparison where
  deltas :=
    [{ name := "confirmed_findings"
       baseline := baseline.confirmedFindings, current := current.confirmedFindings },
      rateDelta "retrieval_pivot_rate" baseline.pivotRate current.pivotRate,
      rateDelta "poisoning_bleed_delta" baseline.poisoningBleedDelta current.poisoningBleedDelta,
      rateDelta "inversion_reconstruction_rate" baseline.inversionReconstructionRate
        current.inversionReconstructionRate,
      rateDelta "extraction_efficiency" baseline.extractionEfficiency
        current.extractionEfficiency] ++
    dictDeltas "retrieval_pivot_rate_by_model (modelled)" id id baseline.retrievalPivotRateByModel
      current.retrievalPivotRateByModel ++
    dictDeltas "per_probe_findings" id Int.cast baseline.perProbeFindings current.perProbeFindings
      false true ++
    dictDeltas "erasure_residue" Surface.value Int.cast baseline.erasureResidue
      current.erasureResidue ++
    dictDeltas "side_channel_effect_sizes" id id baseline.sideChannelEffectSizes
      current.sideChannelEffectSizes false false
      (baseline.sideChannelVarianceFloored ++ current.sideChannelVarianceFloored) ++
    dictDeltas "erasure_caveats" Surface.value Int.cast baseline.erasureCaveats
      current.erasureCaveats true

structure FindingChange where
  previous : Finding
  current : Finding
  deriving DecidableEq

namespace FindingChange

variable (change : FindingChange)

def severityEscalated : Bool := change.previous.severity.rank < change.current.severity.rank

end FindingChange

structure FindingDiff where
  appeared : List Finding
  resolved : List Finding
  persisting : List Finding
  newlyConfirmed : List Finding
  changed : List FindingChange

def FindingDiff.severityEscalations (diff : FindingDiff) : List FindingChange :=
  diff.changed.filter fun change =>
    change.severityEscalated ∧ change.previous.status = .confirmed ∧
      change.current.status = .confirmed

/-- One step of `_select`: a finding is chosen when its id is new and kept. -/
def selectStep (keep : String → Bool) (f : Finding) (seen : List String) :
    Option Finding × List String :=
  if f.findingId ∈ seen ∨ keep f.findingId = false then (none, seen)
  else (some f, f.findingId :: seen)

def selectFindings (findings : List Finding) (keep : String → Bool) : List Finding :=
  (sweep (selectStep keep) findings []).1

/-- One step of the loop that collects the changes. -/
def changeStep (earlierById : Dict String Finding) (f : Finding) (seen : List String) :
    Option FindingChange × List String :=
  match earlierById.lookup f.findingId with
  | none => (none, seen)
  | some previous =>
    if f.findingId ∈ seen then (none, seen)
    else
      (if previous.status ≠ f.status ∨ previous.severity ≠ f.severity then some ⟨previous, f⟩
        else none, f.findingId :: seen)

def diffFindings (earlier later : List Finding) : FindingDiff :=
  let earlierIds := earlier.map Finding.findingId
  let laterIds := later.map Finding.findingId
  let earlierConfirmedIds :=
    (earlier.filter fun f => f.status = .confirmed).map Finding.findingId
  let earlierById := Dict.firstBy Finding.findingId earlier
  { appeared := selectFindings later fun id => id ∉ earlierIds
    resolved := selectFindings earlier fun id => id ∉ laterIds
    persisting := selectFindings later fun id => id ∈ earlierIds
    newlyConfirmed := selectFindings (later.filter fun f => f.status = .confirmed) fun id =>
      id ∉ earlierConfirmedIds
    changed := (sweep (changeStep earlierById) later []).1 }

structure RunDiff where
  metrics : BaselineComparison
  findings : FindingDiff
  coverageLost : List String := []
  scopeLost : List Surface := []
  boundaryLost : List String := []
  plantsLost : List String := []
  erasureLost : List Surface := []
  sideChannelLost : List String := []
  scenarioChanged : Bool := false
  embedderChanged : Option (String × String) := none
  embedderScoped : List String := []

def RunDiff.regressed (diff : RunDiff) : Bool :=
  diff.metrics.regressed || !diff.findings.newlyConfirmed.isEmpty ||
    !diff.findings.severityEscalations.isEmpty || !diff.coverageLost.isEmpty ||
    !diff.scopeLost.isEmpty || !diff.boundaryLost.isEmpty || !diff.plantsLost.isEmpty ||
    !diff.erasureLost.isEmpty || !diff.sideChannelLost.isEmpty ||
    !diff.metrics.headlineUnmeasured.isEmpty || diff.scenarioChanged ||
    diff.embedderChanged.isSome

def newlyCounted (earlier later : Dict String Int) : List String :=
  sortedSet (later.keys.filter fun key => later.getD key 0 ≠ 0 ∧ earlier.getD key 0 = 0)

def coverageLost (earlier later : RunResult) : List String :=
  sortedSet (earlier.exercisedProbes.filter fun probeId => probeId ∉ later.exercisedProbes)

def scopeLost (earlier later : RunResult) : List Surface :=
  sortedSet (earlier.surfaceProvenance.keys.filter fun surface =>
    earlier.surfaceProvenance.lookup surface = some .live ∧
      later.surfaceProvenance.lookup surface ≠ some .live)

def erasureLost (earlier later : RunResult) : List Surface :=
  let scanned (metrics : RunMetrics) : List Surface :=
    metrics.erasureResidue.keys ++ metrics.erasureCaveats.keys
  sortedSet
    (((scanned earlier.metrics).filter fun surface => surface ∉ scanned later.metrics) ++
      (earlier.metrics.erasureResidue.keys.filter fun surface =>
        surface ∉ later.metrics.erasureResidue) ++
      (earlier.metrics.erasureCoverage.keys.filter fun surface =>
        surface ∈ earlier.surfaceProvenance ∧ surface ∉ later.surfaceProvenance))

def swapScoped (run : RunResult) : List String :=
  let livePipeline : Bool := run.surfaceProvenance.lookup .ragPipeline = some .live
  run.exercisedProbes.filter fun probeId =>
    probeId ∈ geometryProbes ∨ probeId ∈ erasureWorkflowIds ∨
      livePipeline ∧ probeId = "rag-pipeline-bleed"

/-- The two geometries that the runs name, when they differ. -/
def embedderChange : Option String → Option String → Option (String × String)
  | some earlier, some later =>
    if canonicalEmbeddingSpec earlier ≠ canonicalEmbeddingSpec later then some (earlier, later)
    else none
  | _, _ => none

def diffRuns (earlier later : RunResult) : RunDiff :=
  let embedderChanged := embedderChange earlier.vectorEmbedder later.vectorEmbedder
  { metrics := compareMetrics earlier.metrics later.metrics
    findings := diffFindings earlier.findings later.findings
    coverageLost := coverageLost earlier later
    scopeLost := scopeLost earlier later
    boundaryLost := newlyCounted earlier.metrics.userStepsDropped later.metrics.userStepsDropped
    plantsLost := newlyCounted earlier.metrics.unconfirmedPlants later.metrics.unconfirmedPlants
    erasureLost := erasureLost earlier later
    sideChannelLost := sortedSet (earlier.metrics.sideChannelEffectSizes.keys.filter fun pair =>
      pair ∉ later.metrics.sideChannelEffectSizes)
    scenarioChanged := earlier.scenarioHash ≠ later.scenarioHash
    embedderChanged
    embedderScoped :=
      if embedderChanged.isSome then sortedSet (swapScoped earlier ++ swapScoped later) else [] }

end Sectum
