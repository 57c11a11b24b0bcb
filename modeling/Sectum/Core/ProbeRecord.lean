import Sectum.Core.Runner
import Sectum.Core.Score

/-! `probe` of `sectum_ai.cli.app`: the record that is assembled from the results of the steps and of
the timing probe, and the check of a record against its own findings that the commands make which
compare it or sign it. -/

namespace Sectum

open Py

/-- What a record reads of an adapter. -/
structure DeclaredAdapter where
  name : String
  surface : Surface
  synthetic : Bool

/-- The adapters of a run, one in each slot. -/
structure AdapterBundle where
  slot : Slot → DeclaredAdapter
  vectorEmbedderName : String

structure TimingSignal where
  ownerTenantId : UUID
  observedInTenantId : UUID
  effectSize : ℚ
  varianceFloored : Bool := false
  resolved : Bool := true

structure KvCacheTimingReport where
  signals : List TimingSignal
  findings : List Finding

def kvCacheTimingId : String := "kv-cache-timing"

/-- `_pair_key`. -/
def pairKey (signal : TimingSignal) : String :=
  signal.ownerTenantId.hex ++ "->" ++ signal.observedInTenantId.hex

namespace KvCacheTimingReport

variable (report : KvCacheTimingReport)

def resolved : List TimingSignal := report.signals.filter TimingSignal.resolved

def effectSizes : Dict String ℚ :=
  Dict.ofItems (report.resolved.map fun signal => (pairKey signal, signal.effectSize))

def varianceFlooredPairs : List String :=
  ((report.resolved.filter TimingSignal.varianceFloored).map pairKey).insertionSort (· ≤ ·)

end KvCacheTimingReport

section Rates

/-- The counts behind the Retrieval-Pivot Rate. -/
def retrievalPivotCounts (stepResults : List StepResult) : Nat × Nat :=
  (stepResults.countP fun result => confirmedFindings result.2 ≠ [], stepResults.length)

def confirmedFindingRate (stepResults : List StepResult) : ℚ :=
  if stepResults = [] then 0
  else
    (stepResults.countP fun result => confirmedFindings result.2 ≠ []) / stepResults.length

/-- The sequence that a step belongs to. -/
def sequenceIdentity (key : String) (step : ProbeStep) : String × String × String :=
  (step.actorTenantId.str,
    match step.actorUserId with
    | some user => user.str
    | none => "",
    step.payload.getD key "")

/-- Whether each sequence leaked. -/
def sequences (key : String) (stepResults : List StepResult) :
    Dict (String × String × String) Bool :=
  stepResults.foldl (fun sequences result =>
    let identity := sequenceIdentity key result.1
    sequences.set identity
      (sequences.getD identity false || confirmedFindings result.2 ≠ [])) ∅

def confirmedSequenceRate (stepResults : List StepResult) (key : String) : ℚ :=
  if stepResults = [] then 0
  else
    let leaked := (sequences key stepResults).items.map Prod.snd
    leaked.countP id / leaked.length

/-- `rate(steps) if steps else None`. -/
def rateOver (rate : List StepResult → ℚ) (steps : List StepResult) : Option ℚ :=
  if steps ≠ [] then some (rate steps) else none

end Rates

section Record

def bleedProbeIds : List String := ["rag-entity-bleed", "rag-pipeline-bleed"]

def ragPoisoningId : String := "rag-poisoning"

def embeddingInversionId : String := "embedding-inversion"

def ikeaExtractionId : String := "ikea-extraction"

def perProbeCounts (findings : List Finding) : Dict String Int :=
  findings.foldl (fun counts f => counts.set f.probeId (counts.getD f.probeId 0 + 1)) ∅

namespace AdapterBundle

variable (bundle : AdapterBundle)

/-- The adapter behind each family of actions. -/
def slotAdapters : Dict String DeclaredAdapter :=
  Dict.ofItems (slots.map fun slot => (slot.name, bundle.slot slot))

/-- Whether the adapter that declares a surface is live; of two that declare it the later speaks. -/
def surfaceProvenance : Dict Surface SurfaceProvenance :=
  Dict.ofItems (slots.map fun slot =>
    ((bundle.slot slot).surface, if (bundle.slot slot).synthetic then .synthetic else .live))

/-- The surface of a step: `KeyError` where no slot has its family. -/
def stepSurface (step : ProbeStep) : Except PyError Surface :=
  match bundle.slotAdapters.lookup (Runner.family step.action) with
  | some adapter => .ok adapter.surface
  | none => .error (.keyError (Runner.family step.action))

def exercisedSurfaces (stepResults : List StepResult) (kvReport : Option KvCacheTimingReport) :
    Except PyError (List Surface) := do
  let exercised ← stepResults.mapM fun result => bundle.stepSurface result.1
  return exercised ++
    match kvReport with
    | some report => if report.resolved ≠ [] then [(bundle.slot .model).surface] else []
    | none => []

/-- The families of the live adapters that were exercised. -/
def liveSlots (exercised : List Surface) : List String :=
  (bundle.slotAdapters.items.filter fun entry =>
    !entry.2.synthetic ∧ entry.2.surface ∈ exercised).map Prod.fst

/-- On a run with a live surface, what was done on the live ones. -/
def liveOnly (exercised : List Surface) (results : List StepResult) : List StepResult :=
  if bundle.liveSlots exercised = [] then results
  else results.filter fun result => Runner.family result.1.action ∈ bundle.liveSlots exercised

end AdapterBundle

/-- What a record takes from elsewhere. -/
structure RecordContext where
  runId : String
  scenarioHash : String
  manifestHash : String
  startedAt : DateTime
  finishedAt : DateTime
  adaptersVersion : String
  version : String
  detection : DetectionProvenance
  perModelRpr : Dict String ℚ := ∅
  droppedUserSteps : Dict String Int := ∅
  unconfirmedPlants : Dict String Int := ∅

/-- The findings of the suite and of the timing probe, before they are deduplicated. -/
def rawFindings (stepResults : List StepResult) (kvReport : Option KvCacheTimingReport) :
    List Finding :=
  stepResults.flatMap Prod.snd ++
    match kvReport with
    | some report => report.findings
    | none => []

def probeVersions (version : String) (stepResults : List StepResult)
    (kvReport : Option KvCacheTimingReport) : Dict String String :=
  let probes := Dict.ofItems ((sortedSet (stepResults.map fun result => result.1.probeId)).map
    fun probeId => (probeId, version))
  match kvReport with
  | some report => if report.resolved ≠ [] then probes.set kvCacheTimingId version else probes
  | none => probes

/-- The steps of some probes, and of one action when it is given. -/
def stepsOf (probeIds : List String) (action : Option String) (stepResults : List StepResult) :
    List StepResult :=
  stepResults.filter fun result =>
    result.1.probeId ∈ probeIds ∧ ∀ wanted ∈ action, result.1.action = wanted

variable [MathSqrt] [MathErfc]

/-- The interval of the Retrieval-Pivot Rate, where there is one. -/
def pivotInterval (rprK rprN : Nat) : Except PyError (Option (ℚ × ℚ)) :=
  if rprN ≠ 0 then (wilsonInterval rprK rprN).map some else .ok none

/-- The record of a run. -/
def probeRecord (context : RecordContext) (bundle : AdapterBundle)
    (stepResults : List StepResult) (kvReport : Option KvCacheTimingReport) :
    Except PyError RunResult := do
  let findings := dedupeFindings (rawFindings stepResults kvReport)
  let confirmed := confirmedFindings findings
  let exercised ← bundle.exercisedSurfaces stepResults kvReport
  let bleedSteps := bundle.liveOnly exercised (stepsOf bleedProbeIds none stepResults)
  let rprK := (retrievalPivotCounts bleedSteps).1
  let rprN := (retrievalPivotCounts bleedSteps).2
  let rprCi ← pivotInterval rprK rprN
  let poisonQuerySteps :=
    bundle.liveOnly exercised (stepsOf [ragPoisoningId] (some "vector.query") stepResults)
  let inversionSteps :=
    bundle.liveOnly exercised (stepsOf [embeddingInversionId] none stepResults)
  let extractionSteps := bundle.liveOnly exercised (stepsOf [ikeaExtractionId] none stepResults)
  return {
    runId := context.runId
    scenarioHash := context.scenarioHash
    manifestHash := context.manifestHash
    startedAt := context.startedAt
    finishedAt := context.finishedAt
    adapterVersions := Dict.ofItems (slots.map fun slot =>
      ((bundle.slot slot).name, context.adaptersVersion))
    surfaceProvenance := Dict.ofItems (bundle.surfaceProvenance.items.filter fun entry =>
      entry.1 ∈ exercised)
    probeVersions := probeVersions context.version stepResults kvReport
    findings
    metrics :=
      { perProbeFindings := perProbeCounts confirmed
        confirmedFindings := confirmed.length
        retrievalPivotRate := if rprN ≠ 0 then some (rprK / rprN) else none
        retrievalPivotN := rprN
        retrievalPivotK := rprK
        retrievalPivotRateCi := rprCi
        retrievalPivotRateByModel := context.perModelRpr
        sideChannelEffectSizes :=
          match kvReport with
          | some report => report.effectSizes
          | none => ∅
        sideChannelVarianceFloored :=
          match kvReport with
          | some report => report.varianceFlooredPairs
          | none => []
        poisoningBleedDelta := rateOver confirmedFindingRate poisonQuerySteps
        inversionReconstructionRate := rateOver confirmedFindingRate inversionSteps
        extractionEfficiency :=
          rateOver (fun results => confirmedSequenceRate results "entity") extractionSteps
        userStepsDropped := context.droppedUserSteps
        unconfirmedPlants := context.unconfirmedPlants }
    detection := some context.detection
    vectorEmbedder :=
      if stepResults.any fun result => result.1.probeId ∈ geometryProbes then
        some bundle.vectorEmbedderName
      else none }

end Record

section Refusal

def editedText : String :=
  "It was edited or written partially; re-run 'sectum-ai probe' to produce a record that can be " ++
    "compared"

/-- The probes of which the counts of a record and its findings disagree. -/
def disagreeing (run : RunResult) : List String :=
  let counted := perProbeCounts (confirmedFindings run.findings)
  let recorded := run.metrics.perProbeFindings
  if recorded.keys = [] ∧ ∀ probeId ∈ counted.keys, probeId ∈ erasureWorkflowIds then []
  else (sortedSet (counted.keys ++ recorded.keys)).filter fun probeId =>
    counted.getD probeId 0 ≠ recorded.getD probeId 0

def refuseSelfContradictingRecord (run : RunResult) (what : String) : Except PyError Unit :=
  let confirmed := confirmedFindings run.findings
  let counted := perProbeCounts confirmed
  if run.metrics.confirmedFindings ≠ confirmed.length then
    .error (.configError (what ++ " contradicts itself: it records confirmed_findings=" ++
      toString run.metrics.confirmedFindings ++ " and carries " ++ toString confirmed.length ++
      " confirmed finding(s). " ++ editedText))
  else if disagreeing run ≠ [] then
    .error (.configError (what ++ " contradicts itself (" ++
      join ", " ((disagreeing run).map fun probeId =>
        probeId ++ ": records " ++ toString (run.metrics.perProbeFindings.getD probeId 0) ++
          ", carries " ++ toString (counted.getD probeId 0)) ++ "). " ++ editedText))
  else .ok ()

end Refusal

end Sectum
