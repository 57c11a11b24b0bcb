import Sectum.Core.Baseline
import Sectum.Core.ProbeRecord
import Sectum.Core.VerifyCommand
import Sectum.Lib.PyFormat

/-! `baseline --compare` of `sectum_ai.cli.app`: what the command prints about two records, and its
exit status. -/

namespace Sectum

open Py

section Verdict

/-- The tag of a metric line. -/
inductive DeltaVerdict
  | notMeasured
  | info
  | regressed
  | ok
  deriving DecidableEq, Repr

def DeltaVerdict.text : DeltaVerdict → String
  | notMeasured => "not measured"
  | info => "info"
  | regressed => "REGRESSED"
  | ok => "ok"

/-- `_HEADLINE_METRIC_PROBES`. -/
def headlineMetricProbes : Dict String (List String) :=
  Dict.ofItems
    [("retrieval_pivot_rate", bleedProbeIds),
      ("poisoning_bleed_delta", [ragPoisoningId]),
      ("inversion_reconstruction_rate", [embeddingInversionId]),
      ("extraction_efficiency", [ikeaExtractionId])]

/-- `_MAP_METRIC_PROBES`. -/
def mapMetricProbes : Dict String (List String) :=
  Dict.ofItems [("side_channel_effect_sizes", [kvCacheTimingId])]

/-- `name.split("[", 1)[0]`. -/
def mapLabel (name : String) : String := String.ofList (name.toList.takeWhile (· ≠ '['))

/-- `f"[{key}]" in name`. -/
def isKeyedBy (name key : String) : Bool := isIn ("[" ++ key ++ "]") name

def deltaVerdict (delta : MetricDelta) (coverageLost boundaryLost : List String)
    (scopeLost : List Surface) (keyLost : List String) (scenarioChanged : Bool) : DeltaVerdict :=
  if scenarioChanged then .notMeasured
  else if delta.bounded then .notMeasured
  else
    let lost := coverageLost ++ boundaryLost ++
      (probeSurfaces.items.filter fun entry => entry.2.any (· ∈ scopeLost)).map Prod.fst
    if delta.keyLost then .notMeasured
    else if delta.baselineAbsent && delta.currentAbsent then .notMeasured
    else if keyLost.any fun key => isKeyedBy delta.name key then .notMeasured
    else
      let fedBy := headlineMetricProbes.getD delta.name [] ++
        mapMetricProbes.getD (mapLabel delta.name) []
      if (lost.any fun probeId => isKeyedBy delta.name probeId) || fedBy.any (· ∈ lost) then
        .notMeasured
      else if (!lost.isEmpty || !keyLost.isEmpty) && delta.name = "confirmed_findings" &&
          !delta.regressed then .notMeasured
      else if delta.informational then .info
      else if delta.regressed then .regressed
      else .ok

def lostVerdict (delta : MetricDelta) (result : RunDiff) : DeltaVerdict :=
  deltaVerdict delta (result.coverageLost ++ result.embedderScoped)
    (result.boundaryLost ++ result.plantsLost) result.scopeLost
    (result.erasureLost.map Surface.value ++ result.scopeLost.map Surface.value ++
      result.sideChannelLost ++
        if result.embedderChanged.isSome then [Surface.vectorDb.value] else [])
    result.scenarioChanged

end Verdict

section Lines

variable [Unicode]

def deltaRange (delta : MetricDelta) : String :=
  let notMeasured := "(not measured)"
  let before := if delta.baselineAbsent then notMeasured else formatG delta.baseline
  let after := if delta.currentAbsent then notMeasured else formatG delta.current
  let bound := " (bounds, not measurements: an arm's spread was below the timer's resolution)"
  before ++ " -> " ++ after ++ if delta.bounded then bound else ""

/-- `_GEOMETRY_LABELS`. -/
def geometryLabels : List (String × String) :=
  [("rag-entity-bleed", "the Retrieval-Pivot Rate (Class 2)"), ("rag-poisoning", "Class 3"),
    ("embedding-inversion", "Class 6"), ("ikea-extraction", "Class 10"),
    ("gdpr-erasure-verification", "an erasure's vector residue scan"),
    ("gdpr-subject-erasure-verification", "a subject erasure's vector fingerprint scan")]

def embedderChangedBanner (change : String × String) (result : RunDiff) (earlier : String) :
    String :=
  let before := untrusted (describeVectorEmbedder change.1)
  let after := untrusted (describeVectorEmbedder change.2)
  let ranked :=
    (geometryLabels.filter fun label => label.1 ∈ result.embedderScoped).map Prod.snd
  let what := if ranked = [] then "its similarity ranking" else join ", " ranked
  let may :=
    if "rag-pipeline-bleed" ∈ result.embedderScoped ∧ "rag-entity-bleed" ∉ result.embedderScoped then
      "; a live RAG pipeline may read the store too, so the Retrieval-Pivot Rate it feeds is " ++
        "withheld rather than compared"
    else ""
  "[EMBEDDER CHANGED] the " ++ earlier ++ " run's vector store and this one ranked in different " ++
    "embedding geometries. The " ++ earlier ++ " run: " ++ before ++ ". This run: " ++ after ++
    ". Whatever ranked by similarity over the store - " ++ what ++ ", and the findings appearing " ++
    "or resolving there - was taken with a different instrument, so its difference cannot be " ++
    "attributed to a change in isolation" ++ may ++ "; re-baseline deliberately"

/-- A line in brackets about one lost probe, surface, pair or rate. -/
def lostLine (tag name detail : String) : EchoLine :=
  out ("[" ++ tag ++ "] " ++ untrusted name ++ ": " ++ detail)

def metricLine (result : RunDiff) (delta : MetricDelta) : EchoLine :=
  out ("[" ++ (lostVerdict delta result).text ++ "] " ++ untrusted delta.name ++ ": " ++
    deltaRange delta)

def escalationLine (change : FindingChange) : EchoLine :=
  out ("[REGRESSED] severity escalated: " ++ untrusted change.previous.findingId ++ " " ++
    change.previous.severity.value ++ " -> " ++ change.current.severity.value)

def newlyConfirmedLine (finding : Finding) : EchoLine :=
  out ("[REGRESSED] newly confirmed leak: " ++ untrusted finding.findingId)

def coverageLine (probeId : String) : EchoLine :=
  lostLine "COVERAGE LOST" probeId
    ("the baseline exercised this probe and this run did not; its metrics read as 0, not as " ++
      "improved")

def scopeLine (surface : Surface) : EchoLine :=
  lostLine "SCOPE LOST" surface.value
    ("live in the baseline, the built-in fake (or absent) in this run; its verdicts describe " ++
      "the fake, not your stack")

def boundaryLine (probeId : String) : EchoLine :=
  lostLine "BOUNDARY LOST" probeId
    ("its user-level steps were not run in this run (the adapter cannot carry the user); any " ++
      "resolved cross-user finding was not re-tested")

def plantsLine (probeId : String) : EchoLine :=
  lostLine "PLANTS LOST" probeId
    ("the backend acknowledged this probe's planted data and did not serve it back in this run " ++
      "(a zero TTL, a read-only replica, a quota); it graded on less setup than it planned")

def erasureLine (surface : Surface) : EchoLine :=
  lostLine "ERASURE NOT RESCANNED" surface.value
    ("the baseline scanned it to a residue count and this run did not (out of scope, or its " ++
      "absence could not be established); any resolved residual finding there was not re-tested")

def sideChannelLine (pair : String) : EchoLine :=
  lostLine "SIDE CHANNEL NOT REMEASURED" pair
    ("the baseline measured a timing effect size for this tenant pair and this run did not (the " ++
      "latency metric had no resolution, or the probe did not run); its drop to zero is a " ++
      "missing measurement, not a closed channel")

def rateLine (name : String) : EchoLine :=
  lostLine "RATE NOT REMEASURED" name
    ("the baseline run measured this headline rate and this one did not, so there is nothing to " ++
      "compare it against; its drop to zero is a missing measurement, not a closed leak")

def scenarioLine : EchoLine :=
  out ("[SCENARIO CHANGED] the two runs used different scenarios (a re-seed, other tenants or " ++
    "users): finding-level comparison is not meaningful, and a leak the baseline found may " ++
    "simply have nowhere to appear; re-baseline deliberately")

/-- The lines in brackets. -/
def comparisonLines (result : RunDiff) : List EchoLine :=
  result.metrics.deltas.map (metricLine result) ++
    result.findings.severityEscalations.map escalationLine ++
    result.findings.newlyConfirmed.map newlyConfirmedLine ++
    result.coverageLost.map coverageLine ++
    result.scopeLost.map scopeLine ++
    result.boundaryLost.map boundaryLine ++
    result.plantsLost.map plantsLine ++
    result.erasureLost.map erasureLine ++
    result.sideChannelLost.map sideChannelLine ++
    result.metrics.headlineUnmeasured.map rateLine ++
    (if result.scenarioChanged then [scenarioLine] else []) ++
    match result.embedderChanged with
    | some change => [out (embedderChangedBanner change result "baseline")]
    | none => []

end Lines

/-- `_warn_on_synthetic_surfaces`. -/
def warnOnSyntheticSurfaces (provenance : Dict Surface SurfaceProvenance) : List EchoLine :=
  if provenance.keys = [] then
    [err ("warning: this run records no surface provenance, so whether it touched live backends " ++
      "or the built-in synthetic stores cannot be established from it - `sectum-ai verify` " ++
      "refuses such a pack without --allow-synthetic.")]
  else
    let fake := (provenance.items.filter fun entry => entry.2 = .synthetic).map Prod.fst
    if fake = [] then []
    else
      let scope := if fake.length = provenance.keys.length then "every surface"
        else join ", " ((fake.map Surface.value).insertionSort (· ≤ ·))
      [err ("warning: no live adapter configured for " ++ scope ++ " - these verdicts describe " ++
        "the built-in synthetic stack, not your production systems. Configure real adapters via " ++
        "--config; docs/configuration.md lists every kind (`sectum-ai adapters` shows only the " ++
        "built-in fakes' capabilities).")]

section Command

variable [Unicode]

def closingLine (result : RunDiff) : EchoLine :=
  if result.regressed then
    err ("BASELINE REGRESSION: the bracketed lines above name which comparison regressed or " ++
      "could not be made.")
  else out "no regression against the baseline"

/-- What is printed about two records that do not contradict themselves. -/
def compareOutput (saved run : RunResult) : Emission :=
  let result := diffRuns saved run
  { lines := comparisonLines result ++ warnOnSyntheticSurfaces run.surfaceProvenance ++
      [closingLine result]
    exitCode := if result.regressed then 2 else 0 }

/-- `baseline --compare`, on the record that was saved at `savedPath` and the one at `runPath`. -/
def baselineCompare (saved run : RunResult) (savedPath runPath : String) :
    Except PyError Emission := do
  refuseSelfContradictingRecord saved savedPath
  refuseSelfContradictingRecord run runPath
  return compareOutput saved run

end Command

end Sectum
