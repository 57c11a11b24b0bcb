import Sectum.Evidence.Controls
import Sectum.Lib.Sha1

/-! `sectum_ai.evidence.oscal`: a run as a NIST OSCAL assessment-results document, one observation
for each finding and one control finding for each control that the run's evidence speaks to. -/

namespace Sectum

open Py

/-- `uuid.uuid5`: the first 128 bits of the hash of a namespace and a name, marked as version 5. -/
def uuid5 (ns : UUID) (name : String) : UUID :=
  let digest :=
    sha1 (Sha1.bytesOf 16 ns.bits.toNat ++ name.toUTF8.data.toList.map UInt8.toBitVec)
  let bits : BitVec 128 := digest.extractLsb' 32 128
  let variant := (bits &&& ~~~(0xc000#128 <<< 48)) ||| (0x8000#128 <<< 48)
  ⟨(variant &&& ~~~(0xf000#128 <<< 64)) ||| (5#128 <<< 76)⟩

example : (uuid5 ⟨0x6ba7b8109dad11d180b400c04fd430c8⟩ "python.org").str =
    "886313e1-3b8a-5372-9b90-0c9aee199e5d" := by
  decide +kernel

def oscalVersion : String := "1.1.2"

/-- `uuid.NAMESPACE_URL`. -/
def namespaceUrl : UUID := ⟨0x6ba7b8119dad11d180b400c04fd430c8⟩

def uuidNs : UUID := uuid5 namespaceUrl "https://sectum.ai/oscal/assessment-results"

def propNs : String := "https://sectum.ai/ns/oscal"

namespace Oscal

structure Property where
  name : String
  value : String
  ns : String
  deriving DecidableEq, Repr

structure Observation where
  uuid : String
  title : String
  description : String
  methods : List String
  types : List String
  props : List Property
  collected : String
  deriving DecidableEq, Repr

inductive State
  | satisfied
  | notSatisfied
  deriving DecidableEq, Repr

def State.value : State → String
  | satisfied => "satisfied"
  | notSatisfied => "not-satisfied"

structure Target where
  type : String
  targetId : String
  description : String
  props : List Property
  state : State
  reason : String
  deriving DecidableEq, Repr

structure ControlFinding where
  uuid : String
  title : String
  description : String
  target : Target
  relatedObservations : List String
  deriving DecidableEq, Repr

structure Metadata where
  title : String
  lastModified : String
  version : String
  oscalVersion : String
  props : List Property
  remarks : String
  deriving DecidableEq, Repr

/-- A result; the lists that the schema does not let be empty are absent instead. -/
structure Result where
  uuid : String
  title : String
  description : String
  start : String
  finish : String
  includeControls : Option (List String)
  observations : List Observation
  findings : Option (List ControlFinding)
  deriving DecidableEq, Repr

structure AssessmentResults where
  uuid : String
  metadata : Metadata
  importAp : String × String
  results : List Result
  deriving DecidableEq, Repr

def prop (name value : String) : Property := { name, value, ns := propNs }

def scopePrefix : Option SurfaceProvenance → String
  | some .live => ""
  | none => "[surface provenance not recorded - not evidence of a live backend] "
  | some .synthetic =>
    "[synthetic surface - describes Sectum's built-in fake, not the operator's stack] "

/-- `_uuid`: the identifier of the object that the parts name within a run. -/
def uuid (parts : List String) : String :=
  (uuid5 uuidNs (join "\x1f" parts)).str

section Document

variable [Unicode]

def observation (run : RunResult) (f : Finding) : Observation :=
  let evidence :=
    if f.evidenceSpan ≠ "" then f.evidenceSpan
    else "marker " ++ f.markerId.getD "None" ++ " owned by tenant " ++ f.ownerTenantId.str ++
      " observed in tenant " ++ f.observedInTenantId.str
  let recorded := run.surfaceProvenance.lookup f.backingSurface
  { uuid := uuid [run.runId, "observation", f.findingId]
    title := f.probeId ++ " on " ++ f.surface.value
    description := scopePrefix recorded ++ "Sectum AI probe " ++ Py.repr f.probeId ++
      " tested tenant isolation on the " ++ f.surface.value ++ " surface. " ++
      f.status.value.toUpper ++ " " ++ f.severity.value ++ " " ++ f.leakLabel ++ ": " ++ evidence
    methods := ["TEST"]
    types := ["finding"]
    props :=
      [prop "sectum-finding-id" f.findingId, prop "sectum-status" f.status.value,
        prop "sectum-severity" f.severity.value, prop "sectum-probe-id" f.probeId,
        prop "sectum-surface" f.surface.value,
        prop "sectum-owner-tenant-id" f.ownerTenantId.str,
        prop "sectum-observed-in-tenant-id" f.observedInTenantId.str,
        prop "sectum-backing-surface" f.backingSurface.value,
        prop "sectum-surface-provenance"
          ((recorded.map SurfaceProvenance.value).getD "UNRECORDED")] ++
      f.markerId.toList.map (prop "sectum-marker-id") ++
      (if f.owaspLlm ≠ "" then [prop "owasp-llm" f.owaspLlm] else []) ++
      f.atlas.map (prop "mitre-atlas") ++ f.nist.map (prop "nist-ai-rmf")
    collected := run.finishedAt.toUtcIso }

/-- What an isolation verdict of a run that did less than it planned does not cover. -/
def narrowed (metrics : RunMetrics) : String :=
  (if metrics.userStepsDropped.items.any fun entry => entry.2 ≠ 0 then
      " The user boundary was not exercised on every probe: user-level steps were not run where " ++
        "the adapter cannot carry a user identity, so this states the tenant boundary."
    else "") ++
  (if metrics.unconfirmedPlants.items.any fun entry => entry.2 ≠ 0 then
      " Some planted data never came back from the backend, so part of this was graded on setup " ++
        "that did not land."
    else "")

def erasureVerdict (failed : Bool) (residualSurfaces : Finset Surface) : String :=
  if failed then
    "Sectum AI could not verify the erasure on " ++ joinSurfaces residualSurfaces ++
      ": a marker remained, the data is presumed retained, or its absence could not be " ++
      "established; the erasure objective is not satisfied for this run."
  else "Sectum AI verified the erasure on every live surface it scanned for this run."

def isolationVerdict (failed : Bool) (metrics : RunMetrics) : String :=
  if failed then
    "Sectum AI confirmed at least one manifest-grounded cross-principal leak on a live surface; " ++
      "the tested isolation objective is not satisfied for this run."
  else
    "Sectum AI tested tenant isolation across the live configured AI surfaces and confirmed no " ++
      "cross-principal leakage for this run." ++ narrowed metrics

/-- `_finding`. -/
def controlFinding (run : RunResult) (mapping : ControlMapping) (controlId : String)
    (hasConfirmedLeak hasResidual : Bool) (residualSurfaces : Finset Surface)
    (observationUuids : List String) : ControlFinding :=
  let erasure : Bool := mappingRequirement mapping = .erasure
  let objective := if erasure then "erasure verification" else "tenant isolation"
  let failed := if erasure then hasResidual else hasConfirmedLeak
  let verdict :=
    if erasure then erasureVerdict failed residualSurfaces else isolationVerdict failed run.metrics
  { uuid := uuid [run.runId, "finding", mapping.framework, controlId]
    title := mapping.framework ++ " " ++ controlId ++ " — " ++ objective
    description := mapping.assertion ++ " " ++ verdict
    target :=
      { type := "objective-id", targetId := controlId, description := verdict
        props := [prop "framework" mapping.framework]
        state := if failed then .notSatisfied else .satisfied
        reason := "tested" }
    relatedObservations := observationUuids }

def metadata (run : RunResult) (toolVersion : String) : Metadata :=
  { title := "Sectum AI multi-tenant isolation assessment — run " ++ run.runId
    lastModified := run.finishedAt.toUtcIso
    version := toolVersion
    oscalVersion
    props :=
      [prop "assessment-tool" "Sectum AI", prop "sectum-run-id" run.runId,
        prop "sectum-scenario-hash" run.scenarioHash,
        prop "sectum-manifest-hash" run.manifestHash] ++
      (sortedSurfaces run.exercisedSurfaces).filterMap fun surface =>
        (run.surfaceProvenance.lookup surface).map fun provenance =>
          prop ("sectum-surface-provenance-" ++ surface.value) provenance.value
    remarks := coverageDisclaimer }

end Document

end Oscal

namespace RunResult

variable (run : RunResult)

def attested : List Finding :=
  run.findings.filter fun f => f.status = .confirmed ∧ f.backingSurface ∈ run.liveSurfaces

/-- The live erasure surfaces whose erasure the record does not say is complete. -/
def residualSurfaces : Finset Surface :=
  if run.metrics.erasureCoverage.keys = [] then ∅
  else
    (run.liveSurfaces ∩ erasureSurfaces.toFinset).filter fun surface =>
      let verdict := run.metrics.erasureCoverage.getD surface .notCovered
      (surface ∈ run.erasureScannedSurfaces ∧ verdict ≠ .erased) ∨ verdict = .notCovered

/-- The confirmed findings on surfaces that the provenance block does not record. -/
def unplaceable : List Finding :=
  run.findings.filter fun f => f.status = .confirmed ∧ f.backingSurface ∈ unaccountedSurfaces run

def hasConfirmedLeak : Bool := run.attested.any Finding.isCrossPrincipal

def hasResidual : Bool := run.residualSurfaces ≠ ∅

def unplaceableIsolation : Bool := run.unplaceable.any Finding.isCrossPrincipal

def unplaceableErasure : Bool :=
  run.unplaceable.any fun f => !f.isCrossPrincipal && f.backingSurface ∈ erasureSurfaces

/-- Whether the export states no verdict for the mapping, because it would be a pass that a finding
which nothing places puts in doubt. -/
def withholds (mapping : ControlMapping) : Bool :=
  if mappingRequirement mapping = .erasure then run.unplaceableErasure && !run.hasResidual
  else run.unplaceableIsolation && !run.hasConfirmedLeak

/-- The control ids of the mappings, each once, in the order of their first mention. -/
def controlIdsOf (mappings : List ControlMapping) : List String :=
  (mappings.flatMap ControlMapping.controlIds).foldl
    (fun ids controlId => if controlId ∈ ids then ids else ids ++ [controlId]) []

def unplacedText (withheldControls : List String) : String :=
  if run.unplaceable = [] then ""
  else
    " Confirmed findings in this run rest on " ++
      joinSurfaces (run.unplaceable.map Finding.backingSurface).toFinset ++
      ", which its provenance block never recorded: whether those were live backends or " ++
      "Sectum's built-in fakes cannot be established from this pack." ++
      (if withheldControls ≠ [] then
        " No verdict is stated for the control(s) that would otherwise have read satisfied on " ++
          "that evidence: " ++ join ", " withheldControls ++ "."
      else "")

def excludedText : String :=
  let synthetic := run.exercisedSurfaces \ run.liveSurfaces
  if synthetic ≠ ∅ ∧ run.liveSurfaces ≠ ∅ then
    " Surfaces that ran against the built-in fake and are excluded from every control verdict: " ++
      joinSurfaces synthetic ++ "."
  else ""

/-- The paragraphs that describe a result with a live surface. -/
def resultParts : List String :=
  let erasureRun : Bool := run.metrics.erasureCoverage.keys ≠ []
  let isolationLead :=
    "Sectum AI provisioned synthetic tenants seeded with cryptographic canary markers and ran " ++
      "benign and adversarial probes across the configured AI surfaces. "
  (if erasureRun then
      ["Sectum AI scanned an erasure across the live configured AI surfaces. " ++
        (if run.hasResidual then
          "The erasure is unverified on " ++ joinSurfaces run.residualSurfaces ++
            ": a marker remained, the data is presumed retained, or its absence could not be " ++
            "established; see the observations and findings."
        else "No marker remained on any live surface scanned.")]
    else []) ++
  (if run.hasConfirmedLeak then
      [isolationLead ++ "At least one manifest-grounded cross-principal leak was confirmed on a " ++
        "live surface; see the observations and findings."]
    else if run.exercisedProbes = [] then
      ["No Sectum AI probe executed in this run, so no isolation objective was assessed. An " ++
        "empty finding list here is an ABSENT scan, not a clean one."]
    else if !erasureRun then
      [isolationLead ++ "No cross-principal leakage was confirmed on the live surfaces tested."]
    else [])

def resultDescription (withheldControls : List String) : String :=
  let unplaced := run.unplacedText withheldControls
  if run.liveSurfaces = ∅ then
    "Sectum AI ran its probes against its own built-in synthetic stack only (or recorded no " ++
      "surface provenance): no surface in this run is known to be a live, configured backend, " ++
      "so no control objective was assessed and no control finding is stated. The observations " ++
      "describe that synthetic stack, not any production system." ++ unplaced
  else join " " run.resultParts ++ run.excludedText ++ unplaced

end RunResult

section Document

variable [Unicode]

open Oscal

/-- The control findings of the document, for the mappings that it states a verdict for. -/
def controlFindings (run : RunResult) : List ControlFinding :=
  let observationUuids := (run.findings.map (observation run)).map Observation.uuid
  let stated := (controlMappings (some run)).filter fun mapping => !run.withholds mapping
  stated.flatMap fun mapping => mapping.controlIds.map fun controlId =>
    controlFinding run mapping controlId run.hasConfirmedLeak run.hasResidual run.residualSurfaces
      observationUuids

def runToOscal (run : RunResult) (toolVersion : String := "0") : AssessmentResults :=
  let mappings := controlMappings (some run)
  let withheldControls := RunResult.controlIdsOf (mappings.filter run.withholds)
  let reviewedControlIds := RunResult.controlIdsOf (mappings.filter fun m => !run.withholds m)
  let findings := controlFindings run
  { uuid := (uuid5 uuidNs run.runId).str
    metadata := metadata run toolVersion
    importAp := ("https://sectum.ai/oscal/no-assessment-plan",
      "Sectum AI emits OSCAL assessment-results directly from a run; there is no separate OSCAL " ++
        "assessment-plan. The assessment scope is the scenario and ground-truth manifest " ++
        "referenced in the metadata props.")
    results :=
      [{ uuid := uuid [run.runId, "result"]
         title := "Multi-tenant isolation verification"
         description := run.resultDescription withheldControls
         start := run.startedAt.toUtcIso
         finish := run.finishedAt.toUtcIso
         includeControls := if reviewedControlIds = [] then none else some reviewedControlIds
         observations := run.findings.map (observation run)
         findings := if findings = [] then none else some findings }] }

end Document

end Sectum
