import Sectum.Evidence.Labels

/-! `sectum_ai.evidence.controls`: the framework controls that the evidence of a run speaks to. -/

namespace Sectum

open Py

def coverageDisclaimer : String :=
  "These control mappings assert that Sectum AI produced test-coverage evidence for the named " ++
    "controls. They are not a legal certification of compliance and do not substitute for an " ++
    "audit or a Data Protection Impact Assessment."

inductive Requirement
  | isolation
  | erasure
  deriving DecidableEq, Repr

/-- A row of `_CONTROL_TABLE`; no surfaces stand for any. -/
structure ControlRow where
  framework : String
  controlIds : List String
  assertion : String
  requirement : Requirement
  surfaces : List Surface := []
  deriving DecidableEq, Repr

def controlTable : List ControlRow :=
  [{ framework := "SOC 2 (TSC)"
     controlIds := ["CC6.1", "CC6.6", "CC6.7"]
     assertion := "Tenant logical separation tested by benign and adversarial probing across " ++
       "the AI surfaces."
     requirement := .isolation },
    { framework := "ISO/IEC 27001:2022"
      controlIds := ["A.5.15", "A.8.3", "A.8.12"]
      assertion := "Cross-tenant information leakage tested; residual leakage itemized."
      requirement := .isolation },
    { framework := "ISO/IEC 42001:2023"
      controlIds := ["A.6.2.6", "A.7.2", "A.7.5"]
      assertion := "Per-tenant data management and provenance in the AI system tested; " ++
        "isolation verified under AI system operation and monitoring."
      requirement := .isolation },
    { framework := "GDPR"
      controlIds := ["Article 25", "Article 32"]
      assertion := "Tenant isolation tested across the AI surfaces."
      requirement := .isolation },
    { framework := "GDPR"
      controlIds := ["Article 17"]
      assertion := "Erasure across the AI surfaces verified."
      requirement := .erasure },
    { framework := "CCPA/CPRA"
      controlIds := ["1798.100", "1798.150"]
      assertion := "Segregation of consumer data tested across the AI surfaces."
      requirement := .isolation },
    { framework := "CCPA/CPRA"
      controlIds := ["1798.105"]
      assertion := "Deletion of a consumer's personal information across the AI surfaces verified."
      requirement := .erasure },
    { framework := "EU AI Act"
      controlIds := ["Article 15"]
      assertion := "Robustness of tenant isolation tested under benign and adversarial conditions."
      requirement := .isolation },
    { framework := "HIPAA"
      controlIds := ["164.312(a)(1)", "164.312(c)(1)", "164.312(e)(1)"]
      assertion := "Segregation of regulated tenant data verified across the AI surfaces."
      requirement := .isolation },
    { framework := "NIST AI RMF"
      controlIds := ["MEASURE 2.7", "MANAGE 2.x"]
      assertion := "Documented measurement of multi-tenant security risk."
      requirement := .isolation },
    { framework := "OWASP LLM Top 10"
      controlIds := ["LLM08:2025"]
      assertion := "Direct test coverage of vector and embedding multi-tenant weaknesses."
      requirement := .isolation
      surfaces := [.vectorDb, .api, .ragPipeline] }]

def isolationProbeSurfaces : Dict String (List Surface) :=
  Dict.ofItems
    [("tenant-boundary-fetch", [.vectorDb, .api]),
      ("rag-entity-bleed", [.vectorDb, .api]),
      ("rag-pipeline-bleed", [.ragPipeline]),
      ("rag-poisoning", [.vectorDb, .api]),
      ("semantic-cache-contamination", [.semanticCache]),
      ("kv-cache-timing", [.modelAdapter]),
      ("embedding-inversion", [.vectorDb, .api]),
      ("agent-tool-hijack", [.mcp]),
      ("agent-framework-hijack", [.agentFramework]),
      ("memory-contamination", [.agentMemory]),
      ("lora-cross-tenant", [.modelAdapter]),
      ("ikea-extraction", [.vectorDb, .api]),
      ("multimodal-rag-bleed", [.vectorDb, .api])]

namespace RunResult

variable (run : RunResult)

def liveSurfaces : Finset Surface :=
  run.exercisedSurfaces.filter fun surface => run.surfaceProvenance.lookup surface = some .live

/-- The live surfaces whose erasure was scanned to a verdict other than NOT_COVERED. -/
def erasureScannedSurfaces : Finset Surface :=
  ((run.metrics.erasureCoverage.items.filter fun entry =>
    entry.1 ∈ run.liveSurfaces ∧ entry.2 ≠ .notCovered).map Prod.fst).toFinset

/-- The live surfaces that the isolation probes of the run drove. -/
def isolationSurfaces : Finset Surface :=
  let drove := (run.exercisedProbes.filter fun probeId => probeId ∉ erasureWorkflowIds).flatMap
    fun probeId => isolationProbeSurfaces.getD probeId []
  (run.liveSurfaces \ run.erasureScannedSurfaces) ∩ drove.toFinset

/-- The live surfaces among those that a row is about. -/
def liveAmong (surfaces : List Surface) : Finset Surface :=
  if surfaces = [] then run.liveSurfaces else run.liveSurfaces ∩ surfaces.toFinset

/-- `_run_supports`. -/
def supports (requirement : Requirement) (surfaces : List Surface) : Bool :=
  let live := run.liveAmong surfaces
  match requirement with
  | .erasure =>
    run.metrics.erasureCoverage.items.any fun entry =>
      (entry.2 = .erased ∨ entry.2 = .residual) ∧ entry.1 ∈ live
  | .isolation =>
    (run.exercisedProbes.any fun probeId => probeId ∉ erasureWorkflowIds) &&
      decide (live ∩ run.isolationSurfaces ≠ ∅)

end RunResult

/-- The row of the table that a mapping was made from. -/
def ControlMapping.row (mapping : ControlMapping) : Option ControlRow :=
  controlTable.find? fun row =>
    row.framework = mapping.framework ∧ row.controlIds = mapping.controlIds

/-- The live surfaces that the mapping speaks for. -/
def assertedSurfaces (run : RunResult) (mapping : ControlMapping) : Finset Surface :=
  match mapping.row with
  | none => run.liveSurfaces
  | some row =>
    let live := run.liveAmong row.surfaces
    match row.requirement with
    | .erasure => live ∩ run.erasureScannedSurfaces
    | .isolation => live ∩ run.isolationSurfaces

def mappingRequirement (mapping : ControlMapping) : Requirement :=
  (mapping.row.map ControlRow.requirement).getD .isolation

/-- The surfaces on which the run could not establish that the data is gone: the live ones without
a verdict, and the named ones with markers that it could not rule out. -/
def inconclusiveSurfaces (run : RunResult) (named : Finset Surface) : Finset Surface :=
  let inconclusive := (run.liveSurfaces ∩ erasureSurfaces.toFinset).filter fun surface =>
    run.metrics.erasureCoverage.getD surface .notCovered = .notCovered
  let unestablished := named.filter fun surface =>
    0 < run.metrics.erasureUnverifiable.getD surface 0
  inconclusive ∪ unestablished

/-- What keeps a run from attesting an erasure. -/
def erasureFailures (run : RunResult) (named : Finset Surface) : List String :=
  let verdicts := named.image fun surface => run.metrics.erasureCoverage.lookup surface
  let inconclusive := inconclusiveSurfaces run named
  (if some .residual ∈ verdicts then ["residual data remains and is itemized in this pack"]
    else []) ++
  (if some .attestableWithCaveat ∈ verdicts then
      ["one or more surfaces expose no per-tenant erasure API, so their data is presumed retained"]
    else []) ++
  (if inconclusive ≠ ∅ then ["absence could not be established on " ++ joinSurfaces inconclusive]
    else [])

def erasureAssertion (run : RunResult) (named : Finset Surface) (verified : String) : String :=
  let failures := erasureFailures run named
  if failures = [] then verified
  else replace " verified."
    (" tested; " ++ join "; " failures ++ ". This run is not an attestation.") verified

/-- The mapping that a row makes, without the surfaces that it rests on. -/
def ControlRow.mapping (row : ControlRow) : ControlMapping :=
  { framework := row.framework, controlIds := row.controlIds, assertion := row.assertion }

/-- The assertion that the run supports, with the surfaces that it rests on. -/
def ControlRow.asserted (row : ControlRow) (run : RunResult) : ControlMapping :=
  let named := assertedSurfaces run row.mapping
  let stated := match row.requirement with
    | .isolation => row.assertion
    | .erasure => erasureAssertion run named row.assertion
  { row.mapping with assertion := stated ++ " Live surfaces: " ++ joinSurfaces named ++ "." }

def controlMappings (run : Option RunResult) : List ControlMapping :=
  match run with
  | none => controlTable.map ControlRow.mapping
  | some run =>
    (controlTable.filter fun row => run.supports row.requirement row.surfaces).map fun row =>
      row.asserted run

end Sectum
