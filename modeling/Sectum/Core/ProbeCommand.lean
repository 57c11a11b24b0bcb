import Sectum.Core.Jobs
import Sectum.Probes.Catalog
import Sectum.Probes.KvTiming

/-! `probe` of `sectum_ai.cli.app`: the probes that the configured stack can satisfy, and whose canaries
it can have received, are run, and what they found is recorded. -/

namespace Sectum

open Py

section Suites

/-- `Suite` of `sectum_ai.suites`. -/
structure Suite where
  name : String
  probeIds : List String
  frameworks : List String
  includeKvTiming : Bool := false

def soc2TenantIsolation : Suite where
  name := "soc2-tenant-isolation"
  probeIds :=
    ["tenant-boundary-fetch", "rag-entity-bleed", "rag-pipeline-bleed",
      "semantic-cache-contamination", "agent-tool-hijack", "agent-framework-hijack",
      "memory-contamination", "embedding-inversion", "lora-cross-tenant"]
  frameworks :=
    ["SOC 2 CC6.1", "SOC 2 CC6.6", "SOC 2 CC6.7", "ISO 27001 A.8.3", "ISO 27001 A.8.12"]
  includeKvTiming := true

def owaspLlm08 : Suite where
  name := "owasp-llm08"
  probeIds :=
    ["tenant-boundary-fetch", "rag-entity-bleed", "rag-pipeline-bleed",
      "semantic-cache-contamination", "lora-cross-tenant", "agent-tool-hijack",
      "agent-framework-hijack", "memory-contamination", "embedding-inversion", "ikea-extraction",
      "rag-poisoning"]
  frameworks := ["OWASP LLM08:2025", "NIST AI RMF MEASURE 2.7"]
  includeKvTiming := true

/-- `SUITES`. -/
def suites : Dict String Suite :=
  Dict.ofItems [("soc2-tenant-isolation", soc2TenantIsolation), ("owasp-llm08", owaspLlm08)]

/-- A probe of the command, and the capabilities of which one of its adapters has to have one. -/
structure SuiteMember where
  probe : Probe
  requiresAnyCapability : List Capability := []

variable [Unicode] [MathSqrt] [UuidText]

/-- `_build_suite`. -/
def buildSuite (providers : DetectionProviders) : List SuiteMember :=
  [⟨TenantBoundaryProbe.probe providers, []⟩,
    ⟨RagEntityBleedProbe.probe providers, []⟩,
    ⟨RagPipelineBleedProbe.probe providers, []⟩,
    ⟨SemanticCacheProbe.probe providers, []⟩,
    ⟨LoraCrossTenantProbe.probe providers, [.perTenantAdapter, .sharedWeights]⟩,
    ⟨AgentToolHijackProbe.probe providers, []⟩,
    ⟨AgentFrameworkHijackProbe.probe providers, []⟩,
    ⟨MemoryContamProbe.probe providers, []⟩,
    ⟨EmbeddingInversionProbe.probe providers, [.semanticRetrieval]⟩,
    ⟨IkeaExtractionProbe.probe providers, []⟩,
    ⟨RagPoisoningProbe.probe providers, []⟩]

end Suites

section Stops

/-- How the command stops without a record: with a line on the standard error and an exit status, or
with an exception. -/
inductive Stop
  | exit (text : String) (code : Nat)
  | failed (e : PyError)
  | raised (e : Raised)
  deriving DecidableEq, Repr

structure ProbeOptions where
  only : Option String := none
  suiteName : Option String := none
  maxConcurrency : Int := 1

variable [Unicode]

/-- The probes that `--suite` leaves, and whether the timing probe is run. -/
def namedSuite (suite : List SuiteMember) : Option String → Except Stop (List SuiteMember × Bool)
  | none => .ok (suite, true)
  | some name =>
    match suites.lookup name with
    | none => .error (.exit ("unknown suite '" ++ name ++ "'; available: " ++
        join ", " (sortedSet suites.keys)) 3)
    | some spec => .ok (suite.filter fun member => member.probe.id ∈ spec.probeIds,
        spec.includeKvTiming)

/-- The probes that `--probe` leaves of them. -/
def onlyProbe (suite : List SuiteMember) (runKvTiming : Bool) :
    Option String → Except Stop (List SuiteMember × Bool)
  | none => .ok (suite, runKvTiming)
  | some only =>
    let available := suite.map (fun member => member.probe.id) ++ [kvCacheTimingId]
    if only ∉ available then
      .error (.exit ("unknown probe '" ++ only ++ "'; available: " ++ join ", " available) 3)
    else .ok (suite.filter fun member => member.probe.id = only, only = kvCacheTimingId)

def selectSuite (options : ProbeOptions) (suite : List SuiteMember) :
    Except Stop (List SuiteMember × Bool) :=
  if options.only.isSome ∧ options.suiteName.isSome then
    .error (.exit "pass at most one of --probe and --suite" 3)
  else
    (namedSuite suite options.suiteName).bind fun selected =>
      onlyProbe selected.1 selected.2 options.only

/-- Whether a marker of the substrate is foreign to one of its principals. -/
def Substrate.hasBoundary (substrate : Substrate) : Bool :=
  substrate.manifest.markers.any fun marker =>
    substrate.principals.any fun principal => isCrossPrincipal marker principal

def noBoundaryText (substrate : Substrate) : String :=
  "no marker in this substrate is foreign to any of its principals (" ++
    toString substrate.principals.length ++ " principal(s), " ++
    toString substrate.manifest.markers.length ++ " marker(s)), so nothing can cross an " ++
    "isolation boundary and no probe can surface a leak however broken the stack is - every " ++
    "clean result would be a property of the substrate, not of the stack. Seed a substrate " ++
    "whose principals hold data foreign to one another (the default scenario has four tenants)."

end Stops

section Calls

variable {σ ε α : Type}

/-- A call for each of a list in turn. -/
def eachCall (call : α → Call σ ε Unit) : List α → Call σ ε Unit
  | [] => .pure ()
  | x :: xs => (call x).bind fun _ => eachCall call xs

/-- What a call raises stops the command. -/
def stopping (call : Call σ Raised α) : Call σ Stop α := fun world =>
  ((call world).1.mapError Stop.raised, (call world).2)

end Calls

section Stack

/-- The configured stack: what its adapters declare, how the runner drives them, how a canary is put
where the command seeds a fake itself, and the model that is built anew for the timing probe. -/
structure ProbeStack (σ τ : Type) where
  adapterName : Slot → String
  synthetic : Slot → Bool
  vectorEmbedderName : String
  capabilities : Slot → List Capability
  typeName : Raised → String
  vector : VectorSession σ
  cache : CacheSession σ
  model : ModelSession σ
  mcp : McpSession σ
  memory : MemorySession σ
  rag : RagSession σ
  observability : ObservabilitySession σ
  agent : AgentSession σ
  provisionMcp : Option (UUID → String → String → Call σ Raised Unit) := none
  provisionAgent : Option (UUID → String → String → Call σ Raised Unit) := none
  indexRag : Option (UUID → List CorpusDocument → Call σ Raised Unit) := none
  timedModel : TimedModel τ
  fresh : τ

namespace ProbeStack

variable {σ τ : Type} (stack : ProbeStack σ τ) (substrate : Substrate)

def runner : Runner σ where
  substrate := substrate
  vector := some stack.vector
  cache := some stack.cache
  model := some stack.model
  mcp := some stack.mcp
  memory := some stack.memory
  rag := some stack.rag
  observability := some stack.observability
  agent := some stack.agent

def surface : Slot → Surface
  | .vector => stack.vector.surface
  | .cache => stack.cache.surface
  | .model => stack.model.surface
  | .mcp => stack.mcp.surface
  | .memory => stack.memory.surface
  | .rag => stack.rag.surface
  | .observability => stack.observability.surface
  | .agent => stack.agent.surface

/-- What the record reads of the adapters. -/
def bundle : AdapterBundle where
  slot slot := ⟨stack.adapterName slot, stack.surface slot, stack.synthetic slot⟩
  vectorEmbedderName := stack.vectorEmbedderName

def live (slot : Slot) : Bool := !stack.synthetic slot

/-- `_skip_inapplicable` keeps the probes that the adapters can satisfy. -/
def applicable (member : SuiteMember) : Bool :=
  member.requiresAnyCapability = [] ∨
    ∃ slot ∈ member.probe.requiresAdapters, ∃ capability ∈ member.requiresAnyCapability,
      capability ∈ stack.capabilities slot

section Seeding

/-- Whether a probe of the suite reads the store, which a live pipeline may do too. -/
def loadsVector (suite : List SuiteMember) : Bool :=
  suite.any fun member => .vector ∈ member.probe.requiresAdapters ∨
    .rag ∈ member.probe.requiresAdapters ∧ stack.live .rag

def isSectumError (e : Raised) : Bool := e.isAdapterError ∨ e.errorClass = .configError

/-- What a failure to load the corpus is raised as. -/
def corpusError (e : Raised) : Raised :=
  if isSectumError e then e
  else ⟨.adapterError, "the vector store refused the corpus (" ++ stack.typeName e ++ ")" ++
    (if stack.live .vector then
      "; if the vector dimension changed since the index was created (an `embedder` added, " ++
        "changed or removed), recreate it or use a new one"
    else "")⟩

/-- `_load_corpus`. -/
def loadCorpus : Call σ Raised Unit :=
  eachCall (fun tenant : SyntheticTenantSpec => fun world =>
      let (result, after) := stack.vector.upsert tenant.tenantId
        (substrate.documents.filter fun document => document.tenantId = tenant.tenantId) world
      (result.mapError stack.corpusError, after))
    substrate.tenants

/-- A resource for each hard canary, where the slot is filled by the fake. -/
def provision (slot : Option (UUID → String → String → Call σ Raised Unit)) (intro : String) :
    Call σ Raised Unit :=
  match slot with
  | none => .pure ()
  | some provision => eachCall (fun marker : Marker =>
      provision marker.ownerTenantId marker.markerId (intro ++ " Reference: " ++ marker.plaintext))
    (substrate.markersOf .hardCanary)

def indexPipeline : Call σ Raised Unit :=
  match stack.indexRag with
  | none => .pure ()
  | some index => eachCall (fun tenant : SyntheticTenantSpec => index tenant.tenantId
      (substrate.documents.filter fun document => document.tenantId = tenant.tenantId))
    substrate.tenants

/-- What the command puts into the stack before it runs the suite. -/
def seed (vectorLoaded : Bool) : Call σ Raised Unit :=
  (if vectorLoaded then stack.loadCorpus substrate else .pure ()).bind fun _ =>
  (provision substrate stack.provisionMcp "MCP resource.").bind fun _ =>
  (provision substrate stack.provisionAgent "agent tool returned.").bind fun _ =>
  stack.indexPipeline substrate

end Seeding

section Reaching

variable [Unicode]

/-- Whether an answer of the pipeline shows a canary. -/
def shows (canary : Marker) (answer : RagAnswer) : Bool :=
  residualPresent canary.plaintext answer.answer ||
    answer.retrieved.any fun hit => residualPresent canary.plaintext hit.content

/-- A live pipeline is asked for a canary by its owner. -/
def ragReached (canary : Marker) : Call σ Raised Bool := fun world =>
  match stack.rag.ask canary.ownerTenantId canary.plaintext world with
  | (.ok answer, after) => (.ok (shows canary answer), after)
  | (.error e, after) => if e.isAdapterError then (.ok false, after) else (.error e, after)

/-- The slots of the live backends that the first hard canary does not come back from, or cannot have
been put into. -/
def canaryUnreached : Call σ Raised (List Slot) :=
  match (substrate.markersOf .hardCanary).head? with
  | none => .pure []
  | some canary =>
    let unseeded := [Slot.mcp, Slot.agent].filter fun slot => stack.live slot
    if stack.live .rag then
      (stack.ragReached canary).map fun reached =>
        if reached then unseeded else .rag :: unseeded
    else .pure unseeded

/-- `first_of`: the first document of each tenant. -/
def firstDocuments (documents : List CorpusDocument) : Dict UUID String :=
  documents.foldl (fun first document =>
    if document.tenantId ∈ first then first else first.set document.tenantId document.docId) ∅

/-- Whether a store serves one of some documents. -/
def serves : List (UUID × String) → Call σ Raised Bool
  | [] => .pure false
  | (tenantId, docId) :: rest => fun world =>
    match stack.vector.fetch ⟨tenantId, none⟩ docId world with
    | (.ok (some _), after) => (.ok true, after)
    | (.ok none, after) => serves rest after
    | (.error e, after) => if e.isAdapterError then serves rest after else (.error e, after)

/-- The vector slot, where a live store serves nothing of what was loaded into it. -/
def corpusUnserved (vectorLoaded : Bool) : Call σ Raised (List Slot) :=
  let seeded := (firstDocuments substrate.documents).items.insertionSort fun entry other =>
    entry.1.bits ≤ other.1.bits
  if stack.live .vector ∧ vectorLoaded ∧ seeded ≠ [] then
    (stack.serves seeded).map fun landed => if landed then [] else [.vector]
  else .pure []

/-- `_skip_unseedable` drops the probes that need one of these slots. -/
def unreachable (vectorLoaded : Bool) : Call σ Raised (List Slot) :=
  (stack.canaryUnreached substrate).bind fun slots =>
    (stack.corpusUnserved substrate vectorLoaded).map fun more => slots ++ more

end Reaching

section Command

variable [Unicode] [MathSqrt] [UuidText]

/-- Up to the runner: the probes that are run, and whether the timing probe is. -/
def prepare (options : ProbeOptions) (providers : DetectionProviders) :
    Call σ Stop (List SuiteMember × Bool) :=
  if options.maxConcurrency < 1 then
    .raise (.failed (.configError "--max-concurrency must be at least 1"))
  else if !substrate.hasBoundary then
    .raise (.failed (.configError (noBoundaryText substrate)))
  else
    (Call.lift (selectSuite options (buildSuite providers))).bind fun selected =>
    let suite := selected.1.filter stack.applicable
    let vectorLoaded := stack.loadsVector suite
    (stopping (stack.seed substrate vectorLoaded)).bind fun _ =>
    (stopping (stack.unreachable substrate vectorLoaded)).map fun unreached =>
      (suite.filter fun member => ∀ slot ∈ member.probe.requiresAdapters, slot ∉ unreached,
        selected.2)

variable [Decimals]

/-- How `job_runner.map(runner.run_per_step, suite)` may come to its end: one probe after the other, or
on a pool of threads, in whatever order they take turns. -/
inductive RunsSuite (runner : Runner σ) (maxConcurrency : Int) (suite : List Probe)
    (s : RunnerState σ) : Except Raised (List (List StepResult)) → RunnerState σ → Prop
  | serial (h : suite.length ≤ 1 ∨ maxConcurrency = 1) :
    RunsSuite runner maxConcurrency suite s
      (SerialJobRunner.map runner.runPerStep suite s).1
      (SerialJobRunner.map runner.runPerStep suite s).2
  | threads (h : 1 < suite.length ∧ maxConcurrency ≠ 1) (schedule : List (Fin suite.length))
    {outcome : Except Raised (List (List StepResult))}
    (hcollect : ThreadJobRunner.collect ((List.finRange suite.length).map fun i =>
      (((runner.pool suite).after schedule (fun _ => .waiting, s)).1 i).result?) = some outcome) :
    RunsSuite runner maxConcurrency suite s outcome
      ((runner.pool suite).after schedule (fun _ => .waiting, s)).2

def sortedCounts (counts : Dict String Int) : Dict String Int :=
  Dict.ofItems (counts.items.insertionSort fun entry other => entry.1 ≤ other.1)

variable [MathErfc]

/-- The record of what the suite and the timing probe found; a run that asked the stack nothing leaves
none. -/
def recordRun (context : RecordContext) (groups : List (List StepResult))
    (kvReport : Option KvCacheTimingReport) (s : RunnerState σ) : Except Stop RunResult :=
  let context := { context with
    droppedUserSteps := sortedCounts s.droppedUserSteps
    unconfirmedPlants := sortedCounts s.unconfirmedPlants }
  match probeRecord context stack.bundle groups.flatten kvReport with
  | .error e => .error (.failed e)
  | .ok run =>
    if run.probeVersions.keys = [] ∧ run.findings = [] then
      .error (.exit ("no probe interrogated the stack: every selected probe was skipped or " ++
        "planned nothing, so no run was recorded (nothing to attest)") 3)
    else .ok run

variable [Hashlib] [FloatText] [MathExp] [Shuffle]

/-- A run of the command from a world to a record. -/
structure Run (options : ProbeOptions) (providers : DetectionProviders) (context : RecordContext)
    (world : σ) (run : RunResult) where
  suite : List SuiteMember
  runKvTiming : Bool
  seeded : σ
  prepared : stack.prepare substrate options providers world = (.ok (suite, runKvTiming), seeded)
  groups : List (List StepResult)
  finished : RunnerState σ
  ran : RunsSuite (stack.runner substrate) options.maxConcurrency (suite.map SuiteMember.probe)
    { world := seeded } (.ok groups) finished
  kvReport : Option KvCacheTimingReport
  timed : if runKvTiming then
      ∃ report, (KvCacheTimingProbe.run stack.timedModel substrate stack.fresh).1 = .ok report ∧
        kvReport = some report
    else kvReport = none
  recorded : stack.recordRun context groups kvReport finished = .ok run

end Command

end ProbeStack

/-- The exit status of the command that recorded a run. -/
def probeExit (run : RunResult) : Nat := if confirmedFindings run.findings = [] then 0 else 2

end Stack

end Sectum
