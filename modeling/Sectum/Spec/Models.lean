import Mathlib.Data.Rat.Defs
import Mathlib.Algebra.Order.Ring.Rat
import Sectum.Lib.Dict
import Sectum.Lib.PyText
import Sectum.Lib.PyTime
import Sectum.Lib.Raise
import Sectum.Spec.Enums

/-! The data models of `sectum_ai.spec.models`.  A validator of the source that refuses a value is
a field here that states what the value keeps, so a record that the source would refuse cannot be
built.  A float that a model accepts is finite (`allow_inf_nan=False`), so it is a rational number,
and comparisons between floats are comparisons between those rationals. -/

namespace Sectum

open Py

def schemaVersion : String := "0.8.0"

structure UUID where
  bits : BitVec 128
  deriving DecidableEq, Repr

/-- `uuid.hex`: 32 hexadecimal digits. -/
def UUID.hex (id : UUID) : String := Py.hex 32 id.bits.toNat

/-- `str(uuid)`: the digits in groups of 8, 4, 4, 4 and 12. -/
def UUID.str (id : UUID) : String :=
  let digits := id.hex.toList
  join "-" ([(0, 8), (8, 4), (12, 4), (16, 4), (20, 12)].map fun group =>
    String.ofList ((digits.drop group.1).take group.2))

/-- A `datetime`: what its clock reads, in microseconds since 1970-01-01T00:00:00, and how far that
clock is ahead of UTC, which a naive value does not say. -/
structure DateTime where
  wall : Int
  offset : Option Int
  deriving DecidableEq, Repr

/-- `value.replace(tzinfo=UTC)` for a naive value, then `astimezone(UTC)`. -/
def DateTime.utc (value : DateTime) : Int := value.wall - value.offset.getD 0

def DateTime.toUtcIso (value : DateTime) : String := isoformatUtc value.utc

def DateTime.isoformat (value : DateTime) : String :=
  isoformatClock value.wall ++ (value.offset.map offsetText).getD ""

/-- The value that is read back from `toUtcIso`. -/
def DateTime.reloaded (value : DateTime) : DateTime := ⟨value.utc, some 0⟩

/-- `datetime.fromtimestamp(seconds, tz=UTC)`: the seconds must fit a `time_t`, the year a C `int`, and
then be one from 1 to 9999. -/
def DateTime.fromtimestamp (seconds : Int) : Except Exn DateTime :=
  if seconds < -2 ^ 63 ∨ 2 ^ 63 ≤ seconds then .error .overflowError
  else if seconds < -67768040609740800 ∨ 67768036191676799 < seconds then .error .osError
  else if seconds < -62135596800 ∨ 253402300799 < seconds then .error .valueError
  else .ok ⟨seconds * 1000000, some 0⟩

abbrev UnitRat := { q : ℚ // 0 ≤ q ∧ q ≤ 1 }

def UnitRat.one : UnitRat := ⟨1, by decide⟩

structure SyntheticUserSpec where
  userId : UUID
  displayName : String
  deriving DecidableEq, Repr

structure SyntheticTenantSpec where
  tenantId : UUID
  displayName : String
  industry : String
  locale : String := "en-US"
  corpusSize : Nat
  users : List SyntheticUserSpec := []
  corpusSize_pos : 0 < corpusSize := by decide
  deriving DecidableEq, Repr

structure SharedEntity where
  kind : String
  value : String
  deriving DecidableEq, Repr

structure Scenario where
  scenarioId : String
  seed : Int
  tenants : List SyntheticTenantSpec
  corpusProfile : String := "demo"
  sharedEntities : List SharedEntity := []
  embeddingModels : List String := []
  schemaVersion : String := schemaVersion
  deriving DecidableEq, Repr

/-- An isolation boundary: a tenant, or a user within one. -/
structure Principal where
  tenantId : UUID
  userId : Option UUID := none
  deriving DecidableEq, Repr

structure PlantedLocation where
  docId : String
  field : String
  deriving DecidableEq, Repr

structure Marker where
  markerId : String
  markerType : MarkerType
  ownerTenantId : UUID
  ownerUserId : Option UUID := none
  plaintext : String
  embeddingRef : Option String := none
  plantedLocations : List PlantedLocation := []
  plaintext_ne : plaintext ≠ "" := by decide
  deriving DecidableEq, Repr

structure CorpusDocument where
  docId : String
  tenantId : UUID
  docType : String
  title : String
  content : String
  metadata : Dict String String := ∅
  markerIds : List String := []
  ownerUserId : Option UUID := none

structure GroundTruthManifest where
  manifestId : String
  scenarioHash : String
  markers : List Marker
  schemaVersion : String := schemaVersion
  deriving DecidableEq, Repr

structure Substrate where
  scenario : Scenario
  tenants : List SyntheticTenantSpec
  documents : List CorpusDocument
  manifest : GroundTruthManifest
  schemaVersion : String := schemaVersion

/-- A planned action, issued from the session of a tenant or of one of its users. -/
structure ProbeStep where
  stepId : String
  probeId : String
  actorTenantId : UUID
  actorUserId : Option UUID := none
  action : String
  payload : Dict String String := ∅

structure Observation where
  stepId : String
  surface : Surface
  rawResponse : String
  structured : Option (Dict String String) := none
  accessOutcome : Option AccessOutcome := none

structure Finding where
  findingId : String
  probeId : String
  severity : Severity
  confidence : UnitRat
  status : FindingStatus
  ownerTenantId : UUID
  observedInTenantId : UUID
  ownerUserId : Option UUID := none
  observedInUserId : Option UUID := none
  surface : Surface
  markerId : Option String := none
  evidenceSpan : String := ""
  owaspLlm : String := ""
  owaspSecondary : List String := []
  atlas : List String := []
  nist : List String := []
  remediationPointer : String := ""
  deriving DecidableEq, Repr

theorem erasureKeys_empty {ν : Type} :
    ∀ surface ∈ (∅ : Dict Surface ν).keys, surface ∈ erasureSurfaces := by
  intro surface h
  cases h

/-- Aggregate metrics of a run.  The keys of the four erasure blocks are erasure surfaces. -/
structure RunMetrics where
  perProbeFindings : Dict String Int := ∅
  confirmedFindings : Int := 0
  retrievalPivotRate : Option ℚ := none
  retrievalPivotN : Nat := 0
  retrievalPivotK : Nat := 0
  retrievalPivotRateCi : Option (ℚ × ℚ) := none
  retrievalPivotRateByModel : Dict String ℚ := ∅
  erasureResidue : Dict Surface Int := ∅
  erasureCaveats : Dict Surface Int := ∅
  erasureUnverifiable : Dict Surface Int := ∅
  erasureCoverage : Dict Surface CoverageVerdict := ∅
  sideChannelEffectSizes : Dict String ℚ := ∅
  sideChannelVarianceFloored : List String := []
  poisoningBleedDelta : Option ℚ := none
  inversionReconstructionRate : Option ℚ := none
  extractionEfficiency : Option ℚ := none
  userStepsDropped : Dict String Int := ∅
  unconfirmedPlants : Dict String Int := ∅
  residue_keys : ∀ surface ∈ erasureResidue.keys, surface ∈ erasureSurfaces := by
    first | exact erasureKeys_empty | decide
  caveats_keys : ∀ surface ∈ erasureCaveats.keys, surface ∈ erasureSurfaces := by
    first | exact erasureKeys_empty | decide
  unverifiable_keys : ∀ surface ∈ erasureUnverifiable.keys, surface ∈ erasureSurfaces := by
    first | exact erasureKeys_empty | decide
  coverage_keys : ∀ surface ∈ erasureCoverage.keys, surface ∈ erasureSurfaces := by
    first | exact erasureKeys_empty | decide

structure DetectionProvenance where
  embedderKind : String
  embedderModel : Option String := none
  judgeKind : String
  judgeModel : Option String := none
  semanticThreshold : UnitRat

/-- The canonical record of one probe run.  A key of `surfaceProvenance` is a surface and its value
a member of `SurfaceProvenance`, which the source's two validators of the block check. -/
structure RunResult where
  runId : String
  scenarioHash : String
  manifestHash : String
  startedAt : DateTime
  finishedAt : DateTime
  adapterVersions : Dict String String := ∅
  surfaceProvenance : Dict Surface SurfaceProvenance := ∅
  probeVersions : Dict String String := ∅
  findings : List Finding := []
  metrics : RunMetrics := {}
  detection : Option DetectionProvenance := none
  vectorEmbedder : Option String := none
  schemaVersion : String := schemaVersion

structure ControlMapping where
  framework : String
  controlIds : List String
  assertion : String
  deriving DecidableEq, Repr

structure EvidencePack where
  runResult : RunResult
  manifestHash : String
  tsaToken : Option String := none
  rekorProof : Option String := none
  controlMappings : List ControlMapping := []
  pdfRef : Option String := none
  anchoredInLog : Bool := false
  anchoredWithTimestamp : Bool := false
  schemaVersion : String := schemaVersion

/-- `ERASURE_WORKFLOW_IDS`: the probe ids of the erasure workflows, which are control checks and
not isolation probes. -/
def erasureWorkflowIds : List String :=
  ["gdpr-erasure-verification", "gdpr-subject-erasure-verification"]

/-- The probes that a record shows to have run: `probe_versions`, or any finding. -/
def RunResult.exercises (run : RunResult) (probeId : String) : Prop :=
  probeId ∈ run.probeVersions ∨ ∃ finding ∈ run.findings, finding.probeId = probeId

def RunResult.exercisedProbes (run : RunResult) : List String :=
  run.probeVersions.keys ++ run.findings.map Finding.probeId

theorem RunResult.mem_exercisedProbes {run : RunResult} {probeId : String} :
    probeId ∈ run.exercisedProbes ↔ run.exercises probeId := by
  unfold exercisedProbes exercises
  rw [List.mem_append, AList.mem_keys, List.mem_map]

section Embedders

def hashingEmbedderName : String := "hashing-64"

/-- The dimension of a well-formed `hash-<dim>` or `hash:<dim>` spec; `int` refuses more than 4300
digits. -/
def hashSpecDim (name : String) : Option Nat :=
  let digits := name.toList.drop 5
  let stem := name.toList.take 5
  if (stem = "hash-".toList ∨ stem = "hash:".toList) ∧ digits ≠ [] ∧
      digits.all Char.isDigit = true ∧ digits.length ≤ 4300 then
    let dim := digits.foldl (fun n digit => 10 * n + (digit.toNat - '0'.toNat)) 0
    if 0 < dim then some dim else none
  else none

def isHashingEmbedder (name : String) : Bool :=
  name = hashingEmbedderName || (hashSpecDim name).isSome

def describeVectorEmbedder (name : String) : String :=
  let caveat := "a deterministic hashing embedder, which ranks by shared tokens rather than meaning"
  if !isHashingEmbedder name then name
  else if name = hashingEmbedderName then
    name ++ " - " ++ caveat ++ "; no embedding model was configured for the vector store"
  else name ++ " - " ++ caveat

/-- `sectum_ai.embeddings.canonical_embedding_spec`: one spelling for each geometry. -/
def canonicalEmbeddingSpec (spec : String) : String :=
  match hashSpecDim spec with
  | some dim => "hash-" ++ toString dim
  | none => spec

end Embedders

end Sectum
