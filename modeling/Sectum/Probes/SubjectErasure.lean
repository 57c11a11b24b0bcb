import Sectum.Probes.Erasure
import Sectum.Spec.Hashing

/-! `sectum_ai.probes.subject_erasure.probe`: whether the records and the content of a real data
subject are gone, checked after the controller's own deletion.

Each configured surface is scanned in a context that contains whatever its adapter raises: the
surface then gets a row that says so, and the residuals that the scan had seen are kept. -/

namespace Sectum

open Py

/-- The record ids and the content phrases of a data subject, surface by surface. -/
structure SubjectManifest where
  subjectRef : String
  records : Dict Surface (List String)
  fingerprints : Dict Surface (List String) := ∅

structure SubjectErasureProbe (σ : Type) where
  vector : Option (VectorStoreAdapter σ) := none
  cache : Option (CacheAdapter σ) := none
  observability : Option (ObservabilityAdapter σ) := none
  model : Option (ModelAdapter σ) := none
  memory : Option (MemoryAdapter σ) := none
  searchIndex : Option (SearchIndexAdapter σ) := none

/-- `_Scan`: what a scan has established when it is interrupted. -/
structure SubjectScan where
  findings : List Finding := []
  decided : Nat := 0
  deriving DecidableEq, Repr

/-- The lists that `verify` fills, beside the world that the adapters speak to. -/
structure SubjectState (σ : Type) where
  surfaces : List SurfaceErasure := []
  findings : List Finding := []
  unverifiable : Dict Surface Nat := ∅
  world : σ

/-- A step of a scan, which keeps what it has established when it raises. -/
abbrev ScanStep (σ α : Type) := SubjectScan → σ → Except Raised α × SubjectScan × σ

def ScanStep.pure {σ α : Type} (a : α) : ScanStep σ α := fun scan world => (.ok a, scan, world)

def ScanStep.bind {σ α β : Type} (step : ScanStep σ α) (next : α → ScanStep σ β) :
    ScanStep σ β := fun scan world =>
  match step scan world with
  | (.error e, scan, world) => (.error e, scan, world)
  | (.ok a, scan, world) => next a scan world

/-- The `with` block of one surface: what it counts as unverifiable, and a scan that appends a row
or none. -/
structure SubjectCheck (σ : Type) where
  surface : Surface
  unverifiable : Nat := 0
  scan : ScanStep σ (Option SurfaceErasure)

namespace SubjectErasureProbe

def probeId : String := "gdpr-subject-erasure-verification"

def remediation : Surface → String
  | .vectorDb =>
    "a record named in the subject's erasure request is still fetchable by id; " ++
      "purge the orphaned vector(s)"
  | .semanticCache =>
    "a record named in the subject's erasure request is still present in the cache; " ++
      "evict the entry"
  | .tracing =>
    "a trace named in the subject's erasure request is still fetchable by id; " ++
      "purge the tenant's traces from the observability backend"
  | _ => ""

def fingerprintRemediation : Surface → String
  | .vectorDb =>
    "the subject's content still surfaces in a semantic query of the vector store; " ++
      "purge the derived embeddings/records that still carry it"
  | .modelAdapter =>
    "the subject's content is still reproduced by the model; retire or retrain the " ++
      "tenant's fine-tune/adapter so it no longer memorizes it"
  | .agentMemory =>
    "the subject's content still surfaces in a recall from the agent-memory store; " ++
      "purge the tenant's memory entries that still carry it"
  | .searchIndex =>
    "the subject's content still surfaces in the derived full-text search index; " ++
      "purge the tenant's documents from the index"
  | _ => ""

def fingerprintProbeLabel : Surface → String
  | .vectorDb => "semantic probe"
  | .modelAdapter => "model inference probe"
  | .agentMemory => "memory recall probe"
  | .searchIndex => "search-index probe"
  | _ => ""

section Findings

variable (target : UUID) (surface : Surface) (subjectRef : String)

def residualFinding (recordId : String) : Finding :=
  { findingId := "subject-erasure-residual-" ++ surface.value ++ "-" ++ recordId
    probeId
    severity := .high
    confidence := UnitRat.one
    status := .confirmed
    ownerTenantId := target
    observedInTenantId := target
    surface
    markerId := some recordId
    evidenceSpan := "subject " ++ subjectRef ++ ": record " ++ recordId
    owaspLlm := "LLM08:2025"
    nist := ["MEASURE 2.7"]
    owaspSecondary := ["LLM02:2025"]
    remediationPointer := remediation surface }

def fingerprintDigest (phrase : String) : String := sliceTo 16 (sha256Hex (utf8 phrase))

/-- A finding about a phrase carries its digest, and not the phrase. -/
def fingerprintFinding (phrase : String) : Finding :=
  let digest := fingerprintDigest phrase
  { findingId := "subject-erasure-fingerprint-" ++ surface.value ++ "-" ++ digest
    probeId
    severity := .high
    confidence := UnitRat.one
    status := .confirmed
    ownerTenantId := target
    observedInTenantId := target
    surface
    markerId := some digest
    evidenceSpan := "subject " ++ subjectRef ++ ": content fingerprint " ++ digest ++
      " still surfaces (" ++ fingerprintProbeLabel surface ++ ")"
    owaspLlm := "LLM08:2025"
    nist := ["MEASURE 2.7"]
    owaspSecondary := ["LLM02:2025"]
    remediationPointer := fingerprintRemediation surface }

end Findings

section Scans

variable {σ : Type}

/-- The loop of `_seen`: a positive is recorded as it is found, and an answer of `none` leaves the
marker undecided. -/
def seenFrom (stillThere : String → Call σ Raised (Option Bool)) (record : String → Finding) :
    List String → List String → Nat → ScanStep σ (List String × Nat)
  | [], present, undecided, scan, world => (.ok (present, undecided), scan, world)
  | marker :: markers, present, undecided, scan, world =>
    match stillThere marker world with
    | (.error e, world) => (.error e, scan, world)
    | (.ok none, world) => seenFrom stillThere record markers present (undecided + 1) scan world
    | (.ok (some false), world) =>
      seenFrom stillThere record markers present undecided
        { scan with decided := scan.decided + 1 } world
    | (.ok (some true), world) =>
      seenFrom stillThere record markers (present ++ [marker]) undecided
        { findings := scan.findings ++ [record marker], decided := scan.decided + 1 } world

def seen (markers : List String) (stillThere : String → Call σ Raised (Option Bool))
    (record : String → Finding) : ScanStep σ (List String × Nat) :=
  seenFrom stillThere record markers [] 0

/-- What the manifest supplies for a surface, each once. -/
def supplied (block : Dict Surface (List String)) (surface : Surface) : List String :=
  (block.getD surface []).eraseDups

/-- A row of this check: its count is what the manifest asked about, and no baseline. -/
def checkedSurface (surface : Surface) (markersBefore residualAfter : Nat)
    (unverifiableAfter : Nat := 0) : SurfaceErasure :=
  { surface, markersBefore, residualAfter, unverifiableAfter, baselineObserved := false }

variable (target : UUID) (manifest : SubjectManifest)

/-- `fetch(...) is not None`. -/
def fetchable {α : Type} (fetch : UUID → String → Call σ Raised (Option α)) (recordId : String) :
    Call σ Raised (Option Bool) :=
  Call.map (fun found => some found.isSome) (fetch target recordId)

/-- A surface whose records are looked up by id. -/
def checkIds {α : Type} (surface : Surface) (fetch : UUID → String → Call σ Raised (Option α)) :
    ScanStep σ (Option SurfaceErasure) :=
  let ids := supplied manifest.records surface
  if ids = [] then .pure none
  else
    (seen ids (fetchable target fetch) (residualFinding target surface manifest.subjectRef)).bind
      fun (present, _) => .pure (some (checkedSurface surface ids.length present.length))

def checkCache (cache : CacheAdapter σ) : SubjectCheck σ where
  surface := .semanticCache
  scan := checkIds target manifest .semanticCache cache.get

/-- An adapter without a by-id fetch leaves the surface without a row. -/
def checkTracing (observability : ObservabilityAdapter σ) : SubjectCheck σ where
  surface := .tracing
  scan scan world :=
    match checkIds target manifest .tracing observability.fetchTrace scan world with
    | (.error e, scan, world) =>
      if e.errorClass = .notImplemented then (.ok none, scan, world) else (.error e, scan, world)
    | (.ok row, scan, world) => (.ok row, scan, world)

variable [Unicode]

/-- Whether a hit of the semantic query still carries the phrase, which a full page without it does
not say. -/
def contentSurfaces (vector : VectorStoreAdapter σ) (phrase : String) :
    Call σ Raised (Option Bool) :=
  Call.map (fun hits =>
    if hits.any fun hit => residualPresent phrase hit.content then some true
    else if fingerprintQueryK ≤ hits.length then none else some false)
    (vector.query target phrase fingerprintQueryK)

/-- Whether an entry that a search returned still carries the phrase. -/
def contentIn (search : UUID → String → Call σ Raised (List String)) (phrase : String) :
    Call σ Raised (Option Bool) :=
  Call.map (fun texts => some (texts.any fun text => residualPresent phrase text))
    (search target phrase)

def checkVector (vector : VectorStoreAdapter σ) : SubjectCheck σ where
  surface := .vectorDb
  scan :=
    let ids := supplied manifest.records .vectorDb
    let phrases := supplied manifest.fingerprints .vectorDb
    if ids = [] ∧ phrases = [] then .pure none
    else
      (seen ids (fetchable target vector.fetch)
        (residualFinding target .vectorDb manifest.subjectRef)).bind fun (present, _) =>
      (seen phrases (contentSurfaces target vector)
        (fingerprintFinding target .vectorDb manifest.subjectRef)).bind
          fun (surfacing, inconclusive) =>
      .pure (some (checkedSurface .vectorDb (ids.length + phrases.length)
        (present.length + surfacing.length) inconclusive))

/-- The phrases that a continuation check can verify, which are none without a base control. -/
def modelPhrases (model : ModelAdapter σ) : List String :=
  if hasBaseControl model then
    (supplied manifest.fingerprints .modelAdapter).filter fun phrase =>
      (continuationSplit phrase).isSome
  else []

def checkModel [Uuid4 σ] (model : ModelAdapter σ) : SubjectCheck σ where
  surface := .modelAdapter
  unverifiable := (supplied manifest.fingerprints .modelAdapter).length -
    (modelPhrases manifest model).length
  scan :=
    let phrases := modelPhrases manifest model
    if phrases = [] ∨ ErasureProbe.modelCanMemorize model = false then .pure none
    else
      (seen phrases (fun phrase => Call.map some (contentRecalled model target phrase))
        (fingerprintFinding target .modelAdapter manifest.subjectRef)).bind fun (recalled, _) =>
      .pure (if recalled ≠ [] ∨
          (supplied manifest.fingerprints .modelAdapter).length ≤ phrases.length then
        some (checkedSurface .modelAdapter phrases.length recalled.length) else none)

/-- A surface that is searched for the content of the subject. -/
def checkContent (surface : Surface) (search : UUID → String → Call σ Raised (List String)) :
    ScanStep σ (Option SurfaceErasure) :=
  let phrases := supplied manifest.fingerprints surface
  if phrases = [] then .pure none
  else
    (seen phrases (contentIn target search)
      (fingerprintFinding target surface manifest.subjectRef)).bind fun (surfacing, _) =>
    .pure (some (checkedSurface surface phrases.length surfacing.length))

def checkMemory (memory : MemoryAdapter σ) : SubjectCheck σ where
  surface := .agentMemory
  scan := checkContent target manifest .agentMemory memory.recall

def checkSearch (searchIndex : SearchIndexAdapter σ) : SubjectCheck σ where
  surface := .searchIndex
  scan := checkContent target manifest .searchIndex searchIndex.search

end Scans

section Verify

variable {σ : Type} (target : UUID) (manifest : SubjectManifest)

/-- `_contained`: whatever the scan raises becomes a row of the surface, and what the scan had seen
is flushed either way. -/
def contained (check : SubjectCheck σ) (s : SubjectState σ) : Except Raised Unit × SubjectState σ :=
  let unverifiable :=
    if check.unverifiable = 0 then s.unverifiable
    else s.unverifiable.set check.surface check.unverifiable
  match check.scan {} s.world with
  | (.error e, scan, world) =>
    let atStake := (manifest.records.getD check.surface []).length +
      (manifest.fingerprints.getD check.surface []).length
    let row : SurfaceErasure :=
      { surface := check.surface
        markersBefore := atStake
        residualAfter := scan.findings.length
        unverifiableAfter := max (atStake - scan.decided) 1
        unverifiableReason := some e.text
        baselineObserved := false }
    (.ok (), { surfaces := s.surfaces ++ [row], findings := s.findings ++ scan.findings
               unverifiable, world })
  | (.ok row, scan, world) =>
    (.ok (), { surfaces := s.surfaces ++ row.toList, findings := s.findings ++ scan.findings
               unverifiable, world })

def runChecks : List (SubjectCheck σ) → SubjectState σ → Except Raised Unit × SubjectState σ
  | [], s => (.ok (), s)
  | check :: checks, s =>
    match contained manifest check s with
    | (.error e, s) => (.error e, s)
    | (.ok (), s) => runChecks checks s

variable [Unicode] [Uuid4 σ] (probe : SubjectErasureProbe σ)

def checks : List (SubjectCheck σ) :=
  (probe.vector.map (checkVector target manifest)).toList ++
    (probe.cache.map (checkCache target manifest)).toList ++
    (probe.observability.map (checkTracing target manifest)).toList ++
    (probe.model.map (checkModel target manifest)).toList ++
    (probe.memory.map (checkMemory target manifest)).toList ++
    (probe.searchIndex.map (checkSearch target manifest)).toList

def verify : Call σ Raised ErasureReport := fun world =>
  match runChecks manifest (probe.checks target manifest) { world } with
  | (.error e, s) => (.error e, s.world)
  | (.ok (), s) =>
    (.ok { targetTenant := target, surfaces := s.surfaces, findings := s.findings
           unverifiable := s.unverifiable }, s.world)

end Verify

end SubjectErasureProbe

end Sectum
