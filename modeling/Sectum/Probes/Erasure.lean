import Sectum.Lib.Sweep
import Sectum.Probes.Detection
import Sectum.Probes.Recall

/-! `sectum_ai.probes.erasure.probe`: Article 17 erasure verification.  Each configured surface is
scanned, asked to erase the target tenant's data, and scanned again.

The fields that the probe's methods share are threaded as an `ErasureState`, beside the world that
the adapters speak to, and a method that raises leaves the state that it had reached. -/

namespace Sectum

open Py

structure SurfaceErasure where
  surface : Surface
  markersBefore : Nat
  residualAfter : Nat
  erasureSupported : Bool := true
  unverifiableAfter : Nat := 0
  unverifiableReason : Option String := none
  baselineObserved : Bool := true
  deriving DecidableEq, Repr

namespace SurfaceErasure

variable (s : SurfaceErasure)

def erased : Bool :=
  s.erasureSupported && s.unverifiableAfter = 0 && s.baselineObserved &&
    (0 < s.markersBefore && s.residualAfter = 0)

def attestableWithCaveat : Bool :=
  !s.erasureSupported && 0 < s.markersBefore && s.baselineObserved

def verdict : String :=
  if s.attestableWithCaveat then "ATTESTABLE WITH CAVEAT"
  else if 0 < s.residualAfter then "RESIDUAL DATA"
  else if s.unverifiableAfter ≠ 0 then "NOT VERIFIED"
  else if !s.baselineObserved then "ABSENCE CHECKED"
  else if s.markersBefore = 0 then "NO BASELINE"
  else "ERASED"

def coverageVerdict : CoverageVerdict :=
  if s.attestableWithCaveat then .attestableWithCaveat
  else if 0 < s.residualAfter then .residual
  else if s.markersBefore = 0 ∨ s.baselineObserved = false then .notCovered
  else if s.unverifiableAfter ≠ 0 then .notCovered
  else .erased

end SurfaceErasure

structure ErasureReport where
  targetTenant : UUID
  surfaces : List SurfaceErasure
  findings : List Finding
  unverifiable : Dict Surface Nat := ∅

namespace ErasureReport

variable (report : ErasureReport)

def erased : Bool := !report.surfaces.isEmpty && report.surfaces.all SurfaceErasure.erased

def genuineResidual : Bool :=
  report.surfaces.any fun s => s.erasureSupported && 0 < s.residualAfter

def caveats : List SurfaceErasure := report.surfaces.filter SurfaceErasure.attestableWithCaveat

/-- A verdict for every erasure surface, scanned or not. -/
def coverage : Dict Surface CoverageVerdict :=
  let scanned := Dict.ofItems (report.surfaces.map fun s => (s.surface, s.coverageVerdict))
  Dict.ofItems (erasureSurfaces.map fun surface => (surface, scanned.getD surface .notCovered))

def notCovered : List Surface :=
  (report.coverage.items.filter fun entry => entry.2 = .notCovered).map Prod.fst

end ErasureReport

/-- The adapters that a run may erase from; the vector store is always there. -/
structure ErasureProbe (σ : Type) where
  substrate : Substrate
  vector : VectorStoreAdapter σ
  observability : Option (ObservabilityAdapter σ) := none
  memory : Option (MemoryAdapter σ) := none
  cache : Option (CacheAdapter σ) := none
  model : Option (ModelAdapter σ) := none
  searchIndex : Option (SearchIndexAdapter σ) := none
  evalSet : Option (EvalSetAdapter σ) := none
  backup : Option (BackupAdapter σ) := none

structure ErasureState (σ : Type) where
  inconclusive : Dict Surface Nat := ∅
  partialHits : List Marker := []
  decided : Nat := 0
  world : σ

def ErasureState.reset {σ : Type} (s : ErasureState σ) : ErasureState σ :=
  { s with partialHits := [], decided := 0 }

/-- A scan: the target and its markers, to the markers still present. -/
abbrev Scan (σ : Type) :=
  UUID → List Marker → ErasureState σ → Except Raised (List Marker) × ErasureState σ

structure PlanEntry (σ : Type) where
  surface : Surface
  scan : Scan σ
  delete : UUID → Call σ Raised Unit

def erasureEvidence (marker : Marker) : String :=
  if marker.markerType = .secretCanary then redactSecret marker.plaintext else marker.plaintext

/-- The titles of the documents that a marker is planted in. -/
def markerQueries (documents : Dict String CorpusDocument) (marker : Marker) : List String :=
  marker.plantedLocations.filterMap fun location =>
    (documents.lookup location.docId).map CorpusDocument.title

namespace ErasureProbe

def probeId : String := "gdpr-erasure-verification"

def residualRemediation : Surface → String
  | .vectorDb => "data survived an Article 17 erasure; purge orphaned vectors"
  | .tracing =>
    "data survived an Article 17 erasure; purge the tenant's traces from the " ++
      "observability backend"
  | .agentMemory =>
    "data survived an Article 17 erasure; purge the tenant's entries from the " ++
      "agent/long-term memory store"
  | .semanticCache =>
    "data survived an Article 17 erasure; evict the tenant's entries from the " ++
      "semantic/application cache"
  | .modelAdapter =>
    "data survived an Article 17 erasure; retire or retrain the tenant's " ++
      "fine-tune/adapter so it no longer reproduces the data"
  | .searchIndex =>
    "data survived an Article 17 erasure; purge the tenant's documents from the " ++
      "derived full-text search index"
  | .evalSet =>
    "data survived an Article 17 erasure; purge the tenant's fixtures from the " ++
      "evaluation / golden test set"
  | _ => "data survived an Article 17 erasure; purge it from this surface"

def residualFinding (target : UUID) (marker : Marker) (surface : Surface) : Finding :=
  { findingId := "erasure-residual-" ++ surface.value ++ "-" ++ marker.markerId
    probeId
    severity := .high
    confidence := UnitRat.one
    status := .confirmed
    ownerTenantId := target
    observedInTenantId := target
    surface
    markerId := some marker.markerId
    evidenceSpan := erasureEvidence marker
    owaspLlm := "LLM08:2025"
    nist := ["MEASURE 2.7"]
    owaspSecondary := ["LLM02:2025"]
    remediationPointer := residualRemediation surface }

/-- A finding for a surface whose backend has no per-tenant erasure API. -/
def caveatFinding (target : UUID) (marker : Marker) (surface : Surface) : Finding :=
  { findingId := "erasure-caveat-" ++ surface.value ++ "-" ++ marker.markerId
    probeId
    severity := .medium
    confidence := UnitRat.one
    status := .unverified
    ownerTenantId := target
    observedInTenantId := target
    surface
    markerId := some marker.markerId
    evidenceSpan := erasureEvidence marker
    owaspLlm := "LLM08:2025"
    nist := ["MEASURE 2.7"]
    owaspSecondary := ["LLM02:2025"]
    remediationPointer :=
      "ATTESTABLE WITH CAVEAT: this backend exposes no programmatic " ++
        "per-tenant erasure API, so Article 17 erasure cannot be verified " ++
        "through it; purge the tenant's data via the backend's retention " ++
        "policy or console and re-run. This is a backend limitation, not " ++
        "a failure of the erasure flow." }

section Scans

variable {σ : Type} [Unicode] [Uuid4 σ] (probe : ErasureProbe σ) (target : UUID)

def documents : Dict String CorpusDocument :=
  Dict.ofItems (probe.substrate.documents.map fun document => (document.docId, document))

def observableAt (marker : Marker) : List String → Bool → Call σ Raised (Option Bool)
  | [], inconclusive, world => (.ok (if inconclusive then none else some false), world)
  | query :: queries, inconclusive, world =>
    match probe.vector.query target query fingerprintQueryK world with
    | (.error e, world) => (.error e, world)
    | (.ok hits, world) =>
      if hits.any fun hit => residualPresent marker.plaintext hit.content then
        (.ok (some true), world)
      else
        observableAt marker queries (inconclusive || fingerprintQueryK ≤ hits.length) world

def markerObservable (marker : Marker) : Call σ Raised (Option Bool) :=
  probe.observableAt target marker (markerQueries probe.documents marker) false

/-- The loop of `_scan_vector`, which counts the answers that a full page hid. -/
def scanVectorFrom : List Marker → Nat → ErasureState σ →
    Except Raised (List Marker) × ErasureState σ
  | [], _, s => (.ok s.partialHits, s)
  | marker :: markers, inconclusive, s =>
    match probe.markerObservable target marker s.world with
    | (.error e, world) => (.error e, { s with world })
    | (.ok seen, world) =>
      let inconclusive := if seen = none then inconclusive + 1 else inconclusive
      scanVectorFrom markers inconclusive
        { world
          partialHits := if seen = some true then s.partialHits ++ [marker] else s.partialHits
          decided := s.decided + 1
          inconclusive := s.inconclusive.set .vectorDb inconclusive }

def scanVector : Scan σ := fun target markers s => probe.scanVectorFrom target markers 0 s

/-- The loop of the other scans, over what a surface answers about a marker. -/
def scanMarkers (ask : Marker → Call σ Raised Bool) :
    List Marker → ErasureState σ → Except Raised (List Marker) × ErasureState σ
  | [], s => (.ok s.partialHits, s)
  | marker :: markers, s =>
    match ask marker s.world with
    | (.error e, world) => (.error e, { s with world })
    | (.ok seen, world) =>
      scanMarkers ask markers
        { s with
          world
          partialHits := if seen then s.partialHits ++ [marker] else s.partialHits
          decided := s.decided + 1 }

/-- Whether any of the texts that a search returned still carries the marker. -/
def carriedBy (marker : Marker) (texts : List String) : Bool :=
  texts.any fun text => residualPresent marker.plaintext text

def scanObservability : Scan σ := fun target markers s =>
  match probe.observability with
  | none => (.ok [], s)
  | some observability =>
    scanMarkers (fun marker =>
      Call.map (fun hits => !hits.isEmpty) (observability.searchTraces target marker.plaintext))
      markers s

def scanMemory : Scan σ := fun target markers s =>
  match probe.memory with
  | none => (.ok [], s)
  | some memory =>
    scanMarkers (fun marker =>
      Call.map (carriedBy marker) (memory.recall target marker.plaintext)) markers s

/-- Reads the cache once, and looks for every marker in what it held. -/
def scanCache : Scan σ := fun target markers s =>
  match probe.cache with
  | none => (.ok [], s)
  | some cache =>
    match cache.values target s.world with
    | (.error e, world) => (.error e, { s with world })
    | (.ok values, world) =>
      scanMarkers (fun marker world => (.ok (carriedBy marker values), world)) markers
        { s with world }

def modelCanMemorize (model : ModelAdapter σ) : Bool :=
  model.supports .perTenantAdapter || model.supports .sharedWeights

def scanModel : Scan σ := fun target markers s =>
  match probe.model with
  | none => (.ok [], s)
  | some model =>
    if modelCanMemorize model then
      scanMarkers (fun marker => contentRecalled model target marker.plaintext) markers s
    else (.ok [], s)

def scanSearch : Scan σ := fun target markers s =>
  match probe.searchIndex with
  | none => (.ok [], s)
  | some searchIndex =>
    scanMarkers (fun marker =>
      Call.map (carriedBy marker) (searchIndex.search target marker.plaintext)) markers s

def scanEval : Scan σ := fun target markers s =>
  match probe.evalSet with
  | none => (.ok [], s)
  | some evalSet =>
    scanMarkers (fun marker =>
      Call.map (carriedBy marker) (evalSet.search target marker.plaintext)) markers s

def scanBackup : Scan σ := fun target markers s =>
  match probe.backup with
  | none => (.ok [], s)
  | some backup =>
    scanMarkers (fun marker =>
      Call.map (carriedBy marker) (backup.search target marker.plaintext)) markers s

/-- The configured surfaces; a model that trained nothing is left out. -/
def plan : List (PlanEntry σ) :=
  [⟨.vectorDb, probe.scanVector, probe.vector.delete⟩] ++
    (probe.observability.map fun a => ⟨.tracing, probe.scanObservability, a.delete⟩).toList ++
    (probe.memory.map fun a => ⟨.agentMemory, probe.scanMemory, a.delete⟩).toList ++
    (probe.cache.map fun a => ⟨.semanticCache, probe.scanCache, a.delete⟩).toList ++
    ((probe.model.filter modelCanMemorize).map fun a =>
      ⟨.modelAdapter, probe.scanModel, a.delete⟩).toList ++
    (probe.searchIndex.map fun a => ⟨.searchIndex, probe.scanSearch, a.delete⟩).toList ++
    (probe.evalSet.map fun a => ⟨.evalSet, probe.scanEval, a.delete⟩).toList ++
    (probe.backup.map fun a => ⟨.backup, probe.scanBackup, a.delete⟩).toList

end Scans

section Run

variable {σ : Type} (target : UUID) (markers : List Marker)

/-- Whether the backend has an erasure API, and the text of a purge that failed. -/
def purgeOutcome : Except Raised Unit → Bool × Option String
  | .ok () => (true, none)
  | .error e => if e.errorClass = .erasureUnsupported then (false, none) else (true, some e.text)

/-- `if purge_failed`: an empty text is false. -/
def truthy (purgeFailed : Option String) : Bool := purgeFailed.any (· ≠ "")

/-- The pre-scan, the erasure and the post-scan of one surface. -/
def eraseSurface (entry : PlanEntry σ) (s : ErasureState σ) :
    (SurfaceErasure × List Finding) × ErasureState σ :=
  let surface := entry.surface
  match entry.scan target markers s.reset with
  | (.error e, s) =>
    (({ surface, markersBefore := 0, residualAfter := 0, unverifiableAfter := 1
        unverifiableReason := some e.text }, []), s)
  | (.ok before, s) =>
    let (deleted, world) := entry.delete target s.world
    let (supported, purgeFailed) := purgeOutcome deleted
    let s := { s with world, inconclusive := s.inconclusive.erase surface }
    match entry.scan target markers s.reset with
    | (.error e, s) =>
      let seen := s.partialHits
      let undecided : Int := max (before.length - s.decided + s.inconclusive.getD surface 0) 1
      let (undecided, reason) :=
        if truthy purgeFailed then
          (max before.length 1,
            purgeFailed.getD "" ++ "; the post-erasure scan then failed: " ++ e.text)
        else (undecided.toNat, e.text)
      (({ surface, markersBefore := before.length, residualAfter := seen.length
          erasureSupported := supported, unverifiableAfter := undecided
          unverifiableReason := some reason },
        if supported then seen.map fun marker => residualFinding target marker surface
        else before.map fun marker => caveatFinding target marker surface), s)
    | (.ok residual, s) =>
      (({ surface, markersBefore := before.length, residualAfter := residual.length
          erasureSupported := supported
          unverifiableAfter :=
            if truthy purgeFailed then max before.length 1 else s.inconclusive.getD surface 0
          unverifiableReason := purgeFailed },
        if supported then residual.map fun marker => residualFinding target marker surface
        else before.map fun marker => caveatFinding target marker surface), s)

def unseededSurface (surface : Surface) (reason : String) : SurfaceErasure :=
  { surface, markersBefore := 0, residualAfter := 0, unverifiableAfter := markers.length
    unverifiableReason := some reason }

variable (scope : Option (List Surface)) (unseeded : Option (Dict Surface String))

/-- One turn of the loop over the plan: a surface out of scope is left out of the report. -/
def planStep (entry : PlanEntry σ) (s : ErasureState σ) :
    Option (SurfaceErasure × List Finding) × ErasureState σ :=
  if scope.any fun inScope => entry.surface ∉ inScope then (none, s)
  else
    match unseeded.bind fun reasons => reasons.lookup entry.surface with
    | some reason => (some (unseededSurface markers entry.surface reason, []), s)
    | none =>
      let (result, s) := eraseSurface target markers entry s
      (some result, s)

def runPlan : List (PlanEntry σ) → ErasureState σ →
    List (SurfaceErasure × List Finding) × ErasureState σ :=
  sweep (planStep target markers scope unseeded)

def ownMarkers (probe : ErasureProbe σ) : List Marker :=
  probe.substrate.manifest.markers.filter fun marker => marker.ownerTenantId = target

variable [Unicode] [Uuid4 σ]

def run (probe : ErasureProbe σ) (s : ErasureState σ) : ErasureReport × ErasureState σ :=
  let (results, s) := runPlan target (ownMarkers target probe) scope unseeded probe.plan s
  ({ targetTenant := target, surfaces := results.map Prod.fst
     findings := results.flatMap Prod.snd }, s)

end Run

end ErasureProbe

end Sectum
