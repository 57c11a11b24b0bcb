import Sectum.Probes.SubjectErasureSound

/-! `_emit_erasure_attestation` of `sectum_ai.cli.app`: the run record of an erasure report, what the
command prints about it, and its exit code. -/

namespace Sectum

open Py

/-- A line of `typer.echo`, on the standard output or on the standard error. -/
structure EchoLine where
  text : String
  err : Bool := false
  deriving DecidableEq, Repr

structure Emission where
  lines : List EchoLine
  exitCode : Nat
  deriving DecidableEq, Repr

/-- What the command knows of its run beside the report. -/
structure ErasureContext where
  runId : String
  scenarioHash : String
  manifestHash : String
  startedAt : DateTime
  finishedAt : DateTime
  adapterVersions : Dict String String
  probeId : String
  version : String
  surfaceProvenance : Dict Surface SurfaceProvenance
  vectorEmbedder : Option String
  jsonPath : String
  pdfPath : String

section Record

def surfaceCounts (count : SurfaceErasure → Nat) (keep : SurfaceErasure → Bool)
    (rows : List SurfaceErasure) : Dict Surface Int :=
  Dict.ofItems ((rows.filter keep).map fun s => (s.surface, (count s : Int)))

theorem surfaceCounts_keys {count : SurfaceErasure → Nat} {keep : SurfaceErasure → Bool}
    {rows : List SurfaceErasure} (h : ∀ row ∈ rows, row.surface ∈ erasureSurfaces) :
    ∀ surface ∈ (surfaceCounts count keep rows).keys, surface ∈ erasureSurfaces := by
  intro surface hsurface
  obtain ⟨value, hmem⟩ := Dict.mem_ofItems (AList.mem_keys.mp hsurface)
  obtain ⟨row, hrow, heq⟩ := List.mem_map.mp hmem
  obtain ⟨rfl, -⟩ := Prod.mk.inj heq
  exact h row (List.mem_of_mem_filter hrow)

theorem surfaceCounts_lookup {count : SurfaceErasure → Nat} {keep : SurfaceErasure → Bool}
    {rows : List SurfaceErasure} (h : (rows.map SurfaceErasure.surface).Nodup) {surface : Surface}
    {n : Int} : (surfaceCounts count keep rows).lookup surface = some n ↔
      ∃ row ∈ rows, keep row = true ∧ row.surface = surface ∧ (count row : Int) = n := by
  have hkeys : (((rows.filter keep).map fun s => (s.surface, (count s : Int))).map
      Prod.fst).Nodup := by
    rw [List.map_map]
    exact h.sublist (List.filter_sublist.map _)
  rw [surfaceCounts, Dict.lookup_ofItems hkeys, List.mem_map]
  simp only [List.mem_filter, Prod.mk.injEq, and_assoc]

variable (report : ErasureReport)
  (hrows : ∀ row ∈ report.surfaces, row.surface ∈ erasureSurfaces)

/-- The metrics of the record.  A surface that established nothing has no residue count. -/
def erasureMetrics : RunMetrics where
  confirmedFindings := (report.findings.filter fun f => f.status = .confirmed).length
  erasureResidue := surfaceCounts SurfaceErasure.residualAfter (fun s =>
    s.erasureSupported && (0 < s.residualAfter || s.unverifiableAfter = 0) && s.baselineObserved &&
      0 < s.markersBefore) report.surfaces
  erasureUnverifiable := surfaceCounts SurfaceErasure.unverifiableAfter
    (fun s => s.unverifiableAfter ≠ 0) report.surfaces
  erasureCaveats := surfaceCounts SurfaceErasure.residualAfter (fun s =>
    !s.erasureSupported && s.unverifiableAfter = 0 && s.baselineObserved && 0 < s.markersBefore)
    report.surfaces
  erasureCoverage := report.coverage
  residue_keys := surfaceCounts_keys hrows
  caveats_keys := surfaceCounts_keys hrows
  unverifiable_keys := surfaceCounts_keys hrows
  coverage_keys := by
    rw [report.coverage_keys]
    exact fun _ h => h

def erasureRun (context : ErasureContext) : RunResult where
  runId := context.runId
  scenarioHash := context.scenarioHash
  manifestHash := context.manifestHash
  startedAt := context.startedAt
  finishedAt := context.finishedAt
  adapterVersions := context.adapterVersions
  probeVersions := Dict.ofItems [(context.probeId, context.version)]
  surfaceProvenance := Dict.ofItems (context.surfaceProvenance.items.filter fun entry =>
    entry.1 ∈ report.surfaces.map SurfaceErasure.surface)
  vectorEmbedder :=
    if Surface.vectorDb ∈ report.surfaces.map SurfaceErasure.surface then context.vectorEmbedder
    else none
  findings := report.findings
  metrics := erasureMetrics report hrows

end Record

section Lines

def surfaceNames (rows : List SurfaceErasure) : String :=
  join ", " (rows.map fun s => s.surface.value)

/-- What the attested surfaces were: `_erasure_provenance_lines`. -/
def erasureProvenanceLines (report : ErasureReport)
    (surfaceProvenance : Dict Surface SurfaceProvenance) : List String :=
  let attested := report.surfaces.map SurfaceErasure.surface
  let unrecorded := sortedSet (attested.filter fun surface => surface ∉ surfaceProvenance)
  let synthetic := sortedSet (attested.filter fun surface =>
    surfaceProvenance.lookup surface = some .synthetic)
  if attested = [] then []
  else if unrecorded ≠ [] then
    ["  provenance: not recorded for " ++ join ", " (unrecorded.map Surface.value) ++
      ", so whether this attestation describes production systems cannot be established from it."]
  else if synthetic = [] then []
  else if synthetic.length = attested.length then
    ["  provenance: every surface above is Sectum's built-in SYNTHETIC store - " ++
      "this attests no production system, and is a demonstration rather than " ++
      "an Article 17 attestation."]
  else
    ["  provenance: " ++ join ", " (synthetic.map Surface.value) ++
      (if synthetic.length = 1 then " is " else " are ") ++
      "Sectum's built-in SYNTHETIC store, not a configured backend; those surfaces " ++
      "attest no production system."]

def uncheckedLine (surface : Surface) (count : Nat) : EchoLine :=
  let merged :=
    if surface = .modelAdapter then
      "; or the model merges every tenant's weights, so there is no untrained " ++
        "tenant to serve as a base-knowledge control - a per-tenant adapter is " ++
        "what makes this surface checkable"
    else ""
  let causes := "trailing part too short, or no control form for the prefix" ++ merged
  { text := "  " ++ surface.value ++ ": " ++ toString count ++
      " supplied fingerprint(s) could not be checked (" ++ causes ++
      "), so the surface reads NOT_COVERED"
    err := true }

variable (report : ErasureReport) (context : ErasureContext)

/-- The ladder of verdicts, and what each of them prints. -/
def verdictLines : Emission :=
  if report.genuineResidual then
    { exitCode := 2
      lines := { text := "ERASURE FAILED: residual data remains.", err := true } ::
        if report.caveats = [] then []
        else
          [{ text := "  also attestable-with-caveat: " ++ surfaceNames report.caveats ++
              " expose no per-tenant erasure API, so that data is presumed retained (a backend " ++
              "limitation, itemized in the attestation)."
             err := true }] }
  else if report.caveats ≠ [] then
    { exitCode := 2
      lines := [{ text := "ERASURE ATTESTABLE WITH CAVEAT: " ++ surfaceNames report.caveats ++
          " expose no per-tenant erasure API, so the tenant's data is presumed retained until " ++
          "it ages out of the backend's retention window. Itemized as a caveat in the " ++
          "attestation - a backend limitation, not a failure of the erasure flow."
                  err := true }] }
  else if report.erased then
    let scanned := surfaceNames report.surfaces
    { exitCode := 0
      lines := { text := "ERASURE VERIFIED: no residual marker on " ++ scanned ++ "." } ::
        (if report.notCovered = [] then []
          else
            [{ text := "  scope: this attests " ++ scanned ++
                " only; NOT_COVERED (not verified): " ++
                join ", " (report.notCovered.map Surface.value) ++ "." }]) ++
        (erasureProvenanceLines report context.surfaceProvenance).map fun text => { text } }
  else
    let unverified := report.surfaces.filter fun s => s.unverifiableAfter ≠ 0
    let checked := report.surfaces.filter fun s => !s.baselineObserved
    let observedResidual := report.surfaces.filter fun s => 0 < s.residualAfter
    let noBaseline := surfaceNames (report.surfaces.filter fun s => s.markersBefore = 0)
    if unverified ≠ [] then
      { exitCode := 3
        lines := [{ text := "ERASURE INCONCLUSIVE: " ++ surfaceNames unverified ++
            " could not establish that the tenant's markers are absent (see the reason printed " ++
            "for each above), so erasure is not attested on those surfaces."
                    err := true }] }
    else if checked ≠ [] ∧ checked.length = report.surfaces.length then
      { exitCode := 0
        lines :=
          [{ text := "NO RESIDUAL FOUND: none of the subject's records or content still " ++
              "surfaces on " ++ surfaceNames checked ++ "." },
            { text := "  scope: this check runs after the controller's deletion, so it " ++
              "establishes absence on the surfaces scanned - it is NOT an attested erasure, and " ++
              "the coverage block records these surfaces as NOT_COVERED." }] ++
          (erasureProvenanceLines report context.surfaceProvenance).map fun text => { text } }
    else if observedResidual ≠ [] then
      { exitCode := 2
        lines := [{ text := "ERASURE FAILED: residual data remains on " ++
            surfaceNames observedResidual ++ " - the scan found the target tenant's markers " ++
            "after erasure. No baseline was established there, so this is not a measured " ++
            "before/after delta; it is a positive observation that the data is still present."
                    err := true }] }
    else
      { exitCode := 3
        lines := [{ text := "ERASURE INCONCLUSIVE: no baseline on " ++
            (if noBaseline = "" then "(no supported ids or adapters were provided)"
              else noBaseline) ++
            " - the target tenant's markers were not found on those surfaces, so erasure " ++
            "cannot be attested."
                    err := true }] }

variable [Unicode]

def surfaceLines (s : SurfaceErasure) : List EchoLine :=
  let counted :=
    if s.baselineObserved then
      toString s.markersBefore ++ " markers before, " ++ toString s.residualAfter ++ " after"
    else toString s.markersBefore ++ " checked, " ++ toString s.residualAfter ++ " still present"
  let reason := (s.unverifiableReason.filter (· ≠ "")).getD
    ("the backend returned a full similarity page without them, which a " ++
      "still-stored marker ranked below the page produces too")
  { text := s.surface.value ++ ": " ++ counted ++ " -> " ++ s.verdict } ::
    if s.unverifiableAfter = 0 then []
    else
      [{ text := "  " ++ toString s.unverifiableAfter ++
          " marker(s) were neither found nor ruled out: " ++ untrusted reason ++
          ". The surface reads NOT_COVERED, not ERASED."
         err := true }]

def reportLines : List EchoLine :=
  let notCovered := join ", " (report.notCovered.map Surface.value)
  report.surfaces.flatMap surfaceLines ++
    (if report.notCovered = [] then []
      else [{ text := "not covered (NOT_COVERED): " ++ notCovered }]) ++
    ((sortedSet report.unverifiable.keys).map fun surface =>
      uncheckedLine surface (report.unverifiable.getD surface 0)) ++
    [{ text := "erasure attestation -> " ++ context.jsonPath ++ ", " ++ context.pdfPath }]

/-- What `_emit_erasure_attestation` prints once its files are written, and its exit code. -/
def emitErasureAttestation : Emission :=
  { verdictLines report context with
    lines := reportLines report context ++ (verdictLines report context).lines }

end Lines

end Sectum
