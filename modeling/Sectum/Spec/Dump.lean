import Sectum.Lib.Json
import Sectum.Lib.Sha256
import Sectum.Spec.Models

/-! `model_dump(mode="json")`: the documents of the models that are hashed or attested. -/

namespace Sectum

open Py

section Values

def dumpOptional {α : Type} (dump : α → Json) : Option α → Json
  | none => .null
  | some a => dump a

def dumpList {α : Type} (dump : α → Json) (items : List α) : Json := .arr (items.map dump)

def dumpDict {κ ν : Type} (key : κ → String) (dump : ν → Json) (d : Dict κ ν) : Json :=
  .obj (d.items.map fun entry => (units (key entry.1), dump entry.2))

def dumpFloat (q : ℚ) : Json := .float (.finite q)

def dumpUuid (id : UUID) : Json := .text id.str

def dumpDateTime (value : DateTime) : Json := .text value.toUtcIso

end Values

def Finding.dump (f : Finding) : Json :=
  Json.object
    [("finding_id", .text f.findingId),
      ("probe_id", .text f.probeId),
      ("severity", .text f.severity.value),
      ("confidence", dumpFloat f.confidence.1),
      ("status", .text f.status.value),
      ("owner_tenant_id", dumpUuid f.ownerTenantId),
      ("observed_in_tenant_id", dumpUuid f.observedInTenantId),
      ("owner_user_id", dumpOptional dumpUuid f.ownerUserId),
      ("observed_in_user_id", dumpOptional dumpUuid f.observedInUserId),
      ("surface", .text f.surface.value),
      ("marker_id", dumpOptional .text f.markerId),
      ("evidence_span", .text f.evidenceSpan),
      ("owasp_llm", .text f.owaspLlm),
      ("owasp_secondary", dumpList .text f.owaspSecondary),
      ("atlas", dumpList .text f.atlas),
      ("nist", dumpList .text f.nist),
      ("remediation_pointer", .text f.remediationPointer)]

def RunMetrics.dump (m : RunMetrics) : Json :=
  Json.object
    [("per_probe_findings", dumpDict id .int m.perProbeFindings),
      ("confirmed_findings", .int m.confirmedFindings),
      ("retrieval_pivot_rate", dumpOptional dumpFloat m.retrievalPivotRate),
      ("retrieval_pivot_n", .int m.retrievalPivotN),
      ("retrieval_pivot_k", .int m.retrievalPivotK),
      ("retrieval_pivot_rate_ci",
        dumpOptional (fun ci => .arr [dumpFloat ci.1, dumpFloat ci.2]) m.retrievalPivotRateCi),
      ("retrieval_pivot_rate_by_model", dumpDict id dumpFloat m.retrievalPivotRateByModel),
      ("erasure_residue", dumpDict Surface.value .int m.erasureResidue),
      ("erasure_caveats", dumpDict Surface.value .int m.erasureCaveats),
      ("erasure_unverifiable", dumpDict Surface.value .int m.erasureUnverifiable),
      ("erasure_coverage",
        dumpDict Surface.value (fun verdict => .text verdict.value) m.erasureCoverage),
      ("side_channel_effect_sizes", dumpDict id dumpFloat m.sideChannelEffectSizes),
      ("side_channel_variance_floored", dumpList .text m.sideChannelVarianceFloored),
      ("poisoning_bleed_delta", dumpOptional dumpFloat m.poisoningBleedDelta),
      ("inversion_reconstruction_rate", dumpOptional dumpFloat m.inversionReconstructionRate),
      ("extraction_efficiency", dumpOptional dumpFloat m.extractionEfficiency),
      ("user_steps_dropped", dumpDict id .int m.userStepsDropped),
      ("unconfirmed_plants", dumpDict id .int m.unconfirmedPlants)]

def DetectionProvenance.dump (d : DetectionProvenance) : Json :=
  Json.object
    [("embedder_kind", .text d.embedderKind),
      ("embedder_model", dumpOptional .text d.embedderModel),
      ("judge_kind", .text d.judgeKind),
      ("judge_model", dumpOptional .text d.judgeModel),
      ("semantic_threshold", dumpFloat d.semanticThreshold.1)]

def RunResult.dump (run : RunResult) : Json :=
  Json.object
    [("run_id", .text run.runId),
      ("scenario_hash", .text run.scenarioHash),
      ("manifest_hash", .text run.manifestHash),
      ("started_at", dumpDateTime run.startedAt),
      ("finished_at", dumpDateTime run.finishedAt),
      ("adapter_versions", dumpDict id .text run.adapterVersions),
      ("surface_provenance",
        dumpDict Surface.value (fun provenance => .text provenance.value) run.surfaceProvenance),
      ("probe_versions", dumpDict id .text run.probeVersions),
      ("findings", dumpList Finding.dump run.findings),
      ("metrics", run.metrics.dump),
      ("detection", dumpOptional DetectionProvenance.dump run.detection),
      ("vector_embedder", dumpOptional .text run.vectorEmbedder),
      ("schema_version", .text run.schemaVersion)]

def ControlMapping.dump (mapping : ControlMapping) : Json :=
  Json.object
    [("framework", .text mapping.framework),
      ("control_ids", dumpList .text mapping.controlIds),
      ("assertion", .text mapping.assertion)]

def PlantedLocation.dump (location : PlantedLocation) : Json :=
  Json.object [("doc_id", .text location.docId), ("field", .text location.field)]

def Marker.dump (m : Marker) : Json :=
  Json.object
    [("marker_id", .text m.markerId),
      ("marker_type", .text m.markerType.value),
      ("owner_tenant_id", dumpUuid m.ownerTenantId),
      ("owner_user_id", dumpOptional dumpUuid m.ownerUserId),
      ("plaintext", .text m.plaintext),
      ("embedding_ref", dumpOptional .text m.embeddingRef),
      ("planted_locations", dumpList PlantedLocation.dump m.plantedLocations)]

def GroundTruthManifest.dump (manifest : GroundTruthManifest) : Json :=
  Json.object
    [("manifest_id", .text manifest.manifestId),
      ("scenario_hash", .text manifest.scenarioHash),
      ("markers", dumpList Marker.dump manifest.markers),
      ("schema_version", .text manifest.schemaVersion)]

def EvidencePack.dump (pack : EvidencePack) : Json :=
  Json.object
    [("run_result", pack.runResult.dump),
      ("manifest_hash", .text pack.manifestHash),
      ("tsa_token", dumpOptional .text pack.tsaToken),
      ("rekor_proof", dumpOptional .text pack.rekorProof),
      ("control_mappings", dumpList ControlMapping.dump pack.controlMappings),
      ("pdf_ref", dumpOptional .text pack.pdfRef),
      ("anchored_in_log", .bool pack.anchoredInLog),
      ("anchored_with_timestamp", .bool pack.anchoredWithTimestamp),
      ("schema_version", .text pack.schemaVersion)]

/-- What `pydantic` writes and reads: `model_dump_json()` of a record and of a pack, and
`EvidencePack.model_validate_json`, where `none` is the `ValidationError`. -/
class Pydantic where
  runJson : RunResult → Units
  packJson : EvidencePack → Bytes
  validatePack : Bytes → Option EvidencePack

section Reload

/-- The record that is read back from its JSON form: its datetimes are UTC then. -/
def RunResult.reloaded (run : RunResult) : RunResult :=
  { run with startedAt := run.startedAt.reloaded, finishedAt := run.finishedAt.reloaded }

def EvidencePack.reloaded (pack : EvidencePack) : EvidencePack :=
  { pack with runResult := pack.runResult.reloaded }

theorem DateTime.toUtcIso_reloaded (value : DateTime) : value.reloaded.toUtcIso = value.toUtcIso := by
  unfold toUtcIso
  have hutc : value.reloaded.utc = value.utc := by
    show value.utc - 0 = value.utc
    omega
  rw [hutc]

/-- The JSON form is the same after a reload. -/
theorem RunResult.dump_reloaded (run : RunResult) : run.reloaded.dump = run.dump := by
  unfold dump dumpDateTime
  rw [show run.reloaded.startedAt = run.startedAt.reloaded from rfl,
    show run.reloaded.finishedAt = run.finishedAt.reloaded from rfl,
    DateTime.toUtcIso_reloaded, DateTime.toUtcIso_reloaded]
  rfl

end Reload

end Sectum
