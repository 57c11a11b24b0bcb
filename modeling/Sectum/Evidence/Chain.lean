import Sectum.Evidence.Rekor
import Sectum.Spec.Dump

/-! `sectum_ai.evidence.chain`: a run is put in canonical form and hashed, and the digest is
timestamped. -/

namespace Sectum

open Py

/-- The pack fields that the anchored digest binds. -/
def attestedContent (runResult : RunResult) (manifestHash : String)
    (controlMappings : List ControlMapping) (pdfRef : Option String)
    (anchoredInLog anchoredWithTimestamp : Bool) : Json :=
  Json.object
    [("run_result", runResult.dump),
      ("manifest_hash", .text manifestHash),
      ("control_mappings", dumpList ControlMapping.dump controlMappings),
      ("pdf_ref", dumpOptional .text pdfRef),
      ("anchored_in_log", .bool anchoredInLog),
      ("anchored_with_timestamp", .bool anchoredWithTimestamp)]

def EvidencePack.content (pack : EvidencePack) : Json :=
  attestedContent pack.runResult pack.manifestHash pack.controlMappings pack.pdfRef
    pack.anchoredInLog pack.anchoredWithTimestamp

/-- What produces a timestamp token for a digest; `anchored` is whether it is a TSA. -/
structure Timestamper where
  anchored : Bool
  timestamp : String → Except EvidenceRaised String

/-- `LocalTimestamper.tsa`. -/
def localTsa : String := "local-dev"

def localToken (digest : String) (now : DateTime) : Json :=
  Json.object
    [("tsa", .text localTsa), ("digest", .text digest), ("timestamped_at", .text now.isoformat)]

section Digests

variable [JsonLimits] [FloatText]

/-- `LocalTimestamper`, when the clock reads `now`. -/
def localTimestamper (now : DateTime) : Timestamper where
  anchored := false
  timestamp digest := unguarded ((dumps JsonText.compact (localToken digest now)).map textOf)

variable [Hashlib]

def runDigest (runResult : RunResult) : Except Exn String := canonicalHash runResult.dump

/-- The digest that the anchors bind. -/
def attestedDigest (pack : EvidencePack) : Except Exn String := canonicalHash pack.content

def buildEvidencePack (runResult : RunResult) (manifest : GroundTruthManifest)
    (controlMappings : List ControlMapping) (pdfRef : Option String) (timestamper : Timestamper)
    (transparencyLog : Option (String → Except EvidenceRaised String)) :
    Except EvidenceRaised EvidencePack := do
  let manifestHash ← unguarded (canonicalHash manifest.dump)
  let digest ← unguarded (canonicalHash (attestedContent runResult manifestHash controlMappings
    pdfRef transparencyLog.isSome timestamper.anchored))
  let tsaToken ← timestamper.timestamp digest
  let rekorProof ← transparencyLog.mapM fun record => record digest
  return {
    runResult := runResult
    manifestHash := manifestHash
    tsaToken := some tsaToken
    rekorProof := rekorProof
    controlMappings := controlMappings
    pdfRef := pdfRef
    anchoredInLog := transparencyLog.isSome
    anchoredWithTimestamp := timestamper.anchored }

end Digests

/-- A reload leaves what the digest binds as it was. -/
theorem EvidencePack.content_reloaded (pack : EvidencePack) : pack.reloaded.content = pack.content := by
  show attestedContent pack.runResult.reloaded _ _ _ _ _ = _
  unfold attestedContent
  rw [RunResult.dump_reloaded]
  rfl

end Sectum
