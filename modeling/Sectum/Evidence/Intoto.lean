import Sectum.Evidence.Chain

/-! `sectum_ai.evidence.intoto` and `sectum_ai.evidence.dsse`: the in-toto statement of a pack, and the
envelope that carries it. -/

namespace Sectum

open Py

/-- `STATEMENT_TYPE`. -/
def statementType : String := "https://in-toto.io/Statement/v1"

/-- `PREDICATE_TYPE`. -/
def predicateType : String := "https://sectum.ai/attestation/multi-tenant-verification/v1"

/-- `PAYLOAD_TYPE`. -/
def payloadType : String := "application/vnd.in-toto+json"

section Statement

variable [Unicode]

/-- `token and token.strip()`. -/
def claimed (token : Option String) : Bool :=
  token.getD "" ≠ "" ∧ strip (token.getD "") ≠ ""

/-- Whether the token of a pack is not JSON, as the one of a TSA is not. -/
def isExternalTimestampAnchor [JsonLimits] [FloatText] (token : Option String) : Except Exn Bool :=
  if !claimed token then .ok false
  else
    match loads (units (token.getD "")) with
    | .ok _ => .ok false
    | .error .recursion => .error .recursionError
    | .error _ => .ok true

def inTotoPredicate (pack : EvidencePack) (timestamp : Bool) : Json :=
  let run := pack.runResult
  Json.object
    [("schema_version", .text pack.schemaVersion),
      ("scenario_hash", .text run.scenarioHash),
      ("manifest_hash", .text pack.manifestHash),
      ("started_at", .text run.startedAt.isoformat),
      ("finished_at", .text run.finishedAt.isoformat),
      ("metrics", run.metrics.dump),
      ("finding_count", .int run.findings.length),
      ("control_mappings", dumpList ControlMapping.dump pack.controlMappings),
      ("anchors", Json.object
        [("timestamp", .bool timestamp), ("transparency_log", .bool (claimed pack.rekorProof))])]

/-- The statement that binds a predicate to the run of a digest. -/
def inTotoStatement (runId digest : String) (predicate : Json) : Json :=
  Json.object
    [("_type", .text statementType),
      ("subject", .arr [Json.object
        [("name", .text runId), ("digest", Json.object [("sha256", .text digest)])]]),
      ("predicateType", .text predicateType),
      ("predicate", predicate)]

variable [JsonLimits] [FloatText] [Hashlib]

def toInTotoStatement (pack : EvidencePack) : Except Exn Json := do
  let digest ← runDigest pack.runResult
  let timestamp ← isExternalTimestampAnchor pack.tsaToken
  return inTotoStatement pack.runResult.runId digest (inTotoPredicate pack timestamp)

omit [Unicode] [JsonLimits] [FloatText] [Hashlib] in
/-- Whether the only subject of a statement is the run. -/
def subjectBinds (subjects : Json) (runId digest : String) : Bool :=
  match subjects with
  | .arr [subject] =>
    (((subject.get "digest").bind fun recorded => recorded.get "sha256").getD .null).equalsText
      (units digest) && ((subject.get "name").getD .null).equalsText (units runId)
  | _ => false

/-- `verify_in_toto_statement`, which returns when the statement binds the pack. -/
def verifyInTotoStatement (statement : Json) (pack : EvidencePack) : Except EvidenceRaised Unit := do
  let type ← unguarded (statement.dictGet "_type")
  if !type.equalsText (units statementType) then
    refuse ("not an in-toto v1 statement: " ++ type.repr)
  else
    let type ← unguarded (statement.dictGet "predicateType")
    if !type.equalsText (units predicateType) then
      refuse ("not a Sectum attestation: " ++ type.repr)
    else
      let digest ← unguarded (runDigest pack.runResult)
      if !subjectBinds ((statement.get "subject").getD (.arr [])) pack.runResult.runId digest then
        refuse "the attestation subject does not match the pack's run digest"
      else
        let expected ← unguarded ((toInTotoStatement pack).bind fun expected =>
          expected.item "predicate")
        let recorded ← unguarded (statement.dictGet "predicate")
        let recorded ← unguarded (dumps JsonText.compact recorded)
        let expected ← unguarded (dumps JsonText.compact expected)
        if recorded ≠ expected then
          refuse ("the attestation predicate does not match this pack: the sidecar asserts a " ++
            "verification result the pack does not support")
        else .ok ()

end Statement

section Envelope

variable [Unicode] [JsonLimits] [FloatText]

/-- The envelope of a payload, which is not signed. -/
def dsseEnvelope (payload : Bytes) : Json :=
  Json.object
    [("payloadType", .text payloadType), ("payload", Json.base64 payload), ("signatures", .arr [])]

def buildDsseEnvelope [Hashlib] (pack : EvidencePack) : Except Exn Json := do
  let statement ← toInTotoStatement pack
  let text ← dumps JsonText.compact statement
  let payload ← orRaise (encodeUtf8 text) .valueError
  return dsseEnvelope payload

/-- The statement that an envelope carries. -/
def envelopeStatement (envelope : Json) : Except EvidenceRaised Json := do
  let type ← unguarded (envelope.dictGet "payloadType")
  if !type.equalsText (units payloadType) then
    refuse ("not an in-toto DSSE envelope: " ++ type.repr)
  else
    match envelope.get "payload" with
    | some (.str raw) =>
      let statement ← guarded [.valueError] "DSSE envelope payload is not valid JSON" (do
        loadsOf (← (Json.str raw).b64decode true))
      match statement with
      | .obj entries => .ok (.obj entries)
      | _ => refuse "DSSE envelope payload is not a JSON object"
    | _ => refuse "DSSE envelope has no base64 payload"

def verifyDsseEnvelope [Hashlib] (envelope : Json) (pack : EvidencePack) :
    Except EvidenceRaised Unit := do
  let statement ← envelopeStatement envelope
  verifyInTotoStatement statement pack

omit [Unicode] [JsonLimits] [FloatText] in
/-- What a passed verification of an envelope established. -/
def dsseBindingDetail (envelope : Json) : String :=
  if ((envelope.get "signatures").getD .null).toBool then
    "sidecar binds this pack's run digest (its signatures were not verified by this tool)"
  else "sidecar binds this pack's run digest (unsigned envelope; no signature to verify)"

end Envelope

end Sectum
