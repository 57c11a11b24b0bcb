import Sectum.Evidence.Chain
import Sectum.Evidence.Controls
import Sectum.Evidence.Tsa

/-! `sectum_ai.evidence.verify`: the independent verification of an evidence pack. -/

namespace Sectum

open Py

/-- One verification check and its outcome.  The name may come from a document. -/
structure Check where
  name : Units
  ok : Bool
  detail : String
  deriving DecidableEq, Repr

structure VerificationResult where
  passed : Bool
  checks : List Check
  anchored : Bool := false
  deriving DecidableEq, Repr

def VerificationResult.of (checks : List Check) (anchored : Bool) : VerificationResult :=
  ⟨checks.all Check.ok, checks, anchored⟩

/-- The roots and flags that a verifier is called with. -/
structure VerifyOptions where
  tsaCertificate : Option Bytes := none
  tsaRoot : Option Bytes := none
  rekorKeyring : Option Rekor.Keyring := none
  requireAnchored : Bool := false
  requireLive : Bool := false

/-- A check that a time was established, where an `EvidenceError` fails it. -/
def timeCheck (name : String) (result : Except EvidenceRaised DateTime) (detail : DateTime → String) :
    Except Exn Check :=
  match result with
  | .ok time => .ok ⟨units name, true, detail time⟩
  | .error (.evidenceError message) => .ok ⟨units name, false, message⟩
  | .error (.library e) => .error e

section Schema

/-- The `(major, minor)` of a version. -/
def schemaMajorMinor (version : Units) : Units × Units :=
  let parts := version.splitOn (unit '.')
  (parts.getD 0 [], parts.getD 1 (units "0"))

variable [Unicode] [FloatText]

/-- The refusal of a stamp that is missing or names another schema line. -/
def stampRefused (label : String) (stamp : Option Json) : Option Check :=
  let current := match stamp with
    | some (.str version) => decide (schemaMajorMinor version = schemaMajorMinor (units schemaVersion))
    | _ => false
  if current then none
  else some ⟨units "schema-version", false, "the " ++ label ++ "'s schema_version is " ++
    (stamp.getD .null).repr ++ "; this verifier reads " ++ Py.repr schemaVersion ++
    " records, and an unstamped record is not a current one"⟩

/-- `None` when both stamps are there and on this line, or when the text is not an object. -/
def checkSchemaStamps (data : Except Exn Json) : Except Exn (Option Check) :=
  match data with
  | .ok (.obj entries) =>
    let data := Json.obj entries
    .ok ((stampRefused "pack" (data.get "schema_version")).or
      (stampRefused "run record" ((data.get "run_result").bind fun run => run.get "schema_version")))
  | .ok _ => .ok none
  | .error .valueError => .ok none
  | .error e => .error e

/-- `check_raw_schema_stamps` of bytes. -/
def checkRawSchemaStamps [JsonLimits] (raw : Bytes) : Except Exn (Option Check) :=
  checkSchemaStamps (loadsOf raw)

omit [FloatText] in
def checkSchemaVersion (pack : EvidencePack) : Check :=
  let supported := schemaMajorMinor (units schemaVersion)
  if supported = schemaMajorMinor (units pack.schemaVersion) ∧
      schemaMajorMinor (units pack.schemaVersion) =
        schemaMajorMinor (units pack.runResult.schemaVersion) then
    ⟨units "schema-version", true,
      "pack schema_version " ++ Py.repr pack.schemaVersion ++ " is supported by this verifier"⟩
  else
    ⟨units "schema-version", false, "pack schema_version " ++ Py.repr pack.schemaVersion ++
      " (run record " ++ Py.repr pack.runResult.schemaVersion ++
      ") is incompatible with this verifier (supports " ++ Py.repr schemaVersion ++
      "); verify with a matching sectum version"⟩

end Schema

section Token

variable [JsonLimits] [FloatText] [Rfc3161]

omit [JsonLimits] [FloatText] in
def checkRfc3161Token (token digest : String) (tsaCertificate tsaRoot : Option Bytes) :
    Except Exn Check :=
  timeCheck "timestamp-token" (verifyRfc3161Token token digest tsaCertificate tsaRoot) fun time =>
    "pack digest timestamped by an RFC 3161 TSA at " ++ time.isoformat

/-- The check of a token that is JSON. -/
def localTokenCheck (parsed : Json) (digest : String) (requireRfc3161 : Bool) : Check :=
  let check := Check.mk (units "timestamp-token")
  if !((parsed.get "digest").getD .null).equalsText (units digest) then
    check false
      "the timestamp token attests a different digest; the evidence pack was altered"
  else if !((parsed.get "tsa").getD .null).equalsText (units localTsa) then
    check false ("unrecognized JSON timestamp token; a real RFC 3161 TSA returns a " ++
      "signed binary token, not JSON, so this token is rejected")
  else if requireRfc3161 then
    check false ("the pack claims a real RFC 3161 timestamp anchor " ++
      "(anchored_with_timestamp) but carries only a local-dev token; the " ++
      "independent timestamp anchor was stripped (a downgrade)")
  else
    check true ("pack digest bound by a local development timestamp (unanchored: " ++
      "reproducible by anyone, NOT independent tamper evidence)")

/-- The check of the timestamp token, and whether it is an independent anchor. -/
def checkToken (token : Option String) (digest : String) (tsaCertificate tsaRoot : Option Bytes)
    (requireRfc3161 : Bool) : Except Exn (Check × Bool) :=
  let token := token.getD ""
  if token = "" then
    .ok (⟨units "timestamp-token", false, "the pack carries no timestamp token"⟩, false)
  else
    match loads (units token) with
    | .error .decode =>
      (checkRfc3161Token token digest tsaCertificate tsaRoot).map fun check => (check, check.ok)
    | .error e => .error e.exn
    | .ok parsed => .ok (localTokenCheck parsed digest requireRfc3161, false)

end Token

section Contents

/-- A verdict that a synthetic or unknown stack fails when a live one is required. -/
def accepted (requireLive : Bool) (detail : String) : Check :=
  ⟨units "run-scope", !requireLive,
    detail ++ if requireLive then "" else "; accepted by --allow-synthetic"⟩

def checkRunScope (pack : EvidencePack) (requireLive : Bool) : Check :=
  let provenance := pack.runResult.surfaceProvenance.items
  if provenance = [] then
    accepted requireLive ("the run records no surface provenance (it predates the block), so " ++
      "whether it touched live backends cannot be established from this pack")
  else
    let live := (provenance.filter fun entry => entry.2 = .live).length
    let synthetic := ((provenance.filter fun entry => entry.2 ≠ .live).map Prod.fst).toFinset
    let unaccounted := unaccountedSurfaces pack.runResult
    let unaccountedDetail :=
      if unaccounted = ∅ then ""
      else "; findings here also rest on " ++ joinSurfaces unaccounted ++ ", which this pack's " ++
        "provenance never recorded, so whether those were live cannot be established from it"
    if synthetic = ∅ ∧ unaccounted = ∅ then
      ⟨units "run-scope", true, "every surface this run exercised was a live backend"⟩
    else if synthetic = ∅ then
      accepted requireLive ("every one of the " ++ toString provenance.length ++ " surface" ++
        (if provenance.length = 1 then "" else "s") ++ " this run RECORDED was a live backend" ++
        unaccountedDetail)
    else if live ≠ 0 then
      ⟨units "run-scope", !(requireLive && decide (unaccounted ≠ ∅)),
        toString live ++ " of " ++ toString provenance.length ++
        " surfaces were live; these ran against Sectum's built-in fake and describe no real " ++
        "system: " ++ joinSurfaces synthetic ++ unaccountedDetail ++
        if unaccounted ≠ ∅ ∧ !requireLive then "; accepted by --allow-synthetic" else ""⟩
    else
      ⟨units "run-scope", !requireLive,
        "NO surface was live - every verdict in this pack describes Sectum's built-in synthetic " ++
        "stack, not any production system. A grade, a metric, or a clean result here is not " ++
        "evidence about the operator's systems" ++ unaccountedDetail ++
        if requireLive then ". Re-run against configured adapters, or accept a demo pack explicitly"
        else "; accepted by --allow-synthetic"⟩

def checkConsistency (pack : EvidencePack) : Check :=
  if pack.runResult.manifestHash = pack.manifestHash then
    ⟨units "manifest-consistency", true, "the run and the pack agree on the manifest hash"⟩
  else
    ⟨units "manifest-consistency", false, "the run's manifest hash does not match the pack's"⟩

section Mappings

variable [JsonLimits] [FloatText]

def canonicalMapping (mapping : ControlMapping) : Except Exn Units :=
  dumps JsonText.compact mapping.dump

/-- The check that the run earned the control mappings of the pack. -/
def checkControlMappings (pack : EvidencePack) : Except Exn Check := do
  let earned ← (controlMappings (some pack.runResult)).mapM canonicalMapping
  let asserted ← pack.controlMappings.mapM canonicalMapping
  let unearned := ((pack.controlMappings.zip asserted).filter fun entry =>
    entry.2 ∉ earned).map Prod.fst
  let named := join ", " (unearned.map fun mapping =>
    mapping.framework ++ " " ++ join "/" mapping.controlIds)
  return ⟨units "control-mappings", unearned.isEmpty,
    if unearned.isEmpty then
      "every one of the pack's " ++ toString pack.controlMappings.length ++
      " control mapping(s) is one this run's evidence supports"
    else
      "the pack asserts " ++ toString unearned.length ++ " control mapping(s) this run's " ++
      "evidence does not support (" ++ named ++ "); a compliance claim the run did not earn is " ++
      "not made true by being signed"⟩

end Mappings

section Hashed

variable [Hashlib]

def checkManifest [JsonLimits] [FloatText] (manifest : GroundTruthManifest) (expectedHash : String) :
    Except Exn Check :=
  (canonicalHash manifest.dump).map fun hash =>
    if hash = expectedHash then
      ⟨units "manifest-hash", true, "the supplied manifest matches the pack"⟩
    else
      ⟨units "manifest-hash", false, "the supplied manifest does not match the pack's recorded hash"⟩

def checkPdf (pdfRef : String) (pdfBytes : Bytes) (name : Units) : Check :=
  if hexdigest pdfBytes ≠ pdfRef then
    ⟨name, false, "the audit PDF does not match the SHA-256 bound into the attested " ++
      "digest; it was altered or replaced after signing"⟩
  else ⟨name, true, "the audit PDF matches the SHA-256 bound into the attested digest"⟩

/-- The check of the PDF beside a pack. -/
def pdfChecks : (pdfRef : Option String) → (pdfBytes : Option Bytes) → List Check
  | some pdfRef, some pdfBytes => [checkPdf pdfRef pdfBytes (units "audit-pdf")]
  | some _, none =>
    [⟨units "audit-pdf", true, "the pack binds an audit PDF that was not supplied, so this " ++
      "verification says nothing about it; put the PDF beside the pack, " ++
      "or verify the run-pack bundle, to check the binding"⟩]
  | none, some _ =>
    [⟨units "audit-pdf", false, "an audit PDF sits beside this pack, but the pack binds no " ++
      "pdf_ref - so nothing ties that document to this run and it is " ++
      "not covered by the attested digest"⟩]
  | none, none => []

end Hashed

end Contents

section Pack

variable [JsonLimits] [FloatText] [Unicode] [Decimals] [Hashlib] [Cryptography]

def checkRekor (proof digest : String) (keyring : Option Rekor.Keyring) : Except Exn Check :=
  timeCheck "rekor-inclusion" (Rekor.verifyRekorProof (units proof) (units digest) keyring)
    fun time =>
      "pack digest included in the Rekor transparency log (inclusion proof verified); the log " ++
      "reports integration at " ++ time.isoformat ++ ", which this verifier does not " ++
      "independently check"

/-- The check of the inclusion proof of a pack that has one, or claims to. -/
def rekorChecks (pack : EvidencePack) (digest : String) (keyring : Option Rekor.Keyring) :
    Except Exn (List Check) :=
  match pack.rekorProof with
  | some proof => (checkRekor proof digest keyring).map fun check => [check]
  | none =>
    if pack.anchoredInLog then
      .ok [⟨units "rekor-inclusion", false, "the pack claims a transparency-log anchor but " ++
        "carries no Rekor inclusion proof; the proof was stripped (a downgrade)"⟩]
    else .ok []

omit [JsonLimits] [FloatText] [Unicode] [Decimals] [Hashlib] [Cryptography] in
def anchorChecks (requireAnchored anchored : Bool) : List Check :=
  if requireAnchored && !anchored then
    [⟨units "independent-anchor", false, "no verified independent anchor binds the pack digest: " ++
      "its timestamp is a local-dev token, which anyone can regenerate over an edited pack, or " ++
      "an external token this verifier could not check - so this verification is not tamper " ++
      "evidence. Re-create the pack with `report --tsa`/`--rekor`, or accept integrity-only " ++
      "verification explicitly"⟩]
  else []

variable [Rfc3161]

/-- The checks up to the one of the PDF, and whether an independent anchor was verified. -/
def packChecks (pack : EvidencePack) (manifest : Option GroundTruthManifest)
    (options : VerifyOptions) : Except Exn (List Check × Bool) := do
  let digest ← attestedDigest pack
  let (tokenCheck, tokenAnchored) ← checkToken pack.tsaToken digest options.tsaCertificate
    options.tsaRoot pack.anchoredWithTimestamp
  let mappingsCheck ← checkControlMappings pack
  let rekor ← rekorChecks pack digest options.rekorKeyring
  let rekorAnchored := rekor.any Check.ok
  let manifestCheck ← manifest.mapM fun manifest => checkManifest manifest pack.manifestHash
  return ([checkSchemaVersion pack, tokenCheck, checkConsistency pack, mappingsCheck,
    checkRunScope pack options.requireLive] ++ rekor ++ manifestCheck.toList,
    tokenAnchored || rekorAnchored)

def verifyPack (pack : EvidencePack) (manifest : Option GroundTruthManifest)
    (pdfBytes : Option Bytes) (options : VerifyOptions) : Except Exn VerificationResult := do
  let (checks, anchored) ← packChecks pack manifest options
  return .of (checks ++ pdfChecks pack.pdfRef pdfBytes ++
    anchorChecks options.requireAnchored anchored) anchored

end Pack

end Sectum
