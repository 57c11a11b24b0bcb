import Sectum.Evidence.Intoto
import Sectum.Evidence.Verify
import Sectum.Lib.Zip

/-! `sectum_ai.evidence.bundle`: the archive of a pack and of what is delivered with it. -/

namespace Sectum

open Py

section Members

def evidenceMember : Units := units "evidence.json"

def manifestMember : Units := units "bundle-manifest.json"

def pdfMembers : List Units := [units "audit-pack.pdf", units "erasure-attestation.pdf"]

def intotoMembers : List Units :=
  [units "attestation.intoto.json", units "erasure-attestation.intoto.json"]

def dsseMember : Units := units "evidence.dsse.json"

def runMember : Units := units "run.json"

/-- The members that only the digest manifest covers. -/
def unboundMembers : List Units :=
  [units "PACK-README.md", units "sectum-ai.config.redacted.yaml",
    units "ground-truth-manifest.json.aes"]

def knownMembers : List Units :=
  [evidenceMember, runMember, dsseMember] ++ pdfMembers ++ intotoMembers ++ unboundMembers

/-- `sorted(names)`. -/
def sortedNames (names : List Units) : List Units :=
  names.insertionSort fun name name' => codePoints name ≤ codePoints name'

end Members

section Build

/-- What `build_bundle` raises. -/
inductive BuildRaised
  | valueError (message : String)
  | library (e : Exn)
  deriving DecidableEq, Repr

variable [Hashlib]

/-- The digest manifest of some members. -/
def bundleManifest (members : Dict Units Bytes) : Json :=
  Json.object
    [("evidence", .str evidenceMember),
      ("members", .obj (members.items.map fun member => (member.1, .text (hexdigest member.2))))]

variable [JsonLimits] [FloatText]

/-- The bytes of the manifest member. -/
def manifestBytes (members : Dict Units Bytes) : Except Exn Bytes := do
  let text ← dumps JsonText.indented (bundleManifest members)
  orRaise (encodeUtf8 (text ++ units "\n")) .valueError

/-- The members of the archive, sorted by their names. -/
def payload (members : Dict Units Bytes) (manifest : Bytes) : List (Units × Bytes) :=
  (members.items ++ [(manifestMember, manifest)]).insertionSort fun member member' =>
    codePoints member.1 ≤ codePoints member'.1

def buildBundle [ZipWriter] (members : Dict Units Bytes) : Except BuildRaised Bytes :=
  if evidenceMember ∉ members then
    .error (.valueError "an evidence bundle must include 'evidence.json'")
  else if manifestMember ∈ members then
    .error (.valueError "'bundle-manifest.json' is reserved for the digest manifest")
  else
    match manifestBytes members with
    | .error e => .error (.library e)
    | .ok manifest => .ok (ZipWriter.write (payload members manifest))

end Build

section Read

/-- A bundle that is refused before any member could be checked. -/
def refused (name : Units) (detail : String) : VerificationResult :=
  ⟨false, [⟨name, false, detail⟩], false⟩

variable [Unicode] [FloatText]

/-- The digests that a manifest lists, unless it has a wrong shape. -/
def manifestDigests (manifest : Json) : Except VerificationResult (List (Units × Json)) :=
  match manifest with
  | .obj _ =>
    let evidence := (manifest.get "evidence").getD (.str evidenceMember)
    if !evidence.equalsText evidenceMember then
      .error (refused (units "bundle-manifest") ("bundle-manifest.json names " ++ evidence.repr ++
        " as the evidence member; a bundle attests 'evidence.json' and nothing else"))
    else
      match (manifest.get "members").getD (.obj []) with
      | .obj digests => .ok digests
      | _ => .error (refused (units "bundle-manifest")
        "bundle-manifest.json carries a non-object member-digest map")
  | _ => .error (refused (units "bundle-manifest") "bundle-manifest.json is not a JSON object")

/-- What an archive holds: the digests that its manifest lists, and the other members. -/
structure BundleContents where
  digests : List (Units × Json)
  members : List (Units × Bytes)

def BundleContents.member (contents : BundleContents) (name : Units) : Option Bytes :=
  (contents.members.find? fun member => member.1 = name).map Prod.snd

variable [JsonLimits]

/-- What is read of an archive that is open, or the refusal of it. -/
def readArchive (archive : Archive) :
    Except ZipRaised (Except VerificationResult BundleContents) :=
  if ¬archive.namelist.Nodup then
    .ok (.error (refused (units "bundle-members") ("the archive contains duplicate member names; " ++
      "readers disagree on which copy wins, so the bundle is refused")))
  else if manifestMember ∉ archive.namelist then
    .ok (.error (refused (units "bundle-manifest") "missing bundle-manifest.json"))
  else do
    let raw ← archive.read manifestMember
    let manifest ← (loadsOf raw).mapError ZipRaised.library
    match manifestDigests manifest with
    | .error result => return .error result
    | .ok digests =>
      let members ← archive.readAll (archive.namelist.filter fun name => name ≠ manifestMember)
      return .ok ⟨digests, members⟩

/-- The `with` block of `verify_bundle`. -/
def readBundle [Zipfile] (bundle : Bytes) :
    Except ZipRaised (Except VerificationResult BundleContents) := do
  readArchive (← Zipfile.openArchive bundle)

/-- The exceptions of the `with` block that make a bundle unreadable. -/
def unreadable : List ZipRaised := [.badZipFile, .library .keyError, .library .valueError]

end Read

section Contents

variable [Hashlib]

/-- The check of a member that the manifest lists. -/
def listedCheck (contents : BundleContents) (name : Units) (digest : Json) : Check :=
  let check := Check.mk (units "member:" ++ name)
  if name ∉ knownMembers then
    check false ("not a member Sectum writes; the manifest is unsigned, so a listed " ++
      "digest vouches for nothing - refused")
  else
    match contents.member name with
    | none => check false "listed in manifest but missing"
    | some present =>
      if !digest.equalsText (units (hexdigest present)) then
        check false "digest mismatch (member altered)"
      else if name ∈ unboundMembers then
        check true "digest matches the unsigned manifest; this member is not bound to the pack"
      else check true "digest matches the unsigned manifest"

/-- The checks of the members against the manifest, and of the manifest against the members. -/
def memberChecks (contents : BundleContents) : List Check :=
  (contents.digests.insertionSort Json.keyLE).map (fun entry =>
      listedCheck contents entry.1 entry.2) ++
    ((sortedNames (contents.members.map Prod.fst)).filter fun name =>
      name ∉ contents.digests.map Prod.fst).map fun name =>
        ⟨units "member:" ++ name, false,
          "present in the archive but not covered by the digest manifest"⟩

def pdfMemberCheck (pack : EvidencePack) (name : Units) (pdfBytes : Bytes) : Check :=
  match pack.pdfRef with
  | none =>
    ⟨units "audit-pdf:" ++ name, false, "the pack binds no pdf_ref, so this PDF is unbound"⟩
  | some pdfRef => checkPdf pdfRef pdfBytes (units "audit-pdf:" ++ name)

/-- The checks of the PDF members, each of which is bound. -/
def pdfMemberChecks (pack : EvidencePack) (contents : BundleContents) : List Check :=
  (pdfMembers.filterMap fun name => (contents.member name).map (pdfMemberCheck pack name)) ++
    if pack.pdfRef.isSome ∧ ∀ name ∈ pdfMembers, contents.member name = none then
      [⟨units "audit-pdf", false, "the pack binds a pdf_ref but the bundle has no audit PDF member"⟩]
    else []

end Contents

section Sidecars

variable [JsonLimits] [FloatText]

omit [JsonLimits] [FloatText] in
/-- What the passed check of a sidecar says of it, unless it says more. -/
def sidecarDetail (_ : Json) : String := "sidecar binds this pack's run digest"

/-- A JSON sidecar that binds the pack. -/
def boundSidecar (raw : Bytes) (bind : Json → Except EvidenceRaised Unit) :
    Except EvidenceRaised Json := do
  let obj ← unguarded (loadsOf raw)
  bind obj
  return obj

/-- Binds a JSON sidecar to the pack again, which fails the check where it no longer does. -/
def checkSidecar (name : Units) (raw : Bytes) (bind : Json → Except EvidenceRaised Unit)
    (detail : Json → String) : Except Exn Check :=
  match boundSidecar raw bind with
  | .ok obj => .ok ⟨name, true, detail obj⟩
  | .error (.evidenceError message) =>
    .ok ⟨name, false, "sidecar does not bind this pack: " ++ message⟩
  | .error (.library e) =>
    if e ∈ [.valueError, .typeError, .attributeError] then
      .ok ⟨name, false, "sidecar does not bind this pack"⟩
    else .error e

/-- The check of the run record of a bundle. -/
def bundledRunChecks [Pydantic] (pack : EvidencePack) : Option Bytes → Except Exn (List Check)
  | none => .ok []
  | some raw =>
    match loadsOf raw with
    | .error .valueError => .ok [⟨units "bundled-run", false, "unparsable run.json"⟩]
    | .error e => .error e
    | .ok bundledRun =>
      match loads (Pydantic.runJson pack.runResult) with
      | .error e => .error e.exn
      | .ok attestedRun =>
        if bundledRun.equals attestedRun then
          .ok [⟨units "bundled-run", true, "run.json matches the attested run"⟩]
        else
          .ok [⟨units "bundled-run", false, "run.json does not match the run this pack attests; " ++
            "it was altered or replaced after signing"⟩]

variable [Unicode] [Hashlib]

/-- The checks of the sidecars, each that is there. -/
def sidecarChecks (pack : EvidencePack) (contents : BundleContents) : Except Exn (List Check) := do
  let intoto ← (intotoMembers.filterMap fun name => (contents.member name).map (name, ·)).mapM
    fun (name, raw) => checkSidecar (units "in-toto-attestation:" ++ name) raw
      (fun obj => verifyInTotoStatement obj pack) sidecarDetail
  let dsse ← (contents.member dsseMember).toList.mapM fun raw =>
    checkSidecar (units "dsse-envelope") raw (fun obj => verifyDsseEnvelope obj pack)
      dsseBindingDetail
  return intoto ++ dsse

end Sidecars

section Verify

variable [JsonLimits] [FloatText] [Unicode] [Decimals] [Hashlib] [Cryptography] [Rfc3161]
  [Pydantic]

/-- The verdict on a bundle whose members match its manifest by `checks`. -/
def verifyBundledPack (checks : List Check) (pack : EvidencePack) (contents : BundleContents)
    (groundTruth : Option GroundTruthManifest) (options : VerifyOptions) :
    Except Exn VerificationResult := do
  let run ← bundledRunChecks pack (contents.member runMember)
  let presentPdfs := pdfMembers.filterMap contents.member
  let result ← verifyPack pack groundTruth presentPdfs.head? options
  let sidecars ← sidecarChecks pack contents
  return .of (checks ++ run ++ (result.checks.filter fun check => check.name ≠ units "audit-pdf") ++
    pdfMemberChecks pack contents ++ sidecars) result.anchored

def verifyContents (contents : BundleContents) (groundTruth : Option GroundTruthManifest)
    (options : VerifyOptions) : Except Exn VerificationResult :=
  let checks := memberChecks contents
  let refused := fun check : Check => VerificationResult.mk false (checks ++ [check]) false
  match contents.member evidenceMember with
  | none => .ok (refused ⟨units "evidence-pack", false, "missing evidence member 'evidence.json'"⟩)
  | some raw =>
    match checkRawSchemaStamps raw with
    | .error e => .error e
    | .ok (some stamped) => .ok (refused stamped)
    | .ok none =>
      match Pydantic.validatePack raw with
      | none => .ok (refused ⟨units "evidence-pack", false, "unparsable evidence pack"⟩)
      | some pack => verifyBundledPack checks pack contents groundTruth options

def verifyBundle [Zipfile] (bundle : Bytes) (groundTruth : Option GroundTruthManifest)
    (options : VerifyOptions) : Except ZipRaised VerificationResult :=
  match readBundle bundle with
  | .error e =>
    if e ∈ unreadable then .ok (refused (units "bundle") "unreadable bundle") else .error e
  | .ok (.error result) => .ok result
  | .ok (.ok contents) => (verifyContents contents groundTruth options).mapError ZipRaised.library

end Verify

end Sectum
