import Mathlib.Data.List.DropRight
import Sectum.Core.ErasureCommand
import Sectum.Core.SiblingFiles
import Sectum.Evidence.Bundle
import Sectum.Evidence.Intoto
import Sectum.Lib.Utf8

/-! The command `verify` of `sectum_ai.cli.app`: what it prints, and its exit status. -/

namespace Sectum

open Py

section Sidecars

variable [JsonLimits] [FloatText] [Unicode] [Hashlib]

omit [Unicode] [Hashlib] in
/-- `json.loads(path.read_text())`. -/
def loadFile (content : Bytes) : Except Exn Json :=
  match readText content with
  | none => .error .valueError
  | some text => (loads (units text)).mapError LoadsError.exn

/-- The body of the loop over the in-toto statements, and the detail of its line. -/
def inTotoFile (content : Bytes) (pack : EvidencePack) : Except EvidenceRaised String := do
  let statement ← unguarded (loadFile content)
  verifyInTotoStatement statement pack
  return "sidecar binds this pack's run digest"

/-- The body of the loop over the DSSE envelopes. -/
def dsseFile (content : Bytes) (pack : EvidencePack) : Except EvidenceRaised String := do
  let envelope ← unguarded (loadFile content)
  verifyDsseEnvelope envelope pack
  return dsseBindingDetail envelope

/-- What the `try` around a body makes of it: `ValueError` and `EvidenceError` refuse the file, and
what else is raised escapes. -/
def refusedFile (body : Except EvidenceRaised String) : Except Exn (Except String String) :=
  match body with
  | .ok detail => .ok (.ok detail)
  | .error (.evidenceError message) => .ok (.error message)
  | .error (.library e) => if e = .valueError then .ok (.error "not valid JSON") else .error e

end Sidecars

/-- A path that was given to an option, and what stands there. -/
structure PathArgument where
  path : String
  entry : Option Entry

/-- The arguments of the command.  `name` is the last component of the path of the pack. -/
structure VerifyArguments where
  pack : String
  name : String
  tsaCert : Option PathArgument := none
  tsaRoot : Option PathArgument := none
  rekorKey : Option PathArgument := none
  manifest : Option PathArgument := none
  allowUnanchored : Bool := false
  allowSynthetic : Bool := false

/-- What a command does not handle: the interpreter prints it and exits with status 1. -/
inductive Unhandled
  | osError (error : String)
  | library (e : Exn)
  | zip (e : ZipRaised)
  deriving DecidableEq, Repr

/-- What `pydantic` makes of a manifest, and the text of its error for a pack. -/
class PydanticManifest where
  validateManifest : String → Except String GroundTruthManifest
  packError : Bytes → String

def out (text : String) : EchoLine := { text }

def err (text : String) : EchoLine := { text, err := true }

/-- `PurePath.suffix` of a file name. -/
def suffix (name : String) : String :=
  let extension := name.toList.rtakeWhile (· ≠ '.')
  let stem := name.toList.rdropWhile (· ≠ '.')
  if stem.length ≤ 1 ∨ extension = [] then "" else "." ++ String.ofList extension

example : suffix "evidence.json" = ".json" ∧ suffix ".zip" = "" ∧ suffix "a.b.zip" = ".zip" := by
  decide +kernel

section Paths

def Entry.readBytes : Entry → Except Unhandled Bytes
  | .file content => .ok content
  | .unreadable error => .error (.osError error)

/-- A path that does not exist raises, too. -/
def readEntry : Option Entry → Except Unhandled Bytes
  | some entry => entry.readBytes
  | none => .error (.osError "No such file or directory")

/-- The content of a path, where one was given. -/
def PathArgument.readBytes (argument : Option PathArgument) : Except Unhandled (Option Bytes) :=
  argument.mapM fun given => readEntry given.entry

/-- `_rekor_keyring_override`. -/
def rekorKeyringOverride [Cryptography] [Hashlib] (rekorKey : Option PathArgument) :
    Except Unhandled (Option Rekor.Keyring) := do
  let pem ← PathArgument.readBytes rekorKey
  pem.mapM fun pem => (Rekor.rekorKeyring [pem]).mapError .library

def readRoots [Cryptography] [Hashlib] (args : VerifyArguments) : Except Unhandled TrustRoots := do
  let tsaCertificate ← PathArgument.readBytes args.tsaCert
  let tsaRoot ← PathArgument.readBytes args.tsaRoot
  let rekorKeyring ← rekorKeyringOverride args.rekorKey
  return { tsaCertificate, tsaRoot, rekorKeyring }

/-- The first certificate that does not exist. -/
def missingCertificate (args : VerifyArguments) : Option String :=
  [("--tsa-cert", args.tsaCert), ("--tsa-root", args.tsaRoot),
    ("--rekor-key", args.rekorKey)].findSome? fun (label, argument) =>
      argument.bind fun given =>
        if given.entry.isNone then
          some ("no certificate at " ++ given.path ++ " for " ++ label)
        else none

/-- The manifest, or the line that refuses it. -/
def readManifest [PydanticManifest] (args : VerifyArguments) :
    Except Unhandled (Except String (Option GroundTruthManifest)) :=
  match args.manifest with
  | none => .ok (.ok none)
  | some given =>
    let refused (error : String) :=
      .ok (.error ("not a valid ground-truth manifest at " ++ given.path ++ ": " ++ error))
    match readEntry given.entry with
    | .error (.osError error) => refused error
    | .error e => .error e
    | .ok content =>
      match readText content with
      | none => .error (.library .valueError)
      | some text =>
        match PydanticManifest.validateManifest text with
        | .error error => refused error
        | .ok manifest => .ok (.ok (some manifest))

end Paths

section Lines

variable [Unicode]

/-- `untrusted` of a text that may hold surrogates alone, which are not printable. -/
def untrustedUnits (text : Units) : String :=
  String.join ((codePoints text).map fun code =>
    if 0xd800 ≤ code ∧ code < 0xe000 then escape code else untrusted (Char.ofNat code).toString)

def checkLine (check : Check) : EchoLine :=
  out ("[" ++ (if check.ok then "ok" else "FAIL") ++ "] " ++ untrustedUnits check.name ++ ": " ++
    untrusted check.detail)

omit [Unicode] in
/-- `_echo_verdict`. -/
def verdictLine (anchored : Bool) (what : String) : EchoLine :=
  if anchored then
    out ("VERIFIED (independently anchored): the " ++ what ++ "'s attested content is " ++
      "intact and consistent.")
  else
    out ("INTEGRITY OK - UNANCHORED: the " ++ what ++ " is internally consistent, but its " ++
      "only timestamp is a reproducible local-dev token, so this result is NOT " ++
      "independent tamper evidence. Re-create it with `report --tsa`/`--rekor` " ++
      "for an anchored attestation.")

omit [Unicode] in
def manifestNote (groundTruth : Option GroundTruthManifest) : List EchoLine :=
  if groundTruth.isNone then
    [err ("note: this confirms integrity and internal consistency; to also bind which " ++
      "marker belonged to which tenant, re-run with `--manifest <manifest.json>`.")]
  else []

def runRecordLine (name : String) (binds : Bool) : EchoLine :=
  if binds then out ("[ok] run-record: " ++ untrusted name ++ " matches the attested run")
  else
    out ("[ok] run-record: " ++ untrusted name ++ " is NOT the run this pack " ++
      "attests - a later run, or an altered copy; this verdict says nothing " ++
      "about it, and `sectum-ai score` reads that file in preference to this " ++
      "pack, so point `score` at the pack to be sure what you are grading")

def unclaimedLines (unclaimed : List String) : List EchoLine :=
  let names := join ", " (unclaimed.map untrusted)
  match unclaimed with
  | [] => []
  | [_] =>
    [out ("[ok] unclaimed-siblings: " ++ names ++ " sits beside this pack and is not bound " ++
      "by it, so this verification says nothing about it; it belongs to its own " ++
      "pack, or to nothing")]
  | _ =>
    [out ("[ok] unclaimed-siblings: " ++ names ++ " sit beside this pack and are not bound " ++
      "by it, so this verification says nothing about them; each belongs to its " ++
      "own pack, or to nothing")]

def unexcusedLines (unexcused : List String) : List EchoLine :=
  if unexcused = [] then []
  else
    [out ("[INDETERMINATE] unexcused-siblings: " ++ join ", " (unexcused.map untrusted) ++
      " sit(s) beside this pack and is bound by another pack here whose own verification is not " ++
      "independently anchored, so this anchored verification cannot speak for it either way. " ++
      "Nothing here is called altered, and nothing here is certified: verify that " ++
      "pack on its own terms, or re-create it anchored")]

end Lines

section Command

variable [JsonLimits] [FloatText] [Unicode] [Decimals] [Hashlib] [Cryptography] [Rfc3161] [Pydantic]
  [PydanticManifest] [Sidecars]

/-- `_sibling_audit_pdf`: the content of the PDF to hash, and the ones that are named or unexcused. -/
def siblingAuditPdf (folder : Folder) (packName : String) (pack : EvidencePack)
    (roots : TrustRoots) : Except Unhandled (Option Bytes × List String × List String) := do
  let siblings ← (claimedSiblings folder packName .pdf pack roots).mapError .library
  match siblings.judged with
  | [] => return (none, siblings.named, siblings.unexcused)
  | first :: others =>
    let content ← readEntry (folder first)
    return (some content, sortedSet (siblings.named ++ others), siblings.unexcused)

/-- The loop over the sidecars of a slot: the lines, and whether all of them were accepted. -/
def sidecarLines (check : Bytes → EvidencePack → Except String String) (label : String)
    (folder : Folder) (pack : EvidencePack) (names : List String) :
    Except Unhandled (List EchoLine × Bool) := do
  let checked ← names.zipIdx.mapM fun entry => do
    let shown := untrusted (if entry.2 = 0 then label else label ++ ":" ++ entry.1)
    let content ← readEntry (folder entry.1)
    return match check content pack with
      | .ok detail => (out ("[ok] " ++ shown ++ ": " ++ detail), true)
      | .error message => (out ("[FAIL] " ++ shown ++ ": " ++ message), false)
  return (checked.map Prod.fst, checked.all Prod.snd)

/-- The part of the command that verifies a pack, once it is read. -/
def verifyEvidence (folder : Folder) (args : VerifyArguments)
    (groundTruth : Option GroundTruthManifest) (evidence : EvidencePack) :
    Except Unhandled Emission := do
  let roots ← readRoots args
  let (pdfBytes, otherPdfs, unexcusedPdfs) ← siblingAuditPdf folder args.name evidence roots
  let result ← (verifyPack evidence groundTruth pdfBytes
    { roots.options with
      requireAnchored := !args.allowUnanchored
      requireLive := !args.allowSynthetic }).mapError .library
  let claimed (slot : SiblingSlot) := (claimedSiblings folder args.name slot evidence roots).mapError
    Unhandled.library
  let runs ← claimed .run
  let statements ← claimed .inToto
  let (statementLines, statementsOk) ←
    sidecarLines Sidecars.inToto "in-toto-attestation" folder evidence statements.judged
  let envelopes ← claimed .dsse
  let (envelopeLines, envelopesOk) ←
    sidecarLines Sidecars.dsse "dsse-envelope" folder evidence envelopes.judged
  let slots := [SiblingSlot.pdf, .inToto, .dsse, .run]
  let unclaimed := sortedSet (slots.flatMap (unclaimedSiblings folder args.name) ++ otherPdfs ++
    runs.named ++ statements.named ++ envelopes.named)
  let unexcused := sortedSet (unexcusedPdfs ++ runs.unexcused ++ statements.unexcused ++
    envelopes.unexcused)
  let lines := result.checks.map checkLine ++
    runs.judged.map (fun name => runRecordLine name (folder.binds .run name evidence)) ++
    statementLines ++ envelopeLines ++ unclaimedLines unclaimed ++ unexcusedLines unexcused
  if !(result.passed && statementsOk && envelopesOk) then
    return ⟨lines ++ [err "VERIFICATION FAILED"], 4⟩
  else if unexcused ≠ [] then
    return ⟨lines ++ [err ("VERIFICATION INDETERMINATE: every check this pack could answer " ++
      "passed, and a file beside it is claimed by a pack this verification cannot accept - so " ++
      "the folder is neither verified nor shown to be altered.")], 3⟩
  else
    return ⟨lines ++ [verdictLine result.anchored "evidence pack"] ++ manifestNote groundTruth, 0⟩

/-- The branch for a bundle. -/
def verifyBundleFile [Zipfile] (bundle : Bytes) (args : VerifyArguments)
    (groundTruth : Option GroundTruthManifest) : Except Unhandled Emission := do
  let roots ← readRoots args
  let result ← (verifyBundle bundle groundTruth
    { roots.options with
      requireAnchored := !args.allowUnanchored
      requireLive := !args.allowSynthetic }).mapError .zip
  let lines := result.checks.map checkLine
  if !result.passed then return ⟨lines ++ [err "VERIFICATION FAILED"], 4⟩
  else
    return ⟨lines ++ [verdictLine result.anchored "evidence bundle"] ++ manifestNote groundTruth, 0⟩

/-- The branch for a pack: its text is read with replacement characters. -/
def verifyPackFile (folder : Folder) (content : Bytes) (args : VerifyArguments)
    (groundTruth : Option GroundTruthManifest) : Except Unhandled Emission := do
  let rawPack := decodeReplace content
  let stamped ← (checkSchemaStamps
    ((loads (units rawPack)).mapError LoadsError.exn)).mapError Unhandled.library
  match stamped with
  | some check => return ⟨[checkLine check, err "VERIFICATION FAILED"], 4⟩
  | none =>
    match Pydantic.validatePack (utf8 rawPack) with
    | none => return ⟨[err ("not a valid evidence pack at " ++ args.pack ++ ": " ++
        PydanticManifest.packError (utf8 rawPack))], 3⟩
    | some evidence => verifyEvidence folder args groundTruth evidence

def verify [Zipfile] (folder : Folder) (args : VerifyArguments) : Except Unhandled Emission :=
  match folder args.name with
  | none => return ⟨[err ("no evidence pack at " ++ args.pack)], 3⟩
  | some entry =>
    match missingCertificate args with
    | some line => return ⟨[err line], 3⟩
    | none => do
      match ← readManifest args with
      | .error line => return ⟨[err line], 3⟩
      | .ok groundTruth =>
        let content ← entry.readBytes
        if suffix args.name = ".zip" then verifyBundleFile content args groundTruth
        else verifyPackFile folder content args groundTruth

/-- The exit status of the process. -/
def exitStatus : Except Unhandled Emission → Nat
  | .ok emission => emission.exitCode
  | .error _ => 1

end Command

end Sectum
