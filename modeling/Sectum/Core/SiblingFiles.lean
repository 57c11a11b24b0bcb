import Sectum.Evidence.Verify
import Sectum.Lib.Dict

/-! The files beside an evidence pack, of `sectum_ai.cli.app`: which of them `verify` judges, and which
ones it only names. -/

namespace Sectum

open Py

/-- What stands at a path: a file, or something that exists and raises this `OSError` when it is
read. -/
inductive Entry
  | file (content : Bytes)
  | unreadable (error : String)
  deriving DecidableEq, Repr

/-- The directory of a pack, by name. -/
abbrev Folder := String → Option Entry

inductive SiblingSlot
  | pdf
  | inToto
  | dsse
  | run
  deriving DecidableEq, Repr

/-- The sibling that a pack declares in a slot.  The empty name stands for none. -/
abbrev SiblingNames := SiblingSlot → String

/-- `_PACK_SIBLINGS`. -/
def packSiblings : List (String × SiblingNames) :=
  [("evidence.json", fun
      | .pdf => "audit-pack.pdf"
      | .inToto => "attestation.intoto.json"
      | .dsse => "evidence.dsse.json"
      | .run => "run.json"),
    ("erasure-evidence.json", fun
      | .pdf => "erasure-attestation.pdf"
      | .inToto => "erasure-attestation.intoto.json"
      | .dsse => "erasure-evidence.dsse.json"
      | .run => "")]

/-- `_SIBLING_FALLBACK`. -/
def siblingFallback : SiblingSlot → List String
  | .pdf => ["audit-pack.pdf", "erasure-attestation.pdf"]
  | .inToto => ["attestation.intoto.json", "erasure-attestation.intoto.json"]
  | .dsse => ["evidence.dsse.json"]
  | .run => ["run.json"]

/-- The candidates in a slot of a pack with this file name. -/
def siblingNames (packName : String) (slot : SiblingSlot) : List String :=
  match packSiblings.find? fun entry => entry.1 = packName with
  | none => siblingFallback slot
  | some (_, known) => if known slot = "" then [] else [known slot]

/-- Whether the claim of another pack on a candidate can be accepted. -/
inductive Claim
  | owned
  | underAnchored
  | unowned
  deriving DecidableEq, Repr

/-- The roots that `verify` was given. -/
structure TrustRoots where
  tsaCertificate : Option Bytes := none
  tsaRoot : Option Bytes := none
  rekorKeyring : Option Rekor.Keyring := none

/-- `verify_pack` with these roots and no flag. -/
def TrustRoots.options (roots : TrustRoots) : VerifyOptions where
  tsaCertificate := roots.tsaCertificate
  tsaRoot := roots.tsaRoot
  rekorKeyring := roots.rekorKeyring

/-- The candidates in a slot that are judged, that are only named, and that a pack claims which
cannot excuse them. -/
structure Siblings where
  judged : List String
  named : List String
  unexcused : List String
  deriving DecidableEq, Repr

/-- What the content of a sidecar says of a pack: the detail of the line that accepts it, or the
message of the error that refuses it; and whether a run record is the one of the pack. -/
class Sidecars where
  inToto : Bytes → EvidencePack → Except String String
  dsse : Bytes → EvidencePack → Except String String
  runRecord : Bytes → EvidencePack → Bool

section Siblings

variable [Hashlib]

def bindsPdf (content : Bytes) (pack : EvidencePack) : Bool := pack.pdfRef = some (hexdigest content)

variable [Sidecars]

/-- `_binds_pdf`, `_binds_in_toto`, `_binds_dsse` and `_binds_run_record`, on what can be read. -/
def bindsContent (slot : SiblingSlot) (content : Bytes) (pack : EvidencePack) : Bool :=
  match slot with
  | .pdf => bindsPdf content pack
  | .inToto => (Sidecars.inToto content pack).isOk
  | .dsse => (Sidecars.dsse content pack).isOk
  | .run => Sidecars.runRecord content pack

/-- Nothing that cannot be read binds a pack. -/
def Folder.binds (folder : Folder) (slot : SiblingSlot) (name : String) (pack : EvidencePack) : Bool :=
  match folder name with
  | some (.file content) => bindsContent slot content pack
  | _ => false

variable [JsonLimits] [FloatText] [Unicode] [Decimals] [Cryptography] [Rfc3161] [Pydantic]
  (folder : Folder) (packName : String)

omit [Hashlib] [Sidecars] [JsonLimits] [FloatText] [Unicode] [Decimals] [Cryptography]
  [Rfc3161] in
/-- The pack in a file beside the one under test. -/
def presentPack (owner : String) : Option EvidencePack :=
  match folder owner with
  | some (.file content) => Pydantic.validatePack content
  | _ => none

/-- The loop of `_owned_elsewhere`: the first other pack that declares the name, binds the file and
verifies decides. -/
def ownedElsewhere (name : String) (slot : SiblingSlot) (pack : EvidencePack) (roots : TrustRoots) :
    List (String × SiblingNames) → Except Exn Claim
  | [] => .ok .unowned
  | (owner, siblings) :: others =>
    if owner = packName ∨ siblings slot ≠ name then ownedElsewhere name slot pack roots others
    else
      match presentPack folder owner with
      | none => ownedElsewhere name slot pack roots others
      | some other =>
        if !folder.binds slot name other then ownedElsewhere name slot pack roots others
        else do
          let claimant ← verifyPack other none none roots.options
          if !claimant.passed then ownedElsewhere name slot pack roots others
          else if (pack.anchoredInLog || pack.anchoredWithTimestamp) && !claimant.anchored then
            return .underAnchored
          else return .owned

omit [Hashlib] [Sidecars] [JsonLimits] [FloatText] [Unicode] [Decimals] [Cryptography] [Rfc3161]
  [Pydantic] in
/-- `present`: the candidates that exist. -/
def presentNames (slot : SiblingSlot) : List String :=
  (siblingNames packName slot).filter fun name => (folder name).isSome

omit [JsonLimits] [FloatText] [Unicode] [Decimals] [Cryptography] [Rfc3161] [Pydantic] in
/-- `bound`: the candidates that bind the pack. -/
def boundNames (slot : SiblingSlot) (pack : EvidencePack) : List String :=
  (presentNames folder packName slot).filter fun name => folder.binds slot name pack

/-- `claims`, which are only asked for where no candidate binds the pack. -/
def siblingClaims (slot : SiblingSlot) (pack : EvidencePack) (roots : TrustRoots) :
    Except Exn (List (String × Claim)) :=
  if boundNames folder packName slot pack ≠ [] then .ok []
  else
    (presentNames folder packName slot).mapM fun name =>
      (ownedElsewhere folder packName name slot pack roots packSiblings).map fun claim =>
        (name, claim)

/-- `_claimed_siblings`. -/
def claimedSiblings (slot : SiblingSlot) (pack : EvidencePack) (roots : TrustRoots) :
    Except Exn Siblings := do
  let present := presentNames folder packName slot
  let bound := boundNames folder packName slot pack
  let claims ← siblingClaims folder packName slot pack roots
  let judged :=
    if bound ≠ [] then bound else present.filter fun name => (name, Claim.unowned) ∈ claims
  let unexcused := sortedSet ((claims.filter fun claim => claim.2 = .underAnchored).map Prod.fst)
  return {
    judged := judged
    named := sortedSet (present.filter fun name => name ∉ judged ∧ name ∉ unexcused)
    unexcused := unexcused
  }

omit [Hashlib] [Sidecars] [JsonLimits] [FloatText] [Unicode] [Decimals] [Cryptography] [Rfc3161]
  [Pydantic] in
/-- `_unclaimed_siblings`. -/
def unclaimedSiblings (slot : SiblingSlot) : List String :=
  sortedSet ((siblingFallback slot).filter fun name =>
    name ∉ siblingNames packName slot ∧ (folder name).isSome)

end Siblings

end Sectum
