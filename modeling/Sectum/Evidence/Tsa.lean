import Sectum.Evidence.Rekor

/-! `sectum_ai.evidence.tsa`: the verification of the token of an RFC 3161 time-stamp authority. -/

namespace Sectum

open Py

/-- The `rfc3161_client` package with the certificates of `cryptography`, and the PEM files of the
default authority.  Nothing is assumed of them. -/
class Rfc3161 where
  installed : Bool
  Certificate : Type
  Response : Type
  builtinCert : String → Bytes
  /-- `none` for the `ValueError` of what is not PEM. -/
  loadCertificate : Bytes → Option Certificate
  /-- `none` for the `ValueError` of what is not a response. -/
  decodeResponse : Bytes → Option Response
  fingerprint : Certificate → Bytes
  /-- Whether `verify_directly_issued_by` returns. -/
  directlyIssuedBy : (leaf root : Certificate) → Bool
  /-- The time of a response whose signature and imprint are verified; `none` for any exception. -/
  verifyMessage : (leaf root : Certificate) → Response → (message : Bytes) → Option DateTime

/-- The package without its `rfc3161` extra. -/
@[reducible] def Rfc3161.missing : Rfc3161 where
  installed := false
  Certificate := Unit
  Response := Unit
  builtinCert _ := []
  loadCertificate _ := none
  decodeResponse _ := none
  fingerprint _ := []
  directlyIssuedBy _ _ := false
  verifyMessage _ _ _ _ := none

variable [Rfc3161]

/-- The result of a call that raises where it has none. -/
def required {α : Type} (result : Option α) (message : String) : Except EvidenceRaised α :=
  guarded [.valueError] message (orRaise result .valueError)

def verifyRfc3161Token (token digest : String) (tsaCertificate tsaRoot : Option Bytes) :
    Except EvidenceRaised DateTime := do
  if !Rfc3161.installed then
    refuse ("RFC 3161 support requires the 'rfc3161' extra: " ++
      "pip install 'sectum-ai-evidence[rfc3161]'")
  else
    let leafPem := tsaCertificate.getD (Rfc3161.builtinCert "freetsa-tsa.pem")
    let rootPem := tsaRoot.getD (Rfc3161.builtinCert "freetsa-root.pem")
    let invalid := "a supplied TSA certificate is not valid PEM"
    let leaf ← required (Rfc3161.loadCertificate leafPem) invalid
    let root ← required (Rfc3161.loadCertificate rootPem) invalid
    let undecodable := "the RFC 3161 token is not a decodable response"
    let body ← guarded [.valueError] undecodable ((Json.text token).b64decode false)
    let response ← required (Rfc3161.decodeResponse body) undecodable
    -- the library trusts a leaf that ends its own chain, so the issuer is checked apart from it
    if Rfc3161.fingerprint leaf ≠ Rfc3161.fingerprint root ∧ !Rfc3161.directlyIssuedBy leaf root then
      refuse ("the supplied TSA certificate is not issued by the pinned root; supply " ++
        "the matching root with --tsa-root, or the token is not anchored to a " ++
        "trust anchor you pinned")
    else
      required (Rfc3161.verifyMessage leaf root response (utf8 digest))
        "the RFC 3161 token does not attest this digest"

end Sectum
