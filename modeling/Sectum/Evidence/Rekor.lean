import Sectum.Lib.JsonValue
import Sectum.Lib.Merkle
import Sectum.Spec.Hashing
import Sectum.Spec.Models

/-! `sectum_ai.evidence.rekor`: the verification of an inclusion proof of a transparency log. -/

namespace Sectum

open Py

/-- What a verification raises.  The text of a library's exception, which some messages end with
behind a colon, is left out. -/
inductive EvidenceRaised
  | evidenceError (message : String)
  | library (e : Exn)
  deriving DecidableEq, Repr

def refuse {α : Type} (message : String) : Except EvidenceRaised α := .error (.evidenceError message)

/-- `try: result except caught: raise EvidenceError(message)`. -/
def guarded {α : Type} (caught : List Exn) (message : String) :
    Except Exn α → Except EvidenceRaised α
  | .ok a => .ok a
  | .error e => if e ∈ caught then refuse message else .error (.library e)

theorem guarded_eq_ok {α : Type} {caught : List Exn} {message : String} {result : Except Exn α}
    {a : α} : guarded caught message result = .ok a ↔ result = .ok a := by
  cases result with
  | ok b => simp [guarded]
  | error e =>
    rw [guarded]
    split <;> simp [refuse]

theorem ite_refuse_eq_ok {α : Type} {p : Prop} [Decidable p] {message : String}
    {result : Except EvidenceRaised α} {a : α} :
    (if p then refuse message else result) = .ok a ↔ ¬p ∧ result = .ok a := by
  split
  · rename_i hp
    exact ⟨nofun, fun h => absurd hp h.1⟩
  · rename_i hp
    exact ⟨fun h => ⟨hp, h⟩, fun h => h.2⟩

def unguarded {α : Type} (result : Except Exn α) : Except EvidenceRaised α := guarded [] "" result

/-- What comes of a signature check under a key: an `InvalidSignature` is raised or not, unless the
key is of a type that is not supported. -/
inductive SignatureVerdict
  | valid
  | invalid
  | unsupported (keyType : String)
  deriving DecidableEq, Repr

/-- The `cryptography` package.  Nothing is assumed of it. -/
class Cryptography where
  /-- The DER bytes of a PEM public key, or `none` for what is not one. -/
  derSpki : Bytes → Option Bytes
  verify : (pem signature message : Bytes) → SignatureVerdict

/-- A package that reads no key. -/
@[reducible] def Cryptography.missing : Cryptography where
  derSpki _ := none
  verify _ _ _ := .invalid

namespace Rekor

/-- The keys under `_rekor/`. -/
def builtinKeys : List Bytes :=
  [utf8 ("-----BEGIN PUBLIC KEY-----\n" ++
      "MFkwEwYHKoZIzj0CAQYIKoZIzj0DAQcDQgAE2G2Y+2tabdTV5BcGiBIx0a9fAFwr\n" ++
      "kBbmLSGtks4L3qX6yYY0zufBnhC8Ur/iy55GhWP/9A/bY2LhC30M9+RYtw==\n" ++
      "-----END PUBLIC KEY-----\n"),
    utf8 ("-----BEGIN PUBLIC KEY-----\n" ++
      "MCowBQYDK2VwAyEAt8rlp1knGwjfbcXAYPYAkn0XiLz1x8O4t0YkEhie244=\n" ++
      "-----END PUBLIC KEY-----\n")]

abbrev Keyring := Dict Units Bytes

section Keys

variable [Cryptography] [Hashlib]

def derSpki (pem : Bytes) : Except Exn Bytes := orRaise (Cryptography.derSpki pem) .valueError

def logId (der : Bytes) : String := hexdigest der

def rekorKeyring (pems : List Bytes) : Except Exn Keyring := do
  let entries ← pems.mapM fun pem => (derSpki pem).map fun der => (units (logId der), pem)
  return Dict.ofItems entries

/-- The keys that a proof is checked against. -/
def trustedKeys : Option Keyring → Except Exn Keyring
  | some keyring => .ok keyring
  | none => rekorKeyring builtinKeys

end Keys

section Inclusion

/-- `proof["leaf_index"]` as a number. -/
def leafIndex [Unicode] [Decimals] (proof : Json) : Except Exn Int := do
  (← proof.item "leaf_index").toInt

def treeSize [Unicode] [Decimals] (proof : Json) : Except Exn Int := do
  (← proof.item "tree_size").toInt

def auditHashes (proof : Json) : Except Exn (List Bytes) := do
  (← (← proof.item "hashes").elements).mapM (Json.b64decode false)

variable [Hashlib] [Unicode] [Decimals]

def hashChildren (left right : Bytes) : Bytes := Hashlib.sha256 (1 :: (left ++ right))

def hashLeaf (body : Bytes) : Bytes := Hashlib.sha256 (0 :: body)

/-- The node that the inner hashes lead to, whose side the bits of the index tell. -/
def foldInner (index inner : Nat) (hashes : List Bytes) (leaf : Bytes) : Bytes :=
  (List.range inner).foldl (fun node i =>
    if index.testBit i then hashChildren (hashes.getD i []) node
    else hashChildren node (hashes.getD i [])) leaf

def foldBorder (siblings : List Bytes) (node : Bytes) : Bytes :=
  siblings.foldl (fun node sibling => hashChildren sibling node) node

/-- The Merkle tree root recomputed from the leaf and the audit path. -/
def rootFromInclusionProof (proof bodyB64 : Json) : Except EvidenceRaised Bytes := do
  let (leafIndex, treeSize, hashes, leaf) ←
    guarded [.keyError, .typeError, .valueError] "the Rekor inclusion proof is malformed" (do
      let leafIndex ← leafIndex proof
      let treeSize ← treeSize proof
      let hashes ← auditHashes proof
      let body ← bodyB64.b64decode false
      return (leafIndex, treeSize, hashes, hashLeaf body))
  if ¬(0 ≤ leafIndex ∧ leafIndex < treeSize) then
    refuse "the Rekor leaf index is out of range for the tree size"
  else
    let index := leafIndex.toNat
    let inner := (index ^^^ (treeSize.toNat - 1)).size
    let border := Merkle.bitCount (index >>> inner)
    if hashes.length ≠ inner + border then
      refuse "the Rekor inclusion proof has the wrong number of hashes"
    else .ok (foldBorder (hashes.drop inner) (foldInner index inner hashes leaf))

end Inclusion

section Checkpoint

/-- The text before the first `sep` and the text after it. -/
def cut (sep : Units) : Units → Option (Units × Units)
  | [] => none
  | u :: rest =>
    if sep.isPrefixOf (u :: rest) then some ([], (u :: rest).drop sep.length)
    else (cut sep rest).map fun (before, after) => (u :: before, after)

/-- The text of the checkpoint of a proof, and the lines of signatures behind it. -/
def signedCheckpoint (proof : Json) : Option (Units × Units) :=
  match proof.get "checkpoint" with
  | some (.str envelope) => cut (units "\n— ") envelope
  | _ => none

variable [Hashlib] [Cryptography] [Unicode] [FloatText]

omit [Hashlib] [Cryptography] in
/-- What a checkpoint that commits to `root` signs, and the signature with the hint of its key. -/
def checkpointBody (proof : Json) (root : Bytes) : Except EvidenceRaised (Units × Bytes) := do
  match signedCheckpoint proof with
  | none => refuse "the Rekor proof has no signed checkpoint"
  | some (text, signatures) =>
    let lines := text.splitOn (unit '\n')
    if lines.length < 3 then refuse "the Rekor checkpoint body is malformed"
    else
      let checkpointRoot ←
        guarded [.valueError] "the Rekor checkpoint root hash is not valid base64"
          ((Json.str (lines.getD 2 [])).b64decode true)
      if checkpointRoot ≠ root then
        refuse "the Rekor checkpoint commits to a different root; the proof was altered"
      else if ((proof.get "tree_size").getD .null).toStr ≠ lines.getD 1 [] then
        refuse "the Rekor checkpoint tree size does not match the proof"
      else
        let raw ← guarded [.valueError] "the Rekor checkpoint signature is malformed" (do
          let (_, b64sig) ← orRaise
            (cut [unit ' '] (signatures.takeWhile fun u => u ≠ unit '\n')) .valueError
          (Json.str b64sig).b64decode false)
        .ok (text, raw)

/-- What a checkpoint that commits to `root` under the key of `pem` signs, and the signature. -/
def readCheckpoint (proof : Json) (root pem : Bytes) : Except EvidenceRaised (Units × Bytes) := do
  let (text, raw) ← checkpointBody proof root
  let der ← unguarded (derSpki pem)
  if raw.take 4 ≠ (Hashlib.sha256 der).take 4 then
    refuse "the Rekor checkpoint key hint does not match the pinned key"
  else .ok (text, raw.drop 4)

omit [Hashlib] [Unicode] [FloatText] in
def verifySignature (pem signature message : Bytes) : Except EvidenceRaised Unit :=
  match Cryptography.verify pem signature message with
  | .valid => .ok ()
  | .invalid => refuse "the Rekor checkpoint signature is invalid"
  | .unsupported keyType => refuse ("unsupported Rekor key type: " ++ keyType)

def verifyCheckpoint (proof : Json) (root pem : Bytes) : Except EvidenceRaised Unit := do
  let (text, signature) ← readCheckpoint proof root pem
  let message ← unguarded (orRaise (encodeUtf8 text) .valueError)
  verifySignature pem signature message

end Checkpoint

section Proof

variable [JsonLimits] [FloatText] [Unicode]

def checkDigestBinding (bodyB64 : Json) (digest : Units) : Except EvidenceRaised Unit := do
  let body ← guarded [.valueError] "the Rekor entry body is malformed" (do
    loadsOf (← bodyB64.b64decode false))
  -- what is not an object has no kind, which is not the right one either
  let kind := (body.get "kind").getD .null
  if !kind.equalsText (units "hashedrekord") then
    refuse ("unexpected Rekor entry kind: " ++ kind.repr)
  else
    let recorded ← guarded [.keyError, .typeError] "the Rekor entry body is malformed" (do
      (← (← (← body.item "spec").item "data").item "hash").item "value")
    if !recorded.equalsText digest then
      refuse "the Rekor entry attests a different digest; the run was altered"
    else .ok ()

variable [Hashlib] [Cryptography] [Decimals]

/-- The time that the log recorded. -/
def integratedTime (proof : Json) : Except EvidenceRaised DateTime :=
  match proof.get "integrated_time" with
  | some (.int n) => unguarded (DateTime.fromtimestamp n)
  | some (.bool b) => unguarded (DateTime.fromtimestamp b.toNat)
  | _ => refuse "the Rekor proof is missing an integrated time"

/-- The JSON object that the text of a proof holds. -/
def readProof (proofJson : Units) : Except EvidenceRaised Json :=
  match loads proofJson with
  | .ok (.obj entries) => .ok (.obj entries)
  | .ok _ => refuse "the Rekor proof is not a JSON object"
  | .error .decode => refuse "the Rekor proof is not valid JSON"
  | .error e => .error (.library e.exn)

/-- The key that the log id of a proof selects. -/
def selectKey (keys : Keyring) (logId : Json) : Except EvidenceRaised Bytes :=
  match (match logId with | .str s => keys.lookup s | _ => none) with
  | some pem => .ok pem
  | none => refuse ("the Rekor log id " ++ logId.repr ++ " is not in the trusted keyring")

def verifyRekorProof (proofJson digest : Units) (keyring : Option Keyring) :
    Except EvidenceRaised DateTime := do
  let proof ← readProof proofJson
  let keys ← unguarded (trustedKeys keyring)
  let pem ← selectKey keys ((proof.get "log_id").getD .null)
  let bodyB64 := (proof.get "canonicalized_body").getD (.str [])
  checkDigestBinding bodyB64 digest
  let root ← rootFromInclusionProof proof bodyB64
  verifyCheckpoint proof root pem
  integratedTime proof

end Proof

end Rekor

end Sectum
