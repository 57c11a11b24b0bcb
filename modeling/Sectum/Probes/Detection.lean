import Sectum.Lib.PyNum
import Sectum.Lib.Raise
import Sectum.Spec.Models
import Sectum.Spec.Text

/-! `sectum_ai.probes.detection`: the exact, then semantic, then judge leak-detection pipeline.

The embedder and the judge are functions, so a run of the pipeline is a function of the manifest,
the observation and these.  A Python exception is the `error` of an `Except`. -/

namespace Sectum

open Py

abbrev Embedding := List ℚ

structure EmbeddingProvider where
  dim : Nat
  embed : String → Embedding
  embed_length : ∀ text, (embed text).length = dim

structure JudgeVerdict where
  leak : Bool
  rationale : String
  evidenceSpan : String := ""
  deriving DecidableEq, Repr

abbrev Judge := String → Marker → JudgeVerdict

/-- The control classification that `detect` stamps on each finding. -/
structure ControlStamp where
  owaspLlm : String := "LLM08:2025"
  owaspSecondary : List String := []
  atlas : List String := []
  nist : List String := []

def maxInterposedTokens : Nat := 1

/-- The fixed words of the entity canary template. -/
def entityTemplateTokens : List String := ["project"]

/-- Keeps a leading hint of a secret and elides the rest. -/
def redactSecret (plaintext : String) : String := sliceTo 4 plaintext ++ "...[redacted]"

/-- Whether `marker` is foreign to the observing principal. -/
def isCrossPrincipal (marker : Marker) (observer : Principal) : Bool :=
  if marker.ownerTenantId ≠ observer.tenantId then true
  else
    match observer.userId, marker.ownerUserId with
    | some observerUser, some ownerUser => ownerUser ≠ observerUser
    | _, _ => false

section Credentials

variable [Unicode]

def isAsciiAlnum (c : Char) : Bool := c.isAlphanum

def isUpperAlnum (c : Char) : Bool := c.isUpper || c.isDigit

/-- `sk-[A-Za-z0-9]{20,}`. -/
def skPattern (_ : Option Char) (rest : List Char) : Option Nat :=
  let body := (rest.drop 3).takeWhile isAsciiAlnum
  if "sk-".toList.isPrefixOf rest ∧ 20 ≤ body.length then some (3 + body.length) else none

/-- `AKIA[0-9A-Z]{16}`. -/
def akiaPattern (_ : Option Char) (rest : List Char) : Option Nat :=
  let body := (rest.drop 4).take 16
  if "AKIA".toList.isPrefixOf rest ∧ body.length = 16 ∧ body.all isUpperAlnum then some 20
  else none

/-- `\b9\d{2}-\d{2}-\d{4}\b`. -/
def ssnPattern (prev : Option Char) (rest : List Char) : Option Nat :=
  let isWordAt (c : Option Char) : Bool := c.any Unicode.isWord
  let shape : List (Char → Bool) :=
    [(· == '9'), Unicode.isDecimal, Unicode.isDecimal, (· == '-'), Unicode.isDecimal,
      Unicode.isDecimal, (· == '-'), Unicode.isDecimal, Unicode.isDecimal, Unicode.isDecimal,
      Unicode.isDecimal]
  if isWordAt prev != isWordAt rest.head? ∧ 11 ≤ rest.length ∧
      (shape.zipWith (fun p c => p c) rest).all id ∧
      isWordAt (rest.drop 10).head? != isWordAt (rest.drop 11).head? then some 11
  else none

/-- Every match of `_SECRET_PATTERNS` in `text`. -/
def credentialMatches (text : String) : List String :=
  [skPattern, akiaPattern, ssnPattern].flatMap fun pattern => findall pattern text

end Credentials

section Similarity

variable [MathSqrt]

/-- Cosine similarity; `zip(..., strict=True)` refuses vectors of different lengths, and a vector
of norm zero has similarity zero to every vector. -/
def cosine (left right : Embedding) : Except PyError ℚ :=
  if left.length < right.length then
    .error (.valueError "zip() argument 2 is longer than argument 1")
  else if right.length < left.length then
    .error (.valueError "zip() argument 2 is shorter than argument 1")
  else
    let dot := (List.zipWith (· * ·) left right).sum
    let leftNorm := MathSqrt.sqrt (left.map fun value => value * value).sum
    let rightNorm := MathSqrt.sqrt (right.map fun value => value * value).sum
    .ok (if leftNorm = 0 ∨ rightNorm = 0 then 0 else dot / (leftNorm * rightNorm))

end Similarity

/-- Contiguous token windows of `size`, or the whole list if it is no longer than that. -/
def tokenWindows (tokens : List String) (size : Nat) : List (List String) :=
  if size = 0 ∨ tokens.length ≤ size then [tokens]
  else (List.range (tokens.length - size + 1)).map fun start => (tokens.drop start).take size

/-- A pipeline over a manifest's markers.  What the source's `__init__` stores besides these four
fields is a function of them, and is defined below as one. -/
structure DetectionPipeline where
  markers : List Marker
  embed : String → Embedding
  judge : Judge
  threshold : ℚ

/-- What `__init__` accumulates over the entity markers. -/
structure EntityIndex where
  entityVectors : Dict String Embedding := ∅
  storedVectors : Dict String Embedding := ∅
  tokenCounts : Dict String Nat := ∅
  markerCount : Nat := 0

abbrev WindowCache := Dict String Embedding

section Pipeline

variable [Unicode]

def EntityIndex.add (embed : String → Embedding) (index : EntityIndex) (marker : Marker) :
    EntityIndex :=
  if marker.markerType = .entityCanary then
    let vector := embed marker.plaintext
    { entityVectors := index.entityVectors.set marker.markerId vector
      storedVectors :=
        match marker.embeddingRef with
        | some ref => index.storedVectors.set ref vector
        | none => index.storedVectors
      tokenCounts := (tokenize marker.plaintext).eraseDups.foldl
        (fun counts token => counts.set token (counts.getD token 0 + 1)) index.tokenCounts
      markerCount := index.markerCount + 1 }
  else index

namespace DetectionPipeline

variable (p : DetectionPipeline)

def entityIndex : EntityIndex := p.markers.foldl (EntityIndex.add p.embed) {}

/-- The template tokens, and every token that more than half of the entity markers, and at least
two, share. -/
def entityBoilerplate : List String :=
  entityTemplateTokens ++ (p.entityIndex.tokenCounts.items.filter fun entry =>
    2 ≤ entry.2 ∧ p.entityIndex.markerCount < 2 * entry.2).map Prod.fst

def foreign (observer : Principal) (markerType : MarkerType) : List Marker :=
  p.markers.filter fun marker => marker.markerType = markerType ∧ isCrossPrincipal marker observer

/-- A finding of the pipeline.  `detect` stamps the control classification afterwards. -/
def finding (marker : Marker) (observer : Principal) (surface : Surface) (probeId : String)
    (severity : Severity) (confidence : UnitRat) (status : FindingStatus) (evidence : String) :
    Finding :=
  let userSuffix :=
    match observer.userId with
    | some user => "-" ++ user.hex
    | none => ""
  { findingId := "finding-" ++ probeId ++ "-" ++ marker.markerId ++ "-" ++
      observer.tenantId.hex ++ userSuffix ++ "-" ++ surface.value
    probeId, severity, confidence, status
    ownerTenantId := marker.ownerTenantId
    observedInTenantId := observer.tenantId
    ownerUserId := marker.ownerUserId
    observedInUserId := observer.userId
    surface
    markerId := some marker.markerId
    evidenceSpan := evidence
    owaspLlm := "LLM08:2025" }

def exact (observer : Principal) (text : String) (surface : Surface) (probeId : String) :
    List Finding :=
  ((p.foreign observer .hardCanary).filter fun marker =>
    residualPresent marker.plaintext text).map fun marker =>
      finding marker observer surface probeId .critical UnitRat.one .confirmed
        marker.plaintext

/-- Whether the text carries a secret: as any canary, or as a credential-shaped token. -/
def carriesSecret (marker : Marker) (text : String) : Bool :=
  let needle := normalizeForMatch marker.plaintext
  residualPresent marker.plaintext text ||
    (needle ≠ "" && ((credentialMatches text).map normalizeForMatch).contains needle)

def secretFormat (observer : Principal) (text : String) (surface : Surface) (probeId : String) :
    List Finding :=
  ((p.foreign observer .secretCanary).filter fun marker => carriesSecret marker text).map
    fun marker => finding marker observer surface probeId .critical UnitRat.one .confirmed
      (redactSecret marker.plaintext)

/-- Branch 2: the cited span is in the observation, and shares a token with the marker that is
neither boilerplate nor all digits. -/
def spanTiesToMarker (text evidenceSpan : String) (marker : Marker) (boilerplate : List String) :
    Bool :=
  let spanTokens := tokenize evidenceSpan
  let distinctiveOverlap := spanTokens.filter fun token =>
    token ∈ tokenize marker.plaintext ∧ token ∉ boilerplate ∧ ¬token.toList.all Char.isDigit
  if spanTokens.isEmpty || distinctiveOverlap.isEmpty then false
  else orderedWithinSpan (tokenize text) spanTokens maxInterposedTokens

/-- Whether a judge's yes is tied to this marker: the marker's own tokens are in the observation,
or the cited span ties to the marker. -/
def spanTraceable (text evidenceSpan : String) (marker : Marker) (boilerplate : List String) :
    Bool :=
  let markerTokens := tokenize marker.plaintext
  if !markerTokens.isEmpty &&
      orderedWithinSpan (tokenize text) markerTokens maxInterposedTokens then true
  else spanTiesToMarker text evidenceSpan marker boilerplate

/-- The marker's vector: by its manifest `embedding_ref` when the store has it, else by marker
id. -/
def markerVector (marker : Marker) : Except PyError Embedding :=
  match marker.embeddingRef.bind p.entityIndex.storedVectors.lookup with
  | some vector => .ok vector
  | none =>
    match p.entityIndex.entityVectors.lookup marker.markerId with
    | some vector => .ok vector
    | none => .error (.keyError marker.markerId)

def windowVector (cache : WindowCache) (windowText : String) : Embedding × WindowCache :=
  match cache.lookup windowText with
  | some vector => (vector, cache)
  | none => (p.embed windowText, cache.set windowText (p.embed windowText))

variable [MathSqrt]

/-- The loop over windows, from the best score so far. -/
def bestWindow (markerVector : Embedding) :
    List (List String) → ℚ → WindowCache → Except PyError (ℚ × WindowCache)
  | [], best, cache => .ok (best, cache)
  | window :: windows, best, cache => do
    let (vector, cache) := p.windowVector cache (join " " window)
    let similarity ← cosine vector markerVector
    bestWindow markerVector windows (max best similarity) cache

def bestWindowSimilarity (observationTokens : List String) (marker : Marker)
    (cache : WindowCache) : Except PyError (ℚ × WindowCache) := do
  let vector ← p.markerVector marker
  let windowSize := (tokenize marker.plaintext).length
  p.bestWindow vector (tokenWindows observationTokens windowSize) 0 cache

/-- `Finding` refuses a confidence outside `[0, 1]`. -/
def validConfidence (confidence : ℚ) : Except PyError UnitRat :=
  if h : 0 ≤ confidence ∧ confidence ≤ 1 then .ok ⟨confidence, h⟩
  else .error (.validationError "confidence")

def interposedEvidence (marker : Marker) : String :=
  "the foreign marker " ++ Py.repr marker.plaintext ++ " appears in the " ++
    "observation with an interposed word, so it is present but not a verbatim substring"

def downgradedEvidence (rationale : String) : String :=
  "judge affirmed a leak but its cited evidence is not traceable " ++
    "in the observation; downgraded to a candidate: " ++ rationale

def isVerbatim (text : String) (marker : Marker) : Bool := residualPresent marker.plaintext text

def isPresent (text : String) (marker : Marker) : Bool :=
  isVerbatim text marker ||
    orderedWithinSpan (tokenize text) (tokenize marker.plaintext) maxInterposedTokens

def isJudged (text : String) (marker : Marker) : Bool :=
  (p.judge text marker).leak &&
    spanTraceable text (p.judge text marker).evidenceSpan marker p.entityBoilerplate

def isQuotable (text : String) (marker : Marker) : Bool :=
  let span := (p.judge text marker).evidenceSpan
  span ≠ "" && isIn span text && spanTiesToMarker text span marker p.entityBoilerplate

def isConfirmed (text : String) (marker : Marker) : Bool :=
  isPresent text marker || p.isJudged text marker

def evidence (text : String) (marker : Marker) : String :=
  let leak := p.judge text marker
  if p.isConfirmed text marker then
    if p.isJudged text marker && p.isQuotable text marker then leak.evidenceSpan
    else if isVerbatim text marker then marker.plaintext
    else interposedEvidence marker
  else if leak.leak then downgradedEvidence leak.rationale
  else leak.rationale

/-- One marker of the semantic loop.  The gate skips a marker that is not present and scores below
the threshold. -/
def semanticMarker (observer : Principal) (text : String) (surface : Surface) (probeId : String)
    (marker : Marker) (cache : WindowCache) : Except PyError (Option Finding × WindowCache) := do
  let (similarity, cache) ← p.bestWindowSimilarity (tokenize text) marker cache
  if !isPresent text marker && similarity < p.threshold then
    return (none, cache)
  let confirmed := p.isConfirmed text marker
  let confidence ← validConfidence
    (if isVerbatim text marker then 1 else roundTo 4 (min 1 similarity))
  return (some (finding marker observer surface probeId
    (if confirmed then .high else .info) confidence
    (if confirmed then .confirmed else .unverified) (p.evidence text marker)), cache)

def semanticLoop (observer : Principal) (text : String) (surface : Surface) (probeId : String) :
    List Marker → WindowCache → Except PyError (List Finding)
  | [], _ => .ok []
  | marker :: markers, cache => do
    let (found, cache) ← p.semanticMarker observer text surface probeId marker cache
    let rest ← semanticLoop observer text surface probeId markers cache
    return found.toList ++ rest

def semantic (observer : Principal) (text : String) (surface : Surface) (probeId : String) :
    Except PyError (List Finding) :=
  p.semanticLoop observer text surface probeId (p.foreign observer .entityCanary) ∅

/-- `finding.model_copy(update=...)` with the calling probe's classification. -/
def restamp (stamp : ControlStamp) (f : Finding) : Finding :=
  { f with
    owaspLlm := stamp.owaspLlm, owaspSecondary := stamp.owaspSecondary
    atlas := stamp.atlas, nist := stamp.nist }

/-- Every finding of one observation, by the principal in whose session it was made. -/
def detect (observer : Principal) (text : String) (surface : Surface) (probeId : String)
    (stamp : ControlStamp) : Except PyError (List Finding) := do
  let semanticFindings ← p.semantic observer text surface probeId
  return (p.exact observer text surface probeId ++ p.secretFormat observer text surface probeId ++
    semanticFindings).map (restamp stamp)

end DetectionPipeline

/-- The deterministic judge: a leak requires the marker's tokens in order, close together. -/
def fakeJudge : Judge := fun text marker =>
  let markerTokens := tokenize marker.plaintext
  if markerTokens.isEmpty then { leak := false, rationale := "empty marker" }
  else if orderedWithinSpan (tokenize text) markerTokens maxInterposedTokens then
    { leak := true, rationale := "marker tokens present in order in the observation"
      evidenceSpan := marker.plaintext }
  else { leak := false, rationale := "marker tokens not present in order within a short span" }

end Pipeline

end Sectum
