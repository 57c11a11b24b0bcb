import Sectum.Core.Markers

/-! `sectum_ai.substrate.corpus`: the documents of a tenant, of which the pivot documents carry its
markers. -/

namespace Sectum

open Py

section Templates

def docTypes : List String :=
  ["hr_record", "sales_pipeline", "support_ticket", "contract", "meeting_notes"]

def firstNames : List String := ["Alex", "Sam", "Priya", "Jordan", "Lin", "Omar", "Nina", "Tomas"]

def lastNames : List String :=
  ["Reyes", "Patel", "Okafor", "Novak", "Brooks", "Suzuki", "Mwangi", "Vance"]

def localVendors : List String :=
  ["Apex Tooling", "Cedar Systems", "Riverbend Partners", "Summit Freight"]

/-- The slots of a filler template. -/
structure SlotValues where
  person : String
  industry : String
  vendor : String
  amount : String
  date : String
  compliance : String

/-- `_TEMPLATES`. -/
def fillerContent (docType : String) (slots : SlotValues) : String :=
  if docType = "hr_record" then
    "Employee " ++ slots.person ++ " completed the quarterly " ++ slots.industry ++
      " review. Manager notes: performance on track; compensation band confirmed."
  else if docType = "sales_pipeline" then
    "Opportunity with " ++ slots.vendor ++ " is in negotiation. Estimated value " ++ slots.amount ++
      ", expected close " ++ slots.date ++ ". Account owner: " ++ slots.person ++ "."
  else if docType = "support_ticket" then
    "Support ticket raised by " ++ slots.person ++ " regarding a " ++ slots.industry ++
      " workflow. Priority medium; vendor " ++ slots.vendor ++ " engaged for resolution."
  else if docType = "contract" then
    "Master service agreement with " ++ slots.vendor ++ ", effective " ++ slots.date ++
      ". Annual contract value " ++ slots.amount ++ "; " ++ slots.compliance ++
      " compliance required."
  else
    "Planning sync held " ++ slots.date ++ ". Attendee " ++ slots.person ++ " led the " ++
      slots.industry ++ " roadmap discussion, including " ++ slots.compliance ++
      " readiness. Actions logged."

/-- `_PIVOT_TEMPLATES`, and the generic template for another kind. -/
def pivotTemplate (kind label entity industry marker : String) : String :=
  if kind = "person" then
    "Internal " ++ label ++ " for the " ++ industry ++ " team. Primary point of contact: " ++
      entity ++ ". Reference: " ++ marker ++ "."
  else if kind = "vendor" then
    "Procurement " ++ label ++ " covering the active engagement with vendor " ++ entity ++
      ". Reference: " ++ marker ++ "."
  else if kind = "compliance_term" then
    "Compliance " ++ label ++ ": " ++ entity ++ " controls were reviewed for the " ++ industry ++
      " program. Reference: " ++ marker ++ "."
  else if kind = "amount" then
    "Finance " ++ label ++ ". Booked value " ++ entity ++ " against the " ++ industry ++
      " account. Reference: " ++ marker ++ "."
  else if kind = "date" then
    "Operations " ++ label ++ " logged on " ++ entity ++ " for the " ++ industry ++
      " workstream. Reference: " ++ marker ++ "."
  else
    "Internal " ++ label ++ " referencing " ++ entity ++ " in the " ++ industry ++
      " corpus. Reference: " ++ marker ++ "."

/-- `doc_type.replace("_", " ")`. -/
def docLabel (docType : String) : String := replace "_" " " docType

/-- `text.title()` on ASCII letters; `inWord` is whether a letter is before. -/
def titleChars : Bool → List Char → List Char
  | _, [] => []
  | inWord, c :: rest =>
    (if inWord then c.toLower else c.toUpper) :: titleChars c.isAlpha rest

def docTitle (docType : String) (index : Nat) : String :=
  String.ofList (titleChars false (docLabel docType).toList) ++ " #" ++ padded 4 index

example : docTitle "hr_record" 7 = "Hr Record #0007" := by decide +kernel

end Templates

section Slots

/-- The values of the shared entities, by kind. -/
def sharedValues (sharedEntities : List SharedEntity) : Dict String (List String) :=
  sharedEntities.foldl (fun shared entity =>
    shared.set entity.kind (shared.getD entity.kind [] ++ [entity.value])) ∅

variable {ρ : Type} [RandomSource ρ]

/-- A shared value of a kind, or one that is drawn. -/
def sharedOr (shared : Dict String (List String)) (use : Bool) (kind : String) (index : Nat)
    (draw : StateM ρ String) : StateM ρ String :=
  match use, shared.lookup kind with
  | true, some values => return values.getD (index % values.length) ""
  | _, _ => draw

def slotValues (tenantSpec : SyntheticTenantSpec) (shared : Dict String (List String))
    (index : Nat) : StateM ρ SlotValues := do
  let useShared : Bool := index % 2 = 0
  let person ← sharedOr shared (index % 3 = 0) "person" 0 do
    let first ← choice firstNames (by decide)
    let last ← choice lastNames (by decide)
    return first ++ " " ++ last
  let vendor ← sharedOr shared useShared "vendor" index (choice localVendors (by decide))
  let amount ← sharedOr shared useShared "amount" index do
    let thousands ← RandomSource.randint 20 970
    return "$" ++ toString thousands ++ ",000"
  let date ← sharedOr shared useShared "date" index do
    let month ← RandomSource.randint 1 9
    let day ← RandomSource.randint 10 28
    return "2026-" ++ padded 2 month ++ "-" ++ toString day
  let compliance ← sharedOr shared true "compliance_term" index (pure "internal policy")
  return { person, industry := tenantSpec.industry, vendor, amount, date, compliance }

end Slots

section Corpus

/-- What stops a substrate from being built. -/
inductive SubstrateError
  | configError (message : String)
  | library (e : Exn)
  deriving DecidableEq, Repr

def pivotRefusal (size count : Nat) : String :=
  "corpus_size (" ++ toString size ++ ") must be at least the markers-per-tenant count (" ++
    toString count ++ ") so every marker gets its own pivot document"

/-- The document of the marker at a position. -/
def pivotIndex (position size count : Nat) : Nat := position * size / count

/-- The pivot documents, by index: each has a marker, and the shared entities take turns. -/
def pivotAssignments (markers : List Marker) (sharedEntities : List SharedEntity) (size : Nat) :
    Except SubstrateError (Dict Nat (Marker × SharedEntity)) :=
  match sharedEntities with
  | [] => .ok ∅
  | first :: others =>
    if markers = [] then .ok ∅
    else if size < markers.length then .error (.configError (pivotRefusal size markers.length))
    else
      .ok (Dict.ofItems (markers.zipIdx.map fun entry =>
        (pivotIndex entry.2 size markers.length,
          (entry.1, (first :: others).getD (entry.2 % (first :: others).length) first))))

def shortId (tenantId : UUID) : String := sliceTo 8 tenantId.hex

def docIdOf (tenantId : UUID) (index : Nat) : String :=
  "doc-" ++ shortId tenantId ++ "-" ++ padded 4 index

/-- The locations of a marker in its document. -/
def plantedIn (docId : String) : List PlantedLocation :=
  ["body", "title", "metadata"].map fun field => ⟨docId, field⟩

def docTypeAt (index : Nat) : String := docTypes.getD (index % docTypes.length) ""

def baseMetadata (tenantSpec : SyntheticTenantSpec) (index : Nat) : Dict String String :=
  Dict.ofItems [("doc_type", docTypeAt index), ("tenant", tenantSpec.displayName)]

def pivotDocument (tenantSpec : SyntheticTenantSpec) (index : Nat) (marker : Marker)
    (entity : SharedEntity) : CorpusDocument where
  docId := docIdOf tenantSpec.tenantId index
  tenantId := tenantSpec.tenantId
  docType := docTypeAt index
  title := docTitle (docTypeAt index) index ++ " (ref " ++ marker.plaintext ++ ")"
  content := pivotTemplate entity.kind (docLabel (docTypeAt index)) entity.value tenantSpec.industry
    marker.plaintext
  metadata := (baseMetadata tenantSpec index).set "marker_ref" marker.plaintext
  markerIds := [marker.markerId]
  ownerUserId := marker.ownerUserId

def fillerDocument (tenantSpec : SyntheticTenantSpec) (index : Nat) (slots : SlotValues) :
    CorpusDocument where
  docId := docIdOf tenantSpec.tenantId index
  tenantId := tenantSpec.tenantId
  docType := docTypeAt index
  title := docTitle (docTypeAt index) index
  content := fillerContent (docTypeAt index) slots
  metadata := baseMetadata tenantSpec index

/-- The documents so far, and where each marker is planted. -/
structure Corpus where
  documents : List CorpusDocument
  locations : Dict String (List PlantedLocation)

variable {ρ : Type} [RandomSource ρ]

/-- One document of the loop of `generate_corpus`. -/
def corpusStep (tenantSpec : SyntheticTenantSpec) (shared : Dict String (List String))
    (pivots : Dict Nat (Marker × SharedEntity)) (corpus : Corpus) (index : Nat) :
    StateM ρ Corpus :=
  match pivots.lookup index with
  | some (marker, entity) =>
    return {
      documents := corpus.documents ++ [pivotDocument tenantSpec index marker entity]
      locations := corpus.locations.set marker.markerId
        (corpus.locations.getD marker.markerId [] ++ plantedIn (docIdOf tenantSpec.tenantId index)) }
  | none => do
    let slots ← slotValues tenantSpec shared index
    return { corpus with documents := corpus.documents ++ [fillerDocument tenantSpec index slots] }

def generateCorpus (tenantSpec : SyntheticTenantSpec) (rng : ρ) (markers : List Marker)
    (sharedEntities : List SharedEntity) : Except SubstrateError Corpus := do
  let pivots ← pivotAssignments markers sharedEntities tenantSpec.corpusSize
  let start : Corpus :=
    ⟨[], Dict.ofItems (markers.map fun marker => (marker.markerId, ([] : List PlantedLocation)))⟩
  return ((List.range tenantSpec.corpusSize).foldlM
    (corpusStep tenantSpec (sharedValues sharedEntities) pivots) start).run' rng

end Corpus

end Sectum
