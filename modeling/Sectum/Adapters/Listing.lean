import Sectum.Lib.JsonValue
import Sectum.Spec.Models

/-! `search_traces` of the backends that list one page (`sectum_ai.adapters.observability`: `datadog`,
`helicone`) and of `langfuse`, which reads page after page, over what the server answers. -/

namespace Sectum

open Py

/-- What a listing raises. -/
inductive ListingError
  | failed (detail : Units)
  | notObject (backend : String)
  | returned (backend : String) (detail : Units)
  | noData (backend : String)
  | capped (backend : String) (seen : Nat)
  | truncated (tenant : UUID)
  deriving DecidableEq

/-- How many traces `langfuse` reads, and how many of them a page has. -/
def traceLimit : Nat := 1000

def tracePage : Nat := 100

def ListingError.text : ListingError → Units
  | failed detail => detail
  | notObject backend => units (backend ++ " search response is not a JSON object")
  | returned backend detail => units (backend ++ " search returned an error: ") ++ detail
  | noData backend => units (backend ++ " search response carries no 'data' list")
  | capped backend seen =>
    units (backend ++ " listed " ++ toString seen ++ " traces, its page cap, so a trace beyond it " ++
      "cannot be told apart from an erased one; narrow the tenant's window or raise the cap")
  | truncated tenant =>
    units ("tenant " ++ tenant.hex ++ " has more than " ++ toString traceLimit ++
      " Langfuse traces; the listing budget was exhausted before the tenant's traces were, so no " ++
      "verdict about them can be complete")

structure ListedHit where
  traceId : Units
  project : Units
  snippet : Units
  deriving DecidableEq

section Page

/-- `value or other`. -/
def orElse (value : Option Json) (other : Json) : Json :=
  match value with
  | some value => if value.toBool then value else other
  | none => other

def isObject : Json → Bool
  | .obj _ => true
  | _ => false

/-- `_refuse_capped`. -/
def refuseCapped (backend : String) (seen cap : Nat) : Except ListingError Unit :=
  if cap ≤ seen then .error (.capped backend seen) else .ok ()

variable [Unicode] [FloatText]

/-- `_data_list`. -/
def dataList (payload : Json) (backend : String) : Except ListingError (List Json) :=
  if !isObject payload then .error (.notObject backend)
  else
    match ["error", "errors"].findSome? fun key => (payload.get key).filter Json.toBool with
    | some value => .error (.returned backend ((characters value.toStr).take 200).flatten)
    | none =>
      match payload.get "data" with
      | some (.arr data) => .ok data
      | _ => .error (.noData backend)

/-- The texts of the fields that say something. -/
def fieldTexts (row : Json) (keys : List String) : List Units :=
  keys.filterMap fun key => ((row.get key).filter Json.toBool).map Json.toStr

/-- The texts of the values of a dictionary. -/
def bagTexts : Json → List Units
  | .obj entries => entries.map fun entry => entry.2.toStr
  | _ => []

def joined (parts : List Units) : Units := (units " ").intercalate parts

/-- The text at a key of a dictionary. -/
def tagText (tags : Json) (key : String) (default : Units) : Units :=
  match tags with
  | .obj _ => ((tags.get key).map Json.toStr).getD default
  | _ => default

/-- A backend that answers with one page of rows. -/
structure PageBackend where
  name : String
  transport : String
  cap : Nat
  traceId : Json → Units
  owner : Json → Units → Units
  snippet : Json → Units

def spanLimit : Nat := 1000

/-- `_event_owner`. -/
def eventOwner (tenantTag : String) (event : Json) (default : Units) : Units :=
  let attributes := orElse (event.get "attributes") (.obj [])
  if isObject attributes then
    tagText (orElse (attributes.get "custom") (orElse (attributes.get "tags") (.obj []))) tenantTag
      default
  else default

/-- `_event_snippet`. -/
def eventSnippet (event : Json) : Units :=
  match event.get "attributes" with
  | some (.obj entries) =>
    let attributes : Json := .obj entries
    joined (fieldTexts attributes ["resource_name", "service", "name"] ++
      ["custom", "meta"].flatMap fun key => bagTexts ((attributes.get key).getD .null))
  | _ => []

def datadog (tenantTag : String) : PageBackend where
  name := "Datadog"
  transport := "datadog"
  cap := spanLimit
  traceId event := (orElse (event.get "id") (.text "")).toStr
  owner := eventOwner tenantTag
  snippet := eventSnippet

def requestLimit : Nat := 1000

def rowProperties (row : Json) : Json :=
  orElse (row.get "properties") (orElse (row.get "request_properties") (.obj []))

/-- `_row_snippet`. -/
def rowSnippet (row : Json) : Units :=
  joined (fieldTexts row ["request_body", "response_body", "request_path", "model"] ++
    bagTexts (rowProperties row))

def helicone (tenantProperty : String) : PageBackend where
  name := "Helicone"
  transport := "helicone"
  cap := requestLimit
  traceId row := (orElse (row.get "request_id") (orElse (row.get "id") (.text ""))).toStr
  owner row default := tagText (rowProperties row) tenantProperty default
  snippet := rowSnippet

namespace PageBackend

variable (backend : PageBackend)

/-- `_post`: the rows that are objects. -/
def post (response : Except ListingError Json) : Except ListingError (List Json) := do
  let payload ← response
  let data ← dataList payload backend.transport
  return data.filter isObject

def hit (tenant : UUID) (row : Json) : ListedHit :=
  ⟨backend.traceId row, backend.owner row (units tenant.hex), backend.snippet row⟩

/-- `search_traces`, where `present` is `residual_present`. -/
def searchTraces (present : Units → Units → Bool) (tenant : UUID) (marker : Units)
    (response : Except ListingError Json) : Except ListingError (List ListedHit) := do
  let rows ← backend.post response
  let hits := (rows.filter fun row => present marker (backend.snippet row)).map (backend.hit tenant)
  if hits = [] then refuseCapped backend.name rows.length backend.cap
  return hits

end PageBackend

end Page

section Langfuse

/-- A trace of the client; an attribute that it does not have is null. -/
structure LangfuseTrace where
  id : Json
  name : Json := .null
  input : Json := .null
  output : Json := .null
  metadata : Json := .null

/-- The client: the names of its projects, and the traces of each page. -/
structure LangfuseClient where
  projects : Except ListingError (List Units)
  pages : Nat → Except ListingError (List LangfuseTrace)

namespace LangfuseClient

variable (client : LangfuseClient)

/-- `_project_name`, which is asked for once. -/
def projectName (cached : Option Units) : Except ListingError Units :=
  match cached with
  | some name => .ok name
  | none => client.projects.map fun projects => projects.headD (units "langfuse")

/-- `_tenant_traces` from a page on, and whether the budget ran out first. -/
def tenantTraces (page : Nat) (traces : List LangfuseTrace) :
    Except ListingError (List LangfuseTrace × Bool) :=
  match client.pages page with
  | .error e => .error e
  | .ok batch =>
    if batch.isEmpty then .ok (traces, false)
    else if batch.length < tracePage then .ok (traces ++ batch, false)
    else if traceLimit ≤ (traces ++ batch).length then .ok (traces ++ batch, true)
    else tenantTraces (page + 1) (traces ++ batch)
termination_by traceLimit - traces.length
decreasing_by
  simp only [List.length_append, tracePage, traceLimit] at *
  omega

variable [Unicode] [FloatText]

/-- `_snippet`. -/
def snippet (trace : LangfuseTrace) : Units :=
  joined (([trace.name, trace.input, trace.output, trace.metadata].filter Json.toBool).map Json.toStr)

def hit (project : Units) (trace : LangfuseTrace) : ListedHit :=
  ⟨trace.id.toStr, project, snippet trace⟩

def searchTraces (present : Units → Units → Bool) (cached : Option Units) (tenant : UUID)
    (marker : Units) : Except ListingError (List ListedHit) := do
  let project ← client.projectName cached
  let (traces, truncated) ← client.tenantTraces 1 []
  let hits := (traces.filter fun trace => present marker (snippet trace)).map (hit project)
  if hits = [] ∧ truncated then .error (.truncated tenant)
  return hits

end LangfuseClient

end Langfuse

end Sectum
