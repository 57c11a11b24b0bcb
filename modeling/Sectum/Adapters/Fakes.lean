import Sectum.Adapters.Keyword
import Sectum.Adapters.Session

/-! `sectum_ai.adapters.fakes`: the in-memory stack of offline runs.  A fake is what its constructor
is given, its leak knobs, and the state of a fake is what it stores.  The calls that a tenant or one
of its users makes are functions of the two and of the principal that makes them. -/

namespace Sectum

open Py

section Ranking

/-- `values[:stop]`, where a negative stop counts from the end. -/
def sliceUpTo {α : Type} (stop : Int) (values : List α) : List α :=
  if stop < 0 then values.take (values.length - stop.natAbs) else values.take stop.toNat

/-- The documents of each tenant, in the order in which the tenants first came. -/
abbrev Holdings := Dict UUID (List CorpusDocument)

def searchableText (document : CorpusDocument) : String :=
  join " " (document.title :: document.content :: document.metadata.items.map Prod.snd)

variable [Lower]

/-- `_overlap`: how many of the query's tokens the document has. -/
def overlap (query : String) (document : CorpusDocument) : Nat :=
  ((keywordTokens query).dedup.filter fun token =>
    token ∈ keywordTokens (searchableText document)).length

def hitOf (query : String) (owner : UUID) (document : CorpusDocument) : VectorHit where
  docId := document.docId
  tenantId := owner
  score := overlap query document
  content := document.content

/-- The order of `_rank`: the higher score first, then the smaller document id. -/
def VectorHit.before (hit other : VectorHit) : Prop :=
  other.score < hit.score ∨ hit.score = other.score ∧ hit.docId ≤ other.docId

instance (hit other : VectorHit) : Decidable (hit.before other) := by
  unfold VectorHit.before
  infer_instance

/-- `_rank` without a cut. -/
def rankAll (query : String) (candidates : List (UUID × CorpusDocument)) : List VectorHit :=
  ((candidates.filter fun candidate => 0 < overlap query candidate.2).map fun candidate =>
    hitOf query candidate.1 candidate.2).insertionSort VectorHit.before

end Ranking

section Vector

/-- `FakeVectorStore`, and `FakeAppApi`, which differs in the surface it speaks for. -/
structure FakeVectorStore where
  sharedIndex : Bool := false
  userScoped : Bool := false
  softDelete : Bool := false
  «recall» : ℚ := 1
  deriving DecidableEq, Repr

namespace FakeVectorStore

/-- The documents are replaced by id: those that come in are put behind those that stay. -/
def upsert (tenant : UUID) (documents : List CorpusDocument) (held : Holdings) : Holdings :=
  let incoming := Dict.ofItems (documents.map fun document => (document.docId, document))
  held.set tenant
    ((held.getD tenant []).filter (fun document => document.docId ∉ incoming) ++
      incoming.items.map Prod.snd)

variable (store : FakeVectorStore) (p : Principal) (held : Holdings)

/-- Every document with its tenant. -/
def pooled (held : Holdings) : List (UUID × CorpusDocument) :=
  held.items.flatMap fun entry => entry.2.map fun document => (entry.1, document)

/-- `_scope`: what the session of the principal reaches. -/
def scope : List (UUID × CorpusDocument) :=
  let candidates :=
    if store.sharedIndex then pooled held
    else (held.getD p.tenantId []).map fun document => (p.tenantId, document)
  if p.userId.isSome ∧ store.userScoped then
    candidates.filter fun candidate =>
      candidate.2.ownerUserId.isNone ∨ candidate.2.ownerUserId = p.userId
  else candidates

/-- `_recall_keep`: a number in `[0, 1)`. -/
def recallKeep [Hashlib] (query docId : String) : ℚ :=
  (((Hashlib.sha256 (utf8 (query ++ "|" ++ docId))).take 8).foldl
    (fun n byte => n * 256 + byte.toNat) 0 : ℕ) / 2 ^ 64

/-- Hits of the principal's own tenant always survive the recall filter, which is before the
cut. -/
def query [Lower] [Hashlib] (text : String) (k : Int) : List VectorHit :=
  let ranked := rankAll text (store.scope p held)
  if 1 ≤ store.recall then sliceUpTo k ranked
  else sliceUpTo k (ranked.filter fun hit =>
    hit.tenantId = p.tenantId ∨ recallKeep text hit.docId < store.recall)

def fetch (docId : String) : Option VectorHit :=
  ((store.scope p held).find? fun candidate => candidate.2.docId = docId).map fun candidate =>
    { docId := candidate.2.docId, tenantId := candidate.1, score := 1
      content := candidate.2.content }

def delete (tenant : UUID) : Holdings := if store.softDelete then held else held.erase tenant

end FakeVectorStore

end Vector

section Rag

structure FakeRAGPipeline where
  sharedIndex : Bool := false
  deriving DecidableEq, Repr

namespace FakeRAGPipeline

def index (tenant : UUID) (documents : List CorpusDocument) (held : Holdings) : Holdings :=
  held.set tenant (held.getD tenant [] ++ documents)

def ask [Lower] (pipeline : FakeRAGPipeline) (tenant : UUID) (query : String) (held : Holdings) :
    RagAnswer :=
  let candidates :=
    if pipeline.sharedIndex then FakeVectorStore.pooled held
    else (held.getD tenant []).map fun document => (tenant, document)
  let retrieved := (rankAll query candidates).take 3
  if retrieved = [] then { answer := "no relevant context found" }
  else { answer := join " | " (retrieved.map VectorHit.content), retrieved }

end FakeRAGPipeline

end Rag

section Cache

structure FakeCache where
  tenantScoped : Bool := true
  userScoped : Bool := false
  softDelete : Bool := false
  deriving DecidableEq, Repr

namespace FakeCache

variable (cache : FakeCache)

/-- `_key`. -/
def keyOf (p : Principal) (key : String) : String :=
  join ":" ((if cache.tenantScoped then [p.tenantId.str] else []) ++
    (if cache.userScoped then p.userId.toList.map UUID.str else []) ++ [key])

def get (p : Principal) (key : String) (store : Dict String String) : Option String :=
  store.lookup (cache.keyOf p key)

def set (p : Principal) (key value : String) (store : Dict String String) : Dict String String :=
  store.set (cache.keyOf p key) value

/-- The keys of a tenant, where the cache is scoped by tenant. -/
def isOf (tenant : UUID) (key : String) : Bool := (tenant.str ++ ":").toList.isPrefixOf key.toList

def values (tenant : UUID) (store : Dict String String) : List String :=
  if cache.tenantScoped then (store.items.filter fun entry => isOf tenant entry.1).map Prod.snd
  else store.items.map Prod.snd

def delete (tenant : UUID) (store : Dict String String) : Dict String String :=
  if cache.softDelete ∨ !cache.tenantScoped then store
  else
    ((store.items.map Prod.fst).filter (isOf tenant)).foldl (fun store key => store.erase key) store

end FakeCache

end Cache

section Notes

/-- The texts of each tenant, each with the user that wrote it. -/
abbrev Notes := Dict UUID (List (Option UUID × String))

/-- The notes that a session reaches: of one tenant or, where they are shared, of all; and of one
user and those of no user, where they are scoped by user. -/
def Notes.reach (shared userScoped : Bool) (p : Principal) (notes : Notes) :
    List (Option UUID × String) :=
  let corpus := if shared then notes.items.flatMap Prod.snd else notes.getD p.tenantId []
  if p.userId.isSome ∧ userScoped then
    corpus.filter fun note => note.1.isNone ∨ note.1 = p.userId
  else corpus

def Notes.add (p : Principal) (texts : List String) (notes : Notes) : Notes :=
  notes.set p.tenantId (notes.getD p.tenantId [] ++ texts.map fun text => (p.userId, text))

/-- The texts among them that share a token with the query. -/
def recalled [Lower] (query : String) (corpus : List (Option UUID × String)) : List String :=
  (corpus.filter fun note => keywordMatch query note.2).map Prod.snd

end Notes

section Memory

structure FakeMemory where
  sharedMemory : Bool := false
  userScoped : Bool := false
  softDelete : Bool := false
  deriving DecidableEq, Repr

namespace FakeMemory

variable (memory : FakeMemory)

def remember (p : Principal) (text : String) (notes : Notes) : Notes := notes.add p [text]

def «recall» [Lower] (p : Principal) (query : String) (notes : Notes) : List String :=
  recalled query (notes.reach memory.sharedMemory memory.userScoped p)

def delete (tenant : UUID) (notes : Notes) : Notes :=
  if memory.softDelete then notes else notes.erase tenant

end FakeMemory

end Memory

section Model

structure FakeModel where
  adapterBleed : Bool := false
  prefixCache : Bool := false
  userScoped : Bool := false
  softDelete : Bool := false
  deriving DecidableEq, Repr

/-- The adapters that were trained, and the prefixes that were seen. -/
structure ModelState where
  adapters : Notes := ∅
  warmedPrefixes : List String := []

namespace FakeModel

variable (model : FakeModel)

def trainAdapter (p : Principal) (texts : List String) (s : ModelState) : ModelState :=
  { s with adapters := s.adapters.add p texts }

/-- `_prefix`. -/
def prefixOf (prompt : String) : String := sliceTo 20 prompt

def recalledNothing : String := "the adapter recalled nothing for this prompt"

/-- Running a prompt warms the prefix cache for whoever asks next. -/
def warm (prompt : String) (s : ModelState) : ModelState :=
  { s with warmedPrefixes := prefixOf prompt :: s.warmedPrefixes }

def response [Lower] (p : Principal) (prompt : String) (s : ModelState) : String :=
  let texts := recalled prompt (s.adapters.reach model.adapterBleed model.userScoped p)
  if texts = [] then recalledNothing else join " " texts

/-- The first foreign tenant whose adapter matches the prompt, where the weights bleed. -/
def servedBy [Lower] (p : Principal) (prompt : String) (s : ModelState) : Option UUID :=
  if !model.adapterBleed then some p.tenantId
  else some ((s.adapters.items.find? fun entry =>
    entry.1 ≠ p.tenantId ∧ entry.2.any fun note => keywordMatch prompt note.2).map
      Prod.fst |>.getD p.tenantId)

def baseLatencyMs : ℚ := 100

def cacheHitSpeedupMs : ℚ := 60

/-- The jitter of a prompt is that of its last word. -/
def jitter [Unicode] [Hashlib] (prompt : String) : ℚ :=
  let key := ((split prompt).getLast?).getD prompt
  ((((Hashlib.sha256 (utf8 key)).take 2).foldl (fun n byte => n * 256 + byte.toNat) 0) % 16 : ℕ)

def latency [Unicode] [Hashlib] (prompt : String) (s : ModelState) : ℚ :=
  let latency := baseLatencyMs + jitter prompt
  if model.prefixCache ∧ prefixOf prompt ∈ s.warmedPrefixes then latency - cacheHitSpeedupMs
  else latency

def delete (tenant : UUID) (s : ModelState) : ModelState :=
  if model.softDelete then s else { s with adapters := s.adapters.erase tenant }

end FakeModel

end Model

section Traces

structure FakeObservability where
  softDelete : Bool := false
  noErasure : Bool := false
  deriving DecidableEq, Repr

/-- The traces of each tenant. -/
abbrev Traces := Dict UUID (List TraceHit)

namespace FakeObservability

variable (backend : FakeObservability)

/-- `record`, and the id of the trace. -/
def «record» (tenant : UUID) (project text : String) (traces : Traces) : String × Traces :=
  let held := traces.getD tenant []
  let traceId := "trace-" ++ sliceTo 8 tenant.hex ++ "-" ++ padded 4 held.length
  (traceId, traces.set tenant (held ++ [⟨traceId, project, text⟩]))

def searchTraces [Unicode] (tenant : UUID) (marker : String) (traces : Traces) : List TraceHit :=
  (traces.getD tenant []).filter fun trace => residualPresent marker trace.snippet

def fetchTrace (tenant : UUID) (traceId : String) (traces : Traces) : Option TraceHit :=
  (traces.getD tenant []).find? fun trace => trace.traceId = traceId

def delete (tenant : UUID) (traces : Traces) : Except Raised Unit × Traces :=
  if backend.noErasure then
    (.error ⟨.erasureUnsupported, "fake observability backend models a tracing service with no " ++
      "per-tenant erasure API; data is presumed retained"⟩, traces)
  else (.ok (), if backend.softDelete then traces else traces.erase tenant)

end FakeObservability

end Traces

section TextStores

/-- The texts of each tenant, as `FakeSearchIndex`, `FakeEvalSet` and `FakeBackup` keep them. -/
abbrev Texts := Dict UUID (List String)

/-- The three stores, of which only the backup may be without erasure. -/
structure FakeTextStore where
  softDelete : Bool := false
  noErasure : Bool := false
  deriving DecidableEq, Repr

namespace FakeTextStore

variable (store : FakeTextStore)

/-- `index` or `add`. -/
def add (tenant : UUID) (text : String) (texts : Texts) : Texts :=
  texts.set tenant (texts.getD tenant [] ++ [text])

def search [Lower] (tenant : UUID) (query : String) (texts : Texts) : List String :=
  (texts.getD tenant []).filter (keywordMatch query)

def delete (tenant : UUID) (texts : Texts) : Except Raised Unit × Texts :=
  if store.noErasure then
    (.error ⟨.erasureUnsupported, "the backup store exposes no per-tenant erasure API; data is " ++
      "presumed retained until the snapshot ages out"⟩, texts)
  else (.ok (), if store.softDelete then texts else texts.erase tenant)

end FakeTextStore

/-- `FakeSearchIndex(soft_delete=...)`. -/
def fakeSearchIndex (softDelete : Bool) : FakeTextStore := { softDelete }

/-- `FakeEvalSet(soft_delete=...)`. -/
def fakeEvalSet (softDelete : Bool) : FakeTextStore := { softDelete }

/-- `FakeBackup(soft_delete=..., no_erasure=...)`. -/
def fakeBackup (softDelete noErasure : Bool) : FakeTextStore := { softDelete, noErasure }

end TextStores

section Tools

/-- `UUID(text)`: it reads back what `str` and `hex` write. -/
class UuidText where
  parse : String → Option UUID
  parse_str (id : UUID) : parse id.str = some id
  parse_hex (id : UUID) : parse id.hex = some id

/-- The resources of each tenant, by key. -/
abbrev Resources := Dict UUID (Dict String String)

structure FakeAgent where
  confusedDeputy : Bool := false
  toolCallPassthrough : Bool := false
  deriving DecidableEq, Repr

namespace FakeAgent

variable (agent : FakeAgent)

def provision (tenant : UUID) (key value : String) (resources : Resources) : Resources :=
  resources.set tenant ((resources.getD tenant ∅).set key value)

/-- `[0-9a-fA-F-]+`. -/
def isTokenText (text : String) : Bool :=
  !text.toList.isEmpty && text.toList.all fun c =>
    c.isDigit || ('a' ≤ c && c ≤ 'f') || ('A' ≤ c && c ≤ 'F') || c == '-'

/-- `_AGENT_LOOKUP_RE`: the word `lookup`, a key, and perhaps `token=` with digits and dashes. -/
def lookupTask [Unicode] (task : String) : Option (String × Option String) :=
  if !"lookup".toList.isPrefixOf task.toList then none
  else
    match split task with
    | ["lookup", key] => some (key, none)
    | ["lookup", key, last] =>
      let token := sliceFrom 6 last
      if "token=".toList.isPrefixOf last.toList ∧ isTokenText token then some (key, some token)
      else none
    | _ => none

def lookup [UuidText] (tenant : UUID) (key : String) (token : Option String)
    (resources : Resources) : String :=
  if agent.confusedDeputy then
    ((resources.items.map Prod.snd).findSome? fun held => held.lookup key).getD ""
  else
    let effective :=
      if agent.toolCallPassthrough then (token.bind UuidText.parse).getD tenant else tenant
    (resources.getD effective ∅).getD key ""

def run [Unicode] [UuidText] (tenant : UUID) (task : String) (resources : Resources) :
    AgentResult :=
  match lookupTask task with
  | none => { output := "tenant " ++ tenant.str ++ " completed: " ++ task, toolCalls := ["noop"] }
  | some (key, token) =>
    { output := "tool returned: " ++ agent.lookup tenant key token resources
      toolCalls := ["lookup"] }

end FakeAgent

/-- A server's flaws. -/
structure FakeMCP where
  confusedDeputy : Bool := false
  tokenPassthrough : Bool := false
  descriptionInjection : Bool := false
  crossServerDeputy : Bool := false
  userScoped : Bool := false
  deriving DecidableEq, Repr

/-- What a server holds: resources, each with the user that owns it, and descriptions of its
tool. -/
structure McpState where
  resources : Dict UUID (Dict String (Option UUID × String)) := ∅
  toolDescriptions : Dict String String := ∅

namespace FakeMCP

def tools : List String := ["echo", "lookup", "search"]

def provision (tenant : UUID) (key value : String) (user : Option UUID) (s : McpState) : McpState :=
  { s with resources :=
      s.resources.set tenant ((s.resources.getD tenant ∅).set key (user, value)) }

def injectDescription (key description : String) (s : McpState) : McpState :=
  { s with toolDescriptions := s.toolDescriptions.set key description }

/-- `_DESCRIPTION_KEY_RE.search`: what follows the first `key=` that something follows. -/
def directive [Unicode] : List Char → Option String
  | [] => none
  | c :: cs =>
    let named := ((c :: cs).drop 4).takeWhile fun c => !Unicode.isSpace c
    if "key=".toList.isPrefixOf (c :: cs) ∧ named ≠ [] then some (String.ofList named)
    else directive cs

/-- `_resolve_global`. -/
def resolveGlobal (key : String) (s : McpState) : String :=
  (((s.resources.items.map Prod.snd).findSome? fun held => held.lookup key).map Prod.snd).getD ""

/-- `_effective_tenant`. -/
def effectiveTenant [UuidText] (server : FakeMCP) (tenant : UUID) (arguments : Dict String String) :
    UUID :=
  if server.tokenPassthrough then ((arguments.lookup "token").bind UuidText.parse).getD tenant
  else tenant

/-- `_lookup` and `_forward`: a server forwards what is to go `via` another to the next one. -/
def lookup [UuidText] :
    List (FakeMCP × McpState) → Principal → Dict String String → String
  | [], _, _ => ""
  | (server, s) :: downstream, p, arguments =>
    if "via" ∈ arguments ∧ downstream ≠ [] then
      let forwarded := arguments.erase "via"
      if server.crossServerDeputy then
        let owners := (downstream.head?.map fun next => next.2.resources.keys).getD []
        ((owners.map fun owner => lookup downstream ⟨owner, p.userId⟩ forwarded).find?
          fun output => output ≠ "").getD ""
      else lookup downstream p forwarded
    else
      let key := arguments.getD "key" ""
      if server.confusedDeputy then resolveGlobal key s
      else
        match (s.resources.getD (server.effectiveTenant p.tenantId arguments) ∅).lookup key with
        | none => ""
        | some (owner, value) =>
          if server.userScoped ∧ p.userId.isSome ∧ owner.isSome ∧ owner ≠ p.userId then ""
          else value

/-- `_search`. -/
def search [Unicode] [UuidText] (servers : List (FakeMCP × McpState)) (p : Principal)
    (arguments : Dict String String) : String :=
  match servers with
  | [] => ""
  | (server, s) :: _ =>
    let description := s.toolDescriptions.getD (arguments.getD "desc_key" "") ""
    match directive description.toList with
    | some key =>
      if server.descriptionInjection then resolveGlobal key s else lookup servers p arguments
    | none => lookup servers p arguments

def invoke [Unicode] [UuidText] (servers : List (FakeMCP × McpState)) (p : Principal)
    (tool : String) (arguments : Dict String String) : Except Raised McpResult :=
  if tool ∉ tools then .error ⟨.adapterError, "unknown tool: " ++ tool⟩
  else if tool = "echo" then .ok ⟨tool, arguments.getD "text" ""⟩
  else if tool = "search" then .ok ⟨tool, search servers p arguments⟩
  else .ok ⟨tool, lookup servers p arguments⟩

end FakeMCP

end Tools

end Sectum
