import Sectum.Adapters.Base

/-! `EmbedderBridge` of `sectum_ai.embeddings`: a batch embedder behind a call for one text. -/

namespace Sectum

open Py

inductive EmbedMode
  | document
  | query
  deriving DecidableEq, Repr

/-- What a provider raises. -/
inductive ProviderError
  | sectum (raised : Raised)
  | other (typeName : String)

/-- An embedding model, which may answer each of its requests as it likes. -/
structure EmbeddingModel (V : Type) where
  name : String
  embed : Nat → List String → Except ProviderError (List V)
  embedQueries : Option (Nat → List String → Except ProviderError (List V)) := none

variable {V : Type}

/-- The request of a mode; `embed_queries` where the mode is `query`. -/
def EmbeddingModel.ask (model : EmbeddingModel V) :
    EmbedMode → Nat → List String → Except ProviderError (List V)
  | .document => model.embed
  | .query => model.embedQueries.getD model.embed

/-- A model that embeds each text of a request on its own: an answer of the right length has the
vector of each text. -/
structure Provider (V : Type) extends EmbeddingModel V where
  vector : EmbedMode → String → V
  faithful : ∀ mode request texts vectors, toEmbeddingModel.ask mode request texts = .ok vectors →
    vectors.length = texts.length → vectors = texts.map (vector mode)

inductive BridgeError
  | raised (raised : Raised)
  | keyError (text : String)

/-- What a bridge keeps, and the requests that were sent so far with whether each succeeded. -/
structure BridgeState (V : Type) where
  documents : Dict String V := ∅
  queries : Dict String V := ∅
  queryTexts : List String := []
  sent : List (EmbedMode × List String × Bool) := []

namespace BridgeState

def cache (state : BridgeState V) : EmbedMode → Dict String V
  | .document => state.documents
  | .query => state.queries

/-- `cache.update` with the vectors of a batch. -/
def store (state : BridgeState V) (mode : EmbedMode) (chunk : List String) (vectors : List V) :
    BridgeState V :=
  let update (cache : Dict String V) :=
    (chunk.zip vectors).foldl (fun cache entry => cache.set entry.1 entry.2) cache
  match mode with
  | .document => { state with documents := update state.documents }
  | .query => { state with queries := update state.queries }

end BridgeState

structure EmbedderBridge (V : Type) where
  model : Provider V
  batchSize : Nat := 64
  batchSize_pos : 0 < batchSize := by decide

/-- `call_embedder`. -/
def callEmbedder [Unicode] (name : String) (embed : List String → Except ProviderError (List V))
    (texts : List String) : Except Raised (List V) :=
  match embed texts with
  | .error (.sectum raised) => .error raised
  | .error (.other typeName) =>
    .error ⟨.adapterError, "embedder " ++ Py.repr name ++ " failed (" ++ typeName ++
      "); check its model name, credentials and quota"⟩
  | .ok vectors =>
    if vectors.length ≠ texts.length then
      .error ⟨.adapterError, "embedder " ++ Py.repr name ++ " returned " ++ toString vectors.length ++
        " vectors for " ++ toString texts.length ++ " texts"⟩
    else .ok vectors

/-- The chunks that `iter_batches` goes through. -/
def chunksOf (size : Nat) (texts : List String) : List (List String) :=
  (List.range ((texts.length + size - 1) / size)).map fun k => (texts.drop (k * size)).take size

namespace EmbedderBridge

variable [Unicode] (bridge : EmbedderBridge V)

/-- One batch of `iter_batches`, and its vectors into the cache. -/
def embedBatch (mode : EmbedMode) (chunk : List String) : Call (BridgeState V) BridgeError Unit :=
  fun state =>
    match callEmbedder bridge.model.name (bridge.model.ask mode state.sent.length) chunk with
    | .error raised =>
      (.error (.raised raised), { state with sent := state.sent ++ [(mode, chunk, false)] })
    | .ok vectors =>
      (.ok (), { state.store mode chunk vectors with sent := state.sent ++ [(mode, chunk, true)] })

def embedBatches (mode : EmbedMode) : List (List String) → Call (BridgeState V) BridgeError Unit
  | [] => Call.pure ()
  | chunk :: chunks => (bridge.embedBatch mode chunk).bind fun _ => embedBatches mode chunks

/-- `_fill`. -/
def fill (mode : EmbedMode) (texts : List String) : Call (BridgeState V) BridgeError Unit :=
  fun state =>
    let missing := texts.eraseDups.filter fun text => text ∉ state.cache mode
    bridge.embedBatches mode (chunksOf bridge.batchSize missing) state

def prefetch (texts : List String) : Call (BridgeState V) BridgeError Unit :=
  bridge.fill .document texts

def prefetchQueries (texts : List String) : Call (BridgeState V) BridgeError Unit := fun state =>
  let texts := texts.eraseDups
  let unindexed := texts.filter fun text => text ∉ state.documents
  bridge.fill .query unindexed { state with queryTexts := state.queryTexts ++ texts }

/-- `cache[text]`. -/
def subscript (mode : EmbedMode) (text : String) : Call (BridgeState V) BridgeError V := fun state =>
  match (state.cache mode).lookup text with
  | some vector => (.ok vector, state)
  | none => (.error (.keyError text), state)

/-- `__call__`. -/
def call (text : String) : Call (BridgeState V) BridgeError V := fun state =>
  match (state.documents.lookup text).or (state.queries.lookup text) with
  | some cached => (.ok cached, state)
  | none =>
    if text ∈ state.queryTexts then
      ((bridge.prefetchQueries [text]).bind fun _ => subscript .query text) state
    else ((bridge.prefetch [text]).bind fun _ => subscript .document text) state

inductive Operation
  | prefetch (texts : List String)
  | prefetchQueries (texts : List String)
  | call (text : String)

/-- What an operation answers, if anything, and the bridge that it leaves. -/
def perform : Operation → Call (BridgeState V) BridgeError (Option V)
  | .prefetch texts => (bridge.prefetch texts).map fun _ => none
  | .prefetchQueries texts => (bridge.prefetchQueries texts).map fun _ => none
  | .call text => (bridge.call text).map some

/-- The bridge after some operations, of which each may have failed. -/
def after (history : List Operation) : BridgeState V :=
  history.foldl (fun state operation => (bridge.perform operation state).2) {}

end EmbedderBridge

end Sectum
