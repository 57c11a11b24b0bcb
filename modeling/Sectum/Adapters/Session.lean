import Sectum.Adapters.Base

/-! The adapter families of `sectum_ai.adapters.base` as the runner drives them: a call names the
principal that makes it, and an adapter declares whether its backend receives the user. -/

namespace Sectum

open Py

/-- What every adapter declares. -/
structure Adapter where
  surface : Surface
  carriesUser : Bool := true
  deriving DecidableEq, Repr

structure RagAnswer where
  answer : String
  retrieved : List VectorHit := []
  deriving DecidableEq, Repr

structure McpResult where
  tool : String
  output : String
  deriving DecidableEq, Repr

structure AgentResult where
  output : String
  toolCalls : List String := []
  deriving DecidableEq, Repr

variable (σ : Type)

structure VectorSession extends Adapter where
  surface := .vectorDb
  upsert : UUID → List CorpusDocument → Call σ Raised Unit
  query : Principal → String → Int → Call σ Raised (List VectorHit)
  fetch : Principal → String → Call σ Raised (Option VectorHit)

structure CacheSession extends Adapter where
  surface := .semanticCache
  get : Principal → String → Call σ Raised (Option String)
  set : Principal → String → String → Call σ Raised Unit

structure ModelSession extends Adapter where
  surface := .modelAdapter
  trainAdapter : Principal → List String → Call σ Raised Unit
  infer : Principal → String → Call σ Raised String
  servedBy : Principal → String → Call σ Raised (Option UUID) := fun _ _ => .pure none

structure McpSession extends Adapter where
  surface := .mcp
  invoke : Principal → String → Dict String String → Call σ Raised McpResult

structure MemorySession extends Adapter where
  surface := .agentMemory
  remember : Principal → String → Call σ Raised Unit
  «recall» : Principal → String → Call σ Raised (List String)

structure RagSession extends Adapter where
  surface := .ragPipeline
  carriesUser := false
  ask : UUID → String → Call σ Raised RagAnswer

structure ObservabilitySession extends Adapter where
  surface := .tracing
  carriesUser := false
  searchTraces : UUID → String → Call σ Raised (List TraceHit)

structure AgentSession extends Adapter where
  surface := .agentFramework
  carriesUser := false
  run : UUID → String → Call σ Raised AgentResult

end Sectum
