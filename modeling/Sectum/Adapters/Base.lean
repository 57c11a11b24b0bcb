import Sectum.Lib.Raise
import Sectum.Spec.Models

/-! The adapter families of `sectum_ai.adapters.base`.  An adapter speaks to a world of type `σ`:
each of its methods may answer anything or raise anything, and may leave any world behind. -/

namespace Sectum

open Py

inductive Capability
  | sharedIndex
  | perTenantNamespace
  | userScoped
  | softDelete
  | tenantScopedKeys
  | traceSearch
  | textSearch
  | toolInvocation
  | perTenantAdapter
  | sharedWeights
  | tenantScopedTools
  | perTenantMemory
  | sharedMemory
  | sharedPrefixCache
  | semanticRetrieval
  deriving DecidableEq, Repr

inductive ErrorClass
  | erasureUnsupported
  | notImplemented
  | adapterError
  | configError
  | other
  deriving DecidableEq, Repr

/-- An `Exception` that an adapter raised; `text` is its `str`, which may be empty. -/
structure Raised where
  errorClass : ErrorClass
  text : String
  deriving DecidableEq, Repr

structure VectorHit where
  docId : String
  tenantId : UUID
  score : ℚ
  content : String
  deriving DecidableEq, Repr

structure TraceHit where
  traceId : String
  project : String
  snippet : String
  deriving DecidableEq, Repr

variable (σ : Type)

structure VectorStoreAdapter where
  query : UUID → String → Nat → Call σ Raised (List VectorHit)
  fetch : UUID → String → Call σ Raised (Option VectorHit)
  delete : UUID → Call σ Raised Unit

structure ObservabilityAdapter where
  searchTraces : UUID → String → Call σ Raised (List TraceHit)
  fetchTrace : UUID → String → Call σ Raised (Option TraceHit) := fun _ _ world =>
    (.error ⟨.notImplemented, ""⟩, world)
  delete : UUID → Call σ Raised Unit

structure CacheAdapter where
  get : UUID → String → Call σ Raised (Option String)
  values : UUID → Call σ Raised (List String)
  delete : UUID → Call σ Raised Unit

structure ModelAdapter where
  capabilities : List Capability
  infer : UUID → String → Call σ Raised String
  delete : UUID → Call σ Raised Unit

def ModelAdapter.supports {σ : Type} (model : ModelAdapter σ) (capability : Capability) : Bool :=
  capability ∈ model.capabilities

structure MemoryAdapter where
  «recall» : UUID → String → Call σ Raised (List String)
  delete : UUID → Call σ Raised Unit

structure SearchIndexAdapter where
  search : UUID → String → Call σ Raised (List String)
  delete : UUID → Call σ Raised Unit

structure EvalSetAdapter where
  search : UUID → String → Call σ Raised (List String)
  delete : UUID → Call σ Raised Unit

structure BackupAdapter where
  search : UUID → String → Call σ Raised (List String)
  delete : UUID → Call σ Raised Unit

/-- A world that `uuid4()` draws from. -/
class Uuid4 where
  uuid4 : σ → UUID × σ

end Sectum
