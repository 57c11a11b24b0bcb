import Mathlib.Data.List.Sort
import Mathlib.Data.String.Basic
import Mathlib.Order.Basic

/-! The enumerations of `sectum_ai.spec.enums`.  Each is a `StrEnum` in the source, so a member's
`value` is the string that a record, a finding id and a message carry. -/

namespace Sectum

inductive MarkerType
  | hardCanary
  | entityCanary
  | secretCanary
  deriving DecidableEq, Repr

def MarkerType.value : MarkerType → String
  | hardCanary => "HARD_CANARY"
  | entityCanary => "ENTITY_CANARY"
  | secretCanary => "SECRET_CANARY"

inductive Severity
  | critical
  | high
  | medium
  | low
  | info
  deriving DecidableEq, Repr

namespace Severity

def value : Severity → String
  | critical => "critical"
  | high => "high"
  | medium => "medium"
  | low => "low"
  | info => "info"

/-- The rank of a severity: its entry in both `_SEVERITY_RANK` tables, and its index in
`_SEVERITY_ORDER`. -/
def rank : Severity → Nat
  | info => 0
  | low => 1
  | medium => 2
  | high => 3
  | critical => 4

theorem rank_injective : Function.Injective rank := by
  intro a b h
  cases a <;> cases b <;> first | rfl | simp [rank] at h

instance : LinearOrder Severity := LinearOrder.lift' rank rank_injective

theorem le_iff_rank {a b : Severity} : a ≤ b ↔ a.rank ≤ b.rank := Iff.rfl

end Severity

inductive FindingStatus
  | confirmed
  | unverified
  deriving DecidableEq, Repr

def FindingStatus.value : FindingStatus → String
  | confirmed => "confirmed"
  | unverified => "unverified"

inductive Surface
  | api
  | vectorDb
  | ragPipeline
  | promptLogs
  | semanticCache
  | kvCache
  | agentMemory
  | agentFramework
  | mcp
  | modelAdapter
  | evalSet
  | backup
  | searchIndex
  | tracing
  deriving DecidableEq, Repr

namespace Surface

def value : Surface → String
  | api => "api"
  | vectorDb => "vector_db"
  | ragPipeline => "rag_pipeline"
  | promptLogs => "prompt_logs"
  | semanticCache => "semantic_cache"
  | kvCache => "kv_cache"
  | agentMemory => "agent_memory"
  | agentFramework => "agent_framework"
  | mcp => "mcp"
  | modelAdapter => "model_adapter"
  | evalSet => "eval_set"
  | backup => "backup"
  | searchIndex => "search_index"
  | tracing => "tracing"

theorem value_injective : Function.Injective value := by
  intro a b h
  cases a <;> cases b <;> first | rfl | exact absurd h (by decide)

/-- Surfaces compare as their values do, which is what `sorted` sees. -/
instance : LinearOrder Surface := LinearOrder.lift' value value_injective

end Surface

/-- `ERASURE_SURFACES`: the surfaces an erasure scan can reach, in the order the scan reports
them. -/
def erasureSurfaces : List Surface :=
  [.vectorDb, .tracing, .agentMemory, .semanticCache, .modelAdapter, .searchIndex, .evalSet,
    .backup]

theorem erasureSurfaces_nodup : erasureSurfaces.Nodup := by decide

inductive SurfaceProvenance
  | live
  | synthetic
  deriving DecidableEq, Repr

def SurfaceProvenance.value : SurfaceProvenance → String
  | live => "LIVE"
  | synthetic => "SYNTHETIC"

inductive ScoreScope
  | configuredStack
  | syntheticStack
  | unrecorded
  deriving DecidableEq, Repr

inductive CoverageVerdict
  | erased
  | residual
  | attestableWithCaveat
  | notCovered
  deriving DecidableEq, Repr

def CoverageVerdict.value : CoverageVerdict → String
  | erased => "ERASED"
  | residual => "RESIDUAL"
  | attestableWithCaveat => "ATTESTABLE_WITH_CAVEAT"
  | notCovered => "NOT_COVERED"

/-- How a fetch at an authorization boundary resolved. -/
inductive AccessOutcome
  | returned
  | empty
  | denied
  deriving DecidableEq, Repr

inductive ClassVerdict
  | pass
  | fail
  | notCovered
  deriving DecidableEq, Repr

inductive Grade
  | A
  | B
  | C
  | D
  | F
  deriving DecidableEq, Repr

namespace Grade

/-- The index of a grade in `_GRADE_ORDER`, best first. -/
def index : Grade → Nat
  | A => 0
  | B => 1
  | C => 2
  | D => 3
  | F => 4

theorem index_injective : Function.Injective index := by
  intro a b h
  cases a <;> cases b <;> first | rfl | simp [index] at h

/-- `g ≤ h` when `h` is no better than `g`: the order of `_GRADE_ORDER`. -/
instance : LinearOrder Grade := LinearOrder.lift' index index_injective

theorem le_iff_index {a b : Grade} : a ≤ b ↔ a.index ≤ b.index := Iff.rfl

end Grade

inductive Confidence
  | high
  | medium
  | low
  deriving DecidableEq, Repr

end Sectum
