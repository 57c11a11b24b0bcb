import Sectum.Adapters.Session
import Sectum.Probes.Dedupe
import Sectum.Spec.Text

/-! `sectum_ai.runner`: the steps that a probe plans are sent to the adapters of their actions, and
what comes back is judged.

A user-level step on an adapter that does not carry the user is dropped, unless it is a plant, which
is sent as the tenant.  A probe none of whose judged steps can be sent asks the stack nothing, and
neither does one whose every plant vanished without anything having been observed. -/

namespace Sectum

open Py

/-- The adapters that a runner may be given, as a probe's `requires_adapters` names them. -/
inductive Slot
  | vector
  | cache
  | model
  | mcp
  | memory
  | rag
  | observability
  | agent
  deriving DecidableEq, Repr

def Slot.name : Slot → String
  | vector => "vector"
  | cache => "cache"
  | model => "model"
  | mcp => "mcp"
  | memory => "memory"
  | rag => "rag"
  | observability => "observability"
  | agent => "agent"

def slots : List Slot := [.vector, .cache, .model, .mcp, .memory, .rag, .observability, .agent]

/-- A probe: planning is a function of the substrate, and detection of one observation. -/
structure Probe where
  id : String
  requiresAdapters : List Slot := []
  plan : Substrate → List ProbeStep
  detect : ProbeStep → Observation → Substrate → List Finding

abbrev StepResult := ProbeStep × List Finding

structure Runner (σ : Type) where
  substrate : Substrate
  vector : Option (VectorSession σ) := none
  cache : Option (CacheSession σ) := none
  model : Option (ModelSession σ) := none
  mcp : Option (McpSession σ) := none
  memory : Option (MemorySession σ) := none
  rag : Option (RagSession σ) := none
  observability : Option (ObservabilitySession σ) := none
  agent : Option (AgentSession σ) := none

/-- What a runner keeps beside the world of its adapters.  `executed` is the trace of the steps that
were carried out, which the source does not keep. -/
structure RunnerState (σ : Type) where
  droppedUserSteps : Dict String Int := ∅
  unconfirmedPlants : Dict String Int := ∅
  executed : List StepResult := []
  world : σ

/-- The local variables of `run_per_step`. -/
structure RunTally where
  results : List StepResult := []
  dropped : Nat := 0
  planted : Nat := 0
  unconfirmed : Nat := 0

def plantActions : List String := ["vector.upsert", "cache.set", "model.train", "memory.write"]

namespace ProbeStep

def principal (step : ProbeStep) : Principal := ⟨step.actorTenantId, step.actorUserId⟩

def isPlant (step : ProbeStep) : Bool := step.action ∈ plantActions

end ProbeStep

def Raised.isAdapterError (e : Raised) : Bool :=
  e.errorClass = .adapterError ∨ e.errorClass = .erasureUnsupported

section Payload

variable [Unicode] [Decimals]

def payloadInt (step : ProbeStep) (key default : String) : Except Raised Int :=
  let raw := step.payload.getD key default
  match intOf raw with
  | some n => .ok n
  | none => .error ⟨.adapterError, "step " ++ step.stepId ++ " payload " ++ Py.repr key ++
      " must be an integer, got " ++ Py.repr raw⟩

omit [Decimals] in
def payloadRequired (step : ProbeStep) (key : String) : Except Raised String :=
  match step.payload.lookup key with
  | some value => .ok value
  | none => .error ⟨.adapterError, "step " ++ step.stepId ++
      " payload is missing required key " ++ Py.repr key⟩

end Payload

namespace Runner

variable {σ : Type} (runner : Runner σ)

/-- `getattr(self, f"_{slot}")`. -/
def adapter : Slot → Option Adapter
  | .vector => runner.vector.map VectorSession.toAdapter
  | .cache => runner.cache.map CacheSession.toAdapter
  | .model => runner.model.map ModelSession.toAdapter
  | .mcp => runner.mcp.map McpSession.toAdapter
  | .memory => runner.memory.map MemorySession.toAdapter
  | .rag => runner.rag.map RagSession.toAdapter
  | .observability => runner.observability.map ObservabilitySession.toAdapter
  | .agent => runner.agent.map AgentSession.toAdapter

def preflight [Unicode] (probe : Probe) : Except Raised Unit :=
  let missing := probe.requiresAdapters.filter fun slot => (runner.adapter slot).isNone
  if missing = [] then .ok ()
  else .error ⟨.configError, "probe " ++ Py.repr probe.id ++ " requires adapter(s) " ++
    join ", " ((missing.map Slot.name).insertionSort (· ≤ ·)) ++ ", but they are not configured"⟩

/-- `action.split(".", 1)[0]`. -/
def family (action : String) : String := String.ofList (action.toList.takeWhile (· ≠ '.'))

/-- The adapter of an action's family.  A family that names no adapter raises in the source too,
whether or not it is another attribute of the runner. -/
def adapterFor (action : String) : Except Raised Adapter :=
  match (slots.find? fun slot => slot.name = family action).bind runner.adapter with
  | some adapter => .ok adapter
  | none => .error ⟨.adapterError, "a " ++ action ++ " step needs a " ++ family action ++
      " adapter"⟩

section Send

/-- A user-level step on an adapter that cannot carry a user. -/
def droppable (step : ProbeStep) : Except Raised Bool :=
  if step.actorUserId.isNone then .ok false
  else (runner.adapterFor step.action).map fun adapter => !adapter.carriesUser

/-- `all(self._droppable(step) for step in steps)`, which stops at the first that is not. -/
def allDroppable : List ProbeStep → Except Raised Bool
  | [] => .ok true
  | step :: steps =>
    match runner.droppable step with
    | .error e => .error e
    | .ok false => .ok false
    | .ok true => allDroppable steps

/-- Whether no judged step can be sent. -/
def dropsWholeProbe (planned : List ProbeStep) : Except Raised Bool :=
  let judged := planned.filter fun step => !step.isPlant
  if judged = [] then .ok false else runner.allDroppable judged

/-- A planned step as it is sent, or `none` for one that is dropped. -/
def asSent (step : ProbeStep) : Except Raised (Option ProbeStep) :=
  (runner.droppable step).map fun dropped =>
    if !dropped then some step
    else if step.isPlant then some { step with actorUserId := none }
    else none

def stepsToSend [Unicode] (probe : Probe) : Except Raised (List ProbeStep) :=
  match runner.preflight probe with
  | .error e => .error e
  | .ok () =>
    let planned := probe.plan runner.substrate
    match runner.dropsWholeProbe planned with
    | .error e => .error e
    | .ok true => .ok []
    | .ok false => (planned.mapM runner.asSent).map List.reduceOption

end Send

section Execute

variable [Unicode] [Decimals] (step : ProbeStep)

def needs (text : String) {α : Type} : Call σ Raised α := .raise ⟨.adapterError, text⟩

def required (key : String) : Call σ Raised String := .lift (payloadRequired step key)

def observed (adapter : Adapter) (rawResponse : String) : Observation :=
  { stepId := step.stepId, surface := adapter.surface, rawResponse }

def outcomeOf (found : Bool) : AccessOutcome := if found then .returned else .empty

def vectorQuery : Call σ Raised Observation :=
  match runner.vector with
  | none => needs "a vector.query step needs a vector adapter"
  | some vector =>
    (Call.lift (payloadInt step "k" "5")).bind fun k =>
    (required step "query").bind fun query =>
    (vector.query step.principal query k).map fun hits =>
      observed step vector.toAdapter (join "\n" (hits.map VectorHit.content))

def vectorFetch : Call σ Raised Observation :=
  match runner.vector with
  | none => needs "a vector.fetch step needs a vector adapter"
  | some vector =>
    (required step "doc_id").bind fun docId =>
    (vector.fetch step.principal docId).map fun hit =>
      { observed step vector.toAdapter ((hit.map VectorHit.content).getD "") with
        accessOutcome := some (outcomeOf hit.isSome) }

def vectorUpsert : Call σ Raised Observation :=
  match runner.vector with
  | none => needs "a vector.upsert step needs a vector adapter"
  | some vector =>
    (required step "doc_id").bind fun docId =>
    (required step "content").bind fun content =>
    (vector.upsert step.actorTenantId
      [{ docId, tenantId := step.actorTenantId, docType := "poison", title := docId, content
         ownerUserId := step.actorUserId }]).map fun _ => observed step vector.toAdapter ""

def cacheSet : Call σ Raised Observation :=
  match runner.cache with
  | none => needs "a cache.set step needs a cache adapter"
  | some cache =>
    (required step "key").bind fun key =>
    (required step "value").bind fun value =>
    (cache.set step.principal key value).map fun _ => observed step cache.toAdapter ""

def cacheGet : Call σ Raised Observation :=
  match runner.cache with
  | none => needs "a cache.get step needs a cache adapter"
  | some cache =>
    (required step "key").bind fun key =>
    (cache.get step.principal key).map fun value =>
      { observed step cache.toAdapter (value.getD "") with
        accessOutcome := some (outcomeOf value.isSome) }

def modelTrain : Call σ Raised Observation :=
  match runner.model with
  | none => needs "a model.train step needs a model adapter"
  | some model =>
    (required step "text").bind fun text =>
    (model.trainAdapter step.principal [text]).map fun _ => observed step model.toAdapter ""

/-- The tenant that served an inference is recorded only when it is a foreign one. -/
def modelInfer : Call σ Raised Observation :=
  match runner.model with
  | none => needs "a model.infer step needs a model adapter"
  | some model =>
    (required step "prompt").bind fun prompt =>
    (model.infer step.principal prompt).bind fun response =>
    (model.servedBy step.principal prompt).map fun servedBy =>
      { observed step model.toAdapter response with
        structured := (servedBy.filter (· ≠ step.actorTenantId)).map fun tenant =>
          Dict.ofItems [("served_by_tenant", tenant.str)] }

def mcpInvoke : Call σ Raised Observation :=
  match runner.mcp with
  | none => needs "an mcp.invoke step needs an MCP adapter"
  | some mcp =>
    (required step "tool").bind fun tool =>
    (mcp.invoke step.principal tool (step.payload.erase "tool")).map fun result =>
      { observed step mcp.toAdapter result.output with
        accessOutcome := some (outcomeOf (result.output ≠ "")) }

def memoryWrite : Call σ Raised Observation :=
  match runner.memory with
  | none => needs "a memory.write step needs a memory adapter"
  | some memory =>
    (required step "text").bind fun text =>
    (memory.remember step.principal text).map fun _ => observed step memory.toAdapter ""

def memoryRecall : Call σ Raised Observation :=
  match runner.memory with
  | none => needs "a memory.recall step needs a memory adapter"
  | some memory =>
    (required step "query").bind fun query =>
    (memory.recall step.principal query).map fun recalled =>
      observed step memory.toAdapter (join "\n" recalled)

/-- The answer, and the context that the pipeline retrieved for it. -/
def ragAsk : Call σ Raised Observation :=
  match runner.rag with
  | none => needs "a rag.ask step needs a rag adapter"
  | some rag =>
    (required step "query").bind fun query =>
    (rag.ask step.actorTenantId query).map fun answer =>
      observed step rag.toAdapter
        (join "\n" (answer.answer :: answer.retrieved.map VectorHit.content))

def observabilitySearch : Call σ Raised Observation :=
  match runner.observability with
  | none => needs "an observability.search step needs an observability adapter"
  | some observability =>
    (required step "marker").bind fun marker =>
    (observability.searchTraces step.actorTenantId marker).map fun hits =>
      observed step observability.toAdapter (join "\n" (hits.map TraceHit.snippet))

def agentRun : Call σ Raised Observation :=
  match runner.agent with
  | none => needs "an agent.run step needs an agent adapter"
  | some agent =>
    (required step "task").bind fun task =>
    (agent.run step.actorTenantId task).map fun result =>
      { observed step agent.toAdapter result.output with
        accessOutcome := some (outcomeOf (result.output ≠ "")) }

def execute : Call σ Raised Observation :=
  match step.action with
  | "vector.query" => runner.vectorQuery step
  | "vector.fetch" => runner.vectorFetch step
  | "vector.upsert" => runner.vectorUpsert step
  | "cache.set" => runner.cacheSet step
  | "cache.get" => runner.cacheGet step
  | "model.train" => runner.modelTrain step
  | "model.infer" => runner.modelInfer step
  | "mcp.invoke" => runner.mcpInvoke step
  | "memory.write" => runner.memoryWrite step
  | "memory.recall" => runner.memoryRecall step
  | "rag.ask" => runner.ragAsk step
  | "observability.search" => runner.observabilitySearch step
  | "agent.run" => runner.agentRun step
  | action => .raise ⟨.adapterError, "runner cannot execute action: " ++ Py.repr action⟩

end Execute

section Plants

variable [Unicode] (step : ProbeStep)

/-- Reads a plant back as the principal that made it.  Training is not read back. -/
def plantReadBack : Call σ Raised Bool :=
  match step.action, runner.vector, runner.cache, runner.memory with
  | "vector.upsert", some vector, _, _ =>
    (required step "doc_id").bind fun docId =>
    (vector.fetch step.principal docId).bind fun hit =>
    (required step "content").map fun content =>
      hit.any fun hit => residualPresent content hit.content
  | "cache.set", _, some cache, _ =>
    (required step "key").bind fun key =>
    (cache.get step.principal key).bind fun cached =>
    (required step "value").map fun value => cached.any (residualPresent value)
  | "memory.write", _, _, some memory =>
    (required step "text").bind fun text =>
    (memory.recall step.principal text).map fun recalled => recalled.any (residualPresent text)
  | _, _, _, _ => .pure true

/-- Whether a plant can be read back; an adapter that cannot answer has not confirmed it. -/
def plantLanded : Call σ Raised Bool := fun world =>
  match runner.plantReadBack step world with
  | (.error e, world) => if e.isAdapterError then (.ok false, world) else (.error e, world)
  | (.ok landed, world) => (.ok landed, world)

end Plants

section Run

/-- A call to the adapters, which leaves what the runner keeps as it is. -/
def onWorld {α : Type} (call : Call σ Raised α) : Call (RunnerState σ) Raised α := fun s =>
  match call s.world with
  | (result, world) => (result, { s with world })

variable [Unicode] [Decimals] (probe : Probe)

/-- Whether the step was a plant, and whether it was one that did not land. -/
def checkPlant (step : ProbeStep) : Call (RunnerState σ) Raised (Bool × Bool) :=
  if step.isPlant then (onWorld (runner.plantLanded step)).map fun landed => (true, !landed)
  else .pure (false, false)

/-- The body of the loop for a step that is sent. -/
def sendStep (tally : RunTally) (step : ProbeStep) : Call (RunnerState σ) Raised RunTally :=
  (onWorld (runner.execute step)).bind fun observation =>
  (runner.checkPlant step).bind fun (plant, vanished) => fun s =>
    let result := (step, probe.detect step observation runner.substrate)
    (.ok { tally with
        results := tally.results ++ [result]
        planted := tally.planted + plant.toNat
        unconfirmed := tally.unconfirmed + vanished.toNat },
      { s with executed := s.executed ++ [result] })

/-- The loop over the planned steps. -/
def sendSteps : List ProbeStep → RunTally → Call (RunnerState σ) Raised RunTally
  | [], tally => .pure tally
  | step :: steps, tally =>
    (Call.lift (runner.asSent step)).bind fun
      | none => sendSteps steps { tally with dropped := tally.dropped + 1 }
      | some sent => (runner.sendStep probe tally sent).bind (sendSteps steps)

/-- `record[probe.id] = record.get(probe.id, 0) + count`. -/
def counted (record : Dict String Int) (count : Nat) : Dict String Int :=
  record.set probe.id (record.getD probe.id 0 + count)

def recordDropped (count : Nat) (s : RunnerState σ) : RunnerState σ :=
  { s with droppedUserSteps := counted probe s.droppedUserSteps count }

def recordUnconfirmed (count : Nat) (s : RunnerState σ) : RunnerState σ :=
  { s with unconfirmedPlants := counted probe s.unconfirmedPlants count }

/-- What follows the loop: the disclosures, and no result at all where every plant vanished and
nothing was observed. -/
def conclude (tally : RunTally) (s : RunnerState σ) : List StepResult × RunnerState σ :=
  let s := if tally.dropped = 0 then s else recordDropped probe tally.dropped s
  let observed := tally.results.any fun result => !(confirmedFindings result.2).isEmpty
  if tally.planted ≠ 0 ∧ tally.unconfirmed = tally.planted ∧ !observed then
    ([], recordUnconfirmed probe tally.unconfirmed s)
  else (tally.results, if tally.unconfirmed = 0 then s
    else recordUnconfirmed probe tally.unconfirmed s)

def runPerStep : Call (RunnerState σ) Raised (List StepResult) :=
  (Call.lift (runner.preflight probe)).bind fun _ =>
  let planned := probe.plan runner.substrate
  (Call.lift (runner.dropsWholeProbe planned)).bind fun dropped s =>
    if dropped then
      let userLevel := (planned.filter fun step => step.actorUserId.isSome).length
      (.ok [], recordDropped probe userLevel s)
    else
      match runner.sendSteps probe planned {} s with
      | (.error e, s) => (.error e, s)
      | (.ok tally, s) =>
        let (results, s) := conclude probe tally s
        (.ok results, s)

def run : Call (RunnerState σ) Raised (List Finding) :=
  (runner.runPerStep probe).map fun results => results.flatMap Prod.snd

end Run

end Runner

end Sectum
