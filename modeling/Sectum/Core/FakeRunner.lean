import Sectum.Adapters.FakesIsolation
import Sectum.Core.RunnerContract
import Sectum.Core.SubstrateSeeded

/-! The runner over the in-memory stack, and what a run comes to where every step is answered: the
steps of the plan one after the other, each judged on what it saw in the world that the steps before
it left. -/

namespace Sectum

open Py

section Answers

variable {σ : Type}

/-- How the adapters answer: what a step sees of a world, and the world that it leaves. -/
structure Responder (σ : Type) where
  seen : ProbeStep → σ → Observation
  next : ProbeStep → σ → σ

namespace Responder

variable (responder : Responder σ)

/-- The world after some steps. -/
def after (steps : List ProbeStep) (world : σ) : σ :=
  steps.foldl (fun world step => responder.next step world) world

/-- The steps with their findings, from a world. -/
def results (probe : Probe) (substrate : Substrate) : List ProbeStep → σ → List StepResult
  | [], _ => []
  | step :: steps, world =>
    (step, probe.detect step (responder.seen step world) substrate) ::
      results probe substrate steps (responder.next step world)

theorem mem_results {probe : Probe} {substrate : Substrate} {steps : List ProbeStep} {world : σ}
    {result : StepResult} : result ∈ responder.results probe substrate steps world ↔
      ∃ before step later, steps = before ++ step :: later ∧ result = (step, probe.detect step
        (responder.seen step (responder.after before world)) substrate) := by
  induction steps generalizing world with
  | nil => simp [results]
  | cons step steps ih =>
    rw [results, List.mem_cons, ih]
    constructor
    · rintro (rfl | ⟨before, other, later, rfl, rfl⟩)
      · exact ⟨[], step, steps, rfl, rfl⟩
      · exact ⟨step :: before, other, later, rfl, rfl⟩
    · rintro ⟨before, other, later, heq, rfl⟩
      cases before with
      | nil =>
        obtain ⟨rfl, rfl⟩ := List.cons.inj heq
        exact .inl rfl
      | cons first before =>
        obtain ⟨rfl, rfl⟩ := List.cons.inj heq
        exact .inr ⟨before, other, later, rfl, rfl⟩

end Responder

variable [Unicode] [Decimals]

/-- The adapters of a runner answer a step as the responder does; a plant is read back. -/
structure Answers (runner : Runner σ) (responder : Responder σ) (step : ProbeStep) : Prop where
  sent : runner.droppable step = .ok false
  executed : ∀ world, runner.execute step world =
    (.ok (responder.seen step world), responder.next step world)
  landed : step.isPlant = true → ∀ world,
    runner.plantLanded step (responder.next step world) = (.ok true, responder.next step world)

namespace Runner

variable {runner : Runner σ} {responder : Responder σ} {probe : Probe}

omit [Unicode] [Decimals] in
/-- No step on an adapter that carries the user is dropped. -/
theorem droppable_of_carries {step : ProbeStep} {slot : Slot} {keys : List String}
    {adapter : Adapter} (hreads : reads step.action = some (slot, keys))
    (hadapter : runner.adapter slot = some adapter) (hcarries : adapter.carriesUser = true) :
    runner.droppable step = .ok false := by
  unfold droppable adapterFor
  split
  · rfl
  · rw [find_family hreads, Option.bind_some, hadapter]
    simp only [Except.map, hcarries, Bool.not_true]

omit [Decimals] in
theorem required_eq {step : ProbeStep} {key value : String}
    (h : step.payload.lookup key = some value) :
    (required step key : Call σ Raised String) = Call.pure value := by
  unfold required payloadRequired
  rw [h]
  rfl

omit [Decimals] in
theorem plantLanded_of_readBack {step : ProbeStep} {world world' : σ} {landed : Bool}
    (h : runner.plantReadBack step world = (.ok landed, world')) :
    runner.plantLanded step world = (.ok landed, world') := by
  unfold plantLanded
  rw [h]

theorem sendStep_answers {step : ProbeStep} (h : Answers runner responder step) (tally : RunTally)
    (s : RunnerState σ) :
    let result := (step, probe.detect step (responder.seen step s.world) runner.substrate)
    runner.sendStep probe tally step s =
      (.ok { tally with
          results := tally.results ++ [result]
          planted := tally.planted + step.isPlant.toNat },
        { s with world := responder.next step s.world, executed := s.executed ++ [result] }) := by
  unfold sendStep checkPlant
  simp only [Call.bind, onWorld, h.executed]
  cases hplant : step.isPlant with
  | true => simp [Call.map, onWorld, h.landed hplant]
  | false => simp [Call.pure]

theorem sendSteps_answers {steps : List ProbeStep} (h : ∀ step ∈ steps, Answers runner responder step)
    (tally : RunTally) (s : RunnerState σ) : ∃ tally' s',
      runner.sendSteps probe steps tally s = (.ok tally', s') ∧
      tally'.results = tally.results ++
        responder.results probe runner.substrate steps s.world ∧
      tally'.unconfirmed = tally.unconfirmed := by
  induction steps generalizing tally s with
  | nil => exact ⟨tally, s, rfl, (List.append_nil _).symm, rfl⟩
  | cons step steps ih =>
    obtain ⟨hstep, hsteps⟩ := List.forall_mem_cons.mp h
    have hsent : runner.asSent step = .ok (some step) := by
      rw [asSent, hstep.sent]
      rfl
    let result := (step, probe.detect step (responder.seen step s.world) runner.substrate)
    obtain ⟨tally', s', hrun, hresults, hunconfirmed⟩ := ih hsteps
      { tally with
        results := tally.results ++ [result]
        planted := tally.planted + step.isPlant.toNat }
      { s with world := responder.next step s.world, executed := s.executed ++ [result] }
    refine ⟨tally', s', ?_, ?_, hunconfirmed⟩
    · unfold sendSteps
      rw [hsent, Call.lift_ok_bind]
      simp only [Call.bind, sendStep_answers hstep]
      exact hrun
    · rw [hresults, List.append_assoc]
      rfl

/-- Where every step of a plan is answered and every plant is read back, a run comes to the findings
of the steps. -/
theorem runPerStep_answers (hpreflight : runner.preflight probe = .ok ())
    (h : ∀ step ∈ probe.plan runner.substrate, Answers runner responder step)
    (s : RunnerState σ) : ∃ s', runner.runPerStep probe s =
      (.ok (responder.results probe runner.substrate (probe.plan runner.substrate) s.world), s') := by
  have hdrops : runner.dropsWholeProbe (probe.plan runner.substrate) = .ok false := by
    unfold dropsWholeProbe
    simp only
    split
    · rfl
    · rename_i hjudged
      obtain ⟨step, steps, heq⟩ := List.exists_cons_of_ne_nil hjudged
      have hstep : step ∈ probe.plan runner.substrate :=
        List.mem_of_mem_filter (heq ▸ List.mem_cons_self)
      rw [heq, allDroppable, (h step hstep).sent]
  obtain ⟨tally, s', hrun, hresults, hunconfirmed⟩ : ∃ tally s',
      runner.sendSteps probe (probe.plan runner.substrate) {} s = (.ok tally, s') ∧
      tally.results = [] ++
        responder.results probe runner.substrate (probe.plan runner.substrate) s.world ∧
      tally.unconfirmed = 0 := sendSteps_answers h {} s
  have hconcluded : (conclude probe tally s').1 = tally.results := by
    unfold conclude
    simp only
    rw [if_neg]
    rintro ⟨hplanted, hall, -⟩
    rw [hunconfirmed] at hall
    exact hplanted hall.symm
  refine ⟨(conclude probe tally s').2, ?_⟩
  have hresults' : responder.results probe runner.substrate (probe.plan runner.substrate) s.world =
      (conclude probe tally s').1 := by
    rw [hconcluded, hresults, List.nil_append]
  unfold runPerStep
  rw [hpreflight, Call.lift_ok_bind]
  simp only
  rw [hdrops, Call.lift_ok_bind]
  simp only [Bool.false_eq_true, if_false, hrun, hresults']

end Runner

end Answers

section Stack

namespace FakeStack

abbrev World : Type := ∀ family, State family

/-- A call that only reads what one of the fakes holds. -/
def asks {α : Type} (family : FakeFamily) (read : State family → α) : Call World Raised α :=
  fun world => (.ok (read (world family)), world)

/-- A call that writes to one of the fakes. -/
def tells (family : FakeFamily) (write : State family → State family) : Call World Raised Unit :=
  fun world => (.ok (), Function.update world family (write (world family)))

variable [Unicode] [Lower] [Hashlib] [UuidText] (stack : FakeStack)

def vectorSession : VectorSession World where
  upsert tenant documents := tells .vector (FakeVectorStore.upsert tenant documents)
  query p text k := asks .vector fun held => stack.vector.query p held text k
  fetch p docId := asks .vector fun held => stack.vector.fetch p held docId

def cacheSession : CacheSession World where
  get p key := asks .cache (stack.cache.get p key)
  set p key value := tells .cache (stack.cache.set p key value)

def modelSession : ModelSession World where
  trainAdapter p texts := tells .model (FakeModel.trainAdapter p texts)
  infer p prompt := fun world =>
    (.ok (stack.model.response p prompt (world .model)),
      Function.update world .model (FakeModel.warm prompt (world .model)))
  servedBy p prompt := asks .model (stack.model.servedBy p prompt)

def mcpSession : McpSession World where
  invoke p tool arguments := fun world =>
    (FakeMCP.invoke (stack.mcp.zip (world .mcp)) p tool arguments, world)

def memorySession : MemorySession World where
  remember p text := tells .memory (FakeMemory.remember p text)
  «recall» p query := asks .memory (stack.memory.recall p query)

def ragSession : RagSession World where
  ask tenant query := asks .rag (stack.rag.ask tenant query)

def observabilitySession : ObservabilitySession World where
  searchTraces tenant marker := asks .observability (FakeObservability.searchTraces tenant marker)

def agentSession : AgentSession World where
  run tenant task := asks .agent (stack.agent.run tenant task)

def runner (substrate : Substrate) : Runner World where
  substrate := substrate
  vector := some stack.vectorSession
  cache := some stack.cacheSession
  model := some stack.modelSession
  mcp := some stack.mcpSession
  memory := some stack.memorySession
  rag := some stack.ragSession
  observability := some observabilitySession
  agent := some stack.agentSession

end FakeStack

end Stack

section Corpus

namespace Substrate

variable (substrate : Substrate)

def documentsOf (tenant : UUID) : List CorpusDocument :=
  substrate.documents.filter fun document => document.tenantId = tenant

/-- `_load_corpus`: the documents of each tenant of the substrate. -/
def loadCorpus (held : Holdings) : Holdings :=
  substrate.tenants.foldl (fun held tenant =>
    FakeVectorStore.upsert tenant.tenantId (substrate.documentsOf tenant.tenantId) held) held

end Substrate

theorem FakeVectorStore.upsert_fresh {tenant : UUID} {documents : List CorpusDocument}
    {held : Holdings} (hfresh : tenant ∉ held)
    (hids : (documents.map CorpusDocument.docId).Nodup) :
    FakeVectorStore.upsert tenant documents held = held.set tenant documents := by
  have hnone : held.lookup tenant = none := AList.lookup_eq_none.mpr hfresh
  have hkeys : ((documents.map fun document => (document.docId, document)).map Prod.fst).Nodup := by
    rw [List.map_map]
    exact hids
  have hincoming : ((Dict.ofItems (documents.map fun document =>
      (document.docId, document))).items.map Prod.snd) = documents := by
    rw [Dict.items_ofItems hkeys, List.map_map]
    exact List.map_id documents
  unfold FakeVectorStore.upsert
  simp only
  rw [hincoming, Dict.getD, hnone]
  rfl

variable {substrate : Substrate}

/-- A loaded store holds the documents of each tenant. -/
theorem Substrate.Seeded.items_loadCorpus (h : substrate.Seeded) :
    (substrate.loadCorpus ∅).items =
      substrate.tenants.map fun tenant =>
        (tenant.tenantId, substrate.documentsOf tenant.tenantId) := by
  have hrun : ∀ (tenants : List SyntheticTenantSpec) (held : Holdings),
      (tenants.map SyntheticTenantSpec.tenantId).Nodup →
      (∀ tenant ∈ tenants, tenant.tenantId ∉ held) →
      (tenants.foldl (fun held tenant => FakeVectorStore.upsert tenant.tenantId
          (substrate.documentsOf tenant.tenantId) held) held).items =
        held.items ++ tenants.map fun tenant =>
          (tenant.tenantId, substrate.documentsOf tenant.tenantId) := by
    intro tenants
    induction tenants with
    | nil => simp
    | cons tenant tenants ih =>
      intro held hnodup hfresh
      obtain ⟨hother, hnodup⟩ := List.nodup_cons.mp hnodup
      obtain ⟨hfirst, hrest⟩ := List.forall_mem_cons.mp hfresh
      have hids : ((substrate.documentsOf tenant.tenantId).map CorpusDocument.docId).Nodup :=
        h.docIds.sublist (List.filter_sublist.map _)
      rw [List.foldl_cons, FakeVectorStore.upsert_fresh hfirst hids, ih _ hnodup ?_,
        Dict.items_set_of_notMem hfirst, List.append_assoc]
      · rfl
      · intro later hlater hmem
        rcases Dict.mem_set.mp hmem with heq | hmem
        · exact hother (heq ▸ List.mem_map_of_mem hlater)
        · exact hrest later hlater hmem
  have hload := hrun substrate.tenants ∅ h.tenants (fun tenant _ => by simp)
  exact hload

end Corpus

end Sectum
