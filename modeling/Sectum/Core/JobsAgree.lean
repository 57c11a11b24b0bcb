import Mathlib.Data.Fintype.Basic
import Mathlib.Data.Finset.Lattice.Fold
import Mathlib.Data.List.FinRange
import Sectum.Core.FakeRunner
import Sectum.Core.Jobs
import Sectum.Lib.Footprint
import Sectum.Probes.CatalogSound

/-! Jobs on a pool of threads over the in-memory stack.  Where no job writes to a fake that another
one reaches, the threads may take turns in any order: the jobs come to what they come to one after
the other. -/

namespace Sectum

open Py Tasks

section Footprints

namespace FakeStack

variable {uses writes : Set FakeFamily} {family : FakeFamily}

/-- The fake that fills a slot. -/
def familyOf : Slot → FakeFamily
  | .vector => .vector
  | .cache => .cache
  | .model => .model
  | .mcp => .mcp
  | .memory => .memory
  | .rag => .rag
  | .observability => .observability
  | .agent => .agent

/-- The fake that an action reaches. -/
def touched (action : String) : Set FakeFamily :=
  {family | ∃ slot keys, Runner.reads action = some (slot, keys) ∧ familyOf slot = family}

/-- The fake that an action changes: an inference plants nothing, but it warms the prefix cache. -/
def changed (action : String) : Set FakeFamily :=
  {family | family ∈ touched action ∧ (action ∈ plantActions ∨ action = "model.infer")}

theorem reads_within {α : Type} (h : family ∈ uses) (read : State family → Except Raised α) :
    Call.Within uses writes fun world : World => (read (world family), world) where
  answer hagree := by
    change read _ = read _
    rw [hagree family h]
  keeps hagree := hagree
  frame _ _ := rfl

theorem asks_within {α : Type} (h : family ∈ uses) (read : State family → α) :
    (asks family read).Within uses writes := reads_within h fun held => .ok (read held)

theorem tells_within (h : family ∈ writes) (write : State family → State family) :
    (tells family write).Within uses writes where
  answer _ := rfl
  keeps {w w'} hagree i hi := by
    change Function.update w family _ i = Function.update w' family _ i
    by_cases heq : i = family
    · subst heq
      rw [Function.update_self, Function.update_self, hagree i hi]
    · rw [Function.update_of_ne heq, Function.update_of_ne heq]
      exact hagree i hi
  frame {i} hi w := by
    apply Function.update_of_ne
    rintro rfl
    exact hi h

variable [Unicode] [Lower] [Hashlib] [UuidText] [Decimals] (stack : FakeStack)
  (substrate : Substrate) (step : ProbeStep)

omit [Unicode] [Hashlib] [UuidText] [Decimals] in
theorem infer_within (huses : FakeFamily.model ∈ uses) (hwrites : FakeFamily.model ∈ writes)
    (p : Principal) (prompt : String) :
    (stack.modelSession.infer p prompt).Within uses writes := by
  have heq : stack.modelSession.infer p prompt =
      (asks .model (stack.model.response p prompt)).bind fun response =>
        (tells .model (FakeModel.warm prompt)).map fun _ => response := rfl
  rw [heq]
  exact .bind (asks_within huses _) fun _ => .map (tells_within hwrites _) _

/-- A step reaches the fake of its action, and changes it where it writes to it. -/
theorem execute_within :
    ((stack.runner substrate).execute step).Within (touched step.action) (changed step.action) := by
  unfold Runner.execute
  split
  all_goals rename_i haction
  · have hmem : FakeFamily.vector ∈ touched step.action := ⟨.vector, _, by rw [haction]; rfl, rfl⟩
    simp only [Runner.vectorQuery, runner]
    refine .bind (.lift _) fun k => .bind (.lift _) fun text => .map ?_ _
    exact asks_within hmem fun held => stack.vector.query step.principal held text k
  · have hmem : FakeFamily.vector ∈ touched step.action := ⟨.vector, _, by rw [haction]; rfl, rfl⟩
    simp only [Runner.vectorFetch, runner]
    refine .bind (.lift _) fun docId => .map ?_ _
    exact asks_within hmem fun held => stack.vector.fetch step.principal held docId
  · have hmem : FakeFamily.vector ∈ changed step.action :=
      ⟨⟨.vector, _, by rw [haction]; rfl, rfl⟩, .inl (by rw [haction]; decide)⟩
    simp only [Runner.vectorUpsert, runner]
    refine .bind (.lift _) fun docId => .bind (.lift _) fun content => .map ?_ _
    exact tells_within hmem (FakeVectorStore.upsert step.actorTenantId _)
  · have hmem : FakeFamily.cache ∈ changed step.action :=
      ⟨⟨.cache, _, by rw [haction]; rfl, rfl⟩, .inl (by rw [haction]; decide)⟩
    simp only [Runner.cacheSet, runner]
    refine .bind (.lift _) fun key => .bind (.lift _) fun value => .map ?_ _
    exact tells_within hmem (stack.cache.set step.principal key value)
  · have hmem : FakeFamily.cache ∈ touched step.action := ⟨.cache, _, by rw [haction]; rfl, rfl⟩
    simp only [Runner.cacheGet, runner]
    refine .bind (.lift _) fun key => .map ?_ _
    exact asks_within hmem (stack.cache.get step.principal key)
  · have hmem : FakeFamily.model ∈ changed step.action :=
      ⟨⟨.model, _, by rw [haction]; rfl, rfl⟩, .inl (by rw [haction]; decide)⟩
    simp only [Runner.modelTrain, runner]
    refine .bind (.lift _) fun text => .map ?_ _
    exact tells_within hmem (FakeModel.trainAdapter step.principal [text])
  · have hmem : FakeFamily.model ∈ touched step.action := ⟨.model, _, by rw [haction]; rfl, rfl⟩
    simp only [Runner.modelInfer, runner]
    refine .bind (.lift _) fun prompt => .bind ?_ fun _ => .map ?_ _
    · have hchanged : FakeFamily.model ∈ changed step.action := ⟨hmem, .inr haction⟩
      exact infer_within stack hmem hchanged step.principal prompt
    · exact asks_within hmem (stack.model.servedBy step.principal prompt)
  · have hmem : FakeFamily.mcp ∈ touched step.action := ⟨.mcp, _, by rw [haction]; rfl, rfl⟩
    simp only [Runner.mcpInvoke, runner]
    refine .bind (.lift _) fun tool => .map ?_ _
    exact reads_within hmem fun held =>
      FakeMCP.invoke (stack.mcp.zip held) step.principal tool (step.payload.erase "tool")
  · have hmem : FakeFamily.memory ∈ changed step.action :=
      ⟨⟨.memory, _, by rw [haction]; rfl, rfl⟩, .inl (by rw [haction]; decide)⟩
    simp only [Runner.memoryWrite, runner]
    refine .bind (.lift _) fun text => .map ?_ _
    exact tells_within hmem (FakeMemory.remember step.principal text)
  · have hmem : FakeFamily.memory ∈ touched step.action := ⟨.memory, _, by rw [haction]; rfl, rfl⟩
    simp only [Runner.memoryRecall, runner]
    refine .bind (.lift _) fun query => .map ?_ _
    exact asks_within hmem (stack.memory.recall step.principal query)
  · have hmem : FakeFamily.rag ∈ touched step.action := ⟨.rag, _, by rw [haction]; rfl, rfl⟩
    simp only [Runner.ragAsk, runner]
    refine .bind (.lift _) fun query => .map ?_ _
    exact asks_within hmem (stack.rag.ask step.actorTenantId query)
  · have hmem : FakeFamily.observability ∈ touched step.action :=
      ⟨.observability, _, by rw [haction]; rfl, rfl⟩
    simp only [Runner.observabilitySearch, runner]
    refine .bind (.lift _) fun marker => .map ?_ _
    exact asks_within hmem (FakeObservability.searchTraces step.actorTenantId marker)
  · have hmem : FakeFamily.agent ∈ touched step.action := ⟨.agent, _, by rw [haction]; rfl, rfl⟩
    simp only [Runner.agentRun, runner]
    refine .bind (.lift _) fun task => .map ?_ _
    exact asks_within hmem (stack.agent.run step.actorTenantId task)
  · exact .raise _

omit [Decimals] in
/-- Reading a plant back reaches the fake of its action. -/
theorem plantLanded_within :
    ((stack.runner substrate).plantLanded step).Within (touched step.action)
      (changed step.action) := by
  have hback : ((stack.runner substrate).plantReadBack step).Within (touched step.action)
      (changed step.action) := by
    unfold Runner.plantReadBack
    split
    · rename_i vector haction hvector
      obtain rfl := Option.some.inj hvector
      have hmem : FakeFamily.vector ∈ touched step.action := ⟨.vector, _, by rw [haction]; rfl, rfl⟩
      refine .bind (.lift _) fun docId => .bind ?_ fun _ => .map (.lift _) _
      exact asks_within hmem fun held => stack.vector.fetch step.principal held docId
    · rename_i cache haction hcache
      obtain rfl := Option.some.inj hcache
      have hmem : FakeFamily.cache ∈ touched step.action := ⟨.cache, _, by rw [haction]; rfl, rfl⟩
      refine .bind (.lift _) fun key => .bind ?_ fun _ => .map (.lift _) _
      exact asks_within hmem (stack.cache.get step.principal key)
    · rename_i memory haction hmemory
      obtain rfl := Option.some.inj hmemory
      have hmem : FakeFamily.memory ∈ touched step.action := ⟨.memory, _, by rw [haction]; rfl, rfl⟩
      refine .bind (.lift _) fun text => .map ?_ _
      exact asks_within hmem (stack.memory.recall step.principal text)
    · exact .pure true
  have hlanded : (stack.runner substrate).plantLanded step = fun world =>
      ((match ((stack.runner substrate).plantReadBack step world).1 with
        | .error e => if e.isAdapterError then .ok false else .error e
        | .ok landed => .ok landed),
        ((stack.runner substrate).plantReadBack step world).2) := by
    funext world
    unfold Runner.plantLanded
    rcases (stack.runner substrate).plantReadBack step world with ⟨e | landed, after⟩
    · simp only
      split <;> rfl
    · rfl
  rw [hlanded]
  exact ⟨fun hagree => by simp only [hback.answer hagree], hback.keeps, hback.frame⟩

end FakeStack

end Footprints

section Views

namespace FakeStack

variable {uses writes : Set FakeFamily} {id : String} {α β : Type}

/-- What a job sees of the runner: the fakes that it reaches, and the counts under its probe's id. -/
def reached (uses : Set FakeFamily) (id : String) (s : RunnerState World) :
    (∀ family : uses, State family) × Int × Int :=
  (fun family => s.world family, s.droppedUserSteps.getD id 0, s.unconfirmedPlants.getD id 0)

theorem reached_eq {s s' : RunnerState World} : reached uses id s = reached uses id s' ↔
    AgreeOn uses s.world s'.world ∧
      s.droppedUserSteps.getD id 0 = s'.droppedUserSteps.getD id 0 ∧
      s.unconfirmedPlants.getD id 0 = s'.unconfirmedPlants.getD id 0 := by
  unfold reached
  rw [Prod.mk.injEq, Prod.mk.injEq]
  refine and_congr_left fun _ => ⟨fun h family hmem => congrFun h ⟨family, hmem⟩, fun h => ?_⟩
  funext family
  exact h family family.2

/-- A step that what the job sees decides, and that changes no other fakes than those it writes to
and no other counts than those of its probe. -/
structure Local (uses writes : Set FakeFamily) (id : String)
    (step : RunnerState World → α × RunnerState World) : Prop where
  answer {s s' : RunnerState World} : reached uses id s = reached uses id s' →
    (step s).1 = (step s').1
  keeps {s s' : RunnerState World} : reached uses id s = reached uses id s' →
    reached uses id (step s).2 = reached uses id (step s').2
  world {family : FakeFamily} : family ∉ writes → ∀ s, (step s).2.world family = s.world family
  counts {other : String} : other ≠ id → ∀ s,
    (step s).2.droppedUserSteps.getD other 0 = s.droppedUserSteps.getD other 0 ∧
      (step s).2.unconfirmedPlants.getD other 0 = s.unconfirmedPlants.getD other 0

namespace Local

theorem pure (a : α) : Local uses writes id fun s => (a, s) where
  answer _ := rfl
  keeps hseen := hseen
  world _ _ := rfl
  counts _ _ := ⟨rfl, rfl⟩

theorem congr {step step' : RunnerState World → α × RunnerState World}
    (h : Local uses writes id step) (heq : ∀ s, step s = step' s) : Local uses writes id step' := by
  rw [← funext heq]
  exact h

theorem andThen {step : RunnerState World → β × RunnerState World}
    {next : β → RunnerState World → α × RunnerState World} (h : Local uses writes id step)
    (hnext : ∀ b, Local uses writes id (next b)) :
    Local uses writes id fun s => next (step s).1 (step s).2 where
  answer hseen := by
    rw [h.answer hseen]
    exact (hnext _).answer (h.keeps hseen)
  keeps hseen := by
    rw [h.answer hseen]
    exact (hnext _).keeps (h.keeps hseen)
  world hfamily s := ((hnext _).world hfamily _).trans (h.world hfamily s)
  counts hother s := by
    obtain ⟨hdropped, hvanished⟩ := (hnext (step s).1).counts hother (step s).2
    obtain ⟨hdropped', hvanished'⟩ := h.counts hother s
    exact ⟨hdropped.trans hdropped', hvanished.trans hvanished'⟩

theorem onWorld {call : Call World Raised α} (h : call.Within uses writes) :
    Local uses writes id (Runner.onWorld call) where
  answer hseen := h.answer (reached_eq.mp hseen).1
  keeps hseen := by
    obtain ⟨hagree, hcounts⟩ := reached_eq.mp hseen
    exact reached_eq.mpr ⟨h.keeps hagree, hcounts⟩
  world hfamily s := h.frame hfamily s.world
  counts _ _ := ⟨rfl, rfl⟩

variable {probe : Probe}

theorem getD_counted {other : String} (hother : other ≠ probe.id) (record : Dict String Int)
    (count : Nat) : (Runner.counted probe record count).getD other 0 = record.getD other 0 := by
  unfold Runner.counted Dict.getD
  rw [Dict.lookup_set_ne _ _ hother]

theorem recordDropped (a : α) (count : Nat) :
    Local uses writes probe.id fun s => (a, Runner.recordDropped probe count s) where
  answer _ := rfl
  keeps {s s'} hseen := by
    obtain ⟨hagree, hdropped, hvanished⟩ := reached_eq.mp hseen
    refine reached_eq.mpr ⟨hagree, ?_, hvanished⟩
    change (Runner.counted probe _ _).getD _ _ = (Runner.counted probe _ _).getD _ _
    rw [Runner.counted_getD, Runner.counted_getD, hdropped]
  world _ _ := rfl
  counts hother s := ⟨getD_counted hother _ _, rfl⟩

theorem recordUnconfirmed (a : α) (count : Nat) :
    Local uses writes probe.id fun s => (a, Runner.recordUnconfirmed probe count s) where
  answer _ := rfl
  keeps {s s'} hseen := by
    obtain ⟨hagree, hdropped, hvanished⟩ := reached_eq.mp hseen
    refine reached_eq.mpr ⟨hagree, hdropped, ?_⟩
    change (Runner.counted probe _ _).getD _ _ = (Runner.counted probe _ _).getD _ _
    rw [Runner.counted_getD, Runner.counted_getD, hvanished]
  world _ _ := rfl
  counts hother s := ⟨rfl, getD_counted hother _ _⟩

theorem conclude (tally : RunTally) :
    Local uses writes probe.id (Runner.conclude probe tally) := by
  have hdropped : Local uses writes probe.id fun s =>
      ((), if tally.dropped = 0 then s else Runner.recordDropped probe tally.dropped s) := by
    split
    · exact .pure ()
    · exact .recordDropped () _
  unfold Runner.conclude
  simp only
  split
  · exact hdropped.andThen fun _ => .recordUnconfirmed [] _
  · by_cases hzero : tally.unconfirmed = 0
    · simp only [hzero, if_true]
      exact hdropped.andThen fun _ => .pure tally.results
    · simp only [hzero, if_false]
      exact hdropped.andThen fun _ => .recordUnconfirmed tally.results _

end Local

end FakeStack

end Views

section Jobs

namespace FakeStack

/-- The fakes that the steps of a plan reach. -/
def touchedBy (steps : List ProbeStep) : Set FakeFamily :=
  {family | ∃ step ∈ steps, family ∈ touched step.action}

/-- The fakes that the steps of a plan change. -/
def changedBy (steps : List ProbeStep) : Set FakeFamily :=
  {family | ∃ step ∈ steps, family ∈ changed step.action}

/-- A job has the steps of a plan before it. -/
def Stands (plan : List ProbeStep) : Job → Prop
  | .sending steps _ => steps ⊆ plan
  | .checking sent _ steps _ => (∃ step ∈ plan, sent.action = step.action) ∧ steps ⊆ plan
  | _ => True

variable [Unicode] [Lower] [Hashlib] [UuidText] [Decimals] {stack : FakeStack}
  {substrate : Substrate} {probe : Probe} {plan : List ProbeStep}

omit [Unicode] [Lower] [Hashlib] [UuidText] [Decimals] in
theorem within_mono {α : Type} {call : Call World Raised α} {step sent : ProbeStep}
    (hstep : step ∈ plan) (haction : sent.action = step.action)
    (h : call.Within (touched sent.action) (changed sent.action)) :
    call.Within (touchedBy plan) (changedBy plan) := by
  rw [haction] at h
  exact h.mono (fun family hmem => ⟨step, hstep, hmem⟩) (fun family hmem => ⟨step, hstep, hmem⟩)
    fun family hmem => hmem.1

omit [Unicode] [Lower] [Hashlib] [UuidText] [Decimals] in
theorem asSent_action {runner : Runner World} {step sent : ProbeStep}
    (h : runner.asSent step = .ok (some sent)) : sent.action = step.action := by
  rcases runner.asSent_eq_ok h with ⟨-, heq⟩ | ⟨-, ⟨-, heq⟩ | ⟨-, heq⟩⟩ <;> cases heq <;> rfl

theorem sendNext_local {step : ProbeStep} {steps : List ProbeStep} (tally : RunTally)
    (hstep : step ∈ plan) (id : String) :
    Local (touchedBy plan) (changedBy plan) id
      ((stack.runner substrate).sendNext step steps tally) := by
  unfold Runner.sendNext
  cases hsent : (stack.runner substrate).asSent step with
  | error e => exact .pure _
  | ok sent =>
    cases sent with
    | none => exact .pure _
    | some sent =>
      have hexecute := within_mono hstep (asSent_action hsent) (execute_within stack substrate sent)
      have hnext : ∀ result : Except Raised Observation,
          Local (touchedBy plan) (changedBy plan) id (Runner.carriedOut sent steps tally result) := by
        rintro (e | observation)
        · exact .pure _
        · exact .pure _
      exact (Local.onWorld hexecute).andThen hnext

omit [Decimals] in
theorem judge_local {sent step : ProbeStep} {observation : Observation} {steps : List ProbeStep}
    (tally : RunTally) (hstep : step ∈ plan) (haction : sent.action = step.action) (id : String) :
    Local (touchedBy plan) (changedBy plan) id
      ((stack.runner substrate).judge probe sent observation steps tally) := by
  have hlanded := within_mono hstep haction (plantLanded_within stack substrate sent)
  have hcheck : Local (touchedBy plan) (changedBy plan) id
      ((stack.runner substrate).checkPlant sent) := by
    unfold Runner.checkPlant
    split
    · have hnext : ∀ result : Except Raised Bool,
          Local (touchedBy plan) (changedBy plan) id fun s : RunnerState World =>
            (result.map fun landed => (true, !landed), s) := fun result => .pure _
      refine ((Local.onWorld hlanded).andThen hnext).congr fun s => ?_
      unfold Call.map
      rcases Runner.onWorld ((stack.runner substrate).plantLanded sent) s with ⟨e | landed, s₁⟩ <;>
        rfl
    · exact .pure _
  have htrace : ∀ (job : Job) (result : StepResult),
      Local (touchedBy plan) (changedBy plan) id fun s : RunnerState World =>
        (job, { s with executed := s.executed ++ [result] }) := fun job result =>
    ⟨fun _ => rfl, fun hreached => hreached, fun _ _ => rfl, fun _ _ => ⟨rfl, rfl⟩⟩
  have hnext : ∀ checked : Except Raised (Bool × Bool), Local (touchedBy plan) (changedBy plan) id
      ((stack.runner substrate).judged probe sent observation steps tally checked) := by
    rintro (e | ⟨plant, vanished⟩)
    · exact .pure _
    · exact htrace _ _
  exact hcheck.andThen hnext

/-- What a step of a job depends on and changes. -/
theorem advance_local {job : Job} (h : Stands (probe.plan substrate) job) :
    Local (touchedBy (probe.plan substrate)) (changedBy (probe.plan substrate)) probe.id
      ((stack.runner substrate).advance probe job) := by
  cases job with
  | waiting =>
    change Local _ _ _ ((stack.runner substrate).begin probe)
    unfold Runner.begin
    cases (stack.runner substrate).preflight probe with
    | error e => exact .pure _
    | ok =>
      simp only
      rcases (stack.runner substrate).dropsWholeProbe
        (probe.plan (stack.runner substrate).substrate) with e | ⟨_ | _⟩
      · exact .pure _
      · exact .pure _
      · exact .recordDropped _ _
  | sending steps tally =>
    cases steps with
    | nil =>
      exact (Local.conclude tally).andThen fun results => .pure (Job.finished (.ok results))
    | cons step steps => exact sendNext_local tally (h List.mem_cons_self) probe.id
  | checking sent observation steps tally =>
    obtain ⟨⟨step, hstep, haction⟩, -⟩ := h
    exact judge_local tally hstep haction probe.id
  | finished result => exact .pure _

theorem advance_stands {job : Job} (h : Stands (probe.plan substrate) job)
    (s : RunnerState World) :
    Stands (probe.plan substrate) ((stack.runner substrate).advance probe job s).1 := by
  cases job with
  | waiting =>
    simp only [Runner.advance, Runner.begin]
    cases (stack.runner substrate).preflight probe with
    | error e => trivial
    | ok =>
      simp only
      rcases (stack.runner substrate).dropsWholeProbe
        (probe.plan (stack.runner substrate).substrate) with e | ⟨_ | _⟩
      · trivial
      · exact List.Subset.refl _
      · trivial
  | sending steps tally =>
    cases steps with
    | nil => trivial
    | cons step steps =>
      obtain ⟨hstep, hsteps⟩ := List.cons_subset.mp h
      simp only [Runner.advance, Runner.sendNext]
      cases hsent : (stack.runner substrate).asSent step with
      | error e => trivial
      | ok sent =>
        cases sent with
        | none => exact hsteps
        | some sent =>
          simp only
          rcases (Runner.onWorld ((stack.runner substrate).execute sent) s).1 with e | observation
          · trivial
          · exact ⟨⟨step, hstep, asSent_action hsent⟩, hsteps⟩
  | checking sent observation steps tally =>
    simp only [Runner.advance, Runner.judge]
    rcases ((stack.runner substrate).checkPlant sent s).1 with e | ⟨plant, vanished⟩
    · trivial
    · exact h.2
  | finished result => trivial

/-- Two probes of which neither changes a fake that the other one reaches. -/
def Undisturbed (substrate : Substrate) (p q : Probe) : Prop :=
  ∀ family ∈ changedBy (q.plan substrate), family ∉ touchedBy (p.plan substrate)

theorem pool_apart {suite : List Probe} (hids : (suite.map Probe.id).Nodup)
    (hundisturbed : ∀ p ∈ suite, ∀ q ∈ suite, p.id ≠ q.id → Undisturbed substrate p q) :
    Tasks.Apart ((stack.runner substrate).pool suite) (fun i => Stands ((suite.get i).plan substrate))
      (fun i => reached (touchedBy ((suite.get i).plan substrate)) (suite.get i).id) where
  stays s h := advance_stands h s
  answer h hreached := (advance_local h).answer hreached
  keeps h hreached := (advance_local h).keeps hreached
  ignores {i j k} s hne h := by
    have hid : (suite.get i).id ≠ (suite.get j).id := by
      intro heq
      have hsame : suite.get i = suite.get j :=
        List.inj_on_of_nodup_map hids (List.get_mem _ _) (List.get_mem _ _) heq
      exact hne ((List.Nodup.of_map _ hids).get_inj_iff.mp hsame)
    have hlocal := @advance_local _ _ _ _ _ stack substrate (suite.get j) k h
    obtain ⟨hdropped, hvanished⟩ := hlocal.counts hid s
    refine reached_eq.mpr ⟨fun family hfamily => hlocal.world (fun hchanged => ?_) s, hdropped,
      hvanished⟩
    exact hundisturbed _ (List.get_mem _ _) _ (List.get_mem _ _) hid family hchanged hfamily

omit [Lower] [Hashlib] [UuidText] in
theorem pool_rests {runner : Runner World} {suite : List Probe} :
    Rests (runner.pool suite) Job.result? := by
  intro i job s hdone
  cases job with
  | finished result => rfl
  | waiting => cases hdone
  | sending steps tally => cases hdone
  | checking sent observation steps tally => cases hdone

/-- However the threads of a pool take turns, the jobs of a suite come to what they come to one after
the other: the results, or the first exception, and, where there is none, what each of them finds in
the stack and in the counts of the runner afterwards.  Every schedule that gives each job enough turns
comes to an end. -/
def ThreadsAgree (stack : FakeStack) (substrate : Substrate) (suite : List Probe)
    (s : RunnerState World) : Prop :=
  ∃ turns : ℕ, ∀ schedule : List (Fin suite.length),
    let after := ((stack.runner substrate).pool suite).after schedule (fun _ => .waiting, s)
    let threaded := ThreadJobRunner.collect
      ((List.finRange suite.length).map fun i => (after.1 i).result?)
    let serial := SerialJobRunner.map (stack.runner substrate).runPerStep suite s
    ((∀ i, turns ≤ schedule.count i) → threaded.isSome = true) ∧
      ∀ outcome, threaded = some outcome → outcome = serial.1 ∧
        ∀ results, outcome = .ok results → ∀ probe ∈ suite,
          reached (touchedBy (probe.plan substrate)) probe.id after.2 =
            reached (touchedBy (probe.plan substrate)) probe.id serial.2

/-- Jobs that do not disturb each other may run on threads. -/
theorem threadsAgree_of_undisturbed {suite : List Probe} (hids : (suite.map Probe.id).Nodup)
    (hundisturbed : ∀ p ∈ suite, ∀ q ∈ suite, p.id ≠ q.id → Undisturbed substrate p q)
    (s : RunnerState World) : ThreadsAgree stack substrate suite s := by
  let pool := (stack.runner substrate).pool suite
  let start : (Fin suite.length → Job) × RunnerState World := (fun _ => .waiting, s)
  have hapart : Tasks.Apart pool _ _ := pool_apart hids hundisturbed
  have hstands : ∀ i : Fin suite.length, Stands ((suite.get i).plan substrate) (start.1 i) :=
    fun _ => trivial
  have hreaches : ∀ i : Fin suite.length, ∃ n,
      (((pool.alone i)^[n] (start.1 i, start.2)).1.result?).isSome = true := by
    intro i
    obtain ⟨n, hn⟩ : Runner.Reaches (stack.runner substrate) (suite.get i) (.waiting, s) _ :=
      Runner.reaches_runPerStep s
    refine ⟨n, ?_⟩
    have halone : (pool.alone i)^[n] (start.1 i, start.2) = _ := hn
    rw [halone]
    rfl
  choose n hn using hreaches
  have houtcome := fun i => hapart.outcome pool_rests hstands (hn i)
  obtain ⟨order, r, hserial, hcollected, -⟩ :=
    @Runner.serial_schedule _ (stack.runner substrate) _ _ suite (List.finRange suite.length)
      (List.nodup_finRange _) start fun _ _ => rfl
  have hsuite : (List.finRange suite.length).map (fun i => suite.get i) = suite :=
    List.map_get_finRange suite
  rw [hsuite] at hserial
  have hagree : ∀ schedule outcome, ThreadJobRunner.collect ((List.finRange suite.length).map
      fun i => ((pool.after schedule start).1 i).result?) = some outcome → outcome = r := by
    intro schedule outcome hthreaded
    refine ThreadJobRunner.collect_agree (fun i _ a b ha hb => ?_) hthreaded hcollected
    rw [((houtcome i schedule).2 (Option.isSome_of_eq_some ha)).1] at ha
    rw [((houtcome i order).2 (Option.isSome_of_eq_some hb)).1] at hb
    exact Option.some.inj (ha.symm.trans hb)
  refine ⟨(Finset.univ : Finset (Fin suite.length)).sup n, fun schedule => ⟨fun hturns => ?_,
    fun outcome houtcome' => ⟨?_, fun results hresults probe hprobe => ?_⟩⟩⟩
  · apply ThreadJobRunner.collect_isSome
    intro job hjob
    obtain ⟨i, -, rfl⟩ := List.mem_map.mp hjob
    exact (houtcome i schedule).1 ((Finset.le_sup (Finset.mem_univ i)).trans (hturns i))
  · rw [hserial]
    exact hagree schedule outcome houtcome'
  · obtain rfl := hagree schedule outcome houtcome'
    obtain ⟨i, hi, rfl⟩ := List.getElem_of_mem hprobe
    have hmem : (⟨i, hi⟩ : Fin suite.length) ∈ List.finRange suite.length := List.mem_finRange _
    subst hresults
    obtain ⟨a, ha⟩ := ThreadJobRunner.finished_of_collect houtcome' _ (List.mem_map_of_mem hmem)
    obtain ⟨b, hb⟩ := ThreadJobRunner.finished_of_collect hcollected _ (List.mem_map_of_mem hmem)
    have hview := ((houtcome ⟨i, hi⟩ schedule).2 (Option.isSome_of_eq_some ha)).2
    have hview' := ((houtcome ⟨i, hi⟩ order).2 (Option.isSome_of_eq_some hb)).2
    rw [hserial]
    exact hview.trans hview'.symm

end FakeStack

end Jobs

section Catalog

namespace FakeStack

variable [Unicode] [MathSqrt] [UuidText] {providers : DetectionProviders} {attack other : Attack}

omit [Unicode] [MathSqrt] [UuidText] in
theorem isPlant_numbered {probe : DetectingProbe} {steps : List PlannedStep}
    (h : ∀ step ∈ steps, step.request.action ∉ plantActions) :
    ∀ step ∈ probe.numbered steps, step.isPlant = false := fun _ hstep =>
  decide_eq_false (h _ (DetectingProbe.planned_of_mem_numbered hstep))

/-- Of the probes of the vector store, only poisoning writes to it. -/
theorem vector_readers (h : attack ∈ attacks providers)
    (hvector : .vector ∈ attack.probe.requiresAdapters)
    (hid : attack.probe.id ≠ RagPoisoningProbe.declared.id) (substrate : Substrate) :
    ∀ step ∈ attack.probe.plan substrate, step.isPlant = false := by
  have hquery : "vector.query" ∉ plantActions := by decide
  have hfetch : "vector.fetch" ∉ plantActions := by decide
  simp only [attacks, List.mem_cons, List.not_mem_nil, or_false] at h
  rcases h with rfl | rfl | rfl | rfl | rfl | rfl | rfl | rfl | rfl | rfl | rfl | rfl
  · apply isPlant_numbered
    intro step hstep
    obtain ⟨marker, -, hstep⟩ := List.mem_flatMap.mp hstep
    obtain ⟨location, -, hstep⟩ := List.mem_flatMap.mp hstep
    obtain ⟨observer, -, rfl⟩ := List.mem_map.mp hstep
    exact hfetch
  · apply isPlant_numbered
    intro step hstep
    obtain ⟨entity, hrequest⟩ := Substrate.exists_of_mem_askedByEntity hstep
    rw [List.mem_singleton.mp hrequest]
    exact hquery
  · cases List.mem_singleton.mp hvector
  · exact absurd rfl hid
  · cases List.mem_singleton.mp hvector
  · apply isPlant_numbered
    intro step hstep
    obtain ⟨marker, hrequest⟩ := Substrate.exists_of_mem_askedByMarker hstep
    rw [List.mem_singleton.mp hrequest]
    exact hquery
  · cases List.mem_singleton.mp hvector
  · cases List.mem_singleton.mp hvector
  · cases List.mem_singleton.mp hvector
  · cases List.mem_singleton.mp hvector
  · apply isPlant_numbered
    intro step hstep
    obtain ⟨entity, hrequest⟩ := Substrate.exists_of_mem_askedByEntity hstep
    obtain ⟨turn, -, heq⟩ := List.mem_map.mp hrequest
    rw [← heq]
    exact hquery
  · apply isPlant_numbered
    intro step hstep
    obtain ⟨entity, -, hstep⟩ := List.mem_flatMap.mp hstep
    obtain ⟨observer, -, rfl⟩ := List.mem_map.mp hstep
    exact hquery

/-- A step of an attack reaches no fake but the one of the attack's adapter. -/
theorem touchedBy_attack (h : attack ∈ attacks providers) {substrate : Substrate}
    {family : FakeFamily} (hfamily : family ∈ touchedBy (attack.probe.plan substrate)) :
    ∃ slot ∈ attack.probe.requiresAdapters, familyOf slot = family := by
  obtain ⟨step, hstep, slot, keys, hreads, rfl⟩ := hfamily
  obtain ⟨other, hslot, keys', hreads', -⟩ :=
    ((plansAgainst_of_mem_attacks providers h substrate).wellFormed step hstep).known
  obtain ⟨rfl, -⟩ := Prod.mk.inj (Option.some.inj (hreads.symm.trans hreads'))
  exact ⟨slot, hslot, rfl⟩

/-- Two attacks on one adapter are both on the vector store. -/
theorem vector_of_shared (h : attack ∈ attacks providers) (hother : other ∈ attacks providers)
    (hid : attack.probe.id ≠ other.probe.id) {slot : Slot}
    (hslot : slot ∈ attack.probe.requiresAdapters) (hslot' : slot ∈ other.probe.requiresAdapters) :
    slot = .vector := by
  have hpairs : ∀ p ∈ (attacks providers).map fun attack =>
      (attack.probe.requiresAdapters, attack.probe.id),
      ∀ q ∈ (attacks providers).map fun attack =>
        (attack.probe.requiresAdapters, attack.probe.id),
      p.2 ≠ q.2 → ∀ slot ∈ p.1, slot ∈ q.1 → slot = .vector := by
    have hlisted : ((attacks providers).map fun attack =>
        (attack.probe.requiresAdapters, attack.probe.id)) =
      [([.vector], "tenant-boundary-fetch"), ([.vector], "rag-entity-bleed"),
        ([.rag], "rag-pipeline-bleed"), ([.vector], "rag-poisoning"),
        ([.cache], "semantic-cache-contamination"), ([.vector], "embedding-inversion"),
        ([.mcp], "agent-tool-hijack"), ([.agent], "agent-framework-hijack"),
        ([.memory], "memory-contamination"), ([.model], "lora-cross-tenant"),
        ([.vector], "ikea-extraction"), ([.vector], "multimodal-rag-bleed")] := rfl
    rw [hlisted]
    decide +kernel
  exact hpairs _ (List.mem_map_of_mem h) _ (List.mem_map_of_mem hother) hid slot hslot hslot'

/-- An attack is undisturbed by another one, poisoning next to a probe of the vector store apart. -/
theorem undisturbed_attacks (h : attack ∈ attacks providers) (hother : other ∈ attacks providers)
    (hid : attack.probe.id ≠ other.probe.id)
    (hpoison : other.probe.id = RagPoisoningProbe.declared.id →
      .vector ∉ attack.probe.requiresAdapters) (substrate : Substrate) :
    Undisturbed substrate attack.probe other.probe := by
  rintro family ⟨step, hstep, htouched, hchanges⟩ hreached
  obtain ⟨slot, hslot, rfl⟩ := touchedBy_attack h hreached
  obtain ⟨slot', hslot', hfamily⟩ := touchedBy_attack hother ⟨step, hstep, htouched⟩
  have hsame : slot' = slot := by
    revert hfamily
    cases slot <;> cases slot' <;> decide
  subst hsame
  obtain rfl := vector_of_shared h hother hid hslot hslot'
  have hreads := vector_readers hother hslot' (fun heq => hpoison heq hslot) substrate step hstep
  rcases hchanges with hplant | hinfer
  · exact absurd hplant (of_decide_eq_false hreads)
  · obtain ⟨slot, keys, hknown, hmodel⟩ := htouched
    rw [hinfer] at hknown
    obtain ⟨rfl, -⟩ := Prod.mk.inj (Option.some.inj hknown)
    cases hmodel

/-- A suite of the catalog may run on threads over the in-memory stack, unless it has poisoning beside
another probe of the vector store. -/
theorem catalog_threads [Lower] [Hashlib] [Decimals] (stack : FakeStack) (substrate : Substrate)
    {suite : List Attack} (hsuite : ∀ attack ∈ suite, attack ∈ attacks providers)
    (hids : (suite.map fun attack => attack.probe.id).Nodup)
    (hpoison : ∀ poison ∈ suite, poison.probe.id = RagPoisoningProbe.declared.id →
      ∀ attack ∈ suite, .vector ∈ attack.probe.requiresAdapters → attack.probe.id = poison.probe.id)
    (s : RunnerState World) : ThreadsAgree stack substrate (suite.map Attack.probe) s := by
  refine threadsAgree_of_undisturbed (by rwa [List.map_map]) ?_ s
  intro p hp q hq hid
  obtain ⟨attack, hattack, rfl⟩ := List.mem_map.mp hp
  obtain ⟨other, hother, rfl⟩ := List.mem_map.mp hq
  exact undisturbed_attacks (hsuite attack hattack) (hsuite other hother) hid
    (fun heq hvector => hid (hpoison other hother heq attack hattack hvector)) substrate

end FakeStack

end Catalog

section Sample

attribute [local instance] Unicode.ascii Lower.ascii Hashlib.real UuidText.digits Decimals.ascii
  JsonLimits.default FloatText.halves MathSqrt.exact RandomSource.zeros

/-- Every probe of the catalog but poisoning. -/
theorem FakeStack.catalog_threads_unpoisoned : ∃ substrate,
    let stack : FakeStack := {}
    let suite := (attacks denying).filter fun attack => attack.probe.id ≠ "rag-poisoning"
    buildSubstrate Unit (sampleScenario 1 2) = .ok substrate ∧ suite.length = 11 ∧
      ThreadsAgree stack substrate (suite.map Attack.probe)
        { world := Function.update (empty stack) .vector (substrate.loadCorpus ∅) } := by
  obtain ⟨substrate, hbuilt⟩ := sampleScenario_builds 1 2
  refine ⟨substrate, hbuilt, rfl, catalog_threads {} substrate (fun attack h => List.mem_of_mem_filter h)
    (by decide +kernel) (fun poison hmem hid => ?_) _⟩
  exact absurd hid (of_decide_eq_true (List.mem_filter.mp hmem).2)

end Sample

end Sectum
