import Mathlib.Data.List.ReduceOption
import Sectum.Core.Runner

/-! What a run of a probe sends, reports and discloses, for every plan, every set of adapters and
every detector. -/

namespace Sectum

open Py

namespace Runner

variable {σ : Type} (runner : Runner σ)

section Sending

theorem droppable_eq_false {step : ProbeStep} (h : runner.droppable step = .ok false)
    (huser : step.actorUserId ≠ none) :
    ∃ adapter, runner.adapterFor step.action = .ok adapter ∧ adapter.carriesUser = true := by
  unfold droppable at h
  rw [if_neg (by simpa [Option.isNone_iff_eq_none] using huser)] at h
  obtain ⟨adapter, hadapter, hcarries⟩ := map_eq_ok.mp h
  exact ⟨adapter, hadapter, by simpa using hcarries⟩

theorem asSent_eq_ok {step : ProbeStep} {sent : Option ProbeStep}
    (h : runner.asSent step = .ok sent) :
    runner.droppable step = .ok false ∧ sent = some step ∨
      runner.droppable step = .ok true ∧ (step.isPlant = true ∧
          sent = some { step with actorUserId := none } ∨ step.isPlant = false ∧ sent = none) := by
  obtain ⟨dropped, hdropped, rfl⟩ := map_eq_ok.mp h
  cases dropped with
  | false => exact Or.inl ⟨hdropped, rfl⟩
  | true =>
    refine Or.inr ⟨hdropped, ?_⟩
    cases hplant : step.isPlant with
    | true => exact Or.inl ⟨rfl, by simp⟩
    | false => exact Or.inr ⟨rfl, by simp⟩

/-- A step is sent with its own action, and with its user only to an adapter that carries it. -/
theorem asSent_eq_some {step sent : ProbeStep} (h : runner.asSent step = .ok (some sent)) :
    (sent.actorUserId ≠ none →
      ∃ adapter, runner.adapterFor sent.action = .ok adapter ∧ adapter.carriesUser = true) ∧
    sent.action = step.action ∧ sent.payload = step.payload := by
  rcases runner.asSent_eq_ok h with ⟨hdropped, hsent⟩ | ⟨-, ⟨-, hsent⟩ | ⟨-, hsent⟩⟩
  · obtain rfl := Option.some.inj hsent
    exact ⟨runner.droppable_eq_false hdropped, rfl, rfl⟩
  · obtain rfl := Option.some.inj hsent
    exact ⟨fun huser => absurd rfl huser, rfl, rfl⟩
  · cases hsent

theorem allDroppable_eq_false {steps : List ProbeStep}
    (h : runner.allDroppable steps = .ok false) :
    ∃ step ∈ steps, runner.droppable step = .ok false := by
  induction steps with
  | nil => cases h
  | cons step steps ih =>
    unfold allDroppable at h
    split at h
    · cases h
    · exact ⟨step, List.mem_cons_self, ‹_›⟩
    · obtain ⟨later, hlater, hdroppable⟩ := ih h
      exact ⟨later, List.mem_cons_of_mem step hlater, hdroppable⟩

/-- A probe with a judged step that is not dropped whole sends a judged step. -/
theorem dropsWholeProbe_eq_false {planned : List ProbeStep}
    (h : runner.dropsWholeProbe planned = .ok false)
    (hjudged : ∃ step ∈ planned, step.isPlant = false) :
    ∃ step ∈ planned, step.isPlant = false ∧ runner.asSent step = .ok (some step) := by
  obtain ⟨judged, hmem, hplant⟩ := hjudged
  unfold dropsWholeProbe at h
  rw [if_neg (List.ne_nil_of_mem (List.mem_filter.mpr ⟨hmem, by simpa using hplant⟩))] at h
  obtain ⟨step, hstep, hdroppable⟩ := runner.allDroppable_eq_false h
  obtain ⟨hstep, hjudged⟩ := List.mem_filter.mp hstep
  exact ⟨step, hstep, by simpa using hjudged, by unfold asSent; rw [hdroppable]; rfl⟩

/-- The steps of a plan, one after the other: each is dropped, or it is sent and gets findings. -/
inductive Sends : List ProbeStep → List StepResult → Nat → Prop
  | nil : Sends [] [] 0
  | drop {step : ProbeStep} {steps : List ProbeStep} {log : List StepResult} {dropped : Nat}
      (hstep : runner.asSent step = .ok none) (hsteps : Sends steps log dropped) :
      Sends (step :: steps) log (dropped + 1)
  | send {step sent : ProbeStep} {steps : List ProbeStep} {log : List StepResult} {dropped : Nat}
      (findings : List Finding) (hstep : runner.asSent step = .ok (some sent))
      (hsteps : Sends steps log dropped) :
      Sends (step :: steps) ((sent, findings) :: log) dropped

namespace Sends

variable {runner} {steps : List ProbeStep} {log : List StepResult} {dropped : Nat}

theorem length (h : Sends runner steps log dropped) : dropped + log.length = steps.length := by
  induction h with
  | nil => rfl
  | drop _ _ ih => rw [List.length_cons, ← ih]; omega
  | send _ _ _ ih => rw [List.length_cons, List.length_cons, ← ih]; omega

theorem carried (h : Sends runner steps log dropped) :
    ∀ result ∈ log, result.1.actorUserId ≠ none →
      ∃ adapter, runner.adapterFor result.1.action = .ok adapter ∧ adapter.carriesUser = true := by
  induction h with
  | nil => simp
  | drop _ _ ih => exact ih
  | send findings hstep _ ih =>
    exact List.forall_mem_cons.mpr ⟨(runner.asSent_eq_some hstep).1, ih⟩

theorem mem_of_sent (h : Sends runner steps log dropped) {step : ProbeStep} (hmem : step ∈ steps)
    (hsent : runner.asSent step = .ok (some step)) : ∃ result ∈ log, result.1 = step := by
  induction h with
  | nil => cases hmem
  | drop hstep _ ih =>
    rcases List.mem_cons.mp hmem with rfl | hmem
    · cases hstep.symm.trans hsent
    · exact ih hmem
  | send findings hstep _ ih =>
    rcases List.mem_cons.mp hmem with rfl | hmem
    · obtain rfl := Option.some.inj (Except.ok.inj (hstep.symm.trans hsent))
      exact ⟨_, List.mem_cons_self, rfl⟩
    · obtain ⟨result, hresult, rfl⟩ := ih hmem
      exact ⟨result, List.mem_cons_of_mem _ hresult, rfl⟩

/-- What is sent of a plan is what `_as_sent` makes of it. -/
theorem asSent (h : Sends runner steps log dropped) :
    (steps.mapM runner.asSent).map List.reduceOption = .ok (log.map Prod.fst) := by
  induction h with
  | nil => rfl
  | drop hstep _ ih =>
    obtain ⟨sents, hsents, heq⟩ := map_eq_ok.mp ih
    rw [List.mapM_cons, hstep, hsents, ← heq]
    rfl
  | send findings hstep _ ih =>
    obtain ⟨sents, hsents, heq⟩ := map_eq_ok.mp ih
    rw [List.mapM_cons, hstep, hsents, List.map_cons, ← heq]
    rfl

/-- What was carried out of a plan, by a run that returns or raises: the whole of it or what stands
before the step that raised. -/
theorem isPrefix {done rest : List ProbeStep} {log : List StepResult} {dropped : Nat}
    {sents : List ProbeStep} (h : Sends runner done log dropped)
    (hsents : ((done ++ rest).mapM runner.asSent).map List.reduceOption = .ok sents) :
    log.map Prod.fst <+: sents := by
  obtain ⟨all, hall, rfl⟩ := map_eq_ok.mp hsents
  rw [List.mapM_append] at hall
  obtain ⟨first, hfirst, hall⟩ := bind_eq_ok.mp hall
  obtain ⟨second, -, hpure⟩ := bind_eq_ok.mp hall
  obtain rfl := Except.ok.inj hpure
  have hlog := h.asSent
  rw [hfirst] at hlog
  rw [← Except.ok.inj hlog, List.reduceOption_append]
  exact List.prefix_append _ _

end Sends

end Sending

section Loop

variable [Unicode] [Decimals] (probe : Probe)

/-- What the runner keeps is the same in both states, but for the trace. -/
def SameRecords (s s' : RunnerState σ) : Prop :=
  s'.droppedUserSteps = s.droppedUserSteps ∧ s'.unconfirmedPlants = s.unconfirmedPlants

omit [Unicode] [Decimals] in
theorem onWorld_state {α : Type} (call : Call σ Raised α) (s : RunnerState σ) :
    (onWorld call s).2 = { s with world := (call s.world).2 } := rfl

omit [Decimals] in
theorem checkPlant_state (step : ProbeStep) (s : RunnerState σ) :
    ∃ world, (runner.checkPlant step s).2 = { s with world } := by
  unfold checkPlant
  split
  · exact ⟨_, (Call.map_state _ _ s).trans (onWorld_state _ s)⟩
  · exact ⟨s.world, rfl⟩

/-- One turn of the loop raises without a trace, or appends the step and its findings. -/
theorem sendStep_cases (tally : RunTally) (step : ProbeStep) (s : RunnerState σ) :
    (∃ e world, runner.sendStep probe tally step s = (.error e, { s with world })) ∨
      ∃ findings world tally', runner.sendStep probe tally step s =
          (.ok tally', { s with world, executed := s.executed ++ [(step, findings)] }) ∧
        tally'.results = tally.results ++ [(step, findings)] ∧ tally'.dropped = tally.dropped := by
  unfold sendStep
  rcases Call.bind_cases (onWorld (runner.execute step)) _ s with ⟨e, heq⟩ | ⟨observation, heq⟩
  · exact Or.inl ⟨e, _, heq⟩
  · rw [heq, onWorld_state]
    rcases Call.bind_cases (runner.checkPlant step) _ _ with ⟨e, heq⟩ | ⟨⟨plant, vanished⟩, heq⟩
    · rw [heq]
      obtain ⟨world, hworld⟩ := runner.checkPlant_state step
        { s with world := (runner.execute step s.world).2 }
      exact Or.inl ⟨e, world, by rw [hworld]⟩
    · rw [heq]
      obtain ⟨world, hworld⟩ := runner.checkPlant_state step
        { s with world := (runner.execute step s.world).2 }
      rw [hworld]
      exact Or.inr ⟨_, world, _, rfl, rfl, rfl⟩

/-- The loop carries out its plan up to a step that raises, and all of it when none does. -/
theorem sendSteps_sends (steps : List ProbeStep) (tally : RunTally) (s : RunnerState σ) :
    ∃ done rest log dropped, steps = done ++ rest ∧ Sends runner done log dropped ∧
      (runner.sendSteps probe steps tally s).2.executed = s.executed ++ log ∧
      SameRecords s (runner.sendSteps probe steps tally s).2 ∧
      ∀ tally', (runner.sendSteps probe steps tally s).1 = .ok tally' →
        rest = [] ∧ tally'.results = tally.results ++ log ∧
          tally'.dropped = tally.dropped + dropped := by
  induction steps generalizing tally s with
  | nil =>
    refine ⟨[], [], [], 0, rfl, .nil, (List.append_nil _).symm, ⟨rfl, rfl⟩, ?_⟩
    rintro tally' h
    obtain rfl := Except.ok.inj h
    exact ⟨rfl, (List.append_nil _).symm, rfl⟩
  | cons step steps ih =>
    unfold sendSteps Call.bind Call.lift
    rcases hsent : runner.asSent step with e | _ | sent
    · exact ⟨[], step :: steps, [], 0, rfl, .nil, (List.append_nil _).symm, ⟨rfl, rfl⟩,
        fun tally' h => by cases h⟩
    · obtain ⟨done, rest, log, dropped, rfl, hsends, hexecuted, hrecords, hok⟩ :=
        ih { tally with dropped := tally.dropped + 1 } s
      refine ⟨step :: done, rest, log, dropped + 1, rfl, .drop hsent hsends, hexecuted, hrecords,
        fun tally' h => ?_⟩
      obtain ⟨hrest, hresults, hdropped⟩ := hok tally' h
      exact ⟨hrest, hresults, by rw [hdropped]; simp only; omega⟩
    · simp only
      rcases runner.sendStep_cases probe tally sent s with ⟨e, world, hstep⟩ |
        ⟨findings, world, tally₁, hstep, hresults₁, hdropped₁⟩
      · rw [hstep]
        exact ⟨[], step :: steps, [], 0, rfl, .nil, (List.append_nil _).symm, ⟨rfl, rfl⟩,
          fun tally' h => by cases h⟩
      · rw [hstep]
        obtain ⟨done, rest, log, dropped, rfl, hsends, hexecuted, hrecords, hok⟩ := ih tally₁
          { s with world, executed := s.executed ++ [(sent, findings)] }
        refine ⟨step :: done, rest, (sent, findings) :: log, dropped, rfl,
          .send findings hsent hsends, ?_, hrecords, fun tally' h => ?_⟩
        · exact hexecuted.trans (by simp)
        · obtain ⟨hrest, hresults, hdropped⟩ := hok tally' h
          exact ⟨hrest, by rw [hresults, hresults₁]; simp, by rw [hdropped, hdropped₁]⟩

end Loop

section Returning

/-- The adapter that an action is sent to, and the payload keys that it cannot do without. -/
def reads : String → Option (Slot × List String)
  | "vector.query" => some (.vector, ["query"])
  | "vector.fetch" => some (.vector, ["doc_id"])
  | "vector.upsert" => some (.vector, ["doc_id", "content"])
  | "cache.set" => some (.cache, ["key", "value"])
  | "cache.get" => some (.cache, ["key"])
  | "model.train" => some (.model, ["text"])
  | "model.infer" => some (.model, ["prompt"])
  | "mcp.invoke" => some (.mcp, ["tool"])
  | "memory.write" => some (.memory, ["text"])
  | "memory.recall" => some (.memory, ["query"])
  | "rag.ask" => some (.rag, ["query"])
  | "observability.search" => some (.observability, ["marker"])
  | "agent.run" => some (.agent, ["task"])
  | _ => none

/-- The adapter that an action is sent to is the one of its family. -/
theorem find_family {action : String} {slot : Slot} {keys : List String}
    (h : reads action = some (slot, keys)) :
    (slots.find? fun slot => slot.name = family action) = some slot := by
  unfold reads at h
  split at h
  all_goals first | cases h; done | (obtain ⟨rfl, rfl⟩ := Prod.mk.inj (Option.some.inj h); decide)

/-- No adapter of the runner raises. -/
structure Quiet : Prop where
  upsert : ∀ vector ∈ runner.vector, ∀ tenant documents, (vector.upsert tenant documents).Returns
  query : ∀ vector ∈ runner.vector, ∀ principal text k, (vector.query principal text k).Returns
  fetch : ∀ vector ∈ runner.vector, ∀ principal docId, (vector.fetch principal docId).Returns
  get : ∀ cache ∈ runner.cache, ∀ principal key, (cache.get principal key).Returns
  set : ∀ cache ∈ runner.cache, ∀ principal key value, (cache.set principal key value).Returns
  trainAdapter : ∀ model ∈ runner.model, ∀ principal texts,
    (model.trainAdapter principal texts).Returns
  infer : ∀ model ∈ runner.model, ∀ principal prompt, (model.infer principal prompt).Returns
  servedBy : ∀ model ∈ runner.model, ∀ principal prompt, (model.servedBy principal prompt).Returns
  invoke : ∀ mcp ∈ runner.mcp, ∀ principal tool arguments,
    (mcp.invoke principal tool arguments).Returns
  remember : ∀ memory ∈ runner.memory, ∀ principal text, (memory.remember principal text).Returns
  «recall» : ∀ memory ∈ runner.memory, ∀ principal query, (memory.recall principal query).Returns
  ask : ∀ rag ∈ runner.rag, ∀ tenant query, (rag.ask tenant query).Returns
  searchTraces : ∀ observability ∈ runner.observability, ∀ tenant marker,
    (observability.searchTraces tenant marker).Returns
  run : ∀ agent ∈ runner.agent, ∀ tenant task, (agent.run tenant task).Returns

variable [Unicode] [Decimals] {runner}

omit [Decimals] in
theorem payloadRequired_eq_ok {step : ProbeStep} {key : String} (h : key ∈ step.payload) :
    ∃ value, payloadRequired step key = .ok value := by
  obtain ⟨value, hvalue⟩ := Dict.mem_iff_lookup.mp h
  exact ⟨value, by unfold payloadRequired; rw [hvalue]⟩

theorem payloadInt_eq_ok {step : ProbeStep} {key default : String}
    (h : (intOf (step.payload.getD key default)).isSome) :
    ∃ n, payloadInt step key default = .ok n := by
  obtain ⟨n, hn⟩ := Option.isSome_iff_exists.mp h
  exact ⟨n, by unfold payloadInt; simp only [hn]⟩

variable (runner)

/-- A step that the runner can carry out: its action is known and its adapter configured, and its
payload has what the action reads. -/
structure Accepts (step : ProbeStep) : Prop where
  known : ∃ slot keys, reads step.action = some (slot, keys) ∧
    (runner.adapter slot).isSome = true ∧ ∀ key ∈ keys, key ∈ step.payload
  count : step.action = "vector.query" → (intOf (step.payload.getD "k" "5")).isSome = true

variable {runner} {step : ProbeStep}

theorem Accepts.adapterFor (h : Accepts runner step) :
    ∃ adapter, runner.adapterFor step.action = .ok adapter := by
  obtain ⟨slot, keys, hreads, hadapter, -⟩ := h.known
  obtain ⟨adapter, hadapter⟩ := Option.isSome_iff_exists.mp hadapter
  refine ⟨adapter, ?_⟩
  unfold Runner.adapterFor
  rw [find_family hreads, Option.bind_some, hadapter]

theorem Accepts.droppable (h : Accepts runner step) :
    ∃ dropped, runner.droppable step = .ok dropped := by
  obtain ⟨adapter, hadapter⟩ := h.adapterFor
  unfold Runner.droppable
  split
  · exact ⟨false, rfl⟩
  · exact ⟨!adapter.carriesUser, by rw [hadapter]; rfl⟩

theorem Accepts.asSent (h : Accepts runner step) : ∃ sent, runner.asSent step = .ok sent := by
  obtain ⟨dropped, hdropped⟩ := h.droppable
  exact ⟨_, by unfold Runner.asSent; rw [hdropped]; rfl⟩

theorem Accepts.congr (h : Accepts runner step) {sent : ProbeStep}
    (haction : sent.action = step.action) (hpayload : sent.payload = step.payload) : Accepts runner sent := by
  constructor
  · rw [haction, hpayload]
    exact h.known
  · rw [haction, hpayload]
    exact h.count

theorem Accepts.keys (h : Accepts runner step) {action : String} {slot : Slot}
    {keys : List String} (haction : step.action = action)
    (hreads : reads action = some (slot, keys)) :
    (∃ adapter, runner.adapter slot = some adapter) ∧
      ∀ key ∈ keys, ∃ value, payloadRequired step key = .ok value := by
  subst haction
  obtain ⟨slot', keys', hreads', hadapter, hkeys⟩ := h.known
  obtain ⟨rfl, rfl⟩ := Prod.mk.inj (Option.some.inj (hreads.symm.trans hreads'))
  exact ⟨Option.isSome_iff_exists.mp hadapter, fun key hkey =>
    payloadRequired_eq_ok (hkeys key hkey)⟩

theorem execute_returns (hquiet : Quiet runner) (h : Accepts runner step) :
    (runner.execute step).Returns := by
  unfold execute
  split
  · rename_i haction
    obtain ⟨⟨_, hadapter⟩, hkeys⟩ := h.keys haction rfl
    obtain ⟨vector, hvector, -⟩ := Option.map_eq_some_iff.mp hadapter
    unfold vectorQuery
    rw [hvector]
    exact .lift_bind (payloadInt_eq_ok (h.count haction)) fun k =>
      .lift_bind (hkeys _ (by simp)) fun query =>
      .map (hquiet.query vector hvector _ _ _) _
  · rename_i haction
    obtain ⟨⟨_, hadapter⟩, hkeys⟩ := h.keys haction rfl
    obtain ⟨vector, hvector, -⟩ := Option.map_eq_some_iff.mp hadapter
    unfold vectorFetch
    rw [hvector]
    exact .lift_bind (hkeys _ (by simp)) fun docId =>
      .map (hquiet.fetch vector hvector _ _) _
  · rename_i haction
    obtain ⟨⟨_, hadapter⟩, hkeys⟩ := h.keys haction rfl
    obtain ⟨vector, hvector, -⟩ := Option.map_eq_some_iff.mp hadapter
    unfold vectorUpsert
    rw [hvector]
    exact .lift_bind (hkeys _ (by simp)) fun docId =>
      .lift_bind (hkeys _ (by simp)) fun content =>
      .map (hquiet.upsert vector hvector _ _) _
  · rename_i haction
    obtain ⟨⟨_, hadapter⟩, hkeys⟩ := h.keys haction rfl
    obtain ⟨cache, hcache, -⟩ := Option.map_eq_some_iff.mp hadapter
    unfold cacheSet
    rw [hcache]
    exact .lift_bind (hkeys _ (by simp)) fun key =>
      .lift_bind (hkeys _ (by simp)) fun value =>
      .map (hquiet.set cache hcache _ _ _) _
  · rename_i haction
    obtain ⟨⟨_, hadapter⟩, hkeys⟩ := h.keys haction rfl
    obtain ⟨cache, hcache, -⟩ := Option.map_eq_some_iff.mp hadapter
    unfold cacheGet
    rw [hcache]
    exact .lift_bind (hkeys _ (by simp)) fun key =>
      .map (hquiet.get cache hcache _ _) _
  · rename_i haction
    obtain ⟨⟨_, hadapter⟩, hkeys⟩ := h.keys haction rfl
    obtain ⟨model, hmodel, -⟩ := Option.map_eq_some_iff.mp hadapter
    unfold modelTrain
    rw [hmodel]
    exact .lift_bind (hkeys _ (by simp)) fun text =>
      .map (hquiet.trainAdapter model hmodel _ _) _
  · rename_i haction
    obtain ⟨⟨_, hadapter⟩, hkeys⟩ := h.keys haction rfl
    obtain ⟨model, hmodel, -⟩ := Option.map_eq_some_iff.mp hadapter
    unfold modelInfer
    rw [hmodel]
    exact .lift_bind (hkeys _ (by simp)) fun prompt =>
      .bind (hquiet.infer model hmodel _ _) fun response => .map (hquiet.servedBy model hmodel _ _) _
  · rename_i haction
    obtain ⟨⟨_, hadapter⟩, hkeys⟩ := h.keys haction rfl
    obtain ⟨mcp, hmcp, -⟩ := Option.map_eq_some_iff.mp hadapter
    unfold mcpInvoke
    rw [hmcp]
    exact .lift_bind (hkeys _ (by simp)) fun tool =>
      .map (hquiet.invoke mcp hmcp _ _ _) _
  · rename_i haction
    obtain ⟨⟨_, hadapter⟩, hkeys⟩ := h.keys haction rfl
    obtain ⟨memory, hmemory, -⟩ := Option.map_eq_some_iff.mp hadapter
    unfold memoryWrite
    rw [hmemory]
    exact .lift_bind (hkeys _ (by simp)) fun text =>
      .map (hquiet.remember memory hmemory _ _) _
  · rename_i haction
    obtain ⟨⟨_, hadapter⟩, hkeys⟩ := h.keys haction rfl
    obtain ⟨memory, hmemory, -⟩ := Option.map_eq_some_iff.mp hadapter
    unfold memoryRecall
    rw [hmemory]
    exact .lift_bind (hkeys _ (by simp)) fun query =>
      .map (hquiet.recall memory hmemory _ _) _
  · rename_i haction
    obtain ⟨⟨_, hadapter⟩, hkeys⟩ := h.keys haction rfl
    obtain ⟨rag, hrag, -⟩ := Option.map_eq_some_iff.mp hadapter
    unfold ragAsk
    rw [hrag]
    exact .lift_bind (hkeys _ (by simp)) fun query =>
      .map (hquiet.ask rag hrag _ _) _
  · rename_i haction
    obtain ⟨⟨_, hadapter⟩, hkeys⟩ := h.keys haction rfl
    obtain ⟨observability, hobservability, -⟩ := Option.map_eq_some_iff.mp hadapter
    unfold observabilitySearch
    rw [hobservability]
    exact .lift_bind (hkeys _ (by simp)) fun marker =>
      .map (hquiet.searchTraces observability hobservability _ _) _
  · rename_i haction
    obtain ⟨⟨_, hadapter⟩, hkeys⟩ := h.keys haction rfl
    obtain ⟨agent, hagent, -⟩ := Option.map_eq_some_iff.mp hadapter
    unfold agentRun
    rw [hagent]
    exact .lift_bind (hkeys _ (by simp)) fun task =>
      .map (hquiet.run agent hagent _ _) _
  · rename_i hunknown
    obtain ⟨slot, keys, hreads, -⟩ := h.known
    unfold reads at hreads
    split at hreads <;> simp_all

theorem plantLanded_returns (hquiet : Quiet runner) (h : Accepts runner step) :
    (runner.plantLanded step).Returns := by
  have hreadBack : (runner.plantReadBack step).Returns := by
    unfold plantReadBack
    split
    · rename_i vector haction hvector
      obtain ⟨-, hkeys⟩ := h.keys haction rfl
      exact .lift_bind (hkeys _ (by simp)) fun docId =>
        .bind (hquiet.fetch vector hvector _ _) fun hit => .map (.lift (hkeys _ (by simp))) _
    · rename_i cache haction hcache
      obtain ⟨-, hkeys⟩ := h.keys haction rfl
      exact .lift_bind (hkeys _ (by simp)) fun key =>
        .bind (hquiet.get cache hcache _ _) fun cached => .map (.lift (hkeys _ (by simp))) _
    · rename_i memory haction hmemory
      obtain ⟨-, hkeys⟩ := h.keys haction rfl
      exact .lift_bind (hkeys _ (by simp)) fun text => .map (hquiet.recall memory hmemory _ _) _
    · exact .pure true
  intro world
  obtain ⟨landed, after, hlanded⟩ := hreadBack world
  exact ⟨landed, after, by unfold plantLanded; rw [hlanded]⟩

omit [Unicode] [Decimals] in
theorem onWorld_returns {α : Type} {call : Call σ Raised α} (h : call.Returns) :
    (onWorld call).Returns := by
  intro s
  obtain ⟨a, world, hcall⟩ := h s.world
  exact ⟨a, { s with world }, by unfold onWorld; rw [hcall]⟩

theorem sendStep_returns (probe : Probe) (tally : RunTally) (hquiet : Quiet runner)
    (h : Accepts runner step) : (runner.sendStep probe tally step).Returns := by
  refine .bind (onWorld_returns (execute_returns hquiet h)) fun observation => .bind ?_ ?_
  · unfold checkPlant
    split
    · exact .map (onWorld_returns (plantLanded_returns hquiet h)) _
    · exact .pure _
  · exact fun _ s => ⟨_, _, rfl⟩

theorem sendSteps_returns (probe : Probe) (hquiet : Quiet runner) (steps : List ProbeStep)
    (h : ∀ step ∈ steps, Accepts runner step) (tally : RunTally) :
    (runner.sendSteps probe steps tally).Returns := by
  induction steps generalizing tally with
  | nil => exact .pure tally
  | cons step steps ih =>
    obtain ⟨hstep, hsteps⟩ := List.forall_mem_cons.mp h
    obtain ⟨sent, hsent⟩ := hstep.asSent
    unfold sendSteps
    rw [hsent, Call.lift_ok_bind]
    cases sent with
    | none => exact ih hsteps _
    | some sent =>
      obtain ⟨-, haction, hpayload⟩ := runner.asSent_eq_some hsent
      exact .bind (sendStep_returns probe tally hquiet (hstep.congr haction hpayload)) (ih hsteps)

theorem allDroppable_eq_ok {steps : List ProbeStep} (h : ∀ step ∈ steps, Accepts runner step) :
    ∃ dropped, runner.allDroppable steps = .ok dropped := by
  induction steps with
  | nil => exact ⟨true, rfl⟩
  | cons step steps ih =>
    obtain ⟨hstep, hsteps⟩ := List.forall_mem_cons.mp h
    obtain ⟨dropped, hdropped⟩ := hstep.droppable
    unfold allDroppable
    rw [hdropped]
    cases dropped with
    | false => exact ⟨false, rfl⟩
    | true => exact ih hsteps

theorem dropsWholeProbe_eq_ok {planned : List ProbeStep}
    (h : ∀ step ∈ planned, Accepts runner step) :
    ∃ dropped, runner.dropsWholeProbe planned = .ok dropped := by
  unfold dropsWholeProbe
  simp only
  split
  · exact ⟨false, rfl⟩
  · exact allDroppable_eq_ok fun step hstep => h step (List.mem_of_mem_filter hstep)

/-- With adapters that do not raise, and a plan that the runner can carry out, a run returns. -/
theorem runPerStep_returns (probe : Probe) (hquiet : Quiet runner)
    (hpreflight : runner.preflight probe = .ok ())
    (h : ∀ step ∈ probe.plan runner.substrate, Accepts runner step) :
    (runner.runPerStep probe).Returns := by
  unfold runPerStep
  refine .lift_bind ⟨(), hpreflight⟩ fun _ => .lift_bind (dropsWholeProbe_eq_ok h) fun dropped => ?_
  intro s
  cases dropped with
  | true => exact ⟨_, _, rfl⟩
  | false =>
    obtain ⟨tally, s', hs⟩ := sendSteps_returns probe hquiet _ h {} s
    exact ⟨_, _, by simp only [Bool.false_eq_true, if_false, hs]; rfl⟩

end Returning

section Contract

variable [Unicode] [Decimals] (probe : Probe)

/-- What a run that returns did: `log` are the steps that it carried out, with their findings. -/
structure RunContract (s s' : RunnerState σ) (results log : List StepResult) : Prop where
  executed : s'.executed = s.executed ++ log
  reported : results = log ∨ results = []
  sent : runner.stepsToSend probe = .ok (log.map Prod.fst)
  carried : ∀ result ∈ log, result.1.actorUserId ≠ none →
    ∃ adapter, runner.adapterFor result.1.action = .ok adapter ∧ adapter.carriesUser = true
  judged : results ≠ [] → ∃ result ∈ results, result.1.isPlant = false
  observed : (∃ result ∈ log, confirmedFindings result.2 ≠ []) → results ≠ []
  disclosed : runner.dropsWholeProbe (probe.plan runner.substrate) = .ok false →
    s'.droppedUserSteps.getD probe.id 0 + log.length =
      s.droppedUserSteps.getD probe.id 0 + (probe.plan runner.substrate).length

/-- What a run that raises did: it carried out what stands before the step that raised, of the steps
that it would have sent. -/
structure Interrupted (s s' : RunnerState σ) : Prop where
  executed : ∃ log, s'.executed = s.executed ++ log ∧
    (∀ sents, runner.stepsToSend probe = .ok sents → log.map Prod.fst <+: sents) ∧
    ∀ result ∈ log, result.1.actorUserId ≠ none →
      ∃ adapter, runner.adapterFor result.1.action = .ok adapter ∧ adapter.carriesUser = true
  records : SameRecords s s'

omit [Unicode] [Decimals] in
theorem counted_getD (record : Dict String Int) (count : Nat) :
    (counted probe record count).getD probe.id 0 = record.getD probe.id 0 + count := by
  unfold counted Dict.getD
  rw [Dict.lookup_set_self, Option.getD_some]

omit [Unicode] [Decimals] in
/-- After the loop the dropped steps are counted, and an observation is never withheld. -/
theorem conclude_cases (tally : RunTally) (s : RunnerState σ) :
    (conclude probe tally s).2.executed = s.executed ∧
    (conclude probe tally s).2.droppedUserSteps.getD probe.id 0 =
      s.droppedUserSteps.getD probe.id 0 + tally.dropped ∧
    ((conclude probe tally s).1 = tally.results ∨ (conclude probe tally s).1 = [] ∧
      ∀ result ∈ tally.results, confirmedFindings result.2 = []) := by
  have hdropped : ((if tally.dropped = 0 then s else
      recordDropped probe tally.dropped s).droppedUserSteps.getD probe.id 0 =
        s.droppedUserSteps.getD probe.id 0 + tally.dropped) ∧
      (if tally.dropped = 0 then s else recordDropped probe tally.dropped s).executed =
        s.executed := by
    split
    · rename_i hzero
      exact ⟨by rw [hzero]; simp, rfl⟩
    · exact ⟨counted_getD probe _ _, rfl⟩
  unfold conclude
  simp only
  split
  · rename_i hvanished
    refine ⟨hdropped.2, hdropped.1, Or.inr ⟨rfl, ?_⟩⟩
    simpa using hvanished.2.2
  · refine ⟨?_, ?_, Or.inl rfl⟩
    · split
      · exact hdropped.2
      · exact hdropped.2
    · split
      · exact hdropped.1
      · exact hdropped.1

variable {runner probe}

omit [Decimals] in
theorem stepsToSend_eq (hpreflight : runner.preflight probe = .ok ()) {dropped : Bool}
    (hdrops : runner.dropsWholeProbe (probe.plan runner.substrate) = .ok dropped) :
    runner.stepsToSend probe = if dropped then .ok [] else
      ((probe.plan runner.substrate).mapM runner.asSent).map List.reduceOption := by
  unfold stepsToSend
  rw [hpreflight]
  simp only [hdrops]
  cases dropped <;> rfl

omit [Decimals] in
theorem Interrupted.unchanged (s : RunnerState σ) : Interrupted runner probe s s :=
  ⟨⟨[], (List.append_nil _).symm, fun _ _ => List.nil_prefix, by simp⟩, rfl, rfl⟩

omit [Decimals] in
/-- A probe that is dropped whole sends nothing and reports nothing. -/
theorem RunContract.droppedWhole (hpreflight : runner.preflight probe = .ok ())
    (hdrops : runner.dropsWholeProbe (probe.plan runner.substrate) = .ok true)
    (s : RunnerState σ) (count : Nat) :
    RunContract runner probe s (recordDropped probe count s) [] [] where
  executed := (List.append_nil _).symm
  reported := Or.inl rfl
  sent := by rw [stepsToSend_eq hpreflight hdrops]; rfl
  carried := by simp
  judged h := absurd rfl h
  observed h := by simp at h
  disclosed h := by cases hdrops.symm.trans h

omit [Decimals] in
theorem RunContract.sent_all (hjudged : ∃ step ∈ probe.plan runner.substrate, step.isPlant = false)
    (hpreflight : runner.preflight probe = .ok ())
    (hdrops : runner.dropsWholeProbe (probe.plan runner.substrate) = .ok false)
    {log : List StepResult} {dropped : Nat}
    (hsends : Sends runner (probe.plan runner.substrate) log dropped) {tally : RunTally}
    (hresults : tally.results = log) (hdropped : tally.dropped = dropped) {s s₁ : RunnerState σ}
    (hexecuted : s₁.executed = s.executed ++ log) (hrecords : SameRecords s s₁) :
    RunContract runner probe s (conclude probe tally s₁).2 (conclude probe tally s₁).1 log := by
  obtain ⟨htrace, hcount, hreport⟩ := conclude_cases probe tally s₁
  have hreported : (conclude probe tally s₁).1 = log ∨ (conclude probe tally s₁).1 = [] :=
    hreport.imp (fun h => h.trans hresults) And.left
  refine ⟨htrace.trans hexecuted, hreported, ?_, hsends.carried, ?_, ?_, fun _ => ?_⟩
  · rw [stepsToSend_eq hpreflight hdrops]
    exact hsends.asSent
  · intro hne
    obtain ⟨step, hstep, hplant, hsent⟩ := runner.dropsWholeProbe_eq_false hdrops hjudged
    obtain ⟨result, hresult, rfl⟩ := hsends.mem_of_sent hstep hsent
    exact ⟨result, hreported.resolve_right hne ▸ hresult, hplant⟩
  · rintro ⟨result, hresult, hconfirmed⟩ hempty
    rcases hreport with hreport | ⟨-, hnone⟩
    · rw [hempty, hresults] at hreport
      rw [← hreport] at hresult
      cases hresult
    · exact hconfirmed (hnone result (hresults ▸ hresult))
  · have hlength := hsends.length
    rw [hcount, hrecords.1, hdropped]
    omega

theorem runPerStep_ok (hjudged : ∃ step ∈ probe.plan runner.substrate, step.isPlant = false)
    {s s' : RunnerState σ} {results : List StepResult}
    (hrun : runner.runPerStep probe s = (.ok results, s')) :
    ∃ log, RunContract runner probe s s' results log := by
  obtain ⟨⟨⟩, s₁, hfirst, hrun⟩ := Call.bind_eq_ok.mp hrun
  obtain ⟨hpreflight, rfl⟩ := Call.lift_eq_ok.mp hfirst
  obtain ⟨dropped, s₂, hsecond, hrun⟩ := Call.bind_eq_ok.mp hrun
  obtain ⟨hdrops, rfl⟩ := Call.lift_eq_ok.mp hsecond
  cases dropped with
  | true =>
    obtain ⟨hresults, rfl⟩ := Prod.mk.inj hrun
    obtain rfl := Except.ok.inj hresults
    exact ⟨[], RunContract.droppedWhole hpreflight hdrops s _⟩
  | false =>
    obtain ⟨done, rest, log, count, hplan, hsends, hexecuted, hrecords, hok⟩ :=
      runner.sendSteps_sends probe (probe.plan runner.substrate) {} s
    simp only [Bool.false_eq_true, if_false] at hrun
    rcases hloop : runner.sendSteps probe (probe.plan runner.substrate) {} s with ⟨e | tally, s₁⟩
    · rw [hloop] at hrun
      cases hrun
    · rw [hloop] at hrun hexecuted hrecords hok
      obtain ⟨rfl, hresults, hdropped⟩ := hok tally rfl
      obtain ⟨hreport, rfl⟩ := Prod.mk.inj hrun
      obtain rfl := Except.ok.inj hreport
      rw [List.append_nil] at hplan
      exact ⟨log, RunContract.sent_all hjudged hpreflight hdrops (hplan ▸ hsends)
        (hresults.trans (List.nil_append _)) (hdropped.trans (Nat.zero_add _)) hexecuted hrecords⟩

theorem runPerStep_error {s s' : RunnerState σ} {e : Raised}
    (hrun : runner.runPerStep probe s = (.error e, s')) : Interrupted runner probe s s' := by
  unfold runPerStep at hrun
  rcases hpreflight : runner.preflight probe with e' | ⟨⟩
  · rw [hpreflight] at hrun
    obtain ⟨-, rfl⟩ := Prod.mk.inj hrun
    exact .unchanged s
  rw [hpreflight, Call.lift_ok_bind] at hrun
  rcases hdrops : runner.dropsWholeProbe (probe.plan runner.substrate) with e' | dropped
  · rw [hdrops] at hrun
    obtain ⟨-, rfl⟩ := Prod.mk.inj hrun
    exact .unchanged s
  rw [hdrops, Call.lift_ok_bind] at hrun
  cases dropped with
  | true => cases hrun
  | false =>
    obtain ⟨done, rest, log, count, hplan, hsends, hexecuted, hrecords, -⟩ :=
      runner.sendSteps_sends probe (probe.plan runner.substrate) {} s
    simp only [Bool.false_eq_true, if_false] at hrun
    rcases hloop : runner.sendSteps probe (probe.plan runner.substrate) {} s with ⟨e | tally, s₁⟩
    · rw [hloop] at hrun hexecuted hrecords
      obtain ⟨-, rfl⟩ := Prod.mk.inj hrun
      refine ⟨⟨log, hexecuted, fun sents hsents => ?_, hsends.carried⟩, hrecords⟩
      rw [stepsToSend_eq hpreflight hdrops, if_neg Bool.false_ne_true, hplan] at hsents
      exact hsends.isPrefix hsents
    · rw [hloop] at hrun
      cases hrun

/-- A probe with a judged step keeps its contract on every run that returns, whatever the adapters
carry and however the plants read back; and with adapters that do not raise, a plan that the runner
can carry out returns. -/
theorem runPerStep_contract (runner : Runner σ) (probe : Probe)
    (hjudged : ∃ step ∈ probe.plan runner.substrate, step.isPlant = false) (s : RunnerState σ) :
    (∀ results s', runner.runPerStep probe s = (.ok results, s') →
      ∃ log, RunContract runner probe s s' results log) ∧
    (∀ e s', runner.runPerStep probe s = (.error e, s') → Interrupted runner probe s s') ∧
    (Quiet runner → runner.preflight probe = .ok () →
      (∀ step ∈ probe.plan runner.substrate, Accepts runner step) →
      ∃ results s', runner.runPerStep probe s = (.ok results, s')) :=
  ⟨fun _ _ => runPerStep_ok hjudged, fun _ _ => runPerStep_error,
    fun hquiet hpreflight h => runPerStep_returns probe hquiet hpreflight h s⟩

end Contract

section Sample

attribute [local instance] Unicode.ascii Decimals.ascii

/-- A cache with one entry, which does not receive the user. -/
def tenantCache : CacheSession (Option String) where
  carriesUser := false
  get _ _ entry := (.ok entry, entry)
  set _ _ value _ := (.ok (), some value)

def cacheRunner : Runner (Option String) where
  substrate :=
    { scenario := { scenarioId := "s", seed := 1, tenants := [] }
      tenants := []
      documents := []
      manifest := { manifestId := "m", scenarioHash := "h", markers := [] } }
  cache := some tenantCache

/-- A plant of a user, which is sent as the tenant, a read of the user, which is dropped, and a read
of another tenant. -/
def cacheProbe : Probe where
  id := "cache-probe"
  requiresAdapters := [.cache]
  plan _ :=
    [{ stepId := "plant", probeId := "cache-probe", actorTenantId := ⟨1⟩, actorUserId := some ⟨2⟩
       action := "cache.set", payload := Dict.ofItems [("key", "k"), ("value", "canary")] },
     { stepId := "user-read", probeId := "cache-probe", actorTenantId := ⟨1⟩
       actorUserId := some ⟨3⟩, action := "cache.get", payload := Dict.ofItems [("key", "k")] },
     { stepId := "read", probeId := "cache-probe", actorTenantId := ⟨4⟩
       action := "cache.get", payload := Dict.ofItems [("key", "k")] }]
  detect _ _ _ := []

example : (cacheRunner.stepsToSend cacheProbe).map
    (List.map fun step => (step.stepId, step.actorUserId)) =
      .ok [("plant", none), ("read", none)] := by
  decide +kernel

theorem cacheRunner_quiet : Quiet cacheRunner := by
  constructor
  case get => rintro _ ⟨⟩ _ _ entry; exact ⟨entry, entry, rfl⟩
  case set => rintro _ ⟨⟩ _ _ value _; exact ⟨(), some value, rfl⟩
  all_goals rintro _ ⟨⟩

theorem cacheProbe_accepted :
    ∀ step ∈ cacheProbe.plan cacheRunner.substrate, Accepts cacheRunner step := by
  intro step hstep
  have hcases : step.action = "cache.set" ∧ "key" ∈ step.payload ∧ "value" ∈ step.payload ∨
      step.action = "cache.get" ∧ "key" ∈ step.payload := by
    revert step
    decide +kernel
  rcases hcases with ⟨haction, hkey, hvalue⟩ | ⟨haction, hkey⟩
  · exact ⟨⟨.cache, ["key", "value"], by rw [haction]; rfl, rfl, by simp [hkey, hvalue]⟩,
      fun h => absurd (haction.symm.trans h) (by decide)⟩
  · exact ⟨⟨.cache, ["key"], by rw [haction]; rfl, rfl, by simp [hkey]⟩,
      fun h => absurd (haction.symm.trans h) (by decide)⟩

theorem cacheProbe_contract : ∃ results s', cacheRunner.runPerStep cacheProbe { world := none } =
    (.ok results, s') ∧ ∃ log, RunContract cacheRunner cacheProbe { world := none } s' results
      log := by
  obtain ⟨hcontract, -, hreturns⟩ := runPerStep_contract cacheRunner cacheProbe
    ⟨_, List.mem_cons_of_mem _ (List.mem_cons_of_mem _ List.mem_cons_self), rfl⟩ { world := none }
  obtain ⟨results, s', hrun⟩ := hreturns cacheRunner_quiet rfl cacheProbe_accepted
  exact ⟨results, s', hrun, hcontract results s' hrun⟩

end Sample

end Runner

end Sectum
