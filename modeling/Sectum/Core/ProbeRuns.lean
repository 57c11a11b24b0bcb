import Sectum.Core.ProbeCommand
import Sectum.Core.RunnerContract

/-! What a run of a suite hands to the record, however its probes were scheduled: for each probe, steps of
its plan as they were sent, each with what the probe found in an observation of it.  A probe that hands over
anything hands over all that was sent, a judged step among it. -/

namespace Sectum

open Py

section Plans

variable {σ : Type} {runner : Runner σ} {probe : Probe}

variable [Unicode] [Decimals]

variable (runner) in
/-- What the step observed in some world. -/
def Observes (step : ProbeStep) (observation : Observation) : Prop :=
  ∃ world after, runner.execute step world = (.ok observation, after)

variable (runner probe) in
/-- A planned step as it was sent, and what the probe found in what it observed. -/
structure FromPlan (result : StepResult) : Prop where
  sent : ∃ step ∈ probe.plan runner.substrate, runner.asSent step = .ok (some result.1)
  judged : ∃ observation, Observes runner result.1 observation ∧
    result.2 = probe.detect result.1 observation runner.substrate

namespace Job

variable (runner probe) in
/-- A job whose steps, sent or still to send, are those of the plan. -/
def Grounded : Job → Prop
  | waiting => True
  | sending steps tally =>
    steps ⊆ probe.plan runner.substrate ∧ ∀ result ∈ tally.results, FromPlan runner probe result
  | checking sent observation steps tally =>
    (∃ step ∈ probe.plan runner.substrate, runner.asSent step = .ok (some sent)) ∧
      Observes runner sent observation ∧ steps ⊆ probe.plan runner.substrate ∧
        ∀ result ∈ tally.results, FromPlan runner probe result
  | finished (.ok results) => ∀ result ∈ results, FromPlan runner probe result
  | finished (.error _) => True

end Job

omit [Unicode] [Decimals] in
theorem Runner.conclude_sub {tally : RunTally} {s : RunnerState σ} :
    (conclude probe tally s).1 ⊆ tally.results := by
  unfold conclude
  simp only
  split
  · exact List.nil_subset _
  · exact List.Subset.refl _

/-- What each step of a job keeps. -/
theorem Runner.advance_grounded {job : Job} (h : job.Grounded runner probe) (s : RunnerState σ) :
    (runner.advance probe job s).1.Grounded runner probe := by
  cases job with
  | waiting =>
    simp only [advance, begin]
    cases runner.preflight probe with
    | error e => trivial
    | ok =>
      simp only
      rcases runner.dropsWholeProbe (probe.plan runner.substrate) with e | ⟨_ | _⟩
      · trivial
      · exact ⟨List.Subset.refl _, fun _ hmem => absurd hmem List.not_mem_nil⟩
      · exact fun _ hmem => absurd hmem List.not_mem_nil
  | sending steps tally =>
    obtain ⟨hsteps, hresults⟩ := h
    cases steps with
    | nil => exact fun result hresult => hresults result (conclude_sub hresult)
    | cons step steps =>
      obtain ⟨hstep, hsteps⟩ := List.cons_subset.mp hsteps
      simp only [advance, sendNext]
      cases hsent : runner.asSent step with
      | error e => trivial
      | ok sent =>
        cases sent with
        | none => exact ⟨hsteps, hresults⟩
        | some sent =>
          simp only
          cases hexecuted : runner.execute sent s.world with
          | mk executed after =>
            rw [onWorld, hexecuted]
            cases executed with
            | error e => trivial
            | ok observation =>
              exact ⟨⟨step, hstep, hsent⟩, ⟨s.world, after, hexecuted⟩, hsteps, hresults⟩
  | checking sent observation steps tally =>
    obtain ⟨hsent, hobserves, hsteps, hresults⟩ := h
    simp only [advance, judge]
    rcases (runner.checkPlant sent s).1 with e | ⟨plant, vanished⟩
    · trivial
    · refine ⟨hsteps, List.forall_mem_append.mpr ⟨hresults, ?_⟩⟩
      exact List.forall_mem_singleton.mpr ⟨hsent, observation, hobserves, rfl⟩
  | finished result => exact h

namespace Job

variable (runner probe) in
/-- The steps of the plan that are sent are among those before the job and those behind it. -/
def Covers (steps sent : List ProbeStep) : Prop :=
  runner.dropsWholeProbe (probe.plan runner.substrate) = .ok false ∧
    ∀ step ∈ probe.plan runner.substrate, ∀ as, runner.asSent step = .ok (some as) →
      step ∈ steps ∨ as ∈ sent

variable (runner probe) in
/-- A job that loses none of the steps that are sent, unless it withholds them all. -/
def Complete : Job → Prop
  | waiting => True
  | sending steps tally => Covers runner probe steps (tally.results.map Prod.fst)
  | checking sent _ steps tally => Covers runner probe steps (tally.results.map Prod.fst ++ [sent])
  | finished (.ok results) => results ≠ [] → Covers runner probe [] (results.map Prod.fst)
  | finished (.error _) => True

omit [Unicode] [Decimals] in
/-- A step that is sent goes behind the job; one that is not leaves it. -/
theorem Covers.next {step : ProbeStep} {steps sent : List ProbeStep} {as : Option ProbeStep}
    (h : Covers runner probe (step :: steps) sent) (hsent : runner.asSent step = .ok as) :
    Covers runner probe steps (sent ++ as.toList) := by
  refine ⟨h.1, fun planned hplanned other hother => ?_⟩
  rcases h.2 planned hplanned other hother with hmem | hmem
  · rcases List.mem_cons.mp hmem with rfl | hmem
    · obtain rfl := Except.ok.inj (hsent.symm.trans hother)
      exact .inr (List.mem_append_right _ List.mem_cons_self)
    · exact .inl hmem
  · exact .inr (List.mem_append_left _ hmem)

end Job

/-- What each step of a job keeps. -/
theorem Runner.advance_complete {job : Job} (h : job.Complete runner probe) (s : RunnerState σ) :
    (runner.advance probe job s).1.Complete runner probe := by
  cases job with
  | waiting =>
    simp only [advance, begin]
    cases runner.preflight probe with
    | error e => trivial
    | ok =>
      simp only
      cases hdrops : runner.dropsWholeProbe (probe.plan runner.substrate) with
      | error e => trivial
      | ok dropped =>
        cases dropped with
        | false => exact ⟨hdrops, fun step hstep as _ => .inl hstep⟩
        | true => exact fun hne => absurd rfl hne
  | sending steps tally =>
    cases steps with
    | nil =>
      intro hne
      obtain ⟨-, -, hkept | ⟨hempty, -⟩⟩ := conclude_cases probe tally s
      · simp only [hkept]
        exact h
      · exact absurd hempty hne
    | cons step steps =>
      simp only [advance, sendNext]
      cases hsent : runner.asSent step with
      | error e => trivial
      | ok sent =>
        have hcovers := Job.Covers.next h hsent
        cases sent with
        | none =>
          rw [Option.toList_none, List.append_nil] at hcovers
          exact hcovers
        | some sent =>
          simp only
          rcases (onWorld (runner.execute sent) s).1 with e | observation
          · trivial
          · exact hcovers
  | checking sent observation steps tally =>
    simp only [advance, judge]
    rcases (runner.checkPlant sent s).1 with e | ⟨plant, vanished⟩
    · trivial
    · simp only [judged, Job.Complete, List.map_append]
      exact h
  | finished result => exact h

/-- What the steps of a job keep holds of what its run comes to. -/
theorem Runner.runPerStep_invariant {I : Job → Prop} (hwaiting : I .waiting)
    (hstep : ∀ job s, I job → I (runner.advance probe job s).1) {s s' : RunnerState σ}
    {results : List StepResult} (h : runner.runPerStep probe s = (.ok results, s')) :
    I (.finished (.ok results)) := by
  obtain ⟨n, hn⟩ : Reaches runner probe (.waiting, s) _ := reaches_runPerStep s
  have hkept : ∀ n, I ((fun p : Job × RunnerState σ => runner.advance probe p.1 p.2)^[n]
      (.waiting, s)).1 := by
    intro n
    induction n with
    | zero => exact hwaiting
    | succ n ih =>
      rw [Function.iterate_succ_apply']
      exact hstep _ _ ih
  have hfinished := hkept n
  rw [hn, h] at hfinished
  exact hfinished

end Plans

section Suites

variable {σ α β ε : Type}

/-- The results of a serial run, one after the other. -/
theorem SerialJobRunner.map_eq_ok {func : α → Call σ ε β} {items : List α} {s s' : σ}
    {results : List β} (h : SerialJobRunner.map func items s = (.ok results, s')) :
    List.Forall₂ (fun item result => ∃ before after, func item before = (.ok result, after)) items
      results := by
  induction items generalizing s results with
  | nil =>
    obtain rfl := Except.ok.inj (Prod.mk.inj h).1
    exact .nil
  | cons item items ih =>
    obtain ⟨result, between, hitem, hrest⟩ := Call.bind_eq_ok.mp h
    obtain ⟨rest, hitems, rfl⟩ := Call.map_eq_ok.mp hrest
    exact .cons ⟨s, between, hitem⟩ (ih hitems)

variable [Unicode] [Decimals] {runner : Runner σ}

/-- However a suite was run, each of its probes came to what the steps of its job keep. -/
theorem ProbeStack.RunsSuite.forall₂ {I : Probe → Job → Prop} (hwaiting : ∀ probe, I probe .waiting)
    (hstep : ∀ probe job s, I probe job → I probe (runner.advance probe job s).1)
    {maxConcurrency : Int} {suite : List Probe} {s s' : RunnerState σ}
    {groups : List (List StepResult)}
    (h : RunsSuite runner maxConcurrency suite s (.ok groups) s') :
    List.Forall₂ (fun probe group => I probe (.finished (.ok group))) suite groups := by
  generalize hok : Except.ok groups = outcome at h
  cases h with
  | serial =>
    refine (SerialJobRunner.map_eq_ok (Prod.ext hok.symm rfl)).imp ?_
    rintro probe group ⟨before, after, hrun⟩
    exact Runner.runPerStep_invariant (hwaiting probe) (hstep probe) hrun
  | threads _ schedule hcollect =>
    subst hok
    have hjobs := ThreadJobRunner.collect_eq_ok hcollect
    have hkept := @Tasks.Pool.after_forall _ _ _ _ (runner.pool suite)
      (fun i job => I (suite.get i) job) (fun i job s h => hstep (suite.get i) job s h) schedule
      (fun _ => .waiting, s) fun i => hwaiting (suite.get i)
    have hpairs : List.Forall₂ (fun i group =>
        (((runner.pool suite).after schedule (fun _ => .waiting, s)).1 i).result? =
          some (.ok group)) (List.finRange suite.length) groups := by
      rw [← List.forall₂_eq_eq_eq, List.forall₂_map_left_iff, List.forall₂_map_right_iff] at hjobs
      exact hjobs
    have hsuite : suite = (List.finRange suite.length).map suite.get :=
      (List.map_get_finRange suite).symm
    rw [hsuite, List.forall₂_map_left_iff]
    refine hpairs.imp fun i group hgroup => ?_
    have hjob := hkept i
    rwa [Job.eq_finished hgroup] at hjob

/-- What a probe hands over comes from its plan, and has a judged step where it has any. -/
structure Handed (runner : Runner σ) (probe : Probe) (group : List StepResult) : Prop where
  fromPlan : ∀ result ∈ group, FromPlan runner probe result
  judged : group ≠ [] → (∃ step ∈ probe.plan runner.substrate, step.isPlant = false) →
    ∃ result ∈ group, result.1.isPlant = false ∧ result.1 ∈ probe.plan runner.substrate

/-- However a suite was run, what its probes hand over is so. -/
theorem ProbeStack.RunsSuite.handed {maxConcurrency : Int} {suite : List Probe}
    {s s' : RunnerState σ} {groups : List (List StepResult)}
    (h : RunsSuite runner maxConcurrency suite s (.ok groups) s') :
    List.Forall₂ (Handed runner) suite groups := by
  refine (h.forall₂ (I := fun probe job => job.Grounded runner probe ∧ job.Complete runner probe)
    (fun _ => ⟨trivial, trivial⟩) fun probe job s hjob => ⟨Runner.advance_grounded hjob.1 s,
      Runner.advance_complete hjob.2 s⟩).imp ?_
  rintro probe group ⟨hgrounded, hcomplete⟩
  refine ⟨hgrounded, fun hne hplanned => ?_⟩
  obtain ⟨hdrops, hcovers⟩ := hcomplete hne
  obtain ⟨step, hstep, hjudged, hsent⟩ := runner.dropsWholeProbe_eq_false hdrops hplanned
  obtain hmem := (hcovers step hstep step hsent).resolve_left List.not_mem_nil
  obtain ⟨result, hresult, rfl⟩ := List.mem_map.mp hmem
  exact ⟨result, hresult, hjudged, hstep⟩

end Suites

end Sectum
