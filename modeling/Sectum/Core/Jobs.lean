import Sectum.Core.Runner
import Sectum.Lib.Tasks

/-! `sectum_ai.jobs`: the probes of a suite are run one after the other, or on a pool of threads that
share the adapters.  A job carries out a step of its plan, or reads a plant back, and between two of
these turns any other job may take its own. -/

namespace Sectum

open Py

section JobRunners

variable {σ ε α β : Type}

/-- `SerialJobRunner.map`. -/
def SerialJobRunner.map (func : α → Call σ ε β) : List α → Call σ ε (List β)
  | [] => .pure []
  | item :: items =>
    (func item).bind fun result => (SerialJobRunner.map func items).map fun results =>
      result :: results

/-- `list(executor.map(func, items))`: the results in input order, or the first exception among them,
once the jobs up to there have finished. -/
def ThreadJobRunner.collect : List (Option (Except ε β)) → Option (Except ε (List β))
  | [] => some (.ok [])
  | none :: _ => none
  | some (.error e) :: _ => some (.error e)
  | some (.ok result) :: jobs => (collect jobs).map fun results => results.map fun results =>
      result :: results

theorem ThreadJobRunner.collect_isSome {jobs : List (Option (Except ε β))}
    (h : ∀ job ∈ jobs, job.isSome = true) : (collect jobs).isSome = true := by
  induction jobs with
  | nil => rfl
  | cons job jobs ih =>
    obtain ⟨hjob, hjobs⟩ := List.forall_mem_cons.mp h
    cases job with
    | none => cases hjob
    | some result =>
      cases result with
      | error e => rfl
      | ok result => simpa [collect] using ih hjobs

/-- The results that are collected are those that the jobs have come to. -/
theorem ThreadJobRunner.collect_eq_ok {jobs : List (Option (Except ε β))} {results : List β}
    (h : collect jobs = some (.ok results)) : jobs = results.map fun result => some (.ok result) := by
  induction jobs generalizing results with
  | nil =>
    obtain rfl := Except.ok.inj (Option.some.inj h)
    rfl
  | cons job jobs ih =>
    cases job with
    | none => cases h
    | some result =>
      cases result with
      | error e => cases h
      | ok result =>
        obtain ⟨rest, hrest, heq⟩ := Option.map_eq_some_iff.mp h
        cases rest with
        | error e => cases heq
        | ok rest =>
          obtain rfl := Except.ok.inj heq
          rw [ih hrest, List.map_cons]

theorem ThreadJobRunner.finished_of_collect {jobs : List (Option (Except ε β))} {results : List β}
    (h : collect jobs = some (.ok results)) : ∀ job ∈ jobs, ∃ result, job = some (.ok result) := by
  intro job hjob
  rw [collect_eq_ok h] at hjob
  obtain ⟨result, -, rfl⟩ := List.mem_map.mp hjob
  exact ⟨result, rfl⟩

/-- Jobs that come to the same wherever they finish are collected to the same. -/
theorem ThreadJobRunner.collect_agree {ι : Type} {items : List ι} {f g : ι → Option (Except ε β)}
    (h : ∀ i ∈ items, ∀ a b, f i = some a → g i = some b → a = b) {r r' : Except ε (List β)}
    (hf : collect (items.map f) = some r) (hg : collect (items.map g) = some r') : r = r' := by
  induction items generalizing r r' with
  | nil => exact Option.some.inj (hf.symm.trans hg)
  | cons i items ih =>
    obtain ⟨hi, hitems⟩ := List.forall_mem_cons.mp h
    rw [List.map_cons] at hf hg
    cases hfi : f i with
    | none =>
      rw [hfi] at hf
      cases hf
    | some a =>
      cases hgi : g i with
      | none =>
        rw [hgi] at hg
        cases hg
      | some b =>
        obtain rfl := hi a b hfi hgi
        rw [hfi] at hf
        rw [hgi] at hg
        cases a with
        | error e => exact Option.some.inj (hf.symm.trans hg)
        | ok a =>
          obtain ⟨rest, hrest, rfl⟩ := Option.map_eq_some_iff.mp hf
          obtain ⟨rest', hrest', rfl⟩ := Option.map_eq_some_iff.mp hg
          rw [ih hitems hrest hrest']

end JobRunners

section Jobs

/-- Where a job stands: before it has planned, before its next step, after a step was carried out and
before the plant that it may be is read back, or at its end. -/
inductive Job
  | waiting
  | sending (steps : List ProbeStep) (tally : RunTally)
  | checking (sent : ProbeStep) (observation : Observation) (steps : List ProbeStep)
    (tally : RunTally)
  | finished (result : Except Raised (List StepResult))

def Job.result? : Job → Option (Except Raised (List StepResult))
  | finished result => some result
  | _ => none

theorem Job.result?_finished (result : Except Raised (List StepResult)) :
    (Job.finished result).result? = some result := rfl

theorem Job.eq_finished {job : Job} {result : Except Raised (List StepResult)}
    (h : job.result? = some result) : job = finished result := by
  cases job with
  | finished other => rw [Option.some.inj h]
  | waiting => cases h
  | sending steps tally => cases h
  | checking sent observation steps tally => cases h

namespace Runner

variable {σ : Type} (runner : Runner σ) [Unicode] [Decimals] (probe : Probe)

/-- Up to the first step. -/
def begin (s : RunnerState σ) : Job × RunnerState σ :=
  match runner.preflight probe with
  | .error e => (.finished (.error e), s)
  | .ok () =>
    let planned := probe.plan runner.substrate
    match runner.dropsWholeProbe planned with
    | .error e => (.finished (.error e), s)
    | .ok true =>
      (.finished (.ok []), recordDropped probe
        (planned.filter fun step => step.actorUserId.isSome).length s)
    | .ok false => (.sending planned {}, s)

/-- After a step was carried out. -/
def carriedOut (sent : ProbeStep) (steps : List ProbeStep) (tally : RunTally) :
    Except Raised Observation → RunnerState σ → Job × RunnerState σ
  | .error e, s => (.finished (.error e), s)
  | .ok observation, s => (.checking sent observation steps tally, s)

/-- The next step is carried out, where it is sent. -/
def sendNext (step : ProbeStep) (steps : List ProbeStep) (tally : RunTally) (s : RunnerState σ) :
    Job × RunnerState σ :=
  match runner.asSent step with
  | .error e => (.finished (.error e), s)
  | .ok none => (.sending steps { tally with dropped := tally.dropped + 1 }, s)
  | .ok (some sent) =>
    let called := onWorld (runner.execute sent) s
    carriedOut sent steps tally called.1 called.2

/-- After the plant that a step may be was read back, the step is judged. -/
def judged (sent : ProbeStep) (observation : Observation) (steps : List ProbeStep)
    (tally : RunTally) : Except Raised (Bool × Bool) → RunnerState σ → Job × RunnerState σ
  | .error e, s => (.finished (.error e), s)
  | .ok (plant, vanished), s =>
    let result := (sent, probe.detect sent observation runner.substrate)
    (.sending steps
      { tally with
        results := tally.results ++ [result]
        planted := tally.planted + plant.toNat
        unconfirmed := tally.unconfirmed + vanished.toNat },
      { s with executed := s.executed ++ [result] })

def judge (sent : ProbeStep) (observation : Observation) (steps : List ProbeStep)
    (tally : RunTally) (s : RunnerState σ) : Job × RunnerState σ :=
  let checked := runner.checkPlant sent s
  runner.judged probe sent observation steps tally checked.1 checked.2

/-- One step of the job of a probe. -/
def advance : Job → RunnerState σ → Job × RunnerState σ
  | .waiting, s => runner.begin probe s
  | .sending [] tally, s =>
    let concluded := conclude probe tally s
    (.finished (.ok concluded.1), concluded.2)
  | .sending (step :: steps) tally, s => runner.sendNext step steps tally s
  | .checking sent observation steps tally, s => runner.judge probe sent observation steps tally s
  | .finished result, s => (.finished result, s)

/-- The jobs of a suite. -/
def pool (suite : List Probe) : Tasks.Pool (Fin suite.length) Job (RunnerState σ) where
  step i job s := runner.advance (suite.get i) job s

end Runner

end Jobs

section Reaches

namespace Runner

variable {σ : Type} {runner : Runner σ} [Unicode] [Decimals] {probe : Probe}

variable (runner probe) in
/-- One job alone comes from one place to another. -/
def Reaches (before after : Job × RunnerState σ) : Prop :=
  ∃ n, (fun p : Job × RunnerState σ => runner.advance probe p.1 p.2)^[n] before = after

theorem Reaches.refl (p : Job × RunnerState σ) : Reaches runner probe p p := ⟨0, rfl⟩

theorem Reaches.head {p q : Job × RunnerState σ}
    (h : Reaches runner probe (runner.advance probe p.1 p.2) q) : Reaches runner probe p q := by
  obtain ⟨n, rfl⟩ := h
  exact ⟨n + 1, rfl⟩

theorem Reaches.step (p : Job × RunnerState σ) :
    Reaches runner probe p (runner.advance probe p.1 p.2) := .head (.refl _)

theorem Reaches.trans {p q r : Job × RunnerState σ} (hpq : Reaches runner probe p q)
    (hqr : Reaches runner probe q r) : Reaches runner probe p r := by
  obtain ⟨m, rfl⟩ := hpq
  obtain ⟨n, rfl⟩ := hqr
  exact ⟨n + m, Function.iterate_add_apply _ _ _ _⟩

/-- A step that is sent is carried out and judged in two steps of the job. -/
theorem reaches_sendStep {step sent : ProbeStep} (hsent : runner.asSent step = .ok (some sent))
    (steps : List ProbeStep) (tally : RunTally) (s : RunnerState σ) :
    Reaches runner probe (.sending (step :: steps) tally, s)
      (match runner.sendStep probe tally sent s with
        | (.error e, s) => (.finished (.error e), s)
        | (.ok tally, s) => (.sending steps tally, s)) := by
  apply Reaches.head
  simp only [advance, sendNext, hsent]
  unfold sendStep
  simp only [Call.bind]
  rcases onWorld (runner.execute sent) s with ⟨e | observation, s₁⟩
  · exact .refl _
  · apply Reaches.head
    simp only [carriedOut, advance, judge]
    rcases runner.checkPlant sent s₁ with ⟨e | ⟨plant, vanished⟩, s₂⟩
    · exact .refl _
    · exact .refl _

theorem reaches_sendSteps (steps : List ProbeStep) (tally : RunTally) (s : RunnerState σ) :
    Reaches runner probe (.sending steps tally, s)
      (match runner.sendSteps probe steps tally s with
        | (.error e, s) => (.finished (.error e), s)
        | (.ok tally, s) => (.sending [] tally, s)) := by
  induction steps generalizing tally s with
  | nil => exact .refl _
  | cons step steps ih =>
    unfold sendSteps
    simp only [Call.bind, Call.lift]
    cases hsent : runner.asSent step with
    | error e =>
      apply Reaches.head
      simp only [advance, sendNext, hsent]
      exact .refl _
    | ok sent =>
      cases sent with
      | none =>
        apply Reaches.head
        simp only [advance, sendNext, hsent]
        exact ih _ _
      | some sent =>
        apply Reaches.trans (reaches_sendStep hsent steps tally s)
        simp only [Call.bind]
        rcases runner.sendStep probe tally sent s with ⟨e | tally, s₁⟩
        · exact .refl _
        · exact ih _ _

/-- A job alone comes to what `run_per_step` comes to. -/
theorem reaches_runPerStep (s : RunnerState σ) :
    Reaches runner probe (.waiting, s)
      (.finished (runner.runPerStep probe s).1, (runner.runPerStep probe s).2) := by
  apply Reaches.head
  unfold runPerStep
  simp only [advance, begin, Call.bind, Call.lift]
  cases runner.preflight probe with
  | error e => exact .refl _
  | ok =>
    simp only
    cases runner.dropsWholeProbe (probe.plan runner.substrate) with
    | error e => exact .refl _
    | ok dropped =>
      cases dropped with
      | true => exact .refl _
      | false =>
        simp only [Bool.false_eq_true, if_false]
        apply Reaches.trans (reaches_sendSteps _ _ s)
        rcases runner.sendSteps probe (probe.plan runner.substrate) {} s with ⟨e | tally, s₁⟩
        · exact .refl _
        · exact .step _

/-- Running the probes one after the other is one of the schedules of their jobs, up to the first
exception. -/
theorem serial_schedule {suite : List Probe} {order : List (Fin suite.length)}
    (hnodup : order.Nodup) {s : (Fin suite.length → Job) × RunnerState σ}
    (hwaiting : ∀ i ∈ order, s.1 i = .waiting) : ∃ schedule r,
      SerialJobRunner.map runner.runPerStep (order.map fun i => suite.get i) s.2 =
        (r, ((runner.pool suite).after schedule s).2) ∧
      ThreadJobRunner.collect (order.map fun i =>
        (((runner.pool suite).after schedule s).1 i).result?) = some r ∧
      ∀ i ∉ order, ((runner.pool suite).after schedule s).1 i = s.1 i := by
  induction order generalizing s with
  | nil => exact ⟨[], .ok [], rfl, rfl, fun _ _ => rfl⟩
  | cons i order ih =>
    obtain ⟨hi, hnodup⟩ := List.nodup_cons.mp hnodup
    obtain ⟨hfirst, hwaiting⟩ := List.forall_mem_cons.mp hwaiting
    obtain ⟨n, hn⟩ : Reaches runner (suite.get i) (.waiting, s.2) _ := reaches_runPerStep s.2
    have hrun : (runner.pool suite).after (List.replicate n i) s =
        (Function.update s.1 i (.finished (runner.runPerStep (suite.get i) s.2).1),
          (runner.runPerStep (suite.get i) s.2).2) := by
      have halone : ((runner.pool suite).alone i)^[n] (s.1 i, s.2) =
          (.finished (runner.runPerStep (suite.get i) s.2).1,
            (runner.runPerStep (suite.get i) s.2).2) := by
        rw [hfirst]
        exact hn
      rw [Tasks.Pool.after_replicate, halone]
    rcases hresult : runner.runPerStep (suite.get i) s.2 with ⟨e | result, s₁⟩
    · simp only [hresult] at hrun
      refine ⟨List.replicate n i, .error e, ?_, ?_, fun j hj => ?_⟩
      · rw [hrun, List.map_cons, SerialJobRunner.map]
        simp only [Call.bind, hresult]
      · rw [hrun, List.map_cons]
        simp only [Function.update_self]
        rfl
      · rw [hrun]
        exact Function.update_of_ne (List.ne_of_not_mem_cons hj) _ _
    · simp only [hresult] at hrun
      have hothers : ∀ j ∈ order, Function.update s.1 i (.finished (.ok result)) j = .waiting := by
        intro j hj
        rw [Function.update_of_ne (ne_of_mem_of_not_mem hj hi)]
        exact hwaiting j hj
      obtain ⟨schedule, r, hserial, hcollect, hkept⟩ :=
        @ih hnodup (Function.update s.1 i (.finished (.ok result)), s₁) hothers
      refine ⟨List.replicate n i ++ schedule, r.map fun results => result :: results, ?_, ?_,
        fun j hj => ?_⟩
      · rw [Tasks.Pool.after_append, hrun, List.map_cons, SerialJobRunner.map]
        simp only [Call.bind, hresult, Call.map, hserial]
        cases r <;> rfl
      · rw [Tasks.Pool.after_append, hrun, List.map_cons, hkept i hi]
        simp only [Function.update_self, Job.result?_finished, ThreadJobRunner.collect, hcollect,
          Option.map_some]
      · rw [Tasks.Pool.after_append, hrun, hkept j (List.not_mem_of_not_mem_cons hj)]
        exact Function.update_of_ne (List.ne_of_not_mem_cons hj) _ _

end Runner

end Reaches

end Sectum
