import Sectum.Probes.ErasureItemized
import Sectum.Probes.SubjectErasure

/-! What the checks of a data-subject run read, and what they leave: a row for the residuals that
were read, and a finding for each. -/

namespace Sectum

open Py

namespace SubjectErasureProbe

variable {σ : Type}

theorem bind_error {α β : Type} {step : ScanStep σ α} {next : α → ScanStep σ β}
    {scan scan' : SubjectScan} {world after : σ} {e : Raised}
    (h : step scan world = (.error e, scan', after)) :
    step.bind next scan world = (.error e, scan', after) := by
  rw [ScanStep.bind, h]

theorem bind_ok {α β : Type} {step : ScanStep σ α} {next : α → ScanStep σ β}
    {scan scan' : SubjectScan} {world after : σ} {a : α}
    (h : step scan world = (.ok a, scan', after)) :
    step.bind next scan world = next a scan' after := by
  rw [ScanStep.bind, h]

/-- A read about a record or a phrase, and the finding that records that it is still there. -/
structure Question (σ : Type) where
  ask : Call σ Raised (Option Bool)
  finding : Finding

/-- What the reads of a scan came to. -/
abbrev Answers (σ : Type) := Asked σ Raised (Question σ) (Option Bool)

def questionsOf (stillThere : String → Call σ Raised (Option Bool)) (record : String → Finding)
    (markers : List String) : List (Question σ) :=
  markers.map fun marker => ⟨stillThere marker, record marker⟩

/-- What a run of `_seen` comes to, by its reads. -/
structure SeenAs (asked : Answers σ) (count : Nat)
    (findings : List Finding) (outcome : Except Raised (List String × Nat) × SubjectScan × σ) :
    Prop where
  raised : ∀ e, asked.raised = some e → outcome.1 = .error e
  returned : asked.raised = none → ∃ present undecided, outcome.1 = .ok (present, undecided) ∧
    present.length = count + (asked.answering (some true)).length
  findings : outcome.2.1.findings = findings ++ (asked.answering (some true)).map Question.finding
  world : outcome.2.2 = asked.world

theorem SeenAs.of_error {asked : Answers σ} {count : Nat} {findings : List Finding}
    {outcome : Except Raised (List String × Nat) × SubjectScan × σ} {e : Raised}
    (h : SeenAs asked count findings outcome) (herror : outcome.1 = .error e) :
    asked.raised = some e := by
  cases hraised : asked.raised with
  | none =>
    obtain ⟨present, undecided, hok, -⟩ := h.returned hraised
    cases herror.symm.trans hok
  | some e' => rw [Except.error.inj (herror.symm.trans (h.raised e' hraised))]

theorem SeenAs.of_ok {asked : Answers σ} {count undecided : Nat} {findings : List Finding}
    {outcome : Except Raised (List String × Nat) × SubjectScan × σ} {present : List String}
    (h : SeenAs asked count findings outcome) (hok : outcome.1 = .ok (present, undecided)) :
    asked.raised = none ∧ present.length = count + (asked.answering (some true)).length := by
  cases hraised : asked.raised with
  | none =>
    obtain ⟨present', undecided', hok', hlength⟩ := h.returned hraised
    rw [hok] at hok'
    cases hok'
    exact ⟨rfl, hlength⟩
  | some e =>
    have herror := h.raised e hraised
    rw [hok] at herror
    cases herror

theorem seenFrom_seenAs (stillThere : String → Call σ Raised (Option Bool))
    (record : String → Finding) (markers present : List String) (undecided : Nat)
    (scan : SubjectScan) (world : σ) :
    SeenAs (askAll Question.ask (questionsOf stillThere record markers) world) present.length scan.findings
      (seenFrom stillThere record markers present undecided scan world) := by
  induction markers generalizing present undecided scan world with
  | nil =>
    exact ⟨fun e h => (by cases h), fun _ => ⟨present, undecided, rfl, rfl⟩,
      (List.append_nil _).symm, rfl⟩
  | cons marker markers ih =>
    have hcons : questionsOf stillThere record (marker :: markers) =
        ⟨stillThere marker, record marker⟩ :: questionsOf stillThere record markers := rfl
    unfold seenFrom
    rw [hcons]
    rcases hread : stillThere marker world with ⟨e | answer, after⟩
    · have hask : Question.ask ⟨stillThere marker, record marker⟩ world = (.error e, after) := hread
      rw [askAll_cons_error hask]
      exact ⟨fun e' h => congrArg Except.error (Option.some.inj h), fun h => (by cases h),
        (List.append_nil _).symm, rfl⟩
    · have hask : Question.ask ⟨stillThere marker, record marker⟩ world = (.ok answer, after) :=
        hread
      rw [askAll_cons_ok hask]
      cases answer with
      | none =>
        have h := ih present (undecided + 1) scan after
        exact ⟨h.raised, h.returned, h.findings, h.world⟩
      | some answer =>
        cases answer with
        | false =>
          have h := ih present undecided { scan with decided := scan.decided + 1 } after
          exact ⟨h.raised, h.returned, h.findings, h.world⟩
        | true =>
          have h := ih (present ++ [marker]) undecided
            { findings := scan.findings ++ [record marker], decided := scan.decided + 1 } after
          refine ⟨h.raised, fun hnone => ?_, ?_, h.world⟩
          · obtain ⟨present', undecided', hok, hlength⟩ := h.returned hnone
            refine ⟨present', undecided', hok, ?_⟩
            rw [hlength]
            simp
            omega
          · rw [h.findings]
            simp

theorem seen_seenAs (markers : List String) (stillThere : String → Call σ Raised (Option Bool))
    (record : String → Finding) (scan : SubjectScan) (world : σ) :
    SeenAs (askAll Question.ask (questionsOf stillThere record markers) world) 0 scan.findings
      (seen markers stillThere record scan world) :=
  seenFrom_seenAs stillThere record markers [] 0 scan world

/-- A row of this check for a surface on which it counted residuals. -/
structure CheckedRow (surface : Surface) (count : Nat) (row : SurfaceErasure) : Prop where
  surface : row.surface = surface
  residualAfter : row.residualAfter = count
  supported : row.erasureSupported = true
  baseline : row.baselineObserved = false

theorem CheckedRow.residual_iff {surface : Surface} {count : Nat} {row : SurfaceErasure}
    (h : CheckedRow surface count row) : row.coverageVerdict = .residual ↔ 0 < count := by
  unfold SurfaceErasure.coverageVerdict SurfaceErasure.attestableWithCaveat
  rw [h.supported, h.baseline, h.residualAfter]
  by_cases hcount : 0 < count <;> simp [hcount]

/-- What the scan of a surface comes to, by its reads. -/
structure CheckedAs (surface : Surface) (asked : Answers σ)
    (outcome : Except Raised (Option SurfaceErasure) × SubjectScan × σ) : Prop where
  raised : ∀ e, asked.raised = some e → outcome.1 = .error e
  returned : asked.raised = none → outcome.1 = .ok none ∧ asked.answering (some true) = [] ∨
    ∃ row, outcome.1 = .ok (some row) ∧
      CheckedRow surface (asked.answering (some true)).length row
  findings : outcome.2.1.findings = (asked.answering (some true)).map Question.finding
  world : outcome.2.2 = asked.world

theorem CheckedAs.of_error {surface : Surface} {asked : Answers σ} {e : Raised}
    {outcome : Except Raised (Option SurfaceErasure) × SubjectScan × σ}
    (h : CheckedAs surface asked outcome) (herror : outcome.1 = .error e) :
    asked.raised = some e := by
  cases hraised : asked.raised with
  | none =>
    rcases h.returned hraised with ⟨hok, -⟩ | ⟨row, hok, -⟩
    · cases herror.symm.trans hok
    · cases herror.symm.trans hok
  | some e' => rw [Except.error.inj (herror.symm.trans (h.raised e' hraised))]

theorem checkedAs_nothing (surface : Surface) (world : σ) :
    CheckedAs surface (askAll Question.ask [] world) (.ok none, {}, world) :=
  ⟨fun e h => (by cases h), fun _ => Or.inl ⟨rfl, rfl⟩, rfl, rfl⟩

/-- A scan that ends in a row for what it saw. -/
theorem seen_checkedAs {surface : Surface} (stillThere : String → Call σ Raised (Option Bool))
    (record : String → Finding) (markers : List String)
    (row : List String × Nat → Option SurfaceErasure)
    (hrow : ∀ present undecided, row (present, undecided) = none ∧ present = [] ∨
      ∃ kept, row (present, undecided) = some kept ∧ CheckedRow surface present.length kept)
    (world : σ) :
    CheckedAs surface (askAll Question.ask (questionsOf stillThere record markers) world)
      ((seen markers stillThere record).bind (fun counted => .pure (row counted)) {} world) := by
  have h := seen_seenAs markers stillThere record {} world
  rcases hseen : seen markers stillThere record {} world with ⟨e | ⟨present, undecided⟩, scan, after⟩
  · rw [bind_error hseen]
    rw [hseen] at h
    have hraised := h.of_error rfl
    refine ⟨fun e' he => ?_, fun hnone => ?_, h.findings, h.world⟩
    · rw [hraised] at he
      exact congrArg Except.error (Option.some.inj he)
    · rw [hraised] at hnone
      cases hnone
  · rw [bind_ok hseen]
    rw [hseen] at h
    obtain ⟨hraised, hlength⟩ := h.of_ok rfl
    rw [Nat.zero_add] at hlength
    refine ⟨fun e he => ?_, fun _ => ?_, h.findings, h.world⟩
    · rw [hraised] at he
      cases he
    · rcases hrow present undecided with ⟨hnone, rfl⟩ | ⟨kept, hsome, hkept⟩
      · exact Or.inl ⟨congrArg Except.ok hnone, List.length_eq_zero_iff.mp hlength.symm⟩
      · exact Or.inr ⟨kept, congrArg Except.ok hsome, hlength ▸ hkept⟩

section Surfaces

variable (target : UUID) (manifest : SubjectManifest)

theorem checkedRow_checkedSurface (surface : Surface) (before after unverifiable : Nat) :
    CheckedRow surface after (checkedSurface surface before after unverifiable) :=
  ⟨rfl, rfl, rfl, rfl⟩

theorem checkIds_checkedAs {α : Type} (surface : Surface)
    (fetch : UUID → String → Call σ Raised (Option α)) (world : σ) :
    CheckedAs surface
      (askAll Question.ask (questionsOf (fetchable target fetch)
        (residualFinding target surface manifest.subjectRef)
        (supplied manifest.records surface)) world)
      (checkIds target manifest surface fetch {} world) := by
  by_cases hids : supplied manifest.records surface = []
  · simp only [checkIds, hids, if_true]
    exact checkedAs_nothing surface world
  · simp only [checkIds, hids, if_false]
    exact seen_checkedAs _ _ _ (fun found =>
        some (checkedSurface surface (supplied manifest.records surface).length found.1.length))
      (fun present _ => Or.inr ⟨_, rfl, checkedRow_checkedSurface ..⟩) world

variable [Unicode]

theorem checkContent_checkedAs (surface : Surface)
    (search : UUID → String → Call σ Raised (List String)) (world : σ) :
    CheckedAs surface
      (askAll Question.ask (questionsOf (contentIn target search)
        (fingerprintFinding target surface manifest.subjectRef)
        (supplied manifest.fingerprints surface)) world)
      (checkContent target manifest surface search {} world) := by
  by_cases hphrases : supplied manifest.fingerprints surface = []
  · simp only [checkContent, hphrases, if_true]
    exact checkedAs_nothing surface world
  · simp only [checkContent, hphrases, if_false]
    exact seen_checkedAs _ _ _ (fun found =>
        some (checkedSurface surface (supplied manifest.fingerprints surface).length found.1.length))
      (fun present _ => Or.inr ⟨_, rfl, checkedRow_checkedSurface ..⟩) world

def modelQuestions [Uuid4 σ] (model : ModelAdapter σ) : List (Question σ) :=
  if ErasureProbe.modelCanMemorize model then
    questionsOf (fun phrase => Call.map some (contentRecalled model target phrase))
      (fingerprintFinding target .modelAdapter manifest.subjectRef) (modelPhrases manifest model)
  else []

theorem checkModel_checkedAs [Uuid4 σ] (model : ModelAdapter σ) (world : σ) :
    CheckedAs .modelAdapter (askAll Question.ask (modelQuestions target manifest model) world)
      ((checkModel target manifest model).scan {} world) := by
  unfold modelQuestions
  by_cases hmodel : ErasureProbe.modelCanMemorize model = true
  · by_cases hphrases : modelPhrases manifest model = []
    · simp only [checkModel, hphrases, hmodel, true_or, if_true]
      exact checkedAs_nothing .modelAdapter world
    · simp only [checkModel, hphrases, hmodel, Bool.true_eq_false, or_self, if_false, if_true]
      refine seen_checkedAs _ _ _ (fun found => if found.1 ≠ [] ∨
          (supplied manifest.fingerprints .modelAdapter).length ≤
            (modelPhrases manifest model).length then
        some (checkedSurface .modelAdapter (modelPhrases manifest model).length found.1.length)
        else none) (fun recalled _ => ?_) world
      by_cases hrow : recalled ≠ [] ∨ (supplied manifest.fingerprints .modelAdapter).length ≤
          (modelPhrases manifest model).length
      · exact Or.inr ⟨_, if_pos hrow, checkedRow_checkedSurface ..⟩
      · exact Or.inl ⟨if_neg hrow, by_contra fun hne => hrow (Or.inl hne)⟩
  · simp only [checkModel, hmodel, or_true, if_true, Bool.false_eq_true, if_false]
    exact checkedAs_nothing .modelAdapter world

def vectorQuestions (vector : VectorStoreAdapter σ) : List (Question σ) :=
  questionsOf (fetchable target vector.fetch)
      (residualFinding target .vectorDb manifest.subjectRef)
      (supplied manifest.records .vectorDb) ++
    questionsOf (contentSurfaces target vector)
      (fingerprintFinding target .vectorDb manifest.subjectRef)
      (supplied manifest.fingerprints .vectorDb)

theorem checkVector_checkedAs (vector : VectorStoreAdapter σ) (world : σ) :
    CheckedAs .vectorDb (askAll Question.ask (vectorQuestions target manifest vector) world)
      ((checkVector target manifest vector).scan {} world) := by
  unfold vectorQuestions
  by_cases hnone : supplied manifest.records .vectorDb = [] ∧
      supplied manifest.fingerprints .vectorDb = []
  · simp only [checkVector, hnone, and_self, if_true]
    exact checkedAs_nothing .vectorDb world
  · simp only [checkVector, hnone, if_false]
    have hids := seen_seenAs (supplied manifest.records .vectorDb) (fetchable target vector.fetch)
      (residualFinding target .vectorDb manifest.subjectRef) {} world
    rcases hseen : seen (supplied manifest.records .vectorDb) (fetchable target vector.fetch)
      (residualFinding target .vectorDb manifest.subjectRef) {} world with
      ⟨e | ⟨present, undecided⟩, scan, between⟩
    · rw [hseen] at hids
      have hraised := hids.of_error rfl
      rw [askAll_append_raised hraised, bind_error hseen]
      refine ⟨fun e' he => ?_, fun hnone => ?_, hids.findings, hids.world⟩
      · rw [hraised] at he
        exact congrArg Except.error (Option.some.inj he)
      · rw [hraised] at hnone
        cases hnone
    · rw [hseen] at hids
      obtain ⟨hraised, hpresent⟩ := hids.of_ok rfl
      rw [askAll_append hraised, ← hids.world, bind_ok hseen]
      -- the fingerprint phase goes on from the findings of the by-id phase
      have hphrases := seen_seenAs (supplied manifest.fingerprints .vectorDb)
        (contentSurfaces target vector)
        (fingerprintFinding target .vectorDb manifest.subjectRef) scan between
      rcases hseen' : seen (supplied manifest.fingerprints .vectorDb)
        (contentSurfaces target vector)
        (fingerprintFinding target .vectorDb manifest.subjectRef) scan between with
        ⟨e | ⟨surfacing, inconclusive⟩, scan', after⟩
      · rw [bind_error hseen']
        rw [hseen'] at hphrases
        have hraised' := hphrases.of_error rfl
        refine ⟨fun e' he => ?_, fun hnone => ?_, ?_, hphrases.world⟩
        · rw [hraised'] at he
          exact congrArg Except.error (Option.some.inj he)
        · rw [hraised'] at hnone
          cases hnone
        · have hfirst : scan.findings = _ := hids.findings
          have hboth : scan'.findings = _ := hphrases.findings
          show scan'.findings = _
          simp [hboth, hfirst]
      · rw [bind_ok hseen']
        rw [hseen'] at hphrases
        obtain ⟨hraised', hsurfacing⟩ := hphrases.of_ok rfl
        refine ⟨fun e he => ?_, fun _ => Or.inr ⟨_, rfl, rfl, ?_, rfl, rfl⟩, ?_, hphrases.world⟩
        · rw [hraised'] at he
          cases he
        · show present.length + surfacing.length = _
          rw [hpresent, hsurfacing]
          simp
        · have hfirst : scan.findings = _ := hids.findings
          have hboth : scan'.findings = _ := hphrases.findings
          show scan'.findings = _
          simp [hboth, hfirst]

end Surfaces

/-- The surfaces that a data-subject run checks, in their order. -/
def subjectSurfaces : List Surface :=
  [.vectorDb, .semanticCache, .tracing, .modelAdapter, .agentMemory, .searchIndex]

theorem subjectSurfaces_nodup : subjectSurfaces.Nodup := by decide

theorem subjectSurfaces_subset : subjectSurfaces ⊆ erasureSurfaces := by decide

section Checks

variable [Unicode] [Uuid4 σ] (target : UUID) (manifest : SubjectManifest)
  (probe : SubjectErasureProbe σ)

/-- The reads that the scan of a surface goes through, in their order. -/
def questions : Surface → List (Question σ)
  | .vectorDb => probe.vector.elim [] (vectorQuestions target manifest)
  | .semanticCache => probe.cache.elim [] fun cache =>
    questionsOf (fetchable target cache.get)
      (residualFinding target .semanticCache manifest.subjectRef)
      (supplied manifest.records .semanticCache)
  | .tracing => probe.observability.elim [] fun observability =>
    questionsOf (fetchable target observability.fetchTrace)
      (residualFinding target .tracing manifest.subjectRef) (supplied manifest.records .tracing)
  | .modelAdapter => probe.model.elim [] (modelQuestions target manifest)
  | .agentMemory => probe.memory.elim [] fun memory =>
    questionsOf (contentIn target memory.recall)
      (fingerprintFinding target .agentMemory manifest.subjectRef)
      (supplied manifest.fingerprints .agentMemory)
  | .searchIndex => probe.searchIndex.elim [] fun searchIndex =>
    questionsOf (contentIn target searchIndex.search)
      (fingerprintFinding target .searchIndex manifest.subjectRef)
      (supplied manifest.fingerprints .searchIndex)
  | _ => []

theorem questions_finding {surface : Surface} {question : Question σ}
    (h : question ∈ probe.questions target manifest surface) :
    question.finding.status = .confirmed ∧ question.finding.surface = surface := by
  have hof : ∀ {stillThere : String → Call σ Raised (Option Bool)} {record : String → Finding}
      {markers : List String}, (∀ marker, (record marker).status = .confirmed ∧
        (record marker).surface = surface) →
      question ∈ questionsOf stillThere record markers →
        question.finding.status = .confirmed ∧ question.finding.surface = surface := by
    intro stillThere record markers hrecord hmem
    obtain ⟨marker, -, rfl⟩ := List.mem_map.mp hmem
    exact hrecord marker
  have helim : ∀ {α : Type} {x : Option α} {f : α → List (Question σ)},
      question ∈ x.elim [] f → ∃ a, question ∈ f a := by
    intro α x f hmem
    cases x with
    | none => cases hmem
    | some a => exact ⟨a, hmem⟩
  unfold questions at h
  split at h
  · obtain ⟨vector, h⟩ := helim h
    rcases List.mem_append.mp h with h | h
    · exact hof (fun _ => ⟨rfl, rfl⟩) h
    · exact hof (fun _ => ⟨rfl, rfl⟩) h
  · obtain ⟨cache, h⟩ := helim h
    exact hof (fun _ => ⟨rfl, rfl⟩) h
  · obtain ⟨observability, h⟩ := helim h
    exact hof (fun _ => ⟨rfl, rfl⟩) h
  · obtain ⟨model, h⟩ := helim h
    rw [modelQuestions] at h
    split at h
    · exact hof (fun _ => ⟨rfl, rfl⟩) h
    · cases h
  · obtain ⟨memory, h⟩ := helim h
    exact hof (fun _ => ⟨rfl, rfl⟩) h
  · obtain ⟨searchIndex, h⟩ := helim h
    exact hof (fun _ => ⟨rfl, rfl⟩) h
  · cases h

/-- The tracing adapter turned out to have no by-id fetch. -/
def NoFetch (surface : Surface) (asked : Answers σ) : Prop :=
  surface = .tracing ∧ ∃ e, asked.raised = some e ∧ e.errorClass = .notImplemented

/-- A check comes to what its reads do, except that a tracing adapter without a by-id fetch leaves
no row. -/
theorem checks_cases {check : SubjectCheck σ} (h : check ∈ probe.checks target manifest)
    (world : σ) :
    let asked := askAll Question.ask (probe.questions target manifest check.surface) world
    ¬NoFetch check.surface asked ∧ CheckedAs check.surface asked (check.scan {} world) ∨
      NoFetch check.surface asked ∧ (check.scan {} world).1 = .ok none ∧
        (check.scan {} world).2.1.findings =
          (asked.answering (some true)).map Question.finding := by
  simp only [checks, List.mem_append, Option.mem_toList, Option.map_eq_some_iff] at h
  rcases h with (((((⟨a, ha, rfl⟩ | ⟨a, ha, rfl⟩) | ⟨a, ha, rfl⟩) | ⟨a, ha, rfl⟩) |
    ⟨a, ha, rfl⟩) | ⟨a, ha, rfl⟩)
  · refine Or.inl ⟨fun hno => Surface.noConfusion hno.1, ?_⟩
    simp only [checkVector, questions, ha, Option.elim_some]
    exact checkVector_checkedAs target manifest a world
  · refine Or.inl ⟨fun hno => Surface.noConfusion hno.1, ?_⟩
    simp only [checkCache, questions, ha, Option.elim_some]
    exact checkIds_checkedAs target manifest .semanticCache a.get world
  · have hids := checkIds_checkedAs target manifest .tracing a.fetchTrace world
    simp only [checkTracing, questions, ha, Option.elim_some]
    rcases hscan : checkIds target manifest .tracing a.fetchTrace {} world with
      ⟨e | row, scan, after⟩
    · rw [hscan] at hids
      have hraised := hids.of_error rfl
      by_cases hclass : e.errorClass = .notImplemented
      · simp only [hclass, if_true, true_and]
        exact Or.inr ⟨⟨rfl, e, hraised, hclass⟩, hids.findings⟩
      · simp only [hclass, if_false]
        refine Or.inl ⟨?_, hids⟩
        rintro ⟨-, e', hraised', hclass'⟩
        rw [hraised] at hraised'
        cases hraised'
        exact hclass hclass'
    · rw [hscan] at hids
      refine Or.inl ⟨?_, hids⟩
      rintro ⟨-, e, hraised, -⟩
      cases hids.raised e hraised
  · refine Or.inl ⟨fun hno => Surface.noConfusion hno.1, ?_⟩
    simp only [checkModel, questions, ha, Option.elim_some]
    exact checkModel_checkedAs target manifest a world
  · refine Or.inl ⟨fun hno => Surface.noConfusion hno.1, ?_⟩
    simp only [checkMemory, questions, ha, Option.elim_some]
    exact checkContent_checkedAs target manifest .agentMemory a.recall world
  · refine Or.inl ⟨fun hno => Surface.noConfusion hno.1, ?_⟩
    simp only [checkSearch, questions, ha, Option.elim_some]
    exact checkContent_checkedAs target manifest .searchIndex a.search world

theorem checks_surfaces :
    ((probe.checks target manifest).map SubjectCheck.surface).Sublist subjectSurfaces := by
  have hsurfaces : subjectSurfaces = [Surface.vectorDb] ++ [.semanticCache] ++ [.tracing] ++
      [.modelAdapter] ++ [.agentMemory] ++ [.searchIndex] := rfl
  rw [hsurfaces]
  simp only [checks, List.map_append]
  refine List.Sublist.append (List.Sublist.append (List.Sublist.append (List.Sublist.append
    (List.Sublist.append ?_ ?_) ?_) ?_) ?_) ?_
  all_goals
    refine map_option_sublist (fun a => ?_) _
    rfl

end Checks

end SubjectErasureProbe

end Sectum
