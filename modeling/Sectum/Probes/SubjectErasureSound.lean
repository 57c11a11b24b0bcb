import Sectum.Probes.SubjectErasureSpec

/-! A data-subject run keeps every residual that it saw, against adapters that may answer or raise
anything at any call. -/

namespace Sectum

open Py

namespace SubjectErasureProbe

variable {σ : Type}

/-- What a surface adds to the report. -/
structure SubjectTurn where
  surface : Surface
  row : Option SurfaceErasure
  findings : List Finding

section Turns

variable (manifest : SubjectManifest)

def turn (check : SubjectCheck σ) (world : σ) : Option SubjectTurn × σ :=
  let s := (contained manifest check { world }).2
  (some ⟨check.surface, s.surfaces.head?, s.findings⟩, s.world)

theorem contained_turn (check : SubjectCheck σ) (s : SubjectState σ) :
    ∃ row unverifiable, (turn manifest check s.world).1 = some row ∧
      contained manifest check s =
        (.ok (), { surfaces := s.surfaces ++ row.row.toList, findings := s.findings ++ row.findings
                   unverifiable, world := (turn manifest check s.world).2 }) := by
  unfold turn contained
  simp only
  rcases check.scan {} s.world with ⟨e | row, scan, after⟩
  · exact ⟨_, _, rfl, rfl⟩
  · cases row with
    | none => exact ⟨_, _, rfl, rfl⟩
    | some row => exact ⟨_, _, rfl, rfl⟩

/-- No exception leaves the checks, and each adds its own turn. -/
theorem runChecks_turns (checks : List (SubjectCheck σ)) (s : SubjectState σ) :
    ∃ s', runChecks manifest checks s = (.ok (), s') ∧
      s'.surfaces = s.surfaces ++
        (sweep (turn manifest) checks s.world).1.flatMap (fun t => t.row.toList) ∧
      s'.findings = s.findings ++
        (sweep (turn manifest) checks s.world).1.flatMap SubjectTurn.findings := by
  induction checks generalizing s with
  | nil => exact ⟨s, rfl, (List.append_nil _).symm, (List.append_nil _).symm⟩
  | cons check checks ih =>
    obtain ⟨row, unverifiable, hrow, hcontained⟩ := contained_turn manifest check s
    obtain ⟨s', hrun, hsurfaces, hfindings⟩ := ih
      { surfaces := s.surfaces ++ row.row.toList, findings := s.findings ++ row.findings
        unverifiable, world := (turn manifest check s.world).2 }
    refine ⟨s', ?_, ?_, ?_⟩
    · rw [runChecks, hcontained]
      exact hrun
    · rw [hsurfaces]
      simp [sweep, hrow]
    · rw [hfindings]
      simp [sweep, hrow]

end Turns

section Verify

variable [Unicode] [Uuid4 σ] (target : UUID) (manifest : SubjectManifest)
  (probe : SubjectErasureProbe σ)

/-- A turn leaves a finding for each residual that was read, and a row that counts them, unless the
tracing adapter has no by-id fetch. -/
structure TurnOf (check : SubjectCheck σ) (asked : Answers σ) (t : SubjectTurn) : Prop where
  surface : t.surface = check.surface
  findings : t.findings = (asked.answering (some true)).map Question.finding
  row : ¬NoFetch check.surface asked → t.row = none ∧ t.findings = [] ∨
    ∃ row, t.row = some row ∧ CheckedRow check.surface t.findings.length row
  noRow : NoFetch check.surface asked → t.row = none

theorem turn_turnOf {check : SubjectCheck σ} (h : check ∈ probe.checks target manifest)
    (world : σ) {t : SubjectTurn} (ht : (turn manifest check world).1 = some t) :
    TurnOf check (askAll Question.ask (probe.questions target manifest check.surface) world) t := by
  have hcases := probe.checks_cases target manifest h world
  unfold turn contained at ht
  simp only [Option.some.injEq] at ht
  rcases hscan : check.scan {} world with ⟨e | row, scan, after⟩
  · rw [hscan] at hcases ht
    obtain rfl := ht
    rcases hcases with ⟨hfetch, hchecked⟩ | ⟨-, hok, -⟩
    · refine ⟨rfl, hchecked.findings, fun _ => Or.inr ⟨_, rfl, rfl, rfl, rfl, rfl⟩, ?_⟩
      exact fun hno => absurd hno hfetch
    · cases hok
  · rw [hscan] at hcases ht
    obtain rfl := ht
    rcases hcases with ⟨hfetch, hchecked⟩ | ⟨hno, hok, hfindings⟩
    · refine ⟨rfl, hchecked.findings, fun _ => ?_, fun hno => absurd hno hfetch⟩
      cases hraised : (askAll Question.ask (probe.questions target manifest check.surface)
        world).raised with
      | some e => cases hchecked.raised e hraised
      | none =>
        have hfindings : scan.findings = _ := hchecked.findings
        rcases hchecked.returned hraised with ⟨hok, hnone⟩ | ⟨kept, hok, hkept⟩
        · cases hok
          rw [hnone] at hfindings
          exact Or.inl ⟨rfl, hfindings⟩
        · cases hok
          refine Or.inr ⟨kept, rfl, ?_⟩
          show CheckedRow check.surface scan.findings.length kept
          rw [hfindings, List.length_map]
          exact hkept
    · cases hok
      exact ⟨rfl, hfindings, fun hfetch => absurd hno hfetch, fun _ => rfl⟩

variable (world : σ)

theorem turns_surfaces :
    ((sweep (turn manifest) (probe.checks target manifest) world).1.map
      SubjectTurn.surface).Sublist subjectSurfaces := by
  refine List.Sublist.trans (sweep_keys (fun check s t ht => ?_) _ world)
    (probe.checks_surfaces target manifest)
  obtain rfl := Option.some.inj ht
  rfl

variable {target manifest probe world}

theorem turns_rows {t : SubjectTurn}
    (ht : t ∈ (sweep (turn manifest) (probe.checks target manifest) world).1)
    {row : SurfaceErasure} (hrow : t.row = some row) :
    CheckedRow t.surface t.findings.length row := by
  obtain ⟨check, before, hvisits, hturn⟩ := mem_sweep.mp ht
  have hof := turn_turnOf target manifest probe hvisits.mem before hturn
  by_cases hno : NoFetch check.surface
    (askAll Question.ask (probe.questions target manifest check.surface) before)
  · cases hrow.symm.trans (hof.noRow hno)
  · rcases hof.row hno with ⟨hnone, -⟩ | ⟨kept, hkept, hchecked⟩
    · cases hrow.symm.trans hnone
    · cases hrow.symm.trans hkept
      rw [hof.surface]
      exact hchecked

theorem turns_findings {t : SubjectTurn}
    (ht : t ∈ (sweep (turn manifest) (probe.checks target manifest) world).1)
    {finding : Finding} (hfinding : finding ∈ t.findings) : finding.surface = t.surface := by
  obtain ⟨check, before, hvisits, hturn⟩ := mem_sweep.mp ht
  have hof := turn_turnOf target manifest probe hvisits.mem before hturn
  rw [hof.findings] at hfinding
  obtain ⟨question, hquestion, rfl⟩ := List.mem_map.mp hfinding
  rw [hof.surface]
  exact (probe.questions_finding target manifest (Asked.answering_subset hquestion)).2

variable (target manifest probe world)

/-- No exception of an adapter leaves a data-subject run. -/
theorem verify_report :
    ∃ report after, verify target manifest probe world = (.ok report, after) ∧
      report.surfaces = (sweep (turn manifest) (probe.checks target manifest) world).1.flatMap
        (fun t => t.row.toList) ∧
      report.findings = (sweep (turn manifest) (probe.checks target manifest) world).1.flatMap
        SubjectTurn.findings := by
  obtain ⟨s, hrun, hsurfaces, hfindings⟩ :=
    runChecks_turns manifest (probe.checks target manifest) { world }
  refine ⟨{ targetTenant := target, surfaces := s.surfaces, findings := s.findings
            unverifiable := s.unverifiable }, s.world, ?_, hsurfaces, hfindings⟩
  unfold verify
  rw [hrun]

/-- The rows of a data-subject run have no baseline, and are those of distinct surfaces. -/
theorem verify_rows {report : ErasureReport} {after : σ}
    (h : verify target manifest probe world = (.ok report, after)) :
    (∀ row ∈ report.surfaces, row.baselineObserved = false ∧ row.erasureSupported = true) ∧
      (report.surfaces.map SurfaceErasure.surface).Sublist subjectSurfaces := by
  obtain ⟨report', after', hverify, hsurfaces, -⟩ := verify_report target manifest probe world
  rw [h] at hverify
  cases hverify
  rw [hsurfaces]
  refine ⟨fun row hrow => ?_, ?_⟩
  · obtain ⟨t, ht, hrow⟩ := List.mem_flatMap.mp hrow
    have hchecked := turns_rows ht (Option.mem_toList.mp hrow)
    exact ⟨hchecked.baseline, hchecked.supported⟩
  · exact (flatMap_option_sublist fun t ht row hrow => (turns_rows ht hrow).surface).trans
      (turns_surfaces target manifest probe world)

/-- The run comes to the check of a surface, whose reads there come to `asked`. -/
def Reached (surface : Surface) (asked : Answers σ) : Prop :=
  ∃ check before, Visits (turn manifest) (probe.checks target manifest) world check before ∧
    check.surface = surface ∧
    asked = askAll Question.ask (probe.questions target manifest surface) before

variable {target manifest probe world}

theorem turn_reached {t : SubjectTurn}
    (ht : t ∈ (sweep (turn manifest) (probe.checks target manifest) world).1) :
    ∃ asked, Reached target manifest probe world t.surface asked ∧
      t.findings = (asked.answering (some true)).map Question.finding ∧
      (t.row = none → t.findings = [] ∨ NoFetch t.surface asked) := by
  obtain ⟨check, before, hvisits, hturn⟩ := mem_sweep.mp ht
  have hof := turn_turnOf target manifest probe hvisits.mem before hturn
  rw [hof.surface]
  refine ⟨_, ⟨check, before, hvisits, rfl, rfl⟩, hof.findings, fun hnone => ?_⟩
  by_cases hno : NoFetch check.surface
    (askAll Question.ask (probe.questions target manifest check.surface) before)
  · exact Or.inr hno
  · rcases hof.row hno with ⟨-, hempty⟩ | ⟨row, hrow, -⟩
    · exact Or.inl hempty
    · cases hnone.symm.trans hrow

theorem Reached.turn {surface : Surface} {asked : Answers σ}
    (h : Reached target manifest probe world surface asked) :
    ∃ t ∈ (sweep (turn manifest) (probe.checks target manifest) world).1, t.surface = surface ∧
      t.findings = (asked.answering (some true)).map Question.finding ∧
      (NoFetch surface asked → t.row = none) := by
  obtain ⟨check, before, hvisits, rfl, rfl⟩ := h
  have hof := turn_turnOf target manifest probe hvisits.mem before rfl
  exact ⟨_, mem_sweep.mpr ⟨check, before, hvisits, rfl⟩, hof.surface, hof.findings, hof.noRow⟩

variable (target manifest probe world)

/-- A trace was found by its id before the adapter turned out to have no by-id fetch. -/
def LostTrace : Prop :=
  ∃ asked, Reached target manifest probe world .tracing asked ∧
    asked.answering (some true) ≠ [] ∧ ∃ e, asked.raised = some e ∧ e.errorClass = .notImplemented

/-- What a data-subject run promises of its report: no surface reads ERASED, a read that found
something is recorded, and a surface reads RESIDUAL where something is recorded. -/
def KeepsResiduals (report : ErasureReport) : Prop :=
  (∀ surface, report.coverage.lookup surface ≠ some .erased) ∧
  (∀ surface asked question, Reached target manifest probe world surface asked →
    (question, some true) ∈ asked.answers → question.finding ∈ report.findings ∧
      question.finding.status = .confirmed ∧ question.finding.surface = surface) ∧
  ∀ surface, report.coverage.lookup surface = some .residual ↔
    ∃ finding ∈ report.findings, finding.surface = surface

/-- A surface of the report reads RESIDUAL exactly when its turn gave a row and a finding. -/
theorem verify_residual_iff {report : ErasureReport} {after : σ}
    (h : verify target manifest probe world = (.ok report, after)) (surface : Surface) :
    report.coverage.lookup surface = some .residual ↔
      ∃ t ∈ (sweep (turn manifest) (probe.checks target manifest) world).1,
        t.surface = surface ∧ t.row ≠ none ∧ t.findings ≠ [] := by
  obtain ⟨report', after', hverify, hsurfaces, -⟩ := verify_report target manifest probe world
  rw [h] at hverify
  cases hverify
  obtain ⟨-, hkeys⟩ := verify_rows target manifest probe world h
  rw [report.coverage_eq_some (subjectSurfaces_nodup.sublist hkeys)
    (fun row hrow => subjectSurfaces_subset (hkeys.subset (List.mem_map_of_mem hrow)))
    (show CoverageVerdict.residual ≠ .notCovered from nofun), hsurfaces]
  constructor
  · rintro ⟨row, hrow, rfl, hverdict⟩
    obtain ⟨t, ht, hrow⟩ := List.mem_flatMap.mp hrow
    have hchecked := turns_rows ht (Option.mem_toList.mp hrow)
    refine ⟨t, ht, hchecked.surface.symm, ?_, ?_⟩
    · rw [Option.mem_toList.mp hrow]
      exact Option.some_ne_none row
    · exact List.length_pos_iff.mp (hchecked.residual_iff.mp hverdict)
  · rintro ⟨t, ht, rfl, hrow, hfindings⟩
    obtain ⟨row, hrow⟩ := Option.ne_none_iff_exists'.mp hrow
    have hchecked := turns_rows ht hrow
    exact ⟨row, List.mem_flatMap.mpr ⟨t, ht, Option.mem_toList.mpr hrow⟩, hchecked.surface,
      hchecked.residual_iff.mpr (List.length_pos_iff.mpr hfindings)⟩

/-- A data-subject run keeps every residual that it saw, and no exception of an adapter leaves it,
exactly when no trace is lost. -/
theorem verify_keeps_iff :
    (∃ report after, verify target manifest probe world = (.ok report, after) ∧
      KeepsResiduals target manifest probe world report) ↔
      ¬LostTrace target manifest probe world := by
  obtain ⟨report, after, hverify, -, hfindings⟩ := verify_report target manifest probe world
  obtain ⟨hrows, hkeys⟩ := verify_rows target manifest probe world hverify
  constructor
  · rintro ⟨report', after', hverify', -, hkept, hresidual⟩ ⟨asked, hreached, hseen, hno⟩
    rw [hverify] at hverify'
    cases hverify'
    obtain ⟨question, hquestion⟩ := List.exists_mem_of_ne_nil _ hseen
    obtain ⟨hmem, -, hsurface⟩ :=
      hkept .tracing asked question hreached (Asked.mem_answering.mp hquestion)
    obtain ⟨t, ht, htsurface, hrow, -⟩ := (verify_residual_iff target manifest probe world hverify
      .tracing).mp ((hresidual .tracing).mpr ⟨_, hmem, hsurface⟩)
    obtain ⟨t', ht', htsurface', -, hnoRow⟩ := hreached.turn
    have hsame : t = t' := List.inj_on_of_nodup_map
      (subjectSurfaces_nodup.sublist (turns_surfaces target manifest probe world)) ht ht'
      (htsurface.trans htsurface'.symm)
    exact hrow (hsame ▸ hnoRow ⟨rfl, hno⟩)
  · intro hlost
    refine ⟨report, after, hverify, fun surface herased => ?_, ?_, fun surface => ?_⟩
    · obtain ⟨row, hrow, -, hverdict⟩ := (report.coverage_eq_some
        (subjectSurfaces_nodup.sublist hkeys)
        (fun row hrow => subjectSurfaces_subset (hkeys.subset (List.mem_map_of_mem hrow)))
        (show CoverageVerdict.erased ≠ .notCovered from nofun)).mp herased
      obtain ⟨-, hbaseline, -⟩ := row.coverageVerdict_erased_iff.mp hverdict
      rw [(hrows row hrow).1] at hbaseline
      cases hbaseline
    · intro surface asked question hreached hquestion
      obtain ⟨t, ht, rfl, htfindings, -⟩ := hreached.turn
      have hmem : question.finding ∈ t.findings := by
        rw [htfindings]
        exact List.mem_map_of_mem (Asked.mem_answering.mpr hquestion)
      obtain ⟨check, before, -, hsurface, rfl⟩ := hreached
      refine ⟨?_, (probe.questions_finding target manifest
        (Asked.answering_subset (Asked.mem_answering.mpr hquestion)))⟩
      rw [hfindings]
      exact List.mem_flatMap.mpr ⟨t, ht, hmem⟩
    · rw [verify_residual_iff target manifest probe world hverify, hfindings]
      constructor
      · rintro ⟨t, ht, rfl, -, hsome⟩
        obtain ⟨finding, hfinding⟩ := List.exists_mem_of_ne_nil _ hsome
        exact ⟨finding, List.mem_flatMap.mpr ⟨t, ht, hfinding⟩, turns_findings ht hfinding⟩
      · rintro ⟨finding, hfinding, rfl⟩
        obtain ⟨t, ht, hfinding⟩ := List.mem_flatMap.mp hfinding
        rw [turns_findings ht hfinding]
        refine ⟨t, ht, rfl, fun hnone => ?_, List.ne_nil_of_mem hfinding⟩
        obtain ⟨asked, hreached, htfindings, hnoRow⟩ := turn_reached ht
        rcases hnoRow hnone with hempty | ⟨hsurface, hno⟩
        · rw [hempty] at hfinding
          cases hfinding
        · rw [hsurface] at hreached
          refine hlost ⟨asked, hreached, fun hnothing => ?_, hno⟩
          rw [htfindings, hnothing] at hfinding
          cases hfinding

end Verify

section Sample

attribute [local instance] Unicode.ascii ErasureProbe.storeUuid4

/-- A backend that looks up the traces of one project by their id. -/
def projectTraces : ObservabilityAdapter Bool where
  searchTraces _ _ world := (.ok [], world)
  fetchTrace _ traceId world :=
    if traceId = "trace-1" then (.ok (some ⟨"trace-1", "support", "a note"⟩), world)
    else (.error ⟨.notImplemented, ""⟩, world)
  delete _ world := (.ok (), world)

def tracedSubject : SubjectManifest where
  subjectRef := "dsr-7"
  records := Dict.ofItems [(.tracing, ["trace-1", "trace-2"])]

/-- The first trace is still there and has a finding, and the tracing surface reads NOT_COVERED. -/
theorem projectTraces_lost :
    let outcome := verify ⟨1⟩ tracedSubject { observability := some projectTraces } true
    (outcome.1.toOption.map fun report =>
        (report.coverage.lookup .tracing, report.findings.map Finding.surface)) =
      some (some .notCovered, [.tracing]) ∧
    ¬∃ report after, outcome = (.ok report, after) ∧
      KeepsResiduals ⟨1⟩ tracedSubject { observability := some projectTraces } true report := by
  intro outcome
  have hread : (outcome.1.toOption.map fun report =>
      (report.coverage.lookup .tracing, report.findings.map Finding.surface)) =
        some (some .notCovered, [.tracing]) := by
    decide +kernel
  refine ⟨hread, ?_⟩
  rintro ⟨report, after, hreport, -, -, hresidual⟩
  rw [hreport] at hread
  obtain ⟨hcoverage, hsurfaces⟩ := Prod.mk.inj (Option.some.inj hread)
  have hfound : Surface.tracing ∈ report.findings.map Finding.surface := by
    rw [hsurfaces]
    exact List.mem_cons_self
  obtain ⟨finding, hfinding, hsurface⟩ := List.mem_map.mp hfound
  have hverdict := (hresidual .tracing).mpr ⟨finding, hfinding, hsurface⟩
  cases hcoverage.symm.trans hverdict

end Sample

end SubjectErasureProbe

end Sectum
