import Sectum.Evidence.Oscal

/-! Which controls the OSCAL export of a run states a verdict for, and what its verdicts rest on. -/

namespace Sectum

open Py Oscal

namespace RunResult

variable {run : RunResult}

theorem mem_liveSurfaces {surface : Surface} :
    surface ∈ run.liveSurfaces ↔ run.surfaceProvenance.lookup surface = some .live := by
  unfold liveSurfaces
  rw [Finset.mem_filter, mem_exercisedSurfaces, Dict.mem_iff_lookup]
  exact ⟨And.right, fun h => ⟨⟨_, h⟩, h⟩⟩

theorem liveAmong_nil : run.liveAmong [] = run.liveSurfaces := if_pos rfl

theorem mem_erasureScannedSurfaces {surface : Surface} :
    surface ∈ run.erasureScannedSurfaces ↔ surface ∈ run.liveSurfaces ∧
      ∃ verdict, run.metrics.erasureCoverage.lookup surface = some verdict ∧
        verdict ≠ .notCovered := by
  unfold erasureScannedSurfaces
  rw [List.mem_toFinset, List.mem_map]
  constructor
  · rintro ⟨⟨surface, verdict⟩, hentry, rfl⟩
    obtain ⟨hmem, hprop⟩ := List.mem_filter.mp hentry
    obtain ⟨hlive, hverdict⟩ := of_decide_eq_true hprop
    exact ⟨hlive, verdict, Dict.mem_items.mp hmem, hverdict⟩
  · rintro ⟨hlive, verdict, hlookup, hverdict⟩
    exact ⟨(surface, verdict), List.mem_filter.mpr ⟨Dict.mem_items.mpr hlookup,
      decide_eq_true ⟨hlive, hverdict⟩⟩, rfl⟩

theorem coverage_erasure {surface : Surface} {verdict : CoverageVerdict}
    (h : run.metrics.erasureCoverage.lookup surface = some verdict) :
    surface ∈ erasureSurfaces :=
  run.metrics.coverage_keys surface (AList.mem_keys.mpr (Dict.mem_iff_lookup.mpr ⟨_, h⟩))

/-- Every live erasure surface has the verdict ERASED. -/
def FullyErased (run : RunResult) : Prop :=
  ∀ surface ∈ erasureSurfaces, run.surfaceProvenance.lookup surface = some .live →
    run.metrics.erasureCoverage.lookup surface = some .erased

theorem supports_erasure_iff :
    run.supports .erasure [] = true ↔
      ∃ surface ∈ run.liveSurfaces, ∃ verdict, (verdict = .erased ∨ verdict = .residual) ∧
        run.metrics.erasureCoverage.lookup surface = some verdict := by
  unfold supports
  rw [liveAmong_nil, List.any_eq_true]
  constructor
  · rintro ⟨⟨surface, verdict⟩, hmem, hprop⟩
    obtain ⟨hverdict, hlive⟩ := of_decide_eq_true hprop
    exact ⟨surface, hlive, verdict, hverdict, Dict.mem_items.mp hmem⟩
  · rintro ⟨surface, hlive, verdict, hverdict, hlookup⟩
    exact ⟨(surface, verdict), Dict.mem_items.mpr hlookup, decide_eq_true ⟨hverdict, hlive⟩⟩

theorem hasResidual_iff (h : run.supports .erasure [] = true) :
    run.hasResidual = true ↔ ¬run.FullyErased := by
  obtain ⟨scanned, -, verdict, -, hscanned⟩ := supports_erasure_iff.mp h
  have hkeys : run.metrics.erasureCoverage.keys ≠ [] :=
    List.ne_nil_of_mem (AList.mem_keys.mpr (Dict.mem_iff_lookup.mpr ⟨_, hscanned⟩))
  unfold hasResidual residualSurfaces FullyErased
  rw [if_neg hkeys, decide_eq_true_eq, ← Finset.nonempty_iff_ne_empty]
  constructor
  · rintro ⟨surface, hmem⟩ herased
    obtain ⟨hinter, hverdict⟩ := Finset.mem_filter.mp hmem
    obtain ⟨hlive, herasure⟩ := Finset.mem_inter.mp hinter
    have hlookup := herased surface (List.mem_toFinset.mp herasure) (mem_liveSurfaces.mp hlive)
    rw [Dict.getD, hlookup] at hverdict
    simp at hverdict
  · intro h
    push Not at h
    obtain ⟨surface, herasure, hlive, hnot⟩ := h
    refine ⟨surface, Finset.mem_filter.mpr ⟨Finset.mem_inter.mpr
      ⟨mem_liveSurfaces.mpr hlive, List.mem_toFinset.mpr herasure⟩, ?_⟩⟩
    rw [mem_erasureScannedSurfaces, mem_liveSurfaces, Dict.getD]
    cases hlookup : run.metrics.erasureCoverage.lookup surface with
    | none => exact Or.inr rfl
    | some verdict =>
      rw [hlookup] at hnot
      by_cases hnone : verdict = .notCovered
      · exact Or.inr hnone
      · exact Or.inl ⟨⟨hlive, verdict, rfl, hnone⟩, fun h => hnot (congrArg some h)⟩

theorem unplaceableErasure_iff (h : run.exercisedSurfaces ≠ ∅) :
    run.unplaceableErasure = true ↔
      ∃ f ∈ run.findings, f.status = .confirmed ∧ f.isCrossPrincipal = false ∧
        f.backingSurface ∈ erasureSurfaces ∧ f.backingSurface ∉ run.surfaceProvenance := by
  unfold unplaceableErasure unplaceable unaccountedSurfaces
  rw [List.any_eq_true, if_neg h]
  constructor
  · rintro ⟨f, hmem, hprop⟩
    obtain ⟨hf, hconfirmed⟩ := List.mem_filter.mp hmem
    obtain ⟨hstatus, hsurface⟩ := of_decide_eq_true hconfirmed
    rw [Finset.mem_sdiff, mem_exercisedSurfaces] at hsurface
    rw [Bool.and_eq_true, Bool.not_eq_true', decide_eq_true_eq] at hprop
    exact ⟨f, hf, hstatus, hprop.1, hprop.2, hsurface.2⟩
  · rintro ⟨f, hf, hstatus, hcross, herasure, hsurface⟩
    refine ⟨f, List.mem_filter.mpr ⟨hf, decide_eq_true ⟨hstatus, ?_⟩⟩, ?_⟩
    · rw [Finset.mem_sdiff, mem_exercisedSurfaces, List.mem_toFinset]
      exact ⟨List.mem_map_of_mem hf, hsurface⟩
    · rw [Bool.and_eq_true, Bool.not_eq_true', decide_eq_true_eq]
      exact ⟨hcross, herasure⟩

end RunResult

section Assertion

variable {run : RunResult}

theorem mem_liveScanned {surface : Surface} :
    surface ∈ run.liveSurfaces ∩ run.erasureScannedSurfaces ↔
      run.surfaceProvenance.lookup surface = some .live ∧ ∃ verdict,
        run.metrics.erasureCoverage.lookup surface = some verdict ∧ verdict ≠ .notCovered := by
  rw [Finset.mem_inter, RunResult.mem_erasureScannedSurfaces, RunResult.mem_liveSurfaces]
  exact ⟨And.right, fun h => ⟨h.1, h⟩⟩

theorem erasureFailures_split (named : Finset Surface) : erasureFailures run named = [] ↔
    (∀ surface ∈ named, run.metrics.erasureCoverage.lookup surface ≠ some .residual ∧
      run.metrics.erasureCoverage.lookup surface ≠ some .attestableWithCaveat) ∧
    inconclusiveSurfaces run named = ∅ := by
  unfold erasureFailures
  simp only [List.append_eq_nil_iff, ite_eq_right_iff, List.cons_ne_nil, imp_false, not_not,
    Finset.mem_image, not_exists, not_and, ne_eq, ← forall_and]

/-- Nothing keeps the run from attesting the erasure: all of it is ERASED, and no marker is left
that a scan could not rule out. -/
theorem erasureFailures_eq_nil :
    erasureFailures run (run.liveSurfaces ∩ run.erasureScannedSurfaces) = [] ↔
      run.FullyErased ∧ ∀ surface ∈ erasureSurfaces,
        run.surfaceProvenance.lookup surface = some .live →
          ¬0 < run.metrics.erasureUnverifiable.getD surface 0 := by
  rw [erasureFailures_split]
  unfold inconclusiveSurfaces RunResult.FullyErased
  rw [Finset.union_eq_empty, Finset.filter_eq_empty_iff, Finset.filter_eq_empty_iff]
  constructor
  · rintro ⟨hclean, hestablished, hcertain⟩
    have herased : ∀ surface ∈ erasureSurfaces,
        run.surfaceProvenance.lookup surface = some .live →
          run.metrics.erasureCoverage.lookup surface = some .erased := by
      intro surface herasure hlive
      have hverdict := hestablished (Finset.mem_inter.mpr
        ⟨RunResult.mem_liveSurfaces.mpr hlive, List.mem_toFinset.mpr herasure⟩)
      rw [Dict.getD] at hverdict
      cases hlookup : run.metrics.erasureCoverage.lookup surface with
      | none =>
        rw [hlookup] at hverdict
        exact absurd rfl hverdict
      | some verdict =>
        rw [hlookup] at hverdict
        have hscanned := hclean surface (mem_liveScanned.mpr ⟨hlive, verdict, hlookup, hverdict⟩)
        rw [hlookup] at hscanned
        cases verdict with
        | erased => rfl
        | residual => exact absurd rfl hscanned.1
        | attestableWithCaveat => exact absurd rfl hscanned.2
        | notCovered => exact absurd rfl hverdict
    refine ⟨herased, fun surface herasure hlive =>
      hcertain (mem_liveScanned.mpr ⟨hlive, .erased, ?_, ?_⟩)⟩
    · exact herased surface herasure hlive
    · decide
  · rintro ⟨herased, hcertain⟩
    refine ⟨fun surface hmem => ?_, fun {surface} hmem => ?_, fun {surface} hmem => ?_⟩
    · obtain ⟨hlive, verdict, hlookup, -⟩ := mem_liveScanned.mp hmem
      rw [herased surface (RunResult.coverage_erasure hlookup) hlive]
      decide
    · obtain ⟨hlive, herasure⟩ := Finset.mem_inter.mp hmem
      rw [Dict.getD, herased surface (List.mem_toFinset.mp herasure)
        (RunResult.mem_liveSurfaces.mp hlive)]
      decide
    · obtain ⟨hlive, verdict, hlookup, -⟩ := mem_liveScanned.mp hmem
      exact hcertain surface (RunResult.coverage_erasure hlookup) hlive

end Assertion

section Rows

variable {row other : ControlRow} {run : RunResult}

theorem controlTable_unique : ∀ row ∈ controlTable, ∀ other ∈ controlTable,
    other.framework = row.framework → ∀ controlId ∈ row.controlIds,
      controlId ∈ other.controlIds → other = row := by
  decide +kernel

theorem controlTable_find : ∀ row ∈ controlTable, row.mapping.row = some row := by
  decide +kernel

theorem controlTable_erasure : ∀ row ∈ controlTable, row.requirement = .erasure →
    row.surfaces = [] := by
  decide

theorem asserted_requirement (h : row ∈ controlTable) :
    mappingRequirement (row.asserted run) = row.requirement := by
  have hrow : (row.asserted run).row = some row := controlTable_find row h
  unfold mappingRequirement
  rw [hrow]
  rfl

theorem assertedSurfaces_erasure (h : row ∈ controlTable) (hreq : row.requirement = .erasure) :
    assertedSurfaces run row.mapping = run.liveSurfaces ∩ run.erasureScannedSurfaces := by
  unfold assertedSurfaces
  rw [controlTable_find row h]
  simp only [hreq, controlTable_erasure row h hreq, RunResult.liveAmong_nil]

theorem mem_controlMappings {mapping : ControlMapping} :
    mapping ∈ controlMappings (some run) ↔
      ∃ row ∈ controlTable, run.supports row.requirement row.surfaces = true ∧
        mapping = row.asserted run := by
  unfold controlMappings
  rw [List.mem_map]
  constructor
  · rintro ⟨row, hrow, rfl⟩
    obtain ⟨hmem, hsupports⟩ := List.mem_filter.mp hrow
    exact ⟨row, hmem, hsupports, rfl⟩
  · rintro ⟨row, hmem, hsupports, rfl⟩
    exact ⟨row, List.mem_filter.mpr ⟨hmem, hsupports⟩, rfl⟩

def Oscal.ControlFinding.States (c : ControlFinding) (framework controlId : String) : Prop :=
  c.target.props = [prop "framework" framework] ∧ c.target.targetId = controlId

theorem Oscal.ControlFinding.States.row_unique {c : ControlFinding}
    {controlId controlId' : String} (hrow : row ∈ controlTable) (hother : other ∈ controlTable)
    (h : c.States row.framework controlId) (h' : c.States other.framework controlId')
    (hid : controlId ∈ row.controlIds) (hid' : controlId' ∈ other.controlIds) : other = row := by
  have hframework : other.framework = row.framework := by
    have hprops := h'.1.symm.trans h.1
    simpa [prop] using hprops
  have hsame : controlId' = controlId := h'.2.symm.trans h.2
  rw [hsame] at hid'
  exact controlTable_unique row hrow other hother hframework controlId hid hid'

end Rows

section Verdicts

variable [Unicode] {run : RunResult}

def Oscal.AssessmentResults.controlFindings (document : AssessmentResults) :
    List ControlFinding :=
  document.results.flatMap fun result => result.findings.getD []

theorem runToOscal_controlFindings (toolVersion : String) :
    (runToOscal run toolVersion).controlFindings = controlFindings run := by
  unfold AssessmentResults.controlFindings runToOscal
  simp only [List.flatMap_cons, List.flatMap_nil, List.append_nil]
  split
  · rename_i hnone
    rw [hnone]
    rfl
  · rfl

/-- A control finding is the verdict of a row that the run supports and the export does not
withhold. -/
theorem mem_controlFindings {c : ControlFinding} (h : c ∈ controlFindings run) :
    ∃ row ∈ controlTable, run.supports row.requirement row.surfaces = true ∧
      run.withholds (row.asserted run) = false ∧
      (∃ controlId ∈ row.controlIds, c.States row.framework controlId) ∧
      (c.target.state = .satisfied ↔ (if row.requirement = .erasure then run.hasResidual
        else run.hasConfirmedLeak) = false) := by
  unfold controlFindings at h
  obtain ⟨mapping, hmapping, hc⟩ := List.mem_flatMap.mp h
  obtain ⟨hmem, hstated⟩ := List.mem_filter.mp hmapping
  obtain ⟨row, hrow, hsupports, rfl⟩ := mem_controlMappings.mp hmem
  obtain ⟨controlId, hid, rfl⟩ := List.mem_map.mp hc
  refine ⟨row, hrow, hsupports, by simpa using hstated, ⟨controlId, hid, rfl, rfl⟩, ?_⟩
  unfold controlFinding
  simp only [asserted_requirement hrow, decide_eq_true_eq]
  split <;> split <;> simp_all

theorem exists_controlFinding {row : ControlRow} {controlId : String} (hrow : row ∈ controlTable)
    (hsupports : run.supports row.requirement row.surfaces = true)
    (hstated : run.withholds (row.asserted run) = false) (hid : controlId ∈ row.controlIds) :
    ∃ c ∈ controlFindings run, c.States row.framework controlId := by
  unfold controlFindings
  refine ⟨_, List.mem_flatMap.mpr ⟨row.asserted run, List.mem_filter.mpr ⟨?_, ?_⟩,
    List.mem_map.mpr ⟨controlId, hid, rfl⟩⟩, rfl, rfl⟩
  · exact mem_controlMappings.mpr ⟨row, hrow, hsupports, rfl⟩
  · rw [hstated]
    rfl

end Verdicts

end Sectum
