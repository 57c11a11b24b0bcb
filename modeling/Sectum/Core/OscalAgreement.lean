import Sectum.Core.ScoreRules
import Sectum.Evidence.OscalSpec

/-! An isolation control that the OSCAL export states as satisfied, and the scorecard of the same
record. -/

namespace Sectum

open Py Oscal

namespace RunResult

variable {run : RunResult}

theorem hasConfirmedLeak_eq_false (h : run.hasConfirmedLeak = false) {f : Finding}
    (hf : f ∈ run.findings) (hstatus : f.status = .confirmed) (hcross : f.isCrossPrincipal = true) :
    f.backingSurface ∉ run.liveSurfaces := by
  intro hlive
  have hattested : f ∈ run.attested := List.mem_filter.mpr ⟨hf, decide_eq_true ⟨hstatus, hlive⟩⟩
  exact absurd hcross (List.any_eq_false.mp h f hattested)

theorem unplaceableIsolation_eq_false (h : run.unplaceableIsolation = false)
    (hexercised : run.exercisedSurfaces ≠ ∅) {f : Finding} (hf : f ∈ run.findings)
    (hstatus : f.status = .confirmed) (hcross : f.isCrossPrincipal = true) :
    f.backingSurface ∈ run.exercisedSurfaces := by
  by_contra hmissing
  have hunaccounted : f.backingSurface ∈ unaccountedSurfaces run := by
    unfold unaccountedSurfaces
    rw [if_neg hexercised, Finset.mem_sdiff, List.mem_toFinset]
    exact ⟨List.mem_map_of_mem hf, hmissing⟩
  have hunplaceable : f ∈ run.unplaceable :=
    List.mem_filter.mpr ⟨hf, decide_eq_true ⟨hstatus, hunaccounted⟩⟩
  exact absurd hcross (List.any_eq_false.mp h f hunplaceable)

theorem supports_isolation_live {surfaces : List Surface}
    (h : run.supports .isolation surfaces = true) : ∃ surface, surface ∈ run.liveSurfaces := by
  unfold supports at h
  obtain ⟨-, hdrove⟩ := (Bool.and_eq_true _ _).mp h
  obtain ⟨surface, hmem⟩ := Finset.nonempty_iff_ne_empty.mpr (of_decide_eq_true hdrove)
  have hisolation := (Finset.mem_inter.mp hmem).2
  exact ⟨surface, (Finset.mem_sdiff.mp (Finset.mem_inter.mp hisolation).1).1⟩

theorem synthetic_of_not_live {surface : Surface} (h : surface ∈ run.exercisedSurfaces)
    (hnot : surface ∉ run.liveSurfaces) :
    run.surfaceProvenance.lookup surface = some .synthetic := by
  obtain ⟨provenance, hlookup⟩ := Dict.mem_iff_lookup.mp (mem_exercisedSurfaces.mp h)
  cases provenance with
  | live => exact absurd (mem_liveSurfaces.mpr hlookup) hnot
  | synthetic => exact hlookup

end RunResult

section Agreement

variable [Unicode] {run : RunResult} {toolVersion : String} {c : ControlFinding}
  {row : ControlRow} {controlId : String}

/-- Behind a satisfied isolation control there is a live surface, and the confirmed findings that
cross a boundary are on fakes. -/
theorem isolation_satisfied (hc : c ∈ controlFindings run) (hrow : row ∈ controlTable)
    (hreq : row.requirement = .isolation) (hid : controlId ∈ row.controlIds)
    (hstates : c.States row.framework controlId) (hsatisfied : c.target.state = .satisfied) :
    run.scopeOf.1 = .configuredStack ∧
      ∀ f ∈ run.findings, f.status = .confirmed → f.isCrossPrincipal = true →
        run.surfaceProvenance.lookup f.backingSurface = some .synthetic := by
  obtain ⟨other, hother, hsupports, hstated, ⟨otherId, hotherId, hotherStates⟩, hstate⟩ :=
    mem_controlFindings hc
  have heq := hstates.row_unique hrow hother hotherStates hid hotherId
  subst heq
  have hnot : ¬other.requirement = .erasure := by
    rw [hreq]
    decide
  rw [hreq] at hsupports
  have hleak : run.hasConfirmedLeak = false := by
    have := hstate.mp hsatisfied
    rwa [if_neg hnot] at this
  have hplaced : run.unplaceableIsolation = false := by
    unfold RunResult.withholds at hstated
    rw [asserted_requirement hrow, if_neg hnot, hleak] at hstated
    simpa using hstated
  obtain ⟨surface, hlive⟩ := RunResult.supports_isolation_live hsupports
  have hexercised : run.exercisedSurfaces ≠ ∅ :=
    Finset.ne_empty_of_mem (Finset.mem_filter.mp hlive).1
  constructor
  · rw [RunResult.scopeOf_configured, RunResult.anyLive_iff]
    exact ⟨surface, RunResult.mem_liveSurfaces.mp hlive⟩
  · intro f hf hstatus hcross
    apply RunResult.synthetic_of_not_live
    · exact RunResult.unplaceableIsolation_eq_false hplaced hexercised hf hstatus hcross
    · exact RunResult.hasConfirmedLeak_eq_false hleak hf hstatus hcross

variable [MathSqrt] [MathErfc] [RunDigest]

/-- A record with an isolation control that the export states as satisfied has no confirmed leak but
on fakes, and is refused a grade or graded without a failing class or a cap. -/
theorem satisfied_scoreRun
    (hcross : ∀ f ∈ run.findings, f.status = .confirmed → f.probeId ∈ catalogProbes →
      f.isCrossPrincipal = true)
    (hc : c ∈ (runToOscal run toolVersion).controlFindings) (hrow : row ∈ controlTable)
    (hreq : row.requirement = .isolation) (hid : controlId ∈ row.controlIds)
    (hstates : c.States row.framework controlId) (hsatisfied : c.target.state = .satisfied) :
    (∀ f ∈ run.findings, f.status = .confirmed → f.isCrossPrincipal = true →
        run.surfaceProvenance.lookup f.backingSurface = some .synthetic) ∧
      ∀ s, scoreRun run = .ok s → (∀ line ∈ s.classes, line.verdict ≠ .fail) ∧
        s.cappedBy = none := by
  rw [runToOscal_controlFindings] at hc
  obtain ⟨hscope, hfakes⟩ := isolation_satisfied hc hrow hreq hid hstates hsatisfied
  refine ⟨hfakes, fun s h => ?_⟩
  have hs := scoreRun_grades h
  have hcaps : ∀ entry ∈ catalog, ¬entry.Caps run := by
    rintro entry hentry ⟨f, hf, hoff⟩
    obtain ⟨hmem, hprobe, hstatus⟩ := CatalogClass.mem_confirmedFindings.mp hf
    have hlisted : f.probeId ∈ catalogProbes :=
      List.mem_toFinset.mpr (List.mem_flatMap.mpr ⟨entry, hentry, hprobe⟩)
    have hfake := hfakes f hmem hstatus (hcross f hmem hstatus hlisted)
    exact hoff (RunResult.mem_withheldSurfaces.mpr ⟨hscope, hfake⟩)
  constructor
  · intro line hline hfail
    obtain ⟨hlength, hzip⟩ := List.forall₂_iff_zip.mp hs.classes
    rw [← List.map_snd_zip hlength.ge] at hline
    obtain ⟨⟨entry, line⟩, hpair, rfl⟩ := List.mem_map.mp hline
    have hfails := (hzip hpair).fail_iff.mp hfail
    exact hcaps entry (List.of_mem_zip hpair).1 hfails.caps
  · rw [hs.cappedBy]
    exact worstBand_eq_none.mpr hcaps

end Agreement

section Example

/-- A run against a live vector store and the fake agent memory, which leaks. -/
def mixedRun : RunResult :=
  { runId := "run-1", scenarioHash := "scenario", manifestHash := "manifest"
    startedAt := ⟨0, none⟩, finishedAt := ⟨0, none⟩
    surfaceProvenance := Dict.ofItems [(.vectorDb, .live), (.agentMemory, .synthetic)]
    probeVersions := Dict.ofItems [("tenant-boundary-fetch", "1"), ("memory-contamination", "1")]
    findings :=
      [{ findingId := "finding-1", probeId := "memory-contamination", severity := .critical
         confidence := UnitRat.one, status := .confirmed, ownerTenantId := ⟨1⟩
         observedInTenantId := ⟨2⟩, surface := .agentMemory }] }

@[reducible] def RunDigest.mixedRun : RunDigest where
  runDigest _ := .ok "c353284e96cf5fc9bfa09304303f6f82f255b5bf1954ca248e91266739c01782"

attribute [local instance] Unicode.ascii MathSqrt.exact MathErfc.atZero RunDigest.mixedRun

/-- The export states the control, and the leak of the fake is in neither verdict. -/
theorem satisfied_scoreRun_mixed :
    ∃ c ∈ (runToOscal mixedRun "0").controlFindings, c.target.targetId = "CC6.1" ∧
      c.target.state = .satisfied ∧ ∃ s, scoreRun mixedRun = .ok s ∧ s.grade = .A ∧
        (∀ line ∈ s.classes, line.verdict ≠ .fail) ∧ s.cappedBy = none := by
  obtain ⟨c, hc, hprops, htarget, hsatisfied⟩ :
      ∃ c ∈ (runToOscal mixedRun "0").controlFindings,
        c.target.props = [prop "framework" "SOC 2 (TSC)"] ∧ c.target.targetId = "CC6.1" ∧
          c.target.state = .satisfied := by
    decide +kernel
  obtain ⟨row, hrow, hreq, hframework, hid⟩ : ∃ row ∈ controlTable,
      row.requirement = .isolation ∧ row.framework = "SOC 2 (TSC)" ∧ "CC6.1" ∈ row.controlIds := by
    decide +kernel
  obtain ⟨s, hs, hgrade⟩ := map_eq_ok.mp
    (show (scoreRun mixedRun).map IsolationScore.grade = .ok .A by decide +kernel)
  have hagrees := satisfied_scoreRun (by decide +kernel) hc hrow hreq hid
    ⟨hframework ▸ hprops, htarget⟩ hsatisfied
  exact ⟨c, hc, htarget, hsatisfied, s, hs, hgrade, hagrees.2 s hs⟩

end Example

end Sectum
