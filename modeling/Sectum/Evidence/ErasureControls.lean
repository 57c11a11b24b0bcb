import Sectum.Evidence.OscalSpec

/-! When the OSCAL verdict on an erasure control and the assertion that the signed pack makes of the
same control say the same. -/

namespace Sectum

open Py Oscal

section Assertion

variable {row : ControlRow} {run : RunResult}

/-- The assertion of the mapping still says that the erasure is verified. -/
def ControlMapping.SaysVerified (mapping : ControlMapping) (run : RunResult) : Prop :=
  ∃ row ∈ controlTable, row.requirement = .erasure ∧
    mapping = { row.mapping with
      assertion := row.assertion ++ " Live surfaces: " ++
        joinSurfaces (assertedSurfaces run row.mapping) ++ "." }

theorem controlTable_verified : ∀ row ∈ controlTable, row.requirement = .erasure →
    ∃ base : String, row.assertion = base ++ " verified." ∧
      ∀ tail ∈ base.toList.tails, tail ≠ [] →
        " verified.".toList.isPrefixOf (tail ++ " verified.".toList) = false := by
  intro row hrow hreq
  have hcases : row.assertion = "Erasure across the AI surfaces" ++ " verified." ∨
      row.assertion = "Deletion of a consumer's personal information across the AI surfaces" ++
        " verified." := by
    revert row
    decide +kernel
  rcases hcases with h | h
  · exact ⟨_, h, by decide +kernel⟩
  · exact ⟨_, h, by decide +kernel⟩

theorem erasureAssertion_eq (hrow : row ∈ controlTable) (hreq : row.requirement = .erasure)
    (named : Finset Surface) :
    erasureAssertion run named row.assertion = row.assertion ↔ erasureFailures run named = [] := by
  unfold erasureAssertion
  simp only
  split
  · rename_i hnone
    exact iff_of_true rfl hnone
  · rename_i hsome
    refine iff_of_false (fun heq => ?_) hsome
    obtain ⟨base, hbase, honce⟩ := controlTable_verified row hrow hreq
    rw [hbase, replace_last (by decide +kernel) honce] at heq
    have htail := congrArg String.toList heq
    simp only [String.toList_append, List.append_cancel_left_eq, List.append_assoc] at htail
    have hhead := congrArg (fun cs => cs[1]?) htail
    simp at hhead

theorem saysVerified_iff (hrow : row ∈ controlTable) (hreq : row.requirement = .erasure) :
    (row.asserted run).SaysVerified run ↔
      erasureFailures run (assertedSurfaces run row.mapping) = [] := by
  have hasserted : row.asserted run = { row.mapping with
      assertion := erasureAssertion run (assertedSurfaces run row.mapping) row.assertion ++
        " Live surfaces: " ++ joinSurfaces (assertedSurfaces run row.mapping) ++ "." } := by
    unfold ControlRow.asserted
    simp only [hreq]
  rw [← erasureAssertion_eq hrow hreq, hasserted]
  constructor
  · rintro ⟨other, hother, -, heq⟩
    obtain ⟨hframework, hids, hassertion⟩ := ControlMapping.mk.inj heq
    have hsame : row = other := by
      have hfind : row.mapping.row = other.mapping.row := by
        unfold ControlMapping.row
        rw [hframework, hids]
      rw [controlTable_find row hrow, controlTable_find other hother] at hfind
      exact Option.some.inj hfind
    subst hsame
    have hchars := congrArg String.toList hassertion
    simp only [String.toList_append, List.append_assoc] at hchars
    exact String.toList_injective (List.append_cancel_right hchars)
  · intro heq
    exact ⟨row, hrow, hreq, by rw [heq]⟩

/-- A confirmed finding of data that an erasure left on an erasure surface. -/
def RunResult.Leftover (run : RunResult) (f : Finding) : Prop :=
  f ∈ run.findings ∧ f.status = .confirmed ∧ f.isCrossPrincipal = false ∧
    f.backingSurface ∈ erasureSurfaces

theorem withholds_erasure (hrow : row ∈ controlTable) (hreq : row.requirement = .erasure)
    (hsupports : run.supports .erasure [] = true) :
    run.withholds (row.asserted run) = false ↔
      (run.FullyErased → ∀ f, run.Leftover f → f.backingSurface ∈ run.surfaceProvenance) := by
  obtain ⟨surface, hlive, -⟩ := RunResult.supports_erasure_iff.mp hsupports
  have hexercised : run.exercisedSurfaces ≠ ∅ :=
    Finset.ne_empty_of_mem (Finset.mem_filter.mp hlive).1
  have hresidual := RunResult.hasResidual_iff hsupports
  have hunplaceable := RunResult.unplaceableErasure_iff hexercised
  unfold RunResult.withholds
  rw [asserted_requirement hrow, if_pos hreq, Bool.and_eq_false_iff, Bool.not_eq_false',
    hresidual, ← Bool.not_eq_true, hunplaceable]
  constructor
  · intro h herased f hf
    rcases h with h | h
    · by_contra hmissing
      exact h ⟨f, hf.1, hf.2.1, hf.2.2.1, hf.2.2.2, hmissing⟩
    · exact absurd herased h
  · intro h
    by_cases herased : run.FullyErased
    · refine Or.inl ?_
      rintro ⟨f, hmem, hstatus, hcross, herasure, hmissing⟩
      exact hmissing (h herased f ⟨hmem, hstatus, hcross, herasure⟩)
    · exact Or.inr herased

theorem verified_iff (hrow : row ∈ controlTable) (hreq : row.requirement = .erasure) :
    (row.asserted run).SaysVerified run ↔ run.FullyErased ∧ ∀ surface ∈ erasureSurfaces,
      run.surfaceProvenance.lookup surface = some .live →
        ¬0 < run.metrics.erasureUnverifiable.getD surface 0 := by
  rw [saysVerified_iff hrow hreq, assertedSurfaces_erasure hrow hreq, erasureFailures_eq_nil]

end Assertion

section Agreement

variable [Unicode] (run : RunResult) (toolVersion : String)

theorem state_erasure {row : ControlRow} {c : ControlFinding} {controlId : String}
    (hrow : row ∈ controlTable) (hreq : row.requirement = .erasure)
    (hc : c ∈ controlFindings run) (hid : controlId ∈ row.controlIds)
    (hstates : c.States row.framework controlId) :
    run.supports .erasure [] = true ∧ run.withholds (row.asserted run) = false ∧
      (c.target.state = .satisfied ↔ run.FullyErased) := by
  obtain ⟨other, hother, hsupports, hstated, ⟨otherId, hotherId, hotherStates⟩, hstate⟩ :=
    mem_controlFindings hc
  have heq := hstates.row_unique hrow hother hotherStates hid hotherId
  subst heq
  rw [hreq, controlTable_erasure other hrow hreq] at hsupports
  refine ⟨hsupports, hstated, ?_⟩
  rw [hstate, if_pos hreq, ← Bool.not_eq_true, RunResult.hasResidual_iff hsupports, not_not]

/-- What the export states of each erasure control that the run asserts agrees with the assertion,
and is no pass over a confirmed leftover on a live surface. -/
def ErasureVerdictsAgree : Prop :=
  ∀ mapping ∈ controlMappings (some run), mappingRequirement mapping = .erasure →
    ∀ c ∈ (runToOscal run toolVersion).controlFindings, ∀ controlId ∈ mapping.controlIds,
      c.States mapping.framework controlId →
        (c.target.state = .satisfied ↔ mapping.SaysVerified run) ∧
        ((∃ f, run.Leftover f ∧ run.surfaceProvenance.lookup f.backingSurface = some .live) →
          c.target.state ≠ .satisfied)

/-- The verdict and the assertion part just when every live erasure surface is ERASED, no confirmed
leftover is on a surface that the record does not have, and yet a live one has markers that could
not be ruled out or a confirmed leftover. -/
theorem erasureVerdictsAgree_iff :
    ErasureVerdictsAgree run toolVersion ↔
      ¬(run.FullyErased ∧
        (∀ f, run.Leftover f → f.backingSurface ∈ run.surfaceProvenance) ∧
        ((∃ surface ∈ erasureSurfaces, run.surfaceProvenance.lookup surface = some .live ∧
            0 < run.metrics.erasureUnverifiable.getD surface 0) ∨
          ∃ f, run.Leftover f ∧
            run.surfaceProvenance.lookup f.backingSurface = some .live)) := by
  unfold ErasureVerdictsAgree
  rw [runToOscal_controlFindings]
  constructor
  · rintro hagree ⟨herased, hplaced, hparts⟩
    -- The surface that parts them is live and ERASED, so the controls are asserted and stated.
    obtain ⟨surface, herasure, hlive⟩ : ∃ surface ∈ erasureSurfaces,
        run.surfaceProvenance.lookup surface = some .live := by
      rcases hparts with ⟨surface, herasure, hlive, -⟩ | ⟨f, hf, hlive⟩
      · exact ⟨surface, herasure, hlive⟩
      · exact ⟨f.backingSurface, hf.2.2.2, hlive⟩
    have hsupports : run.supports .erasure [] = true :=
      RunResult.supports_erasure_iff.mpr ⟨surface, RunResult.mem_liveSurfaces.mpr hlive, .erased,
        Or.inl rfl, herased surface herasure hlive⟩
    obtain ⟨row, hrow, hreq, controlId, hid⟩ : ∃ row ∈ controlTable,
        row.requirement = .erasure ∧ ∃ controlId, controlId ∈ row.controlIds :=
      ⟨_, List.mem_of_getElem? (show controlTable[4]? = some _ from rfl), rfl, _,
        List.mem_cons_self⟩
    have hrowSupports : run.supports row.requirement row.surfaces = true := by
      rw [hreq, controlTable_erasure row hrow hreq]
      exact hsupports
    obtain ⟨c, hc, hstates⟩ := exists_controlFinding hrow hrowSupports
      ((withholds_erasure hrow hreq hsupports).mpr fun _ => hplaced) hid
    have hsatisfied := (state_erasure run hrow hreq hc hid hstates).2.2.mpr herased
    obtain ⟨hverdict, hleftover⟩ := hagree (row.asserted run)
      (mem_controlMappings.mpr ⟨row, hrow, hrowSupports, rfl⟩)
      ((asserted_requirement hrow).trans hreq) c hc controlId hid hstates
    rcases hparts with ⟨other, hother, hotherLive, hunverifiable⟩ | hleft
    · exact ((verified_iff hrow hreq).mp (hverdict.mp hsatisfied)).2 other hother hotherLive
        hunverifiable
    · exact hleftover hleft hsatisfied
  · intro hnot mapping hmapping hreq c hc controlId hid hstates
    obtain ⟨row, hrow, -, rfl⟩ := mem_controlMappings.mp hmapping
    rw [asserted_requirement hrow] at hreq
    obtain ⟨hsupports, hstated, hstate⟩ := state_erasure run hrow hreq hc hid hstates
    have hplaced := (withholds_erasure hrow hreq hsupports).mp hstated
    constructor
    · rw [hstate, verified_iff hrow hreq]
      refine ⟨fun herased => ⟨herased, ?_⟩, And.left⟩
      intro surface herasure hlive hunverifiable
      exact hnot ⟨herased, hplaced herased, Or.inl ⟨surface, herasure, hlive, hunverifiable⟩⟩
    · intro hleft hsatisfied
      have herased := hstate.mp hsatisfied
      exact hnot ⟨herased, hplaced herased, Or.inr hleft⟩

end Agreement

section Example

attribute [local instance] Unicode.ascii

/-- A record that says of its one surface both that it is ERASED and that a marker could not be
ruled out there. -/
def unverifiableRun : RunResult :=
  { runId := "run-1", scenarioHash := "scenario", manifestHash := "manifest"
    startedAt := ⟨0, none⟩, finishedAt := ⟨0, none⟩
    surfaceProvenance := Dict.ofItems [(.vectorDb, .live)]
    probeVersions := Dict.ofItems [("gdpr-erasure-verification", "1")]
    metrics :=
      { erasureUnverifiable := Dict.ofItems [(.vectorDb, 1)]
        erasureCoverage := Dict.ofItems [(.vectorDb, .erased)] } }

/-- The export of that record states GDPR Article 17 as satisfied, over an assertion that does not
call the erasure verified. -/
theorem unverifiableRun_disagrees : ¬ErasureVerdictsAgree unverifiableRun "0" := by
  intro hagree
  obtain ⟨row, hrow, hreq, hframework, hid, hsupports⟩ : ∃ row ∈ controlTable,
      row.requirement = .erasure ∧ row.framework = "GDPR" ∧ "Article 17" ∈ row.controlIds ∧
        unverifiableRun.supports row.requirement row.surfaces = true := by
    decide +kernel
  obtain ⟨c, hc, hprops, htarget, hsatisfied⟩ :
      ∃ c ∈ (runToOscal unverifiableRun "0").controlFindings,
        c.target.props = [prop "framework" "GDPR"] ∧ c.target.targetId = "Article 17" ∧
          c.target.state = .satisfied := by
    decide +kernel
  have hmapping := mem_controlMappings.mpr ⟨row, hrow, hsupports, rfl⟩
  have hstates : c.States row.framework "Article 17" := ⟨hframework ▸ hprops, htarget⟩
  obtain ⟨hverdict, -⟩ := hagree (row.asserted unverifiableRun) hmapping
    ((asserted_requirement hrow).trans hreq) c hc "Article 17" hid hstates
  have hcertain := ((verified_iff hrow hreq).mp (hverdict.mp hsatisfied)).2
  exact hcertain .vectorDb (by decide) (by decide +kernel) (by decide +kernel)

end Example

end Sectum
