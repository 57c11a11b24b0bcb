import Sectum.Core.ErasureCommand

/-! The exit code of the erasure command against the coverage that it signs. -/

namespace Sectum

open Py

def startsWith (headline text : String) : Prop := headline.toList <+: text.toList

def Emission.prints (emission : Emission) (headline : String) : Prop :=
  ∃ line ∈ emission.lines, startsWith headline line.text

theorem startsWith.append {opening text : String} (h : startsWith opening text) (rest : String) :
    startsWith opening (text ++ rest) := by
  unfold startsWith
  rw [String.toList_append]
  exact h.trans (List.prefix_append _ _)

/-- A text that opens otherwise than the headline. -/
theorem not_startsWith {headline text : String} (opening : String) (h : startsWith opening text)
    (hheadline : ¬startsWith headline opening) (hopening : ¬startsWith opening headline) :
    ¬startsWith headline text := by
  intro hstart
  rcases List.prefix_or_prefix_of_prefix hstart h with hpre | hpre
  · exact hheadline hpre
  · exact hopening hpre

instance (headline text : String) : Decidable (startsWith headline text) :=
  inferInstanceAs (Decidable (headline.toList <+: text.toList))

namespace SurfaceErasure

variable (s : SurfaceErasure)

theorem erased_iff : s.erased = true ↔ s.coverageVerdict = .erased := by
  rw [s.coverageVerdict_erased_iff]
  unfold erased
  simp only [Bool.and_eq_true, decide_eq_true_eq]
  tauto

theorem flagged_iff : s.coverageVerdict = .residual ∨ s.coverageVerdict = .attestableWithCaveat ↔
    s.attestableWithCaveat = true ∨ 0 < s.residualAfter := by
  unfold coverageVerdict
  split_ifs <;> simp_all

end SurfaceErasure

section Lines

def verified : String := "ERASURE VERIFIED"

def noResidualFound : String := "NO RESIDUAL FOUND"

/-- None of the lines opens with the verdict ERASURE VERIFIED. -/
def Quiet (lines : List EchoLine) : Prop := ∀ line ∈ lines, ¬startsWith verified line.text

theorem quiet_append {first rest : List EchoLine} :
    Quiet (first ++ rest) ↔ Quiet first ∧ Quiet rest := List.forall_mem_append

theorem quiet_cons {line : EchoLine} {lines : List EchoLine} :
    Quiet (line :: lines) ↔ ¬startsWith verified line.text ∧ Quiet lines := List.forall_mem_cons

theorem quiet_nil : Quiet [] := List.forall_mem_nil _

theorem quiet_singleton {line : EchoLine} (opening : String) (h : startsWith opening line.text)
    (hheadline : ¬startsWith verified opening) (hopening : ¬startsWith opening verified) :
    Quiet [line] :=
  quiet_cons.mpr ⟨not_startsWith opening h hheadline hopening, quiet_nil⟩

theorem provenanceLines_opening {report : ErasureReport}
    {surfaceProvenance : Dict Surface SurfaceProvenance} {text : String}
    (h : text ∈ erasureProvenanceLines report surfaceProvenance) :
    startsWith "  provenance: " text := by
  unfold erasureProvenanceLines at h
  simp only at h
  split at h
  · cases h
  · split at h
    · rw [List.mem_singleton.mp h]
      iterate 2 apply startsWith.append
      decide
    · split at h
      · cases h
      · split at h
        · rw [List.mem_singleton.mp h]
          iterate 2 apply startsWith.append
          decide
        · rw [List.mem_singleton.mp h]
          iterate 4 apply startsWith.append
          decide

theorem quiet_provenance (report : ErasureReport)
    (surfaceProvenance : Dict Surface SurfaceProvenance) :
    Quiet ((erasureProvenanceLines report surfaceProvenance).map fun text => { text }) := by
  intro line hline
  obtain ⟨text, htext, rfl⟩ := List.mem_map.mp hline
  exact not_startsWith "  provenance: " (provenanceLines_opening htext) (by decide) (by decide)

theorem quiet_reportLines [Unicode] (report : ErasureReport) (context : ErasureContext) :
    Quiet (reportLines report context) := by
  unfold reportLines
  simp only [quiet_append]
  refine ⟨⟨⟨?_, ?_⟩, ?_⟩, ?_⟩
  · intro line hline
    obtain ⟨row, -, hline⟩ := List.mem_flatMap.mp hline
    unfold surfaceLines at hline
    rcases List.mem_cons.mp hline with rfl | hline
    · refine not_startsWith row.surface.value ?_ ?_ ?_
      · iterate 4 apply startsWith.append
        exact List.prefix_refl _
      · cases row.surface <;> decide
      · cases row.surface <;> decide
    · split at hline
      · cases hline
      · rw [List.mem_singleton.mp hline]
        refine not_startsWith "  " ?_ (by decide) (by decide)
        iterate 4 apply startsWith.append
        decide
  · intro line hline
    split at hline
    · cases hline
    · rw [List.mem_singleton.mp hline]
      exact not_startsWith "not covered (NOT_COVERED): " (startsWith.append (by decide) _)
        (by decide) (by decide)
  · intro line hline
    obtain ⟨surface, -, rfl⟩ := List.mem_map.mp hline
    refine not_startsWith "  " ?_ (by decide) (by decide)
    unfold uncheckedLine
    iterate 6 apply startsWith.append
    decide
  · intro line hline
    rw [List.mem_singleton.mp hline]
    refine not_startsWith "erasure attestation -> " ?_ (by decide) (by decide)
    iterate 3 apply startsWith.append
    decide

end Lines

section Ladder

variable (report : ErasureReport)

theorem genuineResidual_iff : report.genuineResidual = true ↔
    ∃ row ∈ report.surfaces, row.erasureSupported = true ∧ 0 < row.residualAfter := by
  simp [ErasureReport.genuineResidual]

theorem caveats_iff : report.caveats ≠ [] ↔
    ∃ row ∈ report.surfaces, row.attestableWithCaveat = true := by
  simp [ErasureReport.caveats, List.filter_eq_nil_iff]

theorem erased_iff : report.erased = true ↔
    report.surfaces ≠ [] ∧ ∀ row ∈ report.surfaces, row.coverageVerdict = .erased := by
  simp [ErasureReport.erased, SurfaceErasure.erased_iff]

theorem checked_iff (rows : List SurfaceErasure) :
    (rows.filter (fun s => !s.baselineObserved) ≠ [] ∧
      (rows.filter fun s => !s.baselineObserved).length = rows.length) ↔
    rows ≠ [] ∧ ∀ row ∈ rows, row.baselineObserved = false := by
  rw [List.length_filter_eq_length_iff]
  simp only [Bool.not_eq_true']
  refine and_congr_left fun hall => ?_
  rw [List.filter_eq_self.mpr (by simpa using hall)]

/-- The rungs of the ladder of verdicts: what leads to each, its exit code, and what it prints. -/
theorem verdictLines_cases (context : ErasureContext) :
    let emission := verdictLines report context
    (report.genuineResidual = true ∨ report.caveats ≠ []) ∧ emission.exitCode = 2 ∧
        Quiet emission.lines ∨
    (report.genuineResidual = false ∧ report.caveats = []) ∧
      (report.erased = true ∧ emission.exitCode = 0 ∧ emission.prints verified ∨
      report.erased = false ∧ Quiet emission.lines ∧
        ((∃ row ∈ report.surfaces, row.unverifiableAfter ≠ 0) ∧ emission.exitCode = 3 ∨
        (∀ row ∈ report.surfaces, row.unverifiableAfter = 0) ∧
          ((report.surfaces ≠ [] ∧ ∀ row ∈ report.surfaces, row.baselineObserved = false) ∧
            emission.exitCode = 0 ∧ emission.prints noResidualFound ∨
          ¬(report.surfaces ≠ [] ∧ ∀ row ∈ report.surfaces, row.baselineObserved = false) ∧
            ((∃ row ∈ report.surfaces, 0 < row.residualAfter) ∧ emission.exitCode = 2 ∨
            (∀ row ∈ report.surfaces, row.residualAfter = 0) ∧ emission.exitCode = 3)))) := by
  unfold verdictLines
  split
  · rename_i hgenuine
    refine Or.inl ⟨Or.inl hgenuine, rfl, quiet_cons.mpr ⟨by decide, ?_⟩⟩
    split
    · exact quiet_nil
    · refine quiet_singleton "  also" ?_ (by decide) (by decide)
      iterate 3 apply startsWith.append
      decide
  · rename_i hgenuine
    split
    · rename_i hcaveats
      refine Or.inl ⟨Or.inr hcaveats, rfl, ?_⟩
      refine quiet_singleton "ERASURE ATTESTABLE WITH CAVEAT: " ?_ (by decide) (by decide)
      iterate 4 apply startsWith.append
      decide
    · rename_i hcaveats
      refine Or.inr ⟨⟨Bool.eq_false_iff.mpr hgenuine, not_not.mp hcaveats⟩, ?_⟩
      split
      · rename_i herased
        refine Or.inl ⟨herased, rfl, _, List.mem_cons_self, ?_⟩
        iterate 2 apply startsWith.append
        decide
      · rename_i herased
        refine Or.inr ⟨Bool.eq_false_iff.mpr herased, ?_⟩
        simp only
        split
        · rename_i hunverified
          refine ⟨?_, Or.inl ⟨?_, rfl⟩⟩
          · refine quiet_singleton "ERASURE INCONCLUSIVE: " ?_ (by decide) (by decide)
            iterate 3 apply startsWith.append
            decide
          · simpa [List.filter_eq_nil_iff] using hunverified
        · rename_i hunverified
          have hverified : ∀ row ∈ report.surfaces, row.unverifiableAfter = 0 := by
            simpa [List.filter_eq_nil_iff] using hunverified
          split
          · rename_i hchecked
            refine ⟨?_, Or.inr ⟨hverified, Or.inl ⟨?_, rfl, _, List.mem_cons_self, ?_⟩⟩⟩
            · refine quiet_cons.mpr ⟨not_startsWith "NO RESIDUAL FOUND: " ?_ (by decide) (by decide),
                quiet_cons.mpr ⟨not_startsWith "  scope: " ?_ (by decide) (by decide),
                  quiet_provenance report context.surfaceProvenance⟩⟩
              · iterate 3 apply startsWith.append
                decide
              · iterate 2 apply startsWith.append
                decide
            · exact (checked_iff report.surfaces).mp hchecked
            · iterate 3 apply startsWith.append
              decide
          · rename_i hchecked
            split
            · rename_i hobserved
              refine ⟨?_, Or.inr ⟨hverified, Or.inr ⟨?_, Or.inl ⟨?_, rfl⟩⟩⟩⟩
              · refine quiet_singleton "ERASURE FAILED: " ?_ (by decide) (by decide)
                iterate 4 apply startsWith.append
                decide
              · exact fun h => hchecked ((checked_iff report.surfaces).mpr h)
              · simpa [List.filter_eq_nil_iff, Nat.pos_iff_ne_zero] using hobserved
            · rename_i hobserved
              refine ⟨?_, Or.inr ⟨hverified, Or.inr ⟨?_, Or.inr ⟨?_, rfl⟩⟩⟩⟩
              · refine quiet_singleton "ERASURE INCONCLUSIVE: " ?_ (by decide) (by decide)
                iterate 3 apply startsWith.append
                decide
              · exact fun h => hchecked ((checked_iff report.surfaces).mpr h)
              · simpa [List.filter_eq_nil_iff] using hobserved

/-- A residual on a surface with no erasure API and no baseline, in a report where another surface
failed to verify. -/
def HidesResidual : Prop :=
  report.genuineResidual = false ∧ report.caveats = [] ∧
    (∃ row ∈ report.surfaces, 0 < row.residualAfter) ∧
      ∃ row ∈ report.surfaces, row.unverifiableAfter ≠ 0

/-- What the rows of every report of the two probes have in common. -/
structure ProducedRows : Prop where
  nodup : (report.surfaces.map SurfaceErasure.surface).Nodup
  reachable : ∀ row ∈ report.surfaces, row.surface ∈ erasureSurfaces
  baseline : (∀ row ∈ report.surfaces, row.baselineObserved = true) ∨
    ∀ row ∈ report.surfaces, row.baselineObserved = false ∧ row.erasureSupported = true

variable {report}

/-- A verdict of the coverage is RESIDUAL or a caveat exactly when a row is. -/
theorem flagged_iff (h : ProducedRows report) :
    (∃ surface verdict, report.coverage.lookup surface = some verdict ∧
      (verdict = .residual ∨ verdict = .attestableWithCaveat)) ↔
    report.caveats ≠ [] ∨ ∃ row ∈ report.surfaces, 0 < row.residualAfter := by
  have hrows : (∃ surface verdict, report.coverage.lookup surface = some verdict ∧
      (verdict = .residual ∨ verdict = .attestableWithCaveat)) ↔
      ∃ row ∈ report.surfaces, row.attestableWithCaveat = true ∨ 0 < row.residualAfter := by
    constructor
    · rintro ⟨surface, verdict, hlook, hverdict⟩
      have hne : verdict ≠ .notCovered := by
        rintro rfl
        rcases hverdict with h | h <;> cases h
      obtain ⟨row, hrow, -, rfl⟩ := (report.coverage_eq_some h.nodup h.reachable hne).mp hlook
      exact ⟨row, hrow, row.flagged_iff.mp hverdict⟩
    · rintro ⟨row, hrow, hflagged⟩
      have hverdict := row.flagged_iff.mpr hflagged
      have hne : row.coverageVerdict ≠ .notCovered := by
        rcases hverdict with h | h <;> simp [h]
      exact ⟨row.surface, row.coverageVerdict, (report.coverage_eq_some h.nodup h.reachable
        hne).mpr ⟨row, hrow, rfl, rfl⟩, hverdict⟩
  rw [hrows, caveats_iff]
  constructor
  · rintro ⟨row, hrow, hcaveat | hresidual⟩
    · exact Or.inl ⟨row, hrow, hcaveat⟩
    · exact Or.inr ⟨row, hrow, hresidual⟩
  · rintro (⟨row, hrow, hcaveat⟩ | ⟨row, hrow, hresidual⟩)
    · exact ⟨row, hrow, Or.inl hcaveat⟩
    · exact ⟨row, hrow, Or.inr hresidual⟩

/-- The record that is signed counts a residue of 0 on the surfaces that its coverage has as ERASED,
and on no others. -/
theorem erasureRun_clean_iff (h : ProducedRows report) (context : ErasureContext)
    (surface : Surface) :
    (erasureRun report h.reachable context).metrics.erasureResidue.lookup surface = some 0 ↔
      (erasureRun report h.reachable context).metrics.erasureCoverage.lookup surface =
        some .erased := by
  unfold erasureRun erasureMetrics
  dsimp only
  rw [surfaceCounts_lookup h.nodup, report.coverage_eq_some h.nodup h.reachable (by decide)]
  refine exists_congr fun row => and_congr_right fun _ => ?_
  rw [row.coverageVerdict_erased_iff]
  simp only [Bool.and_eq_true, Bool.or_eq_true, decide_eq_true_eq]
  constructor
  · rintro ⟨⟨⟨⟨hsupported, hestablished⟩, hbaseline⟩, hbefore⟩, hsurface, hclean⟩
    exact ⟨hsurface, hsupported, hbaseline, hbefore, by omega, by omega⟩
  · rintro ⟨hsurface, hsupported, hbaseline, hbefore, hclean, hunverifiable⟩
    exact ⟨⟨⟨⟨hsupported, .inr hunverifiable⟩, hbaseline⟩, hbefore⟩, hsurface, by omega⟩

theorem erased_of_flagged
    (h : report.caveats ≠ [] ∨ ∃ row ∈ report.surfaces, 0 < row.residualAfter) :
    report.erased = false := by
  rw [Bool.eq_false_iff]
  intro herased
  have hall := ((erased_iff report).mp herased).2
  have hrow : ∃ row ∈ report.surfaces, row.attestableWithCaveat = true ∨ 0 < row.residualAfter := by
    rcases h with hcaveats | ⟨row, hrow, hresidual⟩
    · obtain ⟨row, hrow, hcaveat⟩ := (caveats_iff report).mp hcaveats
      exact ⟨row, hrow, Or.inl hcaveat⟩
    · exact ⟨row, hrow, Or.inr hresidual⟩
  obtain ⟨row, hrow, hflagged⟩ := hrow
  rcases row.flagged_iff.mpr hflagged with hverdict | hverdict
  · cases (hall row hrow).symm.trans hverdict
  · cases (hall row hrow).symm.trans hverdict

variable (report)

variable [Unicode] (context : ErasureContext)

theorem emit_prints (headline : String) (h : (verdictLines report context).prints headline) :
    (emitErasureAttestation report context).prints headline := by
  obtain ⟨line, hline, hstart⟩ := h
  exact ⟨line, List.mem_append_right _ hline, hstart⟩

theorem emit_quiet (h : Quiet (verdictLines report context).lines) :
    ¬(emitErasureAttestation report context).prints verified := by
  rintro ⟨line, hline, hstart⟩
  rcases List.mem_append.mp hline with hline | hline
  · exact quiet_reportLines report context line hline hstart
  · exact h line hline hstart

/-- The exit code, and the verdict that is printed, agree with the coverage. -/
structure ExitAgrees : Prop where
  two : (emitErasureAttestation report context).exitCode = 2 ↔ ∃ surface verdict,
    report.coverage.lookup surface = some verdict ∧
      (verdict = .residual ∨ verdict = .attestableWithCaveat)
  verified : ((emitErasureAttestation report context).exitCode = 0 ∧
      (emitErasureAttestation report context).prints verified) ↔
    report.surfaces ≠ [] ∧ ∀ row ∈ report.surfaces, row.coverageVerdict = .erased
  otherwise :
    (¬∃ surface verdict, report.coverage.lookup surface = some verdict ∧
      (verdict = .residual ∨ verdict = .attestableWithCaveat)) →
    ¬(report.surfaces ≠ [] ∧ ∀ row ∈ report.surfaces, row.coverageVerdict = .erased) →
    (report.surfaces ≠ [] ∧ ∀ row ∈ report.surfaces, row.baselineObserved = false ∧
        row.unverifiableAfter = 0 ∧ row.residualAfter = 0) ∧
      (emitErasureAttestation report context).exitCode = 0 ∧
        (emitErasureAttestation report context).prints noResidualFound ∨
    ¬(report.surfaces ≠ [] ∧ ∀ row ∈ report.surfaces, row.baselineObserved = false ∧
        row.unverifiableAfter = 0 ∧ row.residualAfter = 0) ∧
      (emitErasureAttestation report context).exitCode = 3

variable {report context}

/-- On each rung the exit code agrees with the coverage, unless the rung of a surface that failed to
verify comes before that of a residual. -/
theorem exitAgrees_iff (h : ProducedRows report) :
    ExitAgrees report context ↔ ¬HidesResidual report := by
  have hflagged := flagged_iff h
  have hall := erased_iff report
  have hcode : (emitErasureAttestation report context).exitCode =
    (verdictLines report context).exitCode := rfl
  rcases verdictLines_cases report context with ⟨hrung, htwo, hquiet⟩ |
    ⟨⟨hgenuine, hcaveats⟩, ⟨herased, hzero, hprints⟩ | ⟨herased, hquiet,
      ⟨hunverified, hthree⟩ | ⟨hverified, ⟨⟨hsome, hchecked⟩, hzero, hprints⟩ |
        ⟨hchecked, ⟨hobserved, htwo⟩ | ⟨hobserved, hthree⟩⟩⟩⟩⟩
  · have hflag : report.caveats ≠ [] ∨ ∃ row ∈ report.surfaces, 0 < row.residualAfter := by
      rcases hrung with hgenuine | hcaveats
      · obtain ⟨row, hrow, -, hresidual⟩ := (genuineResidual_iff report).mp hgenuine
        exact Or.inr ⟨row, hrow, hresidual⟩
      · exact Or.inl hcaveats
    have hhides : ¬HidesResidual report := by
      rintro ⟨hgenuine, hcaveats, -⟩
      rcases hrung with hgenuine' | hcaveats'
      · cases hgenuine.symm.trans hgenuine'
      · exact hcaveats' hcaveats
    refine iff_of_true ⟨?_, ?_, fun hnot => absurd (hflagged.mpr hflag) hnot⟩ hhides
    · exact iff_of_true (hcode.trans htwo) (hflagged.mpr hflag)
    · rw [← hall, erased_of_flagged hflag, hcode, htwo]
      simp
  · have hflag : ¬(report.caveats ≠ [] ∨ ∃ row ∈ report.surfaces, 0 < row.residualAfter) := by
      intro hflag
      cases herased.symm.trans (erased_of_flagged hflag)
    refine iff_of_true ⟨?_, ?_, fun _ hnot => absurd (hall.mp herased) hnot⟩ fun hhides =>
      hflag (Or.inr hhides.2.2.1)
    · rw [hflagged, hcode, hzero]
      exact iff_of_false (by decide) hflag
    · exact iff_of_true ⟨hcode.trans hzero, emit_prints report context _ hprints⟩ (hall.mp herased)
  · -- a surface failed to verify: exit 3, whatever the residuals
    have hnotAll : ¬(report.surfaces ≠ [] ∧ ∀ row ∈ report.surfaces,
        row.coverageVerdict = .erased) := fun hall' => by
      cases herased.symm.trans (hall.mpr hall')
    constructor
    · rintro hagrees ⟨-, -, hresidual, -⟩
      have htwo := hagrees.two.mpr (hflagged.mpr (Or.inr hresidual))
      rw [hcode, hthree] at htwo
      cases htwo
    · intro hhides
      have hflag : ¬(report.caveats ≠ [] ∨ ∃ row ∈ report.surfaces, 0 < row.residualAfter) := by
        rintro (hcaveats' | hresidual)
        · exact hcaveats' hcaveats
        · exact hhides ⟨hgenuine, hcaveats, hresidual, hunverified⟩
      refine ⟨?_, ?_, fun _ _ => Or.inr ⟨?_, hcode.trans hthree⟩⟩
      · rw [hflagged, hcode, hthree]
        exact iff_of_false (by decide) hflag
      · exact iff_of_false (fun hprints => emit_quiet report context hquiet hprints.2) hnotAll
      · rintro ⟨-, hrows⟩
        obtain ⟨row, hrow, hne⟩ := hunverified
        exact hne (hrows row hrow).2.1
  · -- nothing was established before the erasure, and nothing was found
    have hresidual : ∀ row ∈ report.surfaces, row.residualAfter = 0 := by
      intro row hrow
      by_contra hne
      rcases h.baseline with hbaseline | hbaseline
      · cases (hbaseline row hrow).symm.trans (hchecked row hrow)
      · have hgenuine' := (genuineResidual_iff report).mpr
          ⟨row, hrow, (hbaseline row hrow).2, Nat.pos_of_ne_zero hne⟩
        cases hgenuine.symm.trans hgenuine'
    have hflag : ¬(report.caveats ≠ [] ∨ ∃ row ∈ report.surfaces, 0 < row.residualAfter) := by
      rintro (hcaveats' | ⟨row, hrow, hpos⟩)
      · exact hcaveats' hcaveats
      · exact absurd (hresidual row hrow) (by omega)
    refine iff_of_true ⟨?_, ?_, fun _ _ => Or.inl ⟨⟨hsome, fun row hrow => ?_⟩, hcode.trans hzero,
      emit_prints report context _ hprints⟩⟩ fun hhides => hflag (Or.inr hhides.2.2.1)
    · rw [hflagged, hcode, hzero]
      exact iff_of_false (by decide) hflag
    · refine iff_of_false (fun hprints => emit_quiet report context hquiet hprints.2) fun hall' => ?_
      cases herased.symm.trans (hall.mpr hall')
    · exact ⟨hchecked row hrow, hverified row hrow, hresidual row hrow⟩
  · have hflag : report.caveats ≠ [] ∨ ∃ row ∈ report.surfaces, 0 < row.residualAfter :=
      Or.inr hobserved
    refine iff_of_true ⟨?_, ?_, fun hnot => absurd (hflagged.mpr hflag) hnot⟩ ?_
    · exact iff_of_true (hcode.trans htwo) (hflagged.mpr hflag)
    · rw [← hall, herased, hcode, htwo]
      simp
    · rintro ⟨-, -, -, row, hrow, hne⟩
      exact hne (hverified row hrow)
  · have hflag : ¬(report.caveats ≠ [] ∨ ∃ row ∈ report.surfaces, 0 < row.residualAfter) := by
      rintro (hcaveats' | ⟨row, hrow, hpos⟩)
      · exact hcaveats' hcaveats
      · exact absurd (hobserved row hrow) (by omega)
    refine iff_of_true ⟨?_, ?_, fun _ _ => Or.inr ⟨?_, hcode.trans hthree⟩⟩ fun hhides =>
      hflag (Or.inr hhides.2.2.1)
    · rw [hflagged, hcode, hthree]
      exact iff_of_false (by decide) hflag
    · refine iff_of_false (fun hprints => emit_quiet report context hquiet hprints.2) fun hall' => ?_
      cases herased.symm.trans (hall.mpr hall')
    · rintro ⟨hsome, hrows⟩
      exact hchecked ⟨hsome, fun row hrow => (hrows row hrow).1⟩

end Ladder

section Produced

variable [Unicode]

/-- A report that one of the two erasure probes returns. -/
inductive Produced : ErasureReport → Prop
  | run {σ : Type} [Uuid4 σ] (probe : ErasureProbe σ) (target : UUID)
      (scope : Option (List Surface)) (unseeded : Option (Dict Surface String))
      (s : ErasureState σ) : Produced (ErasureProbe.run target scope unseeded probe s).1
  | verify {σ : Type} [Uuid4 σ] (probe : SubjectErasureProbe σ) (target : UUID)
      (manifest : SubjectManifest) {world after : σ} {report : ErasureReport}
      (h : SubjectErasureProbe.verify target manifest probe world = (.ok report, after)) :
      Produced report

theorem Produced.rows {report : ErasureReport} (h : Produced report) : ProducedRows report := by
  cases h with
  | run probe target scope unseeded s =>
    have hkeys := ErasureProbe.run_surfaces probe target scope unseeded s
    refine ⟨probe.plan_surfaces_nodup.sublist hkeys, fun row hrow =>
      probe.plan_surfaces.subset (hkeys.subset (List.mem_map_of_mem hrow)), Or.inl ?_⟩
    intro row hrow
    obtain ⟨entry, s', findings, hvisits, hstep⟩ :=
      (ErasureProbe.mem_run_surfaces probe target scope unseeded s).mp hrow
    obtain ⟨-, ⟨-, herase⟩ | ⟨reason, -, hunseeded⟩⟩ :=
      (ErasureProbe.planStep_eq_some target scope unseeded).mp hstep
    · have hrow : row = (ErasureProbe.eraseSurface target (ErasureProbe.ownMarkers target probe)
          entry s').1.1 := by rw [herase]
      rw [hrow]
      rcases ErasureProbe.eraseSurface_cases hvisits.mem (ErasureProbe.ownMarkers target probe)
        s' with ⟨e, s₁, -, houtcome⟩ | ⟨before, deleted, observed, -, -, -, -, hbaseline, -⟩
      · rw [houtcome]
      · exact hbaseline
    · obtain ⟨rfl, -⟩ := Prod.mk.inj hunseeded
      rfl
  | verify probe target manifest hverify =>
    obtain ⟨hrows, hkeys⟩ :=
      SubjectErasureProbe.verify_rows target manifest probe _ hverify
    exact ⟨SubjectErasureProbe.subjectSurfaces_nodup.sublist hkeys, fun row hrow =>
      SubjectErasureProbe.subjectSurfaces_subset (hkeys.subset (List.mem_map_of_mem hrow)),
      Or.inr hrows⟩

/-- The exit code of the erasure command agrees with the coverage of its report exactly when the
report hides no residual. -/
theorem produced_exitAgrees_iff {report : ErasureReport} (h : Produced report)
    (context : ErasureContext) : ExitAgrees report context ↔ ¬HidesResidual report :=
  exitAgrees_iff h.rows

end Produced

section Sample

attribute [local instance] Unicode.ascii ErasureProbe.storeUuid4

def erasureContext : ErasureContext where
  runId := "run-1"
  scenarioHash := "s"
  manifestHash := "m"
  startedAt := ⟨0, some 0⟩
  finishedAt := ⟨1000000, some 0⟩
  adapterVersions := ∅
  probeId := ErasureProbe.probeId
  version := "0.8.0"
  surfaceProvenance := ∅
  vectorEmbedder := none
  jsonPath := "erasure-evidence.json"
  pdfPath := "erasure-attestation.pdf"

theorem appendOnly_exitAgrees : ExitAgrees
    (ErasureProbe.run ⟨1⟩ none none ErasureProbe.appendOnlyProbe { world := false }).1
    erasureContext := by
  refine (produced_exitAgrees_iff
    (.run ErasureProbe.appendOnlyProbe ⟨1⟩ none none { world := false }) erasureContext).mpr ?_
  rintro ⟨-, -, -, row, hrow, hne⟩
  have hall : ∀ row ∈ (ErasureProbe.run ⟨1⟩ none none ErasureProbe.appendOnlyProbe
      { world := false }).1.surfaces, row.unverifiableAfter = 0 := by
    decide +kernel
  exact hne (hall row hrow)

/-- A cache that cannot be reached. -/
def unreachableCache : CacheAdapter Bool where
  get _ _ world := (.error ⟨.other, "connection refused"⟩, world)
  values _ world := (.error ⟨.other, "connection refused"⟩, world)
  delete _ world := (.error ⟨.other, "connection refused"⟩, world)

def hidingProbe : ErasureProbe Bool :=
  { ErasureProbe.appendOnlyProbe with cache := some unreachableCache }

/-- The vector store reads RESIDUAL, and the command exits 3. -/
theorem hiding_residual_exits_three :
    let report := (ErasureProbe.run ⟨1⟩ none none hidingProbe { world := false }).1
    report.coverage.lookup .vectorDb = some .residual ∧
      (emitErasureAttestation report erasureContext).exitCode = 3 ∧
      Produced report ∧ ¬ExitAgrees report erasureContext := by
  have hlook : (ErasureProbe.run ⟨1⟩ none none hidingProbe
      { world := false }).1.coverage.lookup .vectorDb = some .residual := by
    decide +kernel
  have hcode : (emitErasureAttestation (ErasureProbe.run ⟨1⟩ none none hidingProbe
      { world := false }).1 erasureContext).exitCode = 3 := by
    decide +kernel
  refine ⟨hlook, hcode, .run hidingProbe ⟨1⟩ none none { world := false }, fun hagrees => ?_⟩
  have htwo := hagrees.two.mpr ⟨_, _, hlook, Or.inl rfl⟩
  rw [hcode] at htwo
  cases htwo

end Sample

end Sectum
