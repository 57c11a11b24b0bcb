import Sectum.Core.Score

/-! What a scorecard says of a record, class by class, and how the letter comes of it: a class is
graded when the record places it off the withheld fakes, fails on a confirmed finding that the
record places there, and caps the letter on any confirmed finding off the withheld fakes. -/

namespace Sectum

open Py Tally

/-- The surfaces whose verdicts do not count: the fakes of a run that had a live surface. -/
def RunResult.withheldSurfaces (run : RunResult) : Finset Surface :=
  if run.scopeOf.1 = .configuredStack then run.scopeOf.2 else ∅

namespace RunResult

variable {run : RunResult}

theorem mem_syntheticSurfaces {surface : Surface} :
    surface ∈ run.syntheticSurfaces ↔ run.surfaceProvenance.lookup surface = some .synthetic := by
  unfold syntheticSurfaces
  rw [Finset.mem_filter, mem_exercisedSurfaces, Dict.mem_iff_lookup]
  exact ⟨And.right, fun h => ⟨⟨_, h⟩, h⟩⟩

theorem anyLive_iff :
    run.anyLive ↔ ∃ surface, run.surfaceProvenance.lookup surface = some .live := by
  unfold anyLive
  constructor
  · rintro ⟨surface, -, h⟩
    exact ⟨surface, h⟩
  · rintro ⟨surface, h⟩
    exact ⟨surface, mem_exercisedSurfaces.mpr (Dict.mem_iff_lookup.mpr ⟨_, h⟩), h⟩

theorem scopeOf_configured : run.scopeOf.1 = .configuredStack ↔ run.anyLive := by
  unfold scopeOf
  by_cases hempty : run.exercisedSurfaces = ∅
  · rw [if_pos hempty]
    have hnone : ¬run.anyLive := by
      rintro ⟨surface, hmem, -⟩
      rw [hempty] at hmem
      exact absurd hmem (Finset.notMem_empty surface)
    exact iff_of_false (by decide) hnone
  · rw [if_neg hempty]
    by_cases hlive : run.anyLive <;> simp [hlive]

theorem scopeOf_synthetic : run.scopeOf.2 = run.syntheticSurfaces := by
  unfold scopeOf
  split
  · rename_i hempty
    unfold syntheticSurfaces
    rw [hempty]
    rfl
  · rfl

theorem mem_withheldSurfaces {surface : Surface} :
    surface ∈ run.withheldSurfaces ↔
      run.scopeOf.1 = .configuredStack ∧
        run.surfaceProvenance.lookup surface = some .synthetic := by
  unfold withheldSurfaces
  split
  · rename_i hscope
    rw [scopeOf_synthetic, mem_syntheticSurfaces]
    simp [hscope]
  · rename_i hscope
    simp [hscope]

theorem withheld_exercised {surface : Surface} (h : surface ∈ run.withheldSurfaces) :
    surface ∈ run.exercisedSurfaces :=
  mem_exercisedSurfaces.mpr (Dict.mem_iff_lookup.mpr ⟨_, (mem_withheldSurfaces.mp h).2⟩)

end RunResult

namespace CatalogClass

variable (entry : CatalogClass) (run : RunResult)

theorem mem_confirmedFindings {entry : CatalogClass} {run : RunResult} {f : Finding} :
    f ∈ entry.confirmedFindings run ↔
      f ∈ run.findings ∧ f.probeId ∈ entry.probeIds ∧ f.status = .confirmed := by
  unfold confirmedFindings
  rw [List.mem_filter, decide_eq_true_eq]

/-- The class ran, and the record puts it on a surface that is not a withheld fake. -/
def Gradeable : Prop :=
  entry.ran run ≠ [] ∧
    (run.exercisedSurfaces = ∅ ∨
      ∃ surface ∈ entry.accepted run,
        surface ∈ run.exercisedSurfaces ∧ surface ∉ run.withheldSurfaces)

/-- A confirmed finding of the class is not on a withheld fake. -/
def Caps : Prop := ∃ f ∈ entry.confirmedFindings run, f.backingSurface ∉ run.withheldSurfaces

/-- A confirmed finding of the gradeable class is on a surface of the record that counts. -/
def Fails : Prop :=
  entry.Gradeable run ∧
    ∃ f ∈ entry.confirmedFindings run, f.backingSurface ∉ run.withheldSurfaces ∧
      (run.exercisedSurfaces = ∅ ∨ f.backingSurface ∈ run.exercisedSurfaces)

def Passes : Prop := entry.Gradeable run ∧ ¬entry.Caps run

instance : Decidable (entry.Gradeable run) := inferInstanceAs (Decidable (_ ∧ (_ ∨ ∃ _ ∈ _, _)))

instance : Decidable (entry.Caps run) := inferInstanceAs (Decidable (∃ _ ∈ _, _))

instance : Decidable (entry.Fails run) := inferInstanceAs (Decidable (_ ∧ ∃ _ ∈ _, _))

instance : Decidable (entry.Passes run) := inferInstanceAs (Decidable (_ ∧ ¬_))

variable {entry : CatalogClass} {run : RunResult}

theorem Fails.caps (h : entry.Fails run) : entry.Caps run := by
  obtain ⟨-, f, hf, hwithheld, -⟩ := h
  exact ⟨f, hf, hwithheld⟩

theorem Passes.not_fails (h : entry.Passes run) : ¬entry.Fails run := fun hfails => h.2 hfails.caps

theorem ran_ne_nil {f : Finding} (h : f ∈ entry.confirmedFindings run) : entry.ran run ≠ [] := by
  obtain ⟨hmem, hprobe, -⟩ := mem_confirmedFindings.mp h
  have hran : f.probeId ∈ entry.ran run :=
    List.mem_filter.mpr ⟨hprobe, decide_eq_true (Or.inr ⟨f, hmem, rfl⟩)⟩
  exact List.ne_nil_of_mem hran

theorem probeSurfaces_ne_nil :
    ∀ entry ∈ catalog, ∀ probeId ∈ entry.probeIds, probeSurfaces.getD probeId [] ≠ [] := by
  decide +kernel

theorem accepted_ne_empty (hentry : entry ∈ catalog) (hran : entry.ran run ≠ []) :
    entry.accepted run ≠ ∅ := by
  obtain ⟨probeId, hprobe⟩ := List.exists_mem_of_ne_nil _ hran
  have hlisted : probeId ∈ entry.probeIds := (List.mem_filter.mp hprobe).1
  obtain ⟨surface, hsurface⟩ :=
    List.exists_mem_of_ne_nil _ (probeSurfaces_ne_nil entry hentry probeId hlisted)
  have haccepted : surface ∈ entry.accepted run :=
    List.mem_toFinset.mpr (List.mem_flatMap.mpr ⟨probeId, hprobe, hsurface⟩)
  exact Finset.ne_empty_of_mem haccepted

/-- The two rules that withhold a class that ran: nothing of it is on the record, or fakes alone. -/
theorem gradeable_iff (hentry : entry ∈ catalog) :
    entry.Gradeable run ↔ entry.ran run ≠ [] ∧
      ¬(entry.ran run ≠ [] ∧ entry.accepted run ≠ ∅ ∧ run.exercisedSurfaces ≠ ∅ ∧
        entry.accepted run ∩ run.exercisedSurfaces = ∅) ∧
      ¬(entry.ran run ≠ [] ∧ entry.accepted run ∩ run.exercisedSurfaces ≠ ∅ ∧
        entry.accepted run ∩ run.exercisedSurfaces ⊆ run.withheldSurfaces) := by
  unfold Gradeable
  refine and_congr_right fun hran => ?_
  have haccepted := accepted_ne_empty hentry hran
  constructor
  · intro h
    rcases h with hempty | ⟨surface, hacc, hex, hoff⟩
    · simp [hempty]
    · have hmem := Finset.mem_inter.mpr ⟨hacc, hex⟩
      refine ⟨fun h => ?_, fun h => hoff (h.2.2 hmem)⟩
      rw [h.2.2.2] at hmem
      exact absurd hmem (Finset.notMem_empty surface)
  · rintro ⟨hplaceable, hfake⟩
    by_cases hempty : run.exercisedSurfaces = ∅
    · exact Or.inl hempty
    · have hbacking : entry.accepted run ∩ run.exercisedSurfaces ≠ ∅ := fun h =>
        hplaceable ⟨hran, haccepted, hempty, h⟩
      have hsub : ¬entry.accepted run ∩ run.exercisedSurfaces ⊆ run.withheldSurfaces := fun h =>
        hfake ⟨hran, hbacking, h⟩
      obtain ⟨surface, hmem, hoff⟩ := Finset.not_subset.mp hsub
      obtain ⟨hacc, hex⟩ := Finset.mem_inter.mp hmem
      exact Or.inr ⟨surface, hacc, hex, hoff⟩

def placedFindings (entry : CatalogClass) (run : RunResult) : Nat :=
  (entry.confirmedFindings run).countP fun f => f.backingSurface ∉ run.withheldSurfaces ∧
    (run.exercisedSurfaces = ∅ ∨ f.backingSurface ∈ run.exercisedSurfaces)

theorem confirmed_split (entry : CatalogClass) (run : RunResult) :
    (entry.confirmedFindings run).length =
      (entry.confirmedFindings run).countP (fun f => f.backingSurface ∈ run.withheldSurfaces) +
        entry.unattributedInClass run + entry.placedFindings run := by
  unfold unattributedInClass placedFindings
  split
  · rename_i hempty
    have hnone : ∀ surface, surface ∉ run.withheldSurfaces := fun surface hmem => by
      have hex := RunResult.withheld_exercised hmem
      rw [hempty] at hex
      exact absurd hex (Finset.notMem_empty surface)
    simp [hempty, hnone]
  · rename_i hempty
    apply length_eq_countP
    intro f hf
    by_cases hex : f.backingSurface ∈ run.exercisedSurfaces
    · by_cases hwithheld : f.backingSurface ∈ run.withheldSurfaces <;>
        simp [hempty, hex, hwithheld]
    · have hwithheld : f.backingSurface ∉ run.withheldSurfaces := fun h =>
        hex (RunResult.withheld_exercised h)
      simp [hempty, hex, hwithheld]

theorem placedFindings_pos :
    entry.placedFindings run ≠ 0 ↔
      ∃ f ∈ entry.confirmedFindings run, f.backingSurface ∉ run.withheldSurfaces ∧
        (run.exercisedSurfaces = ∅ ∨ f.backingSurface ∈ run.exercisedSurfaces) := by
  unfold placedFindings
  rw [← Nat.pos_iff_ne_zero, List.countP_pos_iff]
  simp only [decide_eq_true_eq]

theorem unattributed_pos :
    entry.unattributedInClass run ≠ 0 ↔
      run.exercisedSurfaces ≠ ∅ ∧
        ∃ f ∈ entry.confirmedFindings run, f.backingSurface ∉ run.exercisedSurfaces := by
  unfold unattributedInClass
  split
  · rename_i hempty
    simp [hempty]
  · rename_i hempty
    rw [← Nat.pos_iff_ne_zero, List.countP_pos_iff]
    simp only [decide_eq_true_eq, ne_eq, hempty, not_false_eq_true, true_and]

theorem caps_iff :
    entry.Caps run ↔ entry.placedFindings run ≠ 0 ∨ entry.unattributedInClass run ≠ 0 := by
  rw [placedFindings_pos, unattributed_pos]
  constructor
  · rintro ⟨f, hf, hoff⟩
    by_cases hempty : run.exercisedSurfaces = ∅
    · exact Or.inl ⟨f, hf, hoff, Or.inl hempty⟩
    · by_cases hex : f.backingSurface ∈ run.exercisedSurfaces
      · exact Or.inl ⟨f, hf, hoff, Or.inr hex⟩
      · exact Or.inr ⟨hempty, f, hf, hex⟩
  · rintro (⟨f, hf, hoff, -⟩ | ⟨-, f, hf, hex⟩)
    · exact ⟨f, hf, hoff⟩
    · exact ⟨f, hf, fun hwithheld => hex (RunResult.withheld_exercised hwithheld)⟩

theorem fails_iff :
    entry.Fails run ↔ entry.Gradeable run ∧ entry.placedFindings run ≠ 0 := by
  unfold Fails
  rw [placedFindings_pos]

theorem passes_iff :
    entry.Passes run ↔ entry.Gradeable run ∧ entry.placedFindings run = 0 ∧
      entry.unattributedInClass run = 0 := by
  unfold Passes
  rw [caps_iff, not_or, not_not, not_not]

end CatalogClass

structure ClassScore.Grades (c : ClassScore) (entry : CatalogClass) (run : RunResult) : Prop where
  classId : c.classId = entry.classId
  severity : c.severity = entry.severity
  fail_iff : c.verdict = .fail ↔ entry.Fails run
  pass_iff : c.verdict = .pass ↔ entry.Passes run

theorem CatalogClass.notCovered_grades {entry : CatalogClass} {run : RunResult}
    {probeIds : List String} {confirmed : Nat} {note : String}
    (hfails : ¬entry.Fails run) (hpasses : ¬entry.Passes run) :
    (entry.notCovered probeIds confirmed note).Grades entry run where
  classId := rfl
  severity := rfl
  fail_iff := iff_of_false (by simp [notCovered]) hfails
  pass_iff := iff_of_false (by simp [notCovered]) hpasses

section Grading

variable [Unicode] [MathSqrt] [MathErfc]

theorem CatalogClass.scoreClass_grades {entry : CatalogClass} {run : RunResult} {c : ClassScore}
    (hentry : entry ∈ catalog)
    (h : entry.scoreClass run run.withheldSurfaces run.exercisedSurfaces = .ok c) :
    c.Grades entry run := by
  have hgradeable := @gradeable_iff entry run hentry
  have hsplit := entry.confirmed_split run
  have hungraded : ¬entry.Gradeable run → ∀ {probeIds confirmed note},
      (entry.notCovered probeIds confirmed note).Grades entry run := fun hnot _ _ _ =>
    notCovered_grades (fun hf => hnot hf.1) (fun hp => hnot hp.1)
  unfold scoreClass at h
  simp only at h
  split at h
  · rename_i hunplaceable
    obtain rfl := Except.ok.inj h
    exact hungraded fun hg => (hgradeable.mp hg).2.1 hunplaceable
  rename_i hplaceable
  split at h
  · rename_i hfake
    obtain rfl := Except.ok.inj h
    exact hungraded fun hg => (hgradeable.mp hg).2.2 hfake
  rename_i hreal
  split at h
  · rename_i hran
    obtain rfl := Except.ok.inj h
    exact hungraded fun hg => hg.1 hran
  rename_i hran
  have hgrade : entry.Gradeable run := hgradeable.mpr ⟨hran, hplaceable, hreal⟩
  -- What is left of the count is the number of findings that the record places.
  have hconfirmed : (entry.confirmedFindings run).length -
      (entry.confirmedFindings run).countP (fun f => f.backingSurface ∈ run.withheldSurfaces) -
        entry.unattributedInClass run = entry.placedFindings run := by omega
  rw [hconfirmed] at h
  split at h
  · rename_i hunattributed
    obtain rfl := Except.ok.inj h
    apply notCovered_grades
    · rw [fails_iff]
      exact fun hf => hf.2 hunattributed.2
    · rw [passes_iff]
      exact fun hp => hunattributed.1 hp.2.2
  · rename_i hattributed
    obtain ⟨headline, -, hc⟩ := bind_eq_ok.mp h
    obtain rfl := Except.ok.inj hc
    refine ⟨rfl, rfl, ?_, ?_⟩
    · rw [fails_iff]
      by_cases hplaced : entry.placedFindings run = 0 <;> simp [hplaced, hgrade]
    · rw [passes_iff]
      by_cases hplaced : entry.placedFindings run = 0
      · have hnone : entry.unattributedInClass run = 0 :=
          not_not.mp fun hne => hattributed ⟨hne, hplaced⟩
        simp [hplaced, hnone, hgrade]
      · simp [hplaced]

end Grading

def RunResult.cleanWeight (run : RunResult) : Nat :=
  weightOf (fun entry => severityWeight entry.severity) catalog fun entry => entry.Passes run

def RunResult.leakWeight (run : RunResult) : Nat :=
  weightOf (fun entry => severityWeight entry.severity) catalog fun entry => entry.Fails run

/-- The worst of the bands that cap the letter. -/
def RunResult.worstBand (run : RunResult) : Option Severity :=
  ((catalog.filter fun entry => entry.Caps run).map CatalogClass.severity).max?

/-- The best grade that a capping band leaves. -/
def capGrade (band : Option Severity) : Grade := (band.bind severityCap).getD .A

theorem letter_eq (weighted : ℚ) (band : Option Severity) :
    letter weighted band = max (gradeFor weighted) (capGrade band) := by
  unfold letter capGrade
  cases band.bind severityCap with
  | none =>
    symm
    exact max_eq_left (Grade.le_iff_index.mpr (Nat.zero_le _))
  | some capped => rfl

theorem weight_entry :
    ∀ entry ∈ catalog, classWeights.getD entry.classId 0 = severityWeight entry.severity := by
  decide +kernel

/-- A scorecard of a record: what each line says, and how the letter comes of it. -/
structure IsolationScore.Grades (s : IsolationScore) (run : RunResult) : Prop where
  probes : run.confirmedProbeIds ⊆ catalogProbes
  scope : s.scope = run.scopeOf.1
  classes : List.Forall₂ (fun entry c => c.Grades entry run) catalog s.classes
  graded : 0 < run.cleanWeight + run.leakWeight
  weightedScore : (s.weightedScore : ℚ) =
    (run.cleanWeight : ℚ) / ((run.cleanWeight + run.leakWeight : ℕ) : ℚ)
  cappedBy : s.cappedBy = run.worstBand
  grade : s.grade = max (gradeFor s.weightedScore) (capGrade s.cappedBy)

section Tallies

variable {run : RunResult} {classes : List ClassScore}

theorem weight_of_grades {entry : CatalogClass} {c : ClassScore} (hentry : entry ∈ catalog)
    (h : c.Grades entry run) : severityWeight entry.severity = c.weight := by
  unfold ClassScore.weight
  rw [h.classId, weight_entry entry hentry]

theorem passedWeight_eq
    (h : List.Forall₂ (fun entry c => ClassScore.Grades c entry run) catalog classes) :
    run.cleanWeight = weightOf ClassScore.weight classes fun c => c.verdict = .pass :=
  weightOf_eq_of_forall₂ h fun _ hentry _ hc => ⟨weight_of_grades hentry hc, hc.pass_iff.symm⟩

theorem coveredWeight_eq
    (h : List.Forall₂ (fun entry c => ClassScore.Grades c entry run) catalog classes) :
    run.cleanWeight + run.leakWeight =
      weightOf ClassScore.weight classes fun c => c.verdict ≠ .notCovered := by
  unfold RunResult.cleanWeight RunResult.leakWeight
  rw [← weightOf_or fun entry _ hp => hp.not_fails]
  apply weightOf_eq_of_forall₂ h
  intro entry hentry c hc
  refine ⟨weight_of_grades hentry hc, ?_⟩
  rw [← hc.pass_iff, ← hc.fail_iff]
  cases c.verdict <;> simp

/-- A finding that caps its class fails it, or leaves it ungraded under a record that has a
provenance. -/
theorem CatalogClass.caps_cases {entry : CatalogClass} :
    entry.Caps run ↔ entry.Fails run ∨
      ¬entry.Fails run ∧ ¬entry.Passes run ∧
        entry.uncappedConfirmed run run.withheldSurfaces = true := by
  unfold uncappedConfirmed
  by_cases hfails : entry.Fails run
  · simp [hfails, hfails.caps]
  · by_cases hempty : run.exercisedSurfaces = ∅
    · have hnone : ¬entry.Caps run := by
        rintro ⟨f, hf, hoff⟩
        exact hfails ⟨⟨ran_ne_nil hf, Or.inl hempty⟩, f, hf, hoff, Or.inl hempty⟩
      simp [hfails, hempty, hnone]
    · have hany : (entry.confirmedFindings run).any
          (fun f => f.backingSurface ∉ run.withheldSurfaces) = true ↔ entry.Caps run := by
        rw [List.any_eq_true]
        exact ⟨fun ⟨f, hf, hoff⟩ => ⟨f, hf, of_decide_eq_true hoff⟩,
          fun ⟨f, hf, hoff⟩ => ⟨f, hf, decide_eq_true hoff⟩⟩
      rw [if_neg hempty, hany]
      constructor
      · intro hcaps
        exact Or.inr ⟨hfails, fun hp => hp.2 hcaps, hcaps⟩
      · rintro (hf | ⟨-, -, hcaps⟩)
        · exact hf.caps
        · exact hcaps

theorem mem_cappingBands
    (h : List.Forall₂ (fun entry c => ClassScore.Grades c entry run) catalog classes)
    (band : Severity) :
    band ∈ cappingBands run run.withheldSurfaces classes ↔
      band ∈ (catalog.filter fun entry => entry.Caps run).map CatalogClass.severity := by
  obtain ⟨hlength, hzip⟩ := List.forall₂_iff_zip.mp h
  have hfst : (catalog.zip classes).map Prod.fst = catalog := List.map_fst_zip hlength.le
  have hsnd : (catalog.zip classes).map Prod.snd = classes := List.map_snd_zip hlength.ge
  have hverdict : ∀ {entry : CatalogClass} {c : ClassScore}, c.Grades entry run →
      (c.verdict = .notCovered ↔ ¬entry.Fails run ∧ ¬entry.Passes run) := by
    intro entry c hc
    rw [← hc.fail_iff, ← hc.pass_iff]
    cases c.verdict <;> simp
  unfold cappingBands
  rw [List.mem_append, List.mem_map, List.mem_map, List.mem_map]
  constructor
  · rintro (⟨c, hc, rfl⟩ | ⟨⟨entry, c⟩, hpair, rfl⟩)
    · obtain ⟨hmem, hfail⟩ := List.mem_filter.mp hc
      rw [← hsnd] at hmem
      obtain ⟨⟨entry, c'⟩, hpair, rfl⟩ := List.mem_map.mp hmem
      have hgrades := hzip hpair
      have hfails : entry.Fails run := hgrades.fail_iff.mp (of_decide_eq_true hfail)
      exact ⟨entry, List.mem_filter.mpr ⟨(List.of_mem_zip hpair).1, decide_eq_true hfails.caps⟩,
        hgrades.severity.symm⟩
    · obtain ⟨hmem, hnone⟩ := List.mem_filter.mp hpair
      obtain ⟨hungraded, huncapped⟩ := of_decide_eq_true hnone
      obtain ⟨hfails, hpasses⟩ := (hverdict (hzip hmem)).mp hungraded
      have hcaps : entry.Caps run :=
        CatalogClass.caps_cases.mpr (Or.inr ⟨hfails, hpasses, huncapped⟩)
      exact ⟨entry, List.mem_filter.mpr ⟨(List.of_mem_zip hmem).1, decide_eq_true hcaps⟩, rfl⟩
  · rintro ⟨entry, hentry, rfl⟩
    obtain ⟨hmem, hcaps⟩ := List.mem_filter.mp hentry
    rw [← hfst] at hmem
    obtain ⟨⟨entry', c⟩, hpair, rfl⟩ := List.mem_map.mp hmem
    have hgrades := hzip hpair
    rcases CatalogClass.caps_cases.mp (of_decide_eq_true hcaps) with
      hfails | ⟨hfails, hpasses, huncapped⟩
    · exact Or.inl ⟨c, List.mem_filter.mpr ⟨(List.of_mem_zip hpair).2,
        decide_eq_true (hgrades.fail_iff.mpr hfails)⟩, hgrades.severity⟩
    · exact Or.inr ⟨(entry', c), List.mem_filter.mpr ⟨hpair,
        decide_eq_true ⟨(hverdict hgrades).mpr ⟨hfails, hpasses⟩, huncapped⟩⟩, rfl⟩

end Tallies

theorem validateUnit_eq_ok {field : String} {value : ℚ} {unit : UnitRat} :
    validateUnit field value = .ok unit ↔ (unit : ℚ) = value := by
  unfold validateUnit
  split
  · constructor
    · intro h
      rw [← Except.ok.inj h]
    · intro h
      exact congrArg Except.ok (Subtype.ext h.symm)
  · rename_i hbounds
    constructor
    · intro h
      cases h
    · intro h
      exact absurd (h ▸ unit.2) hbounds

section Runs

variable [Unicode] [MathSqrt] [MathErfc] [RunDigest]

/-- A record that is graded is graded by what its lines say. -/
theorem scoreRun_grades {run : RunResult} {s : IsolationScore} (h : scoreRun run = .ok s) :
    s.Grades run := by
  unfold scoreRun at h
  simp only at h
  split at h
  · cases h
  rename_i hprobes
  obtain ⟨digest, -, h⟩ := bind_eq_ok.mp h
  obtain ⟨classes, hclasses, h⟩ := bind_eq_ok.mp h
  have hgrades : List.Forall₂ (fun entry c => ClassScore.Grades c entry run) catalog classes := by
    have hscored := mapM_eq_ok.mp hclasses
    rw [List.forall₂_iff_zip] at hscored ⊢
    refine ⟨hscored.1, fun {entry c} hpair => ?_⟩
    exact CatalogClass.scoreClass_grades (List.of_mem_zip hpair).1 (hscored.2 hpair)
  split at h
  · cases h
  split at h
  · cases h
  rename_i hweight
  obtain ⟨weightedScore, hscore, h⟩ := bind_eq_ok.mp h
  obtain ⟨coverage, -, h⟩ := bind_eq_ok.mp h
  obtain rfl := Except.ok.inj h
  have hcovered := coveredWeight_eq hgrades
  have hpassed : ((classes.filter fun c => c.verdict ≠ .notCovered).filter fun c =>
      c.verdict = .pass) = classes.filter fun c => c.verdict = .pass := by
    rw [List.filter_filter]
    congr 1
    funext c
    cases c.verdict <;> rfl
  refine ⟨?_, rfl, hgrades, ?_, ?_, max?_congr (mem_cappingBands hgrades), letter_eq _ _⟩
  · exact Finset.sdiff_eq_empty_iff_subset.mp (not_not.mp hprobes)
  · rw [hcovered]
    exact Nat.pos_of_ne_zero hweight
  · rw [validateUnit_eq_ok.mp hscore, hpassed, hcovered, passedWeight_eq hgrades]
    rfl

end Runs

end Sectum
