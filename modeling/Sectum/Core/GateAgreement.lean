import Sectum.Core.OscalAgreement
import Sectum.Evidence.Verify

/-! The three gates that decide whether a record speaks for a live stack: the control catalog, the
scorecard, and the run-scope check of the verifier. -/

namespace Sectum

open Py Tally

section Controls

variable {run : RunResult} {row : ControlRow}

/-- The record has a mapping that was made from the row. -/
def RunResult.Asserts (run : RunResult) (row : ControlRow) : Prop :=
  ∃ mapping ∈ controlMappings (some run), mapping.row = some row

theorem asserts_iff (hrow : row ∈ controlTable) :
    run.Asserts row ↔ run.supports row.requirement row.surfaces = true := by
  constructor
  · rintro ⟨mapping, hmapping, hfrom⟩
    obtain ⟨other, hother, hsupports, rfl⟩ := mem_controlMappings.mp hmapping
    have hfound : (other.asserted run).row = some other := controlTable_find other hother
    rw [hfound] at hfrom
    obtain rfl := Option.some.inj hfrom
    exact hsupports
  · intro hsupports
    exact ⟨row.asserted run, mem_controlMappings.mpr ⟨row, hrow, hsupports, rfl⟩,
      controlTable_find row hrow⟩

/-- Some probe of the class ran, and a surface of its slot is recorded as a live backend. -/
def CatalogClass.DroveLive (entry : CatalogClass) (run : RunResult) : Prop :=
  ∃ probeId ∈ entry.probeIds, run.exercises probeId ∧
    ∃ surface ∈ probeSurfaces.getD probeId [], run.surfaceProvenance.lookup surface = some .live

instance (entry : CatalogClass) (run : RunResult) : Decidable (entry.DroveLive run) :=
  inferInstanceAs (Decidable (∃ probeId ∈ entry.probeIds, _ ∧ ∃ surface ∈ _, _))

/-- The two copies of the table that places the probes. -/
theorem isolationProbeSurfaces_eq (probeId : String) :
    isolationProbeSurfaces.getD probeId [] = probeSurfaces.getD probeId [] := rfl

theorem isolation_probe_listed {probeId : String} {surface : Surface}
    (h : surface ∈ probeSurfaces.getD probeId []) :
    probeId ∉ erasureWorkflowIds ∧ ∃ entry ∈ catalog, probeId ∈ entry.probeIds := by
  have hkeys : ∀ key ∈ probeSurfaces.keys,
      key ∉ erasureWorkflowIds ∧ ∃ entry ∈ catalog, key ∈ entry.probeIds := by
    decide +kernel
  unfold Dict.getD at h
  cases hlook : probeSurfaces.lookup probeId with
  | none =>
    rw [hlook] at h
    cases h
  | some surfaces =>
    exact hkeys probeId (AList.mem_keys.mpr (Dict.mem_iff_lookup.mpr ⟨surfaces, hlook⟩))

/-- The isolation gate of the control catalog, for a record without an erasure block. -/
theorem supports_isolation_iff (hcoverage : run.metrics.erasureCoverage = ∅) :
    run.supports .isolation [] = true ↔ ∃ entry ∈ catalog, entry.DroveLive run := by
  have hscanned : run.erasureScannedSurfaces = ∅ := by
    unfold RunResult.erasureScannedSurfaces
    rw [hcoverage]
    rfl
  have hsupports : run.supports .isolation [] =
      ((run.exercisedProbes.any fun probeId => probeId ∉ erasureWorkflowIds) &&
        decide (run.liveSurfaces ∩ run.isolationSurfaces ≠ ∅)) := rfl
  rw [hsupports, Bool.and_eq_true, List.any_eq_true, decide_eq_true_eq,
    ← Finset.nonempty_iff_ne_empty]
  have hdrove : ∀ surface, surface ∈ run.isolationSurfaces ↔
      run.surfaceProvenance.lookup surface = some .live ∧ ∃ probeId, run.exercises probeId ∧
        probeId ∉ erasureWorkflowIds ∧ surface ∈ probeSurfaces.getD probeId [] := by
    intro surface
    unfold RunResult.isolationSurfaces
    rw [hscanned, Finset.sdiff_empty, Finset.mem_inter, RunResult.mem_liveSurfaces,
      List.mem_toFinset, List.mem_flatMap]
    simp only [List.mem_filter, RunResult.mem_exercisedProbes, decide_eq_true_eq, and_assoc,
      isolationProbeSurfaces_eq]
  constructor
  · rintro ⟨-, surface, hmem⟩
    obtain ⟨hlive, probeId, hexercised, -, hsurface⟩ :=
      (hdrove surface).mp (Finset.mem_inter.mp hmem).2
    obtain ⟨-, entry, hentry, hlisted⟩ := isolation_probe_listed hsurface
    exact ⟨entry, hentry, probeId, hlisted, hexercised, surface, hsurface, hlive⟩
  · rintro ⟨entry, -, probeId, -, hexercised, surface, hsurface, hlive⟩
    have hother := (isolation_probe_listed hsurface).1
    refine ⟨⟨probeId, RunResult.mem_exercisedProbes.mpr hexercised, decide_eq_true hother⟩,
      surface, Finset.mem_inter.mpr ⟨RunResult.mem_liveSurfaces.mpr hlive, ?_⟩⟩
    exact (hdrove surface).mpr ⟨hlive, probeId, hexercised, hother, hsurface⟩

end Controls

section Classes

variable {run : RunResult} {entry : CatalogClass}

theorem CatalogClass.mem_accepted {surface : Surface} :
    surface ∈ entry.accepted run ↔ ∃ probeId ∈ entry.probeIds, run.exercises probeId ∧
      surface ∈ probeSurfaces.getD probeId [] := by
  unfold accepted ran
  rw [List.mem_toFinset, List.mem_flatMap]
  simp only [List.mem_filter, decide_eq_true_eq, and_assoc]

/-- On a live stack, the classes that are not withheld for want of a live surface. -/
theorem CatalogClass.gradeable_iff_droveLive (hscope : run.scopeOf.1 = .configuredStack) :
    entry.Gradeable run ↔ entry.DroveLive run := by
  have hexercised : run.exercisedSurfaces ≠ ∅ := by
    obtain ⟨surface, hlive⟩ :=
      RunResult.anyLive_iff.mp (RunResult.scopeOf_configured.mp hscope)
    exact Finset.ne_empty_of_mem
      (RunResult.mem_exercisedSurfaces.mpr (Dict.mem_iff_lookup.mpr ⟨_, hlive⟩))
  constructor
  · rintro ⟨-, hempty | ⟨surface, haccepted, hrecorded, hoff⟩⟩
    · exact absurd hempty hexercised
    · obtain ⟨probeId, hlisted, hprobe, hsurface⟩ := mem_accepted.mp haccepted
      obtain ⟨provenance, hlookup⟩ :=
        Dict.mem_iff_lookup.mp (RunResult.mem_exercisedSurfaces.mp hrecorded)
      cases provenance with
      | live => exact ⟨probeId, hlisted, hprobe, surface, hsurface, hlookup⟩
      | synthetic => exact absurd (RunResult.mem_withheldSurfaces.mpr ⟨hscope, hlookup⟩) hoff
  · rintro ⟨probeId, hlisted, hprobe, surface, hsurface, hlive⟩
    have hran : probeId ∈ entry.ran run :=
      List.mem_filter.mpr ⟨hlisted, decide_eq_true hprobe⟩
    refine ⟨List.ne_nil_of_mem hran, .inr ⟨surface, ?_, ?_, ?_⟩⟩
    · exact mem_accepted.mpr ⟨probeId, hlisted, hprobe, hsurface⟩
    · exact RunResult.mem_exercisedSurfaces.mpr (Dict.mem_iff_lookup.mpr ⟨_, hlive⟩)
    · intro hwithheld
      rw [(RunResult.mem_withheldSurfaces.mp hwithheld).2] at hlive
      cases hlive

/-- The class could be graded, but for its confirmed findings: none is on a live backend of the
record, and some are on a surface that the record does not name. -/
def CatalogClass.OnlyUnrecorded (entry : CatalogClass) (run : RunResult) : Prop :=
  entry.DroveLive run ∧
  (∃ f ∈ entry.confirmedFindings run, f.backingSurface ∉ run.exercisedSurfaces) ∧
  ∀ f ∈ entry.confirmedFindings run, run.surfaceProvenance.lookup f.backingSurface ≠ some .live

theorem CatalogClass.graded_or_onlyUnrecorded (hscope : run.scopeOf.1 = .configuredStack)
    (h : entry.DroveLive run) :
    entry.Fails run ∨ entry.Passes run ∨ entry.OnlyUnrecorded run := by
  have hgradeable := (gradeable_iff_droveLive hscope).mpr h
  rw [fails_iff, passes_iff]
  by_cases hplaced : entry.placedFindings run = 0
  · by_cases hunattributed : entry.unattributedInClass run = 0
    · exact .inr (.inl ⟨hgradeable, hplaced, hunattributed⟩)
    · refine .inr (.inr ⟨h, (unattributed_pos.mp hunattributed).2, ?_⟩)
      intro f hf hlive
      refine placedFindings_pos.mpr ⟨f, hf, ?_, .inr ?_⟩ hplaced
      · intro hwithheld
        rw [(RunResult.mem_withheldSurfaces.mp hwithheld).2] at hlive
        cases hlive
      · exact RunResult.mem_exercisedSurfaces.mpr (Dict.mem_iff_lookup.mpr ⟨_, hlive⟩)
  · exact .inl ⟨hgradeable, hplaced⟩

/-- The line of a class that is withheld for its unattributed findings. -/
def CatalogClass.withheldUnattributed (entry : CatalogClass) (run : RunResult) : ClassScore :=
  entry.notCovered (entry.ran run) (entry.unattributedInClass run)
    (unattributedNote (entry.unattributedInClass run))

theorem CatalogClass.OnlyUnrecorded.withheld [Unicode] [MathSqrt] [MathErfc]
    (h : entry.OnlyUnrecorded run) (hentry : entry ∈ catalog)
    (hscope : run.scopeOf.1 = .configuredStack) :
    entry.scoreClass run run.withheldSurfaces run.exercisedSurfaces =
      .ok (entry.withheldUnattributed run) := by
  obtain ⟨hdrove, ⟨f, hf, hmissing⟩, hlive⟩ := h
  obtain ⟨hran, hplaceable, hreal⟩ :=
    (gradeable_iff hentry).mp ((gradeable_iff_droveLive hscope).mpr hdrove)
  have hunattributed : entry.unattributedInClass run ≠ 0 := by
    refine unattributed_pos.mpr ⟨?_, f, hf, hmissing⟩
    obtain ⟨-, -, -, surface, -, hrecorded⟩ := hdrove
    exact Finset.ne_empty_of_mem
      (RunResult.mem_exercisedSurfaces.mpr (Dict.mem_iff_lookup.mpr ⟨_, hrecorded⟩))
  have hplaced : entry.placedFindings run = 0 := by
    by_contra hne
    obtain ⟨g, hg, hoff, hempty | hrecorded⟩ := placedFindings_pos.mp hne
    · exact hunattributed (by rw [unattributedInClass, if_pos hempty])
    · obtain ⟨provenance, hlookup⟩ :=
        Dict.mem_iff_lookup.mp (RunResult.mem_exercisedSurfaces.mp hrecorded)
      cases provenance with
      | live => exact hlive g hg hlookup
      | synthetic => exact hoff (RunResult.mem_withheldSurfaces.mpr ⟨hscope, hlookup⟩)
  have hsplit := entry.confirmed_split run
  unfold scoreClass
  simp only
  rw [if_neg hplaceable, if_neg hreal, if_neg hran, if_pos ⟨hunattributed, by omega⟩]
  rfl

end Classes

section Returns

variable [Unicode] [MathSqrt] [MathErfc] {run : RunResult} {entry : CatalogClass}

omit [Unicode] in
theorem wilsonInterval_returns {successes trials : Nat} (h : successes ≤ trials) :
    ∃ interval, wilsonInterval successes trials = .ok interval := by
  unfold wilsonInterval
  rw [if_neg (Nat.not_lt.mpr h), if_neg (by norm_num)]
  split
  · exact ⟨_, rfl⟩
  · rw [normalQuantile, if_pos (by norm_num)]
    exact ⟨_, rfl⟩

theorem headline_returns (h : run.metrics.retrievalPivotK ≤ run.metrics.retrievalPivotN)
    (vectorEmbedder : Option String) :
    ∃ text, headline entry run.metrics vectorEmbedder = .ok text := by
  unfold headline
  split
  · have hrate : run.metrics.rateFromCounts =
        .ok (rateFromCounts run.metrics.retrievalPivotK run.metrics.retrievalPivotN) :=
      if_neg (Nat.not_lt.mpr h)
    obtain ⟨interval, hinterval⟩ := wilsonInterval_returns h
    rw [hrate]
    cases rateFromCounts run.metrics.retrievalPivotK run.metrics.retrievalPivotN with
    | none => exact ⟨_, rfl⟩
    | some rate => exact exists_bind_ok rfl (exists_bind_ok hinterval ⟨_, rfl⟩)
  · exact ⟨_, rfl⟩

theorem CatalogClass.scoreClass_returns
    (h : run.metrics.retrievalPivotK ≤ run.metrics.retrievalPivotN)
    (synthetic exercised : Finset Surface) :
    ∃ c, entry.scoreClass run synthetic exercised = .ok c := by
  unfold scoreClass
  simp only
  split
  · exact ⟨_, rfl⟩
  split
  · exact ⟨_, rfl⟩
  split
  · exact ⟨_, rfl⟩
  split
  · exact ⟨_, rfl⟩
  · obtain ⟨text, htext⟩ : ∃ text, headline entry run.metrics _ = .ok text := headline_returns h _
    exact exists_bind_ok htext ⟨_, rfl⟩

omit [Unicode] [MathSqrt] [MathErfc] in
theorem weight_pos (h : ∃ entry ∈ catalog, entry.Fails run ∨ entry.Passes run) :
    0 < run.cleanWeight + run.leakWeight := by
  obtain ⟨entry, hentry, hgraded⟩ := h
  have hweight : ∀ entry ∈ catalog, 0 < severityWeight entry.severity := by decide
  have hpositive := hweight entry hentry
  rcases hgraded with hfails | hpasses
  · have := hfails.weight_le hentry
    omega
  · have := hpasses.weight_le hentry
    omega

omit [Unicode] [MathSqrt] [MathErfc] in
theorem weight_le_total :
    run.cleanWeight + run.leakWeight ≤ (classWeights.items.map Prod.snd).sum := by
  unfold RunResult.cleanWeight RunResult.leakWeight
  rw [← weightOf_or fun entry _ hp => hp.not_fails]
  calc _ ≤ weightOf (fun entry => severityWeight entry.severity) catalog fun _ => True :=
        weightOf_mono fun _ _ _ => trivial
    _ = _ := by decide +kernel

omit [Unicode] [MathSqrt] [MathErfc] in
theorem validateUnit_returns (field : String) {part whole : Nat} (h : part ≤ whole) :
    ∃ unit, validateUnit field ((part : ℚ) / (whole : ℚ)) = .ok unit := by
  have hupper : (part : ℚ) / (whole : ℚ) ≤ 1 :=
    div_le_one_of_le₀ (by exact_mod_cast h) (Nat.cast_nonneg whole)
  exact ⟨⟨_, by positivity, hupper⟩, validateUnit_eq_ok.mpr rfl⟩

variable [RunDigest]

/-- A record that none of the refusals is about is graded as soon as one of its classes is. -/
theorem scoreRun_returns (hprobes : run.confirmedProbeIds ⊆ catalogProbes)
    (hdigest : ∃ digest, RunDigest.runDigest run = .ok digest)
    (hcounts : run.metrics.retrievalPivotK ≤ run.metrics.retrievalPivotN)
    (hgraded : ∃ entry ∈ catalog, entry.Fails run ∨ entry.Passes run) :
    ∃ s, scoreRun run = .ok s := by
  obtain ⟨digest, hdigest⟩ := hdigest
  obtain ⟨classes, hclasses⟩ : ∃ classes, (catalog.mapM fun entry =>
      entry.scoreClass run run.withheldSurfaces run.exercisedSurfaces) = .ok classes :=
    exists_mapM_ok.mpr fun entry _ => entry.scoreClass_returns hcounts _ _
  have hgrades : List.Forall₂ (fun entry c => ClassScore.Grades c entry run) catalog classes := by
    have hscored := mapM_eq_ok.mp hclasses
    rw [List.forall₂_iff_zip] at hscored ⊢
    refine ⟨hscored.1, fun {entry c} hpair => ?_⟩
    exact CatalogClass.scoreClass_grades (List.of_mem_zip hpair).1 (hscored.2 hpair)
  have hid : identify run = .ok digest := by
    rw [identify, hdigest]
  have hcovered := coveredWeight_eq hgrades
  have hpassed := passedWeight_eq hgrades
  have hpositive := weight_pos hgraded
  have htotal := @weight_le_total run
  have hsplit : ((classes.filter fun c => c.verdict ≠ .notCovered).filter fun c =>
      c.verdict = .pass) = classes.filter fun c => c.verdict = .pass := by
    rw [List.filter_filter]
    congr 1
    funext c
    cases c.verdict <;> rfl
  obtain ⟨weightedScore, hscore⟩ :=
    validateUnit_returns "weighted_score" (Nat.le_add_right run.cleanWeight run.leakWeight)
  obtain ⟨coverage, hcoverage⟩ := validateUnit_returns "coverage" htotal
  unfold scoreRun
  simp only
  rw [if_neg (not_not.mpr (Finset.sdiff_eq_empty_iff_subset.mpr hprobes))]
  apply exists_bind_ok hid
  apply exists_bind_ok hclasses
  unfold weightOf at hcovered hpassed
  rw [← hcovered, hsplit, ← hpassed, if_neg ?_, if_neg (by omega)]
  · exact exists_bind_ok hscore (exists_bind_ok hcoverage ⟨_, rfl⟩)
  · intro hnone
    rw [hnone] at hcovered
    simp only [List.map_nil, List.sum_nil] at hcovered
    omega

end Returns

section RunScope

/-- The run-scope check of a pack that has to be live. -/
theorem checkRunScope_live_iff (pack : EvidencePack) :
    (checkRunScope pack true).ok = true ↔
      pack.runResult.scopeOf.1 = .configuredStack ∧ unaccountedSurfaces pack.runResult = ∅ := by
  rw [RunResult.scopeOf_configured, RunResult.anyLive_iff]
  simp only [← Dict.mem_items]
  unfold checkRunScope
  simp only
  by_cases hempty : pack.runResult.surfaceProvenance.items = []
  · rw [if_pos hempty, hempty]
    exact iff_of_false (by simp [accepted]) (by simp)
  · have hlive : ((pack.runResult.surfaceProvenance.items.filter fun entry =>
        entry.2 = .live).length ≠ 0) ↔
        ∃ surface, (surface, .live) ∈ pack.runResult.surfaceProvenance.items := by
      rw [Ne, List.length_eq_zero_iff, List.filter_eq_nil_iff]
      simp
    have hsynthetic : (((pack.runResult.surfaceProvenance.items.filter fun entry =>
        entry.2 ≠ .live).map Prod.fst).toFinset = ∅) →
        ∃ surface, (surface, .live) ∈ pack.runResult.surfaceProvenance.items := by
      intro hnone
      obtain ⟨⟨surface, provenance⟩, hentry⟩ := List.exists_mem_of_ne_nil _ hempty
      rw [List.toFinset_eq_empty_iff, List.map_eq_nil_iff, List.filter_eq_nil_iff] at hnone
      have hprovenance : provenance = .live := by simpa using hnone _ hentry
      exact ⟨surface, hprovenance ▸ hentry⟩
    rw [if_neg hempty]
    by_cases hunaccounted : unaccountedSurfaces pack.runResult = ∅
    · split
      · rename_i hall
        exact iff_of_true rfl ⟨hsynthetic hall.1, hunaccounted⟩
      · split
        · rename_i hmixed hall
          exact absurd ⟨hall, hunaccounted⟩ hmixed
        · split
          · rename_i hcount
            exact iff_of_true (by simp [hunaccounted]) ⟨hlive.mp hcount, hunaccounted⟩
          · rename_i hcount
            exact iff_of_false (by simp) fun h => hcount (hlive.mpr h.1)
    · refine iff_of_false ?_ fun h => hunaccounted h.2
      split
      · rename_i hall
        exact absurd hall.2 hunaccounted
      · split
        · simp [accepted]
        · split <;> simp [hunaccounted]

end RunScope

section Gates

variable [Unicode] [MathSqrt] [MathErfc] [RunDigest] {run : RunResult} {row : ControlRow}

theorem scoreRun_scope {s : IsolationScore} (h : scoreRun run = .ok s) :
    s.scope = run.scopeOf.1 ∧ s.unaccountedSurfaces = sortedSurfaces (unaccountedSurfaces run) := by
  unfold scoreRun at h
  simp only at h
  split at h
  · cases h
  obtain ⟨digest, -, h⟩ := bind_eq_ok.mp h
  obtain ⟨classes, -, h⟩ := bind_eq_ok.mp h
  split at h
  · cases h
  split at h
  · cases h
  obtain ⟨weightedScore, -, h⟩ := bind_eq_ok.mp h
  obtain ⟨coverage, -, h⟩ := bind_eq_ok.mp h
  obtain rfl := Except.ok.inj h
  exact ⟨rfl, rfl⟩

omit [Unicode] [MathSqrt] [MathErfc] [RunDigest] in
theorem sortedSurfaces_eq_nil {surfaces : Finset Surface} :
    sortedSurfaces surfaces = [] ↔ surfaces = ∅ := by
  rw [← List.length_eq_zero_iff, sortedSurfaces, Finset.length_sort, Finset.card_eq_zero]

/-- A line of the scorecard is graded exactly when its class fails or passes. -/
theorem graded_line_iff {s : IsolationScore} (h : scoreRun run = .ok s) :
    (∃ c ∈ s.classes, c.verdict ≠ .notCovered) ↔
      ∃ entry ∈ catalog, entry.Fails run ∨ entry.Passes run := by
  have hs := scoreRun_grades h
  have hverdict : ∀ {entry : CatalogClass} {c : ClassScore}, c.Grades entry run →
      (c.verdict ≠ .notCovered ↔ entry.Fails run ∨ entry.Passes run) := by
    intro entry c hc
    rw [← hc.fail_iff, ← hc.pass_iff]
    cases c.verdict <;> simp
  constructor
  · rintro ⟨c, hc, hgraded⟩
    obtain ⟨hlength, hzip⟩ := List.forall₂_iff_zip.mp hs.classes
    rw [← List.map_snd_zip hlength.ge] at hc
    obtain ⟨⟨entry, c⟩, hpair, rfl⟩ := List.mem_map.mp hc
    exact ⟨entry, (List.of_mem_zip hpair).1, (hverdict (hzip hpair)).mp hgraded⟩
  · rintro ⟨entry, hentry, hgraded⟩
    obtain ⟨c, hc, hgrades⟩ := hs.exists_line hentry
    exact ⟨c, hc, (hverdict hgrades).mpr hgraded⟩

/-- A record without an erasure block speaks for a live stack at all three gates or at none, but
for the classes whose confirmed evidence is on surfaces that the record does not name, and for the
records that the scorecard refuses. -/
theorem gates_agree (hcoverage : run.metrics.erasureCoverage = ∅)
    (hrow : row ∈ controlTable) (hrequirement : row.requirement = .isolation)
    (hsurfaces : row.surfaces = []) :
    (run.Asserts row ↔ ∃ entry ∈ catalog, entry.DroveLive run) ∧
    (∀ s, scoreRun run = .ok s → s.scope = .configuredStack →
      (∃ c ∈ s.classes, c.verdict ≠ .notCovered) → run.Asserts row) ∧
    (run.Asserts row → run.confirmedProbeIds ⊆ catalogProbes →
      (∃ digest, RunDigest.runDigest run = .ok digest) →
      run.metrics.retrievalPivotK ≤ run.metrics.retrievalPivotN →
      (∃ s, scoreRun run = .ok s ∧ ∃ c ∈ s.classes, c.verdict ≠ .notCovered) ∨
        ∃ entry ∈ catalog, entry.OnlyUnrecorded run ∧
          entry.scoreClass run run.withheldSurfaces run.exercisedSurfaces =
            .ok (entry.withheldUnattributed run)) ∧
    (∀ pack : EvidencePack, pack.runResult = run →
      ((checkRunScope pack true).ok = true ↔
        run.scopeOf.1 = .configuredStack ∧ unaccountedSurfaces run = ∅)) ∧
    ∀ s, scoreRun run = .ok s → s.scope = run.scopeOf.1 ∧
      (s.unaccountedSurfaces = [] ↔ unaccountedSurfaces run = ∅) := by
  have hasserts : run.Asserts row ↔ ∃ entry ∈ catalog, entry.DroveLive run := by
    rw [asserts_iff hrow, hrequirement, hsurfaces, supports_isolation_iff hcoverage]
  refine ⟨hasserts, ?_, ?_, ?_, ?_⟩
  · intro s h hscope hgraded
    rw [(scoreRun_scope h).1] at hscope
    obtain ⟨entry, hentry, hverdict⟩ := (graded_line_iff h).mp hgraded
    have hgradeable : entry.Gradeable run := by
      rcases hverdict with hfails | hpasses
      · exact hfails.1
      · exact hpasses.1
    exact hasserts.mpr ⟨entry, hentry,
      (CatalogClass.gradeable_iff_droveLive hscope).mp hgradeable⟩
  · intro hasserted hprobes hdigest hcounts
    obtain ⟨entry, hentry, hdrove⟩ := hasserts.mp hasserted
    have hscope : run.scopeOf.1 = .configuredStack := by
      obtain ⟨-, -, -, surface, -, hlive⟩ := hdrove
      exact RunResult.scopeOf_configured.mpr (RunResult.anyLive_iff.mpr ⟨surface, hlive⟩)
    have hcases := CatalogClass.graded_or_onlyUnrecorded hscope hdrove
    rw [← or_assoc] at hcases
    rcases hcases with hgraded | hunrecorded
    · obtain ⟨s, h⟩ := scoreRun_returns hprobes hdigest hcounts ⟨entry, hentry, hgraded⟩
      exact .inl ⟨s, h, (graded_line_iff h).mpr ⟨entry, hentry, hgraded⟩⟩
    · exact .inr ⟨entry, hentry, hunrecorded, hunrecorded.withheld hentry hscope⟩
  · rintro pack rfl
    exact checkRunScope_live_iff pack
  · intro s h
    obtain ⟨hscope, hunaccounted⟩ := scoreRun_scope h
    rw [hunaccounted]
    exact ⟨hscope, sortedSurfaces_eq_nil⟩

end Gates

section Sample

attribute [local instance] Unicode.ascii MathSqrt.exact MathErfc.atZero RunDigest.mixedRun

/-- The record speaks for its live vector store at every gate. -/
theorem gates_agree_mixed :
    ∃ row ∈ controlTable, row.framework = "SOC 2 (TSC)" ∧ mixedRun.Asserts row ∧
      ∃ s, scoreRun mixedRun = .ok s ∧ s.scope = .configuredStack ∧ s.unaccountedSurfaces = [] := by
  obtain ⟨row, hrow, hframework, hrequirement, hsurfaces⟩ : ∃ row ∈ controlTable,
      row.framework = "SOC 2 (TSC)" ∧ row.requirement = .isolation ∧ row.surfaces = [] := by
    decide +kernel
  obtain ⟨hasserts, -, -, -, hscore⟩ :=
    @gates_agree _ _ _ _ mixedRun row rfl hrow hrequirement hsurfaces
  obtain ⟨s, hs, -⟩ := map_eq_ok.mp
    (show (scoreRun mixedRun).map IsolationScore.grade = .ok .A by decide +kernel)
  obtain ⟨hscope, hunaccounted⟩ := hscore s hs
  refine ⟨row, hrow, hframework, hasserts.mpr (by decide +kernel), s, hs, ?_, ?_⟩
  · rw [hscope]
    decide +kernel
  · exact hunaccounted.mpr (by decide +kernel)

/-- `mixedRun` with a confirmed finding of a probe that is not in the catalog. -/
def foreignRun : RunResult :=
  { mixedRun with findings := mixedRun.findings.map fun f => { f with probeId := "acme-probe" } }

/-- The control is asserted, and the scorecard refuses the record. -/
theorem foreignRun_not_graded :
    (∃ row ∈ controlTable, row.requirement = .isolation ∧ row.surfaces = [] ∧
      foreignRun.Asserts row) ∧
    (∀ s, scoreRun foreignRun ≠ .ok s) ∧ ¬∃ entry ∈ catalog, entry.OnlyUnrecorded foreignRun := by
  refine ⟨?_, ?_, ?_⟩
  · obtain ⟨row, hrow, hrequirement, hsurfaces⟩ : ∃ row ∈ controlTable,
        row.requirement = .isolation ∧ row.surfaces = [] := by
      decide +kernel
    refine ⟨row, hrow, hrequirement, hsurfaces, (asserts_iff hrow).mpr ?_⟩
    rw [hrequirement, hsurfaces, supports_isolation_iff rfl]
    decide +kernel
  · intro s h
    have hprobes := (scoreRun_grades h).probes
    revert hprobes
    decide +kernel
  · rintro ⟨entry, hentry, -, ⟨f, hf, -⟩, -⟩
    have hnone : ∀ entry ∈ catalog, entry.confirmedFindings foreignRun = [] := by decide +kernel
    rw [hnone entry hentry] at hf
    cases hf

end Sample

end Sectum
