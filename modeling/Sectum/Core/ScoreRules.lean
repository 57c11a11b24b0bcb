import Sectum.Core.ScoreSpec

/-! What the letter of a scorecard promises: no confirmed finding is averaged away, one more of them
never betters the letter, and when the deletion of a surface from the record does. -/

namespace Sectum

open Py Tally

theorem gradeFor_eq (weighted : ℚ) :
    gradeFor weighted =
      if 95 / 100 ≤ weighted then .A else if 85 / 100 ≤ weighted then .B
      else if 70 / 100 ≤ weighted then .C else if 50 / 100 ≤ weighted then .D else .F := by
  unfold gradeFor gradeThresholds
  split_ifs with hA hB hC hD <;>
    simp only [List.find?_cons, List.find?_nil, decide_true, decide_false, Option.map_some,
      Option.map_none, Option.getD_some, Option.getD_none, *]

theorem gradeFor_antitone {weighted weighted' : ℚ} (h : weighted' ≤ weighted) :
    gradeFor weighted ≤ gradeFor weighted' := by
  rw [gradeFor_eq, gradeFor_eq, Grade.le_iff_index]
  split_ifs <;> first | (simp only [Grade.index]; omega) | (exfalso; linarith)

theorem gradeFor_eq_F (weighted : ℚ) : gradeFor weighted = .F ↔ weighted < 1 / 2 := by
  rw [gradeFor_eq]
  split_ifs <;> constructor <;> intro h <;> first | rfl | linarith | cases h

theorem capGrade_mono {band band' : Severity} (h : band ≤ band') :
    capGrade (some band) ≤ capGrade (some band') := by
  revert h
  rw [Severity.le_iff_rank, Grade.le_iff_index]
  cases band <;> cases band' <;> decide

section Band

variable {run run' : RunResult}

theorem worstBand_eq_none : run.worstBand = none ↔ ∀ entry ∈ catalog, ¬entry.Caps run := by
  unfold RunResult.worstBand
  rw [List.max?_eq_none_iff, List.map_eq_nil_iff, List.filter_eq_nil_iff]
  simp only [decide_eq_true_eq]

theorem le_worstBand {entry : CatalogClass} (hentry : entry ∈ catalog) (hcaps : entry.Caps run) :
    ∃ band, run.worstBand = some band ∧ entry.severity ≤ band := by
  have hmem : entry.severity ∈
      (catalog.filter fun entry => entry.Caps run).map CatalogClass.severity :=
    List.mem_map_of_mem (List.mem_filter.mpr ⟨hentry, decide_eq_true hcaps⟩)
  cases hband : run.worstBand with
  | none => exact absurd hcaps (worstBand_eq_none.mp hband entry hentry)
  | some band => exact ⟨band, rfl, (List.max?_eq_some_iff.mp hband).2 _ hmem⟩

theorem worstBand_caps {band : Severity} (h : run.worstBand = some band) :
    ∃ entry ∈ catalog, entry.Caps run ∧ entry.severity = band := by
  obtain ⟨entry, hentry, rfl⟩ := List.mem_map.mp (List.max?_eq_some_iff.mp h).1
  obtain ⟨hmem, hcaps⟩ := List.mem_filter.mp hentry
  exact ⟨entry, hmem, of_decide_eq_true hcaps, rfl⟩

theorem capGrade_worstBand_mono (h : ∀ entry ∈ catalog, entry.Caps run → entry.Caps run') :
    capGrade run.worstBand ≤ capGrade run'.worstBand := by
  cases hband : run.worstBand with
  | none => exact Grade.le_iff_index.mpr (Nat.zero_le _)
  | some band =>
    obtain ⟨entry, hentry, hcaps, rfl⟩ := worstBand_caps hband
    obtain ⟨band', hband', hle⟩ := le_worstBand hentry (h entry hentry hcaps)
    rw [hband']
    exact capGrade_mono hle

theorem le_capGrade {entry : CatalogClass} (hentry : entry ∈ catalog) (hcaps : entry.Caps run) :
    capGrade (some entry.severity) ≤ capGrade run.worstBand := by
  obtain ⟨band, hband, hle⟩ := le_worstBand hentry hcaps
  rw [hband]
  exact capGrade_mono hle

theorem capGrade_eq_F :
    capGrade run.worstBand = .F ↔
      ∃ entry ∈ catalog, entry.severity = .critical ∧ entry.Caps run := by
  constructor
  · intro h
    cases hband : run.worstBand with
    | none =>
      rw [hband] at h
      cases h
    | some band =>
      obtain ⟨entry, hentry, hcaps, rfl⟩ := worstBand_caps hband
      refine ⟨entry, hentry, ?_, hcaps⟩
      rw [hband] at h
      revert h
      cases entry.severity <;> decide
  · rintro ⟨entry, hentry, hcritical, hcaps⟩
    have hle := le_capGrade hentry hcaps
    rw [hcritical] at hle
    exact le_antisymm (Grade.le_iff_index.mpr (by
      cases capGrade run.worstBand <;> decide)) hle

/-- A record's lines are nowhere better than another's: what passes in it passes in the other, and
what fails or caps in the other does so in it. -/
structure RunResult.NoBetter (run' run : RunResult) : Prop where
  passes : ∀ entry ∈ catalog, entry.Passes run' → entry.Passes run
  fails : ∀ entry ∈ catalog, entry.Fails run → entry.Fails run'
  caps : ∀ entry ∈ catalog, entry.Caps run → entry.Caps run'

theorem RunResult.NoBetter.weightedScore {s s' : IsolationScore} (h : run'.NoBetter run)
    (hs : s.Grades run) (hs' : s'.Grades run') : (s'.weightedScore : ℚ) ≤ s.weightedScore := by
  rw [hs.weightedScore, hs'.weightedScore]
  have hclean : run'.cleanWeight ≤ run.cleanWeight := weightOf_mono h.passes
  have hleak : run.leakWeight ≤ run'.leakWeight := weightOf_mono h.fails
  exact share_le_share hclean hleak hs.graded hs'.graded

theorem RunResult.NoBetter.grade {s s' : IsolationScore} (h : run'.NoBetter run)
    (hs : s.Grades run) (hs' : s'.Grades run') : s.grade ≤ s'.grade := by
  rw [hs.grade, hs'.grade, hs.cappedBy, hs'.cappedBy]
  exact max_le_max (gradeFor_antitone (h.weightedScore hs hs')) (capGrade_worstBand_mono h.caps)

theorem catalog_bands : ∀ entry ∈ catalog,
    entry.severity = .critical ∨ entry.severity = .high ∨ entry.severity = .medium := by
  decide

theorem catalog_medium : ∀ entry ∈ catalog, ∀ entry' ∈ catalog,
    entry.severity = .medium → entry'.severity = .medium → entry = entry' := by
  decide +kernel

theorem CatalogClass.Fails.weight_le {entry : CatalogClass} (hfails : entry.Fails run)
    (hentry : entry ∈ catalog) : severityWeight entry.severity ≤ run.leakWeight := by
  unfold RunResult.leakWeight
  apply weight_le_weightOf (fun entry : CatalogClass => severityWeight entry.severity) hentry
  exact hfails

theorem CatalogClass.Passes.weight_le {entry : CatalogClass} (hpasses : entry.Passes run)
    (hentry : entry ∈ catalog) : severityWeight entry.severity ≤ run.cleanWeight := by
  unfold RunResult.cleanWeight
  apply weight_le_weightOf (fun entry : CatalogClass => severityWeight entry.severity) hentry
  exact hpasses

theorem medium_weights {entry : CatalogClass} (hentry : entry ∈ catalog)
    (hmedium : entry.severity = .medium) (hfails : entry.Fails run)
    (honly : ∀ entry ∈ catalog, entry.Fails run → entry.severity = .medium) :
    run.leakWeight = 1 ∧ (run.cleanWeight = 0 ∨ 3 ≤ run.cleanWeight) := by
  constructor
  · have hle : run.leakWeight ≤
        weightOf (fun entry => severityWeight entry.severity) catalog
          fun entry => entry.severity = .medium := weightOf_mono honly
    have hge : severityWeight entry.severity ≤ run.leakWeight := hfails.weight_le hentry
    rw [hmedium] at hge
    exact Nat.le_antisymm hle hge
  · by_cases hpass : ∃ passing ∈ catalog, passing.Passes run
    · obtain ⟨passing, hmem, hpasses⟩ := hpass
      have hge : severityWeight passing.severity ≤ run.cleanWeight :=
        hpasses.weight_le hmem
      rcases catalog_bands passing hmem with hband | hband | hband
      · rw [hband] at hge
        exact Or.inr (Nat.le_trans (by decide) hge)
      · rw [hband] at hge
        exact Or.inr hge
      · have heq := catalog_medium passing hmem entry hentry hband hmedium
        subst heq
        exact absurd hfails hpasses.not_fails
    · exact Or.inl (weightOf_eq_zero fun passing hmem hp => hpass ⟨passing, hmem, hp⟩)

theorem gradeFor_le_capGrade (hgraded : 0 < run.cleanWeight + run.leakWeight)
    (hhalf : run.leakWeight ≤ run.cleanWeight) :
    gradeFor ((run.cleanWeight : ℚ) / ((run.cleanWeight + run.leakWeight : ℕ) : ℚ)) ≤
      capGrade run.worstBand := by
  have hshare := (half_le_share hgraded).mpr hhalf
  by_cases hnone : ∀ entry ∈ catalog, ¬entry.Fails run
  · have hleak : run.leakWeight = 0 := weightOf_eq_zero hnone
    rw [hleak, Nat.add_zero] at hgraded ⊢
    have hone : (run.cleanWeight : ℚ) / run.cleanWeight = 1 :=
      div_self (by exact_mod_cast hgraded.ne')
    rw [hone, gradeFor_eq, if_pos (by norm_num)]
    exact Grade.le_iff_index.mpr (Nat.zero_le _)
  · push Not at hnone
    by_cases honly : ∀ entry ∈ catalog, entry.Fails run → entry.severity = .medium
    · obtain ⟨entry, hentry, hfails⟩ := hnone
      have hmedium := honly entry hentry hfails
      obtain ⟨hleak, hclean⟩ := medium_weights hentry hmedium hfails honly
      have hcap := le_capGrade hentry hfails.caps
      rw [hmedium] at hcap
      refine le_trans ?_ hcap
      have hthree : 3 ≤ run.cleanWeight := by omega
      have hthree' : (3 : ℚ) ≤ run.cleanWeight := by exact_mod_cast hthree
      have hpart : (70 / 100 : ℚ) ≤
          (run.cleanWeight : ℚ) / ((run.cleanWeight + run.leakWeight : ℕ) : ℚ) := by
        rw [hleak, le_div_iff₀ (by positivity)]
        push_cast
        linarith
      exact (gradeFor_antitone hpart).trans (by decide +kernel)
    · push Not at honly
      obtain ⟨entry, hentry, hfails, hband⟩ := honly
      have hcap := le_capGrade hentry hfails.caps
      refine le_trans (gradeFor_antitone hshare) (le_trans ?_ hcap)
      rcases catalog_bands entry hentry with h | h | h
      · rw [h]
        decide +kernel
      · rw [h]
        decide +kernel
      · exact absurd h hband

end Band

section Lines

variable {run : RunResult} {s : IsolationScore}

theorem catalog_probe_unique : ∀ entry ∈ catalog, ∀ other ∈ catalog, ∀ probeId ∈ entry.probeIds,
    probeId ∈ other.probeIds → other = entry := by
  decide +kernel

theorem catalog_classId_unique : ∀ entry ∈ catalog, ∀ other ∈ catalog,
    other.classId = entry.classId → other = entry := by
  decide +kernel

theorem IsolationScore.Grades.line {entry : CatalogClass} {c : ClassScore} (hs : s.Grades run)
    (hentry : entry ∈ catalog) (hc : c ∈ s.classes) (hid : c.classId = entry.classId) :
    c.Grades entry run := by
  obtain ⟨hlength, hzip⟩ := List.forall₂_iff_zip.mp hs.classes
  rw [← List.map_snd_zip hlength.ge] at hc
  obtain ⟨⟨other, c'⟩, hpair, rfl⟩ := List.mem_map.mp hc
  have hother := (List.of_mem_zip hpair).1
  have hgrades := hzip hpair
  have heq : other = entry :=
    catalog_classId_unique entry hentry other hother (hgrades.classId.symm.trans hid)
  subst heq
  exact hgrades

theorem IsolationScore.Grades.exists_line {entry : CatalogClass} (hs : s.Grades run)
    (hentry : entry ∈ catalog) : ∃ c ∈ s.classes, c.Grades entry run := by
  obtain ⟨hlength, hzip⟩ := List.forall₂_iff_zip.mp hs.classes
  rw [← List.map_fst_zip hlength.le] at hentry
  obtain ⟨⟨other, c⟩, hpair, rfl⟩ := List.mem_map.mp hentry
  exact ⟨c, (List.of_mem_zip hpair).2, hzip hpair⟩

theorem IsolationScore.Grades.finding_caps (hs : s.Grades run) {f : Finding}
    (hf : f ∈ run.findings) (hstatus : f.status = .confirmed)
    (hoff : ¬(s.scope = .configuredStack ∧
      run.surfaceProvenance.lookup f.backingSurface = some .synthetic)) :
    ∃ entry ∈ catalog, f.probeId ∈ entry.probeIds ∧ entry.Caps run := by
  have hproven : f.probeId ∈ run.confirmedProbeIds :=
    List.mem_toFinset.mpr
      (List.mem_map_of_mem (List.mem_filter.mpr ⟨hf, decide_eq_true hstatus⟩))
  obtain ⟨entry, hentry, hprobe⟩ :=
    List.mem_flatMap.mp (List.mem_toFinset.mp (hs.probes hproven))
  refine ⟨entry, hentry, hprobe, f, ?_, ?_⟩
  · exact CatalogClass.mem_confirmedFindings.mpr ⟨hf, hprobe, hstatus⟩
  · rw [RunResult.mem_withheldSurfaces, ← hs.scope]
    exact hoff

def RunResult.withFinding (run : RunResult) (f : Finding) : RunResult :=
  { run with findings := run.findings ++ [f] }

/-- A further confirmed finding of a listed probe makes no line better. -/
theorem RunResult.withFinding_noBetter {f : Finding} (hlisted : f.probeId ∈ run.probeVersions) :
    (run.withFinding f).NoBetter run := by
  have hran : ∀ entry : CatalogClass, entry.ran (run.withFinding f) = entry.ran run := by
    intro entry
    unfold CatalogClass.ran
    congr 1
    funext probeId
    have hiff : (run.withFinding f).exercises probeId ↔ run.exercises probeId := by
      unfold RunResult.exercises RunResult.withFinding
      simp only [List.mem_append, List.mem_singleton, or_and_right, exists_or, exists_eq_left]
      constructor
      · rintro (h | h | rfl)
        · exact Or.inl h
        · exact Or.inr h
        · exact Or.inl hlisted
      · rintro (h | h)
        · exact Or.inl h
        · exact Or.inr (Or.inl h)
    exact decide_eq_decide.mpr hiff
  have hgradeable : ∀ entry : CatalogClass,
      entry.Gradeable (run.withFinding f) ↔ entry.Gradeable run := by
    intro entry
    unfold CatalogClass.Gradeable CatalogClass.accepted
    rw [hran entry]
    rfl
  have hconfirmed : ∀ (entry : CatalogClass) (g : Finding), g ∈ entry.confirmedFindings run →
      g ∈ entry.confirmedFindings (run.withFinding f) := by
    intro entry g hg
    rw [CatalogClass.mem_confirmedFindings] at hg ⊢
    exact ⟨List.mem_append_left _ hg.1, hg.2⟩
  have hcaps : ∀ entry : CatalogClass, entry.Caps run → entry.Caps (run.withFinding f) := by
    rintro entry ⟨g, hg, hoff⟩
    exact ⟨g, hconfirmed entry g hg, hoff⟩
  refine ⟨fun entry _ hp => ?_, fun entry _ hf => ?_, fun entry _ => hcaps entry⟩
  · exact ⟨(hgradeable entry).mp hp.1, fun hc => hp.2 (hcaps entry hc)⟩
  · obtain ⟨hg, g, hmem, hplaced⟩ := hf
    exact ⟨(hgradeable entry).mpr hg, g, hconfirmed entry g hmem, hplaced⟩

def RunResult.dropSurface (run : RunResult) (surface : Surface) : RunResult :=
  { run with surfaceProvenance := run.surfaceProvenance.erase surface }

theorem RunResult.dropSurface_withheld (surface : Surface) :
    (run.dropSurface surface).withheldSurfaces ⊆ run.withheldSurfaces := by
  intro other hmem
  rw [mem_withheldSurfaces, scopeOf_configured, anyLive_iff] at hmem ⊢
  obtain ⟨⟨live, hlive⟩, hsynthetic⟩ := hmem
  have hlookup : ∀ {key value},
      (run.dropSurface surface).surfaceProvenance.lookup key = some value →
        run.surfaceProvenance.lookup key = some value := by
    intro key value h
    unfold dropSurface at h
    rw [Dict.lookup_erase_eq] at h
    split at h
    · cases h
    · exact h
  exact ⟨⟨live, hlookup hlive⟩, hlookup hsynthetic⟩

theorem RunResult.dropSurface_caps (surface : Surface) (entry : CatalogClass)
    (h : entry.Caps run) : entry.Caps (run.dropSurface surface) := by
  obtain ⟨f, hf, hoff⟩ := h
  exact ⟨f, hf, fun hwithheld => hoff (dropSurface_withheld surface hwithheld)⟩

end Lines

/-- A confirmed leak of a shared answer cache that a deployment had configured. -/
def cacheLeak : Finding :=
  { findingId := "finding-1", probeId := "semantic-cache-contamination", severity := .high
    confidence := UnitRat.one, status := .confirmed, ownerTenantId := ⟨1⟩
    observedInTenantId := ⟨2⟩, surface := .semanticCache }

def timingLeak : Finding :=
  { findingId := "finding-2", probeId := "kv-cache-timing", severity := .medium
    confidence := UnitRat.one, status := .confirmed, ownerTenantId := ⟨1⟩
    observedInTenantId := ⟨2⟩, surface := .kvCache }

def cacheRun : RunResult :=
  { runId := "run-1", scenarioHash := "scenario", manifestHash := "manifest"
    startedAt := ⟨0, none⟩, finishedAt := ⟨0, none⟩
    surfaceProvenance := Dict.ofItems [(.semanticCache, .live), (.modelAdapter, .live)]
    probeVersions := Dict.ofItems [("semantic-cache-contamination", "1"), ("kv-cache-timing", "1")]
    findings := [cacheLeak] }

/-- The digests of this record, of its variants below, and of no other. -/
@[reducible] def RunDigest.cacheRuns : RunDigest where
  runDigest run :=
    .ok (if 1 < run.findings.length then
        "2cbfe0974c70deafd6cc9ef9112348897400654a317a1282a7c39f8782d4e338"
      else if .semanticCache ∉ run.surfaceProvenance then
        "cc2f67cb5cfb8440708ea823006bda0dbb2729623f7c55e940fa08b4f58ad662"
      else if .modelAdapter ∉ run.surfaceProvenance then
        "efa35ec7519bc1ac0056d9c35fc5a7ef75504ba2ef22f3ac2f76bfea98cf35b2"
      else "97ad4dcc2ee2b26e6245a4bab6d4ee196ab20e6c5f672228538437a2fab2a632")

section Confirmed

variable [Unicode] [MathSqrt] [MathErfc] [RunDigest] {run : RunResult} {s : IsolationScore}

/-- No confirmed finding is averaged away. -/
theorem scoreRun_confirmed_caps {f : Finding} (h : scoreRun run = .ok s) (hf : f ∈ run.findings)
    (hstatus : f.status = .confirmed)
    (hoff : ¬(s.scope = .configuredStack ∧
      run.surfaceProvenance.lookup f.backingSurface = some .synthetic)) :
    ∃ entry ∈ catalog, (∀ other ∈ catalog, f.probeId ∈ other.probeIds ↔ other = entry) ∧
      (∃ cap, severityCap entry.severity = some cap ∧ cap ≤ s.grade) ∧
      (∃ band, s.cappedBy = some band ∧ entry.severity ≤ band) ∧
      (∃ c ∈ s.classes, c.classId = entry.classId) ∧
      ∀ c ∈ s.classes, c.classId = entry.classId → c.verdict ≠ .pass := by
  have hs := scoreRun_grades h
  obtain ⟨entry, hentry, hprobe, hcaps⟩ := hs.finding_caps hf hstatus hoff
  obtain ⟨band, hband, hle⟩ := le_worstBand hentry hcaps
  refine ⟨entry, hentry, ?_, ?_, ?_, ?_, ?_⟩
  · intro other hother
    constructor
    · exact catalog_probe_unique entry hentry other hother f.probeId hprobe
    · rintro rfl
      exact hprobe
  · have hgrade : capGrade (some entry.severity) ≤ s.grade := by
      rw [hs.grade, hs.cappedBy]
      exact (le_capGrade hentry hcaps).trans (le_max_right _ _)
    rcases catalog_bands entry hentry with hsev | hsev | hsev <;>
    · rw [hsev] at hgrade ⊢
      exact ⟨_, rfl, hgrade⟩
  · exact ⟨band, hs.cappedBy.trans hband, hle⟩
  · obtain ⟨c, hc, hgrades⟩ := hs.exists_line hentry
    exact ⟨c, hc, hgrades.classId⟩
  · intro c hc hid hpass
    have hgrades := hs.line hentry hc hid
    exact (hgrades.pass_iff.mp hpass).2 hcaps

end Confirmed

section Confirmed

attribute [local instance] Unicode.ascii MathSqrt.exact MathErfc.atZero RunDigest.cacheRuns

/-- The leak of the cache, weighed against the model's clean line. -/
theorem scoreRun_confirmed_caps_cache :
    ∃ s, scoreRun cacheRun = .ok s ∧ ∃ entry ∈ catalog,
      (∃ cap, severityCap entry.severity = some cap ∧ cap ≤ s.grade) ∧
      ∃ band, s.cappedBy = some band ∧ entry.severity ≤ band := by
  obtain ⟨s, hs, -⟩ := map_eq_ok.mp
    (show (scoreRun cacheRun).map IsolationScore.grade = .ok .F by decide +kernel)
  have hleak : cacheLeak ∈ cacheRun.findings := List.mem_singleton_self _
  have hlive : cacheRun.surfaceProvenance.lookup cacheLeak.backingSurface ≠ some .synthetic := by
    decide +kernel
  obtain ⟨entry, hentry, -, hcap, hband, -⟩ :=
    scoreRun_confirmed_caps hs hleak rfl fun h => hlive h.2
  exact ⟨s, hs, entry, hentry, hcap, hband⟩

end Confirmed

section MoreEvidence

variable [Unicode] [MathSqrt] [MathErfc] [RunDigest] {run : RunResult} {s s' : IsolationScore}

/-- One more finding of a listed probe betters neither the letter nor the weighted score. -/
theorem scoreRun_withFinding {f : Finding} (h : scoreRun run = .ok s)
    (h' : scoreRun (run.withFinding f) = .ok s') (hlisted : f.probeId ∈ run.probeVersions) :
    s.grade ≤ s'.grade ∧ s'.weightedScore ≤ s.weightedScore := by
  have hworse : (run.withFinding f).NoBetter run := RunResult.withFinding_noBetter hlisted
  have hs := scoreRun_grades h
  have hs' := scoreRun_grades h'
  exact ⟨hworse.grade hs hs', hworse.weightedScore hs hs'⟩

end MoreEvidence

section MoreEvidence

attribute [local instance] Unicode.ascii MathSqrt.exact MathErfc.atZero RunDigest.cacheRuns

/-- The side channel of the model, on top of the leak of the cache. -/
theorem scoreRun_withFinding_timing :
    ∃ s s', scoreRun cacheRun = .ok s ∧ scoreRun (cacheRun.withFinding timingLeak) = .ok s' ∧
      s.grade ≤ s'.grade ∧ s'.weightedScore ≤ s.weightedScore := by
  obtain ⟨s, hs, -⟩ := map_eq_ok.mp
    (show (scoreRun cacheRun).map IsolationScore.grade = .ok .F by decide +kernel)
  obtain ⟨s', hs', -⟩ := map_eq_ok.mp
    (show (scoreRun (cacheRun.withFinding timingLeak)).map IsolationScore.grade = .ok .F by
      decide +kernel)
  exact ⟨s, s', hs, hs', scoreRun_withFinding hs hs' (by decide +kernel)⟩

end MoreEvidence

section LessProvenance

variable [Unicode] [MathSqrt] [MathErfc] [RunDigest] {run : RunResult} {s s' : IsolationScore}

/-- The deletion of a surface betters the letter just when it takes a record that leaks by weight to
one that does not, and no class of the critical band caps the letter then. -/
theorem scoreRun_dropSurface_iff {surface : Surface} (h : scoreRun run = .ok s)
    (h' : scoreRun (run.dropSurface surface) = .ok s') :
    s.grade ≤ s'.grade ↔
      (∃ entry ∈ catalog, entry.severity = .critical ∧ entry.Caps (run.dropSurface surface)) ∨
        run.leakWeight ≤ run.cleanWeight ∨
        (run.dropSurface surface).cleanWeight < (run.dropSurface surface).leakWeight := by
  have hs := scoreRun_grades h
  have hs' := scoreRun_grades h'
  have hcap : capGrade run.worstBand ≤ capGrade (run.dropSurface surface).worstBand :=
    capGrade_worstBand_mono fun entry _ => RunResult.dropSurface_caps surface entry
  have hleaks : ∀ {run : RunResult} {s : IsolationScore}, s.Grades run →
      (gradeFor s.weightedScore = .F ↔ run.cleanWeight < run.leakWeight) := by
    intro run s hs
    rw [gradeFor_eq_F, hs.weightedScore, ← not_le, ← not_le, half_le_share hs.graded]
  have hworst : ∀ grade : Grade, grade ≤ .F := fun grade =>
    Grade.le_iff_index.mpr (by cases grade <;> decide)
  have hhalf : run.leakWeight ≤ run.cleanWeight ↔ gradeFor s.weightedScore ≠ .F := by
    rw [Ne, hleaks hs, not_lt]
  rw [hs.grade, hs'.grade, hs.cappedBy, hs'.cappedBy, ← capGrade_eq_F, ← hleaks hs', hhalf]
  constructor
  · intro hle
    by_cases hF : gradeFor s.weightedScore = .F
    · rw [hF, max_eq_left (hworst _)] at hle
      rcases le_max_iff.mp hle with hgrade | hcap'
      · exact Or.inr (Or.inr (le_antisymm (hworst _) hgrade))
      · exact Or.inl (le_antisymm (hworst _) hcap')
    · exact Or.inr (Or.inl hF)
  · rintro (hF | hF | hF)
    · rw [hF, max_eq_right (hworst _)]
      exact hworst _
    · have hgrade : gradeFor s.weightedScore ≤ capGrade run.worstBand := by
        rw [hs.weightedScore]
        exact gradeFor_le_capGrade hs.graded (hhalf.mpr hF)
      exact (max_le hgrade le_rfl).trans (hcap.trans (le_max_right _ _))
    · rw [hF, max_eq_left (hworst _)]
      exact hworst _

end LessProvenance

section LessProvenance

attribute [local instance] Unicode.ascii MathSqrt.exact MathErfc.atZero RunDigest.cacheRuns

/-- Without the model's line the record still leaks by weight, and its letter is no better. -/
theorem scoreRun_dropSurface_iff_model :
    ∃ s s', scoreRun cacheRun = .ok s ∧
      scoreRun (cacheRun.dropSurface .modelAdapter) = .ok s' ∧ s.grade ≤ s'.grade := by
  obtain ⟨s, hs, -⟩ := map_eq_ok.mp
    (show (scoreRun cacheRun).map IsolationScore.grade = .ok .F by decide +kernel)
  obtain ⟨s', hs', -⟩ := map_eq_ok.mp
    (show (scoreRun (cacheRun.dropSurface .modelAdapter)).map IsolationScore.grade = .ok .F by
      decide +kernel)
  exact ⟨s, s', hs, hs', (scoreRun_dropSurface_iff hs hs').mpr (.inr (.inr (by decide +kernel)))⟩

/-- Without the leaking cache the other line is the whole of the weight, and the letter is
better. -/
theorem cacheRun_dropSurface_better :
    .semanticCache ∈ cacheRun.surfaceProvenance ∧ cacheRun.surfaceProvenance.keys.length = 2 ∧
      ∃ s s', scoreRun cacheRun = .ok s ∧
        scoreRun (cacheRun.dropSurface .semanticCache) = .ok s' ∧
        s.grade = .F ∧ s'.grade = .D ∧ s'.grade < s.grade := by
  obtain ⟨s, hs, hF⟩ := map_eq_ok.mp
    (show (scoreRun cacheRun).map IsolationScore.grade = .ok .F by decide +kernel)
  obtain ⟨s', hs', hD⟩ := map_eq_ok.mp
    (show (scoreRun (cacheRun.dropSurface .semanticCache)).map IsolationScore.grade = .ok .D by
      decide +kernel)
  refine ⟨by decide +kernel, by decide +kernel, s, s', hs, hs', hF, hD, ?_⟩
  rw [hF, hD]
  decide +kernel

end LessProvenance

end Sectum
