import Sectum.Core.Baseline

/-! What a comparison of two runs that reports no regression guarantees of the later one. -/

namespace Sectum

open Py

section Findings

variable {earlier later : List Finding}

theorem selectFindings_eq_nil {findings : List Finding} {keep : String → Bool} :
    selectFindings findings keep = [] ↔ ∀ f ∈ findings, keep f.findingId = false := by
  have hrun : ∀ (findings : List Finding) (seen : List String),
      (∀ id ∈ seen, keep id = false) → ((sweep (selectStep keep) findings seen).1 = [] ↔
        ∀ f ∈ findings, keep f.findingId = false) := by
    intro findings
    induction findings with
    | nil => simp [sweep]
    | cons f findings ih =>
      intro seen hseen
      show (selectStep keep f seen).1.toList ++
        (sweep (selectStep keep) findings (selectStep keep f seen).2).1 = [] ↔ _
      rw [List.forall_mem_cons, List.append_eq_nil_iff]
      by_cases hkeep : keep f.findingId = false
      · have hstep : selectStep keep f seen = (none, seen) := if_pos (Or.inr hkeep)
        rw [hstep, ih seen hseen]
        simp [hkeep]
      · have hfresh : f.findingId ∉ seen := fun hmem => hkeep (hseen _ hmem)
        have hstep : selectStep keep f seen = (some f, f.findingId :: seen) :=
          if_neg (not_or.mpr ⟨hfresh, hkeep⟩)
        rw [hstep]
        simp [hkeep]
  exact hrun findings [] (by simp)

theorem changes_seen_subset {earlierById : Dict String Finding} {findings : List Finding}
    {seen seen' : List String} {f : Finding}
    (h : Visits (changeStep earlierById) findings seen f seen') : seen ⊆ seen' := by
  induction h with
  | here => exact List.Subset.refl _
  | @there f g findings seen seen' _ ih =>
    refine List.Subset.trans ?_ ih
    unfold changeStep
    split
    · exact List.Subset.refl _
    · split
      · exact List.Subset.refl _
      · exact List.subset_cons_self _ _

theorem changes_find_first {earlierById : Dict String Finding} {findings : List Finding}
    {seen seen' : List String} {f : Finding}
    (h : Visits (changeStep earlierById) findings seen f seen')
    (hknown : f.findingId ∈ earlierById) (hfresh : f.findingId ∉ seen') :
    (findings.find? fun g => f.findingId = g.findingId) = some f := by
  induction h with
  | here => simp
  | @there f g findings seen seen' hrest ih =>
    have hne : f.findingId ≠ g.findingId := by
      intro heq
      obtain ⟨previous, hprevious⟩ := Dict.mem_iff_lookup.mp hknown
      have hstep : f.findingId ∈ (changeStep earlierById g seen).2 := by
        unfold changeStep
        rw [← heq, hprevious]
        simp only
        split
        · assumption
        · exact List.mem_cons_self
      exact hfresh (changes_seen_subset hrest hstep)
    rw [List.find?_cons_of_neg (by simpa using hne)]
    exact ih hknown hfresh

theorem changes_fresh {earlierById : Dict String Finding} {findings : List Finding}
    {seen seen' : List String} {f : Finding}
    (h : Visits (changeStep earlierById) findings seen f seen')
    (hnodup : (findings.map Finding.findingId).Nodup)
    (hseen : ∀ g ∈ findings, g.findingId ∉ seen) : f.findingId ∉ seen' := by
  induction h with
  | here => exact hseen _ List.mem_cons_self
  | @there f g findings seen seen' _ ih =>
    rw [List.map_cons, List.nodup_cons] at hnodup
    apply ih hnodup.2
    intro other hother
    have hnot := hseen other (List.mem_cons_of_mem _ hother)
    have hne : other.findingId ≠ g.findingId := fun heq =>
      hnodup.1 (heq ▸ List.mem_map_of_mem hother)
    unfold changeStep
    split
    · exact hnot
    · split
      · exact hnot
      · rw [List.mem_cons, not_or]
        exact ⟨hne, hnot⟩

theorem newlyConfirmed_eq_nil :
    (diffFindings earlier later).newlyConfirmed = [] ↔
      ∀ f ∈ later, f.status = .confirmed →
        ∃ g ∈ earlier, g.status = .confirmed ∧ g.findingId = f.findingId := by
  unfold diffFindings
  simp only
  rw [selectFindings_eq_nil]
  constructor
  · intro h f hf hstatus
    have hkept := h f (List.mem_filter.mpr ⟨hf, decide_eq_true hstatus⟩)
    rw [decide_eq_false_iff_not, not_not, List.mem_map] at hkept
    obtain ⟨g, hg, hid⟩ := hkept
    obtain ⟨hmem, hconfirmed⟩ := List.mem_filter.mp hg
    exact ⟨g, hmem, of_decide_eq_true hconfirmed, hid⟩
  · intro h f hf
    obtain ⟨hmem, hconfirmed⟩ := List.mem_filter.mp hf
    obtain ⟨g, hg, hstatus, hid⟩ := h f hmem (of_decide_eq_true hconfirmed)
    rw [decide_eq_false_iff_not, not_not]
    exact List.mem_map.mpr ⟨g, List.mem_filter.mpr ⟨hg, decide_eq_true hstatus⟩, hid⟩

theorem severity_le_of_no_escalation (hearlier : (earlier.map Finding.findingId).Nodup)
    (hlater : (later.map Finding.findingId).Nodup)
    (h : (diffFindings earlier later).severityEscalations = []) {f g : Finding} (hf : f ∈ later)
    (hg : g ∈ earlier) (hid : g.findingId = f.findingId) (hstatus : f.status = .confirmed)
    (hconfirmed : g.status = .confirmed) : f.severity.rank ≤ g.severity.rank := by
  by_contra hrank
  have hlookup : (Dict.firstBy Finding.findingId earlier).lookup f.findingId = some g :=
    hid ▸ Dict.lookup_firstBy_of_nodup hearlier hg
  obtain ⟨seen, hvisits⟩ : ∃ seen,
      Visits (changeStep (Dict.firstBy Finding.findingId earlier)) later [] f seen :=
    exists_visits hf []
  have hfresh := changes_fresh hvisits hlater fun x _ => List.not_mem_nil
  have hchange : (⟨g, f⟩ : FindingChange) ∈ (diffFindings earlier later).changed := by
    refine mem_sweep.mpr ⟨f, seen, hvisits, ?_⟩
    have hdiffers : g.severity ≠ f.severity := fun heq => hrank (heq ▸ Nat.le_refl _)
    unfold changeStep
    rw [hlookup]
    simp only [if_neg hfresh, if_pos (Or.inr hdiffers : g.status ≠ f.status ∨ _)]
  have hescalated : (⟨g, f⟩ : FindingChange) ∈ (diffFindings earlier later).severityEscalations :=
    List.mem_filter.mpr ⟨hchange, decide_eq_true
      ⟨decide_eq_true (Nat.lt_of_not_le hrank), hconfirmed, hstatus⟩⟩
  rw [h] at hescalated
  cases hescalated

theorem diffFindings_self (findings : List Finding) :
    (diffFindings findings findings).changed = [] := by
  rw [List.eq_nil_iff_forall_not_mem]
  intro change hchange
  obtain ⟨f, seen, hvisits, hstep⟩ := mem_sweep.mp hchange
  unfold changeStep at hstep
  cases hlookup : (Dict.firstBy Finding.findingId findings).lookup f.findingId with
  | none =>
    rw [hlookup] at hstep
    cases hstep
  | some previous =>
    rw [hlookup] at hstep
    simp only at hstep
    split at hstep
    · cases hstep
    · rename_i hfresh
      have hfirst := changes_find_first hvisits (Dict.mem_iff_lookup.mpr ⟨_, hlookup⟩) hfresh
      rw [Dict.lookup_firstBy, hfirst] at hlookup
      obtain rfl := Option.some.inj hlookup
      simp at hstep

end Findings

section Metrics

variable {baseline current : RunMetrics}

theorem MetricDelta.le_of_not_regressed {delta : MetricDelta} (h : delta.regressed = false)
    (hinformational : delta.informational = false) (hbounded : delta.bounded = false) :
    delta.current ≤ delta.baseline + tolerance := by
  unfold regressed at h
  rw [hinformational, hbounded] at h
  simpa using h

/-- A rate that was measured is measured again, and is no higher. -/
def RateKept (earlier later : Option ℚ) : Prop :=
  ∀ rate, earlier = some rate → ∃ rate', later = some rate' ∧ rate' ≤ rate + tolerance

theorem rateKept_of_deltas {name : String} {earlier later : Option ℚ}
    (hmem : rateDelta name earlier later ∈ (compareMetrics baseline current).deltas)
    (hname : isIn "[" name = false)
    (hregressed : (compareMetrics baseline current).regressed = false)
    (hunmeasured : (compareMetrics baseline current).headlineUnmeasured = []) :
    RateKept earlier later := by
  rintro rate rfl
  have hdelta : (rateDelta name (some rate) later).regressed = false := by
    simpa using List.any_eq_false.mp hregressed _ hmem
  cases later with
  | none =>
    have hlost : name ∈ (compareMetrics baseline current).headlineUnmeasured := by
      refine List.mem_map.mpr ⟨_, List.mem_filter.mpr ⟨hmem, ?_⟩, rfl⟩
      simp [rateDelta, hname]
    rw [hunmeasured] at hlost
    cases hlost
  | some rate' => exact ⟨rate', rfl, MetricDelta.le_of_not_regressed hdelta rfl rfl⟩

section Maps

variable {κ ν : Type} [LinearOrder κ]

/-- A value of the later map is no higher than the earlier one, which is 0 when absent. -/
def ValueKept (float : ν → ℚ) (earlier later : Dict κ ν) (key : κ) : Prop :=
  ∀ value, later.lookup key = some value →
    float value ≤ ((earlier.lookup key).map float).getD 0 + tolerance

theorem valueKept_of_deltas {label : String} {name : κ → String} {float : ν → ℚ}
    {earlier later : Dict κ ν} {absent : Bool} {bounded : List κ}
    (hmem : ∀ delta ∈ dictDeltas label name float earlier later false absent bounded,
      delta ∈ (compareMetrics baseline current).deltas)
    (hregressed : (compareMetrics baseline current).regressed = false) {key : κ}
    (hbounded : key ∉ bounded) : ValueKept float earlier later key := by
  intro value hvalue
  have hkey : key ∈ sortedSet (earlier.keys ++ later.keys) :=
    mem_sortedSet.mpr (List.mem_append_right _
      (AList.mem_keys.mpr (Dict.mem_iff_lookup.mpr ⟨value, hvalue⟩)))
  have hdelta := hmem _ (List.mem_map_of_mem hkey)
  have hnot := List.any_eq_false.mp hregressed _ hdelta
  have hle := MetricDelta.le_of_not_regressed (by simpa using hnot) rfl (decide_eq_false hbounded)
  simpa [keyDelta, hvalue] using hle

theorem dictDeltas_self {label : String} {name : κ → String} {float : ν → ℚ} {d : Dict κ ν}
    {informational absent : Bool} {bounded : List κ} :
    ∀ delta ∈ dictDeltas label name float d d informational absent bounded,
      delta.current = delta.baseline ∧ delta.keyLost = false := by
  intro delta hdelta
  obtain ⟨key, -, rfl⟩ := List.mem_map.mp hdelta
  refine ⟨rfl, ?_⟩
  by_cases hkey : key ∈ d <;> simp [keyDelta, hkey]

end Maps

theorem compareMetrics_self (metrics : RunMetrics) :
    (compareMetrics metrics metrics).regressed = false ∧
      (compareMetrics metrics metrics).headlineUnmeasured = [] := by
  have hrate : ∀ name rate,
      (rateDelta name rate rate).current = (rateDelta name rate rate).baseline ∧
        (rateDelta name rate rate).keyLost = false := by
    intro name rate
    cases rate <;> exact ⟨rfl, rfl⟩
  have hsame : ∀ delta ∈ (compareMetrics metrics metrics).deltas,
      delta.current = delta.baseline ∧ delta.keyLost = false := by
    intro delta hdelta
    unfold compareMetrics at hdelta
    simp only [List.mem_append, List.mem_cons, List.not_mem_nil, or_false] at hdelta
    rcases hdelta with ((((((rfl | rfl | rfl | rfl | rfl) | h) | h) | h) | h) | h)
    · exact ⟨rfl, rfl⟩
    · exact hrate _ _
    · exact hrate _ _
    · exact hrate _ _
    · exact hrate _ _
    all_goals exact dictDeltas_self delta h
  constructor
  · refine List.any_eq_false.mpr fun delta hdelta => ?_
    have hpos : (0 : ℚ) < tolerance := by norm_num [tolerance]
    unfold MetricDelta.regressed
    rw [(hsame delta hdelta).1]
    split
    · simp
    · split
      · simp
      · simpa using hpos.le
  · unfold BaselineComparison.headlineUnmeasured
    rw [List.map_eq_nil_iff, List.filter_eq_nil_iff]
    intro delta hdelta
    simp [(hsame delta hdelta).2]

end Metrics

section Gate

variable {earlier later : RunResult}

theorem coverageLost_eq_nil : coverageLost earlier later = [] ↔
    ∀ probeId, earlier.exercises probeId → later.exercises probeId := by
  unfold coverageLost
  rw [sortedSet_filter_eq_nil]
  simp only [decide_eq_false_iff_not, not_not, RunResult.mem_exercisedProbes]

theorem scopeLost_eq_nil : scopeLost earlier later = [] ↔
    ∀ surface, earlier.surfaceProvenance.lookup surface = some .live →
      later.surfaceProvenance.lookup surface = some .live := by
  unfold scopeLost
  rw [sortedSet_filter_eq_nil]
  constructor
  · intro h surface hlive
    have hmem := AList.mem_keys.mpr (Dict.mem_iff_lookup.mpr ⟨_, hlive⟩)
    by_contra hlost
    exact of_decide_eq_false (h surface hmem) ⟨hlive, hlost⟩
  · intro h surface _
    exact decide_eq_false fun hlost => hlost.2 (h surface hlost.1)

/-- The three ways that a surface leaves the erasure blocks of a record. -/
theorem mem_erasureLost {surface : Surface} : surface ∈ erasureLost earlier later ↔
    ((surface ∈ earlier.metrics.erasureResidue ∨ surface ∈ earlier.metrics.erasureCaveats) ∧
        surface ∉ later.metrics.erasureResidue ∧ surface ∉ later.metrics.erasureCaveats) ∨
      (surface ∈ earlier.metrics.erasureResidue ∧ surface ∉ later.metrics.erasureResidue) ∨
      (surface ∈ earlier.metrics.erasureCoverage ∧ surface ∈ earlier.surfaceProvenance ∧
        surface ∉ later.surfaceProvenance) := by
  simp only [erasureLost, mem_sortedSet, List.mem_append, List.mem_filter, AList.mem_keys,
    decide_eq_true_eq, not_or, or_assoc]

theorem erasureLost_eq_nil : erasureLost earlier later = [] ↔
    (∀ surface,
      surface ∈ earlier.metrics.erasureResidue ∨ surface ∈ earlier.metrics.erasureCaveats →
        surface ∈ later.metrics.erasureResidue ∨ surface ∈ later.metrics.erasureCaveats) ∧
    (∀ surface ∈ earlier.metrics.erasureResidue, surface ∈ later.metrics.erasureResidue) ∧
    ∀ surface ∈ earlier.metrics.erasureCoverage, surface ∈ earlier.surfaceProvenance →
      surface ∈ later.surfaceProvenance := by
  rw [List.eq_nil_iff_forall_not_mem]
  simp only [mem_erasureLost]
  constructor
  · intro h
    refine ⟨?_, ?_, ?_⟩
    · intro surface hscanned
      by_contra hlost
      exact h surface (.inl ⟨hscanned, not_or.mp hlost⟩)
    · intro surface hresidue
      by_contra hlost
      exact h surface (.inr (.inl ⟨hresidue, hlost⟩))
    · intro surface hcoverage hmem
      by_contra hlost
      exact h surface (.inr (.inr ⟨hcoverage, hmem, hlost⟩))
  · rintro ⟨hscanned, hresidue, hcoverage⟩ surface (⟨hmem, hlost⟩ | ⟨hmem, hlost⟩ | ⟨hmem, hlost⟩)
    · exact not_or.mpr hlost (hscanned surface hmem)
    · exact hlost (hresidue surface hmem)
    · exact hlost.2 (hcoverage surface hmem hlost.1)

theorem newlyCounted_self (counts : Dict String Int) : newlyCounted counts counts = [] := by
  unfold newlyCounted
  rw [sortedSet_filter_eq_nil]
  intro key _
  exact decide_eq_false fun hcounted => hcounted.1 hcounted.2

theorem sideChannelLost_eq_nil : (diffRuns earlier later).sideChannelLost = [] ↔
    ∀ pair ∈ earlier.metrics.sideChannelEffectSizes,
      pair ∈ later.metrics.sideChannelEffectSizes := by
  unfold diffRuns
  simp only
  rw [sortedSet_filter_eq_nil]
  simp only [decide_eq_false_iff_not, not_not, AList.mem_keys]

/-- The later run is as well measured as the earlier one, and nothing in it is worse. -/
structure HoldsUp (earlier later : RunResult) : Prop where
  findings : ∀ f ∈ later.findings, f.status = .confirmed → ∃ g ∈ earlier.findings,
    g.findingId = f.findingId ∧ g.status = .confirmed ∧ f.severity.rank ≤ g.severity.rank
  probes : ∀ probeId, earlier.exercises probeId → later.exercises probeId
  live : ∀ surface, earlier.surfaceProvenance.lookup surface = some .live →
    later.surfaceProvenance.lookup surface = some .live
  residueKeys : ∀ surface ∈ earlier.metrics.erasureResidue, surface ∈ later.metrics.erasureResidue
  sideChannelPairs : ∀ pair ∈ earlier.metrics.sideChannelEffectSizes,
    pair ∈ later.metrics.sideChannelEffectSizes
  pivotRate : RateKept earlier.metrics.pivotRate later.metrics.pivotRate
  poisoningRate : RateKept earlier.metrics.poisoningBleedDelta later.metrics.poisoningBleedDelta
  inversionRate : RateKept earlier.metrics.inversionReconstructionRate
    later.metrics.inversionReconstructionRate
  extractionRate : RateKept earlier.metrics.extractionEfficiency later.metrics.extractionEfficiency
  perProbe : ∀ probeId, ValueKept Int.cast earlier.metrics.perProbeFindings
    later.metrics.perProbeFindings probeId
  residue : ∀ surface, ValueKept Int.cast earlier.metrics.erasureResidue
    later.metrics.erasureResidue surface
  effectSizes : ∀ pair, pair ∉ earlier.metrics.sideChannelVarianceFloored →
    pair ∉ later.metrics.sideChannelVarianceFloored →
      ValueKept id earlier.metrics.sideChannelEffectSizes later.metrics.sideChannelEffectSizes pair
  scenario : later.scenarioHash = earlier.scenarioHash

theorem RunDiff.regressed_eq_false {diff : RunDiff} (h : diff.regressed = false) :
    diff.metrics.regressed = false ∧ diff.findings.newlyConfirmed = [] ∧
      diff.findings.severityEscalations = [] ∧ diff.coverageLost = [] ∧ diff.scopeLost = [] ∧
      diff.erasureLost = [] ∧ diff.sideChannelLost = [] ∧ diff.metrics.headlineUnmeasured = [] ∧
      diff.scenarioChanged = false := by
  unfold regressed at h
  simp only [Bool.or_eq_false_iff, Bool.not_eq_false', List.isEmpty_iff] at h
  obtain ⟨⟨⟨⟨⟨⟨⟨⟨⟨⟨⟨hmetrics, hnew⟩, hescalated⟩, hcoverage⟩, hscope⟩, -⟩, -⟩, herasure⟩, hside⟩,
    hheadline⟩, hscenario⟩, -⟩ := h
  exact ⟨hmetrics, hnew, hescalated, hcoverage, hscope, herasure, hside, hheadline, hscenario⟩

theorem holdsUp_of_not_regressed (hearlier : (earlier.findings.map Finding.findingId).Nodup)
    (hlater : (later.findings.map Finding.findingId).Nodup)
    (h : (diffRuns earlier later).regressed = false) : HoldsUp earlier later := by
  obtain ⟨hmetrics, hnew, hescalated, hcoverage, hscope, herasure, hside, hheadline, hscenario⟩ :=
    RunDiff.regressed_eq_false h
  have hrate : ∀ (name : String) {rate rate' : Option ℚ}, isIn "[" name = false →
      rateDelta name rate rate' ∈ (compareMetrics earlier.metrics later.metrics).deltas →
        RateKept rate rate' := fun name _ _ hname hmem =>
    rateKept_of_deltas hmem hname hmetrics hheadline
  constructor
  case findings =>
    intro f hf hstatus
    obtain ⟨g, hg, hconfirmed, hid⟩ := newlyConfirmed_eq_nil.mp hnew f hf hstatus
    exact ⟨g, hg, hid, hconfirmed, severity_le_of_no_escalation hearlier hlater hescalated hf hg hid
      hstatus hconfirmed⟩
  case probes => exact coverageLost_eq_nil.mp hcoverage
  case live => exact scopeLost_eq_nil.mp hscope
  case residueKeys => exact (erasureLost_eq_nil.mp herasure).2.1
  case sideChannelPairs => exact sideChannelLost_eq_nil.mp hside
  case pivotRate =>
    exact hrate "retrieval_pivot_rate" (by decide +kernel) (by simp [compareMetrics])
  case poisoningRate =>
    exact hrate "poisoning_bleed_delta" (by decide +kernel) (by simp [compareMetrics])
  case inversionRate =>
    exact hrate "inversion_reconstruction_rate" (by decide +kernel) (by simp [compareMetrics])
  case extractionRate =>
    exact hrate "extraction_efficiency" (by decide +kernel) (by simp [compareMetrics])
  case perProbe =>
    have hmem : ∀ delta ∈ dictDeltas "per_probe_findings" id Int.cast
        earlier.metrics.perProbeFindings later.metrics.perProbeFindings false true,
          delta ∈ (compareMetrics earlier.metrics later.metrics).deltas := fun _ hdelta =>
      List.mem_append_left _ (List.mem_append_left _ (List.mem_append_left _
        (List.mem_append_right _ hdelta)))
    exact fun probeId => valueKept_of_deltas hmem hmetrics List.not_mem_nil
  case residue =>
    have hmem : ∀ delta ∈ dictDeltas "erasure_residue" Surface.value Int.cast
        earlier.metrics.erasureResidue later.metrics.erasureResidue,
          delta ∈ (compareMetrics earlier.metrics later.metrics).deltas := fun _ hdelta =>
      List.mem_append_left _ (List.mem_append_left _ (List.mem_append_right _ hdelta))
    exact fun surface => valueKept_of_deltas hmem hmetrics List.not_mem_nil
  case effectSizes =>
    have hmem : ∀ delta ∈ dictDeltas "side_channel_effect_sizes" id id
        earlier.metrics.sideChannelEffectSizes later.metrics.sideChannelEffectSizes false false
        (earlier.metrics.sideChannelVarianceFloored ++ later.metrics.sideChannelVarianceFloored),
          delta ∈ (compareMetrics earlier.metrics later.metrics).deltas := fun _ hdelta =>
      List.mem_append_left _ (List.mem_append_right _ hdelta)
    exact fun pair hearlier hlater =>
      valueKept_of_deltas hmem hmetrics (List.not_mem_append hearlier hlater)
  case scenario =>
    have hsame := decide_eq_false_iff_not.mp hscenario
    exact (not_not.mp hsame).symm

theorem diffRuns_self (run : RunResult) : (diffRuns run run).regressed = false := by
  obtain ⟨hregressed, hheadline⟩ := compareMetrics_self run.metrics
  have hnew : (diffFindings run.findings run.findings).newlyConfirmed = [] :=
    newlyConfirmed_eq_nil.mpr fun f hf hstatus => ⟨f, hf, hstatus, rfl⟩
  have hescalated : (diffFindings run.findings run.findings).severityEscalations = [] := by
    unfold FindingDiff.severityEscalations
    rw [diffFindings_self]
    rfl
  have hcoverage : coverageLost run run = [] := coverageLost_eq_nil.mpr fun _ h => h
  have hscope : scopeLost run run = [] := scopeLost_eq_nil.mpr fun _ h => h
  have herasure : erasureLost run run = [] :=
    erasureLost_eq_nil.mpr ⟨fun _ h => h, fun _ h => h, fun _ _ h => h⟩
  have hside : (diffRuns run run).sideChannelLost = [] := sideChannelLost_eq_nil.mpr fun _ h => h
  have hembedder : embedderChange run.vectorEmbedder run.vectorEmbedder = none := by
    unfold embedderChange
    cases run.vectorEmbedder <;> simp
  unfold RunDiff.regressed
  rw [hside]
  simp only [diffRuns, hregressed, hheadline, hnew, hescalated, newlyCounted_self, hcoverage,
    hscope, herasure, hembedder]
  simp

/-- A comparison that reports no regression guarantees that the later run holds up, and a run holds
up against itself. -/
theorem diffRuns_gate :
    (∀ earlier later : RunResult, (earlier.findings.map Finding.findingId).Nodup →
      (later.findings.map Finding.findingId).Nodup →
        (diffRuns earlier later).regressed = false → HoldsUp earlier later) ∧
      ∀ run : RunResult, (diffRuns run run).regressed = false :=
  ⟨fun _ _ hearlier hlater h => holdsUp_of_not_regressed hearlier hlater h, diffRuns_self⟩

end Gate

section Example

/-- A run that confirmed one leak, and measured a rate, a residue and a tenant pair. -/
def leakingRun : RunResult :=
  { runId := "run-1", scenarioHash := "scenario", manifestHash := "manifest"
    startedAt := ⟨0, none⟩, finishedAt := ⟨0, none⟩
    surfaceProvenance := Dict.ofItems [(.vectorDb, .live)]
    probeVersions := Dict.ofItems [("tenant-boundary-fetch", "1"), ("kv-cache-timing", "1")]
    findings :=
      [{ findingId := "finding-1", probeId := "tenant-boundary-fetch", severity := .high
         confidence := UnitRat.one, status := .confirmed, ownerTenantId := ⟨1⟩
         observedInTenantId := ⟨2⟩, surface := .vectorDb }]
    metrics :=
      { perProbeFindings := Dict.ofItems [("tenant-boundary-fetch", 1)]
        confirmedFindings := 1
        erasureResidue := Dict.ofItems [(.vectorDb, 2)]
        sideChannelEffectSizes := Dict.ofItems [("1:2", 3 / 10)]
        poisoningBleedDelta := some (1 / 2) } }

def fixedRun : RunResult :=
  { leakingRun with
    runId := "run-2"
    findings := leakingRun.findings.map fun f => { f with severity := .medium }
    metrics :=
      { leakingRun.metrics with
        erasureResidue := Dict.ofItems [(.vectorDb, 0)]
        sideChannelEffectSizes := Dict.ofItems [("1:2", 1 / 10)]
        poisoningBleedDelta := some (1 / 4)
        residue_keys := by decide } }

theorem diffRuns_gate_fixed :
    HoldsUp leakingRun fixedRun ∧ (diffRuns fixedRun leakingRun).regressed = true ∧
      (diffRuns fixedRun fixedRun).regressed = false :=
  ⟨diffRuns_gate.1 leakingRun fixedRun (by decide +kernel) (by decide +kernel) (by decide +kernel),
    by decide +kernel, diffRuns_gate.2 fixedRun⟩

end Example

end Sectum
