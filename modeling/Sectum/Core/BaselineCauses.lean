import Sectum.Core.BaselineCommand
import Sectum.Core.BaselineSound
import Sectum.Core.ErasureExit

/-! A comparison that fails the gate says why, one that passes names no cause, and a metric is called
ok only where it was measured and has not risen. -/

namespace Sectum

open Py

section Tags

/-- What stands between the brackets at the beginning of a line. -/
def tagOf (line : EchoLine) : Option String :=
  match line.text.toList with
  | '[' :: rest => some (String.ofList (rest.takeWhile (· ≠ ']')))
  | _ => none

/-- The tags that say why a comparison failed. -/
def causeTags : List String :=
  ["REGRESSED", "COVERAGE LOST", "SCOPE LOST", "BOUNDARY LOST", "PLANTS LOST",
    "ERASURE NOT RESCANNED", "SIDE CHANNEL NOT REMEASURED", "RATE NOT REMEASURED",
    "SCENARIO CHANGED", "EMBEDDER CHANGED"]

/-- A metric line that is labelled as a regression, or a cause line. -/
def NamesCause (line : EchoLine) : Prop := ∃ tag ∈ causeTags, tagOf line = some tag

theorem takeWhile_ne (stop : Char) {chars : List Char} (h : stop ∉ chars) (rest : List Char) :
    (chars ++ stop :: rest).takeWhile (· ≠ stop) = chars := by
  rw [List.takeWhile_append_of_pos]
  · simp
  · exact fun c hc => decide_eq_true fun heq => h (heq ▸ hc)

theorem tagOf_eq {line : EchoLine} (tag rest : List Char) (htag : ']' ∉ tag)
    (h : line.text.toList = '[' :: (tag ++ ']' :: rest)) : tagOf line = some (String.ofList tag) := by
  rw [tagOf, h]
  exact congrArg (fun chars => some (String.ofList chars)) (takeWhile_ne ']' htag rest)

theorem tagOf_eq_none {line : EchoLine} (h : line.text.toList.head? ≠ some '[') :
    tagOf line = none := by
  unfold tagOf
  split
  · rename_i rest hrest
    rw [hrest] at h
    exact absurd rfl h
  · rfl

/-- A line that opens with another character than a bracket. -/
theorem not_namesCause_of_startsWith {line : EchoLine} {c : Char} (hc : c ≠ '[')
    (h : startsWith c.toString line.text) : ¬NamesCause line := by
  obtain ⟨rest, hrest⟩ := h
  have hhead : line.text.toList.head? ≠ some '[' := by simpa [← hrest] using hc
  rintro ⟨tag, -, htag⟩
  rw [tagOf_eq_none hhead] at htag
  cases htag

theorem tagOf_of_startsWith {line : EchoLine} {tag : String} (htag : ']' ∉ tag.toList)
    (h : startsWith ("[" ++ tag ++ "]") line.text) : tagOf line = some tag := by
  obtain ⟨rest, hrest⟩ := h
  rw [tagOf_eq tag.toList rest htag (by simp [← hrest]), String.ofList_toList]

variable [Unicode]

theorem tagOf_lostLine {tag : String} (htag : ']' ∉ tag.toList) (name detail : String) :
    tagOf (lostLine tag name detail) = some tag := by
  apply tagOf_of_startsWith htag
  exact ⟨' ' :: ((untrusted name).toList ++ (": ".toList ++ detail.toList)), by simp [lostLine, out]⟩

theorem tagOf_metricLine (result : RunDiff) (delta : MetricDelta) :
    tagOf (metricLine result delta) = some (lostVerdict delta result).text := by
  have htag : ']' ∉ (lostVerdict delta result).text.toList := by
    cases lostVerdict delta result <;> decide
  apply tagOf_of_startsWith htag
  exact ⟨' ' :: ((untrusted delta.name).toList ++ (": ".toList ++ (deltaRange delta).toList)),
    by simp [metricLine, out]⟩

end Tags

section Gate

variable [Unicode] {result : RunDiff}

/-- The lines in brackets that are not about a metric. -/
def causeLines (result : RunDiff) : List EchoLine :=
  result.findings.severityEscalations.map escalationLine ++
    (result.findings.newlyConfirmed.map newlyConfirmedLine ++
      (result.coverageLost.map coverageLine ++
        (result.scopeLost.map scopeLine ++
          (result.boundaryLost.map boundaryLine ++
            (result.plantsLost.map plantsLine ++
              (result.erasureLost.map erasureLine ++
                (result.sideChannelLost.map sideChannelLine ++
                  (result.metrics.headlineUnmeasured.map rateLine ++
                    ((if result.scenarioChanged then [scenarioLine] else []) ++
                      match result.embedderChanged with
                      | some change => [out (embedderChangedBanner change result "baseline")]
                      | none => [])))))))))

theorem comparisonLines_eq (result : RunDiff) :
    comparisonLines result = result.metrics.deltas.map (metricLine result) ++ causeLines result := by
  unfold comparisonLines causeLines
  ac_rfl

omit [Unicode] in
theorem causeTags_closed : ∀ tag ∈ causeTags, ']' ∉ tag.toList := by decide +kernel

omit [Unicode] in
theorem namesCause_of_startsWith {line : EchoLine} {tag : String} (htag : tag ∈ causeTags)
    (h : startsWith ("[" ++ tag ++ "]") line.text) : NamesCause line :=
  ⟨tag, htag, tagOf_of_startsWith (causeTags_closed tag htag) h⟩

theorem namesCause_lostLine {tag : String} (htag : tag ∈ causeTags) (name detail : String) :
    NamesCause (lostLine tag name detail) :=
  ⟨tag, htag, tagOf_lostLine (causeTags_closed tag htag) name detail⟩

theorem namesCause_escalationLine (change : FindingChange) : NamesCause (escalationLine change) := by
  have htag : "REGRESSED" ∈ causeTags := by decide
  apply namesCause_of_startsWith htag
  iterate 5 apply startsWith.append
  decide +kernel

theorem namesCause_newlyConfirmedLine (finding : Finding) :
    NamesCause (newlyConfirmedLine finding) := by
  have htag : "REGRESSED" ∈ causeTags := by decide
  apply namesCause_of_startsWith htag
  apply startsWith.append
  decide +kernel

omit [Unicode] in
theorem namesCause_scenarioLine : NamesCause scenarioLine := by
  have htag : "SCENARIO CHANGED" ∈ causeTags := by decide
  apply namesCause_of_startsWith htag
  iterate 2 apply startsWith.append
  decide +kernel

theorem namesCause_banner (change : String × String) (result : RunDiff) (earlier : String) :
    NamesCause (out (embedderChangedBanner change result earlier)) := by
  have htag : "EMBEDDER CHANGED" ∈ causeTags := by decide
  apply namesCause_of_startsWith htag
  iterate 15 apply startsWith.append
  decide +kernel

/-- Every one of them names a cause. -/
theorem namesCause_of_mem_causeLines : ∀ line ∈ causeLines result, NamesCause line := by
  intro line hline
  simp only [causeLines, List.mem_append, List.mem_map] at hline
  rcases hline with ⟨change, -, rfl⟩ | ⟨finding, -, rfl⟩ | ⟨probeId, -, rfl⟩ | ⟨surface, -, rfl⟩ |
    ⟨probeId, -, rfl⟩ | ⟨probeId, -, rfl⟩ | ⟨surface, -, rfl⟩ | ⟨pair, -, rfl⟩ | ⟨name, -, rfl⟩ |
    hscenario | hbanner
  · exact namesCause_escalationLine change
  · exact namesCause_newlyConfirmedLine finding
  · exact namesCause_lostLine (by decide) _ _
  · exact namesCause_lostLine (by decide) _ _
  · exact namesCause_lostLine (by decide) _ _
  · exact namesCause_lostLine (by decide) _ _
  · exact namesCause_lostLine (by decide) _ _
  · exact namesCause_lostLine (by decide) _ _
  · exact namesCause_lostLine (by decide) _ _
  · split at hscenario
    · rw [List.mem_singleton.mp hscenario]
      exact namesCause_scenarioLine
    · cases hscenario
  · split at hbanner
    · rename_i change _
      rw [List.mem_singleton.mp hbanner]
      exact namesCause_banner change result "baseline"
    · cases hbanner

theorem causeLines_eq_nil : causeLines result = [] ↔
    result.findings.severityEscalations = [] ∧ result.findings.newlyConfirmed = [] ∧
      result.coverageLost = [] ∧ result.scopeLost = [] ∧ result.boundaryLost = [] ∧
      result.plantsLost = [] ∧ result.erasureLost = [] ∧ result.sideChannelLost = [] ∧
      result.metrics.headlineUnmeasured = [] ∧ result.scenarioChanged = false ∧
      result.embedderChanged = none := by
  have hscenario : (if result.scenarioChanged then [scenarioLine] else []) = [] ↔
      result.scenarioChanged = false := by
    cases result.scenarioChanged <;> simp
  have hbanner : (match result.embedderChanged with
      | some change => [out (embedderChangedBanner change result "baseline")]
      | none => []) = [] ↔ result.embedderChanged = none := by
    cases result.embedderChanged <;> simp
  simp only [causeLines, List.append_eq_nil_iff, List.map_eq_nil_iff, hscenario, hbanner]

/-- What the gate reads beside the metrics is what the cause lines are printed from. -/
theorem RunDiff.regressed_iff :
    result.regressed = true ↔ result.metrics.regressed = true ∨ causeLines result ≠ [] := by
  rw [Ne, causeLines_eq_nil]
  simp only [RunDiff.regressed, Bool.or_eq_true, Bool.not_eq_true', List.isEmpty_eq_false_iff,
    Option.isSome_iff_ne_none]
  grind

end Gate

section Verdicts

variable {delta : MetricDelta} {coverageLost boundaryLost keyLost : List String}
  {surfacesLost : List Surface} {scenarioChanged : Bool}

/-- The probes of which the tag of a metric line says that something was lost. -/
def lostProbes (coverageLost boundaryLost : List String) (scopeLost : List Surface) : List String :=
  coverageLost ++ boundaryLost ++
    (probeSurfaces.items.filter fun entry => entry.2.any (· ∈ scopeLost)).map Prod.fst

/-- What is so of a metric that is called ok. -/
structure CalledOk (delta : MetricDelta) (lost keyLost : List String) (scenarioChanged : Bool) :
    Prop where
  scenario : scenarioChanged = false
  bounded : delta.bounded = false
  kept : delta.keyLost = false
  measured : delta.baselineAbsent = false ∨ delta.currentAbsent = false
  keys : ∀ key ∈ keyLost, isKeyedBy delta.name key = false
  probes : ∀ probeId ∈ lost, isKeyedBy delta.name probeId = false
  headline : ∀ probeId ∈ headlineMetricProbes.getD delta.name [], probeId ∉ lost
  map : ∀ probeId ∈ mapMetricProbes.getD (mapLabel delta.name) [], probeId ∉ lost
  informational : delta.informational = false
  notRegressed : delta.regressed = false

theorem calledOk_of_deltaVerdict
    (h : deltaVerdict delta coverageLost boundaryLost surfacesLost keyLost scenarioChanged = .ok) :
    CalledOk delta (lostProbes coverageLost boundaryLost surfacesLost) keyLost scenarioChanged := by
  have hlost : coverageLost ++ boundaryLost ++ (probeSurfaces.items.filter fun entry =>
      entry.2.any (· ∈ surfacesLost)).map Prod.fst =
        lostProbes coverageLost boundaryLost surfacesLost := rfl
  unfold deltaVerdict at h
  simp only [hlost] at h
  generalize lostProbes coverageLost boundaryLost surfacesLost = lost at h ⊢
  split at h
  · cases h
  split at h
  · cases h
  split at h
  · cases h
  split at h
  · cases h
  split at h
  · cases h
  split at h
  · cases h
  split at h
  · cases h
  split at h
  · cases h
  split at h
  · cases h
  rename_i hscenario hbounded hkept hmeasured hkeys hprobes _ hinformational hregressed
  simp only [Bool.not_eq_true, Bool.or_eq_false_iff, List.any_append, List.any_eq_false,
    decide_eq_true_eq, Bool.and_eq_false_iff] at *
  exact ⟨hscenario, hbounded, hkept, hmeasured, hkeys, hprobes.1, hprobes.2.1, hprobes.2.2,
    hinformational, hregressed⟩

theorem regressed_of_deltaVerdict
    (h : deltaVerdict delta coverageLost boundaryLost surfacesLost keyLost scenarioChanged =
      .regressed) : delta.regressed = true := by
  by_contra hnot
  simp only [deltaVerdict, hnot] at h
  grind

/-- Where nothing was lost, a metric that rose is labelled so. -/
theorem deltaVerdict_nothing_lost (hbounded : delta.bounded = false) (hkept : delta.keyLost = false)
    (hmeasured : delta.baselineAbsent = false ∨ delta.currentAbsent = false)
    (hinformational : delta.informational = false) (hregressed : delta.regressed = true) :
    deltaVerdict delta [] [] [] [] false = .regressed := by
  have hscope : (probeSurfaces.items.filter fun entry => entry.2.any (· ∈ ([] : List Surface))) = [] := by
    simp
  have habsent : (delta.baselineAbsent && delta.currentAbsent) = false := by
    rcases hmeasured with h | h <;> simp [h]
  simp [deltaVerdict, hbounded, hkept, habsent, hinformational, hregressed]

end Verdicts

section Compared

/-- What a comparison has a line about. -/
inductive ComparedMetric
  | confirmedFindings
  | pivotRate
  | poisoningBleedDelta
  | inversionReconstructionRate
  | extractionEfficiency
  | rateByModel (model : String)
  | probeFindings (probeId : String)
  | erasureResidue (surface : Surface)
  | effectSize (pair : String)
  | erasureCaveats (surface : Surface)

namespace ComparedMetric

def mapValue {κ ν : Type} [LinearOrder κ] (float : ν → ℚ) (d : Dict κ ν) (key : κ) : Option ℚ :=
  (d.lookup key).map float

/-- What a record has for a metric. -/
def value (metrics : RunMetrics) : ComparedMetric → Option ℚ
  | confirmedFindings => some metrics.confirmedFindings
  | pivotRate => metrics.pivotRate
  | poisoningBleedDelta => metrics.poisoningBleedDelta
  | inversionReconstructionRate => metrics.inversionReconstructionRate
  | extractionEfficiency => metrics.extractionEfficiency
  | rateByModel model => mapValue id metrics.retrievalPivotRateByModel model
  | probeFindings probeId => mapValue Int.cast metrics.perProbeFindings probeId
  | erasureResidue surface => mapValue Int.cast metrics.erasureResidue surface
  | effectSize pair => mapValue id metrics.sideChannelEffectSizes pair
  | erasureCaveats surface => mapValue Int.cast metrics.erasureCaveats surface

/-- The probes that feed a metric. -/
def probes : ComparedMetric → List String
  | pivotRate => bleedProbeIds
  | poisoningBleedDelta => [ragPoisoningId]
  | inversionReconstructionRate => [embeddingInversionId]
  | extractionEfficiency => [ikeaExtractionId]
  | probeFindings probeId => [probeId]
  | effectSize _ => [kvCacheTimingId]
  | _ => []

/-- The surfaces by which a metric is keyed. -/
def surfaces : ComparedMetric → List Surface
  | erasureResidue surface => [surface]
  | erasureCaveats surface => [surface]
  | _ => []

/-- The pairs of tenants by which a metric is keyed. -/
def pairs : ComparedMetric → List String
  | effectSize pair => [pair]
  | _ => []

def delta (baseline current : RunMetrics) : ComparedMetric → MetricDelta
  | confirmedFindings =>
    { name := "confirmed_findings"
      baseline := baseline.confirmedFindings, current := current.confirmedFindings }
  | pivotRate => rateDelta "retrieval_pivot_rate" baseline.pivotRate current.pivotRate
  | poisoningBleedDelta =>
    rateDelta "poisoning_bleed_delta" baseline.poisoningBleedDelta current.poisoningBleedDelta
  | inversionReconstructionRate =>
    rateDelta "inversion_reconstruction_rate" baseline.inversionReconstructionRate
      current.inversionReconstructionRate
  | extractionEfficiency =>
    rateDelta "extraction_efficiency" baseline.extractionEfficiency current.extractionEfficiency
  | rateByModel model =>
    keyDelta "retrieval_pivot_rate_by_model (modelled)" id id baseline.retrievalPivotRateByModel
      current.retrievalPivotRateByModel false false [] model
  | probeFindings probeId =>
    keyDelta "per_probe_findings" id Int.cast baseline.perProbeFindings current.perProbeFindings
      false true [] probeId
  | erasureResidue surface =>
    keyDelta "erasure_residue" Surface.value Int.cast baseline.erasureResidue
      current.erasureResidue false false [] surface
  | effectSize pair =>
    keyDelta "side_channel_effect_sizes" id id baseline.sideChannelEffectSizes
      current.sideChannelEffectSizes false false
      (baseline.sideChannelVarianceFloored ++ current.sideChannelVarianceFloored) pair
  | erasureCaveats surface =>
    keyDelta "erasure_caveats" Surface.value Int.cast baseline.erasureCaveats
      current.erasureCaveats true false [] surface

end ComparedMetric

/-- The metrics of two records, in the order of their lines. -/
def comparedMetrics (baseline current : RunMetrics) : List ComparedMetric :=
  [.confirmedFindings, .pivotRate, .poisoningBleedDelta, .inversionReconstructionRate,
      .extractionEfficiency] ++
    (sortedSet (baseline.retrievalPivotRateByModel.keys ++
      current.retrievalPivotRateByModel.keys)).map .rateByModel ++
    (sortedSet (baseline.perProbeFindings.keys ++ current.perProbeFindings.keys)).map
      .probeFindings ++
    (sortedSet (baseline.erasureResidue.keys ++ current.erasureResidue.keys)).map
      .erasureResidue ++
    (sortedSet (baseline.sideChannelEffectSizes.keys ++ current.sideChannelEffectSizes.keys)).map
      .effectSize ++
    (sortedSet (baseline.erasureCaveats.keys ++ current.erasureCaveats.keys)).map .erasureCaveats

theorem compareMetrics_deltas (baseline current : RunMetrics) :
    (compareMetrics baseline current).deltas =
      (comparedMetrics baseline current).map (ComparedMetric.delta baseline current) := by
  simp only [comparedMetrics, List.map_append, List.map_map]
  rfl

variable {baseline current : RunMetrics}

theorem keyDelta_absent {κ ν : Type} [LinearOrder κ] {label : String} {name : κ → String}
    {float : ν → ℚ} {earlier later : Dict κ ν} {informational absentWhenClean : Bool}
    {boundedKeys : List κ} {key : κ}
    (h : (keyDelta label name float earlier later informational absentWhenClean
      boundedKeys key).currentAbsent = true) : ComparedMetric.mapValue float later key = none := by
  simp only [keyDelta, Bool.and_eq_true, decide_eq_true_eq] at h
  rw [ComparedMetric.mapValue, AList.lookup_eq_none.mpr h.2]
  rfl

theorem rateDelta_absent {name : String} {earlier later : Option ℚ}
    (h : (rateDelta name earlier later).currentAbsent = true) : later = none :=
  Option.isNone_iff_eq_none.mp h

/-- The two numbers of a metric line are what the records have, or the fill. -/
theorem ComparedMetric.delta_values (metric : ComparedMetric) :
    (metric.delta baseline current).baseline = (metric.value baseline).getD 0 ∧
      (metric.delta baseline current).current = (metric.value current).getD 0 := by
  cases metric <;> exact ⟨rfl, rfl⟩

/-- A side that is a fill has no value. -/
theorem ComparedMetric.value_of_absent {metric : ComparedMetric}
    (h : (metric.delta baseline current).currentAbsent = true) : metric.value current = none := by
  cases metric with
  | confirmedFindings => cases h
  | pivotRate => exact rateDelta_absent h
  | poisoningBleedDelta => exact rateDelta_absent h
  | inversionReconstructionRate => exact rateDelta_absent h
  | extractionEfficiency => exact rateDelta_absent h
  | rateByModel model => exact keyDelta_absent h
  | probeFindings probeId => exact keyDelta_absent h
  | erasureResidue surface => exact keyDelta_absent h
  | effectSize pair => exact keyDelta_absent h
  | erasureCaveats surface => exact keyDelta_absent h

/-- A key that is lost is a fill on the later side. -/
theorem ComparedMetric.absent_of_keyLost {metric : ComparedMetric}
    (h : (metric.delta baseline current).keyLost = true) :
    (metric.delta baseline current).currentAbsent = true := by
  cases metric <;> simp_all [delta, rateDelta, keyDelta]

theorem mapValue_isSome {κ ν : Type} [LinearOrder κ] {float : ν → ℚ} {earlier later : Dict κ ν}
    {key : κ} (h : key ∈ sortedSet (earlier.keys ++ later.keys)) :
    (ComparedMetric.mapValue float earlier key).isSome = true ∨
      (ComparedMetric.mapValue float later key).isSome = true := by
  rw [mem_sortedSet, List.mem_append] at h
  simpa only [ComparedMetric.mapValue, Option.isSome_map, AList.lookup_isSome, AList.mem_keys]
    using h

theorem rate_isSome {name : String} {earlier later : Option ℚ}
    (h : (rateDelta name earlier later).baselineAbsent = false ∨
      (rateDelta name earlier later).currentAbsent = false) :
    earlier.isSome = true ∨ later.isSome = true := by
  simpa only [rateDelta, Option.isNone_eq_false_iff] using h

/-- A metric line of which not both sides are a fill is about a metric that some record has. -/
theorem ComparedMetric.measured {metric : ComparedMetric}
    (hmetric : metric ∈ comparedMetrics baseline current)
    (h : (metric.delta baseline current).baselineAbsent = false ∨
      (metric.delta baseline current).currentAbsent = false) :
    (metric.value baseline).isSome = true ∨ (metric.value current).isSome = true := by
  simp only [comparedMetrics, List.mem_append, List.mem_cons, List.not_mem_nil, or_false,
    List.mem_map] at hmetric
  rcases hmetric with ((((((rfl | rfl | rfl | rfl | rfl) | ⟨key, hkey, rfl⟩) | ⟨key, hkey, rfl⟩) |
    ⟨key, hkey, rfl⟩) | ⟨key, hkey, rfl⟩) | ⟨key, hkey, rfl⟩)
  · exact .inl rfl
  · exact rate_isSome h
  · exact rate_isSome h
  · exact rate_isSome h
  · exact rate_isSome h
  all_goals exact mapValue_isSome hkey

/-- No value that a comparison reads is negative. -/
def NonNegative (metrics : RunMetrics) : Prop :=
  ∀ (metric : ComparedMetric) (value : ℚ), metric.value metrics = some value → 0 ≤ value

theorem NonNegative.getD (h : NonNegative baseline) (metric : ComparedMetric) :
    0 ≤ (metric.value baseline).getD 0 := by
  cases hvalue : metric.value baseline with
  | none => exact le_rfl
  | some value => exact h metric value hvalue

/-- A metric that rose from a number that is not negative was measured, and its key is not lost. -/
theorem ComparedMetric.of_regressed (hbaseline : NonNegative baseline) {metric : ComparedMetric}
    (h : (metric.delta baseline current).regressed = true) :
    (metric.delta baseline current).informational = false ∧
      (metric.delta baseline current).bounded = false ∧
      (metric.delta baseline current).keyLost = false ∧
      ((metric.delta baseline current).baselineAbsent = false ∨
        (metric.delta baseline current).currentAbsent = false) := by
  have hpos : (0 : ℚ) < tolerance := by norm_num [tolerance]
  have hnonneg := hbaseline.getD metric
  obtain ⟨hbefore, hafter⟩ : _ = (metric.value baseline).getD 0 ∧ _ = (metric.value current).getD 0 :=
    metric.delta_values
  unfold MetricDelta.regressed at h
  split at h
  · cases h
  split at h
  · cases h
  rename_i hinformational hbounded
  rw [decide_eq_true_eq, hbefore, hafter] at h
  have hsome : metric.value current ≠ none := by
    intro hnone
    rw [hnone, Option.getD_none] at h
    linarith
  have hpresent : (metric.delta baseline current).currentAbsent = false := by
    by_contra habsent
    exact hsome (value_of_absent (by simpa using habsent))
  refine ⟨by simpa using hinformational, by simpa using hbounded, ?_, .inr hpresent⟩
  by_contra hlost
  rw [absent_of_keyLost (by simpa using hlost)] at hpresent
  cases hpresent

end Compared

section Lost

variable {saved run : RunResult}

/-- What a later run did not measure again of a probe. -/
inductive ProbeLost (saved run : RunResult) (probeId : String) : Prop
  | coverage (hsaved : saved.exercises probeId) (hrun : ¬run.exercises probeId)
  | boundary (hrun : run.metrics.userStepsDropped.getD probeId 0 ≠ 0)
      (hsaved : saved.metrics.userStepsDropped.getD probeId 0 = 0)
  | plants (hrun : run.metrics.unconfirmedPlants.getD probeId 0 ≠ 0)
      (hsaved : saved.metrics.unconfirmedPlants.getD probeId 0 = 0)
  | scope (surface : Surface) (hsurface : surface ∈ probeSurfaces.getD probeId [])
      (hsaved : saved.surfaceProvenance.lookup surface = some .live)
      (hrun : run.surfaceProvenance.lookup surface ≠ some .live)
  | geometry (hchanged : embedderChange saved.vectorEmbedder run.vectorEmbedder ≠ none)
      (hscoped : probeId ∈ swapScoped saved ∨ probeId ∈ swapScoped run)

/-- What a later run did not measure again of a surface. -/
inductive SurfaceLost (saved run : RunResult) (surface : Surface) : Prop
  | scope (hsaved : saved.surfaceProvenance.lookup surface = some .live)
      (hrun : run.surfaceProvenance.lookup surface ≠ some .live)
  | scanned (hsaved : surface ∈ saved.metrics.erasureResidue ∨ surface ∈ saved.metrics.erasureCaveats)
      (hresidue : surface ∉ run.metrics.erasureResidue)
      (hcaveats : surface ∉ run.metrics.erasureCaveats)
  | residue (hsaved : surface ∈ saved.metrics.erasureResidue)
      (hrun : surface ∉ run.metrics.erasureResidue)
  | coverage (hsaved : surface ∈ saved.metrics.erasureCoverage)
      (hprovenance : surface ∈ saved.surfaceProvenance) (hrun : surface ∉ run.surfaceProvenance)
  | geometry (hchanged : embedderChange saved.vectorEmbedder run.vectorEmbedder ≠ none)
      (hvector : surface = .vectorDb)

/-- A pair of tenants whose side channel was measured and is not any more. -/
def PairLost (saved run : RunResult) (pair : String) : Prop :=
  pair ∈ saved.metrics.sideChannelEffectSizes ∧ pair ∉ run.metrics.sideChannelEffectSizes

theorem mem_newlyCounted {earlier later : Dict String Int} {key : String} :
    key ∈ newlyCounted earlier later ↔ later.getD key 0 ≠ 0 ∧ earlier.getD key 0 = 0 := by
  rw [newlyCounted, mem_sortedSet, List.mem_filter, ← AList.mem_keys, decide_eq_true_eq,
    and_iff_right_of_imp]
  rintro ⟨hcounted, -⟩
  by_contra habsent
  exact hcounted (by rw [Dict.getD, AList.lookup_eq_none.mpr habsent]; rfl)

theorem mem_scopeLost {surface : Surface} : surface ∈ scopeLost saved run ↔
    saved.surfaceProvenance.lookup surface = some .live ∧
      run.surfaceProvenance.lookup surface ≠ some .live := by
  rw [scopeLost, mem_sortedSet, List.mem_filter, ← AList.mem_keys, decide_eq_true_eq,
    and_iff_right_of_imp]
  rintro ⟨hlive, -⟩
  exact Dict.mem_iff_lookup.mpr ⟨_, hlive⟩

theorem mem_embedderScoped (h : embedderChange saved.vectorEmbedder run.vectorEmbedder ≠ none)
    {probeId : String} : probeId ∈ (diffRuns saved run).embedderScoped ↔
      probeId ∈ swapScoped saved ∨ probeId ∈ swapScoped run := by
  rw [diffRuns]
  simp only [Option.isSome_iff_ne_none.mpr h, if_true, mem_sortedSet, List.mem_append]

/-- What the tags of the metric lines take for the lost probes are those that were lost. -/
theorem mem_lostProbes {probeId : String} (h : ProbeLost saved run probeId) :
    probeId ∈ lostProbes ((diffRuns saved run).coverageLost ++ (diffRuns saved run).embedderScoped)
      ((diffRuns saved run).boundaryLost ++ (diffRuns saved run).plantsLost)
      (diffRuns saved run).scopeLost := by
  simp only [lostProbes, List.mem_append]
  cases h with
  | coverage hsaved hrun =>
    refine .inl (.inl (.inl (mem_sortedSet.mpr (List.mem_filter.mpr ⟨?_, ?_⟩))))
    · exact RunResult.mem_exercisedProbes.mpr hsaved
    · exact decide_eq_true fun hmem => hrun (RunResult.mem_exercisedProbes.mp hmem)
  | boundary hrun hsaved => exact .inl (.inr (.inl (mem_newlyCounted.mpr ⟨hrun, hsaved⟩)))
  | plants hrun hsaved => exact .inl (.inr (.inr (mem_newlyCounted.mpr ⟨hrun, hsaved⟩)))
  | scope surface hsurface hsaved hrun =>
    right
    cases hlookup : probeSurfaces.lookup probeId with
    | none =>
      rw [Dict.getD, hlookup] at hsurface
      cases hsurface
    | some surfaces =>
      rw [Dict.getD, hlookup] at hsurface
      refine List.mem_map.mpr ⟨(probeId, surfaces), List.mem_filter.mpr ⟨?_, ?_⟩, rfl⟩
      · exact Dict.mem_items.mpr hlookup
      · exact List.any_eq_true.mpr
          ⟨surface, hsurface, decide_eq_true (mem_scopeLost.mpr ⟨hsaved, hrun⟩)⟩
  | geometry hchanged hscoped => exact .inl (.inl (.inr ((mem_embedderScoped hchanged).mpr hscoped)))

/-- The surfaces and pairs by which a line can be keyed, as `lostVerdict` takes them. -/
def lostKeys (result : RunDiff) : List String :=
  result.erasureLost.map Surface.value ++ result.scopeLost.map Surface.value ++
    result.sideChannelLost ++
      if result.embedderChanged.isSome then [Surface.vectorDb.value] else []

theorem mem_lostKeys_surface {surface : Surface} (h : SurfaceLost saved run surface) :
    surface.value ∈ lostKeys (diffRuns saved run) := by
  simp only [lostKeys, List.mem_append]
  cases h with
  | scope hsaved hrun =>
    exact .inl (.inl (.inr (List.mem_map_of_mem (mem_scopeLost.mpr ⟨hsaved, hrun⟩))))
  | scanned hsaved hresidue hcaveats =>
    exact .inl (.inl (.inl (List.mem_map_of_mem
      (mem_erasureLost.mpr (.inl ⟨hsaved, hresidue, hcaveats⟩)))))
  | residue hsaved hrun =>
    exact .inl (.inl (.inl (List.mem_map_of_mem
      (mem_erasureLost.mpr (.inr (.inl ⟨hsaved, hrun⟩))))))
  | coverage hsaved hprovenance hrun =>
    exact .inl (.inl (.inl (List.mem_map_of_mem
      (mem_erasureLost.mpr (.inr (.inr ⟨hsaved, hprovenance, hrun⟩))))))
  | geometry hchanged hvector =>
    right
    have hsome : (diffRuns saved run).embedderChanged.isSome = true :=
      Option.isSome_iff_ne_none.mpr hchanged
    rw [hvector, if_pos hsome]
    exact List.mem_singleton_self _

theorem mem_lostKeys_pair {pair : String} (h : PairLost saved run pair) :
    pair ∈ lostKeys (diffRuns saved run) := by
  simp only [lostKeys, List.mem_append]
  refine .inl (.inr (mem_sortedSet.mpr (List.mem_filter.mpr ⟨AList.mem_keys.mp h.1, ?_⟩)))
  exact decide_eq_true h.2

/-- What the label `ok` says of a metric. -/
structure KeptMetric (saved run : RunResult) (metric : ComparedMetric) : Prop where
  measured : (metric.value saved.metrics).isSome = true ∨ (metric.value run.metrics).isSome = true
  probes : ∀ probeId ∈ metric.probes, ¬ProbeLost saved run probeId
  surfaces : ∀ surface ∈ metric.surfaces, ¬SurfaceLost saved run surface
  pairs : ∀ pair ∈ metric.pairs, ¬PairLost saved run pair
  notRisen : (metric.value run.metrics).getD 0 ≤ (metric.value saved.metrics).getD 0 + tolerance

theorem isKeyedBy_key (label key : String) : isKeyedBy (label ++ "[" ++ key ++ "]") key = true := by
  refine decide_eq_true ⟨label.toList, [], ?_⟩
  simp

theorem mapLabel_key {label : String} (h : '[' ∉ label.toList) (key : String) :
    mapLabel (label ++ "[" ++ key ++ "]") = label := by
  have hname : (label ++ "[" ++ key ++ "]").toList =
      label.toList ++ '[' :: (key.toList ++ [']']) := by simp
  rw [mapLabel, hname, takeWhile_ne '[' h, String.ofList_toList]

/-- A probe that feeds a metric is named by its key or by one of the tables. -/
theorem ComparedMetric.probes_named {metric : ComparedMetric} {probeId : String}
    (h : probeId ∈ metric.probes) (baseline current : RunMetrics) :
    isKeyedBy (metric.delta baseline current).name probeId = true ∨
      probeId ∈ headlineMetricProbes.getD (metric.delta baseline current).name [] ∨
        probeId ∈ mapMetricProbes.getD (mapLabel (metric.delta baseline current).name) [] := by
  cases metric with
  | pivotRate => exact .inr (.inl h)
  | poisoningBleedDelta => exact .inr (.inl h)
  | inversionReconstructionRate => exact .inr (.inl h)
  | extractionEfficiency => exact .inr (.inl h)
  | probeFindings key =>
    rw [List.mem_singleton.mp h]
    exact .inl (isKeyedBy_key "per_probe_findings" key)
  | effectSize pair =>
    have hlabel : mapLabel ("side_channel_effect_sizes" ++ "[" ++ pair ++ "]") =
        "side_channel_effect_sizes" := mapLabel_key (by decide) pair
    refine .inr (.inr ?_)
    show probeId ∈ mapMetricProbes.getD
      (mapLabel ("side_channel_effect_sizes" ++ "[" ++ id pair ++ "]")) []
    rw [id_eq, hlabel]
    exact h
  | _ => cases h

/-- The label `ok` is given to what was measured, did not lose what feeds it, and did not rise. -/
theorem keptMetric_of_ok {metric : ComparedMetric}
    (hmetric : metric ∈ comparedMetrics saved.metrics run.metrics)
    (h : lostVerdict (metric.delta saved.metrics run.metrics) (diffRuns saved run) = .ok) :
    KeptMetric saved run metric := by
  have hok := calledOk_of_deltaVerdict h
  constructor
  case measured => exact metric.measured hmetric hok.measured
  case probes =>
    intro probeId hprobe hlost
    have hmem := mem_lostProbes hlost
    rcases ComparedMetric.probes_named hprobe saved.metrics run.metrics with hkey | hheadline | hmap
    · exact Bool.false_ne_true ((hok.probes probeId hmem).symm.trans hkey)
    · exact hok.headline probeId hheadline hmem
    · exact hok.map probeId hmap hmem
  case surfaces =>
    intro surface hsurface hlost
    have hkeyed := hok.keys surface.value (mem_lostKeys_surface hlost)
    cases metric with
    | erasureResidue key =>
      rw [List.mem_singleton.mp hsurface] at hkeyed
      exact Bool.false_ne_true (hkeyed.symm.trans (isKeyedBy_key "erasure_residue" key.value))
    | erasureCaveats key =>
      rw [List.mem_singleton.mp hsurface] at hkeyed
      exact Bool.false_ne_true (hkeyed.symm.trans (isKeyedBy_key "erasure_caveats" key.value))
    | _ => cases hsurface
  case pairs =>
    intro pair hpair hlost
    have hkeyed := hok.keys pair (mem_lostKeys_pair hlost)
    cases metric with
    | effectSize key =>
      rw [List.mem_singleton.mp hpair] at hkeyed
      exact Bool.false_ne_true
        (hkeyed.symm.trans (isKeyedBy_key "side_channel_effect_sizes" key))
    | _ => cases hpair
  case notRisen =>
    have hle := MetricDelta.le_of_not_regressed hok.notRegressed hok.informational hok.bounded
    obtain ⟨hbefore, hafter⟩ :
        _ = (metric.value saved.metrics).getD 0 ∧ _ = (metric.value run.metrics).getD 0 :=
      metric.delta_values
    rwa [hbefore, hafter] at hle

end Lost

section Command

theorem not_namesCause_warning (provenance : Dict Surface SurfaceProvenance) :
    ∀ line ∈ warnOnSyntheticSurfaces provenance, ¬NamesCause line := by
  intro line hline
  apply not_namesCause_of_startsWith (c := 'w') (by decide)
  unfold warnOnSyntheticSurfaces at hline
  split at hline
  · rw [List.mem_singleton.mp hline]
    decide +kernel
  · simp only at hline
    split at hline
    · cases hline
    · rw [List.mem_singleton.mp hline]
      iterate 5 apply startsWith.append
      decide +kernel

theorem not_namesCause_closingLine (result : RunDiff) : ¬NamesCause (closingLine result) := by
  rw [closingLine]
  split
  · exact not_namesCause_of_startsWith (c := 'B') (by decide) (by decide +kernel)
  · exact not_namesCause_of_startsWith (c := 'n') (by decide) (by decide +kernel)

variable [Unicode] {saved run : RunResult}

/-- The lines that are printed are one for each metric, the cause lines, and lines without a tag. -/
theorem compareOutput_lines (saved run : RunResult) : ∃ notes,
    (compareOutput saved run).lines =
      (comparedMetrics saved.metrics run.metrics).map (fun metric =>
        metricLine (diffRuns saved run) (metric.delta saved.metrics run.metrics)) ++
      (causeLines (diffRuns saved run) ++ notes) ∧ ∀ line ∈ notes, ¬NamesCause line := by
  refine ⟨warnOnSyntheticSurfaces run.surfaceProvenance ++ [closingLine (diffRuns saved run)],
    ?_, ?_⟩
  · have hdeltas : (diffRuns saved run).metrics.deltas =
        (comparedMetrics saved.metrics run.metrics).map
          (ComparedMetric.delta saved.metrics run.metrics) := compareMetrics_deltas _ _
    simp only [compareOutput, comparisonLines_eq, hdeltas, List.map_map, List.append_assoc]
    rfl
  · intro line hline
    rcases List.mem_append.mp hline with hwarning | hclosing
    · exact not_namesCause_warning _ line hwarning
    · rw [List.mem_singleton.mp hclosing]
      exact not_namesCause_closingLine _

/-- A metric that rose is labelled so, where no other line names a cause. -/
theorem lostVerdict_of_regressed (hsaved : NonNegative saved.metrics) {metric : ComparedMetric}
    (hregressed : (metric.delta saved.metrics run.metrics).regressed = true)
    (hcauses : causeLines (diffRuns saved run) = []) :
    lostVerdict (metric.delta saved.metrics run.metrics) (diffRuns saved run) = .regressed := by
  obtain ⟨hinformational, hbounded, hkept, hmeasured⟩ :=
    ComparedMetric.of_regressed hsaved hregressed
  obtain ⟨-, -, hcoverage, hscope, hboundary, hplants, herasure, hside, -, hscenario, hembedder⟩ :=
    causeLines_eq_nil.mp hcauses
  have hscoped : (diffRuns saved run).embedderScoped = [] := by
    have hnone : embedderChange saved.vectorEmbedder run.vectorEmbedder = none := hembedder
    simp [diffRuns, hnone]
  rw [lostVerdict, hcoverage, hscope, hboundary, hplants, herasure, hside, hscenario, hembedder,
    hscoped]
  exact deltaVerdict_nothing_lost hbounded hkept hmeasured hinformational hregressed

theorem exists_cause_of_regressed (hsaved : NonNegative saved.metrics)
    (h : (diffRuns saved run).regressed = true) :
    ∃ line ∈ (compareOutput saved run).lines, NamesCause line := by
  obtain ⟨notes, hlines, -⟩ := compareOutput_lines saved run
  rw [hlines]
  by_cases hcauses : causeLines (diffRuns saved run) = []
  · obtain ⟨delta, hdelta, hregressed⟩ := List.any_eq_true.mp
      ((RunDiff.regressed_iff.mp h).resolve_right (not_not.mpr hcauses))
    rw [show (diffRuns saved run).metrics.deltas = _ from compareMetrics_deltas _ _] at hdelta
    obtain ⟨metric, hmetric, rfl⟩ := List.mem_map.mp hdelta
    refine ⟨_, List.mem_append_left _ (List.mem_map_of_mem hmetric), "REGRESSED", by decide, ?_⟩
    rw [tagOf_metricLine, lostVerdict_of_regressed hsaved hregressed hcauses]
    rfl
  · obtain ⟨line, hline⟩ := List.exists_mem_of_ne_nil _ hcauses
    exact ⟨line, List.mem_append_right _ (List.mem_append_left _ hline),
      namesCause_of_mem_causeLines line hline⟩

theorem no_cause_of_not_regressed (h : (diffRuns saved run).regressed = false) :
    ∀ line ∈ (compareOutput saved run).lines, ¬NamesCause line := by
  have hnot : ¬((diffRuns saved run).metrics.regressed = true ∨
      causeLines (diffRuns saved run) ≠ []) := by
    rw [← RunDiff.regressed_iff, h]
    exact Bool.false_ne_true
  obtain ⟨hmetrics, hcauses⟩ := not_or.mp hnot
  obtain ⟨notes, hlines, hnotes⟩ := compareOutput_lines saved run
  rw [hlines, not_not.mp hcauses, List.nil_append]
  intro line hline
  rcases List.mem_append.mp hline with hmetric | hnote
  · obtain ⟨metric, hmem, rfl⟩ := List.mem_map.mp hmetric
    rintro ⟨tag, htag, heq⟩
    rw [tagOf_metricLine] at heq
    have htext : ∀ verdict : DeltaVerdict, verdict.text ∈ causeTags → verdict = .regressed := by
      intro verdict
      cases verdict <;> decide
    have hverdict := htext _ (Option.some.inj heq ▸ htag)
    refine hmetrics (List.any_eq_true.mpr ⟨_, ?_, regressed_of_deltaVerdict hverdict⟩)
    rw [show (diffRuns saved run).metrics.deltas = _ from compareMetrics_deltas _ _]
    exact List.mem_map_of_mem hmem
  · exact hnotes line hnote

/-- A gate that fails names its cause in the output, one that passes names none, and what is called
ok was measured, did not lose what feeds it, and did not rise. -/
theorem compareOutput_sound (saved run : RunResult) :
    (NonNegative saved.metrics → (diffRuns saved run).regressed = true →
      ∃ line ∈ (compareOutput saved run).lines, NamesCause line) ∧
    ((diffRuns saved run).regressed = false →
      ∀ line ∈ (compareOutput saved run).lines, ¬NamesCause line) ∧
    ∀ metric ∈ comparedMetrics saved.metrics run.metrics,
      metricLine (diffRuns saved run) (metric.delta saved.metrics run.metrics) ∈
          (compareOutput saved run).lines ∧
        (tagOf (metricLine (diffRuns saved run) (metric.delta saved.metrics run.metrics)) =
          some "ok" → KeptMetric saved run metric) := by
  refine ⟨exists_cause_of_regressed, no_cause_of_not_regressed, fun metric hmetric => ⟨?_, ?_⟩⟩
  · obtain ⟨notes, hlines, -⟩ := compareOutput_lines saved run
    rw [hlines]
    exact List.mem_append_left _ (List.mem_map_of_mem hmetric)
  · intro htag
    rw [tagOf_metricLine] at htag
    have htext : ∀ verdict : DeltaVerdict, verdict.text = "ok" → verdict = .ok := by
      intro verdict
      cases verdict <;> decide
    exact keptMetric_of_ok hmetric (htext _ (Option.some.inj htag))

end Command

section Sample

attribute [local instance] Unicode.ascii

/-- A record of a run that measured the rate of Class 3. -/
def poisonedRun (rate : ℚ) : RunResult :=
  { runId := "run", scenarioHash := "scenario", manifestHash := "manifest", startedAt := ⟨0, none⟩
    finishedAt := ⟨0, none⟩, metrics := { poisoningBleedDelta := some rate } }

theorem poisonedRun_nonNegative {rate : ℚ} (h : 0 ≤ rate) : NonNegative (poisonedRun rate).metrics := by
  intro metric value hvalue
  cases metric with
  | poisoningBleedDelta => exact Option.some.inj hvalue ▸ h
  | confirmedFindings => exact (Option.some.inj hvalue).le
  | _ => cases hvalue

theorem compareOutput_sound_poisoned :
    ∃ line ∈ (compareOutput (poisonedRun (1 / 10)) (poisonedRun (9 / 10))).lines,
      NamesCause line :=
  (compareOutput_sound (poisonedRun (1 / 10)) (poisonedRun (9 / 10))).1
    (poisonedRun_nonNegative (by norm_num)) (by decide +kernel)

end Sample

end Sectum
