import Sectum.Lib.Raise
import Sectum.Probes.Detection

/-! What the pipeline computes, read without its cache: the score of a marker against an
observation, the outcome of the semantic tier for one marker, and the findings of a detection as the
outcomes of the three tiers. -/

namespace Sectum

open Py

section Cosine

variable [MathSqrt]

theorem cosine_total {left right : Embedding} (h : left.length = right.length) :
    ∃ value, cosine left right = .ok value := by
  unfold cosine
  rw [if_neg (by omega), if_neg (by omega)]
  exact ⟨_, rfl⟩

end Cosine

/-- What the entity index holds after `markers`: a vector for every entity marker, and embeddings
only. -/
structure EntityIndex.Holds (embed : String → Embedding) (markers : List Marker)
    (index : EntityIndex) : Prop where
  complete : ∀ marker ∈ markers, marker.markerType = .entityCanary →
    marker.markerId ∈ index.entityVectors
  entityVectors : ∀ id vector, index.entityVectors.lookup id = some vector →
    ∃ text, vector = embed text
  storedVectors : ∀ ref vector, index.storedVectors.lookup ref = some vector →
    ∃ text, vector = embed text

theorem embeddings_insert {embed : String → Embedding} {d : Dict String Embedding} {key : String}
    {text : String} (h : ∀ id vector, d.lookup id = some vector → ∃ text, vector = embed text) :
    ∀ id vector, (d.set key (embed text)).lookup id = some vector →
      ∃ text, vector = embed text := by
  intro id vector hlook
  by_cases hid : id = key
  · subst hid
    rw [Dict.lookup_set_self] at hlook
    exact ⟨text, (Option.some.inj hlook).symm⟩
  · rw [Dict.lookup_set_ne _ _ hid] at hlook
    exact h id vector hlook

section Pipeline

variable [Unicode]

theorem EntityIndex.Holds.add {embed : String → Embedding} {markers : List Marker}
    {index : EntityIndex} (h : index.Holds embed markers) (marker : Marker) :
    (index.add embed marker).Holds embed (markers ++ [marker]) := by
  unfold EntityIndex.add
  split
  · refine ⟨fun m hm htype => ?_, embeddings_insert h.entityVectors, ?_⟩
    · rw [Dict.mem_set]
      rcases List.mem_append.mp hm with hm | hm
      · exact Or.inr (h.complete m hm htype)
      · exact Or.inl (by rw [List.mem_singleton.mp hm])
    · cases marker.embeddingRef with
      | none => exact h.storedVectors
      | some ref => exact embeddings_insert h.storedVectors
  · rename_i htype
    refine ⟨fun m hm hm' => ?_, h.entityVectors, h.storedVectors⟩
    rcases List.mem_append.mp hm with hm | hm
    · exact h.complete m hm hm'
    · obtain rfl := List.mem_singleton.mp hm
      exact absurd hm' htype

namespace DetectionPipeline

variable (p : DetectionPipeline)

theorem entityIndex_holds : p.entityIndex.Holds p.embed p.markers := by
  have hrun : ∀ (markers seen : List Marker) (index : EntityIndex), index.Holds p.embed seen →
      (markers.foldl (EntityIndex.add p.embed) index).Holds p.embed (seen ++ markers) := by
    intro markers
    induction markers with
    | nil => intro seen index h; simpa using h
    | cons marker markers ih =>
      intro seen index h
      have := ih (seen ++ [marker]) _ (h.add marker)
      simpa using this
  exact hrun p.markers [] {} ⟨by simp, by simp, by simp⟩

omit [Unicode] in
theorem mem_foreign {observer : Principal} {markerType : MarkerType} {marker : Marker} :
    marker ∈ p.foreign observer markerType ↔
      marker ∈ p.markers ∧ marker.markerType = markerType ∧
        isCrossPrincipal marker observer = true := by
  simp [foreign]

theorem markerVector_total {marker : Marker} (hmem : marker ∈ p.markers)
    (htype : marker.markerType = .entityCanary) :
    ∃ text, p.markerVector marker = .ok (p.embed text) := by
  have hindex := p.entityIndex_holds
  unfold markerVector
  cases href : marker.embeddingRef.bind p.entityIndex.storedVectors.lookup with
  | some vector =>
    obtain ⟨ref, -, hlook⟩ := Option.bind_eq_some_iff.mp href
    obtain ⟨text, rfl⟩ := hindex.storedVectors ref vector hlook
    exact ⟨text, rfl⟩
  | none =>
    obtain ⟨vector, hvector⟩ := Dict.mem_iff_lookup.mp (hindex.complete marker hmem htype)
    obtain ⟨text, rfl⟩ := hindex.entityVectors _ vector hvector
    exact ⟨text, by rw [hvector]⟩

/-- A cache that holds only embeddings of its own keys. -/
def CacheValid (cache : WindowCache) : Prop :=
  ∀ window vector, cache.lookup window = some vector → vector = p.embed window

omit [Unicode] in
theorem cacheValid_empty : p.CacheValid ∅ := by
  intro window vector h
  simp at h

omit [Unicode] in
theorem windowVector_valid {cache : WindowCache} (h : p.CacheValid cache) (window : String) :
    (p.windowVector cache window).1 = p.embed window ∧
      p.CacheValid (p.windowVector cache window).2 := by
  unfold windowVector
  cases hlook : cache.lookup window with
  | some vector => exact ⟨h window vector hlook, h⟩
  | none =>
    refine ⟨rfl, fun key vector hkey => ?_⟩
    by_cases heq : key = window
    · subst heq
      simpa using hkey.symm
    · rw [Dict.lookup_set_ne _ _ heq] at hkey
      exact h key vector hkey

/-- The confidence that the semantic tier gives a marker of this score. -/
def confidence (text : String) (marker : Marker) (score : ℚ) : ℚ :=
  if isVerbatim text marker then 1 else roundTo 4 (min 1 score)

theorem validConfidence_confidence (text : String) (marker : Marker) {score : ℚ} (h : 0 ≤ score) :
    ∃ unit : UnitRat, validConfidence (confidence text marker score) = .ok unit ∧
      unit.val = confidence text marker score := by
  have hunit : 0 ≤ confidence text marker score ∧ confidence text marker score ≤ 1 := by
    unfold confidence
    split
    · norm_num
    · exact roundTo_mem_unit 4 (le_min (by norm_num) h) (min_le_left _ _)
  exact ⟨⟨_, hunit⟩, by rw [validConfidence, dif_pos hunit], rfl⟩

variable [MathSqrt]

def scoreWindows (vector : Embedding) : List (List String) → ℚ → Except PyError ℚ
  | [], best => .ok best
  | window :: windows, best => do
    let similarity ← cosine (p.embed (join " " window)) vector
    scoreWindows vector windows (max best similarity)

def score (text : String) (marker : Marker) : Except PyError ℚ := do
  let vector ← p.markerVector marker
  p.scoreWindows vector (tokenWindows (tokenize text) (tokenize marker.plaintext).length) 0

omit [Unicode] in
/-- The cache is transparent to the window loop. -/
theorem bestWindow_eq (vector : Embedding) (windows : List (List String)) (best : ℚ)
    {cache : WindowCache} (h : p.CacheValid cache) :
    ∃ cache', p.CacheValid cache' ∧ p.bestWindow vector windows best cache =
      (p.scoreWindows vector windows best).map fun score => (score, cache') := by
  induction windows generalizing best cache with
  | nil => exact ⟨cache, h, rfl⟩
  | cons window windows ih =>
    obtain ⟨hvector, hvalid⟩ := p.windowVector_valid h (join " " window)
    rw [bestWindow, scoreWindows]
    simp only [hvector]
    cases cosine (p.embed (join " " window)) vector with
    | error e => exact ⟨cache, h, rfl⟩
    | ok similarity => exact ih (max best similarity) hvalid

theorem bestWindowSimilarity_eq (text : String) (marker : Marker) {cache : WindowCache}
    (h : p.CacheValid cache) :
    ∃ cache', p.CacheValid cache' ∧ p.bestWindowSimilarity (tokenize text) marker cache =
      (p.score text marker).map fun score => (score, cache') := by
  unfold bestWindowSimilarity score
  cases p.markerVector marker with
  | error e => exact ⟨cache, h, rfl⟩
  | ok vector => exact p.bestWindow_eq vector _ 0 h

omit [Unicode] in
theorem le_scoreWindows {vector : Embedding} {windows : List (List String)} {best score : ℚ}
    (h : p.scoreWindows vector windows best = .ok score) : best ≤ score := by
  induction windows generalizing best with
  | nil => exact (Except.ok.inj h).le
  | cons window windows ih =>
    rw [scoreWindows] at h
    cases hcos : cosine (p.embed (join " " window)) vector with
    | error e =>
      rw [hcos] at h
      cases h
    | ok similarity =>
      rw [hcos] at h
      exact (le_max_left best similarity).trans (ih h)

theorem score_nonneg {text : String} {marker : Marker} {score : ℚ}
    (h : p.score text marker = .ok score) : 0 ≤ score := by
  unfold DetectionPipeline.score at h
  cases hvector : p.markerVector marker with
  | error e =>
    rw [hvector] at h
    cases h
  | ok vector =>
    rw [hvector] at h
    exact p.le_scoreWindows h

variable (observer : Principal) (text : String) (surface : Surface) (probeId : String)

/-- The finding of the semantic tier for a marker that it asks about. -/
def semanticFinding (marker : Marker) (confidence : UnitRat) : Finding :=
  finding marker observer surface probeId
    (if p.isConfirmed text marker then .high else .info) confidence
    (if p.isConfirmed text marker then .confirmed else .unverified) (p.evidence text marker)

omit [MathSqrt] in
theorem status_semanticFinding (marker : Marker) (confidence : UnitRat) :
    (p.semanticFinding observer text surface probeId marker confidence).status =
      if p.isConfirmed text marker then .confirmed else .unverified := rfl

/-- The semantic tier reports `found` for a marker of this score: nothing, or one finding. -/
def Reports (marker : Marker) (score : ℚ) (found : Option Finding) : Prop :=
  if isPresent text marker = true ∨ p.threshold ≤ score then
    ∃ unit : UnitRat, unit.val = confidence text marker score ∧
      found = some (p.semanticFinding observer text surface probeId marker unit)
  else found = none

variable {observer text surface probeId}

omit [MathSqrt] in
theorem Reports.unique {marker : Marker} {score : ℚ} {found found' : Option Finding}
    (h : p.Reports observer text surface probeId marker score found)
    (h' : p.Reports observer text surface probeId marker score found') : found = found' := by
  unfold Reports at h h'
  split at h
  · rw [if_pos ‹_›] at h'
    obtain ⟨unit, hval, rfl⟩ := h
    obtain ⟨unit', hval', rfl⟩ := h'
    rw [Subtype.ext (hval.trans hval'.symm)]
  · rw [if_neg ‹_›] at h'
    rw [h, h']

theorem semanticMarker_spec (marker : Marker) {cache : WindowCache} (h : p.CacheValid cache) :
    (∃ e, p.score text marker = .error e ∧
      p.semanticMarker observer text surface probeId marker cache = .error e) ∨
    ∃ score found cache', p.score text marker = .ok score ∧ p.CacheValid cache' ∧
      p.Reports observer text surface probeId marker score found ∧
      p.semanticMarker observer text surface probeId marker cache = .ok (found, cache') := by
  obtain ⟨cache', hvalid, hsim⟩ := p.bestWindowSimilarity_eq text marker h
  unfold semanticMarker
  rw [hsim]
  cases hscore : p.score text marker with
  | error e => exact Or.inl ⟨e, rfl, rfl⟩
  | ok score =>
    right
    obtain ⟨unit, hunit, hval⟩ :=
      validConfidence_confidence text marker (p.score_nonneg hscore)
    by_cases hgate : isPresent text marker = true ∨ p.threshold ≤ score
    · have hskip : ¬((!isPresent text marker && decide (score < p.threshold)) = true) := by
        rcases hgate with hp | hp <;> simp [hp]
      refine ⟨score, _, cache', rfl, hvalid, by rw [Reports, if_pos hgate]; exact ⟨unit, hval, rfl⟩,
        ?_⟩
      show (if _ then _ else _) = _
      rw [if_neg hskip]
      rw [confidence] at hunit
      simp only [hunit]
      rfl
    · have hskip : (!isPresent text marker && decide (score < p.threshold)) = true := by
        rw [not_or, not_le, Bool.not_eq_true] at hgate
        simp [hgate.1, hgate.2]
      refine ⟨score, none, cache', rfl, hvalid, by rw [Reports, if_neg hgate], ?_⟩
      show (if _ then _ else _) = _
      rw [if_pos hskip]
      rfl

theorem mem_semanticLoop {markers : List Marker} {cache : WindowCache} {fs : List Finding}
    (hc : p.CacheValid cache)
    (h : p.semanticLoop observer text surface probeId markers cache = .ok fs) (f : Finding) :
    f ∈ fs ↔ ∃ marker ∈ markers, ∃ score, p.score text marker = .ok score ∧
      p.Reports observer text surface probeId marker score (some f) := by
  induction markers generalizing cache fs with
  | nil =>
    obtain rfl := Except.ok.inj h
    simp
  | cons marker markers ih =>
    rw [semanticLoop] at h
    obtain ⟨⟨found, cache'⟩, hmarker, h⟩ := bind_eq_ok.mp h
    obtain ⟨rest, hrest, h⟩ := bind_eq_ok.mp h
    obtain rfl := Except.ok.inj h
    rcases p.semanticMarker_spec marker hc with ⟨e, -, hraise⟩ |
      ⟨score, found', cache'', hscore, hvalid, hreport, hrun⟩
    · rw [hraise] at hmarker
      cases hmarker
    · rw [hrun] at hmarker
      obtain ⟨rfl, rfl⟩ := Prod.mk.inj (Except.ok.inj hmarker)
      have hhead : f ∈ found'.toList ↔ ∃ score, p.score text marker = .ok score ∧
          p.Reports observer text surface probeId marker score (some f) := by
        rw [Option.mem_toList]
        constructor
        · rintro rfl
          exact ⟨score, hscore, hreport⟩
        · rintro ⟨score', hscore', hreport'⟩
          rw [hscore] at hscore'
          obtain rfl := Except.ok.inj hscore'
          exact Reports.unique p hreport hreport'
      rw [List.mem_append, hhead, ih hvalid hrest, List.exists_mem_cons_iff]

theorem semanticLoop_total {markers : List Marker} {cache : WindowCache} (hc : p.CacheValid cache)
    (hscore : ∀ marker ∈ markers, ∃ score, p.score text marker = .ok score) :
    ∃ fs, p.semanticLoop observer text surface probeId markers cache = .ok fs := by
  induction markers generalizing cache with
  | nil => exact ⟨[], rfl⟩
  | cons marker markers ih =>
    obtain ⟨score, hs⟩ := hscore marker List.mem_cons_self
    rcases p.semanticMarker_spec marker hc with ⟨e, hraise, -⟩ |
      ⟨score', found, cache', -, hvalid, -, hrun⟩
    · rw [hs] at hraise
      cases hraise
    · obtain ⟨rest, hrest⟩ := ih hvalid fun m hm => hscore m (List.mem_cons_of_mem _ hm)
      refine ⟨found.toList ++ rest, ?_⟩
      rw [semanticLoop, hrun]
      exact bind_eq_ok.mpr ⟨_, rfl, bind_eq_ok.mpr ⟨rest, hrest, rfl⟩⟩

/-- A finding of a detection, before the stamp: the tier that reported it and the marker it is
about. -/
inductive Source (observer : Principal) (text : String) (surface : Surface) (probeId : String) :
    Marker → Finding → Prop
  | exact {marker : Marker} (hmem : marker ∈ p.foreign observer .hardCanary)
      (hcarried : residualPresent marker.plaintext text = true) :
      Source observer text surface probeId marker (finding marker observer surface probeId
        .critical UnitRat.one .confirmed marker.plaintext)
  | secret {marker : Marker} (hmem : marker ∈ p.foreign observer .secretCanary)
      (hcarried : carriesSecret marker text = true) :
      Source observer text surface probeId marker (finding marker observer surface probeId
        .critical UnitRat.one .confirmed (redactSecret marker.plaintext))
  | semantic {marker : Marker} {unit : UnitRat} {score : ℚ}
      (hmem : marker ∈ p.foreign observer .entityCanary)
      (hscore : p.score text marker = .ok score)
      (hconsidered : isPresent text marker = true ∨ p.threshold ≤ score)
      (hunit : unit.val = confidence text marker score) :
      Source observer text surface probeId marker
        (p.semanticFinding observer text surface probeId marker unit)

/-- A detection that returns gives exactly the findings that have a source, stamped. -/
theorem mem_detect {stamp : ControlStamp} {fs : List Finding}
    (h : p.detect observer text surface probeId stamp = .ok fs) (f : Finding) :
    f ∈ fs ↔ ∃ marker found, p.Source observer text surface probeId marker found ∧
      f = restamp stamp found := by
  obtain ⟨semanticFindings, hsemantic, h⟩ := bind_eq_ok.mp h
  obtain rfl := Except.ok.inj h
  have hloop := p.mem_semanticLoop p.cacheValid_empty hsemantic
  simp only [List.mem_map, List.mem_append, hloop]
  constructor
  · rintro ⟨found, (hexact | hsecret) | ⟨marker, hmem, score, hscore, hreport⟩, rfl⟩
    · obtain ⟨marker, hmarker, rfl⟩ := List.mem_map.mp hexact
      obtain ⟨hmem, hcarried⟩ := List.mem_filter.mp hmarker
      exact ⟨marker, _, .exact hmem hcarried, rfl⟩
    · obtain ⟨marker, hmarker, rfl⟩ := List.mem_map.mp hsecret
      obtain ⟨hmem, hcarried⟩ := List.mem_filter.mp hmarker
      exact ⟨marker, _, .secret hmem hcarried, rfl⟩
    · unfold Reports at hreport
      split at hreport
      · obtain ⟨unit, hunit, hfound⟩ := hreport
        obtain rfl := Option.some.inj hfound
        exact ⟨marker, _, .semantic hmem hscore ‹_› hunit, rfl⟩
      · cases hreport
  · rintro ⟨marker, found, hsource, rfl⟩
    refine ⟨found, ?_, rfl⟩
    cases hsource with
    | exact hmem hcarried =>
      exact Or.inl (Or.inl (List.mem_map.mpr ⟨marker, List.mem_filter.mpr ⟨hmem, hcarried⟩, rfl⟩))
    | secret hmem hcarried =>
      exact Or.inl (Or.inr (List.mem_map.mpr ⟨marker, List.mem_filter.mpr ⟨hmem, hcarried⟩, rfl⟩))
    | semantic hmem hscore hconsidered hunit =>
      refine Or.inr ⟨marker, hmem, _, hscore, ?_⟩
      rw [Reports, if_pos hconsidered]
      exact ⟨_, hunit, rfl⟩

section FixedDimension

variable {provider : EmbeddingProvider} (hembed : p.embed = provider.embed)
include hembed

theorem score_total {marker : Marker} (hmem : marker ∈ p.markers)
    (htype : marker.markerType = .entityCanary) : ∃ score, p.score text marker = .ok score := by
  obtain ⟨source, hvector⟩ := p.markerVector_total hmem htype
  have hwindows : ∀ windows best, ∃ score,
      p.scoreWindows (p.embed source) windows best = .ok score := by
    intro windows
    induction windows with
    | nil => exact fun best => ⟨best, rfl⟩
    | cons window windows ih =>
      intro best
      have hlength : (p.embed (join " " window)).length = (p.embed source).length := by
        rw [hembed, provider.embed_length, provider.embed_length]
      obtain ⟨similarity, hcos⟩ := cosine_total hlength
      obtain ⟨score, hrest⟩ := ih (max best similarity)
      exact ⟨score, by rw [scoreWindows, hcos]; exact hrest⟩
  unfold DetectionPipeline.score
  rw [hvector]
  exact hwindows _ 0

/-- With vectors of one dimension a detection returns. -/
theorem detect_total (stamp : ControlStamp) :
    ∃ fs, p.detect observer text surface probeId stamp = .ok fs := by
  have hscores : ∀ marker ∈ p.foreign observer .entityCanary,
      ∃ score, p.score text marker = .ok score := by
    intro marker hmarker
    obtain ⟨hmem, htype, -⟩ := p.mem_foreign.mp hmarker
    exact p.score_total hembed hmem htype
  have hloop : ∃ fs, p.semanticLoop observer text surface probeId
      (p.foreign observer .entityCanary) ∅ = .ok fs :=
    p.semanticLoop_total p.cacheValid_empty hscores
  obtain ⟨semanticFindings, hloop⟩ := hloop
  unfold detect semantic
  rw [hloop]
  exact ⟨_, rfl⟩

end FixedDimension

end DetectionPipeline

end Pipeline

end Sectum
