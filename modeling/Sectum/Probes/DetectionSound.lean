import Sectum.Probes.Dedupe
import Sectum.Probes.DetectionSpec

/-! Soundness and completeness of detection against an arbitrary judge: a confirmed finding rests on
a foreign marker that the text itself carries, and a foreign marker that the text shows is confirmed
whatever the judge, the embedder and the threshold say, also after deduplication. -/

namespace Sectum

open Py

namespace DetectionPipeline

section Sound

variable [Unicode]

theorem carriesSecret_iff {marker : Marker} {text : String} :
    carriesSecret marker text = true ↔ residualPresent marker.plaintext text = true ∨
      normalizeForMatch marker.plaintext ≠ "" ∧ ∃ token ∈ credentialMatches text,
        normalizeForMatch token = normalizeForMatch marker.plaintext := by
  simp [carriesSecret]

theorem spanTiesToMarker_token {text span : String} {marker : Marker} {boilerplate : List String}
    (h : spanTiesToMarker text span marker boilerplate = true) :
    ∃ token ∈ tokenize marker.plaintext, token ∈ tokenize text ∧
      ¬token.toList.all Char.isDigit = true ∧ token ∉ boilerplate := by
  unfold spanTiesToMarker at h
  simp only [Bool.or_eq_true, List.isEmpty_iff] at h
  split at h
  · cases h
  · rename_i hnonempty
    rw [not_or] at hnonempty
    obtain ⟨token, htoken⟩ := List.exists_mem_of_ne_nil _ hnonempty.2
    obtain ⟨hspan, hcond⟩ := List.mem_filter.mp htoken
    rw [decide_eq_true_eq] at hcond
    obtain ⟨hmarker, hboilerplate, hdigits⟩ := hcond
    have hwithin := orderedWithinSpan_iff.mp h
    exact ⟨token, hmarker, hwithin.subset hspan, hdigits, hboilerplate⟩

variable (p : DetectionPipeline)

/-- The text itself carries the marker, in the sense of the marker's tier. -/
def Carries (text : String) (marker : Marker) : Prop :=
  match marker.markerType with
  | .hardCanary => residualPresent marker.plaintext text = true
  | .secretCanary =>
    residualPresent marker.plaintext text = true ∨
      ∃ token ∈ credentialMatches text,
        normalizeForMatch token = normalizeForMatch marker.plaintext
  | .entityCanary =>
    residualPresent marker.plaintext text = true ∨
      (tokenize text).OccursWithin 1 (tokenize marker.plaintext) ∨
      ∃ token ∈ tokenize marker.plaintext, token ∈ tokenize text ∧
        ¬token.toList.all Char.isDigit = true ∧ token ∉ p.entityBoilerplate

theorem isPresent_iff {text : String} {marker : Marker} :
    isPresent text marker = true ↔ residualPresent marker.plaintext text = true ∨
      (tokenize text).OccursWithin 1 (tokenize marker.plaintext) := by
  unfold isPresent isVerbatim
  rw [Bool.or_eq_true, orderedWithinSpan_iff]
  rfl

theorem carries_of_isConfirmed {text : String} {marker : Marker}
    (htype : marker.markerType = .entityCanary) (h : p.isConfirmed text marker = true) :
    p.Carries text marker := by
  simp only [Carries, htype]
  unfold isConfirmed at h
  rcases Bool.or_eq_true_iff.mp h with hpresent | hjudged
  · rcases isPresent_iff.mp hpresent with hverbatim | hwithin
    · exact Or.inl hverbatim
    · exact Or.inr (Or.inl hwithin)
  · have htrace := (Bool.and_eq_true_iff.mp hjudged).2
    unfold spanTraceable at htrace
    simp only at htrace
    split at htrace
    · rename_i hordered
      have hwithin := orderedWithinSpan_iff.mp (Bool.and_eq_true_iff.mp hordered).2
      exact Or.inr (Or.inl hwithin)
    · exact Or.inr (Or.inr (spanTiesToMarker_token htrace))

variable [MathSqrt] {observer : Principal} {text : String} {surface : Surface} {probeId : String}

theorem Source.carries {marker : Marker} {f : Finding}
    (h : p.Source observer text surface probeId marker f) (hconfirmed : f.status = .confirmed) :
    p.Carries text marker := by
  cases h with
  | exact hmem hcarried =>
    obtain ⟨-, htype, -⟩ := p.mem_foreign.mp hmem
    simpa only [Carries, htype] using hcarried
  | secret hmem hcarried =>
    obtain ⟨-, htype, -⟩ := p.mem_foreign.mp hmem
    simp only [Carries, htype]
    rcases carriesSecret_iff.mp hcarried with hresidual | ⟨-, htoken⟩
    · exact Or.inl hresidual
    · exact Or.inr htoken
  | semantic hmem _ _ _ =>
    obtain ⟨-, htype, -⟩ := p.mem_foreign.mp hmem
    apply p.carries_of_isConfirmed htype
    by_contra hno
    rw [status_semanticFinding, if_neg hno] at hconfirmed
    cases hconfirmed

theorem Source.foreign {marker : Marker} {f : Finding}
    (h : p.Source observer text surface probeId marker f) :
    marker ∈ p.markers ∧ isCrossPrincipal marker observer = true := by
  cases h with
  | exact hmem _ | secret hmem _ | semantic hmem _ _ _ =>
    obtain ⟨hmarkers, -, hcross⟩ := p.mem_foreign.mp hmem
    exact ⟨hmarkers, hcross⟩

theorem Source.fields {marker : Marker} {f : Finding}
    (h : p.Source observer text surface probeId marker f) :
    f.markerId = some marker.markerId ∧ f.observedInTenantId = observer.tenantId ∧
      f.observedInUserId = observer.userId ∧ f.surface = surface := by
  cases h <;> exact ⟨rfl, rfl, rfl, rfl⟩

/-- A confirmed finding names a foreign marker of the manifest that the text itself carries. -/
theorem detect_sound {stamp : ControlStamp} {fs : List Finding}
    (h : p.detect observer text surface probeId stamp = .ok fs) :
    ∀ f ∈ fs, f.status = .confirmed → ∃ marker ∈ p.markers,
      f.markerId = some marker.markerId ∧ isCrossPrincipal marker observer = true ∧
        p.Carries text marker := by
  intro f hf hconfirmed
  obtain ⟨marker, found, hsource, rfl⟩ := (p.mem_detect h f).mp hf
  obtain ⟨hmem, hcross⟩ := hsource.foreign
  exact ⟨marker, hmem, hsource.fields.1, hcross, hsource.carries p hconfirmed⟩

end Sound

section Sample

attribute [local instance] Unicode.ascii MathSqrt.exact

def onyx : Marker :=
  { markerId := "entity-onyx", markerType := .entityCanary, ownerTenantId := ⟨1⟩
    plaintext := "Project Onyx-00002" }

/-- A judge that says yes to everything and cites the word it goes by. -/
def onyxPipeline : DetectionPipeline :=
  { markers := [onyx], embed := fun _ => [1], threshold := 1 / 2
    judge := fun _ _ => { leak := true, rationale := "it names onyx", evidenceSpan := "onyx" } }

def onyxFindings : List Finding :=
  [restamp {} (onyxPipeline.semanticFinding ⟨⟨2⟩, none⟩ "the onyx deal" .api "manual" onyx
    UnitRat.one)]

theorem onyxPipeline_detect :
    onyxPipeline.detect ⟨⟨2⟩, none⟩ "the onyx deal" .api "manual" {} = .ok onyxFindings := by
  decide +kernel

theorem detect_sound_onyx : ∃ f ∈ onyxFindings, f.status = .confirmed ∧
    ∃ marker ∈ onyxPipeline.markers, f.markerId = some marker.markerId ∧
      isCrossPrincipal marker ⟨⟨2⟩, none⟩ = true ∧ onyxPipeline.Carries "the onyx deal" marker := by
  have hconfirmed : ∃ f ∈ onyxFindings, f.status = .confirmed := by decide +kernel
  obtain ⟨f, hf, hstatus⟩ := hconfirmed
  exact ⟨f, hf, hstatus, detect_sound onyxPipeline onyxPipeline_detect f hf hstatus⟩

end Sample

section Complete

variable [Unicode] [MathSqrt] {observer : Principal} {text : String} {surface : Surface}
  {probeId : String}

/-- The text shows the marker: verbatim, or, for an entity, with one interposed token. -/
def Shows (text : String) (marker : Marker) : Prop :=
  residualPresent marker.plaintext text = true ∨
    marker.markerType = .entityCanary ∧
      (tokenize text).OccursWithin 1 (tokenize marker.plaintext)

theorem Shows.source (p : DetectionPipeline) {marker : Marker} (hmem : marker ∈ p.markers)
    (hcross : isCrossPrincipal marker observer = true) (hshows : Shows text marker)
    (hscore : marker.markerType = .entityCanary → ∃ score, p.score text marker = .ok score) :
    ∃ f, p.Source observer text surface probeId marker f ∧ f.status = .confirmed := by
  cases htype : marker.markerType with
  | hardCanary =>
    rcases hshows with hresidual | ⟨hentity, -⟩
    · exact ⟨_, .exact (p.mem_foreign.mpr ⟨hmem, htype, hcross⟩) hresidual, rfl⟩
    · rw [htype] at hentity
      cases hentity
  | secretCanary =>
    rcases hshows with hresidual | ⟨hentity, -⟩
    · have hcarried := carriesSecret_iff.mpr (Or.inl hresidual)
      exact ⟨_, .secret (p.mem_foreign.mpr ⟨hmem, htype, hcross⟩) hcarried, rfl⟩
    · rw [htype] at hentity
      cases hentity
  | entityCanary =>
    obtain ⟨score, hscore⟩ := hscore htype
    have hpresent : isPresent text marker = true := by
      rw [isPresent_iff]
      exact hshows.imp id And.right
    obtain ⟨unit, -, hunit⟩ :=
      validConfidence_confidence text marker (p.score_nonneg hscore)
    refine ⟨_, .semantic (p.mem_foreign.mpr ⟨hmem, htype, hcross⟩) hscore (Or.inl hpresent) hunit,
      ?_⟩
    rw [status_semanticFinding, if_pos]
    simp [isConfirmed, hpresent]

/-- No judge, embedder or threshold can unmake an observed leak, and no other finding can either,
when findings are deduplicated. -/
theorem detect_complete (markers : List Marker) (provider : EmbeddingProvider) (judge : Judge)
    (threshold : ℚ) (stamp : ControlStamp) {marker : Marker} (hmem : marker ∈ markers)
    (hcross : isCrossPrincipal marker observer = true) (hshows : Shows text marker) :
    ∃ fs, detect ⟨markers, provider.embed, judge, threshold⟩ observer text surface probeId stamp =
        .ok fs ∧
      ∃ f ∈ fs, f.status = .confirmed ∧ f.markerId = some marker.markerId ∧
        f.observedInTenantId = observer.tenantId ∧ f.observedInUserId = observer.userId ∧
        f.surface = surface ∧
        ∀ before after, (∃ kept ∈ dedupeFindings (before ++ fs ++ after),
            kept.findingId = f.findingId) ∧
          ∀ kept ∈ dedupeFindings (before ++ fs ++ after), kept.findingId = f.findingId →
            kept.status = .confirmed := by
  let p : DetectionPipeline := ⟨markers, provider.embed, judge, threshold⟩
  have hembed : p.embed = provider.embed := rfl
  obtain ⟨fs, hfs⟩ : ∃ fs, p.detect observer text surface probeId stamp = .ok fs :=
    p.detect_total hembed stamp
  obtain ⟨found, hsource, hconfirmed⟩ : ∃ found,
      p.Source observer text surface probeId marker found ∧ found.status = .confirmed :=
    hshows.source p hmem hcross fun htype => p.score_total hembed hmem htype
  have hmemFs : restamp stamp found ∈ fs := (p.mem_detect hfs _).mpr ⟨marker, found, hsource, rfl⟩
  obtain ⟨hmarker, htenant, huser, hsurface⟩ := hsource.fields
  refine ⟨fs, hfs, restamp stamp found, hmemFs, hconfirmed, hmarker, htenant, huser, hsurface, ?_⟩
  intro before after
  have hall : restamp stamp found ∈ before ++ fs ++ after :=
    List.mem_append_left _ (List.mem_append_right _ hmemFs)
  refine ⟨exists_mem_dedupeFindings hall, fun kept hkept hid => ?_⟩
  rw [dedupeFindings_confirmed hkept]
  exact ⟨restamp stamp found, hall, hid.symm, hconfirmed⟩

end Complete

section Sample

attribute [local instance] Unicode.ascii MathSqrt.exact

/-- An embedder that tells nothing apart. -/
def flatProvider : EmbeddingProvider := ⟨1, fun _ => [1], fun _ => rfl⟩

/-- A judge that denies everything, at a threshold that nothing reaches. -/
theorem detect_complete_onyx :
    ∃ fs, detect ⟨[onyx], flatProvider.embed, fun _ _ => ⟨false, "no", ""⟩, 2⟩ ⟨⟨2⟩, none⟩
        "a Project called Onyx 00002" .api "manual" {} = .ok fs ∧
      ∃ f ∈ fs, f.status = .confirmed ∧ f.markerId = some onyx.markerId ∧
        f.observedInTenantId = ⟨2⟩ ∧ f.observedInUserId = none ∧ f.surface = .api ∧
        ∀ before after, (∃ kept ∈ dedupeFindings (before ++ fs ++ after),
            kept.findingId = f.findingId) ∧
          ∀ kept ∈ dedupeFindings (before ++ fs ++ after), kept.findingId = f.findingId →
            kept.status = .confirmed := by
  have hshows : Shows "a Project called Onyx 00002" onyx :=
    Or.inr ⟨rfl, orderedWithinSpan_iff.mp (by decide +kernel)⟩
  exact detect_complete [onyx] flatProvider _ 2 {} List.mem_cons_self (by decide) hshows

end Sample

end DetectionPipeline

end Sectum
