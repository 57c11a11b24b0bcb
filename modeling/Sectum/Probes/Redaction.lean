import Sectum.Core.Markers
import Sectum.Lib.Framed
import Sectum.Probes.DetectionSound

/-! When the evidence of a detection keeps the secrets of the manifest out.  The evidence of a finding
is a plaintext of the manifest, a span that the judge cites or the judge's rationale, and the stock
texts that the pipeline sets around them.  The stock texts add no secret of an issued shape, and a
mask shows none; but no secret is masked in a span, a rationale or another plaintext. -/

namespace Sectum

open Py

namespace DetectionPipeline

/-- No secret of the manifest that is longer than four characters is part of the string. -/
def SecretFree (p : DetectionPipeline) (s : String) : Prop :=
  ∀ secret ∈ p.markers, secret.markerType = .secretCanary → 4 < secret.plaintext.length →
    isIn secret.plaintext s = false

/-- What redaction promises of the findings of a detection. -/
def Redacted (p : DetectionPipeline) (fs : List Finding) : Prop :=
  ∀ f ∈ fs, p.SecretFree f.evidenceSpan

section Frames

variable (p : DetectionPipeline) {before body after : String}

/-- No secret of the manifest takes characters of the texts around the body. -/
def FrameFree (before body after : String) : Prop :=
  ∀ secret ∈ p.markers, secret.markerType = .secretCanary → 4 < secret.plaintext.length →
    ¬Borrows secret.plaintext before body after

theorem secretFree_framed : p.SecretFree (before ++ body ++ after) ↔
    p.SecretFree body ∧ p.FrameFree before body after := by
  constructor
  · intro h
    have hboth := fun secret hmem htype hlength =>
      isIn_framed_eq_false.mp (h secret hmem htype hlength)
    exact ⟨fun secret hmem htype hlength => (hboth secret hmem htype hlength).1,
      fun secret hmem htype hlength => (hboth secret hmem htype hlength).2⟩
  · rintro ⟨hbody, hframe⟩ secret hmem htype hlength
    exact isIn_framed_eq_false.mpr
      ⟨hbody secret hmem htype hlength, hframe secret hmem htype hlength⟩

def elision : String := "...[redacted]"

def interposedBefore : String := "the foreign marker "

def interposedAfter : String :=
  " appears in the " ++
    "observation with an interposed word, so it is present but not a verbatim substring"

def downgradedBefore : String :=
  "judge affirmed a leak but its cited evidence is not traceable " ++
    "in the observation; downgraded to a candidate: "

theorem redactSecret_eq (plaintext : String) :
    redactSecret plaintext = "" ++ sliceTo 4 plaintext ++ elision := by
  rw [String.empty_append]
  rfl

theorem interposedEvidence_eq [Unicode] (marker : Marker) :
    interposedEvidence marker = interposedBefore ++ Py.repr marker.plaintext ++ interposedAfter := by
  unfold interposedEvidence
  rw [String.append_assoc]
  rfl

theorem downgradedEvidence_eq (rationale : String) :
    downgradedEvidence rationale = downgradedBefore ++ rationale ++ "" := by
  rw [String.append_empty]
  rfl

/-- Four characters hold no secret of more than four. -/
theorem secretFree_sliceTo (plaintext : String) : p.SecretFree (sliceTo 4 plaintext) := by
  intro secret _ _ hlength
  refine decide_eq_false fun hin => ?_
  have hle := hin.length_le
  rw [sliceTo, String.toList_ofList, List.length_take, String.length_toList] at hle
  omega

/-- A mask shows a secret exactly when the secret takes characters of the elision. -/
theorem secretFree_redactSecret (plaintext : String) :
    p.SecretFree (redactSecret plaintext) ↔ p.FrameFree "" (sliceTo 4 plaintext) elision := by
  rw [redactSecret_eq, secretFree_framed]
  exact and_iff_right (p.secretFree_sliceTo plaintext)

end Frames

section Plain

def stockTexts : List String := [elision, interposedBefore, interposedAfter, downgradedBefore]

/-- The characters at the seams of the stock texts and of a quotation. -/
def seams : List Char := ['.', ' ', '\'']

/-- The characters that tell the issued shapes from the stock texts. -/
def brands : List Char := ['-', 'A', '9']

/-- A secret that is part of no stock text and lacks the characters at their seams. -/
structure Plain (secret : String) : Prop where
  ne_empty : secret ≠ ""
  no_seam : ∀ c ∈ secret.toList, c ∉ seams
  stock : ∀ text ∈ stockTexts, isIn secret text = false

variable {secret : String} (h : Plain secret)

include h in
theorem Plain.not_borrows {before after body : String}
    (hbefore : isIn secret before = false) (hafter : isIn secret after = false)
    (hlast : (before.toList.getLast?.all fun c => c ∈ seams) = true)
    (hhead : (after.toList.head?.all fun c => c ∈ seams) = true) :
    ¬Borrows secret before body after := by
  have hseam : ∀ {o : Option Char}, (o.all fun c => c ∈ seams) = true →
      ∀ c ∈ o, c ∉ secret.toList := fun hall c hc hmem =>
    h.no_seam c hmem (of_decide_eq_true ((Option.all_eq_true _ _).mp hall c hc))
  exact Py.not_borrows hbefore hafter (hseam hlast) (hseam hhead)

include h in
theorem Plain.not_isIn_quote : isIn secret "'" = false := by
  obtain ⟨c, hc⟩ := List.exists_mem_of_ne_nil secret.toList
    fun hnil => h.ne_empty (String.toList_eq_nil_iff.mp hnil)
  refine isIn_eq_false_of_mem hc fun hquote => h.no_seam c hc ?_
  rw [List.mem_singleton.mp (show c ∈ ['\''] from hquote)]
  decide

/-- The secrets of the manifest are plain. -/
def PlainSecrets (p : DetectionPipeline) : Prop :=
  ∀ secret ∈ p.markers, secret.markerType = .secretCanary → 4 < secret.plaintext.length →
    Plain secret.plaintext

variable {p : DetectionPipeline} (hplain : p.PlainSecrets)

include hplain

/-- No mask shows a plain secret, be it its own or another's. -/
theorem PlainSecrets.mask (plaintext : String) : p.SecretFree (redactSecret plaintext) := by
  refine (p.secretFree_redactSecret plaintext).mpr fun secret hmem htype hlength => ?_
  have h := hplain secret hmem htype hlength
  exact h.not_borrows (isIn_empty h.ne_empty) (h.stock _ (by simp [stockTexts])) rfl (by decide)

theorem PlainSecrets.interposed (body : String) :
    p.FrameFree interposedBefore body interposedAfter := by
  intro secret hmem htype hlength
  have h := hplain secret hmem htype hlength
  exact h.not_borrows (h.stock _ (by simp [stockTexts])) (h.stock _ (by simp [stockTexts]))
    (by decide) (by decide)

theorem PlainSecrets.downgraded (body : String) : p.FrameFree downgradedBefore body "" := by
  intro secret hmem htype hlength
  have h := hplain secret hmem htype hlength
  exact h.not_borrows (h.stock _ (by simp [stockTexts])) (isIn_empty h.ne_empty) (by decide) rfl

/-- Quoting a text that `repr` shows as it is adds no plain secret. -/
theorem PlainSecrets.quoted [Unicode] {text : String} (htext : ∀ c ∈ text.toList, ShownPlain c) :
    p.SecretFree (Py.repr text) ↔ p.SecretFree text := by
  rw [repr_of_shownPlain htext, secretFree_framed]
  refine and_iff_left fun secret hmem htype hlength => ?_
  have h := hplain secret hmem htype hlength
  exact h.not_borrows h.not_isIn_quote h.not_isIn_quote (by decide) (by decide)

end Plain

section Issued

/-- A text with one character that no stock text has, and with none at a seam. -/
theorem plain_of_mem {secret : String} {c : Char} (hmem : c ∈ secret.toList)
    (hstock : ∀ text ∈ stockTexts, c ∉ text.toList) (hseams : ∀ c ∈ secret.toList, c ∉ seams) :
    Plain secret where
  ne_empty := by
    rintro rfl
    cases hmem
  no_seam := hseams
  stock text htext := isIn_eq_false_of_mem hmem (hstock text htext)

theorem plain_append {brand rest : String} (c : Char) (hmem : c ∈ brand.toList)
    (hstock : ∀ text ∈ stockTexts, c ∉ text.toList) (hbrand : ∀ c ∈ brand.toList, c ∉ seams)
    (hrest : ∀ c ∈ rest.toList, c ∉ seams) : Plain (brand ++ rest) := by
  refine plain_of_mem (c := c) ?_ hstock ?_
  · rw [String.toList_append]
    exact List.mem_append_left _ hmem
  · rw [String.toList_append]
    exact List.forall_mem_append.mpr ⟨hbrand, hrest⟩

theorem not_seam_of_all {text : List Char} (h : (text.all fun c => c ∉ seams) = true) :
    ∀ c ∈ text, c ∉ seams := fun c hc => of_decide_eq_true (List.all_eq_true.mp h c hc)

theorem padded_seams (width : Nat) (n : Int) : ∀ c ∈ (padded width n).toList, c ∉ seams := by
  intro c hc hseam
  have hdigit := padded_digits width n c hc
  have hnone : (seams.all fun c => !c.isDigit) = true := by decide
  have hnot := List.all_eq_true.mp hnone c hseam
  rw [hdigit] at hnot
  cases hnot

variable {ρ : Type} [RandomSource ρ]

/-- Whatever is drawn, a secret of each shape is plain. -/
theorem plain_secretShapes (rng : ρ) :
    ∀ shape ∈ (secretShapes : List (StateM ρ Plaintext)), Plain (shape.run rng).1.1 := by
  have hdrawn : ∀ (items : List Char) (hitems : 0 < items.length) (count : Nat),
      (∀ c ∈ items, c ∉ seams) →
      ∀ c ∈ (String.ofList ((choices items hitems count).run rng).1).toList, c ∉ seams := by
    intro items hitems count hseams c hc
    rw [String.toList_ofList] at hc
    exact hseams c (choices_subset items hitems count rng hc)
  have hdash : ∀ c ∈ "-".toList, c ∉ seams := not_seam_of_all (by decide)
  have hssn : ∀ area group serial : Nat,
      ∀ c ∈ (padded 2 area ++ "-" ++ padded 2 group ++ "-" ++ padded 4 serial).toList,
        c ∉ seams := by
    intro area group serial
    simp only [String.toList_append, List.forall_mem_append]
    exact ⟨⟨⟨⟨padded_seams _ _, hdash⟩, padded_seams _ _⟩, hdash⟩, padded_seams _ _⟩
  have hmissing : (stockTexts.all fun text => brands.all fun c => c ∉ text.toList) = true := by
    decide +kernel
  have hstock : ∀ c ∈ brands, ∀ text ∈ stockTexts, c ∉ text.toList := fun c hc text htext =>
    of_decide_eq_true (List.all_eq_true.mp (List.all_eq_true.mp hmissing text htext) c hc)
  intro shape hshape
  rcases List.mem_cons.mp hshape with rfl | hshape
  · exact plain_append '-' (by decide) (hstock _ (by decide)) (not_seam_of_all (by decide))
      (hdrawn secretAlnumAlphabet (by decide) 48 (not_seam_of_all (by decide)))
  rcases List.mem_cons.mp hshape with rfl | hshape
  · exact plain_append 'A' (by decide) (hstock _ (by decide)) (not_seam_of_all (by decide))
      (hdrawn secretUpperAlphabet (by decide) 16 (not_seam_of_all (by decide)))
  rw [List.mem_singleton.mp hshape]
  exact plain_append '9' (by decide) (hstock _ (by decide)) (not_seam_of_all (by decide))
    (hssn _ _ _)

/-- Every secret that the substrate issues is plain. -/
theorem plain_generateMarkers {tenantId : UUID} {startSequence : Nat}
    {users : List SyntheticUserSpec} {rng : ρ} {marker : Marker}
    (h : marker ∈ generateMarkers tenantId startSequence users rng)
    (htype : marker.markerType = .secretCanary) : Plain marker.plaintext := by
  have hcycled : ∀ k, (secretShapes : List (StateM ρ Plaintext)).getD
      (k % (secretShapes : List (StateM ρ Plaintext)).length) secretOpenaiPlaintext ∈
        (secretShapes : List (StateM ρ Plaintext)) := by
    intro k
    have hpos : 0 < (secretShapes : List (StateM ρ Plaintext)).length := Nat.succ_pos 2
    rw [List.getD_eq_getElem?_getD, List.getElem?_eq_getElem (Nat.mod_lt k hpos), Option.getD_some]
    exact List.getElem_mem _
  have hrun : List.Forall₂
      (fun _ (marker : Marker) => marker.markerType = .secretCanary → Plain marker.plaintext)
      markerKinds.zipIdx (generateMarkers tenantId startSequence users rng) := by
    refine forall₂_mapM _ (fun entry _ rng htype => ?_) rng
    obtain ⟨⟨markerType, localIndex⟩, position⟩ := entry
    obtain rfl : markerType = .secretCanary := htype
    exact plain_secretShapes rng _ (hcycled _)
  obtain ⟨k, hk, rfl⟩ := List.getElem_of_mem h
  have hk' : k < markerKinds.zipIdx.length := hrun.length_eq ▸ hk
  exact hrun.get hk' hk htype

end Issued

section Exact

variable [Unicode] (p : DetectionPipeline) {observer : Principal} {text : String}
  {surface : Surface} {probeId : String}

def Quoted (text : String) (marker : Marker) : Prop :=
  p.isJudged text marker = true ∧ p.isQuotable text marker = true

theorem evidence_quoted {marker : Marker} (h : p.Quoted text marker) :
    p.evidence text marker = (p.judge text marker).evidenceSpan := by
  unfold evidence
  simp [isConfirmed, h.1, h.2]

theorem evidence_verbatim {marker : Marker} (h : ¬p.Quoted text marker)
    (hverbatim : isVerbatim text marker = true) :
    p.evidence text marker = marker.plaintext := by
  have hconfirmed : p.isConfirmed text marker = true := by
    simp [isConfirmed, isPresent, hverbatim]
  unfold evidence
  rw [if_pos hconfirmed, if_neg (by simpa [Quoted] using h), if_pos hverbatim]

theorem evidence_interposed {marker : Marker} (h : ¬p.Quoted text marker)
    (hconfirmed : p.isConfirmed text marker = true) (hverbatim : isVerbatim text marker = false) :
    p.evidence text marker = interposedEvidence marker := by
  unfold evidence
  rw [if_pos hconfirmed, if_neg (by simpa [Quoted] using h), if_neg (by simp [hverbatim])]

theorem evidence_downgraded {marker : Marker} (hconfirmed : p.isConfirmed text marker = false)
    (hleak : (p.judge text marker).leak = true) :
    p.evidence text marker = downgradedEvidence (p.judge text marker).rationale := by
  unfold evidence
  simp [hconfirmed, hleak]

theorem evidence_rationale {marker : Marker} (hconfirmed : p.isConfirmed text marker = false)
    (hleak : (p.judge text marker).leak = false) :
    p.evidence text marker = (p.judge text marker).rationale := by
  unfold evidence
  simp [hconfirmed, hleak]

variable [MathSqrt]

/-- The judge is asked about the marker: the text shows it, or it scores at the threshold. -/
def Asked (text : String) (marker : Marker) : Prop :=
  ∃ score, p.score text marker = .ok score ∧
    (isPresent text marker = true ∨ p.threshold ≤ score)

/-- No secret is part of what the pipeline has from the manifest or from the judge: the plaintext of a
foreign canary that the text shows, the span that the judge cites of the text, and its rationale about a
marker that is not confirmed. -/
structure SourcesFree (observer : Principal) (text : String) : Prop where
  canary : ∀ marker ∈ p.foreign observer .hardCanary,
    residualPresent marker.plaintext text = true → p.SecretFree marker.plaintext
  quotation : ∀ marker ∈ p.foreign observer .entityCanary, p.Asked text marker →
    p.Quoted text marker → p.SecretFree (p.judge text marker).evidenceSpan
  name : ∀ marker ∈ p.foreign observer .entityCanary, p.Asked text marker →
    ¬p.Quoted text marker → isVerbatim text marker = true → p.SecretFree marker.plaintext
  interposed : ∀ marker ∈ p.foreign observer .entityCanary, p.Asked text marker →
    ¬p.Quoted text marker → p.isConfirmed text marker = true → isVerbatim text marker = false →
      p.SecretFree (Py.repr marker.plaintext)
  rationale : ∀ marker ∈ p.foreign observer .entityCanary, p.Asked text marker →
    p.isConfirmed text marker = false → p.SecretFree (p.judge text marker).rationale

/-- No secret takes characters of the stock text around a mask, around a name with a word between, or
before a rationale. -/
structure StockFree (observer : Principal) (text : String) : Prop where
  mask : ∀ marker ∈ p.foreign observer .secretCanary, carriesSecret marker text = true →
    p.FrameFree "" (sliceTo 4 marker.plaintext) elision
  interposed : ∀ marker ∈ p.foreign observer .entityCanary, p.Asked text marker →
    ¬p.Quoted text marker → p.isConfirmed text marker = true → isVerbatim text marker = false →
      p.FrameFree interposedBefore (Py.repr marker.plaintext) interposedAfter
  downgraded : ∀ marker ∈ p.foreign observer .entityCanary, p.Asked text marker →
    p.isConfirmed text marker = false → (p.judge text marker).leak = true →
      p.FrameFree downgradedBefore (p.judge text marker).rationale ""

variable {p}

theorem PlainSecrets.stockFree (hplain : p.PlainSecrets) : p.StockFree observer text where
  mask marker _ _ := (p.secretFree_redactSecret marker.plaintext).mp (hplain.mask marker.plaintext)
  interposed _ _ _ _ _ _ := hplain.interposed _
  downgraded _ _ _ _ _ := hplain.downgraded _

variable (p)

theorem semantic_secretFree (h : p.SourcesFree observer text) (hstock : p.StockFree observer text)
    {marker : Marker} (hmem : marker ∈ p.foreign observer .entityCanary)
    (hasked : p.Asked text marker) : p.SecretFree (p.evidence text marker) := by
  by_cases hquoted : p.Quoted text marker
  · rw [p.evidence_quoted hquoted]
    exact h.quotation marker hmem hasked hquoted
  · cases hconfirmed : p.isConfirmed text marker with
    | true =>
      cases hverbatim : isVerbatim text marker with
      | true =>
        rw [p.evidence_verbatim hquoted hverbatim]
        exact h.name marker hmem hasked hquoted hverbatim
      | false =>
        rw [p.evidence_interposed hquoted hconfirmed hverbatim, interposedEvidence_eq,
          secretFree_framed]
        exact ⟨h.interposed marker hmem hasked hquoted hconfirmed hverbatim,
          hstock.interposed marker hmem hasked hquoted hconfirmed hverbatim⟩
    | false =>
      have hrationale := h.rationale marker hmem hasked hconfirmed
      cases hleak : (p.judge text marker).leak with
      | true =>
        rw [p.evidence_downgraded hconfirmed hleak, downgradedEvidence_eq, secretFree_framed]
        exact ⟨hrationale, hstock.downgraded marker hmem hasked hconfirmed hleak⟩
      | false =>
        rw [p.evidence_rationale hconfirmed hleak]
        exact hrationale

theorem Asked.source {marker : Marker} (hmem : marker ∈ p.foreign observer .entityCanary)
    (hasked : p.Asked text marker) :
    ∃ f, p.Source observer text surface probeId marker f ∧
      f.evidenceSpan = p.evidence text marker := by
  obtain ⟨score, hscore, hgate⟩ := hasked
  obtain ⟨unit, -, hunit⟩ := validConfidence_confidence text marker (p.score_nonneg hscore)
  exact ⟨_, .semantic hmem hscore hgate hunit, rfl⟩

section Found

variable (hfound : ∀ marker found, p.Source observer text surface probeId marker found →
  p.SecretFree found.evidenceSpan)

include hfound

/-- What the evidence about a marker that the judge is asked about keeps out. -/
theorem evidence_secretFree {marker : Marker} (hmem : marker ∈ p.foreign observer .entityCanary)
    (hasked : p.Asked text marker) : p.SecretFree (p.evidence text marker) := by
  obtain ⟨found, hsource, hevidence⟩ := Asked.source p hmem hasked
  rw [← hevidence]
  exact hfound marker found hsource

theorem interposed_secretFree {marker : Marker} (hmem : marker ∈ p.foreign observer .entityCanary)
    (hasked : p.Asked text marker) (hquoted : ¬p.Quoted text marker)
    (hconfirmed : p.isConfirmed text marker = true) (hverbatim : isVerbatim text marker = false) :
    p.SecretFree (Py.repr marker.plaintext) ∧
      p.FrameFree interposedBefore (Py.repr marker.plaintext) interposedAfter := by
  have hfree := p.evidence_secretFree hfound hmem hasked
  rwa [p.evidence_interposed hquoted hconfirmed hverbatim, interposedEvidence_eq,
    secretFree_framed] at hfree

theorem downgraded_secretFree {marker : Marker} (hmem : marker ∈ p.foreign observer .entityCanary)
    (hasked : p.Asked text marker) (hconfirmed : p.isConfirmed text marker = false)
    (hleak : (p.judge text marker).leak = true) :
    p.SecretFree (p.judge text marker).rationale ∧
      p.FrameFree downgradedBefore (p.judge text marker).rationale "" := by
  have hfree := p.evidence_secretFree hfound hmem hasked
  rwa [p.evidence_downgraded hconfirmed hleak, downgradedEvidence_eq, secretFree_framed] at hfree

theorem sourcesFree_of_found : p.SourcesFree observer text where
  canary marker hmem hcarried := hfound marker _ (.exact hmem hcarried)
  quotation marker hmem hasked hquoted := by
    rw [← p.evidence_quoted hquoted]
    exact p.evidence_secretFree hfound hmem hasked
  name marker hmem hasked hquoted hverbatim := by
    have hfree := p.evidence_secretFree hfound hmem hasked
    rwa [p.evidence_verbatim hquoted hverbatim] at hfree
  interposed marker hmem hasked hquoted hconfirmed hverbatim :=
    (p.interposed_secretFree hfound hmem hasked hquoted hconfirmed hverbatim).1
  rationale marker hmem hasked hconfirmed := by
    cases hleak : (p.judge text marker).leak with
    | true => exact (p.downgraded_secretFree hfound hmem hasked hconfirmed hleak).1
    | false =>
      rw [← p.evidence_rationale hconfirmed hleak]
      exact p.evidence_secretFree hfound hmem hasked

theorem stockFree_of_found : p.StockFree observer text where
  mask marker hmem hcarried := by
    have hfree := hfound marker _ (.secret hmem hcarried)
    exact (p.secretFree_redactSecret marker.plaintext).mp hfree
  interposed marker hmem hasked hquoted hconfirmed hverbatim :=
    (p.interposed_secretFree hfound hmem hasked hquoted hconfirmed hverbatim).2
  downgraded marker hmem hasked hconfirmed hleak :=
    (p.downgraded_secretFree hfound hmem hasked hconfirmed hleak).2

end Found

variable {p} {stamp : ControlStamp} {fs : List Finding}

/-- The findings of a detection keep the secrets of the manifest out exactly when no secret is part of
what the manifest and the judge give, nor takes characters of the stock texts around it. -/
theorem detect_redacted_iff (h : p.detect observer text surface probeId stamp = .ok fs) :
    p.Redacted fs ↔ p.SourcesFree observer text ∧ p.StockFree observer text := by
  have hmem := p.mem_detect h
  constructor
  · intro hredacted
    have hfound : ∀ marker found, p.Source observer text surface probeId marker found →
        p.SecretFree found.evidenceSpan := fun marker found hsource =>
      hredacted (restamp stamp found) ((hmem _).mpr ⟨marker, found, hsource, rfl⟩)
    exact ⟨p.sourcesFree_of_found hfound, p.stockFree_of_found hfound⟩
  · rintro ⟨hsources, hstock⟩ f hf
    obtain ⟨marker, found, hsource, rfl⟩ := (hmem f).mp hf
    show p.SecretFree found.evidenceSpan
    cases hsource with
    | exact hmarker hcarried => exact hsources.canary marker hmarker hcarried
    | secret hmarker hcarried =>
      exact (p.secretFree_redactSecret marker.plaintext).mpr (hstock.mask marker hmarker hcarried)
    | semantic hmarker hscore hgate hunit =>
      exact p.semantic_secretFree hsources hstock hmarker ⟨_, hscore, hgate⟩

/-- Of plain secrets, the findings show one exactly when the manifest or the judge gives it. -/
theorem detect_redacted_iff_sources (hplain : p.PlainSecrets)
    (h : p.detect observer text surface probeId stamp = .ok fs) :
    p.Redacted fs ↔ p.SourcesFree observer text :=
  (detect_redacted_iff h).trans (and_iff_left hplain.stockFree)

end Exact

section Sample

attribute [local instance] Unicode.ascii MathSqrt.exact

def deployNote : String := "Project Onyx-00002 deploys with sk-a1B2c3D4e5F6g7H8i9J0"

/-- An entity and a secret of tenant 1, and a judge that cites the whole text. -/
def quotingPipeline : DetectionPipeline :=
  { markers :=
      [onyx,
        { markerId := "secret-key", markerType := .secretCanary, ownerTenantId := ⟨1⟩
          plaintext := "sk-a1B2c3D4e5F6g7H8i9J0" }]
    embed := fun _ => [1]
    threshold := 1 / 2
    judge := fun text _ => { leak := true, rationale := "", evidenceSpan := text } }

def quotingFindings : List Finding :=
  quotingPipeline.markers.reverse.map fun marker =>
    restamp {} (finding marker ⟨⟨2⟩, none⟩ .api "manual"
      (if marker.markerType = .secretCanary then .critical else .high) UnitRat.one .confirmed
      (if marker.markerType = .secretCanary then "sk-a...[redacted]" else deployNote))

theorem quotingPipeline_detect :
    quotingPipeline.detect ⟨⟨2⟩, none⟩ deployNote .api "manual" {} = .ok quotingFindings := by
  decide +kernel

/-- The judge's citation of the text around an entity carries the secret beside it. -/
theorem quotingPipeline_not_redacted :
    quotingPipeline.detect ⟨⟨2⟩, none⟩ deployNote .api "manual" {} = .ok quotingFindings ∧
      ¬quotingPipeline.Redacted quotingFindings := by
  refine ⟨quotingPipeline_detect, fun h => ?_⟩
  have hcarried : ∃ f ∈ quotingFindings, ∃ secret ∈ quotingPipeline.markers,
      secret.markerType = .secretCanary ∧ 4 < secret.plaintext.length ∧
        isIn secret.plaintext f.evidenceSpan = true := by decide +kernel
  obtain ⟨f, hf, secret, hsecret, htype, hlength, hin⟩ := hcarried
  rw [h f hf secret hsecret htype hlength] at hin
  cases hin

theorem detect_redacted_iff_quoting : quotingPipeline.Redacted quotingFindings ↔
    quotingPipeline.SourcesFree ⟨⟨2⟩, none⟩ deployNote ∧
      quotingPipeline.StockFree ⟨⟨2⟩, none⟩ deployNote :=
  detect_redacted_iff quotingPipeline_detect

end Sample

end DetectionPipeline

end Sectum
