import Sectum.Probes.ErasureSound

/-! The findings of an erasure run, surface by surface, against the verdicts of its coverage. -/

namespace Sectum

open Py

namespace ErasureReport

variable (report : ErasureReport)

def findingsOn (surface : Surface) : List Finding :=
  report.findings.filter fun finding => finding.surface = surface

/-- A verdict is that of the row of the surface, and NOT_COVERED where there is no row. -/
theorem coverage_cases {surface : Surface} {verdict : CoverageVerdict}
    (hrows : (report.surfaces.map SurfaceErasure.surface).Nodup)
    (h : report.coverage.lookup surface = some verdict) :
    (∃ row ∈ report.surfaces, row.surface = surface ∧ row.coverageVerdict = verdict) ∨
      verdict = .notCovered ∧ ∀ row ∈ report.surfaces, row.surface ≠ surface := by
  have hkeys : ((report.surfaces.map fun s => (s.surface, s.coverageVerdict)).map
      Prod.fst).Nodup := by
    simpa [Function.comp_def] using hrows
  have hscanned : ∀ verdict, _ = some verdict ↔ (surface, verdict) ∈ _ := fun verdict =>
    Dict.lookup_ofItems hkeys
  rw [coverage, Dict.lookup_ofItems_map erasureSurfaces_nodup] at h
  split at h
  · have h := Option.some.inj h
    unfold Dict.getD at h
    cases hlook : (Dict.ofItems (report.surfaces.map fun s =>
        (s.surface, s.coverageVerdict))).lookup surface with
    | some found =>
      rw [hlook] at h
      obtain ⟨row, hrow, heq⟩ := List.mem_map.mp ((hscanned found).mp hlook)
      obtain ⟨hsurface, hfound⟩ := Prod.mk.inj heq
      exact Or.inl ⟨row, hrow, hsurface, hfound.trans h⟩
    | none =>
      rw [hlook] at h
      refine Or.inr ⟨h.symm, fun row hrow hsurface => ?_⟩
      have hfound := (hscanned row.coverageVerdict).mpr
        (List.mem_map.mpr ⟨row, hrow, by rw [hsurface]⟩)
      rw [hlook] at hfound
      cases hfound
  · cases h

end ErasureReport

namespace ErasureProbe

section Itemized

variable {σ : Type} [Unicode] [Uuid4 σ] (probe : ErasureProbe σ) (target : UUID)

/-- The pre-scan of a surface returned `before`, the delete came to `deleted`, and the post-scan
observed `observed`, whether it then returned or raised. -/
def Scanned (entry : PlanEntry σ) (s : ErasureState σ) (markers before : List Marker)
    (deleted : Except Raised Unit) (observed : List Marker) : Prop :=
  ∃ s₁ world, entry.scan target markers s.reset = (.ok before, s₁) ∧
    entry.delete target s₁.world = (deleted, world) ∧
    (entry.scan target markers (ErasureState.reset
      { s₁ with world, inconclusive := s₁.inconclusive.erase entry.surface })).2.partialHits =
        observed

variable {probe target}

/-- What one turn gives: a row that covers nothing, or the counts of two scans and the findings of
one of them. -/
theorem eraseSurface_cases {entry : PlanEntry σ} (hentry : entry ∈ probe.plan)
    (markers : List Marker) (s : ErasureState σ) :
    let outcome := (eraseSurface target markers entry s).1
    (∃ e s₁, entry.scan target markers s.reset = (.error e, s₁) ∧
      outcome = ({ surface := entry.surface, markersBefore := 0, residualAfter := 0
                   unverifiableAfter := 1, unverifiableReason := some e.text }, [])) ∨
    ∃ before deleted observed, Scanned target entry s markers before deleted observed ∧
      outcome.1.markersBefore = before.length ∧ outcome.1.residualAfter = observed.length ∧
      outcome.1.erasureSupported = (purgeOutcome deleted).1 ∧ outcome.1.baselineObserved = true ∧
      outcome.2 = if (purgeOutcome deleted).1
        then observed.map fun marker => residualFinding target marker entry.surface
        else before.map fun marker => caveatFinding target marker entry.surface := by
  rcases hscan : entry.scan target markers s.reset with ⟨e | before, s₁⟩
  · refine Or.inl ⟨e, s₁, rfl, ?_⟩
    unfold eraseSurface
    rw [hscan]
  · rcases hdelete : entry.delete target s₁.world with ⟨deleted, world⟩
    refine Or.inr ⟨before, deleted, _, ⟨s₁, world, hscan, hdelete, rfl⟩, ?_⟩
    let s₂ : ErasureState σ :=
      ErasureState.reset { s₁ with world, inconclusive := s₁.inconclusive.erase entry.surface }
    have hreads := (probe.plan_scansAs target hentry).reads markers s₂
    unfold eraseSurface
    simp only [hscan, hdelete]
    rcases hpost : entry.scan target markers s₂ with ⟨e | residual, s₃⟩
    · simp
    · have hobserved : s₃.partialHits = residual := by
        have hresult := hreads.result
        have hhits := hreads.partialHits
        rw [hpost] at hresult hhits
        cases hraised : (probe.reading target markers entry.surface s₂.world).raised with
        | none =>
          rw [hraised] at hresult
          exact hhits.trans (Except.ok.inj hresult).symm
        | some e =>
          rw [hraised] at hresult
          cases hresult
      simp [hobserved]

theorem eraseSurface_findings_surface {markers : List Marker} {entry : PlanEntry σ}
    (hentry : entry ∈ probe.plan) {s : ErasureState σ} {finding : Finding}
    (h : finding ∈ (eraseSurface target markers entry s).1.2) :
    finding.surface = entry.surface := by
  rcases eraseSurface_cases hentry markers s with ⟨e, s₁, -, houtcome⟩ |
    ⟨before, deleted, observed, -, -, -, -, -, hfindings⟩
  · rw [houtcome] at h
    cases h
  · rw [hfindings] at h
    split at h
    · obtain ⟨marker, -, rfl⟩ := List.mem_map.mp h
      rfl
    · obtain ⟨marker, -, rfl⟩ := List.mem_map.mp h
      rfl

omit [Unicode] [Uuid4 σ] in
theorem Scanned.unique {entry : PlanEntry σ} {s : ErasureState σ} {markers before before' observed
    observed' : List Marker} {deleted deleted' : Except Raised Unit}
    (h : Scanned target entry s markers before deleted observed)
    (h' : Scanned target entry s markers before' deleted' observed') :
    before = before' ∧ deleted = deleted' ∧ observed = observed' := by
  obtain ⟨s₁, world, hscan, hdelete, hobserved⟩ := h
  obtain ⟨s₁', world', hscan', hdelete', hobserved'⟩ := h'
  rw [hscan] at hscan'
  obtain ⟨hbefore, rfl⟩ := Prod.mk.inj hscan'
  rw [hdelete] at hdelete'
  obtain ⟨rfl, rfl⟩ := Prod.mk.inj hdelete'
  exact ⟨Except.ok.inj hbefore, rfl, hobserved.symm.trans hobserved'⟩

section Run

variable (scope : Option (List Surface)) (unseeded : Option (Dict Surface String))
  (s₀ : ErasureState σ)

variable (probe target)

/-- One finding for each marker, in their order, with the status and on the surface. -/
def Itemizes (status : FindingStatus) (surface : Surface) (markers : List Marker)
    (findings : List Finding) : Prop :=
  List.Forall₂ (fun marker finding => finding.markerId = some marker.markerId ∧
    finding.surface = surface ∧ finding.status = status ∧ finding.ownerTenantId = target)
    markers findings

/-- The run scanned the surface, erased from it and scanned it again. -/
def RunScanned (surface : Surface) (before : List Marker) (deleted : Except Raised Unit)
    (observed : List Marker) : Prop :=
  ∃ entry s, Comes probe target scope unseeded s₀ entry s ∧ entry.surface = surface ∧
    Scanned target entry s (ownMarkers target probe) before deleted observed

/-- What the findings on a surface have to be under its verdict. -/
def Itemized (surface : Surface) (findings : List Finding) : CoverageVerdict → Prop
  | .residual => ∃ before deleted observed,
      RunScanned probe target scope unseeded s₀ surface before deleted observed ∧
        observed ≠ [] ∧ Itemizes target .confirmed surface observed findings
  | .attestableWithCaveat => ∃ before deleted observed,
      RunScanned probe target scope unseeded s₀ surface before deleted observed ∧
        Itemizes target .unverified surface before findings
  | _ => findings = []

/-- A surface whose pre-scan observed nothing has no erasure API, and its post-scan observes a
marker. -/
def LateResidual : Prop :=
  ∃ surface e observed, RunScanned probe target scope unseeded s₀ surface [] (.error e) observed ∧
    e.errorClass = .erasureUnsupported ∧ observed ≠ []

omit [Unicode] [Uuid4 σ] in
theorem itemizes_residual (surface : Surface) (markers : List Marker) :
    Itemizes target .confirmed surface markers
      (markers.map fun marker => residualFinding target marker surface) := by
  rw [Itemizes, List.forall₂_map_right_iff, List.forall₂_same]
  exact fun _ _ => ⟨rfl, rfl, rfl, rfl⟩

omit [Unicode] [Uuid4 σ] in
theorem itemizes_caveat (surface : Surface) (markers : List Marker) :
    Itemizes target .unverified surface markers
      (markers.map fun marker => caveatFinding target marker surface) := by
  rw [Itemizes, List.forall₂_map_right_iff, List.forall₂_same]
  exact fun _ _ => ⟨rfl, rfl, rfl, rfl⟩

omit [Unicode] [Uuid4 σ] in
theorem purgeOutcome_supported (deleted : Except Raised Unit) :
    (purgeOutcome deleted).1 = false ↔
      ∃ e, deleted = .error e ∧ e.errorClass = .erasureUnsupported := by
  unfold purgeOutcome
  rcases deleted with e | ⟨⟩
  · by_cases hclass : e.errorClass = .erasureUnsupported <;> simp [hclass]
  · simp

variable {probe target scope unseeded s₀}

theorem eraseSurface_itemized {entry : PlanEntry σ} {s : ErasureState σ}
    (hcomes : Comes probe target scope unseeded s₀ entry s)
    (hlate : ¬LateResidual probe target scope unseeded s₀) :
    Itemized probe target scope unseeded s₀ entry.surface
      (eraseSurface target (ownMarkers target probe) entry s).1.2
      (eraseSurface target (ownMarkers target probe) entry s).1.1.coverageVerdict := by
  rcases eraseSurface_cases hcomes.visits.mem (ownMarkers target probe) s with
    ⟨e, s₁, -, houtcome⟩ |
    ⟨before, deleted, observed, hscanned, hbefore, hafter, hsupported, hbaseline, hfindings⟩
  · rw [houtcome]
    rfl
  · have hrun : RunScanned probe target scope unseeded s₀ entry.surface before deleted observed :=
      ⟨entry, s, hcomes, rfl, hscanned⟩
    rw [hfindings, SurfaceErasure.coverageVerdict, SurfaceErasure.attestableWithCaveat, hbefore,
      hafter, hsupported, hbaseline]
    cases hpurge : (purgeOutcome deleted).1 with
    | true =>
      cases observed with
      | nil => split_ifs <;> simp_all [Itemized]
      | cons marker rest =>
        exact ⟨before, deleted, marker :: rest, hrun, List.cons_ne_nil _ _,
          itemizes_residual target entry.surface _⟩
    | false =>
      obtain ⟨e, rfl, hclass⟩ := (purgeOutcome_supported deleted).mp hpurge
      cases before with
      | cons marker rest =>
        exact ⟨marker :: rest, .error e, observed, hrun, itemizes_caveat target entry.surface _⟩
      | nil =>
        -- nothing was observed before, and an observation afterwards is the late residual
        cases observed with
        | nil => rfl
        | cons marker rest =>
          exact absurd ⟨entry.surface, e, _, hrun, hclass, List.cons_ne_nil _ _⟩ hlate

/-- The row of a surface with a late residual reads RESIDUAL, and has no findings. -/
theorem eraseSurface_late {entry : PlanEntry σ} (hentry : entry ∈ probe.plan)
    {s : ErasureState σ} {markers observed : List Marker} {e : Raised}
    (hscanned : Scanned target entry s markers [] (.error e) observed)
    (hclass : e.errorClass = .erasureUnsupported) (hobserved : observed ≠ []) :
    (eraseSurface target markers entry s).1.1.coverageVerdict = .residual ∧
      (eraseSurface target markers entry s).1.2 = [] := by
  rcases eraseSurface_cases hentry markers s with ⟨e', s₁, hraised, houtcome⟩ |
    ⟨before, deleted, observed', hscanned', hbefore, hafter, hsupported, hbaseline, hfindings⟩
  · obtain ⟨s₁', world, hscan, hrest⟩ := hscanned
    rw [hraised] at hscan
    cases hscan
  · obtain ⟨rfl, rfl, rfl⟩ := hscanned.unique hscanned'
    have hpurge : (purgeOutcome (.error e)).1 = false :=
      (purgeOutcome_supported (.error e)).mpr ⟨e, rfl, hclass⟩
    have hpos : 0 < observed.length := List.length_pos_iff.mpr hobserved
    rw [hfindings, SurfaceErasure.coverageVerdict, SurfaceErasure.attestableWithCaveat, hbefore,
      hafter, hpurge]
    simp [hpos]

variable (probe target scope unseeded s₀)

/-- A verdict of the coverage is that of a surface that the run came to, whose findings are those
of its turn, or it is NOT_COVERED and the surface has none. -/
theorem run_coverage_cases {surface : Surface} {verdict : CoverageVerdict}
    (h : (run target scope unseeded probe s₀).1.coverage.lookup surface = some verdict) :
    (∃ entry s, Comes probe target scope unseeded s₀ entry s ∧ entry.surface = surface ∧
      (eraseSurface target (ownMarkers target probe) entry s).1.1.coverageVerdict = verdict ∧
      (run target scope unseeded probe s₀).1.findingsOn surface =
        (eraseSurface target (ownMarkers target probe) entry s).1.2) ∨
    verdict = .notCovered ∧ (run target scope unseeded probe s₀).1.findingsOn surface = [] := by
  have hnodup := probe.plan_surfaces_nodup
  have hsurfaces : (run target scope unseeded probe s₀).1.surfaces =
      (runPlan target (ownMarkers target probe) scope unseeded probe.plan s₀).1.map Prod.fst := rfl
  have hfindings : (run target scope unseeded probe s₀).1.findings =
      (runPlan target (ownMarkers target probe) scope unseeded probe.plan s₀).1.flatMap
        Prod.snd := rfl
  have hkeys := runPlan_keys target scope unseeded s₀ (ownMarkers target probe) probe.plan
  have htag : ∀ result ∈
      (runPlan target (ownMarkers target probe) scope unseeded probe.plan s₀).1,
      ∀ finding ∈ result.2, finding.surface = result.1.surface := by
    intro result hresult finding hfinding
    obtain ⟨entry, s, hvisits, hstep⟩ := mem_sweep.mp hresult
    rw [planStep_surface target scope unseeded hstep]
    obtain ⟨-, ⟨-, rfl⟩ | ⟨reason, -, rfl⟩⟩ := (planStep_eq_some target scope unseeded).mp hstep
    · exact eraseSurface_findings_surface hvisits.mem hfinding
    · cases hfinding
  rcases ErasureReport.coverage_cases _
    (hnodup.sublist (run_surfaces probe target scope unseeded s₀)) h with
    ⟨row, hrow, rfl, rfl⟩ | ⟨rfl, hnone⟩
  · rw [hsurfaces, List.mem_map] at hrow
    obtain ⟨result, hresult, rfl⟩ := hrow
    have hon : (run target scope unseeded probe s₀).1.findingsOn result.1.surface = result.2 :=
      filter_flatMap_row htag (hnodup.sublist hkeys) hresult
    obtain ⟨entry, s, hvisits, hstep⟩ := mem_sweep.mp hresult
    obtain ⟨hscope, ⟨hseeded, rfl⟩ | ⟨reason, -, rfl⟩⟩ :=
      (planStep_eq_some target scope unseeded).mp hstep
    · exact Or.inl ⟨entry, s, ⟨hvisits, hscope, hseeded⟩,
        (planStep_surface target scope unseeded hstep).symm, rfl, hon⟩
    · exact Or.inr ⟨rfl, hon⟩
  · refine Or.inr ⟨rfl, ?_⟩
    rw [ErasureReport.findingsOn, hfindings]
    refine filter_flatMap_no_row htag fun result hresult => ?_
    exact hnone result.1 (hsurfaces ▸ List.mem_map_of_mem hresult)

/-- The findings of a run itemize the verdicts of its coverage exactly when no surface without an
erasure API shows a marker after a pre-scan that observed none. -/
theorem run_itemized_iff :
    (∀ surface verdict,
      (run target scope unseeded probe s₀).1.coverage.lookup surface = some verdict →
        Itemized probe target scope unseeded s₀ surface
          ((run target scope unseeded probe s₀).1.findingsOn surface) verdict) ↔
      ¬LateResidual probe target scope unseeded s₀ := by
  constructor
  · rintro hitemized ⟨surface, e, observed, ⟨entry, s, hcomes, rfl, hscanned⟩, hclass, hobserved⟩
    obtain ⟨hverdict, hfindings⟩ :=
      eraseSurface_late hcomes.visits.mem hscanned hclass hobserved
    have hstep : (planStep target (ownMarkers target probe) scope unseeded entry s).1 =
        some (eraseSurface target (ownMarkers target probe) entry s).1 :=
      (planStep_eq_some target scope unseeded).mpr
        ⟨hcomes.inScope, Or.inl ⟨hcomes.seeded, rfl⟩⟩
    have hrows := run_surfaces probe target scope unseeded s₀
    have hlook : (run target scope unseeded probe s₀).1.coverage.lookup entry.surface =
        some .residual := by
      refine (ErasureReport.coverage_eq_some _ (probe.plan_surfaces_nodup.sublist hrows)
        (fun row hrow => probe.plan_surfaces.subset (hrows.subset (List.mem_map_of_mem hrow)))
        (show CoverageVerdict.residual ≠ .notCovered from nofun)).mpr ⟨_, List.mem_map_of_mem
          (mem_sweep.mpr ⟨entry, s, hcomes.visits, hstep⟩),
          planStep_surface target scope unseeded hstep, hverdict⟩
    rcases run_coverage_cases probe target scope unseeded s₀ hlook with
      ⟨entry', s', hcomes', hsurface, -, hon⟩ | ⟨hverdict, -⟩
    · obtain ⟨rfl, rfl⟩ := hcomes'.visits.unique probe.plan_surfaces_nodup hcomes.visits hsurface
      obtain ⟨before, deleted, observed', -, hobserved', hitems⟩ := hitemized _ _ hlook
      rw [hon, hfindings, Itemizes, List.forall₂_nil_right_iff] at hitems
      exact hobserved' hitems
    · cases hverdict
  · intro hlate surface verdict hlook
    rcases run_coverage_cases probe target scope unseeded s₀ hlook with
      ⟨entry, s, hcomes, rfl, rfl, hon⟩ | ⟨rfl, hon⟩
    · rw [hon]
      exact eraseSurface_itemized hcomes hlate
    · exact hon

end Run

end Itemized

section Sample

attribute [local instance] Unicode.ascii storeUuid4

/-- A store with no erasure API, which a document reaches between the two scans. -/
def appendOnlyStore : VectorStoreAdapter Bool where
  query _ _ _ stored :=
    (.ok (if stored then [⟨"doc-1", ⟨1⟩, 1, "a note on SECTUM-CANARY-7K2Q"⟩] else []), stored)
  fetch _ _ stored := (.ok none, stored)
  delete _ _ := (.error ⟨.erasureUnsupported, "no per-tenant delete"⟩, true)

def appendOnlyProbe : ErasureProbe Bool := { timingOutProbe with vector := appendOnlyStore }

/-- The vector store reads RESIDUAL, and the report has no finding. -/
theorem appendOnly_residual_not_itemized :
    (run ⟨1⟩ none none appendOnlyProbe { world := false }).1.coverage.lookup .vectorDb =
        some .residual ∧
      (run ⟨1⟩ none none appendOnlyProbe { world := false }).1.findings = [] ∧
      ¬∀ surface verdict,
        (run ⟨1⟩ none none appendOnlyProbe { world := false }).1.coverage.lookup surface =
          some verdict →
        Itemized appendOnlyProbe ⟨1⟩ none none { world := false } surface
          ((run ⟨1⟩ none none appendOnlyProbe { world := false }).1.findingsOn surface) verdict := by
  have hlook : (run ⟨1⟩ none none appendOnlyProbe { world := false }).1.coverage.lookup .vectorDb =
      some .residual := by
    decide +kernel
  have hnone : (run ⟨1⟩ none none appendOnlyProbe { world := false }).1.findings = [] := by
    decide +kernel
  refine ⟨hlook, hnone, fun hitemized => ?_⟩
  obtain ⟨before, deleted, observed, -, hobserved, hitems⟩ := hitemized _ _ hlook
  rw [ErasureReport.findingsOn, hnone, List.filter_nil, Itemizes, List.forall₂_nil_right_iff]
    at hitems
  exact hobserved hitems

end Sample

end ErasureProbe

end Sectum
