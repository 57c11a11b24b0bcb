import Sectum.Probes.ErasureSpec

/-! What the verdict ERASED of an erasure run rests on, against adapters that may answer or raise
anything at any call. -/

namespace Sectum

open Py

namespace ErasureProbe

section Sound

variable {σ : Type} [Unicode] (probe : ErasureProbe σ) (target : UUID)

/-- A search for the marker returned, and nothing that it returned carries the marker. -/
def Silent (search : UUID → String → Call σ Raised (List String)) (marker : Marker)
    (world after : σ) : Prop :=
  ∃ texts, search target marker.plaintext world = (.ok texts, after) ∧
    ∀ text ∈ texts, residualPresent marker.plaintext text = false

/-- A query returned a page shorter than the page size, with no hit carrying the marker. -/
def ShortPage (marker : Marker) (query : String) (world after : σ) : Prop :=
  ∃ hits, probe.vector.query target query fingerprintQueryK world = (.ok hits, after) ∧
    hits.length < fingerprintQueryK ∧
      ∀ hit ∈ hits, residualPresent marker.plaintext hit.content = false

theorem observableAt_absent (marker : Marker) (queries : List String) (inconclusive : Bool)
    (world after : σ) :
    probe.observableAt target marker queries inconclusive world = (.ok (some false), after) ↔
      inconclusive = false ∧ Each (probe.ShortPage target marker) queries world after := by
  induction queries generalizing inconclusive world with
  | nil =>
    rw [observableAt]
    constructor
    · intro h
      cases inconclusive
      · obtain ⟨-, rfl⟩ := Prod.mk.inj h
        exact ⟨rfl, .nil world⟩
      · cases h
    · rintro ⟨rfl, _ | _⟩
      rfl
  | cons query queries ih =>
    rcases hq : probe.vector.query target query fingerprintQueryK world with ⟨e | hits, between⟩
    · rw [observableAt, hq]
      constructor
      · intro h
        cases h
      · rintro ⟨-, _ | ⟨⟨hits, hhits, -⟩, -⟩⟩
        rw [hq] at hhits
        cases hhits
    · rw [observableAt, hq]
      simp only
      constructor
      · intro h
        split at h
        · cases h
        · rename_i hclean
          obtain ⟨hinconclusive, hrest⟩ := (ih _ _).mp h
          rw [Bool.or_eq_false_iff, decide_eq_false_iff_not] at hinconclusive
          refine ⟨hinconclusive.1, .cons ⟨hits, hq, by omega, fun hit hhit => ?_⟩ hrest⟩
          by_contra hcarries
          exact hclean (List.any_eq_true.mpr ⟨hit, hhit, by simpa using hcarries⟩)
      · rintro ⟨rfl, _ | ⟨⟨hits', hhits, hshort, hclean⟩, hrest⟩⟩
        rw [hq] at hhits
        obtain ⟨hok, rfl⟩ := Prod.mk.inj hhits
        obtain rfl := Except.ok.inj hok
        have hnone :
            ¬(hits.any fun hit => residualPresent marker.plaintext hit.content) = true := by
          simpa using hclean
        rw [if_neg hnone, ih]
        exact ⟨by simpa using hshort, hrest⟩

omit [Unicode] in
theorem definite_eq {ask : Marker → Call σ Raised Bool} {marker : Marker} {world after : σ} :
    definite ask marker world = (.ok (some false), after) ↔
      ask marker world = (.ok false, after) := by
  unfold definite
  rw [Call.map_eq_ok]
  constructor
  · rintro ⟨seen, h, hseen⟩
    obtain rfl := Option.some.inj hseen
    exact h
  · exact fun h => ⟨false, h, rfl⟩

theorem silent_iff {search : UUID → String → Call σ Raised (List String)} {marker : Marker}
    {world after : σ} :
    Call.map (carriedBy marker) (search target marker.plaintext) world = (.ok false, after) ↔
      Silent target search marker world after := by
  rw [Call.map_eq_ok]
  refine exists_congr fun texts => and_congr_right fun _ => ?_
  rw [carriedBy, List.any_eq_false]
  simp

variable [Uuid4 σ]

/-- A surface answered that it does not hold the marker. -/
def Absent (surface : Surface) (marker : Marker) (world after : σ) : Prop :=
  match surface with
  | .vectorDb =>
    Each (probe.ShortPage target marker) (markerQueries probe.documents marker) world after
  | .tracing => ∃ a, probe.observability = some a ∧
      a.searchTraces target marker.plaintext world = (.ok [], after)
  | .agentMemory => ∃ a, probe.memory = some a ∧ Silent target a.recall marker world after
  | .modelAdapter => ∃ a, probe.model = some a ∧ modelCanMemorize a = true ∧
      contentRecalled a target marker.plaintext world = (.ok false, after)
  | .searchIndex => ∃ a, probe.searchIndex = some a ∧ Silent target a.search marker world after
  | .evalSet => ∃ a, probe.evalSet = some a ∧ Silent target a.search marker world after
  | .backup => ∃ a, probe.backup = some a ∧ Silent target a.search marker world after
  | _ => False

/-- A scan of the surface completed, and every marker was answered definitively negative.  The cache
is read once, for all the markers. -/
def RulesOut (markers : List Marker) (surface : Surface) (world after : σ) : Prop :=
  match surface with
  | .semanticCache => ∃ a values, probe.cache = some a ∧
      a.values target world = (.ok values, after) ∧
        ∀ marker ∈ markers, ∀ value ∈ values, residualPresent marker.plaintext value = false
  | surface => Each (probe.Absent target surface) markers world after

theorem ask_absent {surface : Surface} {ask : Marker → Call σ Raised Bool}
    (h : probe.ask target surface = some ask) (marker : Marker) (world after : σ) :
    ask marker world = (.ok false, after) ↔ probe.Absent target surface marker world after := by
  unfold ErasureProbe.ask at h
  split at h
  · obtain ⟨a, ha, rfl⟩ := Option.map_eq_some_iff.mp h
    simp [Absent, ha, Call.map_eq_ok]
  · obtain ⟨a, ha, rfl⟩ := Option.map_eq_some_iff.mp h
    simp [Absent, ha, silent_iff]
  · obtain ⟨a, ha, rfl⟩ := Option.map_eq_some_iff.mp h
    obtain ⟨hmodel, hcan⟩ := Option.filter_eq_some_iff.mp ha
    simp [Absent, hmodel, hcan]
  · obtain ⟨a, ha, rfl⟩ := Option.map_eq_some_iff.mp h
    simp [Absent, ha, silent_iff]
  · obtain ⟨a, ha, rfl⟩ := Option.map_eq_some_iff.mp h
    simp [Absent, ha, silent_iff]
  · obtain ⟨a, ha, rfl⟩ := Option.map_eq_some_iff.mp h
    simp [Absent, ha, silent_iff]
  · cases h

theorem clear_iff_rulesOut {entry : PlanEntry σ} (hentry : entry ∈ probe.plan)
    (markers : List Marker) (world after : σ) :
    ((probe.reading target markers entry.surface world).Clear ∧
      (probe.reading target markers entry.surface world).world = after) ↔
      probe.RulesOut target markers entry.surface world after := by
  have hall : ∀ (ask : Marker → Call σ Raised (Option Bool)) (start : σ),
      (Reading.Clear (askAll ask markers start) ∧ (askAll ask markers start).world = after) ↔
        Each (fun marker world after => ask marker world = (.ok (some false), after)) markers start
          after := by
    intro ask start
    rw [← askAll_eq_each, Reading.Clear]
    exact ⟨fun h => ⟨h.1.1, h.2, h.1.2⟩, fun h => ⟨⟨h.1, h.2.2⟩, h.2.1⟩⟩
  rcases probe.plan_cases target hentry with rfl | ⟨cache, hcache, rfl⟩ | ⟨ask, hask, -⟩
  · show (Reading.Clear (askAll (probe.markerObservable target) markers world) ∧
      (askAll (probe.markerObservable target) markers world).world = after) ↔
        Each (probe.Absent target .vectorDb) markers world after
    rw [hall]
    refine Each.congr fun marker _ world after => ?_
    rw [markerObservable, observableAt_absent]
    exact ⟨And.right, fun h => ⟨rfl, h⟩⟩
  · show _ ↔ ∃ a values, probe.cache = some a ∧ a.values target world = (.ok values, after) ∧
      ∀ marker ∈ markers, ∀ value ∈ values, residualPresent marker.plaintext value = false
    unfold reading
    rw [hcache]
    rcases hvalues : cache.values target world with ⟨e | values, between⟩
    · simp [Reading.Clear, hvalues]
    · have hpure : ∀ marker (world after : σ),
          definite (fun marker world => (.ok (carriedBy marker values), world)) marker world =
            (.ok (some false), after) ↔
              after = world ∧ ∀ value ∈ values, residualPresent marker.plaintext value = false := by
        intro marker world after
        rw [definite_eq, Prod.mk.injEq, Except.ok.injEq, carriedBy, List.any_eq_false]
        simp only [Bool.not_eq_true, eq_comm (a := world)]
        exact and_comm
      simp only [hvalues, hall, hpure, each_pure, Option.some.injEq]
      constructor
      · rintro ⟨rfl, hclear⟩
        exact ⟨cache, values, rfl, hvalues, hclear⟩
      · rintro ⟨a, values', rfl, hvalues', hclear⟩
        rw [hvalues] at hvalues'
        obtain ⟨hok, rfl⟩ := Prod.mk.inj hvalues'
        obtain rfl := Except.ok.inj hok
        exact ⟨rfl, hclear⟩
  · have hsurface : probe.RulesOut target markers entry.surface world after ↔
        Each (probe.Absent target entry.surface) markers world after := by
      unfold RulesOut
      split
      · rename_i heq
        rw [heq] at hask
        cases hask
      · rfl
    rw [probe.reading_ask target hask, hall, hsurface]
    refine Each.congr fun marker _ world after => ?_
    rw [definite_eq, probe.ask_absent target hask]

/-- The outcomes of a delete after which a surface may read ERASED: it returned, or it raised an
exception with an empty text. -/
def Unrefused (deleted : Except Raised Unit) : Prop :=
  deleted = .ok () ∨
    ∃ e, deleted = .error e ∧ e.errorClass ≠ .erasureUnsupported ∧ e.text = ""

omit [Unicode] [Uuid4 σ] in
theorem unrefused_iff (deleted : Except Raised Unit) :
    Unrefused deleted ↔
      (purgeOutcome deleted).1 = true ∧ truthy (purgeOutcome deleted).2 = false := by
  unfold Unrefused purgeOutcome truthy
  rcases deleted with e | ⟨⟩
  · by_cases hclass : e.errorClass = .erasureUnsupported <;> simp [hclass]
  · simp

omit [Unicode] [Uuid4 σ] in
theorem erasureRow_erased_iff (surface : Surface) (before after : Reading σ)
    (deleted : Except Raised Unit) :
    (erasureRow surface before after deleted).coverageVerdict = .erased ↔
      before.hits ≠ [] ∧ Unrefused deleted ∧ after.Clear := by
  have hunverifiable : (erasureRow surface before after deleted).unverifiableAfter = 0 ↔
      truthy (purgeOutcome deleted).2 = false ∧ after.raised = none ∧ after.unknown = 0 := by
    simp only [erasureRow]
    split
    · rename_i hfailed
      have hpos : max before.hits.length 1 ≠ 0 := by omega
      simp [hpos, hfailed]
    · rename_i hpassed
      split
      · rename_i hraised
        simp [hpassed, hraised]
      · rename_i hraised
        have hpos : (max ((before.hits.length : Int) - after.answers.length + after.unknown)
            1).toNat ≠ 0 := by omega
        simp [hpos, hraised]
  rw [SurfaceErasure.coverageVerdict_erased_iff, hunverifiable, unrefused_iff, Reading.clear_iff,
    ← List.length_pos_iff, ← List.length_eq_zero_iff]
  show (purgeOutcome deleted).1 = true ∧ true = true ∧ 0 < before.hits.length ∧
    after.hits.length = 0 ∧ _ ↔ _
  tauto

/-- The verdict ERASED of a planned surface, by what was asked of the adapters and answered. -/
theorem eraseSurface_erased_iff {entry : PlanEntry σ} (hentry : entry ∈ probe.plan)
    (markers : List Marker) (s : ErasureState σ) :
    (eraseSurface target markers entry s).1.1.coverageVerdict = .erased ↔
      ∃ before s₁ deleted w₂ w₃, entry.scan target markers s.reset = (.ok before, s₁) ∧
        before ≠ [] ∧ entry.delete target s₁.world = (deleted, w₂) ∧ Unrefused deleted ∧
          probe.RulesOut target markers entry.surface w₂ w₃ := by
  have hscans := probe.plan_scansAs target hentry
  have hreads := hscans.reads markers s.reset
  have hworld : s.reset.world = s.world := rfl
  rw [hworld] at hreads
  cases hraised : (probe.reading target markers entry.surface s.world).raised with
  | some e =>
    rw [eraseSurface_raised hscans hraised]
    constructor
    · intro h
      cases h
    · rintro ⟨before, s₁, deleted, w₂, w₃, hscan, -⟩
      have hresult := hreads.result
      rw [hscan, hraised] at hresult
      cases hresult
  | none =>
    rcases hdelete : entry.delete target (probe.reading target markers entry.surface s.world).world
      with ⟨deleted, w₂⟩
    rw [eraseSurface_scanned hscans hraised hdelete, erasureRow_erased_iff]
    have hresult := hreads.result
    rw [hraised] at hresult
    constructor
    · rintro ⟨hhits, hunrefused, hclear⟩
      refine ⟨_, (entry.scan target markers s.reset).2, deleted, w₂, _, Prod.ext hresult rfl, hhits,
        ?_, hunrefused, (probe.clear_iff_rulesOut target hentry markers w₂ _).mp ⟨hclear, rfl⟩⟩
      rw [hreads.world, hdelete]
    · rintro ⟨before, s₁, deleted', w₂', w₃, hscan, hbefore, hdelete', hunrefused, hrules⟩
      rw [hscan] at hresult hreads
      have hs₁ : s₁.world = (probe.reading target markers entry.surface s.world).world :=
        hreads.world
      obtain rfl := Except.ok.inj hresult
      rw [hs₁, hdelete] at hdelete'
      obtain ⟨rfl, rfl⟩ := Prod.mk.inj hdelete'
      exact ⟨hbefore, hunrefused,
        ((probe.clear_iff_rulesOut target hentry markers w₂ w₃).mpr hrules).1⟩

section Run

variable (scope : Option (List Surface)) (unseeded : Option (Dict Surface String))
  (s₀ : ErasureState σ)

/-- The run of the plan comes to a surface that is in scope and seeded. -/
structure Comes (entry : PlanEntry σ) (s : ErasureState σ) : Prop where
  visits : Visits (planStep target (ownMarkers target probe) scope unseeded) probe.plan s₀ entry s
  inScope : ∀ surfaces, scope = some surfaces → entry.surface ∈ surfaces
  seeded : ∀ reasons, unseeded = some reasons → entry.surface ∉ reasons

/-- What the verdict ERASED promises: the run came to the surface, its pre-scan observed a marker of
the tenant, the delete returned, and the post-scan ruled out every marker of the tenant. -/
def Attested (surface : Surface) : Prop :=
  ∃ entry s, Comes probe target scope unseeded s₀ entry s ∧ entry.surface = surface ∧
    ∃ before s₁ w₂ w₃,
      entry.scan target (ownMarkers target probe) s.reset = (.ok before, s₁) ∧
      (∃ marker ∈ ownMarkers target probe, marker ∈ before) ∧
      entry.delete target s₁.world = (.ok (), w₂) ∧
      probe.RulesOut target (ownMarkers target probe) surface w₂ w₃

/-- The delete of a surface fails with an exception whose text is empty, between a pre-scan that
observed a marker and a post-scan that rules every marker out. -/
def SilentPurgeFailure : Prop :=
  ∃ entry s, Comes probe target scope unseeded s₀ entry s ∧ ∃ before s₁ e w₂ w₃,
    entry.scan target (ownMarkers target probe) s.reset = (.ok before, s₁) ∧ before ≠ [] ∧
    entry.delete target s₁.world = (.error e, w₂) ∧ e.errorClass ≠ .erasureUnsupported ∧
    e.text = "" ∧ probe.RulesOut target (ownMarkers target probe) entry.surface w₂ w₃

omit [Unicode] [Uuid4 σ] in
/-- One turn of the loop: out of scope it gives nothing, unseeded the row that says so, and else
what the erasure of the surface gives. -/
theorem planStep_eq_some {markers : List Marker} {entry : PlanEntry σ} {s : ErasureState σ}
    {result : SurfaceErasure × List Finding} :
    (planStep target markers scope unseeded entry s).1 = some result ↔
      (∀ surfaces, scope = some surfaces → entry.surface ∈ surfaces) ∧
      ((∀ reasons, unseeded = some reasons → entry.surface ∉ reasons) ∧
          (eraseSurface target markers entry s).1 = result ∨
        ∃ reason, (unseeded.bind fun reasons => reasons.lookup entry.surface) = some reason ∧
          result = (unseededSurface markers entry.surface reason, [])) := by
  have hscope : (scope.any fun inScope => decide (entry.surface ∉ inScope)) = false ↔
      ∀ surfaces, scope = some surfaces → entry.surface ∈ surfaces := by
    cases scope <;> simp
  have hseeded : (unseeded.bind fun reasons => reasons.lookup entry.surface) = none ↔
      ∀ reasons, unseeded = some reasons → entry.surface ∉ reasons := by
    cases unseeded with
    | none => simp
    | some reasons => simp [AList.lookup_eq_none]
  rw [← hscope, ← hseeded]
  unfold planStep
  split
  · rename_i hout
    rw [hout]
    simp
  · rename_i hin
    rw [Bool.not_eq_true] at hin
    cases hreason : unseeded.bind fun reasons => reasons.lookup entry.surface with
    | some reason =>
      simp only [hin, reduceCtorEq, false_and, false_or, true_and, Option.some.injEq,
        exists_eq_left']
      exact eq_comm
    | none => simp only [hin, true_and, reduceCtorEq, false_and, exists_false, or_false,
        Option.some.injEq]

omit [Unicode] [Uuid4 σ] in
theorem planStep_surface {markers : List Marker} {entry : PlanEntry σ} {s : ErasureState σ}
    {result : SurfaceErasure × List Finding}
    (h : (planStep target markers scope unseeded entry s).1 = some result) :
    result.1.surface = entry.surface := by
  obtain ⟨-, ⟨-, rfl⟩ | ⟨reason, -, rfl⟩⟩ := (planStep_eq_some target scope unseeded).mp h
  · unfold eraseSurface
    simp only
    split
    · rfl
    · split <;> rfl
  · rfl

omit [Unicode] [Uuid4 σ] in
theorem planStep_erased {markers : List Marker} {entry : PlanEntry σ} {s : ErasureState σ}
    {row : SurfaceErasure} (hrow : row.coverageVerdict = .erased) :
    (∃ findings, (planStep target markers scope unseeded entry s).1 = some (row, findings)) ↔
      (∀ surfaces, scope = some surfaces → entry.surface ∈ surfaces) ∧
      (∀ reasons, unseeded = some reasons → entry.surface ∉ reasons) ∧
      (eraseSurface target markers entry s).1.1 = row := by
  constructor
  · rintro ⟨findings, hstep⟩
    obtain ⟨hscope, ⟨hseeded, houtcome⟩ | ⟨reason, -, hunseeded⟩⟩ :=
      (planStep_eq_some target scope unseeded).mp hstep
    · exact ⟨hscope, hseeded, by rw [houtcome]⟩
    · obtain ⟨rfl, -⟩ := Prod.mk.inj hunseeded
      cases hrow
  · rintro ⟨hscope, hseeded, rfl⟩
    exact ⟨_, (planStep_eq_some target scope unseeded).mpr ⟨hscope, Or.inl ⟨hseeded, rfl⟩⟩⟩

omit [Unicode] [Uuid4 σ] in
/-- The run keeps a row for a surface at most once. -/
theorem runPlan_keys (markers : List Marker) (plan : List (PlanEntry σ)) :
    (((runPlan target markers scope unseeded plan s₀).1.map
      fun result => result.1.surface)).Sublist (plan.map PlanEntry.surface) :=
  sweep_keys (fun _ _ _ h => planStep_surface target scope unseeded h) plan s₀

theorem run_surfaces :
    ((run target scope unseeded probe s₀).1.surfaces.map SurfaceErasure.surface).Sublist
      (probe.plan.map PlanEntry.surface) := by
  have hsurfaces : (run target scope unseeded probe s₀).1.surfaces =
      (runPlan target (ownMarkers target probe) scope unseeded probe.plan s₀).1.map Prod.fst := rfl
  rw [hsurfaces, List.map_map]
  exact runPlan_keys target scope unseeded s₀ _ probe.plan

/-- The rows of a run are those of its turns. -/
theorem mem_run_surfaces {row : SurfaceErasure} :
    row ∈ (run target scope unseeded probe s₀).1.surfaces ↔ ∃ entry s findings,
      Visits (planStep target (ownMarkers target probe) scope unseeded) probe.plan s₀ entry s ∧
        (planStep target (ownMarkers target probe) scope unseeded entry s).1 =
          some (row, findings) := by
  have hsurfaces : (run target scope unseeded probe s₀).1.surfaces =
      (runPlan target (ownMarkers target probe) scope unseeded probe.plan s₀).1.map Prod.fst := rfl
  rw [hsurfaces, List.mem_map]
  constructor
  · rintro ⟨result, hresult, rfl⟩
    obtain ⟨entry, s, hvisits, hstep⟩ := mem_sweep.mp hresult
    exact ⟨entry, s, result.2, hvisits, hstep⟩
  · rintro ⟨entry, s, findings, hvisits, hstep⟩
    exact ⟨_, mem_sweep.mpr ⟨entry, s, hvisits, hstep⟩, rfl⟩

/-- The report of a run gives a surface the verdict ERASED exactly when the run came to it and its
erasure reads ERASED. -/
theorem run_erased_iff (surface : Surface) :
    (run target scope unseeded probe s₀).1.coverage.lookup surface = some .erased ↔
      ∃ entry s, Comes probe target scope unseeded s₀ entry s ∧ entry.surface = surface ∧
        (eraseSurface target (ownMarkers target probe) entry s).1.1.coverageVerdict = .erased := by
  have hrows := run_surfaces probe target scope unseeded s₀
  rw [ErasureReport.coverage_eq_some _ (probe.plan_surfaces_nodup.sublist hrows)
    (fun row hrow => probe.plan_surfaces.subset (hrows.subset (List.mem_map_of_mem hrow)))
    (by decide)]
  constructor
  · rintro ⟨row, hrow, rfl, herased⟩
    obtain ⟨entry, s, findings, hvisits, hstep⟩ :=
      (mem_run_surfaces probe target scope unseeded s₀).mp hrow
    obtain ⟨hscope, hseeded, hrow⟩ :=
      (planStep_erased target scope unseeded herased).mp ⟨findings, hstep⟩
    exact ⟨entry, s, ⟨hvisits, hscope, hseeded⟩,
      (planStep_surface target scope unseeded hstep).symm, by rw [hrow]; exact herased⟩
  · rintro ⟨entry, s, hcomes, rfl, herased⟩
    obtain ⟨findings, hstep⟩ := (planStep_erased target scope unseeded herased).mpr
      ⟨hcomes.inScope, hcomes.seeded, rfl⟩
    have hsurface := planStep_surface target scope unseeded hstep
    exact ⟨_, (mem_run_surfaces probe target scope unseeded s₀).mpr
      ⟨entry, s, findings, hcomes.visits, hstep⟩, hsurface, herased⟩

theorem scan_subset {entry : PlanEntry σ} (hentry : entry ∈ probe.plan)
    {markers before : List Marker} {s s₁ : ErasureState σ}
    (h : entry.scan target markers s.reset = (.ok before, s₁)) :
    before ⊆ markers := by
  have hresult := ((probe.plan_scansAs target hentry).reads markers s.reset).result
  rw [h] at hresult
  have hhits := probe.reading_hits target markers entry.surface s.reset.world
  cases hraised : (probe.reading target markers entry.surface s.reset.world).raised with
  | none =>
    rw [hraised] at hresult
    obtain rfl := Except.ok.inj hresult
    exact hhits
  | some e =>
    rw [hraised] at hresult
    cases hresult

/-- The report of a run has one verdict for every erasure surface, and ERASED only for a surface
whose erasure is attested, exactly when no purge of the run fails silently. -/
theorem run_attested_iff :
    ((run target scope unseeded probe s₀).1.coverage.keys = erasureSurfaces ∧
      ∀ surface, (run target scope unseeded probe s₀).1.coverage.lookup surface = some .erased →
        Attested probe target scope unseeded s₀ surface) ↔
      ¬SilentPurgeFailure probe target scope unseeded s₀ := by
  constructor
  · rintro ⟨-, hattested⟩ ⟨entry, s, hcomes, before, s₁, e, w₂, w₃, hscan, hbefore, hdelete, hclass,
      htext, hrules⟩
    have hentry := hcomes.visits.mem
    have herased := (probe.eraseSurface_erased_iff target hentry (ownMarkers target probe) s).mpr
      ⟨before, s₁, .error e, w₂, w₃, hscan, hbefore, hdelete, Or.inr ⟨e, rfl, hclass, htext⟩,
        hrules⟩
    obtain ⟨entry', s', hcomes', hsurface, before', s₁', w₂', w₃', hscan', -, hdelete', -⟩ :=
      hattested entry.surface ((probe.run_erased_iff target scope unseeded s₀ _).mpr
        ⟨entry, s, hcomes, rfl, herased⟩)
    obtain ⟨rfl, rfl⟩ :=
      hcomes'.visits.unique probe.plan_surfaces_nodup hcomes.visits hsurface
    rw [hscan] at hscan'
    obtain ⟨-, rfl⟩ := Prod.mk.inj hscan'
    rw [hdelete] at hdelete'
    cases hdelete'
  · intro hsilent
    refine ⟨ErasureReport.coverage_keys _, fun surface hverdict => ?_⟩
    obtain ⟨entry, s, hcomes, rfl, herased⟩ :=
      (probe.run_erased_iff target scope unseeded s₀ surface).mp hverdict
    have hentry := hcomes.visits.mem
    obtain ⟨before, s₁, deleted, w₂, w₃, hscan, hbefore, hdelete, hunrefused, hrules⟩ :=
      (probe.eraseSurface_erased_iff target hentry (ownMarkers target probe) s).mp herased
    rcases hunrefused with rfl | ⟨e, rfl, hclass, htext⟩
    · obtain ⟨marker, hmarker⟩ := List.exists_mem_of_ne_nil _ hbefore
      exact ⟨entry, s, hcomes, rfl, before, s₁, w₂, w₃, hscan,
        ⟨marker, probe.scan_subset target hentry hscan hmarker, hmarker⟩, hdelete, hrules⟩
    · exact absurd ⟨entry, s, hcomes, before, s₁, e, w₂, w₃, hscan, hbefore, hdelete, hclass, htext,
        hrules⟩ hsilent

end Run

end Sound

section Sample

attribute [local instance] Unicode.ascii

@[reducible] def storeUuid4 : Uuid4 Bool := ⟨fun world => (⟨0⟩, world)⟩

attribute [local instance] storeUuid4

def canary : Marker :=
  { markerId := "hard-1", markerType := .hardCanary, ownerTenantId := ⟨1⟩
    plaintext := "SECTUM-CANARY-7K2Q", plantedLocations := [⟨"doc-1", "content"⟩] }

/-- A store that purges the tenant's data, and then raises `TimeoutError()`. -/
def timingOutStore : VectorStoreAdapter Bool where
  query _ _ _ stored :=
    (.ok (if stored then [⟨"doc-1", ⟨1⟩, 1, "a note on SECTUM-CANARY-7K2Q"⟩] else []), stored)
  fetch _ _ stored := (.ok none, stored)
  delete _ _ := (.error ⟨.other, ""⟩, false)

def timingOutProbe : ErasureProbe Bool where
  substrate :=
    { scenario := { scenarioId := "demo", seed := 7, tenants := [] }
      tenants := []
      documents := [{ docId := "doc-1", tenantId := ⟨1⟩, docType := "note", title := "a note"
                      content := "a note on SECTUM-CANARY-7K2Q" }]
      manifest := { manifestId := "m", scenarioHash := "h", markers := [canary] } }
  vector := timingOutStore

/-- The delete of the vector store raised, and the surface reads ERASED. -/
theorem timingOut_erased_not_attested :
    (run ⟨1⟩ none none timingOutProbe { world := true }).1.coverage.lookup .vectorDb =
        some .erased ∧
      ¬Attested timingOutProbe ⟨1⟩ none none { world := true } .vectorDb := by
  refine ⟨by decide +kernel, ?_⟩
  rintro ⟨entry, s, hcomes, -, before, s₁, w₂, w₃, -, -, hdelete, -⟩
  have hentry : entry ∈ [PlanEntry.mk .vectorDb timingOutProbe.scanVector timingOutStore.delete] :=
    hcomes.visits.mem
  obtain rfl := List.mem_singleton.mp hentry
  cases hdelete

end Sample

end ErasureProbe

end Sectum
