import Sectum.Probes.Erasure

/-! What the scans of an erasure run leave behind, and what the outcome of one surface is made of:
the answers that its two scans got and the outcome of the delete between them. -/

namespace Sectum

open Py

/-- The answers about the markers of a scan: present, absent, or unknowable. -/
abbrev Reading (σ : Type) := Asked σ Raised Marker (Option Bool)

namespace Reading

variable {σ : Type} (reading : Reading σ)

def hits : List Marker :=
  (reading.answers.filter fun answer => answer.2 = some true).map Prod.fst

/-- The answers that neither find the marker nor rule it out. -/
def unknown : Nat := reading.answers.countP fun answer => answer.2 = none

def Clear : Prop := reading.raised = none ∧ ∀ answer ∈ reading.answers, answer.2 = some false

theorem clear_iff :
    reading.Clear ↔ reading.raised = none ∧ reading.hits = [] ∧ reading.unknown = 0 := by
  unfold Clear hits unknown
  rw [List.map_eq_nil_iff, List.filter_eq_nil_iff, List.countP_eq_zero, ← forall₂_and]
  refine and_congr_right fun _ => forall₂_congr fun answer _ => ?_
  rcases answer.2 with _ | _ | _ <;> simp

end Reading

theorem SurfaceErasure.coverageVerdict_erased_iff (s : SurfaceErasure) :
    s.coverageVerdict = .erased ↔ s.erasureSupported = true ∧ s.baselineObserved = true ∧
      0 < s.markersBefore ∧ s.residualAfter = 0 ∧ s.unverifiableAfter = 0 := by
  unfold coverageVerdict attestableWithCaveat
  cases s.erasureSupported with
  | false => cases s.baselineObserved <;> split_ifs <;> simp_all
  | true =>
    simp only [Bool.not_true, Bool.false_and, Bool.false_eq_true, if_false]
    split_ifs with hresidual hbaseline hunverifiable
    · simp
      omega
    · rcases hbaseline with hbefore | hbaseline
      · simp [hbefore]
      · simp [hbaseline]
    · simp [hunverifiable]
    · rw [not_or, Bool.not_eq_false] at hbaseline
      simp only [true_and, hbaseline.2, true_iff]
      omega

namespace ErasureReport

variable (report : ErasureReport)

theorem coverage_keys : report.coverage.keys = erasureSurfaces := by
  rw [Dict.keys_eq_items, coverage, Dict.items_ofItems]
  · simp [Function.comp_def]
  · simpa [Function.comp_def] using erasureSurfaces_nodup

theorem coverage_eq_some {surface : Surface} {verdict : CoverageVerdict}
    (hrows : (report.surfaces.map SurfaceErasure.surface).Nodup)
    (hsub : ∀ row ∈ report.surfaces, row.surface ∈ erasureSurfaces)
    (hverdict : verdict ≠ .notCovered) :
    report.coverage.lookup surface = some verdict ↔
      ∃ row ∈ report.surfaces, row.surface = surface ∧ row.coverageVerdict = verdict := by
  have hkeys : ((report.surfaces.map fun s => (s.surface, s.coverageVerdict)).map
      Prod.fst).Nodup := by
    simpa [Function.comp_def] using hrows
  have hscanned : ∀ verdict, _ = some verdict ↔ (surface, verdict) ∈ _ := fun verdict =>
    Dict.lookup_ofItems hkeys
  rw [coverage, Dict.lookup_ofItems_map erasureSurfaces_nodup]
  constructor
  · intro h
    split at h
    · have h := Option.some.inj h
      unfold Dict.getD at h
      cases hlook : (Dict.ofItems (report.surfaces.map fun s =>
          (s.surface, s.coverageVerdict))).lookup surface with
      | none =>
        rw [hlook] at h
        exact absurd h.symm hverdict
      | some found =>
        rw [hlook] at h
        obtain rfl : found = verdict := h
        obtain ⟨row, hrow, heq⟩ := List.mem_map.mp ((hscanned found).mp hlook)
        obtain ⟨hsurface, hfound⟩ := Prod.mk.inj heq
        exact ⟨row, hrow, hsurface, hfound⟩
    · cases h
  · rintro ⟨row, hrow, rfl, rfl⟩
    have hlook := (hscanned row.coverageVerdict).mpr (List.mem_map.mpr ⟨row, hrow, rfl⟩)
    rw [if_pos (hsub row hrow), Dict.getD, hlook]
    rfl

end ErasureReport

namespace ErasureProbe

variable {σ : Type}

/-- A scan from state `s` has read `reading`: what it returns or raises, and what it leaves in the
fields of the probe. -/
structure Reads (s : ErasureState σ) (reading : Reading σ)
    (outcome : Except Raised (List Marker) × ErasureState σ) : Prop where
  result : outcome.1 = reading.raised.elim (.ok (s.partialHits ++ reading.hits)) .error
  partialHits : outcome.2.partialHits = s.partialHits ++ reading.hits
  decided : outcome.2.decided = s.decided + reading.answers.length
  world : outcome.2.world = reading.world

theorem Reads.cons {s s' : ErasureState σ} {ask : Marker → Call σ Raised (Option Bool)}
    {marker : Marker} {markers : List Marker} {seen : Option Bool}
    {outcome : Except Raised (List Marker) × ErasureState σ}
    (hask : ask marker s.world = (.ok seen, s'.world))
    (hhits : s'.partialHits = if seen = some true then s.partialHits ++ [marker] else s.partialHits)
    (hdecided : s'.decided = s.decided + 1)
    (h : Reads s' (askAll ask markers s'.world) outcome) :
    Reads s (askAll ask (marker :: markers) s.world) outcome := by
  have hreading : s'.partialHits ++ Reading.hits (askAll ask markers s'.world) =
      s.partialHits ++ Reading.hits (askAll ask (marker :: markers) s.world) := by
    rw [hhits, askAll_cons_ok hask]
    by_cases hseen : seen = some true <;> simp [Reading.hits, hseen]
  refine ⟨?_, ?_, ?_, ?_⟩
  · rw [h.result, hreading, askAll_cons_ok hask]
  · rw [h.partialHits, hreading]
  · rw [h.decided, hdecided, askAll_cons_ok hask, List.length_cons]
    omega
  · rw [h.world, askAll_cons_ok hask]

theorem Reads.raise {s : ErasureState σ} {ask : Marker → Call σ Raised (Option Bool)}
    {marker : Marker} {markers : List Marker} {e : Raised} {world : σ}
    (hask : ask marker s.world = (.error e, world)) :
    Reads s (askAll ask (marker :: markers) s.world) (.error e, { s with world }) := by
  rw [askAll_cons_error hask]
  exact ⟨rfl, by simp [Reading.hits], rfl, rfl⟩

/-- A surface that always knows its answer. -/
def definite (ask : Marker → Call σ Raised Bool) (marker : Marker) : Call σ Raised (Option Bool) :=
  Call.map some (ask marker)

theorem scanMarkers_reads (ask : Marker → Call σ Raised Bool) (markers : List Marker)
    (s : ErasureState σ) :
    Reads s (askAll (definite ask) markers s.world) (scanMarkers ask markers s) := by
  induction markers generalizing s with
  | nil => exact ⟨by simp [scanMarkers, askAll, Reading.hits], by simp [scanMarkers, askAll,
      Reading.hits], rfl, rfl⟩
  | cons marker markers ih =>
    rcases hm : ask marker s.world with ⟨e | seen, world⟩
    · rw [scanMarkers, hm]
      exact Reads.raise (Call.map_error hm)
    · rw [scanMarkers, hm]
      exact Reads.cons (Call.map_ok hm) (by simp) rfl (ih _)

theorem scanMarkers_inconclusive (ask : Marker → Call σ Raised Bool) (markers : List Marker)
    (s : ErasureState σ) : (scanMarkers ask markers s).2.inconclusive = s.inconclusive := by
  induction markers generalizing s with
  | nil => rfl
  | cons marker markers ih =>
    rcases hm : ask marker s.world with ⟨e | seen, world⟩
    · rw [scanMarkers, hm]
    · rw [scanMarkers, hm]
      exact ih _

theorem unknown_definite (ask : Marker → Call σ Raised Bool) (markers : List Marker) (world : σ) :
    Reading.unknown (askAll (definite ask) markers world) = 0 := by
  induction markers generalizing world with
  | nil => rfl
  | cons marker markers ih =>
    rcases hm : ask marker world with ⟨e | seen, after⟩
    · have hdefinite : definite ask marker world = (.error e, after) := Call.map_error hm
      rw [askAll_cons_error hdefinite]
      rfl
    · have hdefinite : definite ask marker world = (.ok (some seen), after) := Call.map_ok hm
      rw [askAll_cons_ok hdefinite]
      simpa [Reading.unknown] using ih after

section Vector

variable [Unicode] (probe : ErasureProbe σ) (target : UUID)

theorem scanVectorFrom_reads (markers : List Marker) (inconclusive : Nat) (s : ErasureState σ) :
    Reads s (askAll (probe.markerObservable target) markers s.world)
      (probe.scanVectorFrom target markers inconclusive s) := by
  induction markers generalizing inconclusive s with
  | nil => exact ⟨by simp [scanVectorFrom, askAll, Reading.hits], by simp [scanVectorFrom, askAll,
      Reading.hits], rfl, rfl⟩
  | cons marker markers ih =>
    rcases hm : probe.markerObservable target marker s.world with ⟨e | seen, world⟩
    · rw [scanVectorFrom, hm]
      exact Reads.raise hm
    · rw [scanVectorFrom, hm]
      exact Reads.cons hm rfl rfl (ih _ _)

/-- The counter after a scan: untouched when no marker was answered, else the answers that a full
page hid, on top of those counted before. -/
theorem scanVectorFrom_inconclusive (markers : List Marker) (inconclusive : Nat)
    (s : ErasureState σ) :
    let reading : Reading σ := askAll (probe.markerObservable target) markers s.world
    (probe.scanVectorFrom target markers inconclusive s).2.inconclusive.lookup .vectorDb =
      if reading.answers = [] then s.inconclusive.lookup .vectorDb
      else some (inconclusive + reading.unknown) := by
  induction markers generalizing inconclusive s with
  | nil => simp [scanVectorFrom, askAll]
  | cons marker markers ih =>
    rcases hm : probe.markerObservable target marker s.world with ⟨e | seen, world⟩
    · rw [scanVectorFrom, hm, askAll_cons_error hm]
      simp
    · rw [scanVectorFrom, hm, askAll_cons_ok hm]
      simp only [ih, Dict.lookup_set_self, reduceCtorEq, if_false]
      cases hrest : (askAll (probe.markerObservable target) markers world).answers with
      | nil => cases seen <;> simp [Reading.unknown]
      | cons answer rest =>
        cases seen with
        | none =>
          simp [Reading.unknown, hrest, List.countP_cons]
          omega
        | some seen => simp [Reading.unknown, hrest, List.countP_cons]

end Vector

section Plan

variable [Unicode] [Uuid4 σ] (probe : ErasureProbe σ) (target : UUID)

/-- What a surface answers about a marker, where each marker is read by itself. -/
def ask : Surface → Option (Marker → Call σ Raised Bool)
  | .tracing => probe.observability.map fun a marker =>
      Call.map (fun hits => !hits.isEmpty) (a.searchTraces target marker.plaintext)
  | .agentMemory => probe.memory.map fun a marker =>
      Call.map (carriedBy marker) (a.recall target marker.plaintext)
  | .modelAdapter => (probe.model.filter modelCanMemorize).map fun a marker =>
      contentRecalled a target marker.plaintext
  | .searchIndex => probe.searchIndex.map fun a marker =>
      Call.map (carriedBy marker) (a.search target marker.plaintext)
  | .evalSet => probe.evalSet.map fun a marker =>
      Call.map (carriedBy marker) (a.search target marker.plaintext)
  | .backup => probe.backup.map fun a marker =>
      Call.map (carriedBy marker) (a.search target marker.plaintext)
  | _ => none

def reading (markers : List Marker) (surface : Surface) (world : σ) : Reading σ :=
  match surface, probe.cache, probe.ask target surface with
  | .vectorDb, _, _ => askAll (probe.markerObservable target) markers world
  | .semanticCache, some cache, _ =>
    match cache.values target world with
    | (.error e, after) => ⟨[], some e, after⟩
    | (.ok values, after) =>
      askAll (definite fun marker world => (.ok (carriedBy marker values), world)) markers after
  | _, _, some ask => askAll (definite ask) markers world
  | _, _, none => ⟨[], none, world⟩

omit [Unicode] [Uuid4 σ] in
theorem askAll_hits (ask : Marker → Call σ Raised (Option Bool)) (markers : List Marker)
    (world : σ) : Reading.hits (askAll ask markers world) ⊆ markers := by
  intro marker hmarker
  obtain ⟨answer, hanswer, rfl⟩ := List.mem_map.mp hmarker
  exact (askAll_isPrefix ask markers world).subset
    (List.mem_map_of_mem (List.mem_of_mem_filter hanswer))

theorem reading_hits (markers : List Marker) (surface : Surface) (world : σ) :
    (probe.reading target markers surface world).hits ⊆ markers := by
  unfold reading
  split
  · exact askAll_hits _ markers world
  · split
    · exact List.nil_subset _
    · exact askAll_hits _ markers _
  · exact askAll_hits _ markers world
  · exact List.nil_subset _

/-- A scan of a surface reads what `reading` says, and counts the answers that it does not know. -/
structure ScansAs (entry : PlanEntry σ) : Prop where
  reads : ∀ markers s, Reads s (probe.reading target markers entry.surface s.world)
    (entry.scan target markers s)
  inconclusive : ∀ markers s, s.inconclusive.lookup entry.surface = none →
    (entry.scan target markers s).2.inconclusive.getD entry.surface 0 =
      (probe.reading target markers entry.surface s.world).unknown

theorem reading_ask {surface : Surface} {ask : Marker → Call σ Raised Bool}
    (h : probe.ask target surface = some ask) (markers : List Marker) (world : σ) :
    probe.reading target markers surface world = askAll (definite ask) markers world := by
  unfold reading
  cases surface <;> simp only [h] <;> cases h

theorem scansAs_ask {entry : PlanEntry σ} {ask : Marker → Call σ Raised Bool}
    (hask : probe.ask target entry.surface = some ask)
    (hscan : ∀ markers s, entry.scan target markers s = scanMarkers ask markers s) :
    probe.ScansAs target entry := by
  refine ⟨fun markers s => ?_, fun markers s hfresh => ?_⟩
  · rw [probe.reading_ask target hask, hscan]
    exact scanMarkers_reads ask markers s
  · rw [probe.reading_ask target hask, hscan, Dict.getD, scanMarkers_inconclusive, hfresh,
      unknown_definite]
    rfl

theorem scansAs_vector :
    probe.ScansAs target ⟨.vectorDb, probe.scanVector, probe.vector.delete⟩ := by
  refine ⟨fun markers s => probe.scanVectorFrom_reads target markers 0 s,
    fun markers s hfresh => ?_⟩
  have hcount := probe.scanVectorFrom_inconclusive target markers 0 s
  show (probe.scanVectorFrom target markers 0 s).2.inconclusive.getD .vectorDb 0 =
    Reading.unknown (askAll (probe.markerObservable target) markers s.world)
  rw [Dict.getD, hcount]
  split
  · rename_i hnil
    rw [hfresh, Reading.unknown, hnil]
    rfl
  · simp

theorem scansAs_cache {cache : CacheAdapter σ} (h : probe.cache = some cache) :
    probe.ScansAs target ⟨.semanticCache, probe.scanCache, cache.delete⟩ := by
  refine ⟨fun markers s => ?_, fun markers s hfresh => ?_⟩
  · show Reads s (probe.reading target markers .semanticCache s.world)
      (probe.scanCache target markers s)
    unfold reading scanCache
    rw [h]
    rcases hvalues : cache.values target s.world with ⟨e | values, world⟩
    · simp only [hvalues]
      exact ⟨rfl, by simp [Reading.hits], rfl, rfl⟩
    · simp only [hvalues]
      have hreads := scanMarkers_reads (fun marker world => (.ok (carriedBy marker values), world))
        markers { s with world }
      exact ⟨hreads.result, hreads.partialHits, hreads.decided, hreads.world⟩
  · show (probe.scanCache target markers s).2.inconclusive.getD .semanticCache 0 =
      (probe.reading target markers .semanticCache s.world).unknown
    unfold reading scanCache
    rw [h, Dict.getD]
    rcases hvalues : cache.values target s.world with ⟨e | values, world⟩
    · simp only [hvalues, hfresh]
      rfl
    · simp only [hvalues, scanMarkers_inconclusive, hfresh, unknown_definite]
      rfl

theorem plan_cases {entry : PlanEntry σ} (hentry : entry ∈ probe.plan) :
    entry = ⟨.vectorDb, probe.scanVector, probe.vector.delete⟩ ∨
    (∃ cache, probe.cache = some cache ∧
      entry = ⟨.semanticCache, probe.scanCache, cache.delete⟩) ∨
    ∃ ask, probe.ask target entry.surface = some ask ∧
      ∀ markers s, entry.scan target markers s = scanMarkers ask markers s := by
  simp only [plan, List.mem_append, List.mem_singleton, Option.mem_toList,
    Option.map_eq_some_iff] at hentry
  rcases hentry with (((((((rfl | ⟨a, ha, rfl⟩) | ⟨a, ha, rfl⟩) | ⟨a, ha, rfl⟩) | ⟨a, ha, rfl⟩) |
    ⟨a, ha, rfl⟩) | ⟨a, ha, rfl⟩) | ⟨a, ha, rfl⟩)
  · exact Or.inl rfl
  · exact Or.inr (Or.inr ⟨_, congrArg (Option.map _) ha,
      fun markers s => by simp [scanObservability, ha]⟩)
  · exact Or.inr (Or.inr ⟨_, congrArg (Option.map _) ha,
      fun markers s => by simp [scanMemory, ha]⟩)
  · exact Or.inr (Or.inl ⟨a, ha, rfl⟩)
  · obtain ⟨hmodel, hcan⟩ := Option.filter_eq_some_iff.mp ha
    exact Or.inr (Or.inr ⟨_, congrArg (Option.map _) ha,
      fun markers s => by simp [scanModel, hmodel, hcan]⟩)
  · exact Or.inr (Or.inr ⟨_, congrArg (Option.map _) ha,
      fun markers s => by simp [scanSearch, ha]⟩)
  · exact Or.inr (Or.inr ⟨_, congrArg (Option.map _) ha,
      fun markers s => by simp [scanEval, ha]⟩)
  · exact Or.inr (Or.inr ⟨_, congrArg (Option.map _) ha,
      fun markers s => by simp [scanBackup, ha]⟩)

/-- Every entry of the plan scans its surface. -/
theorem plan_scansAs {entry : PlanEntry σ} (hentry : entry ∈ probe.plan) :
    probe.ScansAs target entry := by
  rcases probe.plan_cases target hentry with rfl | ⟨cache, hcache, rfl⟩ | ⟨ask, hask, hscan⟩
  · exact probe.scansAs_vector target
  · exact probe.scansAs_cache target hcache
  · exact probe.scansAs_ask target hask hscan

theorem plan_surfaces : (probe.plan.map PlanEntry.surface).Sublist erasureSurfaces := by
  have herasure : erasureSurfaces = [Surface.vectorDb] ++ [.tracing] ++ [.agentMemory] ++
      [.semanticCache] ++ [.modelAdapter] ++ [.searchIndex] ++ [.evalSet] ++ [.backup] := rfl
  rw [herasure]
  simp only [plan, List.map_append]
  refine List.Sublist.append (List.Sublist.append (List.Sublist.append (List.Sublist.append
    (List.Sublist.append (List.Sublist.append (List.Sublist.append (List.Sublist.refl _) ?_) ?_)
      ?_) ?_) ?_) ?_) ?_
  all_goals
    refine map_option_sublist (fun a => ?_) _
    rfl

theorem plan_surfaces_nodup : (probe.plan.map PlanEntry.surface).Nodup :=
  erasureSurfaces_nodup.sublist probe.plan_surfaces

end Plan

section Surface

variable [Unicode] [Uuid4 σ] (probe : ErasureProbe σ) (target : UUID) (markers : List Marker)

/-- The row of a surface whose pre-scan read `before` and whose post-scan read `after`, with what
the delete between them returned or raised. -/
def erasureRow (surface : Surface) (before after : Reading σ) (deleted : Except Raised Unit) :
    SurfaceErasure :=
  let (supported, purgeFailed) := purgeOutcome deleted
  { surface
    markersBefore := before.hits.length
    residualAfter := after.hits.length
    erasureSupported := supported
    unverifiableAfter :=
      if truthy purgeFailed then max before.hits.length 1
      else if after.raised = none then after.unknown
      else (max ((before.hits.length : Int) - after.answers.length + after.unknown) 1).toNat
    unverifiableReason :=
      match after.raised with
      | none => purgeFailed
      | some e =>
        if truthy purgeFailed then
          some (purgeFailed.getD "" ++ "; the post-erasure scan then failed: " ++ e.text)
        else some e.text }

def erasureFindings (surface : Surface) (before after : Reading σ) (deleted : Except Raised Unit) :
    List Finding :=
  if (purgeOutcome deleted).1 then
    after.hits.map fun marker => residualFinding target marker surface
  else before.hits.map fun marker => caveatFinding target marker surface

variable {probe target markers}

theorem eraseSurface_raised {entry : PlanEntry σ} (h : probe.ScansAs target entry)
    {s : ErasureState σ} {e : Raised}
    (hraised : (probe.reading target markers entry.surface s.world).raised = some e) :
    (eraseSurface target markers entry s).1 =
      ({ surface := entry.surface, markersBefore := 0, residualAfter := 0, unverifiableAfter := 1
         unverifiableReason := some e.text }, []) := by
  have hreads := (h.reads markers s.reset).result
  have hworld : s.reset.world = s.world := rfl
  rw [hworld, hraised] at hreads
  unfold eraseSurface
  rcases hscan : entry.scan target markers s.reset with ⟨result, s₁⟩
  rw [hscan] at hreads
  obtain rfl : result = .error e := hreads
  rfl

/-- A pre-scan that completed, whatever the delete and the post-scan did. -/
theorem eraseSurface_scanned {entry : PlanEntry σ} (h : probe.ScansAs target entry)
    {s : ErasureState σ} {deleted : Except Raised Unit} {world : σ}
    (hbefore : (probe.reading target markers entry.surface s.world).raised = none)
    (hdelete : entry.delete target (probe.reading target markers entry.surface s.world).world =
      (deleted, world)) :
    (eraseSurface target markers entry s).1 =
      (erasureRow entry.surface (probe.reading target markers entry.surface s.world)
          (probe.reading target markers entry.surface world) deleted,
        erasureFindings target entry.surface
          (probe.reading target markers entry.surface s.world)
          (probe.reading target markers entry.surface world) deleted) := by
  have hreads := h.reads markers s.reset
  have hresult := hreads.result
  have hworld : s.reset.world = s.world := rfl
  rw [hworld, hbefore] at hresult
  unfold eraseSurface
  rcases hscan : entry.scan target markers s.reset with ⟨result, s₁⟩
  rw [hscan] at hresult hreads
  obtain rfl : result = .ok (probe.reading target markers entry.surface s.world).hits := hresult
  have hs₁ : s₁.world = (probe.reading target markers entry.surface s.world).world := hreads.world
  simp only [hs₁, hdelete]
  -- the counter of this surface is gone before the post-scan
  let s₂ : ErasureState σ :=
    ErasureState.reset { s₁ with world, inconclusive := s₁.inconclusive.erase entry.surface }
  have hafter := h.reads markers s₂
  have hcount := h.inconclusive markers s₂ (AList.lookup_erase _ _)
  rcases hpost : entry.scan target markers s₂ with ⟨result, s₃⟩
  rw [hpost] at hafter hcount
  have hresult := hafter.result
  have hhits := hafter.partialHits
  have hdecided := hafter.decided
  have hw : s₂.world = world := rfl
  rw [hw] at hresult hhits hdecided hcount
  cases hraised : (probe.reading target markers entry.surface world).raised with
  | none =>
    rw [hraised] at hresult
    obtain rfl : result = .ok (probe.reading target markers entry.surface world).hits := hresult
    simp [erasureRow, erasureFindings, hraised, hcount]
  | some e =>
    rw [hraised] at hresult
    obtain rfl : result = .error e := hresult
    have hhits' : s₃.partialHits = (probe.reading target markers entry.surface world).hits := hhits
    have hdecided' : s₃.decided =
        (probe.reading target markers entry.surface world).answers.length := by
      rw [hdecided]
      exact Nat.zero_add _
    simp only [erasureRow, erasureFindings, hraised, hcount, hhits', hdecided']
    split <;> simp_all

end Surface

end ErasureProbe

end Sectum
