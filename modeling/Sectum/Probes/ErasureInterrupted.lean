import Sectum.Probes.ErasureSound

/-! A post-erasure scan that raises part-way: what the row of the surface then reports, against the
markers of the baseline that the partial scan left open. -/

namespace Sectum

open Py

namespace Reading

variable {σ : Type} (before after : Reading σ)

/-- The markers that the earlier reading found and the later one neither found nor ruled out: it
did not come to them, or a full page hid the answer. -/
def leftOpen : Nat :=
  ((before.answers.drop after.answers.length).countP fun answer => answer.2 = some true) +
    (before.answers.zip after.answers).countP fun pair => pair.1.2 = some true ∧ pair.2.2 = none

/-- The later reading found or ruled out only what the earlier one had found. -/
def DecidesWithin : Prop :=
  ∀ pair ∈ before.answers.zip after.answers, pair.2.2 ≠ none → pair.1.2 = some true

variable {before after}

/-- The count that the code keeps falls short by the decided markers outside the baseline. -/
theorem hits_sub_answers (hlen : after.answers.length ≤ before.answers.length) :
    (before.hits.length : Int) - after.answers.length + after.unknown =
      leftOpen before after -
        (before.answers.zip after.answers).countP
          fun pair => pair.2.2 ≠ none ∧ pair.1.2 ≠ some true := by
  unfold hits unknown leftOpen
  rw [List.length_map, ← List.countP_eq_length_filter]
  generalize before.answers = asked at hlen
  generalize after.answers = answered at hlen
  induction asked generalizing answered with
  | nil =>
    obtain rfl := List.length_eq_zero_iff.mp (Nat.le_zero.mp hlen)
    simp
  | cons first asked ih =>
    cases answered with
    | nil => simp
    | cons later answered =>
      have ih := ih answered (Nat.le_of_succ_le_succ hlen)
      obtain ⟨marker, found⟩ := first
      obtain ⟨marker', answer⟩ := later
      simp only [List.countP_cons, List.zip_cons_cons, List.length_cons, List.drop_succ_cons,
        Bool.decide_and, decide_not, ne_eq] at ih ⊢
      cases answer <;> by_cases hfound : found = some true <;> simp [hfound] <;> omega

theorem leftOpen_le_iff (hlen : after.answers.length ≤ before.answers.length) :
    leftOpen before after ≤
        (max ((before.hits.length : Int) - after.answers.length + after.unknown) 1).toNat ↔
      leftOpen before after ≤ 1 ∨ DecidesWithin before after := by
  have hdecides : DecidesWithin before after ↔
      (before.answers.zip after.answers).countP
        (fun pair => pair.2.2 ≠ none ∧ pair.1.2 ≠ some true) = 0 := by
    unfold DecidesWithin
    rw [List.countP_eq_zero]
    simp
  rw [hits_sub_answers hlen, hdecides]
  omega

theorem leftOpen_le_hits (hlen : after.answers.length ≤ before.answers.length) :
    leftOpen before after ≤ before.hits.length := by
  have hcount := hits_sub_answers hlen
  have hforeign : (before.answers.zip after.answers).countP
      (fun pair => pair.2.2 ≠ none ∧ pair.1.2 ≠ some true) ≤
      after.answers.countP fun answer => ¬answer.2 = none := by
    calc _ ≤ (before.answers.zip after.answers).countP (fun pair => ¬pair.2.2 = none) :=
          List.countP_mono_left fun pair _ hpair => by simp_all
      _ = ((before.answers.zip after.answers).map Prod.snd).countP fun answer => ¬answer.2 = none := by
          rw [List.countP_map]
          rfl
      _ = _ := by rw [List.map_snd_zip hlen]
  have hsplit := List.length_eq_countP_add_countP (l := after.answers)
    fun answer : Marker × Option Bool => decide (answer.2 = none)
  unfold unknown at hcount
  simp only [decide_eq_true_eq] at hsplit
  omega

end Reading

namespace ErasureProbe

section Interrupted

variable {σ : Type} [Unicode] [Uuid4 σ] {probe : ErasureProbe σ} {target : UUID}
  {markers : List Marker}

theorem reading_answers_le (surface : Surface) (world : σ) :
    (probe.reading target markers surface world).answers.length ≤ markers.length := by
  unfold reading
  split
  · exact askAll_length_le _ markers world
  · split
    · exact Nat.zero_le _
    · exact askAll_length_le _ markers _
  · exact askAll_length_le _ markers world
  · exact Nat.zero_le _

/-- A scan of a surface in the plan that did not raise answered about every marker. -/
theorem reading_answers_eq {entry : PlanEntry σ} (hentry : entry ∈ probe.plan) {world : σ}
    (h : (probe.reading target markers entry.surface world).raised = none) :
    (probe.reading target markers entry.surface world).answers.map Prod.fst = markers := by
  rcases probe.plan_cases target hentry with rfl | ⟨cache, hcache, rfl⟩ | ⟨ask, hask, -⟩
  · exact askAll_complete h
  · unfold reading at h ⊢
    rw [hcache] at h ⊢
    rcases hvalues : cache.values target world with ⟨e | values, after⟩
    · simp only [hvalues] at h
      cases h
    · simp only [hvalues] at h ⊢
      exact askAll_complete h
  · rw [probe.reading_ask target hask] at h ⊢
    exact askAll_complete h

/-- What a row owes to a post-scan that raised: everything that the partial scan observed, and no
baseline marker that it left open. -/
def ReportsPartial (target : UUID) (before after : Reading σ)
    (result : SurfaceErasure × List Finding) : Prop :=
  result.1.residualAfter = after.hits.length ∧
  (result.1.erasureSupported = true → result.2 = after.hits.map fun marker =>
    residualFinding target marker result.1.surface) ∧
  Reading.leftOpen before after ≤ result.1.unverifiableAfter

/-- The row of an interrupted post-scan is complete exactly when the purge failed, or at most one
baseline marker was left open, or the partial scan decided no marker outside the baseline. -/
theorem eraseSurface_interrupted {entry : PlanEntry σ} (hentry : entry ∈ probe.plan)
    {s : ErasureState σ} {deleted : Except Raised Unit} {world : σ} {e : Raised}
    (hbefore : (probe.reading target markers entry.surface s.world).raised = none)
    (hdelete : entry.delete target (probe.reading target markers entry.surface s.world).world =
      (deleted, world))
    (hafter : (probe.reading target markers entry.surface world).raised = some e) :
    ReportsPartial target (probe.reading target markers entry.surface s.world)
        (probe.reading target markers entry.surface world) (eraseSurface target markers entry s).1 ↔
      truthy (purgeOutcome deleted).2 = true ∨
      Reading.leftOpen (probe.reading target markers entry.surface s.world)
        (probe.reading target markers entry.surface world) ≤ 1 ∨
      Reading.DecidesWithin (probe.reading target markers entry.surface s.world)
        (probe.reading target markers entry.surface world) := by
  have hlen : (probe.reading target markers entry.surface world).answers.length ≤
      (probe.reading target markers entry.surface s.world).answers.length := by
    have hmarkers := congrArg List.length (probe.reading_answers_eq hentry hbefore)
    rw [List.length_map] at hmarkers
    rw [hmarkers]
    exact reading_answers_le _ _
  rw [eraseSurface_scanned (probe.plan_scansAs target hentry) hbefore hdelete]
  generalize probe.reading target markers entry.surface s.world = before at hlen ⊢
  generalize probe.reading target markers entry.surface world = after at hafter hlen ⊢
  have hobserved : ReportsPartial target before after (erasureRow entry.surface before after deleted,
      erasureFindings target entry.surface before after deleted) ↔
      Reading.leftOpen before after ≤
        (erasureRow entry.surface before after deleted).unverifiableAfter := by
    have hsupported : (erasureRow entry.surface before after deleted).erasureSupported =
        (purgeOutcome deleted).1 := rfl
    refine ⟨fun h => h.2.2, fun h => ⟨rfl, fun hs => ?_, h⟩⟩
    exact if_pos (hsupported ▸ hs)
  rw [hobserved, ← Reading.leftOpen_le_iff hlen]
  have hcount : (erasureRow entry.surface before after deleted).unverifiableAfter =
      if truthy (purgeOutcome deleted).2 then max before.hits.length 1
      else (max ((before.hits.length : Int) - after.answers.length + after.unknown) 1).toNat := by
    show (if truthy (purgeOutcome deleted).2 then max before.hits.length 1
      else if after.raised = none then after.unknown else _) = _
    rw [hafter, if_neg (Option.some_ne_none e)]
  rw [hcount]
  by_cases hpurge : truthy (purgeOutcome deleted).2 = true
  · have hle := Reading.leftOpen_le_hits hlen
    rw [if_pos hpurge]
    exact iff_of_true (hle.trans (Nat.le_max_left _ _)) (.inl hpurge)
  · rw [if_neg hpurge]
    exact (or_iff_right hpurge).symm

end Interrupted

section Sample

attribute [local instance] Unicode.ascii storeUuid4

/-- `canary`, planted in one document. -/
def plantedIn (docId : String) : Marker :=
  { canary with markerId := docId, plantedLocations := [⟨docId, "content"⟩] }

/-- The first canary was never ingested.  A store that is purged answers about it, and then raises
`TimeoutError()`. -/
def flakyStore : VectorStoreAdapter Bool where
  query _ title _ stored :=
    if title = "one" then (.ok [], stored)
    else if stored then (.ok [⟨title, ⟨1⟩, 1, canary.plaintext⟩], stored)
    else (.error ⟨.other, ""⟩, stored)
  fetch _ _ stored := (.ok none, stored)
  delete _ _ := (.ok (), false)

def flakyProbe : ErasureProbe Bool where
  substrate :=
    { scenario := { scenarioId := "demo", seed := 7, tenants := [] }
      tenants := []
      documents := ["one", "two", "three"].map fun title =>
        { docId := title, tenantId := ⟨1⟩, docType := "note", title, content := "" }
      manifest :=
        { manifestId := "m", scenarioHash := "h"
          markers := ["one", "two", "three"].map plantedIn } }
  vector := flakyStore

def flakyEntry : PlanEntry Bool := ⟨.vectorDb, flakyProbe.scanVector, flakyProbe.vector.delete⟩

/-- Two baseline canaries are left open, and the row reports one. -/
theorem flakyStore_under_reports :
    ¬ReportsPartial ⟨1⟩
      (flakyProbe.reading ⟨1⟩ flakyProbe.substrate.manifest.markers .vectorDb true)
      (flakyProbe.reading ⟨1⟩ flakyProbe.substrate.manifest.markers .vectorDb false)
      (eraseSurface ⟨1⟩ flakyProbe.substrate.manifest.markers flakyEntry { world := true }).1 := by
  rintro ⟨-, -, hopen⟩
  revert hopen
  decide +kernel

theorem eraseSurface_interrupted_flaky :
    ReportsPartial ⟨1⟩
      (flakyProbe.reading ⟨1⟩ flakyProbe.substrate.manifest.markers .vectorDb true)
      (flakyProbe.reading ⟨1⟩ flakyProbe.substrate.manifest.markers .vectorDb false)
      (eraseSurface ⟨1⟩ flakyProbe.substrate.manifest.markers flakyEntry { world := true }).1 ↔
    truthy (purgeOutcome (.ok ())).2 = true ∨
    Reading.leftOpen
      (flakyProbe.reading ⟨1⟩ flakyProbe.substrate.manifest.markers .vectorDb true)
      (flakyProbe.reading ⟨1⟩ flakyProbe.substrate.manifest.markers .vectorDb false) ≤ 1 ∨
    Reading.DecidesWithin
      (flakyProbe.reading ⟨1⟩ flakyProbe.substrate.manifest.markers .vectorDb true)
      (flakyProbe.reading ⟨1⟩ flakyProbe.substrate.manifest.markers .vectorDb false) :=
  @eraseSurface_interrupted Bool _ _ flakyProbe ⟨1⟩ _ flakyEntry (List.mem_singleton_self _)
    { world := true } (.ok ()) false ⟨.other, ""⟩ (by decide +kernel) rfl (by decide +kernel)

end Sample

end ErasureProbe

end Sectum
