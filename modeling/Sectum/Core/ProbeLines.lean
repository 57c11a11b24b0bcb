import Sectum.Core.GateAgreement
import Sectum.Core.ProbeReach

/-! Every record that the command writes can be scored, and the lines of its card say what the run did:
a class is graded where one of its probes asked an adapter that counts, and fails where one leaked
there. -/

namespace Sectum

open Py Tally

section Observed

variable {σ : Type} {runner : Runner σ} [Unicode] [Decimals]

open Runner in
/-- An observation is on the surface of the adapter that the step was sent to. -/
theorem Runner.execute_surface (step : ProbeStep) :
    (runner.execute step).Answers fun observation => ∃ slot keys adapter,
      reads step.action = some (slot, keys) ∧ runner.adapter slot = some adapter ∧
        observation.surface = adapter.surface := by
  unfold execute
  split
  case h_14 => exact .raise _
  all_goals
    rename_i haction
    rw [haction]
    simp only [vectorQuery, vectorFetch, vectorUpsert, cacheSet, cacheGet, modelTrain, modelInfer,
      mcpInvoke, memoryWrite, memoryRecall, ragAsk, observabilitySearch, agentRun]
    split
    · exact .raise _
    · rename_i hsession
      first
      | exact .bind fun _ => .map fun _ =>
          ⟨_, _, _, rfl, congrArg (Option.map _) hsession, rfl⟩
      | exact .bind fun _ => .bind fun _ => .map fun _ =>
          ⟨_, _, _, rfl, congrArg (Option.map _) hsession, rfl⟩

end Observed

section Slots

/-- The surfaces that an adapter in the slot may speak for. -/
def Slot.surfaces : Slot → List Surface
  | vector => [.vectorDb, .api]
  | cache => [.semanticCache]
  | model => [.modelAdapter]
  | mcp => [.mcp]
  | memory => [.agentMemory]
  | rag => [.ragPipeline]
  | observability => [.tracing]
  | agent => [.agentFramework]

theorem Slot.surfaces_disjoint {slot other : Slot} {surface : Surface}
    (h : surface ∈ slot.surfaces) (h' : surface ∈ other.surfaces) : slot = other := by
  have hall : ∀ slot ∈ slots, ∀ other ∈ slots, ∀ surface ∈ slot.surfaces,
      surface ∈ other.surfaces → slot = other := by decide
  exact hall slot (mem_slots slot) other (mem_slots other) surface h h'

variable [Unicode] [MathSqrt] [UuidText] {providers : DetectionProviders} {attack : Attack}

/-- A probe of the catalog drives one slot, the surfaces of which are its own. -/
theorem probeSurfaces_attacks (h : attack ∈ attacks providers) : ∃ slot,
    attack.probe.requiresAdapters = [slot] ∧
      probeSurfaces.getD attack.probe.id [] = slot.surfaces := by
  have hlisted : (attacks providers).map
      (fun attack => (attack.probe.id, attack.probe.requiresAdapters)) =
        [("tenant-boundary-fetch", [.vector]), ("rag-entity-bleed", [.vector]),
          ("rag-pipeline-bleed", [.rag]), ("rag-poisoning", [.vector]),
          ("semantic-cache-contamination", [.cache]), ("embedding-inversion", [.vector]),
          ("agent-tool-hijack", [.mcp]), ("agent-framework-hijack", [.agent]),
          ("memory-contamination", [.memory]), ("lora-cross-tenant", [.model]),
          ("ikea-extraction", [.vector]), ("multimodal-rag-bleed", [.vector])] := rfl
  have hall : ∀ entry ∈ (attacks providers).map
      (fun attack => (attack.probe.id, attack.probe.requiresAdapters)),
        ∃ slot ∈ slots, entry.2 = [slot] ∧ probeSurfaces.getD entry.1 [] = slot.surfaces := by
    rw [hlisted]
    decide +kernel
  obtain ⟨slot, -, hslot⟩ := hall _ (List.mem_map_of_mem h)
  exact ⟨slot, hslot⟩

end Slots

namespace ProbeStack

section Asked

variable {σ τ : Type} {stack : ProbeStack σ τ} {substrate : Substrate}

variable (stack) in
/-- Each adapter declares a surface of its slot. -/
def Declares : Prop := ∀ slot, stack.surface slot ∈ slot.surfaces

theorem Declares.slot_eq (h : stack.Declares) {slot other : Slot}
    (hsurface : stack.surface slot = stack.surface other) : slot = other :=
  Slot.surfaces_disjoint (h slot) (hsurface ▸ h other)

theorem Declares.lookup_surfaceProvenance (h : stack.Declares) (slot : Slot) :
    stack.bundle.surfaceProvenance.lookup (stack.surface slot) =
      some (if stack.synthetic slot then .synthetic else .live) := by
  obtain ⟨recorded, hrecorded⟩ := exists_surfaceProvenance stack.bundle slot
  obtain ⟨other, hother, rfl⟩ := surfaceProvenance_slot hrecorded
  obtain rfl : other = slot := h.slot_eq hother
  exact hrecorded

theorem adapter_surface {slot : Slot} {adapter : Adapter}
    (h : (stack.runner substrate).adapter slot = some adapter) :
    adapter.surface = stack.surface slot := by
  cases slot <;> exact (Option.some.inj h) ▸ rfl

variable [Unicode] [MathSqrt] [MathErfc] [UuidText] [Decimals] [Hashlib] [FloatText] [MathExp]
  [Shuffle] {options : ProbeOptions} {providers : DetectionProviders} {context : RecordContext}
  {world : σ} {record : RunResult}

/-- A step of the probe was sent to the adapter in the slot, or the timing probe resolved a pair. -/
inductive Run.Asked (run : stack.Run substrate options providers context world record) :
    String → Slot → Prop
  | step {result : StepResult} {slot : Slot} (h : result ∈ run.groups.flatten)
    (hslot : slot.name = Runner.family result.1.action) : Asked run result.1.probeId slot
  | timed {report : KvCacheTimingReport} (h : run.kvReport = some report)
    (hresolved : report.resolved ≠ []) : Asked run kvCacheTimingId .model

/-- A step of the probe to the adapter in the slot, or the timing probe, confirmed a leak. -/
inductive Run.Leaked (run : stack.Run substrate options providers context world record) :
    String → Slot → Prop
  | step {result : StepResult} {slot : Slot} (h : result ∈ run.groups.flatten)
    (hslot : slot.name = Runner.family result.1.action) (hleaks : Leaks result) :
    Leaked run result.1.probeId slot
  | timed {report : KvCacheTimingReport} {f : Finding} (h : run.kvReport = some report)
    (hf : f ∈ report.findings) (hstatus : f.status = .confirmed) : Leaked run kvCacheTimingId .model

/-- An adapter counts where it is live, and a fake where nothing live was asked. -/
def Run.Counts (run : stack.Run substrate options providers context world record) (slot : Slot) :
    Prop :=
  stack.live slot = true ∨ ∀ probeId other, run.Asked probeId other → stack.live other = false

variable (run : stack.Run substrate options providers context world record)

theorem Run.timed_run {report : KvCacheTimingReport} (h : run.kvReport = some report) :
    (KvCacheTimingProbe.run stack.timedModel substrate stack.fresh).1 = .ok report := by
  have htimed := run.timed
  split at htimed
  · obtain ⟨report', hrun, heq⟩ := htimed
    rw [h] at heq
    rw [Option.some.inj heq]
    exact hrun
  · rw [h] at htimed
    cases htimed

/-- What the results of a step bear: the id of a probe of the catalog, which drives the slot that the
step was sent to, and findings of that probe on the surface of its adapter. -/
theorem Run.step_spec (hdeclares : stack.Declares) {result : StepResult}
    (hresult : result ∈ run.groups.flatten) : ∃ slot : Slot,
    slot.name = Runner.family result.1.action ∧ result.1.probeId ∈ reportingIds ∧
      probeSurfaces.getD result.1.probeId [] = slot.surfaces ∧
        ∀ f ∈ result.2, f.Bears result.1.probeId (stack.surface slot) := by
  obtain ⟨-, -, group, -, hmem, attack, hattack, -, hhanded⟩ := run.handed hresult
  have hfrom := hhanded.fromPlan result hmem
  have hid := probeId_fromPlan hattack hfrom
  obtain ⟨⟨step, hstep, hsent⟩, observation, ⟨before, after, hexecuted⟩, hjudged⟩ := hfrom
  obtain ⟨slot, hrequires, hsurfaces⟩ := probeSurfaces_attacks hattack
  obtain ⟨-, haction, -⟩ := (stack.runner substrate).asSent_eq_some hsent
  -- The plan sends its steps to the slot of its probe, and so does the step that was sent.
  obtain ⟨slot', hslot', keys, hreads, -⟩ :=
    ((plansAgainst_of_mem_attacks providers hattack substrate).wellFormed step hstep).known
  rw [hrequires, List.mem_singleton] at hslot'
  subst hslot'
  have hreads' : Runner.reads result.1.action = some (slot', keys) := haction ▸ hreads
  obtain ⟨slot, keys', adapter, hseen, hadapter, hsurface⟩ :=
    Runner.execute_surface result.1 before observation after hexecuted
  obtain ⟨hsame, -⟩ := Prod.mk.inj (Option.some.inj (hreads'.symm.trans hseen))
  subst hsame
  rw [adapter_surface hadapter] at hsurface
  have hname : slot'.name = Runner.family result.1.action :=
    by simpa using List.find?_some (Runner.find_family hreads')
  rw [hid]
  refine ⟨slot', hname, reportingIds_attacks hattack, hsurfaces, fun f hf => ?_⟩
  rw [hjudged] at hf
  rcases bears_detect hattack hf with hbears | ⟨hmodel, hbears⟩
  · rw [← hsurface]
    exact hbears
  · rw [hrequires, List.mem_singleton] at hmodel
    subst hmodel
    rw [List.mem_singleton.mp (hdeclares .model)]
    exact hbears

variable {run} {probeId : String} {slot : Slot} (hdeclares : stack.Declares)

include hdeclares

theorem Run.Asked.spec (h : run.Asked probeId slot) :
    probeId ∈ reportingIds ∧ probeSurfaces.getD probeId [] = slot.surfaces := by
  cases h with
  | step hresult hslot =>
    obtain ⟨slot', hslot', hid, hsurfaces, -⟩ := run.step_spec hdeclares hresult
    obtain rfl := slotName_injective (hslot.trans hslot'.symm)
    exact ⟨hid, hsurfaces⟩
  | timed => exact ⟨by decide, by decide +kernel⟩

/-- A probe asks one adapter alone. -/
theorem Run.Asked.slot_unique {other : Slot} (h : run.Asked probeId slot)
    (h' : run.Asked probeId other) : slot = other := by
  have hsame : slot.surfaces = other.surfaces :=
    (h.spec hdeclares).2.symm.trans (h'.spec hdeclares).2
  exact Slot.surfaces_disjoint (hdeclares slot) (hsame ▸ hdeclares slot)

omit hdeclares in
theorem Run.Leaked.asked (h : run.Leaked probeId slot) : run.Asked probeId slot := by
  cases h with
  | step hresult hslot => exact .step hresult hslot
  | timed hreport hf =>
    exact .timed hreport (KvCacheTimingProbe.bears_run (run.timed_run hreport) hf).2

variable (run) in
/-- Behind a finding of the suite or of the timing probe stands an adapter that was asked. -/
theorem Run.raw_spec {f : Finding} (hf : f ∈ rawFindings run.groups.flatten run.kvReport) :
    ∃ slot, run.Asked f.probeId slot ∧ f.backingSurface = stack.surface slot ∧
      (∃ surface, f.Bears f.probeId surface) ∧
        (f.status = .confirmed → run.Leaked f.probeId slot) := by
  rcases mem_rawFindings.mp hf with ⟨result, hresult, hmem⟩ | ⟨report, hreport, hmem⟩
  · obtain ⟨slot, hslot, -, -, hfindings⟩ := run.step_spec hdeclares hresult
    have hbears := hfindings f hmem
    have hbacking : f.backingSurface = stack.surface slot := by
      unfold Finding.backingSurface
      rw [hbears.seen, if_neg]
      intro hkv
      have hmem := hdeclares slot
      rw [hkv] at hmem
      revert hmem
      cases slot <;> decide
    rw [hbears.named]
    exact ⟨slot, .step hresult hslot, hbacking, ⟨_, hbears⟩,
      fun hstatus => .step hresult hslot ⟨f, hmem, hstatus⟩⟩
  · have hreport' : run.kvReport = some report := hreport
    obtain ⟨hbears, hresolved⟩ := KvCacheTimingProbe.bears_run (run.timed_run hreport') hmem
    have hbacking : f.backingSurface = stack.surface .model := by
      unfold Finding.backingSurface
      rw [hbears.seen, if_pos rfl]
      exact (List.mem_singleton.mp (hdeclares .model)).symm
    rw [hbears.named]
    exact ⟨.model, .timed hreport' hresolved, hbacking, ⟨_, hbears⟩,
      fun hstatus => .timed hreport' hmem hstatus⟩

end Asked

end ProbeStack

section Recorded

variable {stepResults : List StepResult} {kvReport : Option KvCacheTimingReport}

theorem step_mem_probeVersions {version : String} {result : StepResult} (h : result ∈ stepResults) :
    result.1.probeId ∈ probeVersions version stepResults kvReport := by
  have hmem : result.1.probeId ∈ Dict.ofItems
      ((sortedSet (stepResults.map fun result => result.1.probeId)).map fun probeId =>
        (probeId, version)) :=
    Dict.mem_ofItems_of_mem (List.mem_map_of_mem (mem_sortedSet.mpr (List.mem_map_of_mem h)))
  unfold probeVersions
  cases kvReport with
  | none => exact hmem
  | some report =>
    simp only
    split
    · exact Dict.mem_set.mpr (.inr hmem)
    · exact hmem

theorem timing_mem_probeVersions {version : String} {report : KvCacheTimingReport}
    (h : report.resolved ≠ []) :
    kvCacheTimingId ∈ probeVersions version stepResults (some report) := by
  unfold probeVersions
  simp only
  rw [if_pos h]
  exact Dict.mem_set.mpr (.inl rfl)

/-- The probes that report findings are those of the catalog of the scorecard. -/
theorem reportingIds_catalog : ∀ probeId ∈ reportingIds, ∃ entry ∈ catalog,
    probeId ∈ entry.probeIds := by
  decide +kernel

end Recorded

namespace ProbeStack

section Lines

variable {σ τ : Type} {stack : ProbeStack σ τ} {substrate : Substrate} [Unicode] [MathSqrt]
  [MathErfc] [UuidText] [Decimals] [Hashlib] [FloatText] [MathExp] [Shuffle]
  {options : ProbeOptions} {providers : DetectionProviders} {context : RecordContext} {world : σ}
  {record : RunResult}

theorem Run.records (run : stack.Run substrate options providers context world record) :
    ∃ exercised, Records stack.bundle run.groups.flatten run.kvReport exercised record := by
  obtain ⟨exercised, -, hrecords⟩ := probeRecord_records (recordRun_eq_ok run.recorded)
  exact ⟨exercised, hrecords⟩

variable {run : stack.Run substrate options providers context world record} {probeId : String}
  {slot : Slot} {entry : CatalogClass} (hdeclares : stack.Declares)

include hdeclares

theorem Run.Leaked.raw (h : run.Leaked probeId slot) :
    ∃ f ∈ rawFindings run.groups.flatten run.kvReport,
      f.probeId = probeId ∧ f.status = .confirmed := by
  cases h with
  | step hresult hslot hleaks =>
    obtain ⟨f, hf, hstatus⟩ := hleaks
    obtain ⟨_, -, -, -, hfindings⟩ := run.step_spec hdeclares hresult
    exact ⟨f, mem_rawFindings.mpr (.inl ⟨_, hresult, hf⟩), (hfindings f hf).named, hstatus⟩
  | timed hreport hf hstatus =>
    have hbears := (KvCacheTimingProbe.bears_run (run.timed_run hreport) hf).1
    exact ⟨_, mem_rawFindings.mpr (.inr ⟨_, hreport, hf⟩), hbears.named, hstatus⟩

variable (run) in
/-- Behind a finding of the record stands an adapter that was asked. -/
theorem Run.kept_spec {f : Finding} (hf : f ∈ record.findings) :
    ∃ slot, run.Asked f.probeId slot ∧ f.backingSurface = stack.surface slot ∧
      (f.status = .confirmed → run.Leaked f.probeId slot) := by
  obtain ⟨_, hrecords⟩ := run.records
  rw [hrecords.findings] at hf
  obtain ⟨g, hg, -, hstatus, hprobe, hsurface⟩ := dedupeFindings_origin hf
  obtain ⟨slot, hasked, hbacking, -, hleaked⟩ := run.raw_spec hdeclares hg
  rw [hprobe] at hasked hleaked
  refine ⟨slot, hasked, ?_, fun h => hleaked (hstatus.trans h)⟩
  rw [← hbacking]
  unfold Finding.backingSurface
  rw [hsurface]

/-- No leak is lost where the findings of a run are merged. -/
theorem Run.Leaked.kept (h : run.Leaked probeId slot) : ∃ f ∈ record.findings,
    f.probeId = probeId ∧ f.status = .confirmed ∧ f.backingSurface = stack.surface slot := by
  obtain ⟨f, hf, hid, hstatus⟩ := h.raw hdeclares
  obtain ⟨kept, hkept, hsame⟩ := exists_mem_dedupeFindings hf
  obtain ⟨g, hg, horigin, -, hprobe, -⟩ := dedupeFindings_origin hkept
  have hconfirmed := (dedupeFindings_confirmed hkept).mpr ⟨f, hf, hsame.symm, hstatus⟩
  obtain ⟨_, hrecords⟩ := run.records
  have hmem : kept ∈ record.findings := hrecords.findings ▸ hkept
  obtain ⟨_, hasked, -, ⟨_, hbears⟩, -⟩ := run.raw_spec hdeclares hf
  obtain ⟨_, hasked', -, ⟨_, hbears'⟩, -⟩ := run.raw_spec hdeclares hg
  have hprobes : g.probeId = f.probeId := hbears'.same hbears (hasked'.spec hdeclares).1
    (hasked.spec hdeclares).1 (horigin.trans hsame)
  have hkeptId : kept.probeId = probeId := by rw [← hprobe, hprobes, hid]
  obtain ⟨slot', hkeptAsked, hbacking, -⟩ := run.kept_spec hdeclares hmem
  rw [hkeptId] at hkeptAsked
  obtain rfl := hkeptAsked.slot_unique hdeclares h.asked
  exact ⟨kept, hmem, hkeptId, hconfirmed, hbacking⟩

variable (run) in
/-- The record shows a probe to have run exactly where it asked an adapter. -/
theorem Run.exercises_iff : record.exercises probeId ↔ ∃ slot, run.Asked probeId slot := by
  have hrecord := recordRun_eq_ok run.recorded
  constructor
  · intro h
    rcases probeRecord_exercises hrecord h with ⟨result, hresult, hid⟩ | ⟨report, hreport, hfound⟩
    · obtain ⟨slot, hslot, -, -, hfindings⟩ := run.step_spec hdeclares hresult
      have hsame : result.1.probeId = probeId := by
        rcases hid with hid | ⟨f, hf, hid⟩
        · exact hid
        · rw [← (hfindings f hf).named, hid]
      exact ⟨slot, hsame ▸ .step hresult hslot⟩
    · have hreport' : run.kvReport = some report := hreport
      rcases hfound with ⟨rfl, hresolved⟩ | ⟨f, hf, rfl⟩
      · exact ⟨.model, .timed hreport' hresolved⟩
      · obtain ⟨hbears, hresolved⟩ := KvCacheTimingProbe.bears_run (run.timed_run hreport') hf
        rw [hbears.named]
        exact ⟨.model, .timed hreport' hresolved⟩
  · rintro ⟨slot, h⟩
    refine .inl ?_
    rw [probeRecord_probeVersions hrecord]
    cases h with
    | step hresult => exact step_mem_probeVersions hresult
    | timed hreport hresolved =>
      rw [hreport]
      exact timing_mem_probeVersions hresolved

variable (run) in
/-- The record accounts for the surfaces that were asked, each as its adapter declares it. -/
theorem Run.provenance_iff {surface : Surface} {provenance : SurfaceProvenance} :
    record.surfaceProvenance.lookup surface = some provenance ↔ ∃ probeId slot,
      run.Asked probeId slot ∧ stack.surface slot = surface ∧
        provenance = if stack.synthetic slot then .synthetic else .live := by
  obtain ⟨_, hrecords⟩ := run.records
  have hexercised : Drives stack.bundle run.groups.flatten surface ∨
      Times stack.bundle run.kvReport surface ↔
        ∃ probeId slot, run.Asked probeId slot ∧ stack.surface slot = surface := by
    constructor
    · rintro (⟨result, hresult, hsurface⟩ | ⟨⟨report, hreport, hresolved⟩, hsurface⟩)
      · obtain ⟨slot, hname, hslot⟩ := stepSurface_eq_ok.mp hsurface
        exact ⟨_, slot, .step hresult hname, hslot⟩
      · exact ⟨_, .model, .timed hreport hresolved, hsurface⟩
    · rintro ⟨probeId, slot, hasked, rfl⟩
      cases hasked with
      | step hresult hslot => exact .inl ⟨_, hresult, stepSurface_eq_ok.mpr ⟨slot, hslot, rfl⟩⟩
      | timed hreport hresolved => exact .inr ⟨⟨_, hreport, hresolved⟩, rfl⟩
  rw [hrecords.surfaces.lookup, hexercised]
  constructor
  · rintro ⟨hlookup, probeId, slot, hasked, rfl⟩
    rw [hdeclares.lookup_surfaceProvenance] at hlookup
    exact ⟨probeId, slot, hasked, rfl, (Option.some.inj hlookup).symm⟩
  · rintro ⟨probeId, slot, hasked, rfl, rfl⟩
    exact ⟨hdeclares.lookup_surfaceProvenance slot, probeId, slot, hasked, rfl⟩

theorem Run.Asked.exercised (h : run.Asked probeId slot) :
    stack.surface slot ∈ record.exercisedSurfaces :=
  RunResult.mem_exercisedSurfaces.mpr (Dict.mem_iff_lookup.mpr
    ⟨_, (run.provenance_iff hdeclares).mpr ⟨probeId, slot, h, rfl, rfl⟩⟩)

variable (run) in
/-- Something live is on the record exactly where a live adapter was asked. -/
theorem Run.anyLive_iff : record.anyLive ↔
    ∃ probeId other, run.Asked probeId other ∧ stack.live other = true := by
  rw [RunResult.anyLive_iff]
  constructor
  · rintro ⟨surface, hsurface⟩
    obtain ⟨probeId, other, hasked, -, hprovenance⟩ := (run.provenance_iff hdeclares).mp hsurface
    refine ⟨probeId, other, hasked, ?_⟩
    cases hsynthetic : stack.synthetic other with
    | false => rw [live, hsynthetic]; rfl
    | true =>
      rw [hsynthetic] at hprovenance
      cases hprovenance
  · rintro ⟨probeId, other, hasked, hlive⟩
    refine ⟨_, (run.provenance_iff hdeclares).mpr ⟨probeId, other, hasked, rfl, ?_⟩⟩
    rw [live, Bool.not_eq_true'] at hlive
    rw [hlive]
    rfl

/-- An adapter that was asked is on the record as the fake that it is. -/
theorem Run.Asked.synthetic_iff (h : run.Asked probeId slot) :
    record.surfaceProvenance.lookup (stack.surface slot) = some .synthetic ↔
      stack.live slot = false := by
  rw [run.provenance_iff hdeclares]
  constructor
  · rintro ⟨-, other, -, hsurface, hprovenance⟩
    obtain rfl : other = slot := hdeclares.slot_eq hsurface
    cases hsynthetic : stack.synthetic other with
    | true => rw [live, hsynthetic]; rfl
    | false =>
      rw [hsynthetic] at hprovenance
      cases hprovenance
  · intro hfake
    rw [live, Bool.not_eq_false'] at hfake
    exact ⟨probeId, slot, h, rfl, by rw [hfake]; rfl⟩

/-- A surface that was asked is withheld from the letter where its adapter does not count. -/
theorem Run.Asked.withheld_iff (h : run.Asked probeId slot) :
    stack.surface slot ∈ record.withheldSurfaces ↔ ¬run.Counts slot := by
  rw [RunResult.mem_withheldSurfaces, RunResult.scopeOf_configured, run.anyLive_iff hdeclares,
    h.synthetic_iff hdeclares]
  constructor
  · rintro ⟨⟨id, other, hasked, hother⟩, hfake⟩ (hcounts | hnone)
    · rw [hfake] at hcounts
      cases hcounts
    · rw [hnone id other hasked] at hother
      cases hother
  · intro hcounts
    obtain ⟨hfake, hsome⟩ := not_or.mp hcounts
    push Not at hsome
    obtain ⟨id, other, hasked, hother⟩ := hsome
    exact ⟨⟨id, other, hasked, Bool.eq_true_of_not_eq_false hother⟩,
      Bool.eq_false_of_not_eq_true hfake⟩

variable (run) in
/-- A class is graded where one of its probes asked an adapter that counts. -/
theorem Run.gradeable_iff : entry.Gradeable record ↔
    ∃ probeId ∈ entry.probeIds, ∃ slot, run.Asked probeId slot ∧ run.Counts slot := by
  have hran : ∀ {probeId}, probeId ∈ entry.ran record ↔
      probeId ∈ entry.probeIds ∧ ∃ slot, run.Asked probeId slot := by
    intro probeId
    unfold CatalogClass.ran
    rw [List.mem_filter, decide_eq_true_eq, run.exercises_iff hdeclares]
  unfold CatalogClass.Gradeable
  constructor
  · rintro ⟨hsome, hempty | ⟨surface, haccepted, hexercised, hoff⟩⟩
    · obtain ⟨probeId, hmem⟩ := List.exists_mem_of_ne_nil _ hsome
      obtain ⟨-, slot, hasked⟩ := hran.mp hmem
      have hmem := hasked.exercised hdeclares
      rw [hempty] at hmem
      exact absurd hmem (Finset.notMem_empty _)
    · obtain ⟨probeId, hmem, hsurface⟩ :=
        List.mem_flatMap.mp (List.mem_toFinset.mp haccepted)
      obtain ⟨hid, slot, hasked⟩ := hran.mp hmem
      obtain ⟨provenance, hprovenance⟩ :=
        Dict.mem_iff_lookup.mp (RunResult.mem_exercisedSurfaces.mp hexercised)
      obtain ⟨-, other, -, rfl, -⟩ := (run.provenance_iff hdeclares).mp hprovenance
      rw [(hasked.spec hdeclares).2] at hsurface
      obtain rfl : other = slot := Slot.surfaces_disjoint (hdeclares other) hsurface
      refine ⟨probeId, hid, other, hasked, ?_⟩
      by_contra hcounts
      exact hoff ((hasked.withheld_iff hdeclares).mpr hcounts)
  · rintro ⟨probeId, hid, slot, hasked, hcounts⟩
    have hmem := hran.mpr ⟨hid, slot, hasked⟩
    refine ⟨List.ne_nil_of_mem hmem, .inr ⟨stack.surface slot, ?_, hasked.exercised hdeclares, ?_⟩⟩
    · refine List.mem_toFinset.mpr (List.mem_flatMap.mpr ⟨probeId, hmem, ?_⟩)
      rw [(hasked.spec hdeclares).2]
      exact hdeclares slot
    · exact fun hwithheld => (hasked.withheld_iff hdeclares).mp hwithheld hcounts

variable (run) in
/-- A class caps the letter exactly where one of its probes leaked on an adapter that counts. -/
theorem Run.caps_iff : entry.Caps record ↔
    ∃ probeId ∈ entry.probeIds, ∃ slot, run.Leaked probeId slot ∧ run.Counts slot := by
  constructor
  · rintro ⟨f, hf, hoff⟩
    obtain ⟨hmem, hid, hstatus⟩ := CatalogClass.mem_confirmedFindings.mp hf
    obtain ⟨slot, hasked, hbacking, hleaked⟩ := run.kept_spec hdeclares hmem
    refine ⟨f.probeId, hid, slot, hleaked hstatus, ?_⟩
    by_contra hcounts
    rw [hbacking] at hoff
    exact hoff ((hasked.withheld_iff hdeclares).mpr hcounts)
  · rintro ⟨probeId, hid, slot, hleaked, hcounts⟩
    obtain ⟨f, hf, rfl, hstatus, hbacking⟩ := hleaked.kept hdeclares
    refine ⟨f, CatalogClass.mem_confirmedFindings.mpr ⟨hf, hid, hstatus⟩, fun hwithheld => ?_⟩
    rw [hbacking] at hwithheld
    exact (hleaked.asked.withheld_iff hdeclares).mp hwithheld hcounts

variable (run) in
include run in
theorem Run.fails_of_caps (h : entry.Caps record) : entry.Fails record := by
  have hgradeable : entry.Gradeable record := by
    obtain ⟨probeId, hid, slot, hleaked, hcounts⟩ := (run.caps_iff hdeclares).mp h
    exact (run.gradeable_iff hdeclares).mpr
      ⟨probeId, hid, slot, hleaked.asked, hcounts⟩
  obtain ⟨f, hf, hoff⟩ := h
  obtain ⟨slot, hasked, hbacking, -⟩ := run.kept_spec hdeclares
    (CatalogClass.mem_confirmedFindings.mp hf).1
  exact ⟨hgradeable, f, hf, hoff, .inr (hbacking ▸ hasked.exercised hdeclares)⟩

variable (run) in
include run in
/-- A line is graded as soon as the class can be: it fails where it caps the letter, and else it passes. -/
theorem Run.graded_iff : entry.Gradeable record ↔ entry.Fails record ∨ entry.Passes record := by
  constructor
  · intro hgradeable
    by_cases hcaps : entry.Caps record
    · exact .inl (run.fails_of_caps hdeclares hcaps)
    · exact .inr ⟨hgradeable, hcaps⟩
  · rintro (hfails | hpasses)
    · exact hfails.1
    · exact hpasses.1

variable (run) in
include run in
theorem Run.confirmedProbeIds_subset : record.confirmedProbeIds ⊆ catalogProbes := by
  intro probeId hmem
  obtain ⟨f, hf, rfl⟩ := List.mem_map.mp (List.mem_toFinset.mp hmem)
  obtain ⟨slot, hasked, -⟩ := run.kept_spec hdeclares (List.mem_filter.mp hf).1
  obtain ⟨entry, hentry, hid⟩ := reportingIds_catalog _ (hasked.spec hdeclares).1
  exact List.mem_toFinset.mpr (List.mem_flatMap.mpr ⟨entry, hentry, hid⟩)

variable (run) in
/-- The exit status tells whether anything leaked, on the fakes too. -/
theorem Run.probeExit_iff : probeExit record = 2 ↔ ∃ probeId slot, run.Leaked probeId slot := by
  have hexit : probeExit record = 2 ↔ ∃ f ∈ record.findings, f.status = .confirmed := by
    rw [← confirmedFindings_ne_nil]
    unfold probeExit
    split <;> simp_all
  rw [hexit]
  constructor
  · rintro ⟨f, hf, hstatus⟩
    obtain ⟨slot, -, -, hleaked⟩ := run.kept_spec hdeclares hf
    exact ⟨f.probeId, slot, hleaked hstatus⟩
  · rintro ⟨probeId, slot, hleaked⟩
    obtain ⟨f, hf, -, hstatus, -⟩ := hleaked.kept hdeclares
    exact ⟨f, hf, hstatus⟩

omit hdeclares in
/-- A record that was written shows that something was asked. -/
theorem Run.recorded_something (run : stack.Run substrate options providers context world record) :
    ∃ probeId, record.exercises probeId := by
  by_contra hnone
  push Not at hnone
  have hversions : record.probeVersions.keys = [] :=
    List.eq_nil_iff_forall_not_mem.mpr fun probeId hmem => hnone probeId (.inl hmem)
  have hfindings : record.findings = [] :=
    List.eq_nil_iff_forall_not_mem.mpr fun f hmem => hnone f.probeId (.inr ⟨f, hmem, rfl⟩)
  have hrecorded := run.recorded
  unfold recordRun at hrecorded
  simp only [recordRun_eq_ok run.recorded] at hrecorded
  rw [if_pos ⟨hversions, hfindings⟩] at hrecorded
  cases hrecorded

/-- Something that counts was asked: a live adapter where one was, and else any. -/
theorem Run.counted (run : stack.Run substrate options providers context world record) :
    ∃ probeId slot, run.Asked probeId slot ∧ run.Counts slot := by
  obtain ⟨probeId, hexercises⟩ := run.recorded_something
  obtain ⟨slot, hasked⟩ := (run.exercises_iff hdeclares).mp hexercises
  by_cases hlive : ∃ probeId other, run.Asked probeId other ∧ stack.live other = true
  · obtain ⟨id, other, hother, hlive⟩ := hlive
    exact ⟨id, other, hother, .inl hlive⟩
  · refine ⟨probeId, slot, hasked, .inr fun id other hother => ?_⟩
    exact Bool.eq_false_of_not_eq_true fun h => hlive ⟨id, other, hother, h⟩

omit hdeclares in
variable [RunDigest] in
/-- Every record that the command writes is scored, and its lines say what the run did: a class is graded
exactly where one of its probes asked an adapter that counts, and fails exactly where one leaked there.
The exit status tells whether anything leaked, on the fakes too. -/
theorem record_scored (hdeclares : stack.Declares)
    (run : stack.Run substrate options providers context world record) {digest : String}
    (hdigest : RunDigest.runDigest record = .ok digest) :
    ∃ card, scoreRun record = .ok card ∧
      List.Forall₂ (fun entry c => c.classId = entry.classId ∧
        (c.verdict ≠ .notCovered ↔
          ∃ probeId ∈ entry.probeIds, ∃ slot, run.Asked probeId slot ∧ run.Counts slot) ∧
        (c.verdict = .fail ↔
          ∃ probeId ∈ entry.probeIds, ∃ slot, run.Leaked probeId slot ∧ run.Counts slot))
        catalog card.classes ∧
      (probeExit record = 2 ↔ ∃ probeId slot, run.Leaked probeId slot) := by
  have hcounts : record.metrics.retrievalPivotK ≤ record.metrics.retrievalPivotN := by
    obtain ⟨exercised, hrecords⟩ := run.records
    obtain ⟨hk, hn⟩ := Prod.mk.inj hrecords.counts
    rw [hk, hn]
    exact List.countP_le_length
  obtain ⟨probeId, slot, hasked, hslot⟩ := run.counted hdeclares
  obtain ⟨entry, hentry, hid⟩ := reportingIds_catalog probeId (hasked.spec hdeclares).1
  have hgradeable : entry.Gradeable record :=
    (run.gradeable_iff hdeclares).mpr ⟨probeId, hid, slot, hasked, hslot⟩
  obtain ⟨card, hcard⟩ := scoreRun_returns (run.confirmedProbeIds_subset hdeclares)
    ⟨digest, hdigest⟩ hcounts ⟨entry, hentry, (run.graded_iff hdeclares).mp hgradeable⟩
  have hlines : List.Forall₂ (fun entry c => c.classId = entry.classId ∧
      (c.verdict ≠ .notCovered ↔
        ∃ probeId ∈ entry.probeIds, ∃ slot, run.Asked probeId slot ∧ run.Counts slot) ∧
      (c.verdict = .fail ↔
        ∃ probeId ∈ entry.probeIds, ∃ slot, run.Leaked probeId slot ∧ run.Counts slot))
      catalog card.classes := by
    refine (scoreRun_grades hcard).classes.imp fun entry c hc => ⟨hc.classId, ?_, ?_⟩
    · rw [← run.gradeable_iff hdeclares, run.graded_iff hdeclares, ← hc.fail_iff, ← hc.pass_iff]
      cases c.verdict <;> simp
    · rw [hc.fail_iff, ← run.caps_iff hdeclares]
      exact ⟨CatalogClass.Fails.caps, run.fails_of_caps hdeclares⟩
  exact ⟨card, hcard, hlines, run.probeExit_iff hdeclares⟩

end Lines

end ProbeStack

section Sample

attribute [local instance] Unicode.ascii MathSqrt.exact MathErfc.atZero UuidText.digits
  Decimals.ascii Hashlib.real FloatText.halves MathExp.rounded Shuffle.identity RunDigest.storeRuns

theorem ownersStore_declares : ownersStore.Declares := by
  intro slot
  cases slot <;> decide

/-- The line of the store that was graded, and the probe that asked it. -/
theorem ProbeStack.record_scored_owners : ∃ record card,
    ∃ run : ownersStore.Run ownersSubstrate { only := some "tenant-boundary-fetch" } denying
      suiteContext () record,
    scoreRun record = .ok card ∧ ∃ entry ∈ catalog, ∃ c ∈ card.classes,
      c.classId = entry.classId ∧ c.verdict ≠ .notCovered ∧
        ∃ probeId ∈ entry.probeIds, ∃ slot, run.Asked probeId slot ∧ run.Counts slot := by
  obtain ⟨record, card, run, hcard, c, hc, hgraded, -⟩ := exists_ownersRun
  obtain ⟨scored, hscored, hlines, -⟩ := record_scored ownersStore_declares run rfl
  obtain rfl := Except.ok.inj (hscored.symm.trans hcard)
  obtain ⟨k, hk, rfl⟩ := List.getElem_of_mem hc
  have hk' : k < catalog.length := hlines.length_eq ▸ hk
  have hline := hlines.get hk' hk
  exact ⟨record, _, run, hcard, _, List.getElem_mem hk', _, List.getElem_mem hk, hline.1, hgraded,
    hline.2.1.mp hgraded⟩

end Sample

end Sectum
