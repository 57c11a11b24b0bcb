import Sectum.Core.ProbeRecord
import Sectum.Core.ScoreSpec

/-! The headline numbers of a record agree with the findings that it carries: the counts by
construction, the rates because a merge of findings keeps what is confirmed. -/

namespace Sectum

open Py

section Leaks

/-- A step that surfaced a confirmed finding. -/
def Leaks (result : StepResult) : Prop := ∃ f ∈ result.2, f.status = .confirmed

theorem confirmedFindings_ne_nil {findings : List Finding} :
    confirmedFindings findings ≠ [] ↔ ∃ f ∈ findings, f.status = .confirmed := by
  unfold confirmedFindings
  rw [Ne, List.filter_eq_nil_iff]
  simp

/-- A share of steps, or of sequences of steps, that is positive where some step leaks. -/
structure RateOf (results : List StepResult) (rate : ℚ) : Prop where
  nonneg : 0 ≤ rate
  le_one : rate ≤ 1
  pos_iff : 0 < rate ↔ ∃ result ∈ results, Leaks result

theorem rateOf_share {results : List StepResult} {part whole : Nat} (hwhole : 0 < whole)
    (hle : part ≤ whole) (hpos : 0 < part ↔ ∃ result ∈ results, Leaks result) :
    RateOf results (part / whole) := by
  have hwhole' : (0 : ℚ) < whole := by exact_mod_cast hwhole
  refine ⟨by positivity, ?_, ?_⟩
  · rw [div_le_one hwhole']
    exact_mod_cast hle
  · rw [← hpos, div_pos_iff_of_pos_right hwhole']
    exact_mod_cast Iff.rfl

theorem confirmedFindingRate_spec {results : List StepResult} (h : results ≠ []) :
    RateOf results (confirmedFindingRate results) := by
  rw [confirmedFindingRate, if_neg h]
  refine rateOf_share (List.length_pos_of_ne_nil h) List.countP_le_length ?_
  rw [List.countP_pos_iff]
  simp only [decide_eq_true_eq, confirmedFindings_ne_nil, Leaks]

theorem sequences_concat (key : String) (results : List StepResult) (result : StepResult) :
    sequences key (results ++ [result]) =
      (sequences key results).set (sequenceIdentity key result.1)
        ((sequences key results).getD (sequenceIdentity key result.1) false ||
          confirmedFindings result.2 ≠ []) := by
  rw [sequences, List.foldl_append]
  rfl

/-- A sequence leaked exactly where a step leaked. -/
theorem sequences_leaked (key : String) (results : List StepResult) :
    (∃ identity, (sequences key results).lookup identity = some true) ↔
      ∃ result ∈ results, Leaks result := by
  induction results using List.reverseRecOn with
  | nil => simp [sequences]
  | append_singleton results result ih =>
    rw [sequences_concat]
    have hstep : (∃ result' ∈ results ++ [result], Leaks result') ↔
        (∃ result' ∈ results, Leaks result') ∨ Leaks result := by
      simp [or_and_right, exists_or]
    rw [hstep, ← ih]
    simp only [Dict.lookup_set]
    constructor
    · rintro ⟨identity, hidentity⟩
      split at hidentity
      · rcases Bool.or_eq_true_iff.mp (Option.some.inj hidentity) with hbefore | hnow
        · refine .inl ⟨sequenceIdentity key result.1, ?_⟩
          unfold Dict.getD at hbefore
          cases hlookup : (sequences key results).lookup (sequenceIdentity key result.1) with
          | none =>
            rw [hlookup] at hbefore
            cases hbefore
          | some leaked =>
            rw [hlookup] at hbefore
            exact congrArg some hbefore
        · exact .inr (confirmedFindings_ne_nil.mp (of_decide_eq_true hnow))
      · exact .inl ⟨identity, hidentity⟩
    · rintro (⟨identity, hidentity⟩ | hleaks)
      · refine ⟨identity, ?_⟩
        split
        · rename_i hsame
          rw [hsame] at hidentity
          simp [Dict.getD, hidentity]
        · exact hidentity
      · refine ⟨sequenceIdentity key result.1, ?_⟩
        rw [if_pos rfl, decide_eq_true (confirmedFindings_ne_nil.mpr hleaks), Bool.or_true]

theorem confirmedSequenceRate_spec (key : String) {results : List StepResult} (h : results ≠ []) :
    RateOf results (confirmedSequenceRate results key) := by
  rw [confirmedSequenceRate, if_neg h]
  refine rateOf_share ?_ List.countP_le_length ?_
  · rw [List.length_map, List.length_pos_iff]
    obtain ⟨before, last, rfl⟩ := (List.eq_nil_or_concat' results).resolve_left h
    intro hnil
    have hmem : sequenceIdentity key last.1 ∈ sequences key (before ++ [last]) := by
      rw [sequences_concat, Dict.mem_set]
      exact .inl rfl
    obtain ⟨leaked, hleaked⟩ := Dict.mem_iff_lookup.mp hmem
    have := Dict.mem_items.mpr hleaked
    rw [hnil] at this
    cases this
  · rw [← sequences_leaked key, List.countP_pos_iff]
    simp only [List.mem_map, id_eq, exists_eq_right, Prod.exists, Dict.mem_items]

end Leaks

section Deduplicated

variable {findings : List Finding}

/-- What is kept of a finding id is one of its findings, but for the techniques. -/
theorem dedupeFindings_origin {kept : Finding} (h : kept ∈ dedupeFindings findings) :
    ∃ f ∈ findings, f.findingId = kept.findingId ∧ f.status = kept.status ∧
      f.probeId = kept.probeId ∧ f.surface = kept.surface := by
  have horigin : ∃ f ∈ findings.filter fun f => f.findingId = kept.findingId,
      f.status = kept.status ∧ f.probeId = kept.probeId ∧ f.surface = kept.surface := by
    apply @KeyedMerge.values_induct _ _ _ Finding.findingId mergeFindings mergeFindings_findingId
      (fun group kept => ∃ f ∈ group, f.status = kept.status ∧ f.probeId = kept.probeId ∧
        f.surface = kept.surface) _ _ _ _ h
    · exact fun f => ⟨f, List.mem_singleton_self f, rfl, rfl, rfl⟩
    · rintro group existing f - ⟨origin, horigin, hfields⟩
      obtain ⟨winner, loser, hwho, -, hmerge⟩ := mergeFindings_cases existing f
      have hkept : (mergeFindings existing f).status = winner.status ∧
          (mergeFindings existing f).probeId = winner.probeId ∧
          (mergeFindings existing f).surface = winner.surface := by
        rw [hmerge]
        split <;> exact ⟨rfl, rfl, rfl⟩
      rw [hkept.1, hkept.2.1, hkept.2.2]
      rcases hwho with ⟨rfl, rfl⟩ | ⟨rfl, rfl⟩
      · exact ⟨winner, List.mem_append_right _ (List.mem_singleton_self winner), rfl, rfl, rfl⟩
      · exact ⟨origin, List.mem_append_left _ horigin, hfields⟩
  obtain ⟨f, hf, hfields⟩ := horigin
  obtain ⟨hmem, hid⟩ := List.mem_filter.mp hf
  exact ⟨f, hmem, of_decide_eq_true hid, hfields⟩

/-- Where the findings of different probes have different ids, merging them neither makes nor loses a
confirmed finding of a probe. -/
theorem exists_confirmed_dedupe (probeIds : List String)
    (hids : ∀ f ∈ findings, ∀ g ∈ findings, f.findingId = g.findingId → f.probeId = g.probeId) :
    (∃ f ∈ dedupeFindings findings, f.probeId ∈ probeIds ∧ f.status = .confirmed) ↔
      ∃ f ∈ findings, f.probeId ∈ probeIds ∧ f.status = .confirmed := by
  constructor
  · rintro ⟨kept, hkept, hprobe, hstatus⟩
    obtain ⟨f, hf, -, hstatus', hprobe', -⟩ := dedupeFindings_origin hkept
    exact ⟨f, hf, hprobe' ▸ hprobe, hstatus' ▸ hstatus⟩
  · rintro ⟨f, hf, hprobe, hstatus⟩
    obtain ⟨kept, hkept, hid⟩ := exists_mem_dedupeFindings hf
    obtain ⟨g, hg, hid', -, hprobe', -⟩ := dedupeFindings_origin hkept
    refine ⟨kept, hkept, ?_, (dedupeFindings_confirmed hkept).mpr ⟨f, hf, hid.symm, hstatus⟩⟩
    rw [← hprobe', hids g hg f hf (hid'.trans hid)]
    exact hprobe

end Deduplicated

section Surfaces

theorem mem_slots (slot : Slot) : slot ∈ slots := by cases slot <;> decide

theorem slotName_injective {slot other : Slot} (h : slot.name = other.name) : slot = other := by
  cases slot <;> cases other <;> first | rfl | exact absurd h (by decide)

variable {bundle : AdapterBundle} {stepResults : List StepResult}
  {kvReport : Option KvCacheTimingReport} {exercised : List Surface}

theorem slotAdapters_items (bundle : AdapterBundle) :
    bundle.slotAdapters.items = slots.map fun slot => (slot.name, bundle.slot slot) := by
  apply Dict.items_ofItems
  rw [List.map_map]
  exact (by decide : (slots.map Slot.name).Nodup)

theorem stepSurface_eq_ok {step : ProbeStep} {surface : Surface} :
    bundle.stepSurface step = .ok surface ↔
      ∃ slot, slot.name = Runner.family step.action ∧ (bundle.slot slot).surface = surface := by
  have hlookup : ∀ adapter, bundle.slotAdapters.lookup (Runner.family step.action) = some adapter ↔
      ∃ slot, slot.name = Runner.family step.action ∧ bundle.slot slot = adapter := by
    intro adapter
    rw [← Dict.mem_items, slotAdapters_items, List.mem_map]
    simp only [Prod.mk.injEq, mem_slots, true_and]
  unfold AdapterBundle.stepSurface
  cases hfound : bundle.slotAdapters.lookup (Runner.family step.action) with
  | none =>
    refine iff_of_false (fun h => by cases h) ?_
    rintro ⟨slot, hname, -⟩
    have := (hlookup (bundle.slot slot)).mpr ⟨slot, hname, rfl⟩
    rw [hfound] at this
    cases this
  | some adapter =>
    obtain ⟨slot, hname, rfl⟩ := (hlookup adapter).mp hfound
    constructor
    · intro h
      exact ⟨slot, hname, Except.ok.inj h⟩
    · rintro ⟨other, hother, hsurface⟩
      obtain rfl := slotName_injective (hother.trans hname.symm)
      exact congrArg _ hsurface

theorem mem_liveSlots {name : String} : name ∈ bundle.liveSlots exercised ↔ ∃ slot : Slot,
    slot.name = name ∧ (bundle.slot slot).synthetic = false ∧
      (bundle.slot slot).surface ∈ exercised := by
  unfold AdapterBundle.liveSlots
  rw [slotAdapters_items]
  simp only [List.mem_map, List.mem_filter]
  constructor
  · rintro ⟨_, ⟨⟨slot, -, rfl⟩, hlive⟩, rfl⟩
    exact ⟨slot, rfl, by simpa using hlive⟩
  · rintro ⟨slot, rfl, hlive⟩
    exact ⟨_, ⟨⟨slot, mem_slots slot, rfl⟩, by simpa using hlive⟩, rfl⟩

/-- The surfaces that the steps drove. -/
def Drives (bundle : AdapterBundle) (stepResults : List StepResult) (surface : Surface) : Prop :=
  ∃ result ∈ stepResults, bundle.stepSurface result.1 = .ok surface

/-- The surface that the timing probe measured. -/
def Times (bundle : AdapterBundle) (kvReport : Option KvCacheTimingReport) (surface : Surface) :
    Prop :=
  (∃ report ∈ kvReport, report.resolved ≠ []) ∧ (bundle.slot .model).surface = surface

theorem exercisedSurfaces_spec (h : bundle.exercisedSurfaces stepResults kvReport = .ok exercised) :
    (∀ result ∈ stepResults, ∃ surface, bundle.stepSurface result.1 = .ok surface) ∧
      ∀ surface, surface ∈ exercised ↔
        Drives bundle stepResults surface ∨ Times bundle kvReport surface := by
  obtain ⟨driven, hdriven, h⟩ := bind_eq_ok.mp h
  obtain rfl := Except.ok.inj h
  have hsteps := mapM_all.mp ⟨driven, hdriven, fun _ hmem => hmem⟩
  have hdrives : ∀ surface, surface ∈ driven ↔ Drives bundle stepResults surface := by
    intro surface
    constructor
    · intro hmem
      obtain ⟨driven', hdriven', hall⟩ := mapM_all.mpr fun result hresult => by
        obtain ⟨surface, hsurface, -⟩ := hsteps result hresult
        exact (⟨surface, hsurface, result, hresult, hsurface⟩ :
          ∃ surface, bundle.stepSurface result.1 = .ok surface ∧
            Drives bundle stepResults surface)
      obtain rfl := Except.ok.inj (hdriven.symm.trans hdriven')
      exact hall surface hmem
    · rintro ⟨result, hresult, hsurface⟩
      obtain ⟨surface', hsurface', hmem⟩ := hsteps result hresult
      obtain rfl := Except.ok.inj (hsurface.symm.trans hsurface')
      exact hmem
  refine ⟨fun result hresult => ?_, fun surface => ?_⟩
  · obtain ⟨surface, hsurface, -⟩ := hsteps result hresult
    exact ⟨surface, hsurface⟩
  · rw [List.mem_append, hdrives]
    refine or_congr_right ?_
    cases kvReport with
    | none => simp [Times]
    | some report =>
      unfold Times
      by_cases hresolved : report.resolved = []
      · simp [hresolved]
      · simp only [ne_eq, hresolved, not_false_eq_true, if_true, List.mem_singleton,
          Option.mem_some_iff, exists_eq_left', true_and]
        exact eq_comm

def AllLive (bundle : AdapterBundle) (stepResults : List StepResult) : Prop :=
  ∀ surface, Drives bundle stepResults surface → ∀ slot, (bundle.slot slot).surface = surface →
    (bundle.slot slot).synthetic = false

def NoneLive (bundle : AdapterBundle) (stepResults : List StepResult) : Prop :=
  ∀ surface, Drives bundle stepResults surface → ∀ slot, (bundle.slot slot).surface = surface →
    (bundle.slot slot).synthetic = true

/-- The steps drove fakes alone, and the timing probe a live model. -/
def OnlyTimingLive (bundle : AdapterBundle) (stepResults : List StepResult)
    (kvReport : Option KvCacheTimingReport) : Prop :=
  NoneLive bundle stepResults ∧ ∃ slot, Times bundle kvReport (bundle.slot slot).surface ∧
    (bundle.slot slot).synthetic = false

variable (hexercised : bundle.exercisedSurfaces stepResults kvReport = .ok exercised)
include hexercised

/-- Where all that the steps drove is live, or none of it, the steps count all or, beside a live
model that was timed, not at all. -/
theorem liveOnly_eq (hlive : AllLive bundle stepResults ∨ NoneLive bundle stepResults)
    {steps : List StepResult} (hsub : steps ⊆ stepResults) :
    (OnlyTimingLive bundle stepResults kvReport → bundle.liveOnly exercised steps = []) ∧
      (¬OnlyTimingLive bundle stepResults kvReport → bundle.liveOnly exercised steps = steps) := by
  obtain ⟨htotal, hmem⟩ := exercisedSurfaces_spec hexercised
  unfold AdapterBundle.liveOnly
  constructor
  · rintro ⟨hnone, slot, htimes, hslot⟩
    have hslots : bundle.liveSlots exercised ≠ [] :=
      List.ne_nil_of_mem (mem_liveSlots.mpr ⟨slot, rfl, hslot, (hmem _).mpr (.inr htimes)⟩)
    rw [if_neg hslots, List.filter_eq_nil_iff]
    intro result hresult hfamily
    obtain ⟨other, hname, hother, -⟩ := mem_liveSlots.mp (of_decide_eq_true hfamily)
    have hsynthetic := hnone _ ⟨result, hsub hresult, stepSurface_eq_ok.mpr ⟨other, hname, rfl⟩⟩
      other rfl
    rw [hother] at hsynthetic
    cases hsynthetic
  · intro hnot
    split
    · rfl
    · rename_i hslots
      rw [List.filter_eq_self]
      intro result hresult
      rcases hlive with hall | hnone
      · obtain ⟨surface, hsurface⟩ := htotal result (hsub hresult)
        obtain ⟨slot, hname, rfl⟩ := stepSurface_eq_ok.mp hsurface
        have hdrives : Drives bundle stepResults (bundle.slot slot).surface :=
          ⟨result, hsub hresult, hsurface⟩
        exact decide_eq_true (mem_liveSlots.mpr
          ⟨slot, hname, hall _ hdrives slot rfl, (hmem _).mpr (.inl hdrives)⟩)
      · -- A live slot would be one that a step drove, or the timed model.
        obtain ⟨name, hname⟩ := List.exists_mem_of_ne_nil _ hslots
        obtain ⟨slot, -, hslot, hsurface⟩ := mem_liveSlots.mp hname
        rcases (hmem _).mp hsurface with hdrives | htimes
        · rw [hnone _ hdrives slot rfl] at hslot
          cases hslot
        · exact absurd ⟨hnone, slot, htimes, hslot⟩ hnot

end Surfaces

section Provenance

variable {bundle : AdapterBundle} {stepResults : List StepResult}
  {kvReport : Option KvCacheTimingReport} {exercised : List Surface} {surface : Surface}

theorem surfaceProvenance_slot {provenance : SurfaceProvenance}
    (h : bundle.surfaceProvenance.lookup surface = some provenance) :
    ∃ slot, (bundle.slot slot).surface = surface ∧
      provenance = if (bundle.slot slot).synthetic then .synthetic else .live := by
  obtain ⟨slot, -, hslot⟩ := List.mem_map.mp (Dict.mem_of_lookup_ofItems h)
  obtain ⟨hsurface, hprovenance⟩ := Prod.mk.inj hslot
  exact ⟨slot, hsurface, hprovenance.symm⟩

theorem exists_surfaceProvenance (bundle : AdapterBundle) (slot : Slot) :
    ∃ provenance, bundle.surfaceProvenance.lookup (bundle.slot slot).surface = some provenance :=
  Dict.mem_iff_lookup.mp (Dict.mem_ofItems_of_mem (List.mem_map_of_mem (mem_slots slot)))

/-- Adapters that declare one surface are all live or all fakes. -/
def Alike (bundle : AdapterBundle) : Prop :=
  ∀ slot other, (bundle.slot slot).surface = (bundle.slot other).surface →
    (bundle.slot slot).synthetic = (bundle.slot other).synthetic

/-- What a record says of the surfaces that were exercised. -/
structure Exercised (bundle : AdapterBundle) (stepResults : List StepResult)
    (kvReport : Option KvCacheTimingReport) (run : RunResult) : Prop where
  lookup : ∀ surface provenance, run.surfaceProvenance.lookup surface = some provenance ↔
    bundle.surfaceProvenance.lookup surface = some provenance ∧
      (Drives bundle stepResults surface ∨ Times bundle kvReport surface)

namespace Exercised

variable {run : RunResult} (h : Exercised bundle stepResults kvReport run)
include h

theorem driven_iff (hdrives : Drives bundle stepResults surface) {provenance : SurfaceProvenance}
    (hslots : ∀ slot, (bundle.slot slot).surface = surface →
      (if (bundle.slot slot).synthetic then SurfaceProvenance.synthetic else .live) = provenance) :
    run.surfaceProvenance.lookup surface = some provenance := by
  obtain ⟨result, -, hsurface⟩ := id hdrives
  obtain ⟨slot, -, rfl⟩ := stepSurface_eq_ok.mp hsurface
  obtain ⟨recorded, hrecorded⟩ := exists_surfaceProvenance bundle slot
  obtain ⟨other, hother, rfl⟩ := surfaceProvenance_slot hrecorded
  rw [hslots other hother] at hrecorded
  exact (h.lookup _ _).mpr ⟨hrecorded, .inl hdrives⟩

theorem driven_live (hlive : AllLive bundle stepResults)
    (hdrives : Drives bundle stepResults surface) :
    run.surfaceProvenance.lookup surface = some .live :=
  h.driven_iff hdrives fun slot hslot => by rw [hlive surface hdrives slot hslot]; rfl

theorem driven_synthetic (hnone : NoneLive bundle stepResults)
    (hdrives : Drives bundle stepResults surface) :
    run.surfaceProvenance.lookup surface = some .synthetic :=
  h.driven_iff hdrives fun slot hslot => by rw [hnone surface hdrives slot hslot]; rfl

theorem not_anyLive (hnone : NoneLive bundle stepResults)
    (honly : ¬OnlyTimingLive bundle stepResults kvReport) : ¬run.anyLive := by
  rw [RunResult.anyLive_iff]
  rintro ⟨surface, hsurface⟩
  obtain ⟨hrecorded, hexercised⟩ := (h.lookup _ _).mp hsurface
  rcases hexercised with hdrives | htimes
  · rw [h.driven_synthetic hnone hdrives] at hsurface
    cases hsurface
  · obtain ⟨slot, rfl, hslot⟩ := surfaceProvenance_slot hrecorded
    refine honly ⟨hnone, slot, htimes, ?_⟩
    cases hsynthetic : (bundle.slot slot).synthetic with
    | false => rfl
    | true =>
      rw [hsynthetic] at hslot
      cases hslot

theorem anyLive_of_timing (halike : Alike bundle)
    (honly : OnlyTimingLive bundle stepResults kvReport) : run.anyLive := by
  obtain ⟨-, slot, htimes, hslot⟩ := honly
  obtain ⟨provenance, hprovenance⟩ := exists_surfaceProvenance bundle slot
  obtain ⟨other, hother, rfl⟩ := surfaceProvenance_slot hprovenance
  rw [halike other slot hother, hslot] at hprovenance
  exact RunResult.anyLive_iff.mpr ⟨_, (h.lookup _ _).mpr ⟨hprovenance, .inr htimes⟩⟩

/-- A driven surface is withheld from the letter only beside a live model that was timed. -/
theorem withheld_iff (halike : Alike bundle)
    (hlive : AllLive bundle stepResults ∨ NoneLive bundle stepResults)
    (hdrives : Drives bundle stepResults surface) :
    surface ∈ run.withheldSurfaces ↔ OnlyTimingLive bundle stepResults kvReport := by
  rw [RunResult.mem_withheldSurfaces, RunResult.scopeOf_configured]
  constructor
  · rintro ⟨hany, hsynthetic⟩
    by_contra honly
    rcases hlive with hall | hnone
    · rw [h.driven_live hall hdrives] at hsynthetic
      cases hsynthetic
    · exact h.not_anyLive hnone honly hany
  · intro honly
    exact ⟨h.anyLive_of_timing halike honly, h.driven_synthetic honly.1 hdrives⟩

end Exercised

end Provenance

section Headlines

/-- A headline rate beside the steps that it counts and the findings of a record. -/
structure HeadlineAgrees (steps : List StepResult) (uncounted : Prop) (findings : List Finding)
    (probeIds : List String) (rate : Option ℚ) : Prop where
  none_iff : rate = none ↔ steps = [] ∨ uncounted
  unit : ∀ value, rate = some value → 0 ≤ value ∧ value ≤ 1
  positive : ∀ value, rate = some value →
    (0 < value ↔ ∃ f ∈ findings, f.probeId ∈ probeIds ∧ f.status = .confirmed)
  counted : (∃ f ∈ findings, f.probeId ∈ probeIds ∧ f.status = .confirmed) → steps ≠ []

theorem HeadlineAgrees.positive_iff {steps : List StepResult} {uncounted : Prop}
    {findings : List Finding} {probeIds : List String} {rate : Option ℚ}
    (h : HeadlineAgrees steps uncounted findings probeIds rate) :
    (∃ value, rate = some value ∧ 0 < value) ↔
      ¬uncounted ∧ ∃ f ∈ findings, f.probeId ∈ probeIds ∧ f.status = .confirmed := by
  constructor
  · rintro ⟨value, rfl, hpos⟩
    refine ⟨fun huncounted => ?_, (h.positive value rfl).mp hpos⟩
    cases h.none_iff.mpr (.inr huncounted)
  · rintro ⟨hcounted, hconfirmed⟩
    cases rate with
    | none => exact absurd (h.none_iff.mp rfl) (not_or.mpr ⟨h.counted hconfirmed, hcounted⟩)
    | some value => exact ⟨value, rfl, (h.positive value rfl).mpr hconfirmed⟩

/-- What the suite and the timing probe hand to the record: findings that name their probe, and
steps that drove live surfaces alone or fakes alone. -/
structure Attributed (bundle : AdapterBundle) (stepResults : List StepResult)
    (kvReport : Option KvCacheTimingReport) : Prop where
  probeId : ∀ result ∈ stepResults, ∀ f ∈ result.2, f.probeId = result.1.probeId
  timingId : ∀ report ∈ kvReport, ∀ f ∈ report.findings, f.probeId = kvCacheTimingId
  ids : ∀ f ∈ rawFindings stepResults kvReport, ∀ g ∈ rawFindings stepResults kvReport,
    f.findingId = g.findingId → f.probeId = g.probeId
  live : AllLive bundle stepResults ∨ NoneLive bundle stepResults

/-- The poisoning probe surfaces findings where it queries alone. -/
structure SuiteResults (bundle : AdapterBundle) (stepResults : List StepResult)
    (kvReport : Option KvCacheTimingReport) : Prop
    extends Attributed bundle stepResults kvReport where
  queries : ∀ result ∈ stepResults, result.1.probeId = ragPoisoningId →
    result.1.action ≠ "vector.query" → result.2 = []

theorem mem_rawFindings {stepResults : List StepResult} {kvReport : Option KvCacheTimingReport}
    {f : Finding} : f ∈ rawFindings stepResults kvReport ↔
      (∃ result ∈ stepResults, f ∈ result.2) ∨ ∃ report ∈ kvReport, f ∈ report.findings := by
  unfold rawFindings
  rw [List.mem_append, List.mem_flatMap]
  refine or_congr_right ?_
  cases kvReport <;> simp

/-- The confirmed findings of some probes, once merged, are those of the steps that are counted for
them. -/
theorem SuiteResults.leaks_iff {bundle : AdapterBundle} {stepResults : List StepResult}
    {kvReport : Option KvCacheTimingReport} (h : SuiteResults bundle stepResults kvReport)
    {probeIds : List String} {action : Option String}
    (hcover : ∀ result ∈ stepResults, result.1.probeId ∈ probeIds → result.2 ≠ [] →
      ∀ wanted ∈ action, result.1.action = wanted)
    (htiming : kvCacheTimingId ∉ probeIds) :
    (∃ f ∈ dedupeFindings (rawFindings stepResults kvReport),
      f.probeId ∈ probeIds ∧ f.status = .confirmed) ↔
        ∃ result ∈ stepsOf probeIds action stepResults, Leaks result := by
  rw [exists_confirmed_dedupe probeIds h.ids]
  constructor
  · rintro ⟨f, hf, hprobe, hstatus⟩
    rcases mem_rawFindings.mp hf with ⟨result, hresult, hmem⟩ | ⟨report, hreport, hmem⟩
    · rw [h.probeId result hresult f hmem] at hprobe
      have hcounted := hcover result hresult hprobe (List.ne_nil_of_mem hmem)
      exact ⟨result, List.mem_filter.mpr ⟨hresult, decide_eq_true ⟨hprobe, hcounted⟩⟩, f, hmem,
        hstatus⟩
    · rw [h.timingId report hreport f hmem] at hprobe
      exact absurd hprobe htiming
  · rintro ⟨result, hresult, f, hmem, hstatus⟩
    obtain ⟨hin, hprobe, -⟩ := (List.mem_filter.mp hresult).imp_right of_decide_eq_true
    refine ⟨f, mem_rawFindings.mpr (.inl ⟨result, hin, hmem⟩), ?_, hstatus⟩
    rw [h.probeId result hin f hmem]
    exact hprobe

theorem rateOver_eq_none {rate : List StepResult → ℚ} {steps : List StepResult} :
    rateOver rate steps = none ↔ steps = [] := by
  unfold rateOver
  by_cases h : steps = [] <;> simp [h]

theorem rateOver_rateOf {rate : List StepResult → ℚ}
    (hrate : ∀ results, results ≠ [] → RateOf results (rate results)) {steps : List StepResult}
    {value : ℚ} (h : rateOver rate steps = some value) : RateOf steps value := by
  unfold rateOver at h
  split at h
  · rename_i hne
    obtain rfl := Option.some.inj h
    exact hrate steps hne
  · cases h

theorem SuiteResults.agrees {bundle : AdapterBundle} {stepResults : List StepResult}
    {kvReport : Option KvCacheTimingReport} {exercised : List Surface}
    (h : SuiteResults bundle stepResults kvReport)
    (hexercised : bundle.exercisedSurfaces stepResults kvReport = .ok exercised)
    {rate : List StepResult → ℚ} (hrate : ∀ results, results ≠ [] → RateOf results (rate results))
    (probeIds : List String) (action : Option String)
    (hcover : ∀ result ∈ stepResults, result.1.probeId ∈ probeIds → result.2 ≠ [] →
      ∀ wanted ∈ action, result.1.action = wanted)
    (htiming : kvCacheTimingId ∉ probeIds) :
    HeadlineAgrees (stepsOf probeIds action stepResults)
      (OnlyTimingLive bundle stepResults kvReport)
      (dedupeFindings (rawFindings stepResults kvReport)) probeIds
      (rateOver rate (bundle.liveOnly exercised (stepsOf probeIds action stepResults))) := by
  have hsub : stepsOf probeIds action stepResults ⊆ stepResults :=
    fun _ hresult => (List.mem_filter.mp hresult).1
  have hleaks := h.leaks_iff hcover htiming
  have hcounts : (∃ f ∈ dedupeFindings (rawFindings stepResults kvReport),
      f.probeId ∈ probeIds ∧ f.status = .confirmed) →
        stepsOf probeIds action stepResults ≠ [] := by
    intro hconfirmed
    obtain ⟨result, hresult, -⟩ := hleaks.mp hconfirmed
    exact List.ne_nil_of_mem hresult
  obtain ⟨hsilent, hcounted⟩ := liveOnly_eq hexercised h.live hsub
  by_cases honly : OnlyTimingLive bundle stepResults kvReport
  · rw [hsilent honly]
    refine ⟨iff_of_true rfl (.inr honly), ?_, ?_, hcounts⟩
    · intro value hvalue
      cases hvalue
    · intro value hvalue
      cases hvalue
  · rw [hcounted honly]
    refine ⟨?_, fun value hvalue => ?_, fun value hvalue => ?_, hcounts⟩
    · rw [rateOver_eq_none, or_iff_left honly]
    · have hshare := rateOver_rateOf hrate hvalue
      exact ⟨hshare.nonneg, hshare.le_one⟩
    · exact (rateOver_rateOf hrate hvalue).pos_iff.trans hleaks.symm

end Headlines

section Record

theorem refuse_eq_ok {run : RunResult} {what : String}
    (hconfirmed : run.metrics.confirmedFindings = (confirmedFindings run.findings).length)
    (hcounts : run.metrics.perProbeFindings = perProbeCounts (confirmedFindings run.findings)) :
    refuseSelfContradictingRecord run what = .ok () := by
  have hagree : disagreeing run = [] := by
    unfold disagreeing
    rw [hcounts]
    dsimp only
    split
    · rfl
    · simp
  unfold refuseSelfContradictingRecord
  rw [if_neg (not_not.mpr hconfirmed), if_neg (not_not.mpr hagree)]

variable [MathSqrt] [MathErfc] {context : RecordContext} {bundle : AdapterBundle}
  {stepResults : List StepResult} {kvReport : Option KvCacheTimingReport} {run : RunResult}

/-- What a record says of what was measured. -/
structure Records (bundle : AdapterBundle) (stepResults : List StepResult)
    (kvReport : Option KvCacheTimingReport) (exercised : List Surface) (run : RunResult) :
    Prop where
  surfaces : Exercised bundle stepResults kvReport run
  findings : run.findings = dedupeFindings (rawFindings stepResults kvReport)
  confirmed : run.metrics.confirmedFindings = (confirmedFindings run.findings).length
  perProbe : run.metrics.perProbeFindings = perProbeCounts (confirmedFindings run.findings)
  counts : (run.metrics.retrievalPivotK, run.metrics.retrievalPivotN) =
    retrievalPivotCounts (bundle.liveOnly exercised (stepsOf bleedProbeIds none stepResults))
  bleed : run.metrics.retrievalPivotRate = rateOver confirmedFindingRate
    (bundle.liveOnly exercised (stepsOf bleedProbeIds none stepResults))
  poisoning : run.metrics.poisoningBleedDelta = rateOver confirmedFindingRate
    (bundle.liveOnly exercised (stepsOf [ragPoisoningId] (some "vector.query") stepResults))
  inversion : run.metrics.inversionReconstructionRate = rateOver confirmedFindingRate
    (bundle.liveOnly exercised (stepsOf [embeddingInversionId] none stepResults))
  extraction : run.metrics.extractionEfficiency =
    rateOver (fun results => confirmedSequenceRate results "entity")
      (bundle.liveOnly exercised (stepsOf [ikeaExtractionId] none stepResults))

omit [MathSqrt] [MathErfc] in
theorem rateOver_counts (steps : List StepResult) :
    (if (retrievalPivotCounts steps).2 ≠ 0 then
      some (((retrievalPivotCounts steps).1 : ℚ) / (retrievalPivotCounts steps).2) else none) =
        rateOver confirmedFindingRate steps := by
  unfold rateOver retrievalPivotCounts confirmedFindingRate
  by_cases h : steps = [] <;> simp [h]

omit [MathSqrt] [MathErfc] in
theorem rateOver_of_counts {steps : List StepResult} {k n : Nat}
    (hcounts : (k, n) = retrievalPivotCounts steps) (hpos : 0 < n) :
    rateOver confirmedFindingRate steps = some ((k : ℚ) / n) := by
  rw [← rateOver_counts, ← hcounts, if_pos hpos.ne']

theorem probeRecord_records (h : probeRecord context bundle stepResults kvReport = .ok run) :
    ∃ exercised, bundle.exercisedSurfaces stepResults kvReport = .ok exercised ∧
      Records bundle stepResults kvReport exercised run := by
  unfold probeRecord at h
  dsimp only at h
  obtain ⟨exercised, hexercised, h⟩ := bind_eq_ok.mp h
  obtain ⟨rprCi, -, h⟩ := bind_eq_ok.mp h
  have hrun := Except.ok.inj h
  obtain ⟨-, hmem⟩ := exercisedSurfaces_spec hexercised
  refine ⟨exercised, hexercised, ⟨⟨fun surface provenance => ?_⟩, ?_, ?_, ?_, ?_, ?_, ?_, ?_, ?_⟩⟩
  · have hkeys : ((bundle.surfaceProvenance.items.filter fun entry =>
        entry.1 ∈ exercised).map Prod.fst).Nodup := by
      refine (List.filter_sublist.map Prod.fst).nodup ?_
      rw [← Dict.keys_eq_items]
      exact AList.keys_nodup _
    rw [← hrun, Dict.lookup_ofItems hkeys, List.mem_filter, decide_eq_true_eq, Dict.mem_items, hmem]
  · rw [← hrun]
  · rw [← hrun]
  · rw [← hrun]
  · rw [← hrun]
  · rw [← rateOver_counts, ← hrun]
  · rw [← hrun]
  · rw [← hrun]
  · rw [← hrun]

/-- The headline rate of a class. -/
def headlineRate (metrics : RunMetrics) (classId : Nat) : Option ℚ :=
  if classId = 2 then metrics.retrievalPivotRate else (metrics.assertedRate classId).map Prod.snd

/-- A confirmed finding stands on the surface that its step drove. -/
def Placed (bundle : AdapterBundle) (stepResults : List StepResult) : Prop :=
  ∀ result ∈ stepResults, ∀ f ∈ result.2, f.status = .confirmed →
    bundle.stepSurface result.1 = .ok f.backingSurface

omit [MathSqrt] [MathErfc] in
/-- A class that is graded fails exactly where its headline rate is positive. -/
theorem Records.fail_iff {exercised : List Surface}
    (h : Records bundle stepResults kvReport exercised run)
    (hsuite : SuiteResults bundle stepResults kvReport) (hplaced : Placed bundle stepResults)
    (halike : Alike bundle) {entry : CatalogClass} {c : ClassScore} (hgrades : c.Grades entry run)
    (hcovered : c.verdict ≠ .notCovered) {steps : List StepResult} {rate : Option ℚ}
    (hagrees : HeadlineAgrees steps (OnlyTimingLive bundle stepResults kvReport) run.findings
      entry.probeIds rate) (htiming : kvCacheTimingId ∉ entry.probeIds) :
    c.verdict = .fail ↔ ∃ value, rate = some value ∧ 0 < value := by
  have hwithheld : ∀ f ∈ entry.confirmedFindings run, f.backingSurface ∈ run.withheldSurfaces ↔
      OnlyTimingLive bundle stepResults kvReport := by
    intro f hf
    obtain ⟨hmem, hprobe, hstatus⟩ := CatalogClass.mem_confirmedFindings.mp hf
    rw [h.findings] at hmem
    obtain ⟨g, hg, -, hstatus', hprobe', hsurface⟩ := dedupeFindings_origin hmem
    have hbacking : g.backingSurface = f.backingSurface := by
      unfold Finding.backingSurface
      rw [hsurface]
    rcases mem_rawFindings.mp hg with ⟨result, hresult, hin⟩ | ⟨report, hreport, hin⟩
    · have hsurface := hplaced result hresult g hin (hstatus'.trans hstatus)
      rw [hbacking] at hsurface
      exact h.surfaces.withheld_iff halike hsuite.live ⟨result, hresult, hsurface⟩
    · rw [← hprobe', hsuite.timingId report hreport g hin] at hprobe
      exact absurd hprobe htiming
  rw [hagrees.positive_iff]
  constructor
  · intro hfail
    obtain ⟨-, f, hf, hoff, -⟩ := hgrades.fail_iff.mp hfail
    obtain ⟨hmem, hprobe, hstatus⟩ := CatalogClass.mem_confirmedFindings.mp hf
    exact ⟨fun honly => hoff ((hwithheld f hf).mpr honly), f, hmem, hprobe, hstatus⟩
  · rintro ⟨hcounted, f, hmem, hprobe, hstatus⟩
    have hf := CatalogClass.mem_confirmedFindings.mpr ⟨hmem, hprobe, hstatus⟩
    cases hverdict : c.verdict with
    | fail => rfl
    | notCovered => exact absurd hverdict hcovered
    | pass =>
      obtain ⟨-, hcaps⟩ := hgrades.pass_iff.mp hverdict
      refine absurd ⟨f, hf, fun hin => ?_⟩ hcaps
      exact hcounted ((hwithheld f hf).mp hin)

end Record

section Agreement

variable [MathSqrt] [MathErfc] {context : RecordContext} {bundle : AdapterBundle}
  {stepResults : List StepResult} {kvReport : Option KvCacheTimingReport} {run : RunResult}

/-- The four headline rates beside the steps that they count. -/
structure RatesAgree (bundle : AdapterBundle) (stepResults : List StepResult)
    (kvReport : Option KvCacheTimingReport) (run : RunResult) : Prop where
  bleed : HeadlineAgrees (stepsOf bleedProbeIds none stepResults)
    (OnlyTimingLive bundle stepResults kvReport) run.findings bleedProbeIds
    run.metrics.retrievalPivotRate
  poisoning : HeadlineAgrees (stepsOf [ragPoisoningId] (some "vector.query") stepResults)
    (OnlyTimingLive bundle stepResults kvReport) run.findings [ragPoisoningId]
    run.metrics.poisoningBleedDelta
  inversion : HeadlineAgrees (stepsOf [embeddingInversionId] none stepResults)
    (OnlyTimingLive bundle stepResults kvReport) run.findings [embeddingInversionId]
    run.metrics.inversionReconstructionRate
  extraction : HeadlineAgrees (stepsOf [ikeaExtractionId] none stepResults)
    (OnlyTimingLive bundle stepResults kvReport) run.findings [ikeaExtractionId]
    run.metrics.extractionEfficiency

omit [MathSqrt] [MathErfc] in
theorem Records.ratesAgree {exercised : List Surface}
    (h : Records bundle stepResults kvReport exercised run)
    (hexercised : bundle.exercisedSurfaces stepResults kvReport = .ok exercised)
    (hsuite : SuiteResults bundle stepResults kvReport) :
    RatesAgree bundle stepResults kvReport run := by
  have hany : ∀ probeIds : List String, ∀ result ∈ stepResults, result.1.probeId ∈ probeIds →
      result.2 ≠ [] → ∀ wanted ∈ (none : Option String), result.1.action = wanted := by
    intro probeIds result _ _ _ wanted hwanted
    cases hwanted
  have hqueries : ∀ result ∈ stepResults, result.1.probeId ∈ [ragPoisoningId] → result.2 ≠ [] →
      ∀ wanted ∈ (some "vector.query" : Option String), result.1.action = wanted := by
    intro result hresult hprobe hne wanted hwanted
    obtain rfl := Option.some.inj hwanted
    by_contra haction
    exact hne (hsuite.queries result hresult (List.mem_singleton.mp hprobe) haction)
  refine ⟨?_, ?_, ?_, ?_⟩
  · rw [h.findings, h.bleed]
    exact hsuite.agrees hexercised (fun _ => confirmedFindingRate_spec) _ none (hany _) (by decide)
  · rw [h.findings, h.poisoning]
    exact hsuite.agrees hexercised (fun _ => confirmedFindingRate_spec) _ _ hqueries (by decide)
  · rw [h.findings, h.inversion]
    exact hsuite.agrees hexercised (fun _ => confirmedFindingRate_spec) _ none (hany _) (by decide)
  · rw [h.findings, h.extraction]
    exact hsuite.agrees hexercised (fun _ => confirmedSequenceRate_spec "entity") _ none (hany _)
      (by decide)

omit [MathSqrt] [MathErfc] in
theorem headline_classes : ∀ entry ∈ catalog, entry.classId ∈ headlineRateClasses →
    entry.classId = 2 ∧ entry.probeIds = bleedProbeIds ∨
      entry.classId = 3 ∧ entry.probeIds = [ragPoisoningId] ∨
      entry.classId = 6 ∧ entry.probeIds = [embeddingInversionId] ∨
      entry.classId = 10 ∧ entry.probeIds = [ikeaExtractionId] := by
  decide +kernel

omit [MathSqrt] [MathErfc] in
theorem RatesAgree.headline (h : RatesAgree bundle stepResults kvReport run) {entry : CatalogClass}
    (hentry : entry ∈ catalog) (hclass : entry.classId ∈ headlineRateClasses) :
    kvCacheTimingId ∉ entry.probeIds ∧ ∃ steps, HeadlineAgrees steps
      (OnlyTimingLive bundle stepResults kvReport) run.findings entry.probeIds
      (headlineRate run.metrics entry.classId) := by
  have hasserted : ∀ (label : String) (rate : Option ℚ),
      (rate.map fun rate => (label, rate)).map Prod.snd = rate := by
    intro label rate
    cases rate <;> rfl
  unfold headlineRate RunMetrics.assertedRate
  rcases headline_classes entry hentry hclass with
    ⟨hid, hprobes⟩ | ⟨hid, hprobes⟩ | ⟨hid, hprobes⟩ | ⟨hid, hprobes⟩
  · rw [hid, hprobes]
    exact ⟨by decide, _, h.bleed⟩
  · rw [hid, hprobes]
    refine ⟨by decide, stepsOf [ragPoisoningId] (some "vector.query") stepResults, ?_⟩
    simpa [hasserted] using h.poisoning
  · rw [hid, hprobes]
    refine ⟨by decide, stepsOf [embeddingInversionId] none stepResults, ?_⟩
    simpa [hasserted] using h.inversion
  · rw [hid, hprobes]
    refine ⟨by decide, stepsOf [ikeaExtractionId] none stepResults, ?_⟩
    simpa [hasserted] using h.extraction

/-- A record agrees with the findings that it carries: in its counts, in its headline rates, and in
the classes that they are the rates of when the record is graded. -/
theorem probeRecord_agrees [Unicode] [RunDigest]
    (h : probeRecord context bundle stepResults kvReport = .ok run)
    (hsuite : SuiteResults bundle stepResults kvReport) :
    (∀ what, refuseSelfContradictingRecord run what = .ok ()) ∧
      run.metrics.retrievalPivotK ≤ run.metrics.retrievalPivotN ∧
      (0 < run.metrics.retrievalPivotN → run.metrics.retrievalPivotRate =
        some ((run.metrics.retrievalPivotK : ℚ) / run.metrics.retrievalPivotN)) ∧
      RatesAgree bundle stepResults kvReport run ∧
      (Placed bundle stepResults → Alike bundle → ∀ score, scoreRun run = .ok score →
        ∀ c ∈ score.classes, c.classId ∈ headlineRateClasses → c.verdict ≠ .notCovered →
          (c.verdict = .fail ↔
            ∃ value, headlineRate run.metrics c.classId = some value ∧ 0 < value)) := by
  obtain ⟨exercised, hexercised, hrecords⟩ := probeRecord_records h
  have hrates := hrecords.ratesAgree hexercised hsuite
  obtain ⟨hk, hn⟩ := Prod.mk.inj hrecords.counts
  refine ⟨fun what => refuse_eq_ok hrecords.confirmed hrecords.perProbe, ?_, fun hpos => ?_, hrates,
    fun hplaced halike score hscore c hc hclass hcovered => ?_⟩
  · rw [hk, hn]
    exact List.countP_le_length
  · rw [hrecords.bleed]
    exact rateOver_of_counts hrecords.counts hpos
  · obtain ⟨i, hi, rfl⟩ := List.getElem_of_mem hc
    have hgrades := (scoreRun_grades hscore).classes
    have hi' : i < catalog.length := hgrades.length_eq ▸ hi
    have hgraded := hgrades.get hi' hi
    rw [List.get_eq_getElem, List.get_eq_getElem] at hgraded
    have hentry : catalog[i] ∈ catalog := List.getElem_mem hi'
    rw [hgraded.classId] at hclass ⊢
    obtain ⟨htiming, steps, hagrees⟩ := hrates.headline hentry hclass
    exact hrecords.fail_iff hsuite hplaced halike hgraded hcovered hagrees htiming

end Agreement

section Sample

def suiteContext : RecordContext :=
  { runId := "run-1", scenarioHash := "scenario", manifestHash := "manifest"
    startedAt := ⟨0, none⟩, finishedAt := ⟨0, none⟩, adaptersVersion := "1", version := "1"
    detection := { embedderKind := "fake", judgeKind := "fake", semanticThreshold := UnitRat.one } }

/-- The built-in fakes beside some live adapters, with the agent on a surface of choice. -/
def suiteBundle (live : List Slot) (agentSurface : Surface) : AdapterBundle where
  slot slot :=
    { name := slot.name
      surface :=
        match slot with
        | .vector => .vectorDb
        | .cache => .semanticCache
        | .model => .modelAdapter
        | .mcp => .mcp
        | .memory => .agentMemory
        | .rag => .ragPipeline
        | .observability => .tracing
        | .agent => agentSurface
      synthetic := slot ∉ live }
  vectorEmbedderName := "fake"

/-- A model of which the prefixes were timed, without effect. -/
def timedReport : KvCacheTimingReport :=
  { signals := [{ ownerTenantId := ⟨1⟩, observedInTenantId := ⟨2⟩, effectSize := 0 }]
    findings := [] }

def suiteLeak (probeId : String) (surface : Surface) : Finding :=
  { findingId := "finding-1", probeId, severity := .high, confidence := UnitRat.one
    status := .confirmed, ownerTenantId := ⟨1⟩, observedInTenantId := ⟨2⟩, surface }

/-- One benign query, which surfaces what another tenant owns. -/
def extractionResults (surface : Surface) : List StepResult :=
  [({ stepId := "step-1", probeId := ikeaExtractionId, actorTenantId := ⟨2⟩
      action := "vector.query", payload := Dict.ofItems [("entity", "Acme")] },
    [suiteLeak ikeaExtractionId surface])]

/-- A poisoning probe that finds its poison by a fetch and not by its query. -/
def fetchedResults : List StepResult :=
  [({ stepId := "step-1", probeId := ragPoisoningId, actorTenantId := ⟨2⟩
      action := "vector.query" }, []),
    ({ stepId := "step-2", probeId := ragPoisoningId, actorTenantId := ⟨2⟩
       action := "vector.fetch" }, [suiteLeak ragPoisoningId .vectorDb])]

/-- The digests of the records below that are graded, and of no other. -/
@[reducible] def RunDigest.suiteRuns : RunDigest where
  runDigest run :=
    .ok (if run.surfaceProvenance.lookup .vectorDb = some .live then
        "4d0a4baea6227f01caceffbc4e0f0261209bb15a4d4822a6526f8be4fd604413"
      else if .modelAdapter ∈ run.surfaceProvenance then
        "38fc56e290e11170416dc98c80b046a334e6f09f8c8b6dbef39c4b7e9d441e35"
      else "42df894e3f3a762e4aaa34a01c9a9df7ef433609f55cf5d6363bb2093055ae2c")

attribute [local instance] Unicode.ascii MathSqrt.exact MathErfc.atZero RunDigest.suiteRuns

/-- Of steps that drive the vector store alone all is live, or all is a fake. -/
theorem suiteBundle_live (live : List Slot) {agentSurface : Surface}
    (hagent : agentSurface ≠ .vectorDb) {stepResults : List StepResult}
    (hfamily : ∀ result ∈ stepResults, Runner.family result.1.action = Slot.vector.name) :
    AllLive (suiteBundle live agentSurface) stepResults ∨
      NoneLive (suiteBundle live agentSurface) stepResults := by
  have hvector : ∀ surface, Drives (suiteBundle live agentSurface) stepResults surface →
      ∀ slot, ((suiteBundle live agentSurface).slot slot).surface = surface → slot = .vector := by
    rintro surface ⟨result, hresult, hsurface⟩ slot hslot
    obtain ⟨driven, hname, rfl⟩ := stepSurface_eq_ok.mp hsurface
    rw [hfamily result hresult] at hname
    obtain rfl : driven = .vector := by
      revert hname
      cases driven <;> decide
    cases slot with
    | vector => rfl
    | agent => exact absurd hslot hagent
    | cache | model | mcp | memory | rag | observability => cases hslot
  by_cases hlive : Slot.vector ∈ live
  · refine .inl fun surface hdrives slot hslot => ?_
    rw [hvector surface hdrives slot hslot]
    simp [suiteBundle, hlive]
  · refine .inr fun surface hdrives slot hslot => ?_
    rw [hvector surface hdrives slot hslot]
    simp [suiteBundle, hlive]

theorem extractionResults_attributed (live : List Slot) {agentSurface : Surface}
    (hagent : agentSurface ≠ .vectorDb) (leak : Surface) {kvReport : Option KvCacheTimingReport}
    (hreport : ∀ report ∈ kvReport, report.findings = []) :
    Attributed (suiteBundle live agentSurface) (extractionResults leak) kvReport := by
  have hraw : rawFindings (extractionResults leak) kvReport =
      [suiteLeak ikeaExtractionId leak] := by
    cases kvReport with
    | none => rfl
    | some report =>
      have hfindings : report.findings = [] := hreport report rfl
      change (extractionResults leak).flatMap Prod.snd ++ report.findings = _
      rw [hfindings]
      rfl
  refine ⟨?_, ?_, ?_, suiteBundle_live live hagent ?_⟩
  · intro result hresult f hf
    obtain rfl := List.mem_singleton.mp hresult
    obtain rfl := List.mem_singleton.mp hf
    rfl
  · intro report hmem f hf
    rw [hreport report hmem] at hf
    cases hf
  · rw [hraw]
    intro f hf g hg _
    rw [List.mem_singleton.mp hf, List.mem_singleton.mp hg]
  · intro result hresult
    obtain rfl := List.mem_singleton.mp hresult
    exact (by decide +kernel : Runner.family "vector.query" = Slot.vector.name)

theorem exists_graded {bundle : AdapterBundle} {stepResults : List StepResult}
    {kvReport : Option KvCacheTimingReport} {P : RunResult → IsolationScore → Prop}
    [∀ run score, Decidable (P run score)]
    (h : ((probeRecord suiteContext bundle stepResults kvReport).bind fun run =>
      (scoreRun run).map fun score => decide (P run score)) = .ok true) :
    ∃ run score, probeRecord suiteContext bundle stepResults kvReport = .ok run ∧
      scoreRun run = .ok score ∧ P run score := by
  obtain ⟨run, hrun, h⟩ := bind_eq_ok.mp h
  obtain ⟨score, hscore, hP⟩ := map_eq_ok.mp h
  exact ⟨run, score, hrun, hscore, of_decide_eq_true hP⟩

/-- The leak of the fake vector store, in the rate and in the letter. -/
theorem probeRecord_agrees_fake : ∃ run score,
    probeRecord suiteContext (suiteBundle [] .agentFramework) (extractionResults .vectorDb) none =
      .ok run ∧ scoreRun run = .ok score ∧ run.metrics.extractionEfficiency = some 1 ∧
      ∃ c ∈ score.classes, c.classId = 10 ∧ c.verdict = .fail := by
  obtain ⟨run, score, hrun, hscore, hrate, c, hc, hid, hcovered⟩ := exists_graded
    (show ((probeRecord suiteContext (suiteBundle [] .agentFramework)
        (extractionResults .vectorDb) none).bind fun run => (scoreRun run).map fun score =>
      decide (run.metrics.extractionEfficiency = some 1 ∧
        ∃ c ∈ score.classes, c.classId = 10 ∧ c.verdict ≠ .notCovered)) = .ok true by
      decide +kernel)
  have hattributed : Attributed (suiteBundle [] .agentFramework) (extractionResults .vectorDb)
      none := extractionResults_attributed [] (by decide) _ fun report h => by cases h
  have hqueries : ∀ result ∈ extractionResults .vectorDb, result.1.probeId = ragPoisoningId →
      result.1.action ≠ "vector.query" → result.2 = [] := by
    intro result hresult hprobe
    obtain rfl := List.mem_singleton.mp hresult
    exact absurd hprobe (by decide)
  obtain ⟨-, -, -, -, hgraded⟩ := probeRecord_agrees hrun ⟨hattributed, hqueries⟩
  refine ⟨run, score, hrun, hscore, hrate, c, hc, hid, ?_⟩
  refine (hgraded ?_ ?_ score hscore c hc (by rw [hid]; decide) hcovered).mpr ⟨1, ?_, one_pos⟩
  · intro result hresult f hf _
    obtain rfl := List.mem_singleton.mp hresult
    obtain rfl := List.mem_singleton.mp hf
    rfl
  · intro slot other _
    rfl
  · rw [hid]
    simp [headlineRate, RunMetrics.assertedRate, hrate]

theorem fetchedResults_attributed :
    Attributed (suiteBundle [] .agentFramework) fetchedResults none := by
  refine ⟨by decide +kernel, ?_, by decide +kernel, suiteBundle_live [] (by decide) ?_⟩
  · intro report h
    cases h
  · decide +kernel

/-- Attributed results under which the headline numbers and the findings part: a poisoned document
that is fetched and not queried; a live model beside fakes that leak; a leak that is reported on a
surface that its step did not drive; and a fake that declares the surface of the live model. -/
theorem headlines_part :
    (∃ run, Attributed (suiteBundle [] .agentFramework) fetchedResults none ∧
      (∀ result ∈ fetchedResults, result.1.action = "vector.upsert" → result.2 = []) ∧
      probeRecord suiteContext (suiteBundle [] .agentFramework) fetchedResults none = .ok run ∧
      run.metrics.poisoningBleedDelta = some 0 ∧
      ∃ f ∈ run.findings, f.probeId = ragPoisoningId ∧ f.status = .confirmed) ∧
    (∃ run, Attributed (suiteBundle [.model] .agentFramework) (extractionResults .vectorDb)
        (some timedReport) ∧
      probeRecord suiteContext (suiteBundle [.model] .agentFramework) (extractionResults .vectorDb)
        (some timedReport) = .ok run ∧
      stepsOf [ikeaExtractionId] none (extractionResults .vectorDb) ≠ [] ∧
      run.metrics.extractionEfficiency = none) ∧
    (∃ run score, Attributed (suiteBundle [.vector] .agentFramework)
        (extractionResults .modelAdapter) (some timedReport) ∧
      probeRecord suiteContext (suiteBundle [.vector] .agentFramework)
        (extractionResults .modelAdapter) (some timedReport) = .ok run ∧
      scoreRun run = .ok score ∧ run.metrics.extractionEfficiency = some 1 ∧
      ∃ c ∈ score.classes, c.classId = 10 ∧ c.verdict = .pass) ∧
    ∃ run score, Attributed (suiteBundle [.model] .modelAdapter) (extractionResults .vectorDb)
        (some timedReport) ∧
      probeRecord suiteContext (suiteBundle [.model] .modelAdapter) (extractionResults .vectorDb)
        (some timedReport) = .ok run ∧
      scoreRun run = .ok score ∧ run.metrics.extractionEfficiency = none ∧
      ∃ c ∈ score.classes, c.classId = 10 ∧ c.verdict = .fail := by
  have htimed : ∀ report ∈ some timedReport, report.findings = [] := by
    intro report h
    obtain rfl := Option.some.inj h
    rfl
  refine ⟨?_, ?_, ?_, ?_⟩
  · obtain ⟨run, hrun, h⟩ := map_eq_ok.mp
      (show (probeRecord suiteContext (suiteBundle [] .agentFramework) fetchedResults none).map
        (fun run => decide (run.metrics.poisoningBleedDelta = some 0 ∧
          ∃ f ∈ run.findings, f.probeId = ragPoisoningId ∧ f.status = .confirmed)) = .ok true by
        decide +kernel)
    exact ⟨run, fetchedResults_attributed, by decide +kernel, hrun, of_decide_eq_true h⟩
  · obtain ⟨run, hrun, h⟩ := map_eq_ok.mp
      (show (probeRecord suiteContext (suiteBundle [.model] .agentFramework)
        (extractionResults .vectorDb) (some timedReport)).map
          (fun run => run.metrics.extractionEfficiency) = .ok none by decide +kernel)
    exact ⟨run, extractionResults_attributed _ (by decide) _ htimed, hrun, by decide, h⟩
  · obtain ⟨run, score, hrun, hscore, hrate, hpass⟩ := exists_graded
      (show ((probeRecord suiteContext (suiteBundle [.vector] .agentFramework)
          (extractionResults .modelAdapter) (some timedReport)).bind fun run =>
        (scoreRun run).map fun score => decide (run.metrics.extractionEfficiency = some 1 ∧
          ∃ c ∈ score.classes, c.classId = 10 ∧ c.verdict = .pass)) = .ok true by decide +kernel)
    exact ⟨run, score, extractionResults_attributed _ (by decide) _ htimed, hrun, hscore, hrate,
      hpass⟩
  · obtain ⟨run, score, hrun, hscore, hrate, hfail⟩ := exists_graded
      (show ((probeRecord suiteContext (suiteBundle [.model] .modelAdapter)
          (extractionResults .vectorDb) (some timedReport)).bind fun run =>
        (scoreRun run).map fun score => decide (run.metrics.extractionEfficiency = none ∧
          ∃ c ∈ score.classes, c.classId = 10 ∧ c.verdict = .fail)) = .ok true by decide +kernel)
    exact ⟨run, score, extractionResults_attributed _ (by decide) _ htimed, hrun, hscore, hrate,
      hfail⟩

end Sample

end Sectum
