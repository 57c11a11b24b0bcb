import Sectum.Probes.BoundaryExact
import Sectum.Probes.KvTiming

/-! What the catalog's steps and findings bear: the id of their probe, and the surface of the observation.
A finding's own id begins with the id of the probe, so that findings of different probes have different
ids. -/

namespace Sectum

open Py

section Heads

def findingKinds : List String := ["finding-", "routing-"]

/-- The ids of the probes that report findings. -/
def reportingIds : List String :=
  ["tenant-boundary-fetch", "rag-entity-bleed", "rag-pipeline-bleed", "rag-poisoning",
    "semantic-cache-contamination", "kv-cache-timing", "embedding-inversion", "agent-tool-hijack",
    "agent-framework-hijack", "memory-contamination", "lora-cross-tenant", "ikea-extraction",
    "multimodal-rag-bleed"]

def findingHead (kind probeId : String) : List Char := (kind ++ probeId ++ "-").toList

/-- The finding is one of the probe, as its id says, on the surface. -/
structure Finding.Bears (f : Finding) (probeId : String) (surface : Surface) : Prop where
  named : f.probeId = probeId
  seen : f.surface = surface
  head : ∃ kind ∈ findingKinds, findingHead kind probeId <+: f.findingId.toList

/-- No head of an id begins with the head of another probe. -/
theorem findingHead_apart : ∀ kind ∈ findingKinds, ∀ kind' ∈ findingKinds,
    ∀ probeId ∈ reportingIds, ∀ probeId' ∈ reportingIds,
      findingHead kind probeId <+: findingHead kind' probeId' → probeId = probeId' := by
  decide +kernel

theorem Finding.Bears.same {f g : Finding} {probeId probeId' : String} {surface surface' : Surface}
    (hf : f.Bears probeId surface) (hg : g.Bears probeId' surface') (hmem : probeId ∈ reportingIds)
    (hmem' : probeId' ∈ reportingIds) (hid : f.findingId = g.findingId) : f.probeId = g.probeId := by
  obtain ⟨kind, hkind, hhead⟩ := hf.head
  obtain ⟨kind', hkind', hhead'⟩ := hg.head
  rw [hid] at hhead
  rw [hf.named, hg.named]
  rcases List.prefix_or_prefix_of_prefix hhead hhead' with hprefix | hprefix
  · exact findingHead_apart kind hkind kind' hkind' probeId hmem probeId' hmem' hprefix
  · exact (findingHead_apart kind' hkind' kind hkind probeId' hmem' probeId hmem hprefix).symm

end Heads

section Timing

namespace KvCacheTimingProbe

variable [FloatText] {tenants : Nat} {signals : List MeasuredSignal} {f : Finding}

/-- Every finding of the timing probe bears its id, and rests on a pair that was resolved. -/
theorem bears_report (h : f ∈ (report tenants signals).findings) :
    f.Bears kvCacheTimingId .kvCache ∧ (report tenants signals).resolved ≠ [] := by
  obtain ⟨signal, hmem, hfound⟩ := List.mem_filterMap.mp h
  obtain ⟨hsignificant, rfl⟩ := found_eq_some.mp hfound
  refine ⟨⟨rfl, rfl, "finding-", by decide, ?_⟩, ?_⟩
  · unfold finding findingHead
    simp only [String.toList_append, List.append_assoc, List.prefix_append_right_inj,
      List.prefix_append]
  · refine List.ne_nil_of_mem (List.mem_filter.mpr ⟨List.mem_map_of_mem hmem, ?_⟩)
    exact (of_decide_eq_true hsignificant).1

variable [MathSqrt] [MathExp] [Hashlib] [Shuffle] {τ : Type} {model : TimedModel τ}
  {substrate : Substrate} {s : τ} {reported : KvCacheTimingReport}

theorem run_eq_report (h : (run model substrate s).1 = .ok reported) :
    ∃ tenants signals, reported = report tenants signals := by
  obtain ⟨signals, -, rfl⟩ := Call.map_eq_ok.mp
    (show run model substrate s = (.ok reported, (run model substrate s).2) from Prod.ext h rfl)
  exact ⟨_, signals, rfl⟩

theorem bears_run (h : (run model substrate s).1 = .ok reported) (hf : f ∈ reported.findings) :
    f.Bears kvCacheTimingId .kvCache ∧ reported.resolved ≠ [] := by
  obtain ⟨tenants, signals, rfl⟩ := run_eq_report h
  exact bears_report hf

end KvCacheTimingProbe

end Timing

section Catalog

variable [Unicode] [MathSqrt] {providers : DetectionProviders} {step : ProbeStep}
  {observation : Observation} {substrate : Substrate} {probe : DetectingProbe} {f : Finding}

omit [Unicode] [MathSqrt] in
theorem DetectingProbe.probeId_numbered {steps : List PlannedStep}
    (h : step ∈ probe.numbered steps) : step.probeId = probe.id := by
  obtain ⟨entry, -, rfl⟩ := List.mem_map.mp h
  rfl

open DetectionPipeline in
theorem DetectingProbe.bears_scan {atlas : List String}
    (h : f ∈ probe.scan providers step observation substrate atlas) :
    f.Bears probe.id observation.surface := by
  obtain ⟨marker, found, hsource, rfl⟩ := mem_scan.mp h
  have hbears (severity : Severity) (confidence : UnitRat) (status : FindingStatus)
      (evidence : String) : (finding marker step.principal observation.surface probe.id severity
        confidence status evidence).Bears probe.id observation.surface := by
    refine ⟨rfl, rfl, "finding-", List.mem_cons_self, ?_⟩
    unfold finding findingHead
    simp only [String.toList_append, List.append_assoc, List.prefix_append_right_inj,
      List.prefix_append]
  have hfound : found.Bears probe.id observation.surface := by
    cases hsource with
    | exact => exact hbears _ _ _ _
    | secret => exact hbears _ _ _ _
    | semantic => exact hbears _ _ _ _
  exact ⟨hfound.named, hfound.seen, hfound.head⟩

omit [Unicode] [MathSqrt] in
theorem DetectingProbe.bears_emptyAmbiguity {marker : Option Marker} {evidence remediation : String}
    {atlas : Option (List String)}
    (h : probe.emptyAmbiguityFinding step observation substrate marker evidence remediation atlas =
      some f) : f.Bears probe.id observation.surface := by
  unfold emptyAmbiguityFinding at h
  split at h
  · split at h
    · cases h
    · obtain rfl := Option.some.inj h
      refine ⟨rfl, rfl, "finding-", List.mem_cons_self, ?_⟩
      unfold findingHead
      have hempty : "-empty-".toList = "-".toList ++ "empty-".toList := rfl
      simp only [String.toList_append, hempty, List.append_assoc, List.prefix_append_right_inj,
        List.prefix_append]
  · cases h

omit [Unicode] [MathSqrt] in
theorem DetectingProbe.bears_flagged {findings : List Finding} {ambiguous : Bool}
    {ambiguity : Option Finding} {probeId : String} {surface : Surface}
    (h : ∀ f ∈ findings, f.Bears probeId surface)
    (hambiguity : ∀ f, ambiguity = some f → f.Bears probeId surface)
    (hf : f ∈ flagged findings ambiguous ambiguity) : f.Bears probeId surface := by
  unfold flagged at hf
  split at hf
  · exact hambiguity f (Option.mem_toList.mp hf)
  · exact h f hf

variable [UuidText]

/-- A finding of misrouting is on the surface of the models, whatever the adapter declares. -/
theorem LoraCrossTenantProbe.bears_detect
    (h : f ∈ LoraCrossTenantProbe.detect providers step observation substrate) :
    f.Bears declared.id observation.surface ∨ f.Bears declared.id .modelAdapter := by
  rcases List.mem_append.mp h with h | h
  · exact .inl (DetectingProbe.bears_scan h)
  · obtain ⟨served, -, hserved⟩ := Option.bind_eq_some_iff.mp (Option.mem_toList.mp h)
    obtain ⟨owner, -, rfl⟩ := Option.map_eq_some_iff.mp hserved
    refine .inr ⟨rfl, rfl, "routing-", by decide, ?_⟩
    unfold routingFinding findingHead
    simp only [String.toList_append, List.append_assoc, List.prefix_append_right_inj,
      List.prefix_append]

variable {attack : Attack}

theorem reportingIds_attacks (h : attack ∈ attacks providers) :
    attack.probe.id ∈ reportingIds := by
  have hids : (attacks providers).map (fun attack => attack.probe.id) ⊆ reportingIds := by
    have hlisted : (attacks providers).map (fun attack => attack.probe.id) =
        ["tenant-boundary-fetch", "rag-entity-bleed", "rag-pipeline-bleed", "rag-poisoning",
          "semantic-cache-contamination", "embedding-inversion", "agent-tool-hijack",
          "agent-framework-hijack", "memory-contamination", "lora-cross-tenant",
          "ikea-extraction", "multimodal-rag-bleed"] := rfl
    rw [hlisted]
    decide
  exact hids (List.mem_map_of_mem h)

/-- Every step of a plan of the catalog bears the id of its probe. -/
theorem probeId_plan (h : attack ∈ attacks providers) {substrate : Substrate}
    (hstep : step ∈ attack.probe.plan substrate) : step.probeId = attack.probe.id := by
  simp only [attacks, List.mem_cons, List.not_mem_nil, or_false] at h
  rcases h with rfl | rfl | rfl | rfl | rfl | rfl | rfl | rfl | rfl | rfl | rfl | rfl
  all_goals exact DetectingProbe.probeId_numbered hstep

/-- Every finding of the catalog bears the id of its probe and the surface of the observation, but for
those of misrouting. -/
theorem bears_detect (h : attack ∈ attacks providers)
    (hf : f ∈ attack.probe.detect step observation substrate) :
    f.Bears attack.probe.id observation.surface ∨
      Slot.model ∈ attack.probe.requiresAdapters ∧ f.Bears attack.probe.id .modelAdapter := by
  simp only [attacks, List.mem_cons, List.not_mem_nil, or_false] at h
  rcases h with rfl | rfl | rfl | rfl | rfl | rfl | rfl | rfl | rfl | rfl | rfl | rfl
  · exact .inl (DetectingProbe.bears_flagged (fun _ => DetectingProbe.bears_scan)
      (fun _ => DetectingProbe.bears_emptyAmbiguity) hf)
  · exact .inl (DetectingProbe.bears_scan hf)
  · exact .inl (DetectingProbe.bears_scan hf)
  · exact .inl (DetectingProbe.bears_scan hf)
  · exact .inl (DetectingProbe.bears_flagged (fun _ => DetectingProbe.bears_scan)
      (fun _ => DetectingProbe.bears_emptyAmbiguity) hf)
  · exact .inl (DetectingProbe.bears_scan hf)
  · exact .inl (DetectingProbe.bears_flagged (fun _ => DetectingProbe.bears_scan)
      (fun _ => DetectingProbe.bears_emptyAmbiguity) hf)
  · exact .inl (DetectingProbe.bears_flagged (fun _ => DetectingProbe.bears_scan)
      (fun _ => DetectingProbe.bears_emptyAmbiguity) hf)
  · exact .inl (DetectingProbe.bears_scan hf)
  · rcases LoraCrossTenantProbe.bears_detect hf with hbears | hbears
    · exact .inl hbears
    · exact .inr ⟨List.mem_singleton_self _, hbears⟩
  · exact .inl (DetectingProbe.bears_scan hf)
  · exact .inl (DetectingProbe.bears_scan hf)

theorem named_detect (h : attack ∈ attacks providers)
    (hf : f ∈ attack.probe.detect step observation substrate) : f.probeId = attack.probe.id := by
  rcases bears_detect h hf with hbears | ⟨-, hbears⟩
  · exact hbears.named
  · exact hbears.named

end Catalog

end Sectum
