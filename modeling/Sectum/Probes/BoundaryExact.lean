import Sectum.Core.FakeRunner
import Sectum.Probes.CatalogSound
import Sectum.Probes.DetectionSound

/-! The catalog against the in-memory stack, from the plan to the verdict: a run confirms a leak exactly
where the knobs of the stack let a principal reach a canary that is foreign to it. -/

namespace Sectum

open Py

section Scan

variable [Unicode] [MathSqrt] {probe : DetectingProbe} {providers : DetectionProviders}
  {step : ProbeStep} {observation : Observation} {substrate : Substrate} {atlas : List String}

/-- A confirmed finding about the marker. -/
def Confirms (findings : List Finding) (marker : Marker) : Prop :=
  ∃ f ∈ findings, f.status = .confirmed ∧ f.markerId = some marker.markerId

open DetectionPipeline in
theorem mem_scan {f : Finding} : f ∈ probe.scan providers step observation substrate atlas ↔
    ∃ marker found, (providers.pipeline substrate).Source step.principal observation.rawResponse
      observation.surface probe.id marker found ∧ f = restamp (probe.stamp atlas) found :=
  mem_detect _ (probe.detect_eq_scan providers step observation substrate atlas) f

/-- A foreign canary that is shown is confirmed. -/
theorem confirms_scan {marker : Marker} (hmarker : marker ∈ substrate.manifest.markers)
    (hcross : isCrossPrincipal marker step.principal = true)
    (hshown : residualPresent marker.plaintext observation.rawResponse = true) :
    Confirms (probe.scan providers step observation substrate atlas) marker := by
  have hembed : (providers.pipeline substrate).embed = providers.embedder.embed := rfl
  have hshows : DetectionPipeline.Shows observation.rawResponse marker := .inl hshown
  obtain ⟨found, hsource, hconfirmed⟩ := hshows.source (providers.pipeline substrate) hmarker hcross
    fun htype => (providers.pipeline substrate).score_total hembed hmarker htype
  exact ⟨_, mem_scan.mpr ⟨marker, found, hsource, rfl⟩, hconfirmed, hsource.fields.1⟩

omit [MathSqrt] in
theorem credentialMatches_empty : credentialMatches "" = [] := rfl

/-- An empty response confirms nothing. -/
theorem scan_empty (hascii : Unicode.OnAscii) (hempty : observation.rawResponse = "") :
    ∀ f ∈ probe.scan providers step observation substrate atlas, f.status ≠ .confirmed := by
  intro f hf hconfirmed
  obtain ⟨marker, found, hsource, rfl⟩ := mem_scan.mp hf
  have hcarries := hsource.carries _ hconfirmed
  rw [hempty] at hcarries
  have hresidual := residualPresent_empty hascii marker.plaintext
  unfold DetectionPipeline.Carries at hcarries
  rw [hresidual, credentialMatches_empty, tokenize_empty hascii] at hcarries
  split at hcarries
  · cases hcarries
  · rcases hcarries with h | ⟨token, htoken, -⟩
    · cases h
    · cases htoken
  · rcases hcarries with h | hwithin | ⟨token, -, htoken, -⟩
    · cases h
    · have hne := (orderedWithinSpan_iff.mpr hwithin)
      unfold orderedWithinSpan at hne
      split at hne <;> simp at hne
    · cases htoken

omit [Unicode] [MathSqrt] in
/-- The flag of an unproven refusal confirms nothing. -/
theorem emptyAmbiguityFinding_unverified {marker : Option Marker} {evidence remediation : String}
    {atlas : Option (List String)} {f : Finding}
    (h : probe.emptyAmbiguityFinding step observation substrate marker evidence remediation atlas =
      some f) : f.status = .unverified := by
  unfold DetectingProbe.emptyAmbiguityFinding at h
  split at h
  · split at h
    · cases h
    · rw [← Option.some.inj h]
  · cases h

omit [Unicode] [MathSqrt] in
theorem confirms_flagged {findings : List Finding} {marker : Marker} {ambiguous : Bool}
    {ambiguity : Option Finding} (h : Confirms findings marker) :
    Confirms (DetectingProbe.flagged findings ambiguous ambiguity) marker := by
  unfold DetectingProbe.flagged
  rw [if_neg]
  · exact h
  · rintro ⟨rfl, -⟩
    obtain ⟨f, hf, -⟩ := h
    cases hf

omit [Unicode] [MathSqrt] in
theorem flagged_unconfirmed {findings : List Finding} {ambiguous : Bool} {ambiguity : Option Finding}
    (h : ∀ f ∈ findings, f.status ≠ .confirmed)
    (hambiguity : ∀ f, ambiguity = some f → f.status = .unverified) :
    ∀ f ∈ DetectingProbe.flagged findings ambiguous ambiguity, f.status ≠ .confirmed := by
  intro f hf
  unfold DetectingProbe.flagged at hf
  split at hf
  · rw [hambiguity f (Option.mem_toList.mp hf)]
    decide
  · exact h f hf

end Scan

section Verdict

/-- What the findings of a run say, where `lets` tells whom the stack lets reach which marker: a leak is
confirmed for everyone who is let, and is confirmed of no one else. -/
structure ExactVerdict (substrate : Substrate) (targets : List Marker)
    (lets : Principal → Marker → Prop) (results : List StepResult) : Prop where
  caught : ∀ marker ∈ targets, ∀ observer ∈ substrate.observersOf marker, lets observer marker →
    ∃ result ∈ results, result.1.principal = observer ∧ Confirms result.2 marker
  grounded : ∀ result ∈ results, (∃ f ∈ result.2, f.status = .confirmed) →
    ∃ marker ∈ targets, result.1.principal ∈ substrate.observersOf marker ∧
      lets result.1.principal marker

end Verdict

section Fetch

variable {substrate : Substrate}

namespace FakeVectorStore

/-- The store lets a principal read a document of a tenant and a user. -/
def Lets (store : FakeVectorStore) (p : Principal) (tenant : UUID) (user : Option UUID) : Prop :=
  (store.sharedIndex = true ∨ tenant = p.tenantId) ∧
    (p.userId.isSome = true ∧ store.userScoped = true → user.isNone = true ∨ user = p.userId)

theorem mem_scope (h : substrate.Seeded) {store : FakeVectorStore} {p : Principal}
    (hp : p ∈ substrate.principals) {owner : UUID} {document : CorpusDocument} :
    (owner, document) ∈ store.scope p (substrate.loadCorpus ∅) ↔
      document ∈ substrate.documents ∧ owner = document.tenantId ∧
        store.Lets p document.tenantId document.ownerUserId := by
  have hpooled : (owner, document) ∈ pooled (substrate.loadCorpus ∅) ↔
      document ∈ substrate.documents ∧ owner = document.tenantId := by
    unfold pooled
    rw [h.items_loadCorpus, List.mem_flatMap]
    constructor
    · rintro ⟨entry, hentry, hmem⟩
      obtain ⟨tenant, -, rfl⟩ := List.mem_map.mp hentry
      obtain ⟨other, hother, heq⟩ := List.mem_map.mp hmem
      obtain ⟨rfl, rfl⟩ := Prod.mk.inj heq
      obtain ⟨hdocument, howner⟩ := List.mem_filter.mp hother
      exact ⟨hdocument, (of_decide_eq_true howner).symm⟩
    · rintro ⟨hdocument, rfl⟩
      obtain ⟨tenant, htenant, heq⟩ := List.mem_map.mp (h.owned document hdocument)
      refine ⟨_, List.mem_map_of_mem htenant, ?_⟩
      refine List.mem_map.mpr ⟨document, ?_, ?_⟩
      · exact List.mem_filter.mpr ⟨hdocument, decide_eq_true heq.symm⟩
      · rw [heq]
  have hheld : (substrate.loadCorpus ∅).getD p.tenantId [] = substrate.documentsOf p.tenantId := by
    obtain ⟨tenant, htenant, hmem⟩ := List.mem_flatMap.mp hp
    have heq : p.tenantId = tenant.tenantId := by
      rcases List.mem_cons.mp hmem with rfl | hmem
      · rfl
      · obtain ⟨user, -, rfl⟩ := List.mem_map.mp hmem
        rfl
    have hlookup : (substrate.loadCorpus ∅).lookup tenant.tenantId =
        some (substrate.documentsOf tenant.tenantId) := by
      rw [← Dict.mem_items, h.items_loadCorpus]
      exact List.mem_map_of_mem htenant
    rw [Dict.getD, heq, hlookup]
    rfl
  have hcandidates : (owner, document) ∈ (if store.sharedIndex then pooled (substrate.loadCorpus ∅)
        else ((substrate.loadCorpus ∅).getD p.tenantId []).map fun document =>
          (p.tenantId, document)) ↔
      document ∈ substrate.documents ∧ owner = document.tenantId ∧
        (store.sharedIndex = true ∨ document.tenantId = p.tenantId) := by
    cases hshared : store.sharedIndex with
    | true => simp [hpooled]
    | false =>
      simp only [Bool.false_eq_true, if_false, false_or, hheld, List.mem_map, Prod.mk.injEq,
        Substrate.documentsOf, List.mem_filter, decide_eq_true_eq]
      constructor
      · rintro ⟨other, ⟨hdocument, howner⟩, rfl, rfl⟩
        exact ⟨hdocument, howner.symm, howner⟩
      · rintro ⟨hdocument, rfl, howner⟩
        exact ⟨document, ⟨hdocument, howner⟩, howner.symm, rfl⟩
  unfold scope Lets
  simp only
  split
  · rename_i hscoped
    rw [List.mem_filter, hcandidates, decide_eq_true_eq]
    constructor
    · rintro ⟨⟨hdocument, howner, hlets⟩, huser⟩
      exact ⟨hdocument, howner, hlets, fun _ => huser⟩
    · rintro ⟨hdocument, howner, hlets, huser⟩
      exact ⟨⟨hdocument, howner, hlets⟩, huser hscoped⟩
  · rename_i hunscoped
    rw [hcandidates]
    exact and_congr_right fun _ => and_congr_right fun _ =>
      (and_iff_left fun hscoped => absurd hscoped hunscoped).symm

/-- A fetch from the loaded store returns the document exactly where the store lets it. -/
theorem fetch_loadCorpus (h : substrate.Seeded) {store : FakeVectorStore} {p : Principal}
    (hp : p ∈ substrate.principals) {document : CorpusDocument}
    (hdocument : document ∈ substrate.documents) :
    (store.Lets p document.tenantId document.ownerUserId →
      (store.fetch p (substrate.loadCorpus ∅) document.docId).map VectorHit.content =
        some document.content) ∧
    (¬store.Lets p document.tenantId document.ownerUserId →
      store.fetch p (substrate.loadCorpus ∅) document.docId = none) := by
  have hsame : ∀ candidate ∈ store.scope p (substrate.loadCorpus ∅),
      candidate.2.docId = document.docId → candidate.2 = document := by
    rintro ⟨owner, other⟩ hcandidate hid
    obtain ⟨hother, -, -⟩ := (mem_scope h hp).mp hcandidate
    exact List.inj_on_of_nodup_map h.docIds hother hdocument hid
  unfold fetch
  constructor
  · intro hlets
    have hmem : (document.tenantId, document) ∈ store.scope p (substrate.loadCorpus ∅) :=
      (mem_scope h hp).mpr ⟨hdocument, rfl, hlets⟩
    cases hfound : (store.scope p (substrate.loadCorpus ∅)).find? fun candidate =>
        candidate.2.docId = document.docId with
    | none =>
      have hno := List.find?_eq_none.mp hfound _ hmem
      simp at hno
    | some candidate =>
      have hid := List.find?_some hfound
      rw [← hsame candidate (List.mem_of_find?_eq_some hfound) (of_decide_eq_true hid)]
      rfl
  · intro hlets
    rw [Option.map_eq_none_iff, List.find?_eq_none]
    rintro ⟨owner, other⟩ hcandidate hid
    have heq := hsame _ hcandidate (of_decide_eq_true hid)
    obtain ⟨-, -, hother⟩ := (mem_scope h hp).mp hcandidate
    rw [show other = document from heq] at hother
    exact hlets hother

end FakeVectorStore

end Fetch

section Boundary

variable [Unicode] [Lower] [Hashlib] [UuidText]

namespace TenantBoundaryProbe

/-- The document that a step asks for. -/
def docIdOf (step : ProbeStep) : String := step.payload.getD "doc_id" ""

/-- How the vector store of the stack answers a fetch. -/
def responder (stack : FakeStack) : Responder FakeStack.World where
  seen step world :=
    let hit := stack.vector.fetch step.principal (world .vector) (docIdOf step)
    { stepId := step.stepId
      surface := .vectorDb
      rawResponse := (hit.map VectorHit.content).getD ""
      accessOutcome := some (if hit.isSome then .returned else .empty) }
  next _ world := world

omit [Unicode] [Lower] [Hashlib] [UuidText] in
/-- The fetch of a location by a principal. -/
theorem mem_plan [Unicode] [MathSqrt] {providers : DetectionProviders} {substrate : Substrate}
    {step : ProbeStep} (h : step ∈ (probe providers).plan substrate) :
    ∃ marker ∈ substrate.markersOf .hardCanary, ∃ location ∈ marker.plantedLocations,
      step.principal ∈ substrate.observersOf marker ∧ step.action = "vector.fetch" ∧
        step.payload = Dict.ofItems [("doc_id", location.docId)] := by
  have hplanned := DetectingProbe.planned_of_mem_numbered h
  obtain ⟨marker, hmarker, hplanned⟩ := List.mem_flatMap.mp hplanned
  obtain ⟨location, hlocation, hplanned⟩ := List.mem_flatMap.mp hplanned
  obtain ⟨observer, hobserver, heq⟩ := List.mem_map.mp hplanned
  obtain ⟨rfl, hrequest⟩ := PlannedStep.mk.inj heq
  obtain ⟨haction, hpayload⟩ := Request.mk.inj hrequest
  exact ⟨marker, hmarker, location, hlocation, hobserver, haction.symm, hpayload.symm⟩

theorem answers [Decimals] (stack : FakeStack) (substrate : Substrate) {step : ProbeStep}
    (haction : step.action = "vector.fetch") {docId : String}
    (hpayload : step.payload = Dict.ofItems [("doc_id", docId)]) :
    Answers (stack.runner substrate) (responder stack) step where
  sent := by
    have hreads : Runner.reads step.action = some (.vector, ["doc_id"]) := by rw [haction]; rfl
    exact Runner.droppable_of_carries hreads rfl rfl
  executed world := by
    have hlookup : step.payload.lookup "doc_id" = some docId := by
      rw [hpayload]
      rfl
    have hdocId : docIdOf step = docId := by
      rw [docIdOf, Dict.getD, hlookup]
      rfl
    unfold Runner.execute
    rw [haction]
    change ((Runner.required step "doc_id").bind fun docId => _) world = _
    rw [Runner.required_eq hlookup]
    unfold responder
    simp only [hdocId]
    rfl
  landed hplant := by
    unfold ProbeStep.isPlant at hplant
    rw [haction] at hplant
    exact absurd hplant (by decide)

omit [Unicode] [Lower] [Hashlib] [UuidText] in
theorem after_responder (stack : FakeStack) (steps : List ProbeStep)
    (world : FakeStack.World) : (responder stack).after steps world = world := by
  induction steps with
  | nil => rfl
  | cons step steps ih => exact ih

variable [MathSqrt]

omit [Lower] [Hashlib] [UuidText] in
/-- One fetch: it confirms the canary where the store lets the principal read it, and nothing
elsewhere. -/
theorem detect_seen (hascii : Unicode.OnAscii) (providers : DetectionProviders) (stack : FakeStack)
    {substrate : Substrate} (h : substrate.Seeded) {world : FakeStack.World}
    (hloaded : world .vector = substrate.loadCorpus ∅) {step : ProbeStep} {marker : Marker}
    (hmarker : marker ∈ substrate.markersOf .hardCanary) {location : PlantedLocation}
    (hlocation : location ∈ marker.plantedLocations)
    (hobserver : step.principal ∈ substrate.observersOf marker)
    (hpayload : step.payload = Dict.ofItems [("doc_id", location.docId)]) :
    let findings := detect providers step ((responder stack).seen step world) substrate
    let lets := stack.vector.Lets step.principal marker.ownerTenantId marker.ownerUserId
    (lets → Confirms findings marker) ∧ (¬lets → ∀ f ∈ findings, f.status ≠ .confirmed) := by
  obtain ⟨hmem, htype⟩ := List.mem_filter.mp hmarker
  obtain ⟨hprincipal, hcross⟩ := Substrate.mem_observersOf.mp hobserver
  obtain ⟨document, hdocument, hid, htenant, huser, before, hcontent⟩ :=
    h.housed marker hmem location hlocation
  have hdocId : docIdOf step = document.docId := by
    rw [docIdOf, hpayload, hid]
    rfl
  have hfetch := @FakeVectorStore.fetch_loadCorpus _ h stack.vector _ hprincipal _ hdocument
  rw [htenant, huser] at hfetch
  obtain ⟨hfound, hnone⟩ := hfetch
  have hraw : ((responder stack).seen step world).rawResponse =
      ((stack.vector.fetch step.principal (substrate.loadCorpus ∅) document.docId).map
        VectorHit.content).getD "" := by
    rw [← hdocId, ← hloaded]
    rfl
  intro findings lets
  refine ⟨fun hlets => confirms_flagged (confirms_scan hmem hcross ?_), fun hlets =>
    flagged_unconfirmed (scan_empty hascii ?_) fun f hf => emptyAmbiguityFinding_unverified hf⟩
  · rw [hraw, hfound hlets, Option.getD_some, hcontent]
    exact residualPresent_within hascii before (h.canaries marker hmem (of_decide_eq_true htype))
      marker.plaintext_ne (isAsciiText_of_all (by decide)).beginsAscii
  · rw [hraw, hnone hlets]
    rfl

/-- Against a loaded store, Class 1 confirms a canary for exactly the foreign principals that the store
lets read its document. -/
theorem exact_on_fakes [Decimals] (hascii : Unicode.OnAscii) (providers : DetectionProviders)
    (stack : FakeStack) {substrate : Substrate} (h : substrate.Seeded)
    (s : RunnerState FakeStack.World) (hloaded : s.world .vector = substrate.loadCorpus ∅) :
    ∃ results s', (stack.runner substrate).runPerStep (probe providers) s = (.ok results, s') ∧
      ExactVerdict substrate (targets substrate)
        (fun observer marker => stack.vector.Lets observer marker.ownerTenantId marker.ownerUserId)
        results := by
  have hpreflight : (stack.runner substrate).preflight (probe providers) = .ok () := rfl
  have hanswers : ∀ step ∈ (probe providers).plan (stack.runner substrate).substrate,
      Answers (stack.runner substrate) (responder stack) step := by
    intro step hstep
    obtain ⟨marker, -, location, -, -, haction, hpayload⟩ := mem_plan hstep
    exact answers stack substrate haction hpayload
  obtain ⟨s', hrun⟩ := Runner.runPerStep_answers hpreflight hanswers s
  refine ⟨_, s', hrun, fun marker hmarker observer hobserver hlets => ?_, fun result hresult => ?_⟩
  · obtain ⟨hmarker, hplanted⟩ := List.mem_filter.mp hmarker
    obtain ⟨location, hlocation⟩ := List.exists_mem_of_ne_nil _ (of_decide_eq_true hplanted)
    have hfetch : ⟨observer, "vector.fetch", Dict.ofItems [("doc_id", location.docId)]⟩ ∈
        planned substrate :=
      List.mem_flatMap.mpr ⟨marker, hmarker, List.mem_flatMap.mpr ⟨location, hlocation,
        List.mem_map.mpr ⟨observer, hobserver, rfl⟩⟩⟩
    obtain ⟨step, hstep, hplanned⟩ := declared.exists_mem_numbered hfetch
    obtain ⟨rfl, hrequest⟩ := PlannedStep.mk.inj hplanned
    obtain ⟨-, hpayload⟩ := Request.mk.inj hrequest
    obtain ⟨before, later, hplan⟩ := List.append_of_mem hstep
    refine ⟨_, (responder stack).mem_results.mpr ⟨before, step, later, hplan, rfl⟩, rfl, ?_⟩
    rw [after_responder]
    exact (detect_seen hascii providers stack h hloaded hmarker hlocation hobserver hpayload).1 hlets
  · obtain ⟨before, step, later, hplan, rfl⟩ := (responder stack).mem_results.mp hresult
    have hstep : step ∈ (probe providers).plan substrate := by
      rw [show (probe providers).plan substrate = before ++ step :: later from hplan]
      exact List.mem_append_right _ List.mem_cons_self
    obtain ⟨marker, hmarker, location, hlocation, hobserver, -, hpayload⟩ := mem_plan hstep
    rw [after_responder]
    rintro ⟨f, hf, hconfirmed⟩
    refine ⟨marker, List.mem_filter.mpr
      ⟨hmarker, decide_eq_true (List.ne_nil_of_mem hlocation)⟩, hobserver, ?_⟩
    by_contra hlets
    exact (detect_seen hascii providers stack h hloaded hmarker hlocation hobserver hpayload).2 hlets
      f hf hconfirmed

/-- The substrate of a scenario, loaded into the stack: Class 1 confirms a canary for exactly the foreign
principals that the store lets read its document. -/
theorem boundary_exact [Decimals] [JsonLimits] [FloatText] {ρ : Type} [RandomSource ρ]
    {scenario : Scenario} {substrate : Substrate}
    (hbuilt : buildSubstrate ρ scenario = .ok substrate)
    (hshort : (scenario.tenants.map fun tenantSpec => shortId tenantSpec.tenantId).Nodup)
    (hascii : Unicode.OnAscii) (providers : DetectionProviders) (stack : FakeStack)
    (s : RunnerState FakeStack.World) (hloaded : s.world .vector = substrate.loadCorpus ∅) :
    ∃ results s', (stack.runner substrate).runPerStep (probe providers) s = (.ok results, s') ∧
      ExactVerdict substrate (targets substrate)
        (fun observer marker => stack.vector.Lets observer marker.ownerTenantId marker.ownerUserId)
        results :=
  exact_on_fakes hascii providers stack (seeded_buildSubstrate hbuilt hshort) s hloaded

end TenantBoundaryProbe

end Boundary

section Sample

attribute [local instance] Unicode.ascii Lower.ascii Hashlib.real UuidText.digits Decimals.ascii
  JsonLimits.default FloatText.halves MathSqrt.exact RandomSource.zeros

theorem sampleScenario_shortIds :
    ((sampleScenario 1 0x80000000000000000000000000000000).tenants.map fun tenantSpec =>
      shortId tenantSpec.tenantId).Nodup := by
  decide +kernel

/-- Two tenants in one index. -/
theorem TenantBoundaryProbe.boundary_exact_sharedIndex : ∃ substrate results s',
    let stack : FakeStack := { vector := { sharedIndex := true } }
    buildSubstrate Unit (sampleScenario 1 0x80000000000000000000000000000000) = .ok substrate ∧
      (stack.runner substrate).runPerStep (probe denying)
          { world := Function.update (FakeStack.empty stack) .vector (substrate.loadCorpus ∅) } =
        (.ok results, s') ∧
      ExactVerdict substrate (targets substrate) (fun observer marker =>
        stack.vector.Lets observer marker.ownerTenantId marker.ownerUserId) results := by
  obtain ⟨substrate, hbuilt⟩ := sampleScenario_builds 1 0x80000000000000000000000000000000
  obtain ⟨results, s', hrun, hexact⟩ := TenantBoundaryProbe.boundary_exact hbuilt
    sampleScenario_shortIds Unicode.ascii_onAscii denying { vector := { sharedIndex := true } }
    { world := Function.update (FakeStack.empty _) .vector (substrate.loadCorpus ∅) } rfl
  exact ⟨substrate, results, s', hbuilt, hrun, hexact⟩

end Sample

end Sectum
