import Sectum.Adapters.FakesIsolation
import Sectum.Core.ProbeRecordSound
import Sectum.Core.ProbeRuns
import Sectum.Core.ScoreRules
import Sectum.Probes.CatalogFindings

/-! A class is graded only where the stack was asked something: on a record of the command, each probe
that a graded line names has a judged step of its plan among the results, sent as a principal to whom a
target is foreign, and the stack that the command had loaded can hold its canaries. -/

namespace Sectum

open Py

section Lines

variable [Unicode] [MathSqrt] [MathErfc] {run : RunResult}

/-- A graded line names the probes that ran. -/
theorem CatalogClass.scoreClass_probeIds {entry : CatalogClass} {synthetic exercised : Finset Surface}
    {c : ClassScore} (h : entry.scoreClass run synthetic exercised = .ok c)
    (hgraded : c.verdict ≠ .notCovered) : entry.ran run ≠ [] ∧ c.probeIds = entry.ran run := by
  unfold scoreClass at h
  simp only at h
  split at h
  · obtain rfl := Except.ok.inj h
    exact absurd rfl hgraded
  split at h
  · obtain rfl := Except.ok.inj h
    exact absurd rfl hgraded
  split at h
  · obtain rfl := Except.ok.inj h
    exact absurd rfl hgraded
  rename_i hran
  refine ⟨hran, ?_⟩
  split at h
  · obtain rfl := Except.ok.inj h
    exact absurd rfl hgraded
  · obtain ⟨headline, -, hc⟩ := bind_eq_ok.mp h
    obtain rfl := Except.ok.inj hc
    rfl

variable [RunDigest]

theorem scoreRun_classes {card : IsolationScore} (h : scoreRun run = .ok card) :
    ∀ c ∈ card.classes, ∃ entry ∈ catalog, ∃ synthetic,
      entry.scoreClass run synthetic run.exercisedSurfaces = .ok c := by
  unfold scoreRun at h
  simp only at h
  split at h
  · cases h
  obtain ⟨digest, -, h⟩ := bind_eq_ok.mp h
  obtain ⟨classes, hclasses, h⟩ := bind_eq_ok.mp h
  split at h
  · cases h
  split at h
  · cases h
  obtain ⟨weightedScore, -, h⟩ := bind_eq_ok.mp h
  obtain ⟨coverage, -, h⟩ := bind_eq_ok.mp h
  obtain rfl := Except.ok.inj h
  intro c hc
  have hscored := mapM_eq_ok.mp hclasses
  obtain ⟨k, hk, rfl⟩ := List.getElem_of_mem hc
  have hk' : k < catalog.length := hscored.length_eq ▸ hk
  exact ⟨catalog[k], List.getElem_mem hk', _, hscored.get hk' hk⟩

end Lines

section Exercised

variable [MathSqrt] [MathErfc] {context : RecordContext} {bundle : AdapterBundle}
  {stepResults : List StepResult} {kvReport : Option KvCacheTimingReport} {run : RunResult}

omit [MathSqrt] [MathErfc] in
theorem mem_probeVersions {version probeId : String}
    (h : probeId ∈ probeVersions version stepResults kvReport) :
    (∃ result ∈ stepResults, result.1.probeId = probeId) ∨
      probeId = kvCacheTimingId ∧ ∃ report ∈ kvReport, report.resolved ≠ [] := by
  have hsteps : ∀ {probes : Dict String String}, probes = Dict.ofItems
      ((sortedSet (stepResults.map fun result => result.1.probeId)).map fun probeId =>
        (probeId, version)) → probeId ∈ probes →
      ∃ result ∈ stepResults, result.1.probeId = probeId := by
    rintro probes rfl hmem
    obtain ⟨value, hmem⟩ := Dict.mem_ofItems hmem
    obtain ⟨listed, hlisted, heq⟩ := List.mem_map.mp hmem
    obtain ⟨rfl, -⟩ := Prod.mk.inj heq
    exact List.mem_map.mp (mem_sortedSet.mp hlisted)
  unfold probeVersions at h
  cases kvReport with
  | none => exact .inl (hsteps rfl h)
  | some report =>
    simp only at h
    split at h
    · rename_i hresolved
      rcases Dict.mem_set.mp h with rfl | hmem
      · exact .inr ⟨rfl, report, rfl, hresolved⟩
      · exact .inl (hsteps rfl hmem)
    · exact .inl (hsteps rfl h)

theorem probeRecord_probeVersions (h : probeRecord context bundle stepResults kvReport = .ok run) :
    run.probeVersions = probeVersions context.version stepResults kvReport := by
  unfold probeRecord at h
  dsimp only at h
  obtain ⟨exercised, -, h⟩ := bind_eq_ok.mp h
  obtain ⟨rprCi, -, h⟩ := bind_eq_ok.mp h
  rw [← Except.ok.inj h]

/-- A record shows a probe to have run where a step of it is among the results, or a finding, or where
the timing probe resolved something. -/
theorem probeRecord_exercises (h : probeRecord context bundle stepResults kvReport = .ok run)
    {probeId : String} (hexercised : run.exercises probeId) :
    (∃ result ∈ stepResults, result.1.probeId = probeId ∨ ∃ f ∈ result.2, f.probeId = probeId) ∨
      ∃ report ∈ kvReport, probeId = kvCacheTimingId ∧ report.resolved ≠ [] ∨
        ∃ f ∈ report.findings, f.probeId = probeId := by
  rcases hexercised with hversion | ⟨f, hf, rfl⟩
  · rw [probeRecord_probeVersions h] at hversion
    rcases mem_probeVersions hversion with ⟨result, hresult, hid⟩ | ⟨rfl, report, hreport, hresolved⟩
    · exact .inl ⟨result, hresult, .inl hid⟩
    · exact .inr ⟨report, hreport, .inl ⟨rfl, hresolved⟩⟩
  · obtain ⟨exercised, -, hrecords⟩ := probeRecord_records h
    rw [hrecords.findings] at hf
    obtain ⟨g, hg, -, -, hprobe, -⟩ := dedupeFindings_origin hf
    rcases mem_rawFindings.mp hg with ⟨result, hresult, hmem⟩ | ⟨report, hreport, hmem⟩
    · exact .inl ⟨result, hresult, .inr ⟨g, hmem, hprobe⟩⟩
    · exact .inr ⟨report, hreport, .inr ⟨g, hmem, hprobe⟩⟩

end Exercised

section Reached

namespace ProbeStack

variable {σ τ : Type} (stack : ProbeStack σ τ) (substrate : Substrate)

variable [Unicode]

/-- The worlds that the checks of the command pass, from the one in which the stack was loaded. -/
inductive Checks (loaded : σ) : σ → Prop
  | start : Checks loaded loaded
  | ask {canary : Marker} {world : σ} (h : Checks loaded world)
      (hmem : canary ∈ substrate.markersOf .hardCanary) :
      Checks loaded (stack.rag.ask canary.ownerTenantId canary.plaintext world).2
  | fetch {document : CorpusDocument} {world : σ} (h : Checks loaded world)
      (hmem : document ∈ substrate.documents) :
      Checks loaded (stack.vector.fetch ⟨document.tenantId, none⟩ document.docId world).2

/-- The backend in a slot can hold what the probes look for: it is a fake, or the runner plants into it
and reads back, or a document or a canary that the command put there came back from it when it was
checked. -/
def Reached (loaded : σ) (slot : Slot) : Prop :=
  stack.live slot = true →
    match slot with
    | .vector => substrate.documents = [] ∨ ∃ document ∈ substrate.documents, ∃ world hit,
        stack.Checks substrate loaded world ∧
          (stack.vector.fetch ⟨document.tenantId, none⟩ document.docId world).1 = .ok (some hit)
    | .rag => substrate.markersOf .hardCanary = [] ∨ ∃ canary ∈ substrate.markersOf .hardCanary,
        ∃ answer, (stack.rag.ask canary.ownerTenantId canary.plaintext loaded).1 = .ok answer ∧
          shows canary answer = true
    | .mcp | .agent => substrate.markersOf .hardCanary = []
    | .cache | .model | .memory | .observability => True

variable {stack substrate} {loaded : σ}

omit [Unicode] in
theorem serves_eq_true {entries : List (UUID × String)} {world after : σ}
    (hfrom : ∀ entry ∈ entries,
      ∃ document ∈ substrate.documents, document.tenantId = entry.1 ∧ document.docId = entry.2)
    (hchecks : stack.Checks substrate loaded world)
    (h : stack.serves entries world = (.ok true, after)) :
    ∃ document ∈ substrate.documents, ∃ world hit, stack.Checks substrate loaded world ∧
      (stack.vector.fetch ⟨document.tenantId, none⟩ document.docId world).1 = .ok (some hit) := by
  induction entries generalizing world with
  | nil => cases h
  | cons entry entries ih =>
    obtain ⟨⟨document, hdocument, htenant, hid⟩, hrest⟩ := List.forall_mem_cons.mp hfrom
    obtain ⟨tenantId, docId⟩ := entry
    obtain rfl : document.tenantId = tenantId := htenant
    obtain rfl : document.docId = docId := hid
    have hlater := ih hrest (.fetch hchecks hdocument)
    unfold serves at h
    split at h
    · rename_i hit between hfetch
      exact ⟨document, hdocument, world, hit, hchecks, by rw [hfetch]⟩
    · rename_i between hfetch
      rw [hfetch] at hlater
      exact hlater h
    · rename_i e between hfetch
      rw [hfetch] at hlater
      split at h
      · exact hlater h
      · cases h

omit [Unicode] in
theorem firstDocuments_spec (documents : List CorpusDocument) :
    (∀ entry ∈ (firstDocuments documents).items,
      ∃ document ∈ documents, document.tenantId = entry.1 ∧ document.docId = entry.2) ∧
      ∀ document ∈ documents, document.tenantId ∈ firstDocuments documents := by
  induction documents using List.reverseRecOn with
  | nil => exact ⟨nofun, nofun⟩
  | append_singleton documents last ih =>
    obtain ⟨hfrom, hall⟩ := ih
    have hstep : firstDocuments (documents ++ [last]) =
        if last.tenantId ∈ firstDocuments documents then firstDocuments documents
        else (firstDocuments documents).set last.tenantId last.docId := by
      unfold firstDocuments
      rw [List.foldl_append]
      rfl
    rw [hstep]
    split
    · rename_i hheld
      refine ⟨fun entry hentry => ?_, List.forall_mem_append.mpr
        ⟨hall, List.forall_mem_singleton.mpr hheld⟩⟩
      obtain ⟨document, hdocument, hsame⟩ := hfrom entry hentry
      exact ⟨document, List.mem_append_left _ hdocument, hsame⟩
    · refine ⟨fun entry hentry => ?_, List.forall_mem_append.mpr ⟨fun document hdocument => ?_,
        List.forall_mem_singleton.mpr (Dict.mem_set.mpr (.inl rfl))⟩⟩
      · have hlookup := Dict.mem_items.mp hentry
        rw [Dict.lookup_set] at hlookup
        split at hlookup
        · rename_i hsame
          exact ⟨last, List.mem_append_right _ List.mem_cons_self, hsame.symm,
            Option.some.inj hlookup⟩
        · obtain ⟨document, hdocument, hsame⟩ := hfrom entry (Dict.mem_items.mpr hlookup)
          exact ⟨document, List.mem_append_left _ hdocument, hsame⟩
      · exact Dict.mem_set.mpr (.inr (hall document hdocument))

theorem corpusUnserved_reached {world after : σ} {slots : List Slot}
    (hchecks : stack.Checks substrate loaded world)
    (h : stack.corpusUnserved substrate true world = (.ok slots, after)) (hslot : .vector ∉ slots) :
    stack.Reached substrate loaded .vector := by
  intro hlive
  obtain ⟨hfrom, hall⟩ := firstDocuments_spec substrate.documents
  unfold corpusUnserved at h
  simp only [hlive, true_and] at h
  split at h
  · obtain ⟨landed, hserves, rfl⟩ := Call.map_eq_ok.mp h
    cases landed with
    | false => exact absurd List.mem_cons_self hslot
    | true =>
      refine .inr (serves_eq_true (fun entry hentry => ?_) hchecks hserves)
      rw [List.mem_insertionSort] at hentry
      exact hfrom entry hentry
  · rename_i hempty
    left
    by_contra hne
    obtain ⟨document, hdocument⟩ := List.exists_mem_of_ne_nil _ hne
    obtain ⟨docId, hlookup⟩ := Dict.mem_iff_lookup.mp (hall document hdocument)
    refine hempty (List.ne_nil_of_mem (a := (document.tenantId, docId)) ?_)
    rw [List.mem_insertionSort]
    exact Dict.mem_items.mpr hlookup

/-- The pipeline is asked for the canary, and where it answers with it the check is passed. -/
theorem ragReached_spec {canary : Marker} {reached : Bool} {after : σ}
    (h : stack.ragReached canary loaded = (.ok reached, after)) :
    after = (stack.rag.ask canary.ownerTenantId canary.plaintext loaded).2 ∧
      (reached = true →
        ∃ answer, (stack.rag.ask canary.ownerTenantId canary.plaintext loaded).1 = .ok answer ∧
          shows canary answer = true) := by
  unfold ragReached at h
  split at h
  · rename_i answer between hask
    obtain ⟨hshows, rfl⟩ := Prod.mk.inj h
    rw [hask]
    exact ⟨rfl, fun hreached => ⟨answer, rfl, (Except.ok.inj hshows).trans hreached⟩⟩
  · rename_i e between hask
    split at h
    · obtain ⟨hmissed, rfl⟩ := Prod.mk.inj h
      rw [hask]
      refine ⟨rfl, fun hreached => ?_⟩
      rw [← Except.ok.inj hmissed] at hreached
      cases hreached
    · cases h

/-- The first check asks the pipeline once at most. -/
theorem canaryUnreached_checks {after : σ} {slots : List Slot}
    (h : stack.canaryUnreached substrate loaded = (.ok slots, after)) :
    stack.Checks substrate loaded after := by
  unfold canaryUnreached at h
  cases hhead : (substrate.markersOf .hardCanary).head? with
  | none =>
    rw [hhead] at h
    obtain ⟨-, rfl⟩ := Prod.mk.inj h
    exact .start
  | some canary =>
    rw [hhead] at h
    simp only at h
    split at h
    · obtain ⟨reached, hreached, -⟩ := Call.map_eq_ok.mp h
      obtain ⟨rfl, -⟩ := ragReached_spec hreached
      exact .ask .start (List.mem_of_mem_head? hhead)
    · obtain ⟨-, rfl⟩ := Prod.mk.inj h
      exact .start

theorem canaryUnreached_reached {after : σ} {slots : List Slot}
    (h : stack.canaryUnreached substrate loaded = (.ok slots, after)) :
    ∀ slot ∈ [Slot.mcp, .agent, .rag], slot ∉ slots → stack.Reached substrate loaded slot := by
  unfold canaryUnreached at h
  cases hhead : (substrate.markersOf .hardCanary).head? with
  | none =>
    have hempty : substrate.markersOf .hardCanary = [] := List.head?_eq_none_iff.mp hhead
    intro slot hslot _ _
    simp only [List.mem_cons, List.not_mem_nil, or_false] at hslot
    rcases hslot with rfl | rfl | rfl
    · exact hempty
    · exact hempty
    · exact .inl hempty
  | some canary =>
    rw [hhead] at h
    have hmem : canary ∈ substrate.markersOf .hardCanary := List.mem_of_mem_head? hhead
    have hunseeded : ∀ slot ∈ [Slot.mcp, .agent], stack.live slot = true →
        slot ∈ [Slot.mcp, .agent].filter fun slot => stack.live slot := fun slot hslot hlive =>
      List.mem_filter.mpr ⟨hslot, hlive⟩
    have hsub : ∀ slot ∈ [Slot.mcp, .agent].filter fun slot => stack.live slot, slot ∈ slots := by
      intro slot hslot
      simp only at h
      split at h
      · obtain ⟨reached, -, rfl⟩ := Call.map_eq_ok.mp h
        cases reached with
        | true => exact hslot
        | false => exact List.mem_cons_of_mem _ hslot
      · obtain rfl := Except.ok.inj (Prod.mk.inj h).1
        exact hslot
    intro slot hslot hout hlive
    simp only [List.mem_cons, List.not_mem_nil, or_false] at hslot
    rcases hslot with rfl | rfl | rfl
    · exact absurd (hsub _ (hunseeded _ (by decide) hlive)) hout
    · exact absurd (hsub _ (hunseeded _ (by decide) hlive)) hout
    · simp only [hlive, if_true] at h
      obtain ⟨reached, hreached, rfl⟩ := Call.map_eq_ok.mp h
      cases reached with
      | false => exact absurd List.mem_cons_self hout
      | true =>
        obtain ⟨answer, hask, hshows⟩ := (ragReached_spec hreached).2 rfl
        exact .inr ⟨canary, hmem, answer, hask, hshows⟩

omit [Unicode] in
theorem stopping_eq_ok {α : Type} {call : Call σ Raised α} {world after : σ} {a : α}
    (h : stopping call world = (.ok a, after)) : call world = (.ok a, after) := by
  obtain ⟨hresult, hafter⟩ := Prod.mk.inj h
  exact Prod.ext (mapError_eq_ok.mp hresult) hafter

omit [Unicode] in
theorem selectSuite_sub {options : ProbeOptions} {suite selected : List SuiteMember}
    {runKvTiming : Bool} (h : selectSuite options suite = .ok (selected, runKvTiming)) :
    selected ⊆ suite := by
  unfold selectSuite at h
  split at h
  · cases h
  obtain ⟨⟨named, timed⟩, hnamed, honly⟩ := bind_eq_ok.mp h
  have hfirst : named ⊆ suite := by
    unfold namedSuite at hnamed
    split at hnamed
    · obtain ⟨rfl, -⟩ := Prod.mk.inj (Except.ok.inj hnamed)
      exact List.Subset.refl _
    · split at hnamed
      · cases hnamed
      · obtain ⟨rfl, -⟩ := Prod.mk.inj (Except.ok.inj hnamed)
        exact fun _ hmem => List.mem_of_mem_filter hmem
  have hsecond : selected ⊆ named := by
    unfold onlyProbe at honly
    split at honly
    · obtain ⟨rfl, -⟩ := Prod.mk.inj (Except.ok.inj honly)
      exact List.Subset.refl _
    · simp only at honly
      split at honly
      · cases honly
      · obtain ⟨rfl, -⟩ := Prod.mk.inj (Except.ok.inj honly)
        exact fun _ hmem => List.mem_of_mem_filter hmem
  exact List.Subset.trans hsecond hfirst

variable [MathSqrt] [UuidText] {options : ProbeOptions} {providers : DetectionProviders}

/-- The probes that are run are applicable, and their slots are reached. -/
theorem prepare_member {world seeded : σ} {suite : List SuiteMember} {runKvTiming : Bool}
    (h : stack.prepare substrate options providers world = (.ok (suite, runKvTiming), seeded))
    {member : SuiteMember} (hmember : member ∈ suite) :
    member ∈ buildSuite providers ∧ stack.applicable member = true ∧
      ∃ vectorLoaded loaded, stack.seed substrate vectorLoaded world = (.ok (), loaded) ∧
        (.vector ∈ member.probe.requiresAdapters → vectorLoaded = true) ∧
        ∀ slot ∈ member.probe.requiresAdapters, stack.Reached substrate loaded slot := by
  unfold prepare at h
  split at h
  · cases (Prod.mk.inj h).1
  split at h
  · cases (Prod.mk.inj h).1
  obtain ⟨⟨selected, timed⟩, between, hlift, hrest⟩ := Call.bind_eq_ok.mp h
  obtain ⟨hselected, rfl⟩ := Call.lift_eq_ok.mp hlift
  obtain ⟨⟨⟩, loaded, hseed, h⟩ := Call.bind_eq_ok.mp hrest
  obtain ⟨unreached, hunreached, heq⟩ := Call.map_eq_ok.mp h
  obtain ⟨rfl, -⟩ := Prod.mk.inj heq
  obtain ⟨happlicable, hslots⟩ := List.mem_filter.mp hmember
  obtain ⟨hmem, hcapable⟩ := List.mem_filter.mp happlicable
  have hloads : .vector ∈ member.probe.requiresAdapters →
      stack.loadsVector (selected.filter stack.applicable) = true := fun hslot =>
    List.any_eq_true.mpr ⟨member, happlicable, decide_eq_true (.inl hslot)⟩
  refine ⟨selectSuite_sub hselected hmem, hcapable, _, loaded, stopping_eq_ok hseed, hloads,
    fun slot hslot => ?_⟩
  have hout : slot ∉ unreached := of_decide_eq_true hslots slot hslot
  obtain ⟨slots, middle, hcanary, hrest⟩ := Call.bind_eq_ok.mp (stopping_eq_ok hunreached)
  obtain ⟨more, hcorpus, rfl⟩ := Call.map_eq_ok.mp hrest
  obtain ⟨hslots, hmore⟩ := not_or.mp (mt List.mem_append.mpr hout)
  have hreached := canaryUnreached_reached hcanary slot
  cases slot with
  | vector =>
    rw [hloads hslot] at hcorpus
    exact corpusUnserved_reached (canaryUnreached_checks hcanary) hcorpus hmore
  | rag => exact hreached (by decide) hslots
  | mcp => exact hreached (by decide) hslots
  | agent => exact hreached (by decide) hslots
  | cache => exact fun _ => trivial
  | model => exact fun _ => trivial
  | memory => exact fun _ => trivial
  | observability => exact fun _ => trivial

end ProbeStack

end Reached

section Graded

variable [Unicode] [MathSqrt] [UuidText]

/-- The suite of the command is part of the catalog. -/
theorem buildSuite_attacks {providers : DetectionProviders} {member : SuiteMember}
    (h : member ∈ buildSuite providers) :
    ∃ attack ∈ attacks providers, attack.probe = member.probe := by
  have hsub : (buildSuite providers).map SuiteMember.probe ⊆
      (attacks providers).map Attack.probe := by
    intro probe hprobe
    simp only [buildSuite, attacks, List.map_cons, List.map_nil, List.mem_cons, List.not_mem_nil,
      or_false] at hprobe ⊢
    tauto
  obtain ⟨attack, hattack, heq⟩ := List.mem_map.mp (hsub (List.mem_map_of_mem h))
  exact ⟨attack, hattack, heq⟩

namespace ProbeStack

variable {σ τ : Type} (stack : ProbeStack σ τ) (substrate : Substrate)

variable [Decimals]

/-- What stands behind a graded probe: it was in the suite, the stack satisfies it, the stack as the
command had loaded it from its world can hold what the probe looks for, and among the results is a judged
step of the plan, as a principal to whom a target is foreign. -/
structure Tested (providers : DetectionProviders) (world : σ) (groups : List (List StepResult))
    (probeId : String) (member : SuiteMember) (attack : Attack) : Prop where
  listed : member ∈ buildSuite providers
  catalogued : attack ∈ attacks providers
  same : attack.probe = member.probe
  named : attack.probe.id = probeId
  applicable : stack.applicable member = true
  reached : ∃ vectorLoaded loaded, stack.seed substrate vectorLoaded world = (.ok (), loaded) ∧
    (.vector ∈ attack.probe.requiresAdapters → vectorLoaded = true) ∧
    ∀ slot ∈ attack.probe.requiresAdapters, stack.Reached substrate loaded slot
  sent : ∃ group ∈ groups, ∃ result ∈ group,
    FromPlan (stack.runner substrate) attack.probe result ∧ result.1.isPlant = false ∧
      result.1 ∈ attack.probe.plan substrate ∧ result.1.principal ∈ substrate.principals ∧
        ∃ marker ∈ attack.targets substrate, isCrossPrincipal marker result.1.principal = true

variable {stack substrate} [MathErfc] [RunDigest] [Hashlib] [FloatText] [MathExp] [Shuffle]
  {options : ProbeOptions} {providers : DetectionProviders} {context : RecordContext} {world : σ}
  {record : RunResult}

omit [MathErfc] [RunDigest] [Hashlib] [FloatText] [MathExp] [Shuffle] in
theorem probeId_fromPlan {attack : Attack} (hattack : attack ∈ attacks providers)
    {result : StepResult} (h : FromPlan (stack.runner substrate) attack.probe result) :
    result.1.probeId = attack.probe.id := by
  obtain ⟨step, hstep, hsent⟩ := h.sent
  have hplanned : step.probeId = attack.probe.id := probeId_plan hattack hstep
  rcases (stack.runner substrate).asSent_eq_ok hsent with ⟨-, heq⟩ | ⟨-, ⟨-, heq⟩ | ⟨-, heq⟩⟩
  · rw [← Option.some.inj heq] at hplanned
    exact hplanned
  · rw [Option.some.inj heq]
    exact hplanned
  · cases heq

omit [RunDigest] in
/-- A result of a run is of a probe of the suite, and what the probe handed over comes from its plan. -/
theorem Run.handed (run : stack.Run substrate options providers context world record)
    {result : StepResult} (hresult : result ∈ run.groups.flatten) :
    ∃ member ∈ run.suite, ∃ group ∈ run.groups, result ∈ group ∧
      ∃ attack ∈ attacks providers, attack.probe = member.probe ∧
        Handed (stack.runner substrate) attack.probe group := by
  obtain ⟨group, hgroup, hmem⟩ := List.mem_flatten.mp hresult
  have hhanded := run.ran.handed
  rw [List.forall₂_map_left_iff] at hhanded
  obtain ⟨k, hk, rfl⟩ := List.getElem_of_mem hgroup
  have hk' : k < run.suite.length := hhanded.length_eq ▸ hk
  have hmember : run.suite[k] ∈ run.suite := List.getElem_mem hk'
  obtain ⟨attack, hattack, hsame⟩ := buildSuite_attacks (prepare_member run.prepared hmember).1
  refine ⟨run.suite[k], hmember, _, hgroup, hmem, attack, hattack, hsame, ?_⟩
  rw [hsame]
  exact hhanded.get hk' hk

omit [RunDigest] in
/-- A probe that the results of a run show was tested. -/
theorem Run.tested (run : stack.Run substrate options providers context world record)
    {result : StepResult} (hresult : result ∈ run.groups.flatten) {probeId : String}
    (hid : result.1.probeId = probeId ∨ ∃ f ∈ result.2, f.probeId = probeId) :
    ∃ member attack, stack.Tested substrate providers world run.groups probeId member attack := by
  obtain ⟨member, hmember, group, hgroup, hmem, attack, hattack, hsame, hhanded⟩ :=
    run.handed hresult
  obtain ⟨hlisted, happlicable, hreached⟩ := prepare_member run.prepared hmember
  rw [← hsame] at hreached
  have hfrom := hhanded.fromPlan result hmem
  obtain ⟨⟨step, hstep, -⟩, observation, -, hjudged⟩ := id hfrom
  have hnamed : attack.probe.id = probeId := by
    rcases hid with hid | ⟨f, hf, hid⟩
    · rw [← probeId_fromPlan hattack hfrom, hid]
    · rw [hjudged] at hf
      rw [← named_detect hattack hf, hid]
  have hplans := plansAgainst_of_mem_attacks providers hattack substrate
  obtain ⟨asked, hasked, hplant, hplanned⟩ :=
    hhanded.judged (List.ne_nil_of_mem hmem) (hplans.exists_judged hstep)
  obtain ⟨hprincipal, hforeign⟩ :=
    (hplans.judged asked.1.principal).mp ⟨asked.1, hplanned, hplant, rfl⟩
  exact ⟨member, attack, hlisted, hattack, hsame, hnamed, happlicable, hreached,
    group, hgroup, asked, hasked, hhanded.fromPlan asked hasked, hplant, hplanned, hprincipal, hforeign⟩

omit [Unicode] [UuidText] [Decimals] [RunDigest] [Hashlib] [FloatText] [MathExp] [Shuffle] in
theorem recordRun_eq_ok {groups : List (List StepResult)} {kvReport : Option KvCacheTimingReport}
    {s : RunnerState σ} (h : stack.recordRun context groups kvReport s = .ok record) :
    probeRecord { context with
      droppedUserSteps := sortedCounts s.droppedUserSteps
      unconfirmedPlants := sortedCounts s.unconfirmedPlants } stack.bundle groups.flatten kvReport =
      .ok record := by
  unfold recordRun at h
  simp only at h
  split at h
  · cases h
  · rename_i run hrun
    split at h
    · cases h
    · rw [hrun]
      exact congrArg Except.ok (Except.ok.inj h)

/-- No class is graded on a stack that was not asked, or that cannot hold what is looked for: behind each
probe that a graded line names stands a step that was sent, and behind the timing probe a pair of tenants
that it resolved. -/
theorem graded_tested (run : stack.Run substrate options providers context world record)
    {card : IsolationScore} (hscore : scoreRun record = .ok card) :
    ∀ c ∈ card.classes, c.verdict ≠ .notCovered → c.probeIds ≠ [] ∧ ∀ probeId ∈ c.probeIds,
      (∃ member attack, stack.Tested substrate providers world run.groups probeId member attack) ∨
        probeId = kvCacheTimingId ∧ ∃ report, report.resolved ≠ [] ∧
          (KvCacheTimingProbe.run stack.timedModel substrate stack.fresh).1 = .ok report := by
  intro c hc hgraded
  obtain ⟨entry, hentry, synthetic, hline⟩ := scoreRun_classes hscore c hc
  obtain ⟨hran, hids⟩ := CatalogClass.scoreClass_probeIds hline hgraded
  rw [hids]
  refine ⟨hran, fun probeId hid => ?_⟩
  have hexercised := of_decide_eq_true (List.mem_filter.mp hid).2
  have hrecord := recordRun_eq_ok run.recorded
  rcases probeRecord_exercises hrecord hexercised with ⟨result, hresult, hprobe⟩ |
    ⟨report, hreport, hfound⟩
  · exact .inl (run.tested hresult hprobe)
  · have htimed := run.timed
    rw [Option.mem_def.mp hreport] at htimed
    split at htimed
    · obtain ⟨report', hrun, heq⟩ := htimed
      obtain rfl := Option.some.inj heq
      rcases hfound with ⟨rfl, hresolved⟩ | ⟨f, hf, rfl⟩
      · exact .inr ⟨rfl, report, hresolved, hrun⟩
      · obtain ⟨hbears, hresolved⟩ := KvCacheTimingProbe.bears_run hrun hf
        exact .inr ⟨hbears.named, report, hresolved, hrun⟩
    · cases htimed

end ProbeStack

end Graded

section Sample

/-- The digest of the record below, and of no other. -/
@[reducible] def RunDigest.storeRuns : RunDigest where
  runDigest _ := .ok "c69175332aae1afc4462a6df1bdca5812d2df1f29e44e1994a17ea8d433e22d9"

attribute [local instance] Unicode.ascii MathSqrt.exact MathErfc.atZero UuidText.digits
  Decimals.ascii Hashlib.real FloatText.halves MathExp.rounded Shuffle.identity RunDigest.storeRuns

/-- A live store that serves its one document to the owner alone, beside fakes that hold nothing. -/
def ownersStore : ProbeStack Unit Unit where
  adapterName := Slot.name
  synthetic slot := slot ≠ .vector
  vectorEmbedderName := "fake"
  capabilities _ := []
  typeName _ := "AdapterError"
  vector :=
    { upsert := fun _ _ => .pure ()
      query := fun _ _ _ => .pure []
      fetch := fun p docId => .pure (if p.tenantId = ⟨1⟩ ∧ docId = "doc-1" then
        some ⟨"doc-1", ⟨1⟩, 1, "Reference: CANARY-1"⟩ else none) }
  cache := { get := fun _ _ => .pure none, set := fun _ _ _ => .pure () }
  model := { trainAdapter := fun _ _ => .pure (), infer := fun _ _ => .pure "" }
  mcp := { invoke := fun _ tool _ => .pure ⟨tool, ""⟩ }
  memory := { remember := fun _ _ => .pure (), «recall» := fun _ _ => .pure [] }
  rag := { ask := fun _ _ => .pure ⟨"", []⟩ }
  observability := { searchTraces := fun _ _ => .pure [] }
  agent := { run := fun _ _ => .pure ⟨"", []⟩ }
  timedModel :=
    { trainAdapter := fun _ _ => .pure ()
      infer := fun _ _ => .pure ""
      measureLatency := fun _ _ => .pure 100 }
  fresh := ()

/-- A canary of the first of two tenants. -/
def ownersSubstrate : Substrate where
  scenario := { scenarioId := "scenario", seed := 1, tenants := [] }
  tenants :=
    [{ tenantId := ⟨1⟩, displayName := "A", industry := "law", corpusSize := 1
       corpusSize_pos := Nat.one_pos },
      { tenantId := ⟨2⟩, displayName := "B", industry := "law", corpusSize := 1
        corpusSize_pos := Nat.one_pos }]
  documents := [{ docId := "doc-1", tenantId := ⟨1⟩, docType := "memo", title := "Memo"
                  content := "Reference: CANARY-1", markerIds := ["marker-1"] }]
  manifest :=
    { manifestId := "manifest", scenarioHash := "scenario"
      markers := [{ markerId := "marker-1", markerType := .hardCanary, ownerTenantId := ⟨1⟩
                    plaintext := "CANARY-1", plantedLocations := [⟨"doc-1", "content"⟩] }] }

def ownersSuite : List SuiteMember := [⟨TenantBoundaryProbe.probe denying, []⟩]

def ownersRun : Except Raised (List (List StepResult)) × RunnerState Unit :=
  SerialJobRunner.map (ownersStore.runner ownersSubstrate).runPerStep
    (ownersSuite.map SuiteMember.probe) { world := () }

theorem ownersRun_graded : ∃ groups finished record card,
    ownersRun = (.ok groups, finished) ∧
      ownersStore.recordRun suiteContext groups none finished = .ok record ∧
      scoreRun record = .ok card ∧ ∃ c ∈ card.classes, c.verdict ≠ .notCovered ∧
        c.probeIds = ["tenant-boundary-fetch"] := by
  have hgraded : ((ownersRun.1.mapError Stop.raised).bind fun groups =>
      (ownersStore.recordRun suiteContext groups none ownersRun.2).bind fun record =>
        ((scoreRun record).mapError Stop.failed).map fun card =>
          decide (∃ c ∈ card.classes, c.verdict ≠ .notCovered ∧
            c.probeIds = ["tenant-boundary-fetch"])) = .ok true := by
    decide +kernel
  obtain ⟨groups, hgroups, hgraded⟩ := bind_eq_ok.mp hgraded
  obtain ⟨record, hrecord, hgraded⟩ := bind_eq_ok.mp hgraded
  obtain ⟨card, hcard, hgraded⟩ := map_eq_ok.mp hgraded
  exact ⟨groups, ownersRun.2, record, card, Prod.ext (mapError_eq_ok.mp hgroups) rfl, hrecord,
    mapError_eq_ok.mp hcard, of_decide_eq_true hgraded⟩

/-- The command against the store, with the card of its record. -/
theorem exists_ownersRun : ∃ record card,
    ∃ _ : ownersStore.Run ownersSubstrate { only := some "tenant-boundary-fetch" } denying
      suiteContext () record,
    scoreRun record = .ok card ∧ ∃ c ∈ card.classes, c.verdict ≠ .notCovered ∧
      c.probeIds = ["tenant-boundary-fetch"] := by
  obtain ⟨groups, finished, record, card, hran, hrecord, hcard, hgraded⟩ := ownersRun_graded
  exact ⟨record, card,
    { suite := ownersSuite
      runKvTiming := false
      seeded := ()
      prepared := rfl
      groups
      finished
      ran := by
        obtain ⟨hgroups, rfl⟩ := Prod.mk.inj hran
        rw [← hgroups]
        exact .serial (.inl (by decide))
      kvReport := none
      timed := rfl
      recorded := hrecord }, hcard, hgraded⟩

/-- The store that was tested for the one probe of its suite. -/
theorem ProbeStack.graded_tested_owners : ∃ record card,
    ∃ run : ownersStore.Run ownersSubstrate { only := some "tenant-boundary-fetch" } denying
      suiteContext () record,
    scoreRun record = .ok card ∧ (∃ c ∈ card.classes, c.verdict ≠ .notCovered) ∧
      ∃ member attack, ownersStore.Tested ownersSubstrate denying () run.groups
        "tenant-boundary-fetch" member attack := by
  obtain ⟨record, card, run, hcard, c, hc, hgraded, hids⟩ := exists_ownersRun
  refine ⟨record, card, run, hcard, ⟨c, hc, hgraded⟩, ?_⟩
  have hid : "tenant-boundary-fetch" ∈ c.probeIds := by
    rw [hids]
    exact List.mem_singleton_self _
  rcases (graded_tested run hcard c hc hgraded).2 _ hid with htested | ⟨htiming, -⟩
  · exact htested
  · exact absurd htiming (by decide)

end Sample

end Sectum
