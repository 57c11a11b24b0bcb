import Sectum.Core.Score
import Sectum.Core.SubstrateSound
import Sectum.Probes.Dedupe
import Sectum.Probes.Detection

/-! The ids of findings, by which they are merged: each names the builder, the probe, the marker, the
observer and the surface of its finding. -/

namespace Sectum

open Py

section Builder

/-- `Substrate.principals`. -/
def Substrate.principals (substrate : Substrate) : List Principal :=
  substrate.tenants.flatMap fun tenant =>
    ⟨tenant.tenantId, none⟩ :: tenant.users.map fun user => ⟨tenant.tenantId, some user.userId⟩

/-- What a probe class declares. -/
structure DetectingProbe where
  id : String
  owaspLlm : String
  owaspSecondary : List String := ["LLM02:2025"]
  atlasTechniques : List String
  nistRmf : List String

namespace DetectingProbe

def emptyEvidence : String :=
  "cross-principal fetch returned 200-empty, not an explicit deny - " ++
    "negative authorization is unproven (the 200-empty vs 403 ambiguity)"

def emptyRemediation : String :=
  "return an explicit authorization error (e.g. 403) for cross-tenant " ++
    "object fetches rather than a 200 with an empty body"

/-- The principal that a step acted as, if the substrate has it. -/
def observer (step : ProbeStep) (substrate : Substrate) : Option Principal :=
  substrate.principals.find? fun principal =>
    principal.tenantId = step.actorTenantId ∧ principal.userId = step.actorUserId

/-- The finding of a by-id read across principals that came back empty. -/
def emptyAmbiguityFinding (probe : DetectingProbe) (step : ProbeStep) (observation : Observation)
    (substrate : Substrate) (marker : Option Marker) (evidence remediation : String)
    (atlas : Option (List String)) : Option Finding :=
  match observer step substrate, marker with
  | some observer, some marker =>
    if !isCrossPrincipal marker observer then none
    else
      let userSuffix :=
        match observer.userId with
        | some user => "-" ++ user.hex
        | none => ""
      some {
        findingId := "finding-" ++ probe.id ++ "-empty-" ++ marker.markerId ++ "-" ++
          observer.tenantId.hex ++ userSuffix ++ "-" ++ observation.surface.value
        probeId := probe.id
        severity := .info
        confidence := ⟨0, by decide⟩
        status := .unverified
        ownerTenantId := marker.ownerTenantId
        observedInTenantId := observer.tenantId
        ownerUserId := marker.ownerUserId
        observedInUserId := observer.userId
        surface := observation.surface
        markerId := some marker.markerId
        evidenceSpan := evidence
        owaspLlm := probe.owaspLlm
        owaspSecondary := probe.owaspSecondary
        atlas := atlas.getD probe.atlasTechniques
        nist := probe.nistRmf
        remediationPointer := remediation }
  | _, _ => none

end DetectingProbe

inductive FindingBuilder
  | detected
  | emptyAmbiguity
  deriving DecidableEq, Repr

/-- What a finding is about. -/
structure FindingKey where
  builder : FindingBuilder
  probeId : String
  marker : Marker
  observer : Principal
  surface : Surface
  deriving DecidableEq

/-- The findings of the two builders, and what each is about. -/
inductive BuiltFor : FindingKey → Finding → Prop
  | detected (marker : Marker) (observer : Principal) (surface : Surface) (probeId : String)
      (severity : Severity) (confidence : UnitRat) (status : FindingStatus) (evidence : String) :
      BuiltFor ⟨.detected, probeId, marker, observer, surface⟩
        (DetectionPipeline.finding marker observer surface probeId severity confidence status evidence)
  | restamped {key : FindingKey} {f : Finding} (stamp : ControlStamp) (h : BuiltFor key f) :
      BuiltFor key (DetectionPipeline.restamp stamp f)
  | emptyAmbiguity {probe : DetectingProbe} {step : ProbeStep} {observation : Observation}
      {substrate : Substrate} {marker : Marker} {observer : Principal} {evidence remediation : String}
      {atlas : Option (List String)} {f : Finding}
      (hobserver : DetectingProbe.observer step substrate = some observer)
      (hfinding : probe.emptyAmbiguityFinding step observation substrate (some marker) evidence
        remediation atlas = some f) :
      BuiltFor ⟨.emptyAmbiguity, probe.id, marker, observer, observation.surface⟩ f

end Builder

section Ids

def FindingBuilder.part : FindingBuilder → String
  | detected => ""
  | emptyAmbiguity => "empty-"

def userPart (userId : Option UUID) : String :=
  match userId with
  | some user => "-" ++ user.hex
  | none => ""

def FindingKey.findingId (key : FindingKey) : String :=
  "finding-" ++ (key.probeId ++ "-" ++ key.builder.part) ++ key.marker.markerId ++ "-" ++
    key.observer.tenantId.hex ++ userPart key.observer.userId ++ "-" ++ key.surface.value

theorem BuiltFor.findingId {key : FindingKey} {f : Finding} (h : BuiltFor key f) :
    f.findingId = key.findingId := by
  induction h with
  | detected marker observer surface probeId =>
    obtain ⟨tenantId, userId⟩ := observer
    unfold DetectionPipeline.finding
    simp only [FindingKey.findingId, FindingBuilder.part, userPart, String.append_assoc]
    cases userId <;> rfl
  | restamped stamp _ ih => exact ih
  | emptyAmbiguity hobserver hfinding =>
    unfold DetectingProbe.emptyAmbiguityFinding at hfinding
    rw [hobserver] at hfinding
    dsimp only at hfinding
    split at hfinding
    · cases hfinding
    · rw [← Option.some.inj hfinding]
      simp only [FindingKey.findingId, FindingBuilder.part, userPart, String.append_assoc]
      rfl

/-- What an id begins with, up to the number of the marker. -/
def idHead (probeId : String) (builder : FindingBuilder) : List Char :=
  (probeId ++ "-" ++ builder.part ++ "mkr-").toList

def idHeads : List (String × FindingBuilder) :=
  (catalog.flatMap CatalogClass.probeIds).flatMap fun probeId =>
    [(probeId, .detected), (probeId, .emptyAmbiguity)]

theorem idHead_eq (probeId : String) (builder : FindingBuilder) :
    idHead probeId builder =
      probeId.toList ++ ("-".toList ++ (builder.part.toList ++ "mkr-".toList)) := by
  simp [idHead]

/-- No beginning of an id begins another. -/
theorem idHeads_disjoint : ∀ head ∈ idHeads, ∀ other ∈ idHeads,
    idHead head.1 head.2 <+: idHead other.1 other.2 → head = other := by
  simp only [idHead_eq]
  decide +kernel

theorem mem_idHeads {probeId : String} (h : probeId ∈ catalogProbes) (builder : FindingBuilder) :
    (probeId, builder) ∈ idHeads := by
  refine List.mem_flatMap.mpr ⟨probeId, List.mem_toFinset.mp h, ?_⟩
  cases builder <;> simp

theorem hex_uuid_injective : Function.Injective UUID.hex := by
  intro a b h
  have hbits : a.bits.toNat = b.bits.toNat := hex_injective 32 h
  exact congrArg UUID.mk (BitVec.eq_of_toNat_eq hbits)

theorem length_hex_uuid (id : UUID) : id.hex.toList.length = 32 :=
  hex_length (by decide) id.bits.isLt

theorem length_surface_value (surface : Surface) : surface.value.toList.length ≤ 15 := by
  cases surface <;> decide

/-- The end of an id, from the tenant on, is read back. -/
theorem tail_injective {tenantId tenantId' : UUID} {userId userId' : Option UUID}
    {surface surface' : Surface}
    (h : tenantId.hex.toList ++ ((userPart userId).toList ++ '-' :: surface.value.toList) =
      tenantId'.hex.toList ++ ((userPart userId').toList ++ '-' :: surface'.value.toList)) :
    tenantId = tenantId' ∧ userId = userId' ∧ surface = surface' := by
  have hlength : tenantId.hex.toList.length = tenantId'.hex.toList.length := by
    rw [length_hex_uuid, length_hex_uuid]
  obtain ⟨htenant, hrest⟩ := List.append_inj h hlength
  refine ⟨hex_uuid_injective (String.toList_injective htenant), ?_⟩
  -- A user's part is longer than any surface.
  have hshort := length_surface_value surface
  have hshort' := length_surface_value surface'
  have htotal := congrArg List.length hrest
  cases userId with
  | none =>
    cases userId' with
    | none =>
      have hsurface := (List.cons.inj hrest).2
      exact ⟨rfl, Surface.value_injective (String.toList_injective hsurface)⟩
    | some user =>
      have huser := length_hex_uuid user
      simp [userPart] at htotal huser hshort
      omega
  | some user =>
    have huser := length_hex_uuid user
    cases userId' with
    | none =>
      simp [userPart] at htotal huser hshort'
      omega
    | some user' =>
      simp only [userPart, String.toList_append, List.append_assoc] at hrest
      have huser' := length_hex_uuid user'
      obtain ⟨heq, hsurface⟩ := List.append_inj (List.append_cancel_left hrest)
        (huser.trans huser'.symm)
      rw [hex_uuid_injective (String.toList_injective heq)]
      exact ⟨rfl, Surface.value_injective
        (String.toList_injective (List.cons.inj hsurface).2)⟩

end Ids

section Issue

variable {ρ : Type} [RandomSource ρ]

/-- Markers of one call of `generate_markers` after another, each call going on from the numbers of
the last; a marker is planted afterwards under its id. -/
inductive Issued (ρ : Type) [RandomSource ρ] : Nat → List Marker → Prop
  | nil (startSequence : Nat) : Issued ρ startSequence []
  | call {startSequence : Nat} {more : List Marker} (tenantId : UUID)
      (users : List SyntheticUserSpec) (rng : ρ) (planted : Marker → Marker)
      (hplanted : ∀ marker, (planted marker).markerId = marker.markerId)
      (h : Issued ρ (startSequence + markersPerTenant) more) :
      Issued ρ startSequence
        ((generateMarkers tenantId startSequence users rng).map planted ++ more)

theorem Issued.numbered {startSequence : Nat} {markers : List Marker}
    (h : Issued ρ startSequence markers) :
    ∃ count, markers.map Marker.markerId = (List.range' startSequence count).map markerIdOf := by
  induction h with
  | nil startSequence => exact ⟨0, rfl⟩
  | @call startSequence more tenantId users rng planted hplanted _ ih =>
    obtain ⟨count, hmore⟩ := ih
    have hfirst : ((generateMarkers tenantId startSequence users rng).map planted).map
        Marker.markerId = (List.range' startSequence markersPerTenant).map markerIdOf := by
      rw [List.map_map, ← map_markerId_generateMarkers tenantId startSequence users rng]
      exact List.map_congr_left fun marker _ => hplanted marker
    refine ⟨markersPerTenant + count, ?_⟩
    rw [List.map_append, hfirst, hmore, ← List.map_append, List.range'_append_1]

theorem Issued.markerId_injective {startSequence : Nat} {markers : List Marker}
    (h : Issued ρ startSequence markers) {marker other : Marker} (hmarker : marker ∈ markers)
    (hother : other ∈ markers) (heq : marker.markerId = other.markerId) : marker = other := by
  obtain ⟨count, hids⟩ := h.numbered
  have hnodup : (markers.map Marker.markerId).Nodup := by
    rw [hids]
    have hrange : (List.range' startSequence count).Nodup := List.nodup_range'
    exact hrange.map markerIdOf_injective
  exact List.inj_on_of_nodup_map hnodup hmarker hother heq

theorem Issued.markerId {startSequence : Nat} {markers : List Marker}
    (h : Issued ρ startSequence markers) {marker : Marker} (hmarker : marker ∈ markers) :
    ∃ sequence : Nat, marker.markerId = markerIdOf sequence := by
  obtain ⟨count, hids⟩ := h.numbered
  have hmem := List.mem_map_of_mem (f := Marker.markerId) hmarker
  rw [hids] at hmem
  obtain ⟨sequence, -, heq⟩ := List.mem_map.mp hmem
  exact ⟨sequence, heq.symm⟩

/-- The markers of a substrate. -/
theorem issued_buildTenants [Hashlib] {scenario : Scenario} {index sequence : Nat}
    {tenants : List SyntheticTenantSpec} {documents : List CorpusDocument} {markers : List Marker}
    (h : buildTenants ρ scenario index sequence tenants = .ok (documents, markers)) :
    Issued ρ sequence markers := by
  induction tenants generalizing index sequence documents markers with
  | nil =>
    cases h
    exact .nil sequence
  | cons tenantSpec tenants ih =>
    obtain ⟨_, _, _, _, hbuilt, hmore, rfl, rfl⟩ := buildTenants_cons_eq_ok h
    obtain ⟨_, locations, -, -, rfl⟩ := buildTenant_eq_ok hbuilt
    exact .call _ _ _ (plant scenario locations) (fun _ => rfl) (ih hmore)

end Issue

section Dedupe

variable {ρ : Type} [RandomSource ρ] {startSequence : Nat} {issued : List Marker}

theorem toList_findingId {key : FindingKey} {sequence : Nat}
    (h : key.marker.markerId = markerIdOf sequence) :
    key.findingId.toList = "finding-".toList ++ (idHead key.probeId key.builder ++
      ((padded 5 sequence).toList ++ '-' :: (key.observer.tenantId.hex.toList ++
        ((userPart key.observer.userId).toList ++ '-' :: key.surface.value.toList)))) := by
  simp [FindingKey.findingId, idHead, h, markerIdOf]

/-- A finding of a catalog probe about a marker that was issued. -/
structure Leak (issued : List Marker) (key : FindingKey) (f : Finding) : Prop where
  built : BuiltFor key f
  probe : key.probeId ∈ catalogProbes
  marker : key.marker ∈ issued

/-- Findings with one id are about one thing. -/
theorem Leak.key_eq (hissued : Issued ρ startSequence issued) {key key' : FindingKey}
    {f f' : Finding} (h : Leak issued key f) (h' : Leak issued key' f')
    (heq : f.findingId = f'.findingId) : key = key' := by
  obtain ⟨sequence, hsequence⟩ := hissued.markerId h.marker
  obtain ⟨sequence', hsequence'⟩ := hissued.markerId h'.marker
  rw [h.built.findingId, h'.built.findingId] at heq
  have htext := congrArg String.toList heq
  rw [toList_findingId hsequence, toList_findingId hsequence'] at htext
  have hbody := List.append_cancel_left htext
  have hhead : (key.probeId, key.builder) = (key'.probeId, key'.builder) := by
    have hmem := mem_idHeads h.probe key.builder
    have hmem' := mem_idHeads h'.probe key'.builder
    rcases List.prefix_or_prefix_of_prefix (List.prefix_append _ _)
      (hbody ▸ List.prefix_append _ _) with hprefix | hprefix
    · exact (idHeads_disjoint _ hmem' _ hmem hprefix).symm
    · exact idHeads_disjoint _ hmem _ hmem' hprefix
  obtain ⟨hprobe, hbuilder⟩ := Prod.mk.inj hhead
  rw [hprobe, hbuilder] at hbody
  have hhyphen : ∀ rest : List Char, ∀ c ∈ ('-' :: rest).head?, c.isDigit = false := by
    intro rest c hc
    rw [← Option.mem_some.mp hc]
    rfl
  obtain ⟨hnumber, htail⟩ := padded_append_injective (hhyphen _) (hhyphen _)
    (List.append_cancel_left hbody)
  obtain ⟨htenant, huser, hsurface⟩ := tail_injective (List.cons.inj htail).2
  have hmarker : key.marker = key'.marker := by
    apply hissued.markerId_injective h.marker h'.marker
    rw [hsequence, hsequence', hnumber]
  obtain ⟨builder, probeId, marker, ⟨tenantId, userId⟩, surface⟩ := key
  obtain ⟨builder', probeId', marker', ⟨tenantId', userId'⟩, surface'⟩ := key'
  cases hprobe; cases hbuilder; cases htenant; cases huser; cases hsurface; cases hmarker
  rfl

/-- What a record keeps of the thing it is about. -/
structure FindingKey.Names (key : FindingKey) (f : Finding) : Prop where
  findingId : f.findingId = key.findingId
  probeId : f.probeId = key.probeId
  markerId : f.markerId = some key.marker.markerId
  tenant : f.observedInTenantId = key.observer.tenantId
  user : f.observedInUserId = key.observer.userId
  surface : f.surface = key.surface

theorem BuiltFor.names {key : FindingKey} {f : Finding} (h : BuiltFor key f) : key.Names f := by
  refine ⟨h.findingId, ?_, ?_, ?_, ?_, ?_⟩ <;>
  · induction h with
    | detected => rfl
    | restamped stamp _ ih => exact ih
    | emptyAmbiguity hobserver hfinding =>
      unfold DetectingProbe.emptyAmbiguityFinding at hfinding
      rw [hobserver] at hfinding
      dsimp only at hfinding
      split at hfinding
      · cases hfinding
      · rw [← Option.some.inj hfinding]

theorem mergeFindings_names {key : FindingKey} {existing f : Finding} (h : key.Names existing)
    (hf : key.Names f) : key.Names (mergeFindings existing f) := by
  obtain ⟨winner, loser, hwho, -, hmerge⟩ := mergeFindings_cases existing f
  have hwinner : key.Names winner := by
    rcases hwho with ⟨rfl, rfl⟩ | ⟨rfl, rfl⟩
    · exact hf
    · exact h
  rw [hmerge]
  split
  · exact ⟨hwinner.findingId, hwinner.probeId, hwinner.markerId, hwinner.tenant, hwinner.user,
      hwinner.surface⟩
  · exact hwinner

variable {entries : List (FindingKey × Finding)}

theorem dedupeFindings_names (hissued : Issued ρ startSequence issued)
    (hleaks : ∀ entry ∈ entries, Leak issued entry.1 entry.2) {key : FindingKey}
    (hkey : key ∈ entries.map Prod.fst) {kept : Finding}
    (hkept : kept ∈ dedupeFindings (entries.map Prod.snd)) (hid : kept.findingId = key.findingId) :
    key.Names kept := by
  have hgroup : ∀ f ∈ (entries.map Prod.snd).filter fun f => f.findingId = kept.findingId,
      key.Names f := by
    intro f hf
    obtain ⟨hmem, hsame⟩ := List.mem_filter.mp hf
    obtain ⟨entry, hentry, rfl⟩ := List.mem_map.mp hmem
    obtain ⟨other, hother, rfl⟩ := List.mem_map.mp hkey
    have hleak := hleaks entry hentry
    have hleak' := hleaks other hother
    have hids : entry.2.findingId = other.2.findingId := by
      rw [of_decide_eq_true hsame, hid, hleak'.built.findingId]
    rw [← hleak.key_eq hissued hleak' hids]
    exact hleak.built.names
  refine KeyedMerge.values_induct (P := fun group kept => (∀ f ∈ group, key.Names f) →
    key.Names kept) Finding.findingId mergeFindings mergeFindings_findingId ?_ ?_ hkept hgroup
  · intro f h
    exact h f List.mem_cons_self
  · intro group kept f _ ih h
    exact mergeFindings_names (ih fun f hf => h f (List.mem_append_left _ hf))
      (h f (List.mem_append_right _ List.mem_cons_self))

/-- The records that are kept, one for each thing that the findings are about, in the order in which
the things are first seen. -/
theorem dedupeFindings_keys (hissued : Issued ρ startSequence issued)
    (hleaks : ∀ entry ∈ entries, Leak issued entry.1 entry.2) :
    List.Forall₂ (fun key kept => key.Names kept ∧ (kept.status = .confirmed ↔
        ∃ entry ∈ entries, entry.1 = key ∧ entry.2.status = .confirmed))
      (entries.map Prod.fst).eraseDups (dedupeFindings (entries.map Prod.snd)) := by
  have hinj : ∀ key ∈ entries.map Prod.fst, ∀ key' ∈ entries.map Prod.fst,
      key.findingId = key'.findingId → key = key' := by
    intro key hkey key' hkey' heq
    obtain ⟨entry, hentry, rfl⟩ := List.mem_map.mp hkey
    obtain ⟨other, hother, rfl⟩ := List.mem_map.mp hkey'
    have hleak := hleaks entry hentry
    have hleak' := hleaks other hother
    exact hleak.key_eq hissued hleak' (by rw [hleak.built.findingId, hleak'.built.findingId, heq])
  have hids : (entries.map Prod.snd).map Finding.findingId =
      (entries.map Prod.fst).map FindingKey.findingId := by
    rw [List.map_map, List.map_map]
    exact List.map_congr_left fun entry hentry => (hleaks entry hentry).built.findingId
  have hkept : (entries.map Prod.fst).eraseDups.map FindingKey.findingId =
      (dedupeFindings (entries.map Prod.snd)).map Finding.findingId := by
    rw [(dedupeFindings_faithful _).2.1, hids, KeyedMerge.eraseDups_map hinj]
  have hpairs : List.Forall₂ (fun key kept => FindingKey.findingId key = Finding.findingId kept)
      (entries.map Prod.fst).eraseDups (dedupeFindings (entries.map Prod.snd)) := by
    rw [← List.forall₂_eq_eq_eq, List.forall₂_map_left_iff, List.forall₂_map_right_iff] at hkept
    exact hkept
  refine List.forall₂_iff_get.mpr ⟨hpairs.length_eq, fun n hn hn' => ?_⟩
  have hid := hpairs.get hn hn'
  have hkey := List.mem_eraseDups.mp (List.get_mem (entries.map Prod.fst).eraseDups ⟨n, hn⟩)
  have hmem := List.get_mem (dedupeFindings (entries.map Prod.snd)) ⟨n, hn'⟩
  refine ⟨dedupeFindings_names hissued hleaks hkey hmem hid.symm, ?_⟩
  rw [dedupeFindings_confirmed hmem]
  constructor
  · rintro ⟨f, hf, heq, hstatus⟩
    obtain ⟨entry, hentry, rfl⟩ := List.mem_map.mp hf
    refine ⟨entry, hentry, hinj _ (List.mem_map_of_mem hentry) _ hkey ?_, hstatus⟩
    rw [← (hleaks entry hentry).built.findingId, heq, ← hid]
  · rintro ⟨entry, hentry, heq, hstatus⟩
    refine ⟨entry.2, List.mem_map_of_mem hentry, ?_, hstatus⟩
    rw [(hleaks entry hentry).built.findingId, heq, hid]

theorem length_confirmedFindings (hissued : Issued ρ startSequence issued)
    (hleaks : ∀ entry ∈ entries, Leak issued entry.1 entry.2) :
    (confirmedFindings (dedupeFindings (entries.map Prod.snd))).length =
      ((entries.filter fun entry => entry.2.status = .confirmed).map Prod.fst).eraseDups.length := by
  let keys := (entries.map Prod.fst).eraseDups.filter fun key =>
    ∃ entry ∈ entries, entry.1 = key ∧ entry.2.status = .confirmed
  have hkept : keys.length = (confirmedFindings (dedupeFindings (entries.map Prod.snd))).length := by
    refine List.Forall₂.length_eq (List.rel_filter ?_ (dedupeFindings_keys hissued hleaks))
    intro key kept h
    simpa only [decide_eq_true_eq] using h.2.symm
  rw [← hkept]
  -- The things with a confirmed occurrence, counted in two ways.
  refine List.Perm.length_eq ((List.perm_ext_iff_of_nodup ?_ ?_).mpr fun key => ?_)
  · exact (KeyedMerge.nodup_eraseDups _).filter _
  · exact KeyedMerge.nodup_eraseDups _
  · rw [List.mem_filter, List.mem_eraseDups, List.mem_eraseDups, List.mem_map, List.mem_map,
      decide_eq_true_eq]
    constructor
    · rintro ⟨-, entry, hentry, hkey, hstatus⟩
      exact ⟨entry, List.mem_filter.mpr ⟨hentry, by simpa using hstatus⟩, hkey⟩
    · rintro ⟨entry, hentry, hkey⟩
      obtain ⟨hmem, hstatus⟩ := List.mem_filter.mp hentry
      exact ⟨⟨entry, hmem, hkey⟩, entry, hmem, hkey, by simpa using hstatus⟩

/-- No two leaks are merged: an id names one builder, probe, marker, observer and surface, and a list
of findings keeps one record for each that occurs in it, confirmed where one of its occurrences is. -/
theorem dedupe_separates_leaks (hissued : Issued ρ startSequence issued) :
    (∀ key key' f f', Leak issued key f → Leak issued key' f' → f.findingId = f'.findingId →
      key = key') ∧
    ∀ entries : List (FindingKey × Finding), (∀ entry ∈ entries, Leak issued entry.1 entry.2) →
      List.Forall₂ FindingKey.Names (entries.map Prod.fst).eraseDups
        (dedupeFindings (entries.map Prod.snd)) ∧
      (confirmedFindings (dedupeFindings (entries.map Prod.snd))).length =
        ((entries.filter fun entry => entry.2.status = .confirmed).map
          Prod.fst).eraseDups.length :=
  ⟨fun _ _ _ _ h h' heq => h.key_eq hissued h' heq, fun _ hleaks =>
    ⟨(dedupeFindings_keys hissued hleaks).imp fun _ _ h => h.1,
      length_confirmedFindings hissued hleaks⟩⟩

end Dedupe

section Sample

attribute [local instance] RandomSource.zeros

def sampleIssue : List Marker := (generateMarkers ⟨1⟩ 99998 [] ()).map id ++ []

theorem sampleIssue_issued : Issued Unit 99998 sampleIssue :=
  .call ⟨1⟩ [] () id (fun _ => rfl) (.nil _)

theorem length_sampleIssue : 2 < sampleIssue.length := by
  rw [sampleIssue, List.append_nil, List.length_map, length_generateMarkers]
  decide

def sampleMarker (k : Fin 3) : Marker :=
  sampleIssue.get ⟨k.val, by have := length_sampleIssue; omega⟩

def sampleLeak (k : Fin 3) (user : Option UUID) (status : FindingStatus) : FindingKey × Finding :=
  (⟨.detected, "rag-entity-bleed", sampleMarker k, ⟨⟨2⟩, user⟩, .vectorDb⟩,
    DetectionPipeline.finding (sampleMarker k) ⟨⟨2⟩, user⟩ .vectorDb "rag-entity-bleed" .critical
      UnitRat.one status "")

theorem sampleLeak_leak (k : Fin 3) (user : Option UUID) (status : FindingStatus) :
    Leak sampleIssue (sampleLeak k user status).1 (sampleLeak k user status).2 :=
  ⟨.detected _ _ _ _ _ _ _ _, by
    show "rag-entity-bleed" ∈ catalogProbes
    decide +kernel, List.get_mem _ _⟩

/-- Markers 99999 and 100000, of which one is confirmed at a user and seen again there. -/
def sampleLeaks : List (FindingKey × Finding) :=
  [sampleLeak 1 (some ⟨3⟩) .unverified, sampleLeak 2 none .unverified,
    sampleLeak 1 (some ⟨3⟩) .confirmed]

theorem dedupe_separates_leaks_renumbered :
    (confirmedFindings (dedupeFindings (sampleLeaks.map Prod.snd))).length = 1 := by
  have hleaks : ∀ entry ∈ sampleLeaks, Leak sampleIssue entry.1 entry.2 := by
    intro entry hentry
    simp only [sampleLeaks, List.mem_cons, List.not_mem_nil, or_false] at hentry
    rcases hentry with rfl | rfl | rfl <;> exact sampleLeak_leak _ _ _
  exact ((dedupe_separates_leaks sampleIssue_issued).2 sampleLeaks hleaks).2

end Sample

end Sectum
