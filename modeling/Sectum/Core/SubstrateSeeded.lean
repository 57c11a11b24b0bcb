import Sectum.Core.SubstrateSound
import Sectum.Spec.TextAscii

/-! A built substrate is ready to be loaded and probed: its documents have one tenant each and ids of
their own, and a marker stands, as it is, in the documents that its locations name. -/

namespace Sectum

open Py

/-- A location of a marker names a document of the marker's owner that reads it out at its end. -/
def Houses (documents : List CorpusDocument) (marker : Marker) (location : PlantedLocation) : Prop :=
  ∃ document ∈ documents, document.docId = location.docId ∧
    document.tenantId = marker.ownerTenantId ∧ document.ownerUserId = marker.ownerUserId ∧
    ∃ before, document.content = before ++ (marker.plaintext ++ ".")

/-- What loading and probing rely on. -/
structure Substrate.Seeded (substrate : Substrate) : Prop where
  tenants : (substrate.tenants.map SyntheticTenantSpec.tenantId).Nodup
  docIds : (substrate.documents.map CorpusDocument.docId).Nodup
  markerIds : (substrate.manifest.markers.map Marker.markerId).Nodup
  owned : ∀ document ∈ substrate.documents,
    document.tenantId ∈ substrate.tenants.map SyntheticTenantSpec.tenantId
  owners : ∀ marker ∈ substrate.manifest.markers,
    marker.ownerTenantId ∈ substrate.tenants.map SyntheticTenantSpec.tenantId
  housed : ∀ marker ∈ substrate.manifest.markers, ∀ location ∈ marker.plantedLocations,
    Houses substrate.documents marker location
  canaries : ∀ marker ∈ substrate.manifest.markers, marker.markerType = .hardCanary →
    IsAsciiText marker.plaintext

section Canaries

theorem isAsciiText_b32encode (data : Bytes) : IsAsciiText (b32encode data) := by
  intro c hc
  rw [b32encode, String.toList_ofList] at hc
  obtain ⟨group, -, rfl⟩ := List.mem_map.mp hc
  have hall : base32Alphabet.all (fun c => c.toNat < 128) = true := by decide
  unfold base32Digit
  rw [List.getD_eq_getElem?_getD]
  cases hdigit : base32Alphabet[Nat.ofDigits 2
      (group ++ List.replicate (5 - group.length) 0).reverse]? with
  | none => decide
  | some digit => exact of_decide_eq_true (List.all_eq_true.mp hall digit (List.mem_of_getElem? hdigit))

variable {ρ : Type} [RandomSource ρ]

theorem isAsciiText_canary {tenantId : UUID} {startSequence : Nat} {users : List SyntheticUserSpec}
    {rng : ρ} {marker : Marker} (h : marker ∈ generateMarkers tenantId startSequence users rng)
    (htype : marker.markerType = .hardCanary) : IsAsciiText marker.plaintext := by
  have hrun : List.Forall₂
      (fun _ (marker : Marker) => marker.markerType = .hardCanary → IsAsciiText marker.plaintext)
      markerKinds.zipIdx (generateMarkers tenantId startSequence users rng) := by
    refine forall₂_mapM _ (fun entry _ rng htype => ?_) rng
    obtain ⟨⟨markerType, localIndex⟩, position⟩ := entry
    obtain rfl : markerType = .hardCanary := htype
    exact isAsciiText_append.mpr ⟨isAsciiText_of_all (by decide), isAsciiText_b32encode _⟩
  obtain ⟨k, hk, rfl⟩ := List.getElem_of_mem h
  have hk' : k < markerKinds.zipIdx.length := hrun.length_eq ▸ hk
  exact hrun.get hk' hk htype

end Canaries

section Housed

variable [Hashlib] {ρ : Type} [RandomSource ρ] {scenario : Scenario} {index sequence : Nat}
  {tenantSpec : SyntheticTenantSpec} {tenants : List SyntheticTenantSpec}
  {documents : List CorpusDocument} {markers : List Marker}

omit [Hashlib] in
theorem pivotTemplate_end (kind label entity industry marker : String) :
    ∃ before, pivotTemplate kind label entity industry marker = before ++ (marker ++ ".") := by
  have hend : ∃ before, pivotTemplate kind label entity industry marker =
      before ++ marker ++ "." := by
    unfold pivotTemplate
    split_ifs <;> exact ⟨_, rfl⟩
  obtain ⟨before, heq⟩ := hend
  exact ⟨before, by rw [heq, String.append_assoc]⟩

/-- The part of a substrate that one tenant has. -/
structure TenantHoused (tenantSpec : SyntheticTenantSpec) (documents : List CorpusDocument)
    (markers : List Marker) : Prop where
  owned : ∀ document ∈ documents, document.tenantId = tenantSpec.tenantId
  owners : ∀ marker ∈ markers, marker.ownerTenantId = tenantSpec.tenantId
  housed : ∀ marker ∈ markers, ∀ location ∈ marker.plantedLocations,
    Houses documents marker location
  canaries : ∀ marker ∈ markers, marker.markerType = .hardCanary → IsAsciiText marker.plaintext

theorem buildTenant_housed
    (h : buildTenant ρ scenario index sequence tenantSpec = .ok (documents, markers)) :
    TenantHoused tenantSpec documents markers := by
  obtain ⟨pivots, locations, hpivots, hsofar, rfl⟩ := buildTenant_eq_ok h
  have hids : ((tenantMarkers ρ scenario index sequence tenantSpec).map Marker.markerId).Nodup :=
    nodup_tenantMarkers
  refine ⟨fun document hdocument => ?_, fun marker hmarker => ?_,
    fun marker hmarker location hlocation => ?_, fun marker hmarker htype => ?_⟩
  · obtain ⟨k, hk, rfl⟩ := List.getElem_of_mem hdocument
    exact (hsofar.documentAt.1 _ (List.getElem?_eq_getElem hk)).2.tenantId
  · obtain ⟨unplanted, hunplanted, rfl⟩ := List.mem_map.mp hmarker
    have howner : unplanted.ownerTenantId = tenantSpec.tenantId := mem_generateMarkers hunplanted
    exact howner
  · obtain ⟨unplanted, hunplanted, rfl⟩ := List.mem_map.mp hmarker
    have hlocated : location ∈ locations.getD unplanted.markerId [] := hlocation
    rw [hsofar.locations] at hlocated
    obtain ⟨position, hrange, hlocated⟩ := List.mem_flatMap.mp hlocated
    unfold locationsAt at hlocated
    split at hlocated
    · rename_i other entity hlookup
      split at hlocated
      · rename_i hid
        obtain ⟨document, hdocument⟩ := hsofar.documentAt.2 (List.mem_range.mp hrange)
        have hpivot := (hsofar.documentAt.1 document hdocument).2.pivot _ _ hlookup
        obtain ⟨field, -, rfl⟩ := List.mem_map.mp hlocated
        obtain ⟨place, hother, -⟩ := (pivotsOf_ok hpivots).found _ _ hlookup
        obtain rfl : other = unplanted :=
          List.inj_on_of_nodup_map hids (List.mem_of_getElem? hother) hunplanted hid
        refine ⟨document, List.mem_of_getElem? hdocument, ?_⟩
        rw [hpivot]
        exact ⟨rfl, (mem_generateMarkers hunplanted).symm, rfl, pivotTemplate_end _ _ _ _ _⟩
      · cases hlocated
    · cases hlocated
  · obtain ⟨unplanted, hunplanted, rfl⟩ := List.mem_map.mp hmarker
    have hcanary : unplanted.markerType = .hardCanary → IsAsciiText unplanted.plaintext :=
      isAsciiText_canary hunplanted
    exact hcanary htype

omit [Hashlib] in
theorem Houses.mono {more : List CorpusDocument} {marker : Marker} {location : PlantedLocation}
    (h : Houses documents marker location) (hsub : documents ⊆ more) :
    Houses more marker location := by
  obtain ⟨document, hdocument, hfound⟩ := h
  exact ⟨document, hsub hdocument, hfound⟩

theorem buildTenants_housed
    (h : buildTenants ρ scenario index sequence tenants = .ok (documents, markers)) :
    (∀ document ∈ documents, document.tenantId ∈ tenants.map SyntheticTenantSpec.tenantId) ∧
      (∀ marker ∈ markers, marker.ownerTenantId ∈ tenants.map SyntheticTenantSpec.tenantId) ∧
      (∀ marker ∈ markers, ∀ location ∈ marker.plantedLocations,
        Houses documents marker location) ∧
      ∀ marker ∈ markers, marker.markerType = .hardCanary → IsAsciiText marker.plaintext := by
  induction tenants generalizing index sequence documents markers with
  | nil =>
    cases h
    simp
  | cons tenantSpec tenants ih =>
    obtain ⟨first, firstMarkers, more, moreMarkers, hbuilt, hmore, rfl, rfl⟩ :=
      buildTenants_cons_eq_ok h
    obtain ⟨howned, howners, hhoused, hcanaries⟩ := ih hmore
    have hfirst := buildTenant_housed hbuilt
    refine ⟨List.forall_mem_append.mpr ⟨fun document hdocument => ?_, fun document hdocument => ?_⟩,
      List.forall_mem_append.mpr ⟨fun marker hmarker => ?_, fun marker hmarker => ?_⟩,
      List.forall_mem_append.mpr ⟨fun marker hmarker location hlocation => ?_,
        fun marker hmarker location hlocation => ?_⟩,
      List.forall_mem_append.mpr ⟨hfirst.canaries, hcanaries⟩⟩
    · rw [hfirst.owned document hdocument]
      exact List.mem_cons_self
    · exact List.mem_cons_of_mem _ (howned document hdocument)
    · rw [hfirst.owners marker hmarker]
      exact List.mem_cons_self
    · exact List.mem_cons_of_mem _ (howners marker hmarker)
    · exact (hfirst.housed marker hmarker location hlocation).mono (List.subset_append_left _ _)
    · exact (hhoused marker hmarker location hlocation).mono (List.subset_append_right _ _)

variable [JsonLimits] [FloatText]

/-- A substrate is seeded where no two of its tenants' ids begin with the same eight digits. -/
theorem seeded_buildSubstrate {substrate : Substrate}
    (h : buildSubstrate ρ scenario = .ok substrate)
    (hshort : (scenario.tenants.map fun tenantSpec => shortId tenantSpec.tenantId).Nodup) :
    substrate.Seeded := by
  have hbuilt := buildSubstrate_eq_ok h
  have htenants : substrate.tenants = scenario.tenants := by
    obtain ⟨built, -, h⟩ := bind_eq_ok.mp h
    obtain ⟨manifest, -, h⟩ := bind_eq_ok.mp h
    rw [← Except.ok.inj h]
  obtain ⟨howned, howners, hhoused, hcanaries⟩ := buildTenants_housed hbuilt
  rw [← htenants] at howned howners
  refine ⟨?_, ?_, ?_, howned, howners, hhoused, hcanaries⟩
  · rw [htenants]
    refine List.Nodup.of_map shortId ?_
    rwa [List.map_map]
  · rw [(buildTenants_docIds hbuilt).1, nodup_docIds_iff]
    exact hshort
  · rw [map_markerId_buildTenants hbuilt]
    have hrange : (List.range' 0 (markersPerTenant * scenario.tenants.length)).Nodup :=
      List.nodup_range'
    exact hrange.map markerIdOf_injective

end Housed

end Sectum
