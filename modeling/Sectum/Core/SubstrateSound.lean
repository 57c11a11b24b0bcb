import Sectum.Core.Substrate
import Sectum.Lib.Readable
import Sectum.Probes.Erasure
import Sectum.Spec.DumpSound

/-! What a substrate keeps: every marker is planted once, in a document of its own tenant, and when the
ids of the documents are unique. -/

namespace Sectum

open Py

section Markers

variable {ρ : Type} [RandomSource ρ]

theorem markerIdOf_injective : Function.Injective markerIdOf := by
  intro m n h
  have hdigits := (String.append_right_inj "mkr-").mp h
  exact padded_injective 5 hdigits

/-- What `generate_markers` keeps of a marker, whatever is drawn. -/
structure Generated (tenantId : UUID) (startSequence : Nat) (entry : (MarkerType × Nat) × Nat)
    (marker : Marker) : Prop where
  markerId : marker.markerId = markerIdOf (startSequence + entry.2)
  ownerTenantId : marker.ownerTenantId = tenantId

theorem generateMarkers_generated (tenantId : UUID) (startSequence : Nat)
    (users : List SyntheticUserSpec) (rng : ρ) :
    List.Forall₂ (Generated tenantId startSequence) markerKinds.zipIdx
      (generateMarkers tenantId startSequence users rng) :=
  forall₂_mapM _ (fun _ _ _ => ⟨rfl, rfl⟩) rng

theorem length_generateMarkers (tenantId : UUID) (startSequence : Nat)
    (users : List SyntheticUserSpec) (rng : ρ) :
    (generateMarkers tenantId startSequence users rng).length = markersPerTenant :=
  (generateMarkers_generated tenantId startSequence users rng).length_eq.symm

theorem map_markerId_generateMarkers (tenantId : UUID) (startSequence : Nat)
    (users : List SyntheticUserSpec) (rng : ρ) :
    (generateMarkers tenantId startSequence users rng).map Marker.markerId =
      (List.range' startSequence markersPerTenant).map markerIdOf := by
  have hrun : List.Forall₂ (fun entry marker => markerIdOf (startSequence + entry.2) =
      marker.markerId) markerKinds.zipIdx (generateMarkers tenantId startSequence users rng) :=
    (generateMarkers_generated tenantId startSequence users rng).imp fun _ _ h => h.markerId.symm
  have hids : (markerKinds.zipIdx.map fun entry => markerIdOf (startSequence + entry.2)) =
      (generateMarkers tenantId startSequence users rng).map Marker.markerId := by
    rw [← List.forall₂_eq_eq_eq, List.forall₂_map_left_iff, List.forall₂_map_right_iff]
    exact hrun
  rw [← hids, List.range'_eq_map_range, List.map_map]
  rfl

theorem mem_generateMarkers {tenantId : UUID} {startSequence : Nat} {users : List SyntheticUserSpec}
    {rng : ρ} {marker : Marker} (h : marker ∈ generateMarkers tenantId startSequence users rng) :
    marker.ownerTenantId = tenantId := by
  have hrun : List.Forall₂ (fun _ (marker : Marker) => marker.ownerTenantId = tenantId)
      markerKinds.zipIdx (generateMarkers tenantId startSequence users rng) :=
    (generateMarkers_generated tenantId startSequence users rng).imp fun _ _ h => h.ownerTenantId
  obtain ⟨k, hk, rfl⟩ := List.getElem_of_mem h
  have hk' : k < markerKinds.zipIdx.length := hrun.length_eq ▸ hk
  exact hrun.get hk' hk

end Markers

section Pivots

/-- Positions are spread over a corpus that has room for them: no two meet. -/
theorem pivotIndex_lt {size count first second : Nat} (hroom : count ≤ size) (hlt : first < second)
    (hsecond : second < count) : pivotIndex first size count < pivotIndex second size count := by
  unfold pivotIndex
  have hpos : 0 < count := by omega
  have hstep : first * size + count ≤ second * size := by
    calc first * size + count ≤ first * size + size := Nat.add_le_add_left hroom _
      _ = (first + 1) * size := (Nat.succ_mul first size).symm
      _ ≤ second * size := Nat.mul_le_mul_right size hlt
  have hnext : first * size / count + 1 = (first * size + count) / count :=
    (Nat.add_div_right (first * size) hpos).symm
  have hle := Nat.div_le_div_right (c := count) hstep
  omega

theorem pivotIndex_lt_size {size count position : Nat} (hroom : count ≤ size)
    (hposition : position < count) : pivotIndex position size count < size := by
  unfold pivotIndex
  rw [Nat.div_lt_iff_lt_mul (by omega), Nat.mul_comm size]
  exact Nat.mul_lt_mul_of_pos_right hposition (by omega)

theorem pivotIndex_injOn {size count first second : Nat} (hroom : count ≤ size)
    (hfirst : first < count) (hsecond : second < count)
    (h : pivotIndex first size count = pivotIndex second size count) : first = second := by
  obtain hlt | heq | hgt := Nat.lt_trichotomy first second
  · exact absurd h (pivotIndex_lt hroom hlt hsecond).ne
  · exact heq
  · exact absurd h (pivotIndex_lt hroom hgt hfirst).ne'

variable {markers : List Marker} {sharedEntities : List SharedEntity} {size : Nat}
  {pivots : Dict Nat (Marker × SharedEntity)}

theorem pivotAssignments_keys (markers : List Marker) (entity : Nat → SharedEntity)
    (hroom : markers.length ≤ size) :
    ((markers.zipIdx.map fun entry =>
      (pivotIndex entry.2 size markers.length, (entry.1, entity entry.2))).map Prod.fst).Nodup := by
  have hkeys : ((markers.zipIdx.map fun entry =>
      (pivotIndex entry.2 size markers.length, (entry.1, entity entry.2))).map Prod.fst) =
      (List.range markers.length).map fun position => pivotIndex position size markers.length := by
    rw [List.range_eq_range', ← List.zipIdx_map_snd 0 markers, List.map_map, List.map_map]
    rfl
  rw [hkeys]
  refine List.Nodup.map_on (fun first hfirst second hsecond h => ?_) List.nodup_range
  exact pivotIndex_injOn hroom (List.mem_range.mp hfirst) (List.mem_range.mp hsecond) h

/-- The pivots of a corpus: at the index of a position, the marker at that position. -/
structure PivotsOf (markers : List Marker) (size : Nat) (pivots : Dict Nat (Marker × SharedEntity)) :
    Prop where
  room : ∀ index entry, pivots.lookup index = some entry → markers.length ≤ size
  found : ∀ index entry, pivots.lookup index = some entry → ∃ position,
    markers[position]? = some entry.1 ∧ index = pivotIndex position size markers.length

theorem pivotsOf_ok (h : pivotAssignments markers sharedEntities size = .ok pivots) :
    PivotsOf markers size pivots := by
  have hempty : PivotsOf markers size ∅ := ⟨by simp, by simp⟩
  unfold pivotAssignments at h
  split at h
  · cases h
    exact hempty
  · rename_i first others
    split at h
    · cases h
      exact hempty
    · split at h
      · cases h
      · rename_i hroom
        obtain rfl := Except.ok.inj h
        refine ⟨fun _ _ _ => by omega, fun index entry hlookup => ?_⟩
        obtain ⟨⟨marker, position⟩, hmem, heq⟩ :=
          List.mem_map.mp (Dict.mem_of_lookup_ofItems hlookup)
        obtain ⟨rfl, rfl⟩ := Prod.mk.inj heq
        exact ⟨position, List.mem_zipIdx_iff_getElem?.mp hmem, rfl⟩

/-- Where there is a shared entity and room, each marker has its pivot. -/
theorem pivotAssignments_placed (hshared : sharedEntities ≠ []) (hmarkers : markers ≠ [])
    (hroom : markers.length ≤ size) :
    ∃ pivots, pivotAssignments markers sharedEntities size = .ok pivots ∧
      ∀ position marker, markers[position]? = some marker → ∃ entity,
        pivots.lookup (pivotIndex position size markers.length) = some (marker, entity) := by
  obtain ⟨first, others, rfl⟩ := List.exists_cons_of_ne_nil hshared
  unfold pivotAssignments
  simp only [if_neg hmarkers, if_neg (Nat.not_lt.mpr hroom)]
  refine ⟨_, rfl, fun position marker hmarker => ?_⟩
  let entity (position : Nat) : SharedEntity :=
    (first :: others).getD (position % (first :: others).length) first
  refine ⟨entity position, (Dict.lookup_ofItems (pivotAssignments_keys markers entity hroom)).mpr ?_⟩
  exact List.mem_map.mpr ⟨(marker, position), List.mem_zipIdx_iff_getElem?.mpr hmarker, rfl⟩

end Pivots

section Corpus

variable {ρ : Type} [RandomSource ρ] {tenantSpec : SyntheticTenantSpec} {markers : List Marker}
  {pivots : Dict Nat (Marker × SharedEntity)}

/-- The document at an index of a corpus. -/
structure DocumentAt (tenantSpec : SyntheticTenantSpec) (pivots : Dict Nat (Marker × SharedEntity))
    (index : Nat) (document : CorpusDocument) : Prop where
  docId : document.docId = docIdOf tenantSpec.tenantId index
  tenantId : document.tenantId = tenantSpec.tenantId
  pivot : ∀ marker entity, pivots.lookup index = some (marker, entity) →
    document = pivotDocument tenantSpec index marker entity
  filler : pivots.lookup index = none → document.markerIds = []

/-- What the document at an index adds to the locations of a marker. -/
def locationsAt (tenantSpec : SyntheticTenantSpec) (pivots : Dict Nat (Marker × SharedEntity))
    (markerId : String) (index : Nat) : List PlantedLocation :=
  match pivots.lookup index with
  | some (marker, _) =>
    if marker.markerId = markerId then plantedIn (docIdOf tenantSpec.tenantId index) else []
  | none => []

/-- The invariant of the loop of `generate_corpus`. -/
structure CorpusSoFar (tenantSpec : SyntheticTenantSpec) (pivots : Dict Nat (Marker × SharedEntity))
    (indices : List Nat) (corpus : Corpus) : Prop where
  documents : List.Forall₂ (DocumentAt tenantSpec pivots) indices corpus.documents
  locations : ∀ markerId, corpus.locations.getD markerId [] =
    indices.flatMap (locationsAt tenantSpec pivots markerId)

theorem CorpusSoFar.step (shared : Dict String (List String)) {indices : List Nat} {corpus : Corpus}
    (h : CorpusSoFar tenantSpec pivots indices corpus) (index : Nat) (rng : ρ) :
    CorpusSoFar tenantSpec pivots (indices ++ [index])
      ((corpusStep tenantSpec shared pivots corpus index).run rng).1 := by
  have happend : ∀ markerId, (indices ++ [index]).flatMap (locationsAt tenantSpec pivots markerId) =
      indices.flatMap (locationsAt tenantSpec pivots markerId) ++
        locationsAt tenantSpec pivots markerId index := by
    intro markerId
    rw [List.flatMap_append, List.flatMap_singleton]
  unfold corpusStep
  cases hpivot : pivots.lookup index with
  | none =>
    refine ⟨List.rel_append h.documents (List.Forall₂.cons ?_ List.Forall₂.nil), fun markerId => ?_⟩
    · exact ⟨rfl, rfl, by simp [hpivot], fun _ => rfl⟩
    · have hnone : locationsAt tenantSpec pivots markerId index = [] := by
        rw [locationsAt, hpivot]
      rw [happend, hnone, List.append_nil]
      exact h.locations markerId
  | some entry =>
    obtain ⟨marker, entity⟩ := entry
    refine ⟨List.rel_append h.documents (List.Forall₂.cons ?_ List.Forall₂.nil), fun markerId => ?_⟩
    · refine ⟨rfl, rfl, fun other otherEntity hother => ?_, fun hnone => ?_⟩
      · obtain ⟨rfl, rfl⟩ := Prod.mk.inj (Option.some.inj (hpivot.symm.trans hother))
        rfl
      · rw [hpivot] at hnone
        cases hnone
    · have hat : locationsAt tenantSpec pivots markerId index =
          if marker.markerId = markerId then plantedIn (docIdOf tenantSpec.tenantId index)
          else [] := by
        rw [locationsAt, hpivot]
      rw [happend, hat, ← h.locations markerId]
      show ((corpus.locations.set marker.markerId _).getD markerId []) = _
      unfold Dict.getD
      by_cases hid : marker.markerId = markerId
      · subst hid
        rw [Dict.lookup_set_self, if_pos rfl]
        rfl
      · rw [Dict.lookup_set_ne _ _ (Ne.symm hid), if_neg hid, List.append_nil]

theorem generateCorpus_eq_ok {rng : ρ} {sharedEntities : List SharedEntity} {corpus : Corpus}
    (h : generateCorpus tenantSpec rng markers sharedEntities = .ok corpus) :
    ∃ pivots, pivotAssignments markers sharedEntities tenantSpec.corpusSize = .ok pivots ∧
      CorpusSoFar tenantSpec pivots (List.range tenantSpec.corpusSize) corpus := by
  obtain ⟨pivots, hpivots, heq⟩ := bind_eq_ok.mp h
  refine ⟨pivots, hpivots, ?_⟩
  rw [← Except.ok.inj heq]
  refine foldlM_induct ⟨List.Forall₂.nil, fun markerId => ?_⟩
    (fun _ index _ rng hsofar => hsofar.step (sharedValues sharedEntities) index rng) _ rng
  unfold Dict.getD
  cases hlookup : (Dict.ofItems (markers.map fun marker =>
      (marker.markerId, ([] : List PlantedLocation)))).lookup markerId with
  | none => rfl
  | some value =>
    obtain ⟨marker, -, heq⟩ := List.mem_map.mp (Dict.mem_of_lookup_ofItems hlookup)
    rw [← (Prod.mk.inj heq).2]
    rfl

end Corpus

section Tenant

variable {tenantSpec : SyntheticTenantSpec} {pivots : Dict Nat (Marker × SharedEntity)}
  {corpus : Corpus} {markers : List Marker}

theorem CorpusSoFar.documentAt
    (h : CorpusSoFar tenantSpec pivots (List.range tenantSpec.corpusSize) corpus) {index : Nat} :
    (∀ document, corpus.documents[index]? = some document →
      index < tenantSpec.corpusSize ∧ DocumentAt tenantSpec pivots index document) ∧
    (index < tenantSpec.corpusSize → ∃ document, corpus.documents[index]? = some document) := by
  have hlength : tenantSpec.corpusSize = corpus.documents.length := by
    simpa using h.documents.length_eq
  constructor
  · intro document hdocument
    obtain ⟨hlt, rfl⟩ := List.getElem?_eq_some_iff.mp hdocument
    have hrange : index < (List.range tenantSpec.corpusSize).length := by
      rw [List.length_range]
      omega
    have hat := h.documents.get hrange hlt
    simp only [List.get_eq_getElem, List.getElem_range] at hat
    exact ⟨by omega, hat⟩
  · intro hlt
    exact ⟨_, List.getElem?_eq_getElem (hlength ▸ hlt)⟩

theorem CorpusSoFar.docIds
    (h : CorpusSoFar tenantSpec pivots (List.range tenantSpec.corpusSize) corpus) :
    corpus.documents.map CorpusDocument.docId =
      (List.range tenantSpec.corpusSize).map (docIdOf tenantSpec.tenantId) := by
  rw [eq_comm, ← List.forall₂_eq_eq_eq, List.forall₂_map_left_iff, List.forall₂_map_right_iff]
  exact h.documents.imp fun _ _ hat => hat.docId.symm

theorem shortId_length (tenantId : UUID) : (shortId tenantId).toList.length = 8 := by
  have hhex : tenantId.hex.toList.length = 32 := hex_length (by decide) tenantId.bits.isLt
  rw [shortId, sliceTo, String.toList_ofList, List.length_take, hhex]
  rfl

theorem docIdOf_inj {tenantId other : UUID} {index index' : Nat} :
    docIdOf tenantId index = docIdOf other index' ↔
      shortId tenantId = shortId other ∧ index = index' := by
  constructor
  · intro h
    have htext := congrArg String.toList h
    simp only [docIdOf, String.toList_append, List.append_assoc] at htext
    have hshort := List.append_cancel_left htext
    obtain ⟨hids, hrest⟩ := List.append_inj hshort
      ((shortId_length tenantId).trans (shortId_length other).symm)
    have hdigits := String.toList_inj.mp (List.append_cancel_left hrest)
    exact ⟨String.toList_inj.mp hids, padded_injective 4 hdigits⟩
  · rintro ⟨hids, rfl⟩
    rw [docIdOf, docIdOf, hids]

theorem CorpusSoFar.nodup_docIds
    (h : CorpusSoFar tenantSpec pivots (List.range tenantSpec.corpusSize) corpus) :
    (corpus.documents.map CorpusDocument.docId).Nodup := by
  rw [h.docIds]
  exact List.nodup_range.map fun _ _ heq => (docIdOf_inj.mp heq).2

theorem flatMap_eq_single {α β : Type} {items : List α} (hnodup : items.Nodup) {a : α}
    (ha : a ∈ items) {f : α → List β} (h : ∀ b ∈ items, b ≠ a → f b = []) :
    items.flatMap f = f a := by
  obtain ⟨before, after, rfl⟩ := List.append_of_mem ha
  rw [List.nodup_middle, List.nodup_cons] at hnodup
  have hnone : ∀ b ∈ before ++ after, f b = [] := fun b hb =>
    h b (by simp only [List.mem_append, List.mem_cons] at hb ⊢; tauto) fun heq =>
      hnodup.1 (heq ▸ hb)
  obtain ⟨hbefore, hafter⟩ := List.forall_mem_append.mp hnone
  rw [List.flatMap_append, List.flatMap_cons, List.flatMap_eq_nil_iff.mpr hbefore,
    List.flatMap_eq_nil_iff.mpr hafter, List.nil_append, List.append_nil]

/-- A marker with an id of its own is planted in the document at its pivot. -/
theorem CorpusSoFar.locations_of_pivot
    (h : CorpusSoFar tenantSpec pivots (List.range tenantSpec.corpusSize) corpus)
    (hpivots : PivotsOf markers tenantSpec.corpusSize pivots)
    (hids : (markers.map Marker.markerId).Nodup) {position : Nat} {marker : Marker}
    {entity : SharedEntity} (hmarker : markers[position]? = some marker)
    (hplaced : pivots.lookup (pivotIndex position tenantSpec.corpusSize markers.length) =
      some (marker, entity)) :
    corpus.locations.getD marker.markerId [] = plantedIn (docIdOf tenantSpec.tenantId
      (pivotIndex position tenantSpec.corpusSize markers.length)) := by
  have hposition : position < markers.length := (List.getElem?_eq_some_iff.mp hmarker).1
  have hroom := hpivots.room _ _ hplaced
  rw [h.locations, flatMap_eq_single List.nodup_range
    (List.mem_range.mpr (pivotIndex_lt_size hroom hposition)) fun index _ hne => ?_]
  · rw [locationsAt, hplaced]
    exact if_pos rfl
  · unfold locationsAt
    split
    · rename_i other otherEntity hother
      refine if_neg fun hsame => hne ?_
      obtain ⟨position', hother', rfl⟩ := hpivots.found _ _ hother
      have hids' : (markers.map Marker.markerId)[position']? =
          (markers.map Marker.markerId)[position]? := by
        rw [List.getElem?_map, List.getElem?_map, hother', hmarker]
        exact congrArg some hsame
      have hlt : position' < (markers.map Marker.markerId).length := by
        rw [List.length_map]
        exact (List.getElem?_eq_some_iff.mp hother').1
      rw [(List.getElem?_inj hlt hids).mp hids']
    · rfl

end Tenant

section Planted

/-- A marker is planted in the body, the title and the metadata of this document, which carries no
other. -/
structure PlantedIn (document : CorpusDocument) (marker : Marker) : Prop where
  locations : marker.plantedLocations = plantedIn document.docId
  markerIds : document.markerIds = [marker.markerId]
  ownerUserId : document.ownerUserId = marker.ownerUserId
  ownerTenantId : document.tenantId = marker.ownerTenantId
  body : marker.plaintext.toList <:+: document.content.toList
  title : marker.plaintext.toList <:+: document.title.toList
  metadata : document.metadata.lookup "marker_ref" = some marker.plaintext

/-- The part of a substrate that a tenant of its scenario has: its documents and markers, and the
index of the document of each marker. -/
structure TenantPart where
  documents : List CorpusDocument
  markers : List Marker
  indices : List Nat

/-- Every marker of a part has one document of it, and no other document has a marker. -/
structure TenantPart.Planted (tenantSpec : SyntheticTenantSpec) (part : TenantPart) : Prop where
  size : part.documents.length = tenantSpec.corpusSize
  documents : ∀ document ∈ part.documents, document.tenantId = tenantSpec.tenantId
  docIds : (part.documents.map CorpusDocument.docId).Nodup
  indices : part.indices.Nodup
  markers : List.Forall₂ (fun index marker => ∃ document, part.documents[index]? = some document ∧
    PlantedIn document marker) part.indices part.markers
  others : ∀ index document, part.documents[index]? = some document → index ∉ part.indices →
    document.markerIds = []

theorem pivotTemplate_marker (kind label entity industry marker : String) :
    marker.toList <:+: (pivotTemplate kind label entity industry marker).toList := by
  have hend : ∃ before, pivotTemplate kind label entity industry marker =
      before ++ marker ++ "." := by
    unfold pivotTemplate
    split_ifs <;> exact ⟨_, rfl⟩
  obtain ⟨before, heq⟩ := hend
  rw [heq, String.toList_append, String.toList_append]
  exact List.infix_append _ _ _

variable [Hashlib]

theorem plantedIn_pivotDocument {scenario : Scenario} {tenantSpec : SyntheticTenantSpec}
    {locations : Dict String (List PlantedLocation)} {index : Nat} {marker : Marker}
    (entity : SharedEntity) (howner : marker.ownerTenantId = tenantSpec.tenantId)
    (hlocations : locations.getD marker.markerId [] =
      plantedIn (docIdOf tenantSpec.tenantId index)) :
    PlantedIn (pivotDocument tenantSpec index marker entity) (plant scenario locations marker) where
  locations := hlocations
  markerIds := rfl
  ownerUserId := rfl
  ownerTenantId := howner.symm
  body := pivotTemplate_marker _ _ _ _ _
  title := by
    show marker.plaintext.toList <:+: (_ ++ " (ref " ++ marker.plaintext ++ ")").toList
    rw [String.toList_append, String.toList_append]
    exact List.infix_append _ _ _
  metadata := Dict.lookup_set_self _ _ _

variable {ρ : Type} [RandomSource ρ] {scenario : Scenario} {index sequence : Nat}
  {tenantSpec : SyntheticTenantSpec} {documents : List CorpusDocument} {markers : List Marker}

theorem nodup_tenantMarkers :
    ((tenantMarkers ρ scenario index sequence tenantSpec).map Marker.markerId).Nodup := by
  rw [tenantMarkers, map_markerId_generateMarkers]
  have hrange : (List.range' sequence markersPerTenant).Nodup := List.nodup_range'
  exact hrange.map markerIdOf_injective

theorem buildTenant_eq_ok
    (h : buildTenant ρ scenario index sequence tenantSpec = .ok (documents, markers)) :
    ∃ pivots locations, pivotAssignments (tenantMarkers ρ scenario index sequence tenantSpec)
        scenario.sharedEntities tenantSpec.corpusSize = .ok pivots ∧
      CorpusSoFar tenantSpec pivots (List.range tenantSpec.corpusSize) ⟨documents, locations⟩ ∧
      markers = (tenantMarkers ρ scenario index sequence tenantSpec).map (plant scenario locations) := by
  obtain ⟨corpus, hcorpus, heq⟩ := bind_eq_ok.mp h
  obtain ⟨rfl, rfl⟩ := Prod.mk.inj (Except.ok.inj heq)
  obtain ⟨pivots, hpivots, hsofar⟩ := generateCorpus_eq_ok hcorpus
  exact ⟨pivots, corpus.locations, hpivots, hsofar, rfl⟩

theorem map_markerId_buildTenant
    (h : buildTenant ρ scenario index sequence tenantSpec = .ok (documents, markers)) :
    markers.map Marker.markerId = (List.range' sequence markersPerTenant).map markerIdOf := by
  obtain ⟨_, locations, -, -, rfl⟩ := buildTenant_eq_ok h
  rw [List.map_map, ← map_markerId_generateMarkers tenantSpec.tenantId sequence tenantSpec.users
    (deriveRng scenario.seed ["markers", toString index] : ρ)]
  rfl

/-- A tenant's part, where there is a shared entity and room for the markers. -/
theorem buildTenant_planted (hshared : scenario.sharedEntities ≠ [])
    (hroom : markersPerTenant ≤ tenantSpec.corpusSize)
    (h : buildTenant ρ scenario index sequence tenantSpec = .ok (documents, markers)) :
    ∃ indices, TenantPart.Planted tenantSpec ⟨documents, markers, indices⟩ := by
  obtain ⟨pivots, locations, hpivots, hsofar, rfl⟩ := buildTenant_eq_ok h
  have hids : ((tenantMarkers ρ scenario index sequence tenantSpec).map Marker.markerId).Nodup :=
    nodup_tenantMarkers
  have howner : ∀ marker ∈ tenantMarkers ρ scenario index sequence tenantSpec,
      marker.ownerTenantId = tenantSpec.tenantId := fun _ hmarker => mem_generateMarkers hmarker
  have hlength : (tenantMarkers ρ scenario index sequence tenantSpec).length = markersPerTenant :=
    length_generateMarkers _ _ _ _
  generalize tenantMarkers ρ scenario index sequence tenantSpec = unplanted at *
  have hroom' : unplanted.length ≤ tenantSpec.corpusSize := hlength ▸ hroom
  have hne : unplanted ≠ [] := by
    rintro rfl
    cases hlength
  obtain ⟨pivots', hpivots', hplaced⟩ := pivotAssignments_placed hshared hne hroom'
  obtain rfl : pivots = pivots' := Except.ok.inj (hpivots.symm.trans hpivots')
  have hpivotsOf := pivotsOf_ok hpivots
  refine ⟨(List.range unplanted.length).map fun position =>
    pivotIndex position tenantSpec.corpusSize unplanted.length, ?_, ?_, hsofar.nodup_docIds, ?_, ?_, ?_⟩
  · exact hsofar.documents.length_eq.symm.trans List.length_range
  · intro document hdocument
    obtain ⟨k, hk, rfl⟩ := List.getElem_of_mem hdocument
    exact (hsofar.documentAt.1 _ (List.getElem?_eq_getElem hk)).2.tenantId
  · refine List.Nodup.map_on (fun first hfirst second hsecond heq => ?_) List.nodup_range
    exact pivotIndex_injOn hroom' (List.mem_range.mp hfirst) (List.mem_range.mp hsecond) heq
  · rw [List.forall₂_map_left_iff, List.forall₂_map_right_iff, List.forall₂_iff_get]
    refine ⟨List.length_range, fun position hrange hposition => ?_⟩
    have hmarker : unplanted[position]? = some unplanted[position] :=
      List.getElem?_eq_getElem hposition
    obtain ⟨entity, hlookup⟩ := hplaced position _ hmarker
    obtain ⟨document, hdocument⟩ :=
      hsofar.documentAt.2 (pivotIndex_lt_size hroom' hposition)
    simp only [List.get_eq_getElem, List.getElem_range]
    refine ⟨document, hdocument, ?_⟩
    rw [(hsofar.documentAt.1 document hdocument).2.pivot _ _ hlookup]
    exact plantedIn_pivotDocument entity (howner _ (List.getElem_mem hposition))
      (hsofar.locations_of_pivot hpivotsOf hids hmarker hlookup)
  · intro index document hdocument hother
    refine (hsofar.documentAt.1 document hdocument).2.filler (Option.eq_none_iff_forall_ne_some.mpr ?_)
    intro entry hentry
    obtain ⟨position, hposition, rfl⟩ := hpivotsOf.found index entry hentry
    exact hother (List.mem_map.mpr ⟨position,
      List.mem_range.mpr (List.getElem?_eq_some_iff.mp hposition).1, rfl⟩)

theorem buildTenant_returns (hshared : scenario.sharedEntities ≠ [])
    (hroom : markersPerTenant ≤ tenantSpec.corpusSize) :
    ∃ built, buildTenant ρ scenario index sequence tenantSpec = .ok built := by
  have hlength : (tenantMarkers ρ scenario index sequence tenantSpec).length = markersPerTenant :=
    length_generateMarkers _ _ _ _
  have hne : tenantMarkers ρ scenario index sequence tenantSpec ≠ [] := by
    intro hnil
    rw [hnil] at hlength
    cases hlength
  obtain ⟨pivots, hpivots, -⟩ := pivotAssignments_placed hshared hne (hlength ▸ hroom)
  unfold buildTenant generateCorpus
  dsimp only
  rw [hpivots]
  exact ⟨_, rfl⟩

variable {tenants : List SyntheticTenantSpec}

theorem buildTenants_cons_eq_ok
    (h : buildTenants ρ scenario index sequence (tenantSpec :: tenants) = .ok (documents, markers)) :
    ∃ first firstMarkers more moreMarkers,
      buildTenant ρ scenario index sequence tenantSpec = .ok (first, firstMarkers) ∧
      buildTenants ρ scenario (index + 1) (sequence + markersPerTenant) tenants =
        .ok (more, moreMarkers) ∧
      documents = first ++ more ∧ markers = firstMarkers ++ moreMarkers := by
  obtain ⟨⟨first, firstMarkers⟩, hfirst, h⟩ := bind_eq_ok.mp h
  obtain ⟨⟨more, moreMarkers⟩, hmore, heq⟩ := bind_eq_ok.mp h
  obtain ⟨rfl, rfl⟩ := Prod.mk.inj (Except.ok.inj heq)
  have hlength : firstMarkers.length = markersPerTenant := by
    have hids := congrArg List.length (map_markerId_buildTenant hfirst)
    simpa using hids
  exact ⟨first, firstMarkers, more, moreMarkers, hfirst, hlength ▸ hmore, rfl, rfl⟩

theorem buildTenants_planted (hshared : scenario.sharedEntities ≠ [])
    (hroom : ∀ tenantSpec ∈ tenants, markersPerTenant ≤ tenantSpec.corpusSize)
    (h : buildTenants ρ scenario index sequence tenants = .ok (documents, markers)) :
    ∃ parts : List TenantPart, List.Forall₂ TenantPart.Planted tenants parts ∧
      documents = parts.flatMap TenantPart.documents ∧ markers = parts.flatMap TenantPart.markers := by
  induction tenants generalizing index sequence documents markers with
  | nil =>
    cases h
    exact ⟨[], List.Forall₂.nil, rfl, rfl⟩
  | cons tenantSpec tenants ih =>
    obtain ⟨hfirst, hothers⟩ := List.forall_mem_cons.mp hroom
    obtain ⟨first, firstMarkers, more, moreMarkers, hbuilt, hmore, rfl, rfl⟩ :=
      buildTenants_cons_eq_ok h
    obtain ⟨indices, hplanted⟩ := buildTenant_planted hshared hfirst hbuilt
    obtain ⟨parts, hparts, rfl, rfl⟩ := ih hothers hmore
    exact ⟨⟨first, firstMarkers, indices⟩ :: parts, List.Forall₂.cons hplanted hparts, rfl, rfl⟩

theorem buildTenants_returns (hshared : scenario.sharedEntities ≠ [])
    (hroom : ∀ tenantSpec ∈ tenants, markersPerTenant ≤ tenantSpec.corpusSize) :
    ∃ built, buildTenants ρ scenario index sequence tenants = .ok built := by
  induction tenants generalizing index sequence with
  | nil => exact ⟨_, rfl⟩
  | cons tenantSpec tenants ih =>
    obtain ⟨hfirst, hothers⟩ := List.forall_mem_cons.mp hroom
    obtain ⟨⟨first, firstMarkers⟩, hbuilt⟩ := buildTenant_returns (ρ := ρ) hshared hfirst
    obtain ⟨⟨more, moreMarkers⟩, hmore⟩ := ih hothers
    unfold buildTenants
    rw [hbuilt]
    simp only [bind, Except.bind]
    rw [hmore]
    exact ⟨_, rfl⟩

theorem map_markerId_buildTenants
    (h : buildTenants ρ scenario index sequence tenants = .ok (documents, markers)) :
    markers.map Marker.markerId =
      (List.range' sequence (markersPerTenant * tenants.length)).map markerIdOf := by
  induction tenants generalizing index sequence documents markers with
  | nil =>
    cases h
    rfl
  | cons tenantSpec tenants ih =>
    obtain ⟨first, firstMarkers, more, moreMarkers, hbuilt, hmore, rfl, rfl⟩ :=
      buildTenants_cons_eq_ok h
    rw [List.map_append, map_markerId_buildTenant hbuilt, ih hmore, ← List.map_append,
      List.range'_append_1, List.length_cons, Nat.mul_succ, Nat.add_comm]

end Planted

section Dump

theorem SyntheticUserSpec.dump_wellFormed [FloatText] (user : SyntheticUserSpec) :
    user.dump.WellFormed := by
  apply Json.WellFormed.object
  · show ["user_id", "display_name"].Nodup
    decide
  · simp only [List.forall_mem_cons]
    exact ⟨.str _, .str _, nofun⟩

theorem SyntheticTenantSpec.dump_wellFormed [FloatText] (tenantSpec : SyntheticTenantSpec) :
    tenantSpec.dump.WellFormed := by
  apply Json.WellFormed.object
  · show ["tenant_id", "display_name", "industry", "locale", "corpus_size", "users"].Nodup
    decide
  · simp only [List.forall_mem_cons]
    exact ⟨.str _, .str _, .str _, .str _, .int _,
      dumpList_wellFormed fun user _ => user.dump_wellFormed, nofun⟩

theorem SharedEntity.dump_wellFormed [FloatText] (entity : SharedEntity) :
    entity.dump.WellFormed := by
  apply Json.WellFormed.object
  · show ["kind", "value"].Nodup
    decide
  · simp only [List.forall_mem_cons]
    exact ⟨.str _, .str _, nofun⟩

theorem Scenario.dump_wellFormed [FloatText] (scenario : Scenario) : scenario.dump.WellFormed := by
  apply Json.WellFormed.object
  · show ["scenario_id", "seed", "tenants", "corpus_profile", "shared_entities",
      "embedding_models", "schema_version"].Nodup
    decide
  · simp only [List.forall_mem_cons]
    exact ⟨.str _, .int _, dumpList_wellFormed fun tenantSpec _ => tenantSpec.dump_wellFormed,
      .str _, dumpList_wellFormed fun entity _ => entity.dump_wellFormed,
      dumpList_wellFormed fun _ _ => .str _, .str _, nofun⟩

theorem SyntheticTenantSpec.dump_texts (tenantSpec : SyntheticTenantSpec) :
    tenantSpec.dump.Strings IsText := by
  have huser : ∀ user : SyntheticUserSpec, user.dump.Strings IsText := by
    intro user
    apply object_texts
    simp only [List.forall_mem_cons]
    exact ⟨text_texts _, text_texts _, nofun⟩
  apply object_texts
  simp only [List.forall_mem_cons]
  exact ⟨text_texts _, text_texts _, text_texts _, text_texts _, .int _, dumpList_texts huser _,
    nofun⟩

theorem Scenario.dump_texts (scenario : Scenario) : scenario.dump.Strings IsText := by
  have hentity : ∀ entity : SharedEntity, entity.dump.Strings IsText := by
    intro entity
    apply object_texts
    simp only [List.forall_mem_cons]
    exact ⟨text_texts _, text_texts _, nofun⟩
  apply object_texts
  simp only [List.forall_mem_cons]
  exact ⟨text_texts _, .int _, dumpList_texts SyntheticTenantSpec.dump_texts _, text_texts _,
    dumpList_texts hentity _, dumpList_texts text_texts _, text_texts _, nofun⟩

end Dump

section Substrate

variable [Hashlib] [JsonLimits] [FloatText] {ρ : Type} [RandomSource ρ] {scenario : Scenario}

theorem buildSubstrate_eq_ok {substrate : Substrate}
    (h : buildSubstrate ρ scenario = .ok substrate) :
    buildTenants ρ scenario 0 0 scenario.tenants =
      .ok (substrate.documents, substrate.manifest.markers) := by
  obtain ⟨⟨documents, markers⟩, hbuilt, h⟩ := bind_eq_ok.mp h
  obtain ⟨manifest, hmanifest, h⟩ := bind_eq_ok.mp h
  obtain ⟨hash, -, hmanifest⟩ := bind_eq_ok.mp (mapError_eq_ok.mp hmanifest)
  obtain rfl := Except.ok.inj hmanifest
  obtain rfl := Except.ok.inj h
  exact hbuilt

theorem buildSubstrate_returns :
    (∃ substrate, buildSubstrate ρ scenario = .ok substrate) ↔
      (∃ built, buildTenants ρ scenario 0 0 scenario.tenants = .ok built) ∧
        JsonText.refusal JsonText.canonical JsonLimits.depth scenario.dump = none := by
  rw [← canonicalHash_returns scenario.dump_wellFormed scenario.dump_texts]
  unfold buildSubstrate buildManifest
  cases buildTenants ρ scenario 0 0 scenario.tenants with
  | error e => simp [bind, Except.bind]
  | ok built =>
    cases canonicalHash scenario.dump with
    | error e => simp [bind, Except.bind, Except.mapError]
    | ok hash => simp [bind, Except.bind, Except.mapError, pure, Except.pure]

/-- Where there is a shared entity and every corpus has room for its tenant's markers, a substrate is
built whenever the scenario can be written, of parts in which every marker is planted once, and no two
markers have one id. -/
theorem markers_planted_once (hshared : scenario.sharedEntities ≠ [])
    (hroom : ∀ tenantSpec ∈ scenario.tenants, markersPerTenant ≤ tenantSpec.corpusSize) :
    ((∃ substrate, buildSubstrate ρ scenario = .ok substrate) ↔
      JsonText.refusal JsonText.canonical JsonLimits.depth scenario.dump = none) ∧
    ∀ substrate, buildSubstrate ρ scenario = .ok substrate →
      (substrate.manifest.markers.map Marker.markerId).Nodup ∧
      ∃ parts : List TenantPart, List.Forall₂ TenantPart.Planted scenario.tenants parts ∧
        substrate.documents = parts.flatMap TenantPart.documents ∧
        substrate.manifest.markers = parts.flatMap TenantPart.markers := by
  refine ⟨?_, fun substrate h => ⟨?_, buildTenants_planted hshared hroom (buildSubstrate_eq_ok h)⟩⟩
  · rw [buildSubstrate_returns]
    exact and_iff_right (buildTenants_returns hshared hroom)
  · rw [map_markerId_buildTenants (buildSubstrate_eq_ok h)]
    have hrange : (List.range' 0 (markersPerTenant * scenario.tenants.length)).Nodup :=
      List.nodup_range'
    exact hrange.map markerIdOf_injective

end Substrate

section DocIds

variable [Hashlib] {ρ : Type} [RandomSource ρ] {scenario : Scenario} {index sequence : Nat}
  {tenantSpec : SyntheticTenantSpec} {tenants : List SyntheticTenantSpec}
  {documents : List CorpusDocument} {markers : List Marker}

/-- A location of a marker names a document of its own tenant that carries it. -/
def Locates (documents : List CorpusDocument) (marker : Marker) (location : PlantedLocation) : Prop :=
  ∃ document ∈ documents, document.docId = location.docId ∧
    document.tenantId = marker.ownerTenantId ∧ document.markerIds = [marker.markerId]

theorem buildTenant_locates
    (h : buildTenant ρ scenario index sequence tenantSpec = .ok (documents, markers)) :
    ∀ marker ∈ markers, ∀ location ∈ marker.plantedLocations, Locates documents marker location := by
  obtain ⟨pivots, locations, hpivots, hsofar, rfl⟩ := buildTenant_eq_ok h
  intro marker hmarker location hlocation
  obtain ⟨unplanted, hunplanted, rfl⟩ := List.mem_map.mp hmarker
  have hlocated : location ∈ locations.getD unplanted.markerId [] := hlocation
  rw [hsofar.locations] at hlocated
  obtain ⟨position, hrange, hlocated⟩ := List.mem_flatMap.mp hlocated
  unfold locationsAt at hlocated
  split at hlocated
  · rename_i other entity hlookup
    split at hlocated
    · rename_i hid
      obtain ⟨document, hdocument⟩ := hsofar.documentAt.2 (List.mem_range.mp hrange)
      have hpivot := (hsofar.documentAt.1 document hdocument).2.pivot _ _ hlookup
      obtain ⟨field, -, rfl⟩ := List.mem_map.mp hlocated
      refine ⟨document, List.mem_of_getElem? hdocument, ?_, ?_, ?_⟩
      · rw [hpivot]
        rfl
      · rw [hpivot]
        exact (mem_generateMarkers hunplanted).symm
      · rw [hpivot]
        exact congrArg (fun id => [id]) hid
    · cases hlocated
  · cases hlocated

/-- The ids of a tenant's documents. -/
def docIdsOf (tenantSpec : SyntheticTenantSpec) : List String :=
  (List.range tenantSpec.corpusSize).map (docIdOf tenantSpec.tenantId)

theorem buildTenants_docIds
    (h : buildTenants ρ scenario index sequence tenants = .ok (documents, markers)) :
    documents.map CorpusDocument.docId = tenants.flatMap docIdsOf ∧
      ∀ marker ∈ markers, ∀ location ∈ marker.plantedLocations,
        Locates documents marker location := by
  induction tenants generalizing index sequence documents markers with
  | nil =>
    cases h
    exact ⟨rfl, List.forall_mem_nil _⟩
  | cons tenantSpec tenants ih =>
    obtain ⟨first, firstMarkers, more, moreMarkers, hbuilt, hmore, rfl, rfl⟩ :=
      buildTenants_cons_eq_ok h
    obtain ⟨hdocIds, hlocates⟩ := ih hmore
    obtain ⟨_, _, -, hsofar, -⟩ := buildTenant_eq_ok hbuilt
    refine ⟨?_, fun marker hmarker location hlocation => ?_⟩
    · rw [List.map_append, List.flatMap_cons, hsofar.docIds, hdocIds]
      rfl
    · rcases List.mem_append.mp hmarker with hmarker | hmarker
      · obtain ⟨document, hdocument, hfound⟩ :=
          buildTenant_locates hbuilt marker hmarker location hlocation
        exact ⟨document, List.mem_append_left _ hdocument, hfound⟩
      · obtain ⟨document, hdocument, hfound⟩ := hlocates marker hmarker location hlocation
        exact ⟨document, List.mem_append_right _ hdocument, hfound⟩

omit [Hashlib] in
/-- The documents of two tenants share no id exactly when the shortened ids of the tenants differ. -/
theorem disjoint_docIdsOf {tenantSpec other : SyntheticTenantSpec} :
    List.Disjoint (docIdsOf tenantSpec) (docIdsOf other) ↔
      shortId tenantSpec.tenantId ≠ shortId other.tenantId := by
  constructor
  · intro hdisjoint hshort
    have hfirst : docIdOf tenantSpec.tenantId 0 ∈ docIdsOf tenantSpec :=
      List.mem_map_of_mem (List.mem_range.mpr tenantSpec.corpusSize_pos)
    refine hdisjoint hfirst ?_
    rw [docIdOf_inj.mpr ⟨hshort, rfl⟩]
    exact List.mem_map_of_mem (List.mem_range.mpr other.corpusSize_pos)
  · intro hshort docId hmem hmem'
    obtain ⟨position, -, rfl⟩ := List.mem_map.mp hmem
    obtain ⟨position', -, heq⟩ := List.mem_map.mp hmem'
    exact hshort (docIdOf_inj.mp heq).1.symm

omit [Hashlib] in
theorem nodup_docIds_iff : (tenants.flatMap docIdsOf).Nodup ↔
    (tenants.map fun tenantSpec => shortId tenantSpec.tenantId).Nodup := by
  rw [List.nodup_flatMap]
  have hown : ∀ tenantSpec ∈ tenants, (docIdsOf tenantSpec).Nodup := fun _ _ =>
    List.nodup_range.map fun _ _ heq => (docIdOf_inj.mp heq).2
  rw [and_iff_right hown, List.Nodup, List.pairwise_map]
  exact ⟨fun h => h.imp disjoint_docIdsOf.mp, fun h => h.imp disjoint_docIdsOf.mpr⟩

/-- The documents of a substrate have ids of their own, and the scan of a marker finds its documents by
their ids. -/
structure Resolves (substrate : Substrate) : Prop where
  docIds : (substrate.documents.map CorpusDocument.docId).Nodup
  markers : ∀ {σ : Type} (probe : ErasureProbe σ), probe.substrate = substrate →
    ∀ marker ∈ substrate.manifest.markers, ∀ location ∈ marker.plantedLocations,
      ∃ document ∈ substrate.documents,
        probe.documents.lookup location.docId = some document ∧
        document.tenantId = marker.ownerTenantId ∧ marker.markerId ∈ document.markerIds ∧
        document.title ∈ markerQueries probe.documents marker

variable [JsonLimits] [FloatText]

/-- The ids of the documents are unique exactly when the first eight digits of the tenants' ids are,
and then every marker is found in a document of its own tenant. -/
theorem docIds_unique_iff {substrate : Substrate} (h : buildSubstrate ρ scenario = .ok substrate) :
    Resolves substrate ↔
      (scenario.tenants.map fun tenantSpec => shortId tenantSpec.tenantId).Nodup := by
  obtain ⟨hdocIds, hlocates⟩ := buildTenants_docIds (buildSubstrate_eq_ok h)
  rw [← nodup_docIds_iff, ← hdocIds]
  refine ⟨fun hresolves => hresolves.docIds, fun hnodup => ⟨hnodup, ?_⟩⟩
  rintro σ probe rfl marker hmarker location hlocation
  obtain ⟨document, hdocument, hid, htenant, hmarkerIds⟩ :=
    hlocates marker hmarker location hlocation
  have hlookup : probe.documents.lookup location.docId = some document := by
    have hkeys : ((probe.substrate.documents.map fun document =>
        (document.docId, document)).map Prod.fst).Nodup := by
      rw [List.map_map]
      exact hnodup
    rw [ErasureProbe.documents, Dict.lookup_ofItems hkeys, ← hid]
    exact List.mem_map_of_mem hdocument
  refine ⟨document, hdocument, hlookup, htenant, by simp [hmarkerIds], ?_⟩
  exact List.mem_filterMap.mpr ⟨location, hlocation, by rw [hlookup]; rfl⟩

end DocIds

section Sample

attribute [local instance] Hashlib.real JsonLimits.default FloatText.halves RandomSource.zeros

def sampleTenant (bits : BitVec 128) : SyntheticTenantSpec :=
  { tenantId := ⟨bits⟩, displayName := "Acme", industry := "retail", corpusSize := 7 }

/-- Two tenants and one shared entity. -/
def sampleScenario (bits bits' : BitVec 128) : Scenario :=
  { scenarioId := "scenario-1"
    seed := 7
    tenants := [sampleTenant bits, sampleTenant bits']
    sharedEntities := [⟨"person", "Alex Reyes"⟩] }

theorem sampleScenario_builds (bits bits' : BitVec 128) :
    ∃ substrate, buildSubstrate Unit (sampleScenario bits bits') = .ok substrate := by
  refine buildSubstrate_returns.mpr ⟨buildTenants_returns (List.cons_ne_nil _ _) ?_, rfl⟩
  simp [sampleScenario, sampleTenant, markersPerTenant, markersPerType, markerTypes]

theorem markers_planted_once_two : ∃ substrate,
    buildSubstrate Unit (sampleScenario 1 2) = .ok substrate ∧
      (substrate.manifest.markers.map Marker.markerId).Nodup ∧
      ∃ parts : List TenantPart,
        List.Forall₂ TenantPart.Planted [sampleTenant 1, sampleTenant 2] parts ∧
        substrate.documents = parts.flatMap TenantPart.documents ∧
        substrate.manifest.markers = parts.flatMap TenantPart.markers := by
  obtain ⟨substrate, hsubstrate⟩ := sampleScenario_builds 1 2
  exact ⟨substrate, hsubstrate, (markers_planted_once (ρ := Unit) (List.cons_ne_nil _ _) (by
    simp [sampleScenario, sampleTenant, markersPerTenant, markersPerType, markerTypes])).2
      substrate hsubstrate⟩

/-- Two tenants whose ids differ in the last digit alone share the ids of their documents. -/
theorem docIds_shared : ∃ scenario substrate,
    (scenario.tenants.map SyntheticTenantSpec.tenantId).Nodup ∧
      buildSubstrate Unit scenario = .ok substrate ∧ ¬Resolves substrate := by
  obtain ⟨substrate, hsubstrate⟩ := sampleScenario_builds 1 2
  refine ⟨sampleScenario 1 2, substrate, by decide, hsubstrate, fun hresolves => ?_⟩
  have hnodup := hresolves.docIds
  rw [(buildTenants_docIds (buildSubstrate_eq_ok hsubstrate)).1, nodup_docIds_iff] at hnodup
  exact absurd hnodup (by decide +kernel)

/-- Two tenants whose ids differ in the first digits. -/
theorem docIds_unique_two : ∃ substrate,
    buildSubstrate Unit (sampleScenario 1 0x80000000000000000000000000000000) = .ok substrate ∧ Resolves substrate := by
  obtain ⟨substrate, hsubstrate⟩ := sampleScenario_builds 1 0x80000000000000000000000000000000
  exact ⟨substrate, hsubstrate, (docIds_unique_iff hsubstrate).mpr (by decide +kernel)⟩

end Sample

end Sectum
