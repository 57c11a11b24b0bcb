import Sectum.Adapters.FakesIsolation
import Sectum.Core.RunnerContract
import Sectum.Core.SubstrateSound
import Sectum.Lib.Framed
import Sectum.Probes.Catalog
import Sectum.Probes.DetectionSound

/-! What the plans of the catalog ask: every principal to whom a target is foreign is asked for, no
other principal is, and what is planted is read afterwards by everyone to whom it is foreign.  So a
probe whose plan is not empty has tested a boundary, and a run of it accounts for every principal. -/

namespace Sectum

open Py

section Rest

variable {α β : Type}

/-- `P` holds of each of a list and of what stands behind it. -/
def ForallRest (P : α → List α → Prop) (xs : List α) : Prop :=
  ∀ before x rest, xs = before ++ x :: rest → P x rest

variable {P : α → List α → Prop}

theorem forallRest_of_mem {xs : List α} (h : ∀ x ∈ xs, ∀ rest, P x rest) : ForallRest P xs := by
  rintro before x rest rfl
  exact h x (List.mem_append_right _ List.mem_cons_self) rest

theorem forallRest_cons {x : α} {xs : List α} (hx : P x xs) (hxs : ForallRest P xs) :
    ForallRest P (x :: xs) := by
  intro before y rest heq
  cases before with
  | nil =>
    obtain ⟨rfl, rfl⟩ := List.cons.inj heq
    exact hx
  | cons z before =>
    obtain ⟨-, rfl⟩ := List.cons.inj heq
    exact hxs before y rest rfl

theorem forallRest_append (hmono : ∀ x rest more, P x rest → P x (rest ++ more)) {xs ys : List α}
    (hxs : ForallRest P xs) (hys : ForallRest P ys) : ForallRest P (xs ++ ys) := by
  induction xs with
  | nil => exact hys
  | cons x xs ih =>
    have htail : ForallRest P xs := fun before y rest heq =>
      hxs (x :: before) y rest (by rw [heq, List.cons_append])
    exact forallRest_cons (hmono _ _ _ (hxs [] x xs rfl)) (ih htail)

theorem forallRest_append_right {xs ys : List α} (hxs : ∀ x ∈ xs, ∀ rest, P x (rest ++ ys))
    (hys : ForallRest P ys) : ForallRest P (xs ++ ys) := by
  induction xs with
  | nil => exact hys
  | cons x xs ih =>
    obtain ⟨hx, hxs⟩ := List.forall_mem_cons.mp hxs
    exact forallRest_cons (hx xs) (ih hxs)

theorem forallRest_flatMap (hmono : ∀ x rest more, P x rest → P x (rest ++ more)) {ys : List β}
    {f : β → List α} (h : ∀ y ∈ ys, ForallRest P (f y)) : ForallRest P (ys.flatMap f) := by
  induction ys with
  | nil => exact forallRest_of_mem (by simp)
  | cons y ys ih =>
    obtain ⟨hy, hys⟩ := List.forall_mem_cons.mp h
    rw [List.flatMap_cons]
    exact forallRest_append hmono hy (ih hys)

theorem flatMap_eq_append_cons {f : α → List β} {xs : List α} {before later : List β} {y : β}
    (h : xs.flatMap f = before ++ y :: later) :
    ∃ done x todo first last, xs = done ++ x :: todo ∧ f x = first ++ y :: last ∧
      before = done.flatMap f ++ first := by
  induction xs generalizing before with
  | nil => simp at h
  | cons x xs ih =>
    rw [List.flatMap_cons, List.append_eq_append_iff] at h
    rcases h with ⟨between, rfl, hrest⟩ | ⟨last, hfirst, hrest⟩
    · obtain ⟨done, x', todo, first, last, rfl, hx', rfl⟩ := ih hrest
      exact ⟨x :: done, x', todo, first, last, rfl, hx', by simp⟩
    · cases last with
      | nil =>
        rw [List.append_nil] at hfirst
        have hrest' : xs.flatMap f = [] ++ y :: later := hrest.symm
        obtain ⟨done, x', todo, first, last, rfl, hx', hbefore⟩ := ih hrest'
        refine ⟨x :: done, x', todo, first, last, rfl, hx', ?_⟩
        rw [List.flatMap_cons, List.append_assoc, ← hbefore, List.append_nil, hfirst]
      | cons z last =>
        obtain ⟨rfl, -⟩ := List.cons.inj hrest
        exact ⟨[], x, xs, before, last, rfl, hfirst, rfl⟩

end Rest

section Numbered

def ProbeStep.request (step : ProbeStep) : Request := ⟨step.action, step.payload⟩

/-- A step as it was before it was numbered. -/
def ProbeStep.planned (step : ProbeStep) : PlannedStep := ⟨step.principal, step.request⟩

def PlannedStep.isPlant (step : PlannedStep) : Bool := step.request.action ∈ plantActions

theorem DetectingProbe.map_planned_numbered (probe : DetectingProbe) (steps : List PlannedStep) :
    (probe.numbered steps).map ProbeStep.planned = steps := by
  unfold numbered
  rw [List.map_map]
  conv_rhs => rw [← List.zipIdx_map_fst 0 steps]
  rfl

theorem DetectingProbe.planned_of_mem_numbered {probe : DetectingProbe} {steps : List PlannedStep}
    {step : ProbeStep} (h : step ∈ probe.numbered steps) : step.planned ∈ steps := by
  rw [← probe.map_planned_numbered steps]
  exact List.mem_map_of_mem h

theorem DetectingProbe.exists_mem_numbered (probe : DetectingProbe) {steps : List PlannedStep}
    {planned : PlannedStep} (h : planned ∈ steps) :
    ∃ step ∈ probe.numbered steps, step.planned = planned := by
  rw [← probe.map_planned_numbered steps] at h
  exact List.mem_map.mp h

theorem exists_planned {steps : List ProbeStep} {P : PlannedStep → Prop} :
    (∃ planned ∈ steps.map ProbeStep.planned, P planned) ↔ ∃ step ∈ steps, P step.planned := by
  simp only [List.mem_map, exists_exists_and_eq_and]

theorem DetectingProbe.nodup_stepIds (probe : DetectingProbe) (steps : List PlannedStep) :
    ((probe.numbered steps).map ProbeStep.stepId).Nodup := by
  have hids : (probe.numbered steps).map ProbeStep.stepId =
      (List.range steps.length).map fun position : Nat => probe.id ++ "-" ++ padded 4 position := by
    unfold numbered
    rw [List.map_map, List.range_eq_range', ← List.zipIdx_map_snd 0 steps, List.map_map]
    rfl
  rw [hids]
  refine List.nodup_range.map fun m n h => ?_
  exact padded_injective 4 ((String.append_right_inj _).mp h)

end Numbered

section Reading

/-- A text of the request reads the marker out. -/
def Request.Carries (request : Request) (marker : Marker) : Prop :=
  ∃ key text, request.payload.lookup key = some text ∧ isIn marker.plaintext text = true

/-- Some word stands in both texts. -/
def SpeaksOf (question text : String) : Prop :=
  ∃ word, word ≠ "" ∧ ' ' ∉ word.toList ∧ isIn (" " ++ word ++ " ") (" " ++ question ++ " ") = true ∧
    isIn (" " ++ word ++ " ") (" " ++ text ++ " ") = true

/-- A store that is asked for texts by what they say: how it takes a text, and how a question. -/
structure TextSearch where
  plant : String
  content : String
  question : String
  query : String

def textSearches : List TextSearch :=
  [⟨"vector.upsert", "content", "vector.query", "query"⟩,
    ⟨"memory.write", "text", "memory.recall", "query"⟩, ⟨"model.train", "text", "model.infer", "prompt"⟩]

/-- The question is for what the plant left: it names the key that the plant is kept under, or asks its
store with a word of the plant's text. -/
inductive Request.ReadsBack (question plant : Request) : Prop
  | keyed {key : String} (hplant : plant.action = "cache.set")
      (hquestion : question.action = "cache.get") (hkept : plant.payload.lookup "key" = some key)
      (hasked : question.payload.lookup "key" = some key)
  | worded {search : TextSearch} {text query : String} (hsearch : search ∈ textSearches)
      (hplant : plant.action = search.plant) (hquestion : question.action = search.question)
      (hkept : plant.payload.lookup search.content = some text)
      (hasked : question.payload.lookup search.query = some query) (hword : SpeaksOf query text)

theorem lookup_entry {entries : List (String × String)} {key value : String} (names : List String)
    (hnames : entries.map Prod.fst = names) (hnodup : names.Nodup) (hentry : (key, value) ∈ entries) :
    (Dict.ofItems entries).lookup key = some value := by
  subst hnames
  exact (Dict.lookup_ofItems hnodup).mpr hentry

theorem Request.carries_of_lookup {request : Request} {marker : Marker} {key before : String}
    (h : request.payload.lookup key = some (before ++ marker.plaintext)) : request.Carries marker :=
  ⟨key, before ++ marker.plaintext, h,
    isIn_append.mpr (.inr (.inl (isIn_eq_true.mpr List.infix_rfl)))⟩

/-- A word in the fixed words of a text, which something follows. -/
theorem speaksOf_append {question text : String} (word more : String) (hne : word ≠ "")
    (hblank : ' ' ∉ word.toList) (hquestion : isIn (" " ++ word ++ " ") (" " ++ question ++ " ") = true)
    (htext : isIn (" " ++ word ++ " ") (" " ++ text) = true) : SpeaksOf question (text ++ more) := by
  have hassoc : " " ++ (text ++ more) ++ " " = (" " ++ text) ++ (more ++ " ") := by
    simp only [String.append_assoc]
  refine ⟨word, hne, hblank, hquestion, ?_⟩
  rw [hassoc]
  exact isIn_append.mpr (.inl htext)

end Reading

section Against

variable (substrate : Substrate) (targets : List Marker)

/-- A plant is its owner's, carries a marker that is foreign to someone, and is read back later by
everyone to whom the marker is foreign. -/
def ReadLater (plant : PlannedStep) (rest : List PlannedStep) : Prop :=
  plant.isPlant = true → ∃ marker ∈ targets, plant.actor = marker.owner ∧
    plant.request.Carries marker ∧ substrate.observersOf marker ≠ [] ∧
      ∀ observer ∈ substrate.observersOf marker, ∃ step ∈ rest,
        step.isPlant = false ∧ step.actor = observer ∧ step.request.ReadsBack plant.request

/-- Steps that are to find targets where they are foreign. -/
structure StepsAgainst (steps : List PlannedStep) : Prop where
  judged : ∀ principal, (∃ step ∈ steps, step.isPlant = false ∧ step.actor = principal) ↔
    principal ∈ substrate.principals ∧ ∃ marker ∈ targets, isCrossPrincipal marker principal = true
  plants : ForallRest (ReadLater substrate targets) steps

variable {substrate targets}

theorem Substrate.mem_observersOf {marker : Marker} {principal : Principal} :
    principal ∈ substrate.observersOf marker ↔
      principal ∈ substrate.principals ∧ isCrossPrincipal marker principal = true := by
  unfold Substrate.observersOf
  rw [List.mem_filter]

theorem mem_crossPrincipalObservers {principals : List Principal} {principal : Principal} :
    principal ∈ crossPrincipalObservers targets principals ↔
      principal ∈ principals ∧ ∃ marker ∈ targets, isCrossPrincipal marker principal = true := by
  unfold crossPrincipalObservers
  rw [List.mem_filter, List.any_eq_true]

theorem readLater_of_read {step : PlannedStep} (h : step.isPlant = false)
    (rest : List PlannedStep) : ReadLater substrate targets step rest := by
  intro hplant
  rw [h] at hplant
  cases hplant

/-- What reads a plant back stays so where more is planned. -/
theorem ReadLater.mono (plant : PlannedStep) (rest more : List PlannedStep)
    (h : ReadLater substrate targets plant rest) :
    ReadLater substrate targets plant (rest ++ more) := by
  intro hplant
  obtain ⟨marker, hmarker, howner, hcarries, hobservers, hreads⟩ := h hplant
  refine ⟨marker, hmarker, howner, hcarries, hobservers, fun observer hobserver => ?_⟩
  obtain ⟨step, hstep, hread⟩ := hreads observer hobserver
  exact ⟨step, List.mem_append_left _ hstep, hread⟩

/-- A plan of reads. -/
theorem StepsAgainst.reads {steps : List PlannedStep} (hread : ∀ step ∈ steps, step.isPlant = false)
    (hactors : ∀ principal, (∃ step ∈ steps, step.actor = principal) ↔
      principal ∈ substrate.principals ∧
        ∃ marker ∈ targets, isCrossPrincipal marker principal = true) :
    StepsAgainst substrate targets steps where
  judged principal := by
    rw [← hactors]
    exact exists_congr fun step => and_congr_right fun hstep => and_iff_right (hread step hstep)
  plants := forallRest_of_mem fun step hstep rest => readLater_of_read (hread step hstep) rest

/-- Requests of which there is one at least, and that are no plants. -/
structure Asks (requests : List Request) : Prop where
  asked : requests ≠ []
  reads : ∀ request ∈ requests, request.action ∉ plantActions

theorem StepsAgainst.askedByMarker {markerType : MarkerType} {requests : Marker → List Request}
    (h : ∀ marker, Asks (requests marker)) :
    StepsAgainst substrate (substrate.markersOf markerType)
      (substrate.askedByMarker markerType requests) := by
  refine .reads (fun step hstep => ?_) fun principal => ?_
  · obtain ⟨marker, -, hstep⟩ := List.mem_flatMap.mp hstep
    obtain ⟨observer, -, hstep⟩ := List.mem_flatMap.mp hstep
    obtain ⟨request, hrequest, rfl⟩ := List.mem_map.mp hstep
    exact decide_eq_false ((h marker).reads request hrequest)
  · constructor
    · rintro ⟨step, hstep, rfl⟩
      obtain ⟨marker, hmarker, hstep⟩ := List.mem_flatMap.mp hstep
      obtain ⟨observer, hobserver, hstep⟩ := List.mem_flatMap.mp hstep
      obtain ⟨request, -, rfl⟩ := List.mem_map.mp hstep
      obtain ⟨hprincipal, hcross⟩ := Substrate.mem_observersOf.mp hobserver
      exact ⟨hprincipal, marker, hmarker, hcross⟩
    · rintro ⟨hprincipal, marker, hmarker, hcross⟩
      obtain ⟨request, hrequest⟩ := List.exists_mem_of_ne_nil _ (h marker).asked
      refine ⟨⟨principal, request⟩, List.mem_flatMap.mpr ⟨marker, hmarker, ?_⟩, rfl⟩
      exact List.mem_flatMap.mpr ⟨principal, Substrate.mem_observersOf.mpr ⟨hprincipal, hcross⟩,
        List.mem_map_of_mem hrequest⟩

theorem StepsAgainst.askedByEntity {requests : SharedEntity → List Request}
    (h : ∀ entity, Asks (requests entity)) :
    StepsAgainst substrate (substrate.scenario.sharedEntities.flatMap (markersNamingEntity substrate))
      (substrate.askedByEntity requests) := by
  refine .reads (fun step hstep => ?_) fun principal => ?_
  · obtain ⟨entity, -, hstep⟩ := List.mem_flatMap.mp hstep
    obtain ⟨observer, -, hstep⟩ := List.mem_flatMap.mp hstep
    obtain ⟨request, hrequest, rfl⟩ := List.mem_map.mp hstep
    exact decide_eq_false ((h entity).reads request hrequest)
  · constructor
    · rintro ⟨step, hstep, rfl⟩
      obtain ⟨entity, hentity, hstep⟩ := List.mem_flatMap.mp hstep
      obtain ⟨observer, hobserver, hstep⟩ := List.mem_flatMap.mp hstep
      obtain ⟨request, -, rfl⟩ := List.mem_map.mp hstep
      obtain ⟨hprincipal, marker, hmarker, hcross⟩ := mem_crossPrincipalObservers.mp hobserver
      exact ⟨hprincipal, marker, List.mem_flatMap.mpr ⟨entity, hentity, hmarker⟩, hcross⟩
    · rintro ⟨hprincipal, marker, hmarker, hcross⟩
      obtain ⟨entity, hentity, hmarker⟩ := List.mem_flatMap.mp hmarker
      obtain ⟨request, hrequest⟩ := List.exists_mem_of_ne_nil _ (h entity).asked
      refine ⟨⟨principal, request⟩, List.mem_flatMap.mpr ⟨entity, hentity, ?_⟩, rfl⟩
      exact List.mem_flatMap.mpr ⟨principal,
        mem_crossPrincipalObservers.mpr ⟨hprincipal, marker, hmarker, hcross⟩,
        List.mem_map_of_mem hrequest⟩

/-- A read of such a plan comes after the plant of what it reads. -/
theorem Substrate.plantedAndRead_cases {plant read : Marker → Request} {step : PlannedStep}
    {before later : List PlannedStep}
    (h : substrate.plantedAndRead plant read = before ++ step :: later) :
    ∃ marker ∈ substrate.markersOf .hardCanary, step = ⟨marker.owner, plant marker⟩ ∨
      ∃ observer ∈ substrate.observersOf marker, step = ⟨observer, read marker⟩ ∧
        ⟨marker.owner, plant marker⟩ ∈ before := by
  obtain ⟨done, marker, todo, first, last, hmarkers, hsteps, rfl⟩ := flatMap_eq_append_cons h
  refine ⟨marker, by rw [hmarkers]; exact List.mem_append_right _ List.mem_cons_self, ?_⟩
  simp only at hsteps
  split at hsteps
  · simp at hsteps
  · cases first with
    | nil => exact .inl (List.cons.inj hsteps).1.symm
    | cons planted first =>
      obtain ⟨rfl, hreads⟩ := List.cons.inj hsteps
      have hstep : step ∈ (substrate.observersOf marker).map fun observer =>
          (⟨observer, read marker⟩ : PlannedStep) := by
        rw [hreads]
        exact List.mem_append_right _ List.mem_cons_self
      obtain ⟨observer, hobserver, rfl⟩ := List.mem_map.mp hstep
      exact .inr ⟨observer, hobserver, rfl, List.mem_append_right _ List.mem_cons_self⟩

/-- A plant and the read of it: the plant carries its marker, and the read asks for it back. -/
structure PlantAndRead (plant read : Marker → Request) : Prop where
  plants : ∀ marker, (plant marker).action ∈ plantActions
  reads : ∀ marker, (read marker).action ∉ plantActions
  carries : ∀ marker, (plant marker).Carries marker
  readsBack : ∀ marker, (read marker).ReadsBack (plant marker)

theorem StepsAgainst.plantedAndRead {plant read : Marker → Request} (h : PlantAndRead plant read) :
    StepsAgainst substrate (substrate.markersOf .hardCanary)
      (substrate.plantedAndRead plant read) where
  judged principal := by
    constructor
    · rintro ⟨step, hstep, hjudged, rfl⟩
      obtain ⟨before, later, hsteps⟩ := List.append_of_mem hstep
      obtain ⟨marker, hmarker, rfl | ⟨observer, hobserver, rfl, -⟩⟩ :=
        Substrate.plantedAndRead_cases hsteps
      · exact absurd (h.plants marker) (of_decide_eq_false hjudged)
      · obtain ⟨hprincipal, hcross⟩ := Substrate.mem_observersOf.mp hobserver
        exact ⟨hprincipal, marker, hmarker, hcross⟩
    · rintro ⟨hprincipal, marker, hmarker, hcross⟩
      have hobserver := Substrate.mem_observersOf.mpr ⟨hprincipal, hcross⟩
      refine ⟨⟨principal, read marker⟩, List.mem_flatMap.mpr ⟨marker, hmarker, ?_⟩,
        decide_eq_false (h.reads marker), rfl⟩
      simp only
      rw [if_neg (List.ne_nil_of_mem hobserver)]
      exact List.mem_cons_of_mem _ (List.mem_map_of_mem hobserver)
  plants := by
    refine forallRest_flatMap ReadLater.mono fun marker hmarker => ?_
    simp only
    split
    · exact forallRest_of_mem (by simp)
    · rename_i hobservers
      refine forallRest_cons (fun _ => ⟨marker, hmarker, rfl, h.carries marker, hobservers,
        fun observer hobserver => ?_⟩) (forallRest_of_mem fun step hstep rest => ?_)
      · exact ⟨⟨observer, read marker⟩, List.mem_map_of_mem hobserver,
          decide_eq_false (h.reads marker), rfl, h.readsBack marker⟩
      · obtain ⟨observer, -, rfl⟩ := List.mem_map.mp hstep
        exact readLater_of_read (decide_eq_false (h.reads marker)) rest

end Against

section WellFormed

/-- A request that one of the slots takes: its payload has what the action reads. -/
structure Request.WellFormed (slots : List Slot) (request : Request) : Prop where
  known : ∃ slot ∈ slots, ∃ keys, Runner.reads request.action = some (slot, keys) ∧
    ∀ key ∈ keys, key ∈ request.payload
  count : request.action = "vector.query" → request.payload.getD "k" "5" ∈ ["5", "10"]

theorem Request.WellFormed.of {slots : List Slot} {action : String}
    {entries : List (String × String)} (slot : Slot) (keys names : List String)
    (hslot : slot ∈ slots) (hreads : Runner.reads action = some (slot, keys))
    (hnames : entries.map Prod.fst = names) (hnodup : names.Nodup)
    (hkeys : ∀ key ∈ keys, key ∈ names)
    (hcount : action = "vector.query" → ∃ count ∈ ["5", "10"], ("k", count) ∈ entries) :
    Request.WellFormed slots ⟨action, Dict.ofItems entries⟩ := by
  subst hnames
  refine ⟨⟨slot, hslot, keys, hreads, fun key hkey => ?_⟩, fun haction => ?_⟩
  · obtain ⟨entry, hentry, rfl⟩ := List.mem_map.mp (hkeys key hkey)
    exact Dict.mem_ofItems_of_mem hentry
  · obtain ⟨count, hcount, hentry⟩ := hcount haction
    have hlookup : (Dict.ofItems entries).lookup "k" = some count :=
      (Dict.lookup_ofItems hnodup).mpr hentry
    change ((Dict.ofItems entries).lookup "k").getD "5" ∈ ["5", "10"]
    rw [hlookup]
    exact hcount

variable {slots : List Slot} {substrate : Substrate}

theorem Substrate.exists_of_mem_askedByMarker {markerType : MarkerType}
    {requests : Marker → List Request} {step : PlannedStep}
    (h : step ∈ substrate.askedByMarker markerType requests) :
    ∃ marker, step.request ∈ requests marker := by
  obtain ⟨marker, -, h⟩ := List.mem_flatMap.mp h
  obtain ⟨observer, -, h⟩ := List.mem_flatMap.mp h
  obtain ⟨request, hrequest, rfl⟩ := List.mem_map.mp h
  exact ⟨marker, hrequest⟩

theorem Substrate.exists_of_mem_askedByEntity {requests : SharedEntity → List Request}
    {step : PlannedStep} (h : step ∈ substrate.askedByEntity requests) :
    ∃ entity, step.request ∈ requests entity := by
  obtain ⟨entity, -, h⟩ := List.mem_flatMap.mp h
  obtain ⟨observer, -, h⟩ := List.mem_flatMap.mp h
  obtain ⟨request, hrequest, rfl⟩ := List.mem_map.mp h
  exact ⟨entity, hrequest⟩

theorem wellFormed_askedByMarker {markerType : MarkerType} {requests : Marker → List Request}
    (h : ∀ marker, ∀ request ∈ requests marker, request.WellFormed slots) :
    ∀ step ∈ substrate.askedByMarker markerType requests, step.request.WellFormed slots := by
  intro step hstep
  obtain ⟨marker, hrequest⟩ := Substrate.exists_of_mem_askedByMarker hstep
  exact h marker _ hrequest

theorem wellFormed_askedByEntity {requests : SharedEntity → List Request}
    (h : ∀ entity, ∀ request ∈ requests entity, request.WellFormed slots) :
    ∀ step ∈ substrate.askedByEntity requests, step.request.WellFormed slots := by
  intro step hstep
  obtain ⟨entity, hrequest⟩ := Substrate.exists_of_mem_askedByEntity hstep
  exact h entity _ hrequest

theorem wellFormed_plantedAndRead {plant read : Marker → Request}
    (hplant : ∀ marker, (plant marker).WellFormed slots)
    (hread : ∀ marker, (read marker).WellFormed slots) :
    ∀ step ∈ substrate.plantedAndRead plant read, step.request.WellFormed slots := by
  intro step hstep
  obtain ⟨marker, -, hstep⟩ := List.mem_flatMap.mp hstep
  simp only at hstep
  split at hstep
  · cases hstep
  · rcases List.mem_cons.mp hstep with rfl | hstep
    · exact hplant marker
    · obtain ⟨observer, -, rfl⟩ := List.mem_map.mp hstep
      exact hread marker

variable [Unicode] [Decimals]

/-- The counts that the catalog asks for are numbers. -/
structure ReadsCounts : Prop where
  five : (intOf "5").isSome = true
  ten : (intOf "10").isSome = true

/-- A runner that has the adapters of a probe takes its well-formed steps. -/
theorem accepts_of_wellFormed {σ : Type} {runner : Runner σ} {probe : Probe}
    (hcounts : ReadsCounts) (hpreflight : runner.preflight probe = .ok ()) {step : ProbeStep}
    (h : step.request.WellFormed probe.requiresAdapters) : Runner.Accepts runner step := by
  obtain ⟨slot, hslot, keys, hreads, hkeys⟩ := h.known
  have hmissing : probe.requiresAdapters.filter (fun slot => (runner.adapter slot).isNone) = [] := by
    unfold Runner.preflight at hpreflight
    simp only at hpreflight
    split at hpreflight
    · assumption
    · cases hpreflight
  have hadapter := List.filter_eq_nil_iff.mp hmissing slot hslot
  refine ⟨⟨slot, keys, hreads, by simpa [Option.isSome_iff_ne_none] using hadapter, hkeys⟩,
    fun haction => ?_⟩
  have hcount : step.payload.getD "k" "5" ∈ ["5", "10"] := h.count haction
  rcases List.mem_cons.mp hcount with hfive | hten
  · rw [hfive]
    exact hcounts.five
  · rw [List.mem_singleton.mp hten]
    exact hcounts.ten

end WellFormed

section Catalog

/-- A probe, and the markers that it is to find where they are foreign. -/
structure Attack where
  probe : Probe
  targets : Substrate → List Marker

/-- What a plan is held to. -/
structure PlansAgainst (substrate : Substrate) (targets : List Marker) (slots : List Slot)
    (steps : List ProbeStep) : Prop where
  stepIds : (steps.map ProbeStep.stepId).Nodup
  judged : ∀ principal, (∃ step ∈ steps, step.isPlant = false ∧ step.principal = principal) ↔
    principal ∈ substrate.principals ∧ ∃ marker ∈ targets, isCrossPrincipal marker principal = true
  plants : ∀ before plant after, steps = before ++ plant :: after → plant.isPlant = true →
    ∃ marker ∈ targets, plant.principal = marker.owner ∧ plant.request.Carries marker ∧
      substrate.observersOf marker ≠ [] ∧ ∀ observer ∈ substrate.observersOf marker,
        ∃ step ∈ after, step.isPlant = false ∧ step.principal = observer ∧
          step.request.ReadsBack plant.request
  wellFormed : ∀ step ∈ steps, step.request.WellFormed slots

theorem PlansAgainst.ofSteps {substrate : Substrate} {targets : List Marker} {slots : List Slot}
    (probe : DetectingProbe) {steps : List PlannedStep}
    (hsteps : StepsAgainst substrate targets steps)
    (hrequests : ∀ step ∈ steps, step.request.WellFormed slots) :
    PlansAgainst substrate targets slots (probe.numbered steps) where
  stepIds := probe.nodup_stepIds steps
  judged principal := by
    have hjudged := hsteps.judged principal
    rw [← probe.map_planned_numbered steps] at hjudged
    exact exists_planned.symm.trans hjudged
  plants before plant after heq hplant := by
    have hrest := hsteps.plants
    rw [← probe.map_planned_numbered steps, heq, List.map_append, List.map_cons] at hrest
    obtain ⟨marker, hmarker, howner, hcarries, hobservers, hreads⟩ := hrest _ _ _ rfl hplant
    refine ⟨marker, hmarker, howner, hcarries, hobservers, fun observer hobserver => ?_⟩
    exact exists_planned.mp (hreads observer hobserver)
  wellFormed step hstep := by
    exact hrequests step.planned (DetectingProbe.planned_of_mem_numbered hstep)

/-- A plan that has any step has a judged one. -/
theorem PlansAgainst.exists_judged {substrate : Substrate} {targets : List Marker} {slots : List Slot}
    {steps : List ProbeStep} (h : PlansAgainst substrate targets slots steps) {step : ProbeStep}
    (hstep : step ∈ steps) : ∃ step ∈ steps, step.isPlant = false := by
  obtain ⟨before, after, rfl⟩ := List.append_of_mem hstep
  cases hplant : step.isPlant with
  | false => exact ⟨step, hstep, hplant⟩
  | true =>
    obtain ⟨marker, -, -, -, hobservers, hreads⟩ := h.plants before step after rfl hplant
    obtain ⟨observer, hobserver⟩ := List.exists_mem_of_ne_nil _ hobservers
    obtain ⟨read, hread, hjudged, -⟩ := hreads observer hobserver
    exact ⟨read, List.mem_append_right _ (List.mem_cons_of_mem _ hread), hjudged⟩

/-- A plan is empty exactly when no target is foreign to anyone. -/
theorem PlansAgainst.eq_nil_iff {substrate : Substrate} {targets : List Marker} {slots : List Slot}
    {steps : List ProbeStep} (h : PlansAgainst substrate targets slots steps) :
    steps = [] ↔ ∀ marker ∈ targets, substrate.observersOf marker = [] := by
  constructor
  · rintro rfl marker hmarker
    rw [List.eq_nil_iff_forall_not_mem]
    intro observer hobserver
    obtain ⟨hprincipal, hcross⟩ := Substrate.mem_observersOf.mp hobserver
    obtain ⟨step, hstep, -⟩ := (h.judged observer).mpr ⟨hprincipal, marker, hmarker, hcross⟩
    cases hstep
  · intro hnone
    rw [List.eq_nil_iff_forall_not_mem]
    intro step hstep
    obtain ⟨before, after, heq⟩ := List.append_of_mem hstep
    cases hplant : step.isPlant with
    | true =>
      obtain ⟨marker, hmarker, -, -, hobservers, -⟩ := h.plants before step after heq hplant
      exact hobservers (hnone marker hmarker)
    | false =>
      obtain ⟨hprincipal, marker, hmarker, hcross⟩ :=
        (h.judged step.principal).mp ⟨step, hstep, hplant, rfl⟩
      have hobserver := Substrate.mem_observersOf.mpr ⟨hprincipal, hcross⟩
      rw [hnone marker hmarker] at hobserver
      cases hobserver

section Members

variable [Unicode] [MathSqrt] (providers : DetectionProviders)

namespace TenantBoundaryProbe

/-- The hard canaries that are planted somewhere. -/
def targets (substrate : Substrate) : List Marker :=
  (substrate.markersOf .hardCanary).filter fun marker => marker.plantedLocations ≠ []

theorem plansAgainst (substrate : Substrate) : PlansAgainst substrate (targets substrate)
    (probe providers).requiresAdapters ((probe providers).plan substrate) := by
  have hsteps : ∀ step, step ∈ planned substrate ↔
      ∃ marker ∈ substrate.markersOf .hardCanary, ∃ location ∈ marker.plantedLocations,
        ∃ observer ∈ substrate.observersOf marker,
          ⟨observer, "vector.fetch", Dict.ofItems [("doc_id", location.docId)]⟩ = step := by
    intro step
    simp only [planned, List.mem_flatMap, List.mem_map]
  have hread : "vector.fetch" ∉ plantActions := by decide
  refine .ofSteps declared (.reads (fun step hstep => ?_) fun principal => ?_) fun step hstep => ?_
  · obtain ⟨marker, -, location, -, observer, -, rfl⟩ := (hsteps step).mp hstep
    exact decide_eq_false hread
  · constructor
    · rintro ⟨step, hstep, rfl⟩
      obtain ⟨marker, hmarker, location, hlocation, observer, hobserver, rfl⟩ :=
        (hsteps step).mp hstep
      obtain ⟨hprincipal, hcross⟩ := Substrate.mem_observersOf.mp hobserver
      exact ⟨hprincipal, marker, List.mem_filter.mpr
        ⟨hmarker, decide_eq_true (List.ne_nil_of_mem hlocation)⟩, hcross⟩
    · rintro ⟨hprincipal, marker, hmarker, hcross⟩
      obtain ⟨hmarker, hplanted⟩ := List.mem_filter.mp hmarker
      obtain ⟨location, hlocation⟩ := List.exists_mem_of_ne_nil _ (of_decide_eq_true hplanted)
      exact ⟨_, (hsteps _).mpr ⟨marker, hmarker, location, hlocation, principal,
        Substrate.mem_observersOf.mpr ⟨hprincipal, hcross⟩, rfl⟩, rfl⟩
  · obtain ⟨marker, -, location, -, observer, -, rfl⟩ := (hsteps step).mp hstep
    exact .of .vector ["doc_id"] ["doc_id"] List.mem_cons_self rfl rfl (by decide) (by decide)
      (fun h => absurd h (by decide))

end TenantBoundaryProbe

/-- The markers of the documents that name a shared entity. -/
def namedMarkers (substrate : Substrate) : List Marker :=
  substrate.scenario.sharedEntities.flatMap (markersNamingEntity substrate)

omit [Unicode] [MathSqrt] in
/-- A query of the vector store with a count. -/
theorem wellFormed_vectorQuery {slots : List Slot} (hslot : .vector ∈ slots) {query : String}
    {count : String} (hcount : count ∈ ["5", "10"]) :
    Request.WellFormed slots
      ⟨"vector.query", Dict.ofItems [("query", query), ("k", count)]⟩ :=
  .of .vector ["query"] ["query", "k"] hslot rfl rfl (by decide) (by decide)
    (fun _ => ⟨count, hcount, List.mem_cons_of_mem _ List.mem_cons_self⟩)

theorem RagEntityBleedProbe.plansAgainst (substrate : Substrate) :
    PlansAgainst substrate (namedMarkers substrate)
      (probe providers).requiresAdapters ((probe providers).plan substrate) := by
  have hread : "vector.query" ∉ plantActions := by decide
  exact .ofSteps declared
    (.askedByEntity fun entity => ⟨List.cons_ne_nil _ _, List.forall_mem_singleton.mpr hread⟩)
    (wellFormed_askedByEntity fun entity => List.forall_mem_singleton.mpr
      (wellFormed_vectorQuery List.mem_cons_self (by decide)))

theorem IkeaExtractionProbe.plansAgainst (substrate : Substrate) :
    PlansAgainst substrate (namedMarkers substrate)
      (probe providers).requiresAdapters ((probe providers).plan substrate) := by
  have hread : "vector.query" ∉ plantActions := by decide
  refine .ofSteps declared
    (.askedByEntity fun entity => ⟨List.cons_ne_nil _ _, fun request hrequest => ?_⟩)
    (wellFormed_askedByEntity fun entity request hrequest => ?_)
  · obtain ⟨turn, -, rfl⟩ := List.mem_map.mp hrequest
    exact hread
  · obtain ⟨turn, -, rfl⟩ := List.mem_map.mp hrequest
    exact .of .vector ["query"] ["query", "k", "entity"] List.mem_cons_self rfl rfl (by decide)
      (by decide) (fun _ => ⟨"10", by decide, List.mem_cons_of_mem _ List.mem_cons_self⟩)

theorem RagPipelineBleedProbe.plansAgainst (substrate : Substrate) :
    PlansAgainst substrate (namedMarkers substrate)
      (probe providers).requiresAdapters ((probe providers).plan substrate) := by
  have hread : "rag.ask" ∉ plantActions := by decide
  exact .ofSteps declared
    (.askedByEntity fun entity => ⟨List.cons_ne_nil _ _, List.forall_mem_singleton.mpr hread⟩)
    (wellFormed_askedByEntity fun entity => List.forall_mem_singleton.mpr
      (.of .rag ["query"] ["query"] List.mem_cons_self rfl rfl (by decide) (by decide)
        (fun h => absurd h (by decide))))

theorem EmbeddingInversionProbe.plansAgainst (substrate : Substrate) :
    PlansAgainst substrate (substrate.markersOf .entityCanary)
      (probe providers).requiresAdapters ((probe providers).plan substrate) := by
  have hread : "vector.query" ∉ plantActions := by decide
  exact .ofSteps declared
    (.askedByMarker fun marker => ⟨List.cons_ne_nil _ _, List.forall_mem_singleton.mpr hread⟩)
    (wellFormed_askedByMarker fun marker => List.forall_mem_singleton.mpr
      (wellFormed_vectorQuery List.mem_cons_self (by decide)))

theorem MultimodalRagBleedProbe.plansAgainst (substrate : Substrate) :
    PlansAgainst substrate substrate.manifest.markers
      (probe providers).requiresAdapters ((probe providers).plan substrate) := by
  have hread : "vector.query" ∉ plantActions := by decide
  refine .ofSteps declared (.reads (fun step hstep => ?_) fun principal => ?_) fun step hstep => ?_
  · obtain ⟨entity, -, hstep⟩ := List.mem_flatMap.mp hstep
    obtain ⟨observer, -, rfl⟩ := List.mem_map.mp hstep
    exact decide_eq_false hread
  · rw [← mem_crossPrincipalObservers]
    constructor
    · rintro ⟨step, hstep, rfl⟩
      obtain ⟨entity, -, hstep⟩ := List.mem_flatMap.mp hstep
      obtain ⟨observer, hobserver, rfl⟩ := List.mem_map.mp hstep
      exact hobserver
    · intro hobserver
      exact ⟨_, List.mem_flatMap.mpr ⟨"bar-chart", List.mem_cons_self,
        List.mem_map_of_mem hobserver⟩, rfl⟩
  · obtain ⟨entity, -, hstep⟩ := List.mem_flatMap.mp hstep
    obtain ⟨observer, -, rfl⟩ := List.mem_map.mp hstep
    exact wellFormed_vectorQuery List.mem_cons_self (by decide)

omit [Unicode] [MathSqrt] in
/-- A text with the marker at its end is planted, and a question that has a word of it is asked. -/
theorem PlantAndRead.worded {search : TextSearch} (hsearch : search ∈ textSearches)
    {before query : String} (hplant : search.plant ∈ plantActions)
    (hread : search.question ∉ plantActions) (hword : ∀ more, SpeaksOf query (before ++ more)) :
    PlantAndRead
      (fun marker => ⟨search.plant, Dict.ofItems [(search.content, before ++ marker.plaintext)]⟩)
      (fun _ => ⟨search.question, Dict.ofItems [(search.query, query)]⟩) where
  plants _ := hplant
  reads _ := hread
  carries _ := Request.carries_of_lookup
    (lookup_entry [search.content] (by rfl) (List.nodup_singleton _) List.mem_cons_self)
  readsBack marker := .worded hsearch rfl rfl
    (lookup_entry [search.content] (by rfl) (List.nodup_singleton _) List.mem_cons_self)
    (lookup_entry [search.query] (by rfl) (List.nodup_singleton _) List.mem_cons_self)
    (hword marker.plaintext)

theorem SemanticCacheProbe.plansAgainst (substrate : Substrate) :
    PlansAgainst substrate (substrate.markersOf .hardCanary)
      (probe providers).requiresAdapters ((probe providers).plan substrate) := by
  refine .ofSteps declared (.plantedAndRead ⟨fun _ => ?_, fun _ => ?_, fun marker => ?_,
    fun marker => ?_⟩) (wellFormed_plantedAndRead
      (fun _ => .of .cache ["key", "value"] ["key", "value"] List.mem_cons_self rfl rfl (by decide)
        (by decide) (fun h => absurd h (by decide)))
      (fun _ => .of .cache ["key"] ["key"] List.mem_cons_self rfl rfl (by decide) (by decide)
        (fun h => absurd h (by decide))))
  · show "cache.set" ∈ plantActions
    decide
  · show "cache.get" ∉ plantActions
    decide
  · exact Request.carries_of_lookup (lookup_entry ["key", "value"] (by rfl) (by decide)
      (List.mem_cons_of_mem _ List.mem_cons_self))
  · exact .keyed rfl rfl (lookup_entry ["key", "value"] (by rfl) (by decide) List.mem_cons_self)
      (lookup_entry ["key"] (by rfl) (by decide) List.mem_cons_self)

theorem MemoryContamProbe.plansAgainst (substrate : Substrate) :
    PlansAgainst substrate (substrate.markersOf .hardCanary)
      (probe providers).requiresAdapters ((probe providers).plan substrate) := by
  have hsearch : ⟨"memory.write", "text", "memory.recall", "query"⟩ ∈ textSearches := by
    simp [textSearches]
  refine .ofSteps declared (.plantedAndRead (.worded hsearch (by decide) (by decide) fun more => ?_))
    (wellFormed_plantedAndRead
      (fun _ => .of .memory ["text"] ["text"] List.mem_cons_self rfl rfl (by decide) (by decide)
        (fun h => absurd h (by decide)))
      (fun _ => .of .memory ["query"] ["query"] List.mem_cons_self rfl rfl (by decide) (by decide)
        (fun h => absurd h (by decide))))
  exact speaksOf_append "memory" more (by decide) (by decide) (by decide +kernel) (by decide +kernel)

theorem LoraCrossTenantProbe.plansAgainst [UuidText] (substrate : Substrate) :
    PlansAgainst substrate (substrate.markersOf .hardCanary)
      (probe providers).requiresAdapters ((probe providers).plan substrate) := by
  have hsearch : ⟨"model.train", "text", "model.infer", "prompt"⟩ ∈ textSearches := by
    simp [textSearches]
  refine .ofSteps declared (.plantedAndRead (.worded hsearch (by decide) (by decide) fun more => ?_))
    (wellFormed_plantedAndRead
      (fun _ => .of .model ["text"] ["text"] List.mem_cons_self rfl rfl (by decide) (by decide)
        (fun h => absurd h (by decide)))
      (fun _ => .of .model ["prompt"] ["prompt"] List.mem_cons_self rfl rfl (by decide) (by decide)
        (fun h => absurd h (by decide))))
  exact speaksOf_append "adapter" more (by decide) (by decide) (by decide +kernel) (by decide +kernel)

omit [Unicode] [MathSqrt] in
theorem RagPoisoningProbe.mem_planted {substrate : Substrate} {marker : Marker} :
    marker ∈ planted substrate ↔
      marker ∈ substrate.markersOf .hardCanary ∧ substrate.observersOf marker ≠ [] := by
  have hobservers : crossPrincipalObservers [marker] substrate.principals =
      substrate.observersOf marker :=
    List.filter_congr fun principal _ => by simp
  rw [planted, List.mem_filter, decide_eq_true_eq, hobservers]

omit [Unicode] [MathSqrt] in
theorem RagPoisoningProbe.mem_observers {substrate : Substrate} {principal : Principal} :
    principal ∈ crossPrincipalObservers (planted substrate) substrate.principals ↔
      principal ∈ substrate.principals ∧
        ∃ marker ∈ substrate.markersOf .hardCanary, isCrossPrincipal marker principal = true := by
  rw [mem_crossPrincipalObservers]
  refine and_congr_right fun hprincipal => exists_congr fun marker => ?_
  rw [mem_planted, and_assoc]
  refine and_congr_right fun _ => and_iff_right_of_imp fun hcross => ?_
  exact List.ne_nil_of_mem (Substrate.mem_observersOf.mpr ⟨hprincipal, hcross⟩)

theorem RagPoisoningProbe.plansAgainst (substrate : Substrate) :
    PlansAgainst substrate (substrate.markersOf .hardCanary)
      (probe providers).requiresAdapters ((probe providers).plan substrate) := by
  have hplant : "vector.upsert" ∈ plantActions := by decide
  have hread : "vector.query" ∉ plantActions := by decide
  refine .ofSteps declared ⟨fun principal => ?_, ?_⟩ fun step hstep => ?_
  · rw [← mem_observers]
    constructor
    · rintro ⟨step, hstep, hjudged, rfl⟩
      rcases List.mem_append.mp hstep with hstep | hstep
      · obtain ⟨marker, -, rfl⟩ := List.mem_map.mp hstep
        exact absurd hplant (of_decide_eq_false hjudged)
      · obtain ⟨observer, hmem, rfl⟩ := List.mem_map.mp hstep
        exact hmem
    · intro hmem
      exact ⟨_, List.mem_append_right _ (List.mem_map_of_mem hmem), decide_eq_false hread, rfl⟩
  · refine forallRest_append_right (fun step hstep rest _ => ?_)
      (forallRest_of_mem fun step hstep rest => ?_)
    · obtain ⟨marker, hmarker, rfl⟩ := List.mem_map.mp hstep
      obtain ⟨hcanary, hobservers⟩ := mem_planted.mp hmarker
      have hcontent : (Dict.ofItems [("doc_id", "poison-" ++ marker.markerId), ("content",
          "Poisoned " ++ poisonLure ++ ". Reference: " ++ marker.plaintext)]).lookup "content" =
            some ("Poisoned " ++ poisonLure ++ ". Reference: " ++ marker.plaintext) :=
        lookup_entry ["doc_id", "content"] (by rfl) (by decide)
          (List.mem_cons_of_mem _ List.mem_cons_self)
      refine ⟨marker, hcanary, rfl, Request.carries_of_lookup hcontent, hobservers,
        fun observer hmem => ?_⟩
      obtain ⟨hprincipal, hcross⟩ := Substrate.mem_observersOf.mp hmem
      refine ⟨_, List.mem_append_right _ (List.mem_map_of_mem
        (mem_observers.mpr ⟨hprincipal, marker, hcanary, hcross⟩)),
        decide_eq_false hread, rfl, ?_⟩
      have hsearch : (⟨"vector.upsert", "content", "vector.query", "query"⟩ : TextSearch) ∈
          textSearches := List.mem_cons_self
      refine .worded hsearch rfl rfl hcontent
        (lookup_entry ["query", "k"] (by rfl) (by decide) List.mem_cons_self) ?_
      exact speaksOf_append "operations" marker.plaintext (by decide) (by decide)
        (by decide +kernel) (by decide +kernel)
    · obtain ⟨observer, -, rfl⟩ := List.mem_map.mp hstep
      exact readLater_of_read (decide_eq_false hread) rest
  · rcases List.mem_append.mp hstep with hstep | hstep
    · obtain ⟨marker, -, rfl⟩ := List.mem_map.mp hstep
      exact .of .vector ["doc_id", "content"] ["doc_id", "content"] List.mem_cons_self rfl rfl
        (by decide) (by decide) (fun h => absurd h (by decide))
    · obtain ⟨observer, -, rfl⟩ := List.mem_map.mp hstep
      exact wellFormed_vectorQuery List.mem_cons_self (by decide)

theorem AgentToolHijackProbe.plansAgainst (substrate : Substrate) :
    PlansAgainst substrate (substrate.markersOf .hardCanary)
      (probe providers).requiresAdapters ((probe providers).plan substrate) := by
  have hread : "mcp.invoke" ∉ plantActions := by decide
  refine .ofSteps declared
    (.askedByMarker fun marker => ⟨List.cons_ne_nil _ _, fun request hrequest => ?_⟩)
    (wellFormed_askedByMarker fun marker request hrequest => ?_)
  · simp only [subProbes, List.mem_cons, List.not_mem_nil, or_false] at hrequest
    rcases hrequest with rfl | rfl | rfl | rfl <;> exact hread
  · simp only [subProbes, List.mem_cons, List.not_mem_nil, or_false] at hrequest
    rcases hrequest with rfl | rfl | rfl | rfl
    · exact .of .mcp ["tool"] ["tool", "key"] List.mem_cons_self rfl rfl (by decide) (by decide)
        (fun h => absurd h (by decide))
    · exact .of .mcp ["tool"] ["tool", "key", "token"] List.mem_cons_self rfl rfl (by decide)
        (by decide) (fun h => absurd h (by decide))
    · exact .of .mcp ["tool"] ["tool", "key", "via"] List.mem_cons_self rfl rfl (by decide)
        (by decide) (fun h => absurd h (by decide))
    · exact .of .mcp ["tool"] ["tool", "desc_key"] List.mem_cons_self rfl rfl (by decide)
        (by decide) (fun h => absurd h (by decide))

theorem AgentFrameworkHijackProbe.plansAgainst (substrate : Substrate) :
    PlansAgainst substrate (substrate.markersOf .hardCanary)
      (probe providers).requiresAdapters ((probe providers).plan substrate) := by
  have hread : "agent.run" ∉ plantActions := by decide
  have hrun (task : String) : Request.WellFormed [.agent]
      ⟨"agent.run", Dict.ofItems [("task", task)]⟩ :=
    .of .agent ["task"] ["task"] List.mem_cons_self rfl rfl (by decide) (by decide)
      (fun h => absurd h (by decide))
  exact .ofSteps declared
    (.askedByMarker fun marker => ⟨List.cons_ne_nil _ _,
      List.forall_mem_cons.mpr ⟨hread, List.forall_mem_singleton.mpr hread⟩⟩)
    (wellFormed_askedByMarker fun marker =>
      List.forall_mem_cons.mpr ⟨hrun _, List.forall_mem_singleton.mpr (hrun _)⟩)

/-- The probes of the catalog that detect leaks, each with its targets. -/
def attacks [UuidText] : List Attack :=
  [⟨TenantBoundaryProbe.probe providers, TenantBoundaryProbe.targets⟩,
    ⟨RagEntityBleedProbe.probe providers, namedMarkers⟩,
    ⟨RagPipelineBleedProbe.probe providers, namedMarkers⟩,
    ⟨RagPoisoningProbe.probe providers, fun substrate => substrate.markersOf .hardCanary⟩,
    ⟨SemanticCacheProbe.probe providers, fun substrate => substrate.markersOf .hardCanary⟩,
    ⟨EmbeddingInversionProbe.probe providers, fun substrate => substrate.markersOf .entityCanary⟩,
    ⟨AgentToolHijackProbe.probe providers, fun substrate => substrate.markersOf .hardCanary⟩,
    ⟨AgentFrameworkHijackProbe.probe providers, fun substrate => substrate.markersOf .hardCanary⟩,
    ⟨MemoryContamProbe.probe providers, fun substrate => substrate.markersOf .hardCanary⟩,
    ⟨LoraCrossTenantProbe.probe providers, fun substrate => substrate.markersOf .hardCanary⟩,
    ⟨IkeaExtractionProbe.probe providers, namedMarkers⟩,
    ⟨MultimodalRagBleedProbe.probe providers, fun substrate => substrate.manifest.markers⟩]

theorem plansAgainst_of_mem_attacks [UuidText] {attack : Attack} (h : attack ∈ attacks providers)
    (substrate : Substrate) : PlansAgainst substrate (attack.targets substrate)
      attack.probe.requiresAdapters (attack.probe.plan substrate) := by
  simp only [attacks, List.mem_cons, List.not_mem_nil, or_false] at h
  rcases h with rfl | rfl | rfl | rfl | rfl | rfl | rfl | rfl | rfl | rfl | rfl | rfl
  · exact TenantBoundaryProbe.plansAgainst providers substrate
  · exact RagEntityBleedProbe.plansAgainst providers substrate
  · exact RagPipelineBleedProbe.plansAgainst providers substrate
  · exact RagPoisoningProbe.plansAgainst providers substrate
  · exact SemanticCacheProbe.plansAgainst providers substrate
  · exact EmbeddingInversionProbe.plansAgainst providers substrate
  · exact AgentToolHijackProbe.plansAgainst providers substrate
  · exact AgentFrameworkHijackProbe.plansAgainst providers substrate
  · exact MemoryContamProbe.plansAgainst providers substrate
  · exact LoraCrossTenantProbe.plansAgainst providers substrate
  · exact IkeaExtractionProbe.plansAgainst providers substrate
  · exact MultimodalRagBleedProbe.plansAgainst providers substrate

/-- Every plan of the catalog asks each principal to whom a target is foreign, and no other; what it
plants is read by everyone to whom it is foreign; and it is empty exactly when there is no boundary to
test. -/
theorem catalog_plans [UuidText] (attack : Attack) (h : attack ∈ attacks providers)
    (substrate : Substrate) :
    PlansAgainst substrate (attack.targets substrate) attack.probe.requiresAdapters
        (attack.probe.plan substrate) ∧
      (attack.probe.plan substrate = [] ↔
        ∀ marker ∈ attack.targets substrate, substrate.observersOf marker = []) := by
  have hplans := plansAgainst_of_mem_attacks providers h substrate
  exact ⟨hplans, hplans.eq_nil_iff⟩

end Members

end Catalog

section Runs

open Runner

variable {σ : Type} {runner : Runner σ}

/-- A step that is dropped while others are sent. -/
def Runner.isDropped (runner : Runner σ) (step : ProbeStep) : Bool :=
  match runner.asSent step with
  | .ok none => true
  | _ => false

/-- The steps of a plan that count as dropped: those of users, where no judged step can be sent, and
else those that are dropped one by one. -/
def Runner.unsent (runner : Runner σ) (planned : List ProbeStep) : List ProbeStep :=
  match runner.dropsWholeProbe planned with
  | .ok true => planned.filter fun step => step.actorUserId.isSome
  | _ => planned.filter runner.isDropped

theorem Runner.unsent_of_dropped {planned : List ProbeStep}
    (h : runner.dropsWholeProbe planned = .ok true) :
    runner.unsent planned = planned.filter fun step => step.actorUserId.isSome := by
  unfold Runner.unsent
  rw [h]

theorem Runner.unsent_of_sent {planned : List ProbeStep}
    (h : runner.dropsWholeProbe planned = .ok false) :
    runner.unsent planned = planned.filter runner.isDropped := by
  unfold Runner.unsent
  rw [h]

theorem Runner.isDropped_of_asSent {step : ProbeStep} {sent : Option ProbeStep}
    (h : runner.asSent step = .ok sent) : runner.isDropped step = sent.isNone := by
  unfold Runner.isDropped
  rw [h]
  cases sent with
  | none => rfl
  | some sent => rfl

theorem Runner.Sends.dropped_eq {steps : List ProbeStep} {log : List StepResult} {dropped : Nat}
    (h : Sends runner steps log dropped) : dropped = (steps.filter runner.isDropped).length := by
  induction h with
  | nil => rfl
  | drop hstep _ ih => rw [List.filter_cons_of_pos (isDropped_of_asSent hstep), List.length_cons, ih]
  | send findings hstep _ ih =>
    rw [List.filter_cons_of_neg (by simp [isDropped_of_asSent hstep]), ih]

theorem Runner.Sends.exists_asSent {steps : List ProbeStep} {log : List StepResult} {dropped : Nat}
    (h : Sends runner steps log dropped) {step : ProbeStep} (hmem : step ∈ steps) :
    ∃ sent, runner.asSent step = .ok sent := by
  induction h with
  | nil => cases hmem
  | drop hstep _ ih =>
    rcases List.mem_cons.mp hmem with rfl | hmem
    · exact ⟨none, hstep⟩
    · exact ih hmem
  | send findings hstep _ ih =>
    rcases List.mem_cons.mp hmem with rfl | hmem
    · exact ⟨_, hstep⟩
    · exact ih hmem

/-- A judged step that is not sent is one of a user. -/
theorem Runner.user_of_droppable {step : ProbeStep} (h : runner.droppable step = .ok true) :
    step.actorUserId ≠ none := by
  intro hnone
  unfold Runner.droppable at h
  rw [if_pos (by rw [hnone]; rfl)] at h
  cases h

theorem Runner.allDroppable_eq_true {steps : List ProbeStep}
    (h : runner.allDroppable steps = .ok true) :
    ∀ step ∈ steps, runner.droppable step = .ok true := by
  induction steps with
  | nil => simp
  | cons step steps ih =>
    unfold Runner.allDroppable at h
    split at h
    · cases h
    · cases h
    · exact List.forall_mem_cons.mpr ⟨‹_›, ih h⟩

theorem Runner.dropsWholeProbe_eq_true {planned : List ProbeStep}
    (h : runner.dropsWholeProbe planned = .ok true) :
    ∀ step ∈ planned, step.isPlant = false → runner.droppable step = .ok true := by
  intro step hstep hjudged
  have hmem : step ∈ planned.filter fun step => !step.isPlant :=
    List.mem_filter.mpr ⟨hstep, by simpa using hjudged⟩
  unfold Runner.dropsWholeProbe at h
  rw [if_neg (List.ne_nil_of_mem hmem)] at h
  exact allDroppable_eq_true h step hmem

/-- How many of a probe's steps were dropped, and how many of its plants vanished. -/
def RunnerState.dropped (s : RunnerState σ) (probe : Probe) : Int :=
  s.droppedUserSteps.getD probe.id 0

def RunnerState.vanished (s : RunnerState σ) (probe : Probe) : Int :=
  s.unconfirmedPlants.getD probe.id 0

/-- What a run that returned says of a principal: it was asked for, or its steps were dropped and
counted, or every plant vanished and that was counted. -/
inductive Accounted (runner : Runner σ) (probe : Probe) (s s' : RunnerState σ)
    (results : List StepResult) (principal : Principal) : Prop
  | judged {result : StepResult} (hresult : result ∈ results) (hplant : result.1.isPlant = false)
      (hprincipal : result.1.principal = principal)
  | dropped {step : ProbeStep} (hstep : step ∈ runner.unsent (probe.plan runner.substrate))
      (hjudged : step.isPlant = false) (hprincipal : step.principal = principal)
      (huser : principal.userId ≠ none)
      (hcount : s'.dropped probe =
        s.dropped probe + (runner.unsent (probe.plan runner.substrate)).length)
  | vanished (hempty : results = []) (hcount : s.vanished probe < s'.vanished probe)

theorem Runner.conclude_withheld (probe : Probe) (tally : RunTally) (s : RunnerState σ) :
    (conclude probe tally s).1 = tally.results ∨ (conclude probe tally s).1 = [] ∧
      s.vanished probe < (conclude probe tally s).2.vanished probe := by
  unfold conclude
  simp only
  split
  · rename_i hvanished
    obtain ⟨hplanted, hall, -⟩ := hvanished
    refine Or.inr ⟨rfl, ?_⟩
    have hpos : 0 < tally.unconfirmed := by omega
    unfold RunnerState.vanished recordUnconfirmed
    rw [counted_getD]
    have hsame : (if tally.dropped = 0 then s else recordDropped probe tally.dropped s
        ).unconfirmedPlants = s.unconfirmedPlants := by
      split <;> rfl
    rw [hsame]
    omega
  · exact Or.inl rfl

variable [Unicode] [Decimals]

/-- A run that returns accounts for whoever acts in a judged step of the plan. -/
theorem Runner.runPerStep_accounts {probe : Probe} {s s' : RunnerState σ}
    {results : List StepResult} (hrun : runner.runPerStep probe s = (.ok results, s'))
    {step : ProbeStep} (hstep : step ∈ probe.plan runner.substrate) (hjudged : step.isPlant = false) :
    Accounted runner probe s s' results step.principal := by
  obtain ⟨⟨⟩, s₁, hfirst, hrun⟩ := Call.bind_eq_ok.mp hrun
  obtain ⟨-, rfl⟩ := Call.lift_eq_ok.mp hfirst
  obtain ⟨dropped, s₂, hsecond, hrun⟩ := Call.bind_eq_ok.mp hrun
  obtain ⟨hdrops, rfl⟩ := Call.lift_eq_ok.mp hsecond
  cases dropped with
  | true =>
    obtain ⟨-, rfl⟩ := Prod.mk.inj hrun
    have huser := user_of_droppable (dropsWholeProbe_eq_true hdrops step hstep hjudged)
    have hunsent := unsent_of_dropped hdrops
    refine .dropped ?_ hjudged rfl huser ?_
    · rw [hunsent]
      exact List.mem_filter.mpr ⟨hstep, Option.isSome_iff_ne_none.mpr huser⟩
    · rw [hunsent]
      exact counted_getD probe s.droppedUserSteps _
  | false =>
    obtain ⟨done, rest, log, count, hplan, hsends, hexecuted, hrecords, hok⟩ :=
      runner.sendSteps_sends probe (probe.plan runner.substrate) {} s
    simp only [Bool.false_eq_true, if_false] at hrun
    rcases hloop : runner.sendSteps probe (probe.plan runner.substrate) {} s with ⟨e | tally, s₁⟩
    · rw [hloop] at hrun
      cases hrun
    rw [hloop] at hrun hrecords hok
    obtain ⟨rfl, hresults, hdropped⟩ := hok tally rfl
    obtain ⟨hreport, rfl⟩ := Prod.mk.inj hrun
    obtain rfl := Except.ok.inj hreport
    rw [List.append_nil] at hplan
    subst hplan
    have hunsent := unsent_of_sent hdrops
    obtain ⟨sent, hsent⟩ := hsends.exists_asSent hstep
    rcases runner.asSent_eq_ok hsent with ⟨hdroppable, rfl⟩ | ⟨hdroppable, ⟨hplant, -⟩ | ⟨-, rfl⟩⟩
    · obtain ⟨result, hresult, rfl⟩ := hsends.mem_of_sent hstep hsent
      rcases conclude_withheld probe tally s₁ with hkept | ⟨hempty, hcount⟩
      · refine .judged ?_ hjudged rfl
        rw [hkept, hresults]
        exact List.mem_append_right _ hresult
      · refine .vanished hempty ?_
        have hsame : s.vanished probe = s₁.vanished probe := by
          unfold RunnerState.vanished
          rw [hrecords.2]
        rw [hsame]
        exact hcount
    · rw [hjudged] at hplant
      cases hplant
    · refine .dropped ?_ hjudged rfl (user_of_droppable hdroppable) ?_
      · rw [hunsent]
        exact List.mem_filter.mpr ⟨hstep, isDropped_of_asSent hsent⟩
      · obtain ⟨-, hcount, -⟩ := conclude_cases probe tally s₁
        unfold RunnerState.dropped
        rw [hcount, hrecords.1, hdropped, hunsent, ← hsends.dropped_eq]
        simp

/-- With adapters that do not raise, a run of a catalog probe returns, and it accounts for every
principal to whom a target is foreign. -/
theorem catalog_accounts [MathSqrt] [UuidText] (providers : DetectionProviders) (attack : Attack)
    (h : attack ∈ attacks providers) (hcounts : ReadsCounts) (hquiet : Runner.Quiet runner)
    (hpreflight : runner.preflight attack.probe = .ok ()) (s : RunnerState σ) :
    ∃ results s', runner.runPerStep attack.probe s = (.ok results, s') ∧
      ∀ principal ∈ runner.substrate.principals, ∀ marker ∈ attack.targets runner.substrate,
        isCrossPrincipal marker principal = true →
          Accounted runner attack.probe s s' results principal := by
  have hplans := plansAgainst_of_mem_attacks providers h runner.substrate
  obtain ⟨results, s', hrun⟩ := runPerStep_returns attack.probe hquiet hpreflight
    (fun step hstep => accepts_of_wellFormed hcounts hpreflight (hplans.wellFormed step hstep)) s
  refine ⟨results, s', hrun, fun principal hprincipal marker hmarker hcross => ?_⟩
  obtain ⟨step, hstep, hjudged, rfl⟩ :=
    (hplans.judged principal).mpr ⟨hprincipal, marker, hmarker, hcross⟩
  exact runPerStep_accounts hrun hstep hjudged

end Runs

section Sample

open Runner

attribute [local instance] Unicode.ascii Hashlib.real UuidText.digits Decimals.ascii
  JsonLimits.default FloatText.halves MathSqrt.exact RandomSource.zeros

/-- An embedder that tells nothing apart and a judge that denies everything. -/
def denying : DetectionProviders := ⟨DetectionPipeline.flatProvider, fun _ _ => ⟨false, "no", ""⟩, 2⟩

def cacheAttack : Attack :=
  ⟨SemanticCacheProbe.probe denying, fun substrate => substrate.markersOf .hardCanary⟩

theorem cacheAttack_mem : cacheAttack ∈ attacks denying := by
  simp [attacks, cacheAttack]

theorem catalog_plans_cache : ∃ substrate, buildSubstrate Unit (sampleScenario 1 2) = .ok substrate ∧
    PlansAgainst substrate (cacheAttack.targets substrate) [.cache]
        (cacheAttack.probe.plan substrate) ∧
      (cacheAttack.probe.plan substrate = [] ↔
        ∀ marker ∈ cacheAttack.targets substrate, substrate.observersOf marker = []) := by
  obtain ⟨substrate, hbuilt⟩ := sampleScenario_builds 1 2
  exact ⟨substrate, hbuilt, catalog_plans denying cacheAttack cacheAttack_mem substrate⟩

/-- The cache of one entry never raises, whatever it is asked about. -/
theorem catalog_accounts_cache : ∃ substrate results s',
    buildSubstrate Unit (sampleScenario 1 2) = .ok substrate ∧
      ({ cacheRunner with substrate } : Runner (Option String)).runPerStep cacheAttack.probe
        { world := none } = (.ok results, s') ∧
      ∀ principal ∈ substrate.principals, ∀ marker ∈ cacheAttack.targets substrate,
        isCrossPrincipal marker principal = true →
          Accounted { cacheRunner with substrate } cacheAttack.probe { world := none } s' results
            principal := by
  obtain ⟨substrate, hbuilt⟩ := sampleScenario_builds 1 2
  have hquiet : Runner.Quiet { cacheRunner with substrate } := by
    constructor
    case get => rintro _ ⟨⟩ _ _ entry; exact ⟨entry, entry, rfl⟩
    case set => rintro _ ⟨⟩ _ _ value _; exact ⟨(), some value, rfl⟩
    all_goals rintro _ ⟨⟩
  obtain ⟨results, s', hrun, haccounts⟩ := catalog_accounts denying cacheAttack cacheAttack_mem
    ⟨by decide, by decide⟩ hquiet rfl { world := none }
  exact ⟨substrate, results, s', hbuilt, hrun, haccounts⟩

end Sample

end Sectum
