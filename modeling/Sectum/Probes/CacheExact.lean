import Sectum.Probes.BoundaryExact

/-! Class 4 against the in-memory cache: a canary that its owner cached is confirmed for exactly the
foreign principals whose key for the entry is the owner's. -/

namespace Sectum

open Py

section Keys

/-- The ids that the key of an entry begins with. -/
def FakeCache.scopeOf (cache : FakeCache) (p : Principal) : List UUID :=
  (if cache.tenantScoped then [p.tenantId] else []) ++
    if cache.userScoped then p.userId.toList else []

/-- Two principals have one key for an entry. -/
def FakeCache.Lets (cache : FakeCache) (observer owner : Principal) : Prop :=
  (cache.tenantScoped = true → owner.tenantId = observer.tenantId) ∧
    (cache.userScoped = true → owner.userId = observer.userId)

theorem FakeCache.scopeOf_inj {cache : FakeCache} {p q : Principal} :
    cache.scopeOf p = cache.scopeOf q ↔ cache.Lets q p := by
  have huser : p.userId.toList = q.userId.toList ↔ p.userId = q.userId := by
    cases p.userId <;> cases q.userId <;> simp
  unfold scopeOf Lets
  cases cache.tenantScoped <;> cases cache.userScoped <;> simp [huser]

theorem FakeCache.keyOf_eq (cache : FakeCache) (p : Principal) (key : String) :
    (cache.keyOf p key).toList =
      (cache.scopeOf p).flatMap (fun id => id.str.toList ++ [':']) ++ key.toList := by
  have hjoin : ∀ ids : List UUID, (join ":" (ids.map UUID.str ++ [key])).toList =
      ids.flatMap (fun id => id.str.toList ++ [':']) ++ key.toList := by
    intro ids
    induction ids with
    | nil => simp [join]
    | cons id ids ih =>
      obtain ⟨next, rest, hrest⟩ : ∃ next rest, ids.map UUID.str ++ [key] = next :: rest :=
        List.exists_cons_of_ne_nil (by simp)
      rw [List.map_cons, List.cons_append, hrest, join, String.intercalate_cons_cons, ← join,
        ← hrest, String.toList_append, String.toList_append, ih, List.flatMap_cons]
      simp
  have hparts : (if cache.tenantScoped then [p.tenantId.str] else []) ++
      (if cache.userScoped then p.userId.toList.map UUID.str else []) =
        (cache.scopeOf p).map UUID.str := by
    unfold scopeOf
    cases cache.tenantScoped <;> cases cache.userScoped <;> simp
  rw [keyOf, hparts, hjoin]

/-- The fourth character of an id is a digit. -/
theorem isHexDigit_str (id : UUID) : ∃ c, id.str.toList[3]? = some c ∧ isHexDigit c = true := by
  have hlength := length_hex_uuid id
  have hdigits := isHexDigit_hex 32 id.bits.toNat
  rw [show Py.hex 32 id.bits.toNat = id.hex from rfl] at hdigits
  generalize hchars : id.hex.toList = digits at hlength hdigits
  have hthird : id.str.toList[3]? = digits[3]? := by
    have hstr : ∃ rest, id.str.toList = digits.take 8 ++ rest := by
      refine ⟨'-' :: ((digits.drop 8).take 4 ++ '-' :: ((digits.drop 12).take 4 ++ '-' ::
        ((digits.drop 16).take 4 ++ '-' :: (digits.drop 20).take 12))), ?_⟩
      simp [UUID.str, join, String.intercalate_cons_cons, hchars]
    obtain ⟨rest, hstr⟩ := hstr
    rw [hstr, List.getElem?_append_left (by rw [List.length_take]; omega), List.getElem?_take]
    rfl
  have hlt : 3 < digits.length := by omega
  exact ⟨digits[3], by rw [hthird, List.getElem?_eq_getElem hlt],
    hdigits _ (List.getElem_mem hlt)⟩

/-- The keys of the probe do not begin as an id does. -/
theorem SemanticCacheProbe.keyFor_ne {marker : Marker} {id : UUID} {rest : List Char} :
    (keyFor marker).toList ≠ id.str.toList ++ [':'] ++ rest := by
  intro h
  obtain ⟨c, hc, hdigit⟩ := isHexDigit_str id
  have hthird : (keyFor marker).toList[3]? = some 'h' := by
    rw [keyFor, String.toList_append]
    rfl
  have hlt : 3 < id.str.toList.length := by
    rw [length_str_uuid]
    decide
  rw [h, List.append_assoc, List.getElem?_append_left hlt, hc] at hthird
  obtain rfl := Option.some.inj hthird
  exact absurd hdigit (by decide)

/-- Two principals have one key for two entries of the probe exactly when the entries are one and the
cache does not tell the principals apart. -/
theorem SemanticCacheProbe.keyOf_inj {cache : FakeCache} {p q : Principal} {marker other : Marker} :
    cache.keyOf p (keyFor marker) = cache.keyOf q (keyFor other) ↔
      marker.markerId = other.markerId ∧ cache.Lets q p := by
  have hscopes : ∀ ids ids' : List UUID,
      ids.flatMap (fun id => id.str.toList ++ [':']) ++ (keyFor marker).toList =
          ids'.flatMap (fun id => id.str.toList ++ [':']) ++ (keyFor other).toList →
        ids = ids' ∧ keyFor marker = keyFor other := by
    intro ids
    induction ids with
    | nil =>
      intro ids' h
      cases ids' with
      | nil => exact ⟨rfl, String.toList_injective h⟩
      | cons id ids' =>
        rw [List.flatMap_nil, List.nil_append, List.flatMap_cons, List.append_assoc] at h
        exact absurd h keyFor_ne
    | cons id ids ih =>
      intro ids' h
      cases ids' with
      | nil =>
        rw [List.flatMap_nil, List.nil_append, List.flatMap_cons, List.append_assoc] at h
        exact absurd h.symm keyFor_ne
      | cons id' ids' =>
        simp only [List.flatMap_cons, List.append_assoc] at h
        obtain ⟨hid, h⟩ := List.append_inj h (by rw [length_str_uuid, length_str_uuid])
        obtain ⟨rfl, hkeys⟩ := ih ids' (List.append_cancel_left h)
        obtain rfl := str_uuid_injective (String.toList_injective hid)
        exact ⟨rfl, hkeys⟩
  constructor
  · intro h
    have hchars := congrArg String.toList h
    rw [FakeCache.keyOf_eq, FakeCache.keyOf_eq] at hchars
    obtain ⟨hscope, hkeys⟩ := hscopes _ _ hchars
    exact ⟨(String.append_right_inj _).mp hkeys, FakeCache.scopeOf_inj.mp hscope⟩
  · rintro ⟨hid, hlets⟩
    apply String.toList_injective
    rw [FakeCache.keyOf_eq, FakeCache.keyOf_eq, FakeCache.scopeOf_inj.mpr hlets, keyFor, keyFor, hid]

end Keys

section Run

variable [Unicode] [MathSqrt]

namespace SemanticCacheProbe

def plantOf (marker : Marker) : Request :=
  ⟨"cache.set", Dict.ofItems
    [("key", keyFor marker), ("value", "Cached answer. Reference: " ++ marker.plaintext)]⟩

def readOf (marker : Marker) : Request := ⟨"cache.get", Dict.ofItems [("key", keyFor marker)]⟩

/-- What a step writes. -/
def entryOf (cache : FakeCache) (step : ProbeStep) : Option (String × String) :=
  if step.action = "cache.set" then
    some (cache.keyOf step.principal (step.payload.getD "key" ""), step.payload.getD "value" "")
  else none

/-- How the cache of the stack answers a step of the probe. -/
def responder (stack : FakeStack) : Responder FakeStack.World where
  seen step world :=
    if step.action = "cache.set" then
      { stepId := step.stepId, surface := .semanticCache, rawResponse := "" }
    else
      let value := stack.cache.get step.principal (step.payload.getD "key" "") (world .cache)
      { stepId := step.stepId
        surface := .semanticCache
        rawResponse := value.getD ""
        accessOutcome := some (if value.isSome then .returned else .empty) }
  next step world :=
    match entryOf stack.cache step with
    | some (key, value) => Function.update world .cache (Dict.set (world .cache) key value)
    | none => world

omit [Unicode] [MathSqrt] in
/-- A cache that was empty holds what the steps wrote. -/
theorem after_responder (stack : FakeStack) (steps : List ProbeStep) (world : FakeStack.World) :
    (responder stack).after steps world .cache =
      (steps.filterMap (entryOf stack.cache)).foldl (fun store entry => store.set entry.1 entry.2)
        (world .cache) := by
  induction steps generalizing world with
  | nil => rfl
  | cons step steps ih =>
    rw [Responder.after, List.foldl_cons, ← Responder.after, ih, List.filterMap_cons]
    cases hentry : entryOf stack.cache step with
    | none => simp only [responder, hentry]
    | some entry => simp only [responder, hentry, Function.update_self, List.foldl_cons]

omit [Unicode] [MathSqrt] in
theorem plan_cases [Unicode] [MathSqrt] {providers : DetectionProviders} {substrate : Substrate}
    {before later : List ProbeStep} {step : ProbeStep}
    (h : (probe providers).plan substrate = before ++ step :: later) :
    ∃ marker ∈ substrate.markersOf .hardCanary, step.planned = ⟨marker.owner, plantOf marker⟩ ∨
      ∃ observer ∈ substrate.observersOf marker, step.planned = ⟨observer, readOf marker⟩ ∧
        ∃ plant ∈ before, plant.planned = ⟨marker.owner, plantOf marker⟩ := by
  have hplanned := congrArg (List.map ProbeStep.planned) h
  rw [show (probe providers).plan substrate = declared.numbered (planned substrate) from rfl,
    declared.map_planned_numbered, List.map_append, List.map_cons] at hplanned
  obtain ⟨marker, hmarker, hstep | ⟨observer, hobserver, hstep, hbefore⟩⟩ :=
    Substrate.plantedAndRead_cases hplanned
  · exact ⟨marker, hmarker, .inl hstep⟩
  · exact ⟨marker, hmarker, .inr ⟨observer, hobserver, hstep, List.mem_map.mp hbefore⟩⟩

/-- What the owner of a canary caches. -/
def answerOf (marker : Marker) : String := "Cached answer. Reference: " ++ marker.plaintext

omit [Unicode] [MathSqrt] in
theorem plant_fields {step : ProbeStep} {p : Principal} {marker : Marker}
    (h : step.planned = ⟨p, plantOf marker⟩) :
    step.principal = p ∧ step.action = "cache.set" ∧
      step.payload.lookup "key" = some (keyFor marker) ∧
      step.payload.lookup "value" = some (answerOf marker) := by
  obtain ⟨hactor, hrequest⟩ := PlannedStep.mk.inj h
  obtain ⟨haction, hpayload⟩ := Request.mk.inj hrequest
  refine ⟨hactor, haction, ?_, ?_⟩
  · rw [hpayload]
    rfl
  · rw [hpayload]
    rfl

omit [Unicode] [MathSqrt] in
theorem read_fields {step : ProbeStep} {p : Principal} {marker : Marker}
    (h : step.planned = ⟨p, readOf marker⟩) :
    step.principal = p ∧ step.action = "cache.get" ∧
      step.payload.lookup "key" = some (keyFor marker) := by
  obtain ⟨hactor, hrequest⟩ := PlannedStep.mk.inj h
  obtain ⟨haction, hpayload⟩ := Request.mk.inj hrequest
  refine ⟨hactor, haction, ?_⟩
  rw [hpayload]
  rfl

omit [Unicode] [MathSqrt] in
theorem entryOf_plant {cache : FakeCache} {step : ProbeStep} {p : Principal} {marker : Marker}
    (h : step.planned = ⟨p, plantOf marker⟩) :
    entryOf cache step = some (cache.keyOf p (keyFor marker), answerOf marker) := by
  obtain ⟨rfl, haction, hkey, hvalue⟩ := plant_fields h
  rw [entryOf, if_pos haction, Dict.getD, hkey, Dict.getD, hvalue]
  rfl

omit [Unicode] [MathSqrt] in
/-- What a read finds after the steps of the plan before it. -/
theorem get_after [Unicode] [MathSqrt] {providers : DetectionProviders} {stack : FakeStack}
    {substrate : Substrate} (h : substrate.Seeded) {world : FakeStack.World}
    (hempty : world .cache = ∅) {before later : List ProbeStep} {step : ProbeStep}
    (hplan : (probe providers).plan substrate = before ++ step :: later) {marker : Marker}
    (hmarker : marker ∈ substrate.markersOf .hardCanary) {plant : ProbeStep} (hplant : plant ∈ before)
    (hplanted : plant.planned = ⟨marker.owner, plantOf marker⟩) (observer : Principal) :
    (stack.cache.Lets observer marker.owner →
      stack.cache.get observer (keyFor marker) ((responder stack).after before world .cache) =
        some (answerOf marker)) ∧
    (¬stack.cache.Lets observer marker.owner →
      stack.cache.get observer (keyFor marker) ((responder stack).after before world .cache) =
        none) := by
  have hstore : (responder stack).after before world .cache =
      Dict.ofItems (before.filterMap (entryOf stack.cache)) := by
    rw [after_responder, hempty]
    rfl
  have hentries : ∀ entry ∈ before.filterMap (entryOf stack.cache),
      ∃ other ∈ substrate.markersOf .hardCanary,
        entry = (stack.cache.keyOf other.owner (keyFor other), answerOf other) := by
    intro entry hentry
    obtain ⟨earlier, hearlier, hwrites⟩ := List.mem_filterMap.mp hentry
    obtain ⟨first, last, rfl⟩ := List.append_of_mem hearlier
    have hsplit : (probe providers).plan substrate = first ++ earlier :: (last ++ step :: later) := by
      rw [hplan, List.append_assoc, List.cons_append]
    obtain ⟨other, hother, hcase | ⟨reader, -, hcase, -⟩⟩ := plan_cases hsplit
    · rw [entryOf_plant hcase] at hwrites
      exact ⟨other, hother, (Option.some.inj hwrites).symm⟩
    · obtain ⟨-, haction, -⟩ := read_fields hcase
      rw [entryOf, if_neg (by rw [haction]; decide)] at hwrites
      cases hwrites
  -- The one entry under a key of the marker is the marker's own.
  have honly : ∀ value, (stack.cache.keyOf observer (keyFor marker), value) ∈
      before.filterMap (entryOf stack.cache) →
        stack.cache.Lets observer marker.owner ∧ value = answerOf marker := by
    intro value hvalue
    obtain ⟨other, hother, heq⟩ := hentries _ hvalue
    obtain ⟨hkey, rfl⟩ := Prod.mk.inj heq
    obtain ⟨hid, hlets⟩ := keyOf_inj.mp hkey.symm
    obtain rfl : other = marker := List.inj_on_of_nodup_map h.markerIds
      (List.mem_of_mem_filter hother) (List.mem_of_mem_filter hmarker) hid
    exact ⟨hlets, rfl⟩
  unfold FakeCache.get
  rw [hstore]
  constructor
  · intro hlets
    have hmem : (stack.cache.keyOf observer (keyFor marker), answerOf marker) ∈
        before.filterMap (entryOf stack.cache) := by
      refine List.mem_filterMap.mpr ⟨plant, hplant, ?_⟩
      rw [entryOf_plant hplanted, keyOf_inj.mpr ⟨rfl, hlets⟩]
    obtain ⟨value, hvalue⟩ := Dict.mem_iff_lookup.mp (Dict.mem_ofItems_of_mem hmem)
    rw [hvalue, (honly value (Dict.mem_of_lookup_ofItems hvalue)).2]
  · intro hlets
    rw [Option.eq_none_iff_forall_ne_some]
    intro value hvalue
    exact hlets (honly value (Dict.mem_of_lookup_ofItems hvalue)).1

omit [MathSqrt] in
theorem residualPresent_answer (hascii : Unicode.OnAscii) {marker : Marker}
    (hplain : IsAsciiText marker.plaintext) :
    residualPresent marker.plaintext (answerOf marker) = true := by
  have hwithin := residualPresent_within hascii "Cached answer. Reference: " hplain
    marker.plaintext_ne beginsAscii_empty
  rwa [String.append_empty] at hwithin

omit [MathSqrt] in
/-- A cached answer is found when it is read back. -/
theorem residualPresent_answerOf (hascii : Unicode.OnAscii) {marker : Marker}
    (hplain : IsAsciiText marker.plaintext) :
    residualPresent (answerOf marker) (answerOf marker) = true := by
  have hanswer : IsAsciiText (answerOf marker) :=
    isAsciiText_append.mpr ⟨isAsciiText_of_all (by decide), hplain⟩
  have hne : answerOf marker ≠ "" := by
    intro hempty
    have hchars := congrArg String.toList hempty
    unfold answerOf at hchars
    rw [String.toList_append] at hchars
    cases hchars
  have hwithin := residualPresent_within hascii "" hanswer hne
    beginsAscii_empty
  rwa [String.append_empty, String.empty_append] at hwithin

omit [MathSqrt] in
theorem answers [Lower] [Hashlib] [UuidText] [Decimals] (hascii : Unicode.OnAscii)
    (stack : FakeStack) {substrate : Substrate} {step : ProbeStep} {p : Principal} {marker : Marker}
    (hplain : IsAsciiText marker.plaintext)
    (hcase : step.planned = ⟨p, plantOf marker⟩ ∨ step.planned = ⟨p, readOf marker⟩) :
    Answers (stack.runner substrate) (responder stack) step := by
  rcases hcase with hplanted | hread
  · obtain ⟨-, haction, hkey, hvalue⟩ := plant_fields hplanted
    have hwritten : entryOf stack.cache step =
        some (stack.cache.keyOf step.principal (keyFor marker), answerOf marker) := by
      rw [entryOf, if_pos haction, Dict.getD, hkey, Dict.getD, hvalue]
      rfl
    have hnext : ∀ world : FakeStack.World, (responder stack).next step world =
        Function.update world .cache
          (stack.cache.set step.principal (keyFor marker) (answerOf marker) (world .cache)) := by
      intro world
      simp only [responder, hwritten]
      rfl
    refine ⟨?_, fun world => ?_, fun _ world => ?_⟩
    · have hreads : Runner.reads step.action = some (.cache, ["key", "value"]) := by
        rw [haction]
        rfl
      exact Runner.droppable_of_carries hreads rfl rfl
    · unfold Runner.execute
      rw [haction]
      change ((Runner.required step "key").bind fun key => (Runner.required step "value").bind _)
        world = _
      rw [Runner.required_eq hkey, Runner.required_eq hvalue, hnext]
      simp only [responder, if_pos haction]
      rfl
    · have hfound : stack.cache.get step.principal (keyFor marker)
          (stack.cache.set step.principal (keyFor marker) (answerOf marker) (world .cache)) =
            some (answerOf marker) := Dict.lookup_set_self _ _ _
      apply Runner.plantLanded_of_readBack
      unfold Runner.plantReadBack
      rw [haction, hnext]
      change ((Runner.required step "key").bind fun key =>
        (stack.cacheSession.get step.principal key).bind fun cached =>
        (Runner.required step "value").map fun value => cached.any (residualPresent value)) _ = _
      rw [Runner.required_eq hkey, Runner.required_eq hvalue]
      simp only [Call.bind, Call.pure, Call.map, FakeStack.cacheSession, FakeStack.asks,
        Function.update_self, hfound, Option.any_some, residualPresent_answerOf hascii hplain]
  · obtain ⟨-, haction, hkey⟩ := read_fields hread
    have hplant : step.action ≠ "cache.set" := by
      rw [haction]
      decide
    have hunwritten : entryOf stack.cache step = none := if_neg hplant
    refine ⟨?_, fun world => ?_, fun hplant => ?_⟩
    · have hreads : Runner.reads step.action = some (.cache, ["key"]) := by
        rw [haction]
        rfl
      exact Runner.droppable_of_carries hreads rfl rfl
    · have hkeyed : step.payload.getD "key" "" = keyFor marker := by
        rw [Dict.getD, hkey]
        rfl
      unfold Runner.execute
      rw [haction]
      change ((Runner.required step "key").bind _) world = _
      rw [Runner.required_eq hkey]
      simp only [responder, if_neg hplant, hunwritten, hkeyed]
      rfl
    · unfold ProbeStep.isPlant at hplant
      rw [haction] at hplant
      exact absurd hplant (by decide)

omit [MathSqrt] in
/-- What a read sees after the steps of the plan before it: the answer that the owner cached where the
keys agree, and nothing elsewhere. -/
theorem seen_read [MathSqrt] {providers : DetectionProviders} {stack : FakeStack}
    {substrate : Substrate} (h : substrate.Seeded) {world : FakeStack.World}
    (hempty : world .cache = ∅) {before later : List ProbeStep} {step : ProbeStep}
    (hplan : (probe providers).plan substrate = before ++ step :: later) {marker : Marker}
    (hmarker : marker ∈ substrate.markersOf .hardCanary) {plant : ProbeStep} (hplant : plant ∈ before)
    (hplanted : plant.planned = ⟨marker.owner, plantOf marker⟩) {observer : Principal}
    (hread : step.planned = ⟨observer, readOf marker⟩) :
    let seen := (responder stack).seen step ((responder stack).after before world)
    (stack.cache.Lets observer marker.owner → seen.rawResponse = answerOf marker) ∧
      (¬stack.cache.Lets observer marker.owner → seen.rawResponse = "") := by
  obtain ⟨rfl, haction, hkey⟩ := read_fields hread
  have hkeyed : step.payload.getD "key" "" = keyFor marker := by
    rw [Dict.getD, hkey]
    rfl
  have hraw : ((responder stack).seen step ((responder stack).after before world)).rawResponse =
      (stack.cache.get step.principal (keyFor marker)
        ((responder stack).after before world .cache)).getD "" := by
    have hset : step.action ≠ "cache.set" := by
      rw [haction]
      decide
    simp only [responder, if_neg hset, hkeyed]
  obtain ⟨hsome, hnone⟩ := get_after h hempty hplan hmarker hplant hplanted step.principal
  simp only [hraw]
  exact ⟨fun hlets => by rw [hsome hlets]; rfl, fun hlets => by rw [hnone hlets]; rfl⟩

/-- A step that is shown nothing confirms nothing. -/
theorem unconfirmed_empty (hascii : Unicode.OnAscii) {providers : DetectionProviders}
    {step : ProbeStep} {observation : Observation} {substrate : Substrate}
    (hempty : observation.rawResponse = "") :
    ∀ f ∈ detect providers step observation substrate, f.status ≠ .confirmed :=
  flagged_unconfirmed (scan_empty hascii hempty) fun _ hf => emptyAmbiguityFinding_unverified hf

/-- Against a cache that begins empty, Class 4 confirms a canary for exactly the foreign principals that
the cache does not tell from its owner. -/
theorem exact_on_fakes [Lower] [Hashlib] [UuidText] [Decimals] (hascii : Unicode.OnAscii)
    (providers : DetectionProviders) (stack : FakeStack) {substrate : Substrate}
    (h : substrate.Seeded) (s : RunnerState FakeStack.World) (hempty : s.world .cache = ∅) :
    ∃ results s', (stack.runner substrate).runPerStep (probe providers) s = (.ok results, s') ∧
      ExactVerdict substrate (substrate.markersOf .hardCanary)
        (fun observer marker => stack.cache.Lets observer marker.owner) results := by
  have hplain : ∀ marker ∈ substrate.markersOf .hardCanary, IsAsciiText marker.plaintext :=
    fun marker hmarker =>
      have ⟨hmem, htype⟩ := List.mem_filter.mp hmarker
      h.canaries marker hmem (of_decide_eq_true htype)
  have hpreflight : (stack.runner substrate).preflight (probe providers) = .ok () := rfl
  have hanswers : ∀ step ∈ (probe providers).plan (stack.runner substrate).substrate,
      Answers (stack.runner substrate) (responder stack) step := by
    intro step hstep
    obtain ⟨before, later, hplan⟩ := List.append_of_mem hstep
    obtain ⟨marker, hmarker, hplanted | ⟨observer, -, hread, -⟩⟩ := plan_cases hplan
    · exact answers hascii stack (hplain marker hmarker) (.inl hplanted)
    · exact answers hascii stack (hplain marker hmarker) (.inr hread)
  obtain ⟨s', hrun⟩ := Runner.runPerStep_answers hpreflight hanswers s
  refine ⟨_, s', hrun, fun marker hmarker observer hobserver hlets => ?_, fun result hresult => ?_⟩
  · have hread : ⟨observer, readOf marker⟩ ∈ planned substrate := by
      refine List.mem_flatMap.mpr ⟨marker, hmarker, ?_⟩
      simp only
      rw [if_neg (List.ne_nil_of_mem hobserver)]
      exact List.mem_cons_of_mem _ (List.mem_map.mpr ⟨observer, hobserver, rfl⟩)
    obtain ⟨step, hstep, hplanned⟩ := declared.exists_mem_numbered hread
    obtain ⟨before, later, hplan⟩ : ∃ before later,
        (probe providers).plan substrate = before ++ step :: later := List.append_of_mem hstep
    have hobserves := (read_fields hplanned).1
    refine ⟨_, (responder stack).mem_results.mpr ⟨before, step, later, hplan, rfl⟩, hobserves,
      confirms_flagged (confirms_scan (List.mem_filter.mp hmarker).1 ?_ ?_)⟩
    · rw [hobserves]
      exact (Substrate.mem_observersOf.mp hobserver).2
    · obtain ⟨other, hother, hplanted | ⟨reader, -, hread, plant, hplant, hplanted⟩⟩ := plan_cases hplan
      · have hset := (plant_fields hplanted).2.1
        rw [(read_fields hplanned).2.1] at hset
        exact absurd hset (by decide)
      · have hkey : keyFor other = keyFor marker :=
          Option.some.inj ((read_fields hread).2.2.symm.trans (read_fields hplanned).2.2)
        obtain rfl : other = marker := List.inj_on_of_nodup_map h.markerIds
          (List.mem_of_mem_filter hother) (List.mem_of_mem_filter hmarker)
          ((String.append_right_inj _).mp hkey)
        rw [(seen_read h hempty hplan hother hplant hplanted hplanned).1 hlets]
        exact residualPresent_answer hascii (hplain other hother)
  · obtain ⟨before, step, later, hplan, rfl⟩ := (responder stack).mem_results.mp hresult
    obtain ⟨marker, hmarker, hplanted | ⟨observer, hobserver, hread, plant, hplant, hplanted⟩⟩ :=
      plan_cases hplan
    · rintro ⟨f, hf, hconfirmed⟩
      refine absurd hconfirmed (unconfirmed_empty hascii ?_ f hf)
      simp only [responder, if_pos (plant_fields hplanted).2.1]
    · rintro ⟨f, hf, hconfirmed⟩
      obtain ⟨rfl, -, -⟩ := read_fields hread
      refine ⟨marker, hmarker, hobserver, ?_⟩
      by_contra hlets
      exact unconfirmed_empty hascii
        ((seen_read h hempty hplan hmarker hplant hplanted hread).2 hlets) f hf hconfirmed

/-- The substrate of a scenario against a cache that begins empty: Class 4 confirms a canary for exactly
the foreign principals that the cache does not tell from its owner. -/
theorem cache_exact [Lower] [Hashlib] [UuidText] [Decimals] [JsonLimits] [FloatText] {ρ : Type}
    [RandomSource ρ] {scenario : Scenario} {substrate : Substrate}
    (hbuilt : buildSubstrate ρ scenario = .ok substrate)
    (hshort : (scenario.tenants.map fun tenantSpec => shortId tenantSpec.tenantId).Nodup)
    (hascii : Unicode.OnAscii) (providers : DetectionProviders) (stack : FakeStack)
    (s : RunnerState FakeStack.World) (hempty : s.world .cache = ∅) :
    ∃ results s', (stack.runner substrate).runPerStep (probe providers) s = (.ok results, s') ∧
      ExactVerdict substrate (substrate.markersOf .hardCanary)
        (fun observer marker => stack.cache.Lets observer marker.owner) results :=
  exact_on_fakes hascii providers stack (seeded_buildSubstrate hbuilt hshort) s hempty

end SemanticCacheProbe

end Run

section Sample

attribute [local instance] Unicode.ascii Lower.ascii Hashlib.real UuidText.digits Decimals.ascii
  JsonLimits.default FloatText.halves MathSqrt.exact RandomSource.zeros

/-- Two tenants whose entries are kept under one key. -/
theorem SemanticCacheProbe.cache_exact_unscoped : ∃ substrate results s',
    let stack : FakeStack := { cache := { tenantScoped := false } }
    buildSubstrate Unit (sampleScenario 1 0x80000000000000000000000000000000) = .ok substrate ∧
      (stack.runner substrate).runPerStep (probe denying) { world := FakeStack.empty stack } =
        (.ok results, s') ∧
      ExactVerdict substrate (substrate.markersOf .hardCanary)
        (fun observer marker => stack.cache.Lets observer marker.owner) results := by
  obtain ⟨substrate, hbuilt⟩ := sampleScenario_builds 1 0x80000000000000000000000000000000
  obtain ⟨results, s', hrun, hexact⟩ := SemanticCacheProbe.cache_exact hbuilt
    sampleScenario_shortIds Unicode.ascii_onAscii denying { cache := { tenantScoped := false } }
    { world := FakeStack.empty _ } rfl
  exact ⟨substrate, results, s', hbuilt, hrun, hexact⟩

end Sample

end Sectum
