import Sectum.Core.Embeddings
import Sectum.Lib.KeyedMerge

/-! A bridge serves each text in its mode, and no text is embedded twice in one, whichever requests
fail. -/

namespace Sectum

open Py

variable {V : Type}

theorem flatten_chunksOf {size : Nat} (hsize : 0 < size) (texts : List String) :
    (chunksOf size texts).flatten = texts := by
  have htake : ∀ count, ((List.range count).map fun k => (texts.drop (k * size)).take size).flatten =
      texts.take (count * size) := by
    intro count
    induction count with
    | zero => simp
    | succ count ih =>
      rw [List.range_succ, List.map_append, List.flatten_append, ih, List.map_singleton,
        List.flatten_singleton, Nat.succ_mul, List.take_add]
  rw [chunksOf, htake]
  apply List.take_of_length_le
  have hdiv := Nat.div_add_mod (texts.length + size - 1) size
  have hmod := Nat.mod_lt (texts.length + size - 1) hsize
  rw [Nat.mul_comm] at hdiv
  omega

namespace BridgeState

/-- The texts of the batches of a mode that succeeded. -/
def embedded (state : BridgeState V) (mode : EmbedMode) : List String :=
  (state.sent.filter fun request => request.1 = mode ∧ request.2.2 = true).flatMap fun request =>
    request.2.1

theorem lookup_update {chunk : List String} {f : String → V} (cache : Dict String V) (text : String) :
    ((chunk.zip (chunk.map f)).foldl (fun cache entry => cache.set entry.1 entry.2) cache).lookup text =
      if text ∈ chunk then some (f text) else cache.lookup text := by
  induction chunk generalizing cache with
  | nil => simp
  | cons first chunk ih =>
    rw [List.map_cons, List.zip_cons_cons, List.foldl_cons, ih, Dict.lookup_set]
    by_cases hmem : text ∈ chunk
    · simp [hmem]
    · by_cases hfirst : text = first
      · simp [hfirst]
      · simp [hmem, hfirst]

theorem lookup_store (state : BridgeState V) (mode mode' : EmbedMode) (chunk : List String)
    (f : String → V) (text : String) :
    ((state.store mode chunk (chunk.map f)).cache mode').lookup text =
      if mode' = mode ∧ text ∈ chunk then some (f text) else (state.cache mode').lookup text := by
  cases mode <;> cases mode' <;> simp [store, cache, lookup_update]

theorem store_sent (state : BridgeState V) (mode : EmbedMode) (chunk : List String) (vectors : List V) :
    (state.store mode chunk vectors).sent = state.sent ∧
      (state.store mode chunk vectors).queryTexts = state.queryTexts := by
  cases mode <;> exact ⟨rfl, rfl⟩

end BridgeState

/-- What holds of a bridge: it has the vectors of what was embedded, and of nothing else; nothing was
embedded twice; and it knows the queries that it was given, of which the embedded ones are some. -/
structure Serves (provider : Provider V) (registered : List String) (state : BridgeState V) : Prop where
  cached : ∀ mode text, (state.cache mode).lookup text =
    if text ∈ state.embedded mode then some (provider.vector mode text) else none
  once : ∀ mode, (state.embedded mode).Nodup
  queries : ∀ text ∈ state.embedded .query, text ∈ registered
  registered : ∀ text, text ∈ state.queryTexts ↔ text ∈ registered

/-- That nothing is lost. -/
structure Keeps (state after : BridgeState V) : Prop where
  embedded : ∀ mode, state.embedded mode <+: after.embedded mode
  queryTexts : state.queryTexts <+: after.queryTexts

theorem Keeps.refl (state : BridgeState V) : Keeps state state :=
  ⟨fun _ => List.prefix_rfl, List.prefix_rfl⟩

theorem Keeps.trans {first second third : BridgeState V} (h : Keeps first second)
    (h' : Keeps second third) : Keeps first third :=
  ⟨fun mode => (h.embedded mode).trans (h'.embedded mode), h.queryTexts.trans h'.queryTexts⟩

theorem callEmbedder_eq_ok [Unicode] {name : String}
    {embed : List String → Except ProviderError (List V)} {texts : List String} {vectors : List V} :
    callEmbedder name embed texts = .ok vectors ↔
      embed texts = .ok vectors ∧ vectors.length = texts.length := by
  unfold callEmbedder
  split
  · rename_i h
    simp [h]
  · rename_i h
    simp [h]
  · rename_i answered h
    rw [h]
    split
    · rename_i hlength
      refine iff_of_false (by simp) ?_
      rintro ⟨heq, hok⟩
      rw [Except.ok.inj heq] at hlength
      exact hlength hok
    · rename_i hlength
      constructor
      · intro heq
        rw [← Except.ok.inj heq]
        exact ⟨rfl, not_not.mp hlength⟩
      · rintro ⟨heq, -⟩
        rw [Except.ok.inj heq]

namespace EmbedderBridge

variable [Unicode] {bridge : EmbedderBridge V} {registered : List String} {state : BridgeState V}
  {mode : EmbedMode}

/-- What a filling of a cache leaves: some of the texts, from the first on, are embedded, and all where
it returns. -/
structure Filled (bridge : EmbedderBridge V) (registered : List String) (mode : EmbedMode)
    (texts : List String) (state : BridgeState V) (outcome : Except BridgeError Unit × BridgeState V) :
    Prop where
  serves : Serves bridge.model registered outcome.2
  others : ∀ mode', mode' ≠ mode → outcome.2.embedded mode' = state.embedded mode'
  queryTexts : outcome.2.queryTexts = state.queryTexts
  done : ∃ done, done <+: texts ∧ outcome.2.embedded mode = state.embedded mode ++ done ∧
    (outcome.1 = .ok () → done = texts)
  raises : ∀ text, outcome.1 ≠ .error (.keyError text)

/-- Texts that may be embedded in a mode. -/
structure Fresh (registered : List String) (mode : EmbedMode) (texts : List String)
    (state : BridgeState V) : Prop where
  nodup : texts.Nodup
  notMem : ∀ text ∈ texts, text ∉ state.embedded mode
  queries : mode = .query → ∀ text ∈ texts, text ∈ registered

omit [Unicode] in
theorem embedded_sent (state : BridgeState V) (mode mode' : EmbedMode) (chunk : List String)
    (succeeded : Bool) :
    ({ state with sent := state.sent ++ [(mode, chunk, succeeded)] } : BridgeState V).embedded mode' =
      state.embedded mode' ++ if mode = mode' ∧ succeeded = true then chunk else [] := by
  unfold BridgeState.embedded
  rw [List.filter_append, List.flatMap_append]
  congr 1
  by_cases h : mode = mode' ∧ succeeded = true
  · simp [h]
  · rw [if_neg h, List.filter_singleton]
    simp [h]

/-- The bridge with a batch that succeeded. -/
def stored (bridge : EmbedderBridge V) (mode : EmbedMode) (chunk : List String)
    (state : BridgeState V) : BridgeState V :=
  { state.store mode chunk (chunk.map (bridge.model.vector mode)) with
    sent := state.sent ++ [(mode, chunk, true)] }

omit [Unicode] in
theorem embedded_stored (mode' : EmbedMode) (chunk : List String) :
    (stored bridge mode chunk state).embedded mode' =
      state.embedded mode' ++ if mode = mode' then chunk else [] := by
  have hsent := embedded_sent state mode mode' chunk true
  simp only [and_true] at hsent
  exact hsent

omit [Unicode] in
theorem lookup_stored (mode' : EmbedMode) (chunk : List String) (text : String) :
    ((stored bridge mode chunk state).cache mode').lookup text =
      if mode' = mode ∧ text ∈ chunk then some (bridge.model.vector mode text)
      else (state.cache mode').lookup text := by
  rw [← BridgeState.lookup_store]
  cases mode' <;> rfl

omit [Unicode] in
theorem filled_stored {chunk : List String} (h : Serves bridge.model registered state)
    (hfresh : Fresh registered mode chunk state) :
    Filled bridge registered mode chunk state (.ok (), stored bridge mode chunk state) := by
  have hqueryTexts : (stored bridge mode chunk state).queryTexts = state.queryTexts :=
    (BridgeState.store_sent state mode chunk _).2
  refine ⟨⟨?_, ?_, ?_, ?_⟩, ?_, hqueryTexts, ⟨chunk, List.prefix_rfl, ?_, fun _ => rfl⟩, ?_⟩
  · intro mode' text
    show ((stored bridge mode chunk state).cache mode').lookup text =
      if text ∈ (stored bridge mode chunk state).embedded mode' then _ else _
    rw [lookup_stored, embedded_stored, h.cached]
    by_cases hmode : mode = mode'
    · subst hmode
      by_cases hmem : text ∈ chunk <;> simp [hmem]
    · simp [hmode, Ne.symm hmode]
  · intro mode'
    show ((stored bridge mode chunk state).embedded mode').Nodup
    rw [embedded_stored]
    split
    · rename_i hmode
      subst hmode
      refine List.nodup_append.mpr ⟨h.once mode, hfresh.nodup, fun text hold other hnew heq => ?_⟩
      exact hfresh.notMem other hnew (heq ▸ hold)
    · rw [List.append_nil]
      exact h.once mode'
  · intro text hmem
    replace hmem : text ∈ (stored bridge mode chunk state).embedded .query := hmem
    rw [embedded_stored] at hmem
    split at hmem
    · rename_i hmode
      exact (List.mem_append.mp hmem).elim (h.queries text) (hfresh.queries hmode text)
    · rw [List.append_nil] at hmem
      exact h.queries text hmem
  · intro text
    show text ∈ (stored bridge mode chunk state).queryTexts ↔ _
    rw [hqueryTexts]
    exact h.registered text
  · intro mode' hmode
    show (stored bridge mode chunk state).embedded mode' = _
    rw [embedded_stored, if_neg (Ne.symm hmode), List.append_nil]
  · show (stored bridge mode chunk state).embedded mode = _
    rw [embedded_stored, if_pos rfl]
  · simp

theorem embedBatch_filled {chunk : List String} (h : Serves bridge.model registered state)
    (hfresh : Fresh registered mode chunk state) :
    Filled bridge registered mode chunk state (bridge.embedBatch mode chunk state) := by
  unfold embedBatch
  split
  · rename_i raised hcall
    have hsame : ∀ mode', ({ state with sent := state.sent ++ [(mode, chunk, false)] } :
        BridgeState V).embedded mode' = state.embedded mode' := by
      intro mode'
      rw [embedded_sent]
      simp
    refine ⟨⟨?_, ?_, ?_, h.registered⟩, fun mode' _ => hsame mode', rfl, ⟨[], List.nil_prefix, ?_, ?_⟩,
      ?_⟩
    · intro mode' text
      rw [hsame]
      exact h.cached mode' text
    · intro mode'
      rw [hsame]
      exact h.once mode'
    · intro text
      rw [hsame]
      exact h.queries text
    · rw [hsame, List.append_nil]
    · simp
    · simp
  · rename_i vectors hcall
    obtain ⟨hanswer, hlength⟩ := callEmbedder_eq_ok.mp hcall
    obtain rfl := bridge.model.faithful mode _ chunk vectors hanswer hlength
    exact filled_stored h hfresh

theorem embedBatches_filled {chunks : List (List String)} (h : Serves bridge.model registered state)
    (hfresh : Fresh registered mode chunks.flatten state) :
    Filled bridge registered mode chunks.flatten state (bridge.embedBatches mode chunks state) := by
  induction chunks generalizing state with
  | nil =>
    exact ⟨h, fun _ _ => rfl, rfl, ⟨[], List.nil_prefix, (List.append_nil _).symm, fun _ => rfl⟩,
      by simp [embedBatches, Call.pure]⟩
  | cons chunk chunks ih =>
    rw [List.flatten_cons] at hfresh ⊢
    obtain ⟨hchunk, hchunks, hdisjoint⟩ := List.nodup_append.mp hfresh.nodup
    have hfirst := embedBatch_filled h ⟨hchunk, fun text hmem => hfresh.notMem text
      (List.mem_append_left _ hmem), fun hmode text hmem => hfresh.queries hmode text
      (List.mem_append_left _ hmem)⟩
    unfold embedBatches Call.bind
    obtain ⟨done, hprefix, hembedded, hall⟩ := hfirst.done
    cases houtcome : bridge.embedBatch mode chunk state with
    | mk result between =>
      rw [houtcome] at hfirst hembedded hall
      cases result with
      | error e =>
        exact ⟨hfirst.serves, hfirst.others, hfirst.queryTexts,
          ⟨done, hprefix.trans (List.prefix_append _ _), hembedded, by simp⟩, hfirst.raises⟩
      | ok =>
        obtain rfl := hall rfl
        have hrest := ih hfirst.serves ⟨hchunks, fun text hmem hold => ?_, fun hmode text hmem =>
          hfresh.queries hmode text (List.mem_append_right _ hmem)⟩
        · obtain ⟨more, hmore, hembeddedMore, hallMore⟩ := hrest.done
          refine ⟨hrest.serves, fun mode' hmode => ?_, ?_, ⟨done ++ more, ?_, ?_, ?_⟩, hrest.raises⟩
          · rw [hrest.others mode' hmode]
            exact hfirst.others mode' hmode
          · rw [hrest.queryTexts]
            exact hfirst.queryTexts
          · exact (List.prefix_append_right_inj done).mpr hmore
          · rw [hembeddedMore, hembedded, List.append_assoc]
          · exact fun hok => by rw [hallMore hok]
        · rw [hembedded] at hold
          rcases List.mem_append.mp hold with hold | hold
          · exact hfresh.notMem text (List.mem_append_right _ hmem) hold
          · exact hdisjoint text hold text hmem rfl

omit [Unicode] in
theorem mem_cache (h : Serves bridge.model registered state) (mode : EmbedMode) (text : String) :
    text ∈ state.cache mode ↔ text ∈ state.embedded mode := by
  rw [Dict.mem_iff_lookup, h.cached]
  split <;> simp [*]

theorem fill_filled {texts : List String} (h : Serves bridge.model registered state)
    (hqueries : mode = .query → ∀ text ∈ texts, text ∈ registered) :
    ∃ missing, Filled bridge registered mode missing state (bridge.fill mode texts state) ∧
      ((bridge.fill mode texts state).1 = .ok () →
        ∀ text ∈ texts, text ∈ (bridge.fill mode texts state).2.embedded mode) := by
  let missing := texts.eraseDups.filter fun text => text ∉ state.cache mode
  have hmem : ∀ text, text ∈ missing ↔ text ∈ texts ∧ text ∉ state.embedded mode := by
    intro text
    rw [List.mem_filter, List.mem_eraseDups, decide_eq_true_eq, mem_cache h]
  have hflatten := flatten_chunksOf bridge.batchSize_pos missing
  have hfilled := @embedBatches_filled _ _ _ _ _ mode (chunksOf bridge.batchSize missing) h ⟨by
    rw [hflatten]
    exact (KeyedMerge.nodup_eraseDups texts).filter _, fun text hmissing => by
      rw [hflatten] at hmissing
      exact ((hmem text).mp hmissing).2, fun hmode text hmissing => by
      rw [hflatten] at hmissing
      exact hqueries hmode text ((hmem text).mp hmissing).1⟩
  rw [hflatten] at hfilled
  refine ⟨missing, hfilled, fun hok text htext => ?_⟩
  obtain ⟨done, -, hembedded, hall⟩ := hfilled.done
  show text ∈ (bridge.embedBatches mode (chunksOf bridge.batchSize missing) state).2.embedded mode
  rw [hembedded, hall hok, List.mem_append, hmem]
  by_cases hold : text ∈ state.embedded mode
  · exact .inl hold
  · exact .inr ⟨htext, hold⟩

omit [Unicode] in
theorem Filled.keeps {texts : List String} {outcome : Except BridgeError Unit × BridgeState V}
    (h : Filled bridge registered mode texts state outcome) : Keeps state outcome.2 := by
  refine ⟨fun mode' => ?_, by rw [h.queryTexts]⟩
  by_cases hmode : mode' = mode
  · obtain ⟨done, -, hembedded, -⟩ := h.done
    rw [hmode, hembedded]
    exact List.prefix_append _ _
  · rw [h.others mode' hmode]

omit [Unicode] in
/-- The bridge with some more queries, before any of them is embedded. -/
theorem Serves.register (h : Serves bridge.model registered state) (texts : List String) :
    Serves bridge.model (registered ++ texts)
      { state with queryTexts := state.queryTexts ++ texts.eraseDups } := by
  refine ⟨?_, h.once, fun text hmem => List.mem_append_left _ (h.queries text hmem), fun text => ?_⟩
  · intro mode text
    cases mode with
    | document => exact h.cached .document text
    | query => exact h.cached .query text
  · rw [List.mem_append, List.mem_append, List.mem_eraseDups, h.registered]

/-- What an operation leaves, whether it fails or not. -/
structure Performed {α : Type} (bridge : EmbedderBridge V) (registered : List String)
    (state : BridgeState V) (outcome : Except BridgeError α × BridgeState V) : Prop where
  serves : Serves bridge.model registered outcome.2
  keeps : Keeps state outcome.2
  raises : ∀ text, outcome.1 ≠ .error (.keyError text)

omit [Unicode] in
theorem Filled.performed {texts : List String} {outcome : Except BridgeError Unit × BridgeState V}
    (h : Filled bridge registered mode texts state outcome) :
    Performed bridge registered state outcome :=
  ⟨h.serves, h.keeps, h.raises⟩

omit [Unicode] in
theorem Performed.map {α β : Type} {call : Call (BridgeState V) BridgeError α} (f : α → β)
    (h : Performed bridge registered state (call state)) :
    Performed bridge registered state (call.map f state) := by
  unfold Call.map
  cases houtcome : call state with
  | mk result after =>
    rw [houtcome] at h
    cases result with
    | ok a => exact ⟨h.serves, h.keeps, by simp⟩
    | error e => exact ⟨h.serves, h.keeps, fun text heq => h.raises text (by cases heq; rfl)⟩

theorem prefetch_performed (h : Serves bridge.model registered state) (texts : List String) :
    Performed bridge registered state (bridge.prefetch texts state) ∧
      ((bridge.prefetch texts state).1 = .ok () →
        ∀ text ∈ texts, text ∈ (bridge.prefetch texts state).2.embedded .document) := by
  have hqueries : EmbedMode.document = .query → ∀ text ∈ texts, text ∈ registered := by simp
  obtain ⟨_, hfilled, hall⟩ := fill_filled h hqueries
  exact ⟨hfilled.performed, hall⟩

theorem prefetchQueries_performed (h : Serves bridge.model registered state) (texts : List String) :
    Performed bridge (registered ++ texts) state (bridge.prefetchQueries texts state) ∧
      (bridge.prefetchQueries texts state).2.embedded .document = state.embedded .document ∧
      ((bridge.prefetchQueries texts state).1 = .ok () → ∀ text ∈ texts,
        text ∉ state.embedded .document →
          text ∈ (bridge.prefetchQueries texts state).2.embedded .query) := by
  let unindexed := texts.eraseDups.filter fun text => text ∉ state.documents
  have hmem : ∀ text, text ∈ unindexed ↔ text ∈ texts ∧ text ∉ state.embedded .document := by
    intro text
    rw [List.mem_filter, List.mem_eraseDups, decide_eq_true_eq]
    exact and_congr_right fun _ => not_congr (mem_cache h .document text)
  obtain ⟨_, hfilled, hall⟩ := @fill_filled _ _ _ _ _ .query unindexed (Serves.register h texts)
    fun _ text hunindexed => List.mem_append_right _ ((hmem text).mp hunindexed).1
  have hregistered : Keeps state { state with queryTexts := state.queryTexts ++ texts.eraseDups } :=
    ⟨fun _ => List.prefix_rfl, List.prefix_append _ _⟩
  exact ⟨⟨hfilled.serves, hregistered.trans hfilled.keeps, hfilled.raises⟩,
    hfilled.others .document (by simp), fun hok text htext hindexed =>
      hall hok text ((hmem text).mpr ⟨htext, hindexed⟩)⟩

/-- The vector that a text is to be served with. -/
def servedVector (bridge : EmbedderBridge V) (registered : List String) (after : BridgeState V)
    (text : String) : V :=
  if text ∈ after.embedded .document then bridge.model.vector .document text
  else if text ∈ registered then bridge.model.vector .query text
  else bridge.model.vector .document text

omit [Unicode] in
theorem Performed.congr {α : Type} {registered' : List String}
    {outcome : Except BridgeError α × BridgeState V} (h : Performed bridge registered state outcome)
    (hsame : ∀ text, text ∈ registered ↔ text ∈ registered') :
    Performed bridge registered' state outcome :=
  ⟨⟨h.serves.cached, h.serves.once, fun text hmem => (hsame text).mp (h.serves.queries text hmem),
    fun text => (h.serves.registered text).trans (hsame text)⟩, h.keeps, h.raises⟩

omit [Unicode] in
/-- A filling and a look at what was filled. -/
theorem bind_subscript {filled : Call (BridgeState V) BridgeError Unit} {text : String}
    (h : Performed bridge registered state (filled state))
    (hmem : (filled state).1 = .ok () → text ∈ (filled state).2.embedded mode) :
    Performed bridge registered state ((filled.bind fun _ => subscript mode text) state) ∧
      ((filled.bind fun _ => subscript mode text) state).2 = (filled state).2 ∧
      ∀ v, ((filled.bind fun _ => subscript mode text) state).1 = .ok v →
        text ∈ (filled state).2.embedded mode ∧ v = bridge.model.vector mode text := by
  unfold Call.bind
  cases houtcome : filled state with
  | mk result after =>
    rw [houtcome] at h hmem
    cases result with
    | error e =>
      exact ⟨⟨h.serves, h.keeps, fun text heq => h.raises text (by cases heq; rfl)⟩, rfl, by simp⟩
    | ok =>
      have hembedded := hmem rfl
      have hlookup : (after.cache mode).lookup text = some (bridge.model.vector mode text) := by
        rw [h.serves.cached, if_pos hembedded]
      have hsubscript : subscript (V := V) mode text after =
          (.ok (bridge.model.vector mode text), after) := by
        rw [subscript, hlookup]
      dsimp only
      rw [hsubscript]
      exact ⟨⟨h.serves, h.keeps, by simp⟩, rfl, fun v hv => ⟨hembedded, (Except.ok.inj hv).symm⟩⟩

theorem call_performed (h : Serves bridge.model registered state) (text : String) :
    Performed bridge registered state (bridge.call text state) ∧
      ∀ v, (bridge.call text state).1 = .ok v →
        v = servedVector bridge registered (bridge.call text state).2 text ∧
          (text ∉ registered → text ∈ (bridge.call text state).2.embedded .document) := by
  have hdocuments : state.documents.lookup text = _ := h.cached .document text
  have hqueries : state.queries.lookup text = _ := h.cached .query text
  unfold call
  rw [hdocuments, hqueries]
  by_cases hindexed : text ∈ state.embedded .document
  · rw [if_pos hindexed, Option.some_or]
    dsimp only
    refine ⟨⟨h, .refl state, by simp⟩, fun v hv => ⟨?_, fun _ => hindexed⟩⟩
    rw [servedVector, if_pos hindexed]
    exact (Except.ok.inj hv).symm
  · rw [if_neg hindexed, Option.none_or]
    by_cases hcached : text ∈ state.embedded .query
    · have hregistered := h.queries text hcached
      rw [if_pos hcached]
      dsimp only
      refine ⟨⟨h, .refl state, by simp⟩, fun v hv => ⟨?_, fun hnot => absurd hregistered hnot⟩⟩
      rw [servedVector, if_neg hindexed, if_pos hregistered]
      exact (Except.ok.inj hv).symm
    · rw [if_neg hcached]
      dsimp only
      by_cases hregistered : text ∈ state.queryTexts
      · rw [if_pos hregistered]
        have hknown := (h.registered text).mp hregistered
        obtain ⟨hperformed, hothers, hall⟩ := prefetchQueries_performed h [text]
        have hsame : ∀ other, other ∈ registered ++ [text] ↔ other ∈ registered := by
          intro other
          rw [List.mem_append, List.mem_singleton]
          exact or_iff_left_of_imp fun heq => heq ▸ hknown
        obtain ⟨hbound, hafter, hvector⟩ := bind_subscript (hperformed.congr hsame)
          fun hok => hall hok text (List.mem_singleton_self text) hindexed
        refine ⟨hbound, fun v hv => ⟨?_, fun hnot => absurd hknown hnot⟩⟩
        rw [hafter, servedVector, hothers, if_neg hindexed, if_pos hknown]
        exact (hvector v hv).2
      · rw [if_neg hregistered]
        obtain ⟨hperformed, hall⟩ := prefetch_performed h [text]
        obtain ⟨hbound, hafter, hvector⟩ := bind_subscript hperformed
          fun hok => hall hok text (List.mem_singleton_self text)
        refine ⟨hbound, fun v hv => ?_⟩
        obtain ⟨hembedded, rfl⟩ := hvector v hv
        rw [hafter]
        exact ⟨by rw [servedVector, if_pos hembedded], fun _ => hembedded⟩

/-- What an operation registers. -/
def Operation.registers : Operation → List String
  | .prefetch _ => []
  | .prefetchQueries texts => texts
  | .call _ => []

theorem perform_performed (h : Serves bridge.model registered state) (operation : Operation) :
    Performed bridge (registered ++ operation.registers) state (bridge.perform operation state) := by
  cases operation with
  | prefetch texts =>
    rw [Operation.registers, List.append_nil]
    exact (prefetch_performed h texts).1.map _
  | prefetchQueries texts => exact (prefetchQueries_performed h texts).1.map _
  | call text =>
    rw [Operation.registers, List.append_nil]
    exact (call_performed h text).1.map _

theorem after_serves (history : List Operation) :
    Serves bridge.model (history.flatMap Operation.registers) (bridge.after history) := by
  induction history using List.reverseRecOn with
  | nil => exact ⟨fun mode text => by cases mode <;> rfl, fun _ => List.nodup_nil, by
      simp [BridgeState.embedded, after], by simp [after]⟩
  | append_singleton history operation ih =>
    rw [after, List.foldl_append, List.flatMap_append, List.flatMap_singleton]
    exact (perform_performed ih operation).serves

/-- Whatever a bridge was asked for before and whichever requests failed: a call that returns serves
the text in its mode; no text was embedded twice in a mode; an operation keeps the vectors and the
queries that there were, and its own queries, and what is embedded is cached; and no call looks for
what is not there. -/
theorem bridge_serves (bridge : EmbedderBridge V) (history : List Operation) :
    (∀ text v, (bridge.call text (bridge.after history)).1 = .ok v →
      v = servedVector bridge (history.flatMap Operation.registers)
        (bridge.call text (bridge.after history)).2 text ∧
      (text ∉ history.flatMap Operation.registers →
        text ∈ (bridge.call text (bridge.after history)).2.embedded .document)) ∧
    (∀ mode, ((bridge.after history).embedded mode).Nodup) ∧
    (∀ mode text, ((bridge.after history).cache mode).lookup text =
      if text ∈ (bridge.after history).embedded mode then some (bridge.model.vector mode text)
      else none) ∧
    (∀ text, text ∈ (bridge.after history).queryTexts ↔
      text ∈ history.flatMap Operation.registers) ∧
    ∀ operation, Keeps (bridge.after history) (bridge.perform operation (bridge.after history)).2 ∧
      ∀ text, (bridge.perform operation (bridge.after history)).1 ≠ .error (.keyError text) := by
  have h := @after_serves _ _ bridge history
  exact ⟨fun text v => (call_performed h text).2 v, h.once, h.cached, h.registered, fun operation =>
    ⟨(perform_performed h operation).keeps, (perform_performed h operation).raises⟩⟩

end EmbedderBridge

section Sample

open EmbedderBridge

attribute [local instance] Unicode.ascii

/-- A model that answers every second of its requests, with the mode and the text of each vector. -/
def everySecond : Provider (EmbedMode × String) where
  name := "every-second"
  embed request texts :=
    if request % 2 = 0 then .ok (texts.map (Prod.mk .document))
    else .error (.other "RateLimitError")
  embedQueries := some fun request texts =>
    if request % 2 = 0 then .ok (texts.map (Prod.mk .query))
    else .error (.sectum ⟨.adapterError, "the quota is spent"⟩)
  vector := Prod.mk
  faithful mode request texts vectors h _ := by
    cases mode <;> unfold EmbeddingModel.ask at h <;> simp only [Option.getD_some] at h <;>
    · split at h
      · exact (Except.ok.inj h).symm
      · cases h

/-- One text a batch. -/
def narrowBridge : EmbedderBridge (EmbedMode × String) := ⟨everySecond, 1, Nat.one_pos⟩

/-- A batch of each filling fails. -/
def interleaved : List Operation :=
  [.prefetch ["a", "b", "a"], .prefetchQueries ["a", "q", "r"], .call "q", .call "b",
    .prefetch ["b", "c"]]

/-- A query the batch of which failed is still served as a query, and a document the batch of which failed
as a document. -/
theorem EmbedderBridge.bridge_serves_interleaved :
    (narrowBridge.after interleaved).sent.map (fun request => request.2.2) =
        [true, false, true, false, true, false] ∧
      (narrowBridge.call "r" (narrowBridge.after interleaved)).1 = .ok (.query, "r") ∧
      (narrowBridge.call "b" (narrowBridge.after interleaved)).1 = .ok (.document, "b") ∧
      ∀ mode, ((narrowBridge.after interleaved).embedded mode).Nodup := by
  obtain ⟨hserved, honce, -⟩ := bridge_serves narrowBridge interleaved
  have hcall : ∀ text expected, (narrowBridge.call text
      (narrowBridge.after interleaved)).1.toOption.isSome = true →
        servedVector narrowBridge (interleaved.flatMap Operation.registers)
          (narrowBridge.call text (narrowBridge.after interleaved)).2 text = expected →
            (narrowBridge.call text (narrowBridge.after interleaved)).1 = .ok expected := by
    intro text expected hsome hexpected
    cases houtcome : (narrowBridge.call text (narrowBridge.after interleaved)).1 with
    | error e =>
      rw [houtcome] at hsome
      cases hsome
    | ok v => rw [(hserved text v houtcome).1, hexpected]
  exact ⟨by decide +kernel, hcall _ _ (by decide +kernel) (by decide +kernel),
    hcall _ _ (by decide +kernel) (by decide +kernel), honce⟩

end Sample

end Sectum
