import Sectum.Adapters.Fakes
import Sectum.Core.SequenceRate
import Sectum.Lib.DictItems
import Sectum.Lib.Parties

/-! The in-memory stack with its leak knobs off keeps its tenants apart: what the sessions of a
tenant are answered, in any interleaving with the sessions of other tenants, is what they are
answered alone. -/

namespace Sectum

open Py Parties

section Calls

/-- What a fake answers. -/
inductive FakeAnswer
  | done
  | raised (e : Raised)
  | hits (hits : List VectorHit)
  | hit (hit : Option VectorHit)
  | value (value : Option String)
  | texts (texts : List String)
  | text (text : String)
  | servedBy (tenant : Option UUID)
  | latency (ms : ℚ)
  | traces (traces : List TraceHit)
  | trace (trace : Option TraceHit)
  | answered (answer : RagAnswer)
  | ran (result : AgentResult)
  | invoked (result : Except Raised McpResult)

def FakeAnswer.of (result : Except Raised Unit) : FakeAnswer :=
  match result with
  | .ok () => done
  | .error e => raised e

inductive VectorCall
  | upsert (documents : List CorpusDocument)
  | query (text : String) (k : Int)
  | fetch (docId : String)
  | delete

inductive RagCall
  | index (documents : List CorpusDocument)
  | ask (query : String)

inductive CacheCall
  | get (key : String)
  | set (key value : String)
  | values
  | delete

inductive MemoryCall
  | remember (text : String)
  | recalled (query : String)
  | delete

inductive ModelCall
  | train (texts : List String)
  | infer (prompt : String)
  | servedBy (prompt : String)
  | measureLatency (prompt : String)
  | delete

inductive TraceCall
  | recorded (project text : String)
  | search (marker : String)
  | fetch (traceId : String)
  | delete

inductive TextCall
  | add (text : String)
  | search (query : String)
  | delete

inductive AgentCall
  | provision (key value : String)
  | run (task : String)

/-- A server of the chain is provisioned by its place in it. -/
inductive McpCall
  | provision (server : Nat) (key value : String)
  | injectDescription (server : Nat) (key description : String)
  | invoke (tool : String) (arguments : Dict String String)

end Calls

section Systems

variable [Unicode] [Lower] [Hashlib] [UuidText]

def FakeVectorStore.system (store : FakeVectorStore) :
    System Holdings Principal VectorCall FakeAnswer where
  step p call held :=
    match call with
    | .upsert documents => (.done, upsert p.tenantId documents held)
    | .query text k => (.hits (store.query p held text k), held)
    | .fetch docId => (.hit (store.fetch p held docId), held)
    | .delete => (.done, store.delete held p.tenantId)

def FakeRAGPipeline.system (pipeline : FakeRAGPipeline) :
    System Holdings Principal RagCall FakeAnswer where
  step p call held :=
    match call with
    | .index documents => (.done, index p.tenantId documents held)
    | .ask query => (.answered (pipeline.ask p.tenantId query held), held)

def FakeCache.system (cache : FakeCache) :
    System (Dict String String) Principal CacheCall FakeAnswer where
  step p call store :=
    match call with
    | .get key => (.value (cache.get p key store), store)
    | .set key value => (.done, cache.set p key value store)
    | .values => (.texts (cache.values p.tenantId store), store)
    | .delete => (.done, cache.delete p.tenantId store)

def FakeMemory.system (memory : FakeMemory) : System Notes Principal MemoryCall FakeAnswer where
  step p call notes :=
    match call with
    | .remember text => (.done, remember p text notes)
    | .recalled query => (.texts (memory.recall p query notes), notes)
    | .delete => (.done, memory.delete p.tenantId notes)

def FakeModel.system (model : FakeModel) : System ModelState Principal ModelCall FakeAnswer where
  step p call s :=
    match call with
    | .train texts => (.done, trainAdapter p texts s)
    | .infer prompt => (.text (model.response p prompt s), warm prompt s)
    | .servedBy prompt => (.servedBy (model.servedBy p prompt s), s)
    | .measureLatency prompt => (.latency (model.latency prompt s), s)
    | .delete => (.done, model.delete p.tenantId s)

def FakeObservability.system (backend : FakeObservability) :
    System Traces Principal TraceCall FakeAnswer where
  step p call traces :=
    match call with
    | .recorded project text =>
      let recorded := «record» p.tenantId project text traces
      (.text recorded.1, recorded.2)
    | .search marker => (.traces (searchTraces p.tenantId marker traces), traces)
    | .fetch traceId => (.trace (fetchTrace p.tenantId traceId traces), traces)
    | .delete =>
      let deleted := backend.delete p.tenantId traces
      (.of deleted.1, deleted.2)

def FakeTextStore.system (store : FakeTextStore) :
    System Texts Principal TextCall FakeAnswer where
  step p call texts :=
    match call with
    | .add text => (.done, add p.tenantId text texts)
    | .search query => (.texts (search p.tenantId query texts), texts)
    | .delete =>
      let deleted := store.delete p.tenantId texts
      (.of deleted.1, deleted.2)

def FakeAgent.system (agent : FakeAgent) : System Resources Principal AgentCall FakeAnswer where
  step p call resources :=
    match call with
    | .provision key value => (.done, provision p.tenantId key value resources)
    | .run task => (.ran (agent.run p.tenantId task resources), resources)

/-- The state of a chain is that of each of its servers, which are there from the start. -/
def FakeMCP.system (servers : List FakeMCP) :
    System (List McpState) Principal McpCall FakeAnswer where
  step p call states :=
    match call with
    | .provision server key value =>
      (.done, states.modify server (provision p.tenantId key value p.userId))
    | .injectDescription server key description =>
      (.done, states.modify server (injectDescription key description))
    | .invoke tool arguments =>
      (.invoked (invoke (servers.zip states) p tool arguments), states)

end Systems

section Tenants

/-- The sessions of a tenant. -/
def ofTenant (tenant : UUID) (p : Principal) : Bool := p.tenantId = tenant

theorem ofTenant_true {tenant : UUID} {p : Principal} : ofTenant tenant p = true ↔
    p.tenantId = tenant := by
  unfold ofTenant
  rw [decide_eq_true_eq]

theorem ofTenant_false {tenant : UUID} {p : Principal} : ofTenant tenant p = false ↔
    tenant ≠ p.tenantId := by
  unfold ofTenant
  rw [decide_eq_false_iff_not, ne_comm]

theorem getD_congr {ν : Type} {d d' : Dict UUID ν} {key : UUID} (h : d.lookup key = d'.lookup key)
    (default : ν) : d.getD key default = d'.getD key default := by
  unfold Dict.getD
  rw [h]

variable {tenant : UUID}

section Documents

theorem FakeVectorStore.scope_congr {store : FakeVectorStore} (h : store.sharedIndex = false)
    {p : Principal} {held held' : Holdings}
    (heq : held.lookup p.tenantId = held'.lookup p.tenantId) :
    store.scope p held = store.scope p held' := by
  unfold scope
  rw [h, getD_congr heq]
  rfl

variable [Lower]

theorem FakeVectorStore.separates [Hashlib] {store : FakeVectorStore}
    (h : store.sharedIndex = false) :
    Separates store.system (ofTenant tenant) fun held => held.lookup tenant where
  answer {p held held'} hmine heq call := by
    rw [ofTenant_true] at hmine
    subst hmine
    have hscope := scope_congr h heq
    cases call with
    | upsert | delete => rfl
    | query text k => simp only [system, query, hscope]
    | fetch docId => simp only [system, fetch, hscope]
  keeps {p held held'} hmine heq call := by
    rw [ofTenant_true] at hmine
    subst hmine
    cases call with
    | upsert documents => simp only [system, upsert, Dict.lookup_set_self, getD_congr heq]
    | query | fetch => exact heq
    | delete =>
      simp only [system, delete]
      split
      · exact heq
      · rw [AList.lookup_erase, AList.lookup_erase]
  ignores {p} hmine call held := by
    rw [ofTenant_false] at hmine
    cases call with
    | upsert documents => exact Dict.lookup_set_ne _ _ hmine
    | query | fetch => rfl
    | delete =>
      simp only [system, delete]
      split
      · rfl
      · exact AList.lookup_erase_ne hmine

theorem FakeRAGPipeline.separates {pipeline : FakeRAGPipeline} (h : pipeline.sharedIndex = false) :
    Separates pipeline.system (ofTenant tenant) fun held => held.lookup tenant where
  answer {p held held'} hmine heq call := by
    rw [ofTenant_true] at hmine
    subst hmine
    cases call with
    | index => rfl
    | ask query =>
      simp only [system, ask, h, Bool.false_eq_true, if_false, getD_congr heq]
  keeps {p held held'} hmine heq call := by
    rw [ofTenant_true] at hmine
    subst hmine
    cases call with
    | index documents => simp only [system, index, Dict.lookup_set_self, getD_congr heq]
    | ask => exact heq
  ignores {p} hmine call held := by
    rw [ofTenant_false] at hmine
    cases call with
    | index documents => exact Dict.lookup_set_ne _ _ hmine
    | ask => rfl

end Documents

section Noted

theorem Notes.reach_congr {p : Principal} {userScoped : Bool} {notes notes' : Notes}
    (heq : notes.lookup p.tenantId = notes'.lookup p.tenantId) :
    notes.reach false userScoped p = notes'.reach false userScoped p := by
  unfold reach
  rw [getD_congr heq]
  rfl

theorem Notes.lookup_add_congr {p : Principal} {texts : List String} {notes notes' : Notes}
    (heq : notes.lookup p.tenantId = notes'.lookup p.tenantId) :
    (notes.add p texts).lookup p.tenantId = (notes'.add p texts).lookup p.tenantId := by
  unfold add
  rw [Dict.lookup_set_self, Dict.lookup_set_self, getD_congr heq]

theorem Notes.lookup_add_ne {p : Principal} {texts : List String} {notes : Notes}
    (h : tenant ≠ p.tenantId) : (notes.add p texts).lookup tenant = notes.lookup tenant :=
  Dict.lookup_set_ne _ _ h

variable [Lower]

theorem FakeMemory.separates {memory : FakeMemory} (h : memory.sharedMemory = false) :
    Separates memory.system (ofTenant tenant) fun notes => notes.lookup tenant where
  answer {p notes notes'} hmine heq call := by
    rw [ofTenant_true] at hmine
    subst hmine
    cases call with
    | remember | delete => rfl
    | recalled query => simp only [system, «recall», h, Notes.reach_congr heq]
  keeps {p notes notes'} hmine heq call := by
    rw [ofTenant_true] at hmine
    subst hmine
    cases call with
    | remember text => exact Notes.lookup_add_congr heq
    | recalled => exact heq
    | delete =>
      simp only [system, delete]
      split
      · exact heq
      · rw [AList.lookup_erase, AList.lookup_erase]
  ignores {p} hmine call notes := by
    rw [ofTenant_false] at hmine
    cases call with
    | remember text => exact Notes.lookup_add_ne hmine
    | recalled => rfl
    | delete =>
      simp only [system, delete]
      split
      · rfl
      · exact AList.lookup_erase_ne hmine

/-- Without a prefix cache, what was seen before does not matter. -/
theorem FakeModel.separates [Unicode] [Hashlib] {model : FakeModel}
    (hbleed : model.adapterBleed = false) (hcache : model.prefixCache = false) :
    Separates model.system (ofTenant tenant) fun s => s.adapters.lookup tenant where
  answer {p s s'} hmine heq call := by
    rw [ofTenant_true] at hmine
    subst hmine
    cases call with
    | train | delete => rfl
    | infer prompt => simp only [system, response, hbleed, Notes.reach_congr heq]
    | servedBy prompt => simp only [system, servedBy, hbleed, Bool.not_false, if_true]
    | measureLatency prompt =>
      simp only [system, latency, hcache, Bool.false_eq_true, false_and, if_false]
  keeps {p s s'} hmine heq call := by
    rw [ofTenant_true] at hmine
    subst hmine
    cases call with
    | train texts => exact Notes.lookup_add_congr heq
    | infer | servedBy | measureLatency => exact heq
    | delete =>
      simp only [system, delete]
      split
      · exact heq
      · rw [AList.lookup_erase, AList.lookup_erase]
  ignores {p} hmine call s := by
    rw [ofTenant_false] at hmine
    cases call with
    | train texts => exact Notes.lookup_add_ne hmine
    | infer | servedBy | measureLatency => rfl
    | delete =>
      simp only [system, delete]
      split
      · rfl
      · exact AList.lookup_erase_ne hmine

end Noted

section Kept

theorem FakeObservability.separates [Unicode] {backend : FakeObservability} :
    Separates backend.system (ofTenant tenant) fun traces => traces.lookup tenant where
  answer {p traces traces'} hmine heq call := by
    rw [ofTenant_true] at hmine
    subst hmine
    cases call with
    | recorded project text => simp only [system, «record», getD_congr heq]
    | search marker => simp only [system, searchTraces, getD_congr heq]
    | fetch traceId => simp only [system, fetchTrace, getD_congr heq]
    | delete =>
      simp only [system, delete]
      split <;> rfl
  keeps {p traces traces'} hmine heq call := by
    rw [ofTenant_true] at hmine
    subst hmine
    cases call with
    | recorded project text =>
      simp only [system, «record», Dict.lookup_set_self, getD_congr heq]
    | search | fetch => exact heq
    | delete =>
      simp only [system, delete]
      split
      · exact heq
      · split
        · exact heq
        · rw [AList.lookup_erase, AList.lookup_erase]
  ignores {p} hmine call traces := by
    rw [ofTenant_false] at hmine
    cases call with
    | recorded project text => exact Dict.lookup_set_ne _ _ hmine
    | search | fetch => rfl
    | delete =>
      simp only [system, delete]
      split
      · rfl
      · split
        · rfl
        · exact AList.lookup_erase_ne hmine

theorem FakeTextStore.separates [Lower] {store : FakeTextStore} :
    Separates store.system (ofTenant tenant) fun texts => texts.lookup tenant where
  answer {p texts texts'} hmine heq call := by
    rw [ofTenant_true] at hmine
    subst hmine
    cases call with
    | add => rfl
    | search query => simp only [system, search, getD_congr heq]
    | delete =>
      simp only [system, delete]
      split <;> rfl
  keeps {p texts texts'} hmine heq call := by
    rw [ofTenant_true] at hmine
    subst hmine
    cases call with
    | add text => simp only [system, add, Dict.lookup_set_self, getD_congr heq]
    | search => exact heq
    | delete =>
      simp only [system, delete]
      split
      · exact heq
      · split
        · exact heq
        · rw [AList.lookup_erase, AList.lookup_erase]
  ignores {p} hmine call texts := by
    rw [ofTenant_false] at hmine
    cases call with
    | add text => exact Dict.lookup_set_ne _ _ hmine
    | search => rfl
    | delete =>
      simp only [system, delete]
      split
      · rfl
      · split
        · rfl
        · exact AList.lookup_erase_ne hmine

end Kept

section Cached

theorem length_str_uuid (id : UUID) : id.str.toList.length = 36 := by
  have hlength := length_hex_uuid id
  generalize hdigits : id.hex.toList = digits at hlength
  simp [UUID.str, join, String.intercalate_cons_cons, hdigits, hlength]

/-- What follows the tenant of a text does not hide the tenant. -/
theorem str_uuid_colon_inj {id other : UUID} {rest rest' : String}
    (h : id.str ++ ":" ++ rest = other.str ++ ":" ++ rest') : id = other ∧ rest = rest' := by
  have hlist := congrArg String.toList h
  simp only [String.toList_append, List.append_assoc] at hlist
  generalize ":".toList = colon at hlist
  obtain ⟨hid, hrest⟩ := List.append_inj hlist (by rw [length_str_uuid, length_str_uuid])
  exact ⟨str_uuid_injective (String.toList_injective hid),
    String.toList_injective ((List.append_right_inj colon).mp hrest)⟩

namespace FakeCache

theorem isOf_iff {key : String} :
    isOf tenant key = true ↔ ∃ rest, key = tenant.str ++ ":" ++ rest := by
  rw [isOf, List.isPrefixOf_iff_prefix]
  constructor
  · rintro ⟨rest, h⟩
    exact ⟨String.ofList rest, String.toList_injective (by
      rw [String.toList_append, String.toList_ofList, h])⟩
  · rintro ⟨rest, rfl⟩
    exact ⟨rest.toList, String.toList_append.symm⟩

theorem isOf_append {id : UUID} {rest : String} :
    isOf tenant (id.str ++ ":" ++ rest) = decide (id = tenant) := by
  rw [Bool.eq_iff_iff, isOf_iff, decide_eq_true_eq]
  constructor
  · rintro ⟨rest', h⟩
    exact (str_uuid_colon_inj h).1
  · rintro rfl
    exact ⟨rest, rfl⟩

variable {cache : FakeCache}

/-- The key of an entry begins with the tenant of its session. -/
theorem keyOf_scoped (h : cache.tenantScoped = true) (p : Principal) (key : String) :
    ∃ rest, cache.keyOf p key = p.tenantId.str ++ ":" ++ rest := by
  unfold keyOf
  rw [h, if_pos rfl]
  generalize (if cache.userScoped = true then List.map UUID.str p.userId.toList else []) = users
  refine ⟨join ":" (users ++ [key]), ?_⟩
  cases users <;> simp [join, String.intercalate_cons_cons, String.append_assoc]

theorem isOf_keyOf (h : cache.tenantScoped = true) (p : Principal) (key : String) :
    isOf tenant (cache.keyOf p key) = decide (p.tenantId = tenant) := by
  obtain ⟨rest, hrest⟩ := keyOf_scoped h p key
  rw [hrest, isOf_append]

/-- The entries of a tenant. -/
def entriesOf (tenant : UUID) (store : Dict String String) : List (String × String) :=
  store.items.filter fun entry => isOf tenant entry.1

theorem lookup_entriesOf {key : String} (hkey : isOf tenant key = true)
    {store store' : Dict String String} (heq : entriesOf tenant store = entriesOf tenant store') :
    store.lookup key = store'.lookup key := by
  have hmem (store : Dict String String) (value : String) :
      store.lookup key = some value ↔ (key, value) ∈ entriesOf tenant store := by
    rw [← Dict.mem_items, entriesOf, List.mem_filter, and_iff_left hkey]
  ext value
  rw [hmem, hmem, heq]

theorem entriesOf_set {key value : String} {store : Dict String String} :
    entriesOf tenant (store.set key value) =
      if isOf tenant key then putItem key value (entriesOf tenant store)
      else entriesOf tenant store := by
  unfold entriesOf
  rw [Dict.items_set]
  cases hkey : isOf tenant key with
  | true => exact filter_putItem (p := isOf tenant) hkey
  | false => exact filter_putItem_of_not (p := isOf tenant) hkey

theorem entriesOf_erase {keys : List String} {store : Dict String String} :
    entriesOf tenant (keys.foldl (fun store key => store.erase key) store) =
      (entriesOf tenant store).filter fun entry => entry.1 ∉ keys := by
  induction keys generalizing store with
  | nil => simp
  | cons key keys ih =>
    rw [List.foldl_cons, ih, entriesOf, Dict.items_erase, List.filter_filter, entriesOf,
      List.filter_filter, List.filter_filter]
    refine List.filter_congr fun entry _ => ?_
    simp only [List.mem_cons, not_or, Bool.decide_and]
    rcases decide (entry.1 ∉ keys), isOf tenant entry.1, decide (entry.1 ≠ key) with
      ⟨_ | _, _ | _, _ | _⟩ <;> rfl

theorem entriesOf_delete (h : cache.tenantScoped = true) {other : UUID}
    {store : Dict String String} : entriesOf tenant (cache.delete other store) =
      if cache.softDelete = false ∧ other = tenant then [] else entriesOf tenant store := by
  unfold delete
  cases hsoft : cache.softDelete with
  | true => simp
  | false =>
    simp only [h, Bool.not_true, Bool.false_eq_true, or_self, if_false, true_and]
    rw [entriesOf_erase]
    split
    · rename_i hsame
      subst hsame
      rw [List.filter_eq_nil_iff]
      intro entry hentry
      obtain ⟨hitem, hof⟩ := List.mem_filter.mp hentry
      simpa using ⟨⟨entry.2, hitem⟩, hof⟩
    · rename_i hother
      rw [List.filter_eq_self]
      intro entry hentry
      obtain ⟨rest, hrest⟩ := isOf_iff.mp (List.mem_filter.mp hentry).2
      have hnot : isOf other entry.1 = false := by
        rw [hrest, isOf_append, decide_eq_false_iff_not]
        exact fun heq => hother heq.symm
      simp [hnot]

theorem separates (h : cache.tenantScoped = true) :
    Separates cache.system (ofTenant tenant) (entriesOf tenant) where
  answer {p store store'} hmine heq call := by
    rw [ofTenant_true] at hmine
    subst hmine
    cases call with
    | get key =>
      have hkey : isOf p.tenantId (cache.keyOf p key) = true := by
        rw [isOf_keyOf h, decide_eq_true_eq]
      simp only [system, get, lookup_entriesOf hkey heq]
    | set | delete => rfl
    | values =>
      unfold entriesOf at heq
      simp only [system, values, h, if_true, heq]
  keeps {p store store'} hmine heq call := by
    rw [ofTenant_true] at hmine
    subst hmine
    cases call with
    | get | values => exact heq
    | set key value => simp only [system, set, entriesOf_set, heq]
    | delete => simp only [system, entriesOf_delete h, heq]
  ignores {p} hmine call store := by
    rw [ofTenant_false] at hmine
    cases call with
    | get | values => rfl
    | set key value =>
      simp only [system, set, entriesOf_set, isOf_keyOf h, decide_eq_true_eq, if_neg hmine.symm]
    | delete =>
      have hother : ¬(cache.softDelete = false ∧ p.tenantId = tenant) :=
        fun hand => hmine hand.2.symm
      simp only [system, entriesOf_delete h, if_neg hother]

end FakeCache

end Cached

section Tooled

variable [Unicode] [UuidText]

omit [Unicode] [UuidText] in
theorem readUuid_hex (id : UUID) :
    (if id.hex.toList.length = 32 ∧ id.hex.toList.all isHexDigit then
      some (UUID.mk (BitVec.ofNat 128 (readHex id.hex.toList))) else none) = some id := by
  rw [if_pos ⟨length_hex_uuid id, List.all_eq_true.mpr (isHexDigit_hex 32 id.bits.toNat)⟩,
    UUID.hex, readHex_hex, BitVec.ofNat_toNat, BitVec.setWidth_eq]

theorem FakeAgent.separates {agent : FakeAgent} (hdeputy : agent.confusedDeputy = false)
    (hpass : agent.toolCallPassthrough = false) :
    Separates agent.system (ofTenant tenant) fun resources => resources.lookup tenant where
  answer {p resources resources'} hmine heq call := by
    rw [ofTenant_true] at hmine
    subst hmine
    cases call with
    | provision => rfl
    | run task =>
      simp only [system, run, lookup, hdeputy, hpass, Bool.false_eq_true, if_false, getD_congr heq]
  keeps {p resources resources'} hmine heq call := by
    rw [ofTenant_true] at hmine
    subst hmine
    cases call with
    | provision key value => simp only [system, provision, Dict.lookup_set_self, getD_congr heq]
    | run => exact heq
  ignores {p} hmine call resources := by
    rw [ofTenant_false] at hmine
    cases call with
    | provision key value => exact Dict.lookup_set_ne _ _ hmine
    | run => rfl

/-- `UUID(text)` on digits that dashes may divide. -/
@[reducible] def UuidText.digits : UuidText where
  parse text :=
    let digits := text.toList.filter (· ≠ '-')
    if digits.length = 32 ∧ digits.all isHexDigit then some ⟨BitVec.ofNat 128 (readHex digits)⟩
    else none
  parse_str id := by
    simp only [filter_str]
    exact readUuid_hex id
  parse_hex id := by
    have hplain : id.hex.toList.filter (· ≠ '-') = id.hex.toList := by
      rw [List.filter_eq_self]
      intro c hc
      have hdigit := isHexDigit_hex 32 id.bits.toNat c hc
      refine decide_eq_true fun hdash => ?_
      rw [hdash] at hdigit
      exact absurd hdigit (by decide)
    simp only [hplain]
    exact readUuid_hex id

namespace FakeMCP

/-- A server without flaws. -/
structure Scoped (server : FakeMCP) : Prop where
  deputy : server.confusedDeputy = false
  token : server.tokenPassthrough = false
  description : server.descriptionInjection = false
  downstream : server.crossServerDeputy = false

/-- What a chain holds of a tenant. -/
def resourcesOf (tenant : UUID) (states : List McpState) :
    List (Option (Dict String (Option UUID × String))) :=
  states.map fun s => s.resources.lookup tenant

/-- A tenant's resources with one more entry. -/
def provisioned (key : String) (entry : Option UUID × String)
    (held : Option (Dict String (Option UUID × String))) :
    Option (Dict String (Option UUID × String)) :=
  some ((held.getD ∅).set key entry)

variable {servers : List FakeMCP} {p : Principal}

omit [Unicode] in
/-- A chain without flaws resolves a key in what it holds of the caller's tenant. -/
theorem lookup_congr (h : ∀ server ∈ servers, server.Scoped) {states states' : List McpState}
    (heq : resourcesOf p.tenantId states = resourcesOf p.tenantId states')
    (arguments : Dict String String) :
    lookup (servers.zip states) p arguments = lookup (servers.zip states') p arguments := by
  induction servers generalizing states states' arguments with
  | nil => rfl
  | cons server servers ih =>
    cases states with
    | nil =>
      cases states' with
      | nil => rfl
      | cons s' states' => cases heq
    | cons s states =>
      cases states' with
      | nil => cases heq
      | cons s' states' =>
        obtain ⟨hheld, hrest⟩ := List.cons.inj heq
        have hscoped := h server List.mem_cons_self
        have hlength : states.length = states'.length := by
          simpa [resourcesOf] using congrArg List.length hrest
        have hempty : servers.zip states = [] ↔ servers.zip states' = [] := by
          rw [← List.length_eq_zero_iff, ← List.length_eq_zero_iff, List.length_zip,
            List.length_zip, hlength]
        have hforward := ih (fun other hother => h other (List.mem_cons_of_mem _ hother)) hrest
          (arguments.erase "via")
        simp only [List.zip_cons_cons, lookup, hscoped.deputy, hscoped.downstream, effectiveTenant,
          hscoped.token, Bool.false_eq_true, if_false, ne_eq, hempty, hforward, getD_congr hheld]

theorem search_congr (h : ∀ server ∈ servers, server.Scoped) {states states' : List McpState}
    (heq : resourcesOf p.tenantId states = resourcesOf p.tenantId states')
    (arguments : Dict String String) :
    search (servers.zip states) p arguments = search (servers.zip states') p arguments := by
  have hplain : ∀ states : List McpState,
      search (servers.zip states) p arguments = lookup (servers.zip states) p arguments := by
    intro states
    cases servers with
    | nil => rfl
    | cons server servers =>
      cases states with
      | nil => rfl
      | cons s states =>
        simp only [List.zip_cons_cons, search, (h server List.mem_cons_self).description,
          Bool.false_eq_true, if_false]
        split <;> rfl
  rw [hplain, hplain, lookup_congr h heq]

omit [Unicode] [UuidText] in
theorem resourcesOf_modify {states : List McpState} {server : Nat} {update : McpState → McpState}
    (change : Option (Dict String (Option UUID × String)) →
      Option (Dict String (Option UUID × String)))
    (h : ∀ s, (update s).resources.lookup tenant = change (s.resources.lookup tenant)) :
    resourcesOf tenant (states.modify server update) =
      (resourcesOf tenant states).modify server change := by
  unfold resourcesOf
  induction states generalizing server with
  | nil => cases server <;> rfl
  | cons s states ih =>
    cases server with
    | zero => simp [h]
    | succ server => simp only [List.modify_succ_cons, List.map_cons, ih]

theorem separates (h : ∀ server ∈ servers, server.Scoped) :
    Separates (system servers) (ofTenant tenant) (resourcesOf tenant) where
  answer {p states states'} hmine heq call := by
    rw [ofTenant_true] at hmine
    subst hmine
    cases call with
    | provision | injectDescription => rfl
    | invoke tool arguments =>
      simp only [system, invoke, lookup_congr h heq, search_congr h heq]
  keeps {p states states'} hmine heq call := by
    rw [ofTenant_true] at hmine
    subst hmine
    cases call with
    | provision server key value =>
      have hchange (s : McpState) :
          (provision p.tenantId key value p.userId s).resources.lookup p.tenantId =
            provisioned key (p.userId, value) (s.resources.lookup p.tenantId) :=
        Dict.lookup_set_self _ _ _
      simp only [system]
      rw [resourcesOf_modify (provisioned key (p.userId, value)) hchange,
        resourcesOf_modify (provisioned key (p.userId, value)) hchange, heq]
    | injectDescription server key description =>
      have hchange : ∀ s : McpState, (injectDescription key description s).resources.lookup
          p.tenantId = id (s.resources.lookup p.tenantId) := fun s => rfl
      simp only [system]
      rw [resourcesOf_modify id hchange, resourcesOf_modify id hchange, heq]
    | invoke => exact heq
  ignores {p} hmine call states := by
    rw [ofTenant_false] at hmine
    have hid (server : Nat) : (resourcesOf tenant states).modify server id =
        resourcesOf tenant states := List.modify_id server _
    cases call with
    | provision server key value =>
      have hchange : ∀ s : McpState, (provision p.tenantId key value p.userId s).resources.lookup
          tenant = id (s.resources.lookup tenant) := fun s => Dict.lookup_set_ne _ _ hmine
      exact (resourcesOf_modify id hchange).trans (hid server)
    | injectDescription server key description =>
      have hchange : ∀ s : McpState, (injectDescription key description s).resources.lookup
          tenant = id (s.resources.lookup tenant) := fun s => rfl
      exact (resourcesOf_modify id hchange).trans (hid server)
    | invoke => rfl

end FakeMCP

end Tooled

end Tenants

section Stack

/-- The families of the stack. -/
inductive FakeFamily
  | vector
  | rag
  | cache
  | memory
  | model
  | observability
  | searchIndex
  | evalSet
  | backup
  | agent
  | mcp
  deriving DecidableEq, Repr

/-- The fakes of a stack. -/
structure FakeStack where
  vector : FakeVectorStore := {}
  rag : FakeRAGPipeline := {}
  cache : FakeCache := {}
  memory : FakeMemory := {}
  model : FakeModel := {}
  observability : FakeObservability := {}
  searchIndex : FakeTextStore := {}
  evalSet : FakeTextStore := {}
  backup : FakeTextStore := {}
  agent : FakeAgent := {}
  mcp : List FakeMCP := [{}]

namespace FakeStack

abbrev State : FakeFamily → Type
  | .vector => Holdings
  | .rag => Holdings
  | .cache => Dict String String
  | .memory => Notes
  | .model => ModelState
  | .observability => Traces
  | .searchIndex => Texts
  | .evalSet => Texts
  | .backup => Texts
  | .agent => Resources
  | .mcp => List McpState

abbrev CallOf : FakeFamily → Type
  | .vector => VectorCall
  | .rag => RagCall
  | .cache => CacheCall
  | .memory => MemoryCall
  | .model => ModelCall
  | .observability => TraceCall
  | .searchIndex => TextCall
  | .evalSet => TextCall
  | .backup => TextCall
  | .agent => AgentCall
  | .mcp => McpCall

variable [Unicode] [Lower] [Hashlib] [UuidText] (stack : FakeStack)

def component :
    ∀ family, System (State family) Principal (CallOf family) FakeAnswer
  | .vector => stack.vector.system
  | .rag => stack.rag.system
  | .cache => stack.cache.system
  | .memory => stack.memory.system
  | .model => stack.model.system
  | .observability => stack.observability.system
  | .searchIndex => stack.searchIndex.system
  | .evalSet => stack.evalSet.system
  | .backup => stack.backup.system
  | .agent => stack.agent.system
  | .mcp => FakeMCP.system stack.mcp

/-- The stack: a call is made to one of its fakes. -/
def system : System (∀ family, State family) Principal (Σ family, CallOf family)
    (Σ _ : FakeFamily, FakeAnswer) := System.family stack.component

omit [Unicode] [Lower] [Hashlib] [UuidText] in
/-- The leak knobs that cross the tenant boundary are off. -/
structure TenantScoped : Prop where
  vector : stack.vector.sharedIndex = false
  rag : stack.rag.sharedIndex = false
  cache : stack.cache.tenantScoped = true
  memory : stack.memory.sharedMemory = false
  bleed : stack.model.adapterBleed = false
  prefixes : stack.model.prefixCache = false
  deputy : stack.agent.confusedDeputy = false
  passthrough : stack.agent.toolCallPassthrough = false
  mcp : ∀ server ∈ stack.mcp, server.Scoped

abbrev Seen : FakeFamily → Type
  | .vector => Option (List CorpusDocument)
  | .rag => Option (List CorpusDocument)
  | .cache => List (String × String)
  | .memory => Option (List (Option UUID × String))
  | .model => Option (List (Option UUID × String))
  | .observability => Option (List TraceHit)
  | .searchIndex => Option (List String)
  | .evalSet => Option (List String)
  | .backup => Option (List String)
  | .agent => Option (Dict String String)
  | .mcp => List (Option (Dict String (Option UUID × String)))

omit [Unicode] [Lower] [Hashlib] [UuidText] in
/-- What each fake holds of a tenant. -/
def seenBy (tenant : UUID) : ∀ family, State family → Seen family
  | .vector => fun held => AList.lookup tenant held
  | .rag => fun held => AList.lookup tenant held
  | .cache => FakeCache.entriesOf tenant
  | .memory => fun notes => AList.lookup tenant notes
  | .model => fun s => s.adapters.lookup tenant
  | .observability => fun traces => AList.lookup tenant traces
  | .searchIndex => fun texts => AList.lookup tenant texts
  | .evalSet => fun texts => AList.lookup tenant texts
  | .backup => fun texts => AList.lookup tenant texts
  | .agent => fun resources => AList.lookup tenant resources
  | .mcp => FakeMCP.resourcesOf tenant

omit [Unicode] [Lower] [Hashlib] [UuidText] in
/-- A stack that holds nothing. -/
def empty : ∀ family, State family
  | .vector | .rag | .cache | .memory | .observability | .searchIndex | .evalSet | .backup
  | .agent => (∅ : Dict _ _)
  | .model => {}
  | .mcp => stack.mcp.map fun _ => {}

variable {stack}

theorem separates (h : stack.TenantScoped) (tenant : UUID) :
    Separates stack.system (ofTenant tenant) fun s family => seenBy tenant family (s family) :=
  Separates.family fun family =>
    match family with
    | .vector => FakeVectorStore.separates h.vector
    | .rag => FakeRAGPipeline.separates h.rag
    | .cache => FakeCache.separates h.cache
    | .memory => FakeMemory.separates h.memory
    | .model => FakeModel.separates h.bleed h.prefixes
    | .observability => FakeObservability.separates
    | .searchIndex => FakeTextStore.separates
    | .evalSet => FakeTextStore.separates
    | .backup => FakeTextStore.separates
    | .agent => FakeAgent.separates h.deputy h.passthrough
    | .mcp => FakeMCP.separates h.mcp

/-- What the sessions of a tenant are answered in a run is what they are answered in the run of its
own calls alone, from any state that holds the same of the tenant. -/
theorem tenants_isolated (h : stack.TenantScoped) (tenant : UUID)
    (calls : List (Principal × Σ family, CallOf family)) {s s' : ∀ family, State family}
    (hheld : ∀ family, seenBy tenant family (s family) = seenBy tenant family (s' family)) :
    stack.system.observed (ofTenant tenant) calls s =
      stack.system.observed (ofTenant tenant)
        (calls.filter fun call => ofTenant tenant call.1) s' :=
  (separates h tenant).observed_filter (funext hheld) calls

end FakeStack

end Stack

section Sample

namespace FakeStack

attribute [local instance] Unicode.ascii Lower.ascii Hashlib.real UuidText.digits

/-- A tenant that is provisioned a key, and another one that asks for it with the owner's token. -/
theorem tenants_isolated_default :
    let acme : UUID := ⟨1⟩
    let borealis : UUID := ⟨2⟩
    let asks : Principal × Σ family, CallOf family :=
      (⟨acme, none⟩, ⟨.mcp, .invoke "lookup" (Dict.ofItems [("key", "b"), ("token", borealis.str)])⟩)
    let provisions : Principal × Σ family, CallOf family :=
      (⟨borealis, none⟩, ⟨.mcp, .provision 0 "b" "SECTUM-2"⟩)
    ({} : FakeStack).system.observed (ofTenant acme) [provisions, asks] (empty {}) =
      ({} : FakeStack).system.observed (ofTenant acme) [asks] (empty {}) :=
  tenants_isolated
    { vector := rfl, rag := rfl, cache := rfl, memory := rfl, bleed := rfl, prefixes := rfl
      deputy := rfl, passthrough := rfl
      mcp := fun server h => by
        obtain rfl := List.mem_singleton.mp h
        exact ⟨rfl, rfl, rfl, rfl⟩ }
    ⟨1⟩ _ (fun _ => rfl)

end FakeStack

end Sample

end Sectum
