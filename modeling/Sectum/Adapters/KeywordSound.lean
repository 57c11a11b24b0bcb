import Sectum.Adapters.Keyword
import Sectum.Core.Markers
import Sectum.Probes.Erasure
import Sectum.Spec.TextSound

/-! What the keyword filter of an adapter hides from the residual predicate: the texts in which the
predicate finds a marker and no word of the marker stands unbroken. -/

namespace Sectum

open Py

section Words

variable [Lower]

/-- Some word of the query, a run of ASCII letters and digits after `lower`, stands as such a run
in the text. -/
def SharesWord (query text : String) : Prop :=
  ∃ word, word ≠ [] ∧ StandsIn isTokenChar word (Lower.lower query).toList ∧
    StandsIn isTokenChar word (Lower.lower text).toList

theorem keywordMatch_iff {query text : String} :
    keywordMatch query text = true ↔ SharesWord query text := by
  unfold keywordMatch keywordTokens SharesWord
  simp only [List.any_eq_true, decide_eq_true_eq, mem_runs]
  constructor
  · rintro ⟨token, ⟨hne, hquery⟩, -, htext⟩
    exact ⟨token.toList, by simpa using hne, hquery, htext⟩
  · rintro ⟨word, hne, hquery, htext⟩
    have hword : String.ofList word ≠ "" := by
      intro h
      exact hne (by simpa using congrArg String.toList h)
    refine ⟨String.ofList word, ⟨hword, ?_⟩, hword, ?_⟩
    · rwa [String.toList_ofList]
    · rwa [String.toList_ofList]

variable [Unicode]

/-- What a search for a marker that did not raise owes to the residual predicate: it hides no text
in which the predicate finds the marker, so that a scan answers as it would over all that is
stored. -/
def AgreesWithResidual (marker : Marker) (stored : List String)
    (outcome : Except Raised (List String)) : Prop :=
  ∀ hits, outcome = .ok hits →
    (∀ text ∈ stored, residualPresent marker.plaintext text = true → text ∈ hits) ∧
    ErasureProbe.carriedBy marker hits = ErasureProbe.carriedBy marker stored

/-- What a scan then makes of the hits. -/
theorem carriedBy_filter_iff {marker : Marker} {stored : List String} :
    ErasureProbe.carriedBy marker (stored.filter fun text => keywordMatch marker.plaintext text) =
        true ↔
      ∃ text ∈ stored, residualPresent marker.plaintext text = true ∧
        SharesWord marker.plaintext text := by
  unfold ErasureProbe.carriedBy
  rw [List.any_eq_true]
  simp only [List.mem_filter, keywordMatch_iff, and_assoc]
  exact exists_congr fun text => and_congr_right fun _ => and_comm

theorem agrees_filter_iff {marker : Marker} {stored : List String} :
    AgreesWithResidual marker stored
        (.ok (stored.filter fun text => keywordMatch marker.plaintext text)) ↔
      ∀ text ∈ stored, residualPresent marker.plaintext text = true →
        SharesWord marker.plaintext text := by
  constructor
  · intro h text hstored hresidual
    have hmem := (h _ rfl).1 text hstored hresidual
    exact keywordMatch_iff.mp (List.mem_filter.mp hmem).2
  · intro h hits hhits
    obtain rfl := Except.ok.inj hhits
    constructor
    · intro text hstored hresidual
      exact List.mem_filter.mpr ⟨hstored, keywordMatch_iff.mpr (h text hstored hresidual)⟩
    · rw [Bool.eq_iff_iff, carriedBy_filter_iff, ErasureProbe.carriedBy, List.any_eq_true]
      exact exists_congr fun text => and_congr_right fun hstored =>
        and_iff_left_of_imp fun hresidual => h text hstored hresidual

end Words

section Searches

variable {σ : Type}

theorem Call.orAdapterError_eq_ok {α : Type} {message : String} {call : Call σ Raised α}
    {world after : σ} {a : α} :
    Call.orAdapterError message call world = (.ok a, after) ↔ call world = (.ok a, after) := by
  unfold Call.orAdapterError
  rcases call world with ⟨e | b, after'⟩ <;> simp

theorem Call.forEach_orAdapterError {α β : Type} {message : α → String}
    {call : α → Call σ Raised β} {xs : List α} {world after : σ} {ys : List β} :
    Call.forEach (fun x => Call.orAdapterError (message x) (call x)) xs world = (.ok ys, after) ↔
      Call.forEach call xs world = (.ok ys, after) := by
  induction xs generalizing world ys with
  | nil => rfl
  | cons x xs ih => simp only [forEach, Call.bind_eq_ok, Call.map_eq_ok, orAdapterError_eq_ok, ih]

theorem decodeReplace_stored (stored : List String) :
    (stored.map utf8).map decodeReplace = stored := by
  rw [List.map_map]
  exact List.map_id'' (fun text => decodeReplace_encode text) stored

/-- From `s`, the client lists objects of the tenant, and gives each as the encoding of a text: of
`stored`, in their order. -/
def S3Backup.Stores (backup : S3Backup σ) (tenant : UUID) (s : S3State σ) (stored : List String) :
    Prop :=
  ∃ objects listed after, backup.objects tenant s = (.ok objects, listed) ∧
    Call.forEach (fun object => S3Backup.ask (backup.client.getObject object)) objects listed =
      (.ok (stored.map utf8), after)

def GCSBackup.Stores (backup : GCSBackup σ) (tenant : UUID) (world : σ) (stored : List String) :
    Prop :=
  ∃ blobs listed after, backup.blobs tenant world = (.ok blobs, listed) ∧
    Call.forEach backup.client.downloadAsBytes blobs listed = (.ok (stored.map utf8), after)

/-- The lists that a recall of the tenant reads hold `stored`, each text as its user or the tenant
remembered it. -/
def RedisMemory.Stores (memory : RedisMemory σ) (tenant : UUID) (world : σ) (stored : List String) :
    Prop :=
  ∃ owners after, memory.rawEntries tenant world = (.ok (List.zipWith entry owners stored), after) ∧
    owners.length = stored.length

theorem S3Backup.search_eq [Unicode] [Lower] {backup : S3Backup σ} {tenant : UUID} {s : S3State σ}
    {stored : List String} (h : backup.Stores tenant s stored) (query : String) :
    ∃ after, backup.search tenant query s =
      (.ok (stored.filter fun text => keywordMatch query text), after) := by
  obtain ⟨objects, listed, after, hlist, hread⟩ := h
  refine ⟨after, Call.bind_eq_ok.mpr ⟨objects, listed, Call.orAdapterError_eq_ok.mpr hlist,
    Call.map_eq_ok.mpr ⟨stored.map utf8, Call.forEach_orAdapterError.mpr hread, ?_⟩⟩⟩
  rw [decodeReplace_stored]

theorem GCSBackup.search_eq [Unicode] [Lower] {backup : GCSBackup σ} {tenant : UUID} {world : σ}
    {stored : List String} (h : backup.Stores tenant world stored) (query : String) :
    ∃ after, backup.search tenant query world =
      (.ok (stored.filter fun text => keywordMatch query text), after) := by
  obtain ⟨blobs, listed, after, hlist, hread⟩ := h
  refine ⟨after, Call.bind_eq_ok.mpr ⟨blobs, listed, Call.orAdapterError_eq_ok.mpr hlist,
    Call.map_eq_ok.mpr ⟨stored.map utf8, Call.forEach_orAdapterError.mpr hread, ?_⟩⟩⟩
  rw [decodeReplace_stored]

namespace RedisMemory

theorem digits_ne_ownerSep (n : Nat) : ownerSep ∉ Nat.toDigits 16 n := by
  have hdigit : ∀ d < 16, ownerSep ≠ Nat.digitChar d := by decide
  induction n using Nat.strong_induction_on with
  | _ n ih =>
    rw [Nat.toDigits_eq_if (by decide)]
    split
    · rename_i hlt
      exact List.mem_singleton.not.mpr (hdigit n hlt)
    · rename_i hge
      rw [List.mem_append, List.mem_singleton, not_or]
      exact ⟨ih (n / 16) (Nat.div_lt_self (by omega) (by decide)),
        hdigit _ (Nat.mod_lt n (by decide))⟩

theorem owner_ne_ownerSep (user : Option UUID) :
    ownerSep ∉ ((user.map UUID.hex).getD tenantLevel).toList := by
  cases user with
  | none => decide
  | some id =>
    show ownerSep ∉ (Py.hex 32 id.bits.toNat).toList
    rw [Py.hex, String.toList_ofList, List.mem_append, not_or]
    refine ⟨fun h => ?_, digits_ne_ownerSep _⟩
    have := List.eq_of_mem_replicate h
    revert this
    decide

theorem parseEntry_entry (user : Option UUID) (text : String) :
    parseEntry (entry user text) = ((user.map UUID.hex).getD tenantLevel, text) := by
  have howner := owner_ne_ownerSep user
  unfold parseEntry entry
  generalize (user.map UUID.hex).getD tenantLevel = owner at howner ⊢
  have hkeep : ∀ c ∈ owner.toList, decide (c ≠ ownerSep) = true := fun c hc =>
    decide_eq_true fun h => howner (h ▸ hc)
  have hraw : (owner ++ ownerSep.toString ++ text).toList =
      owner.toList ++ ownerSep :: text.toList := by
    simp [String.toList_append]
  rw [hraw, List.takeWhile_append_of_pos hkeep, List.dropWhile_append_of_pos hkeep]
  simp

theorem recall_eq [Lower] {memory : RedisMemory σ} {tenant : UUID} {world : σ}
    {stored : List String} (h : memory.Stores tenant world stored) (query : String) :
    ∃ after, memory.recall tenant query none world =
      (.ok (stored.filter fun text => keywordMatch query text), after) := by
  obtain ⟨owners, after, hraw, hlength⟩ := h
  refine ⟨after, Call.map_eq_ok.mpr ⟨_, Call.map_eq_ok.mpr ⟨_, hraw, rfl⟩, ?_⟩⟩
  clear hraw
  induction stored generalizing owners with
  | nil => simp
  | cons text stored ih =>
    obtain ⟨user, owners, rfl⟩ := List.exists_cons_of_length_eq_add_one hlength
    have hrest := ih owners (by simpa using hlength)
    simp only [List.zipWith_cons_cons, List.map_cons, parseEntry_entry, List.filter_cons]
    have hreadable : ∀ owner, memory.readable none owner = true := fun owner => by simp [readable]
    rw [hreadable, Bool.true_and]
    by_cases hmatch : keywordMatch query text = true
    · rw [if_pos hmatch, if_pos hmatch, List.map_cons, hrest]
    · rw [if_neg hmatch, if_neg hmatch, hrest]

end RedisMemory

/-- The searches agree with the residual predicate exactly on the stores where each text in which
it finds the marker has an unbroken word of the marker. -/
theorem keyword_agrees_iff [Unicode] [Lower] (marker : Marker) (tenant : UUID)
    (stored : List String) :
    (∀ (σ : Type) (backup : S3Backup σ) (s : S3State σ), backup.Stores tenant s stored →
      (AgreesWithResidual marker stored (backup.search tenant marker.plaintext s).1 ↔
        ∀ text ∈ stored, residualPresent marker.plaintext text = true →
          SharesWord marker.plaintext text)) ∧
    (∀ (σ : Type) (backup : GCSBackup σ) (world : σ), backup.Stores tenant world stored →
      (AgreesWithResidual marker stored (backup.search tenant marker.plaintext world).1 ↔
        ∀ text ∈ stored, residualPresent marker.plaintext text = true →
          SharesWord marker.plaintext text)) ∧
    ∀ (σ : Type) (memory : RedisMemory σ) (world : σ), memory.Stores tenant world stored →
      (AgreesWithResidual marker stored (memory.recall tenant marker.plaintext none world).1 ↔
        ∀ text ∈ stored, residualPresent marker.plaintext text = true →
          SharesWord marker.plaintext text) := by
  refine ⟨?_, ?_, ?_⟩
  · intro σ backup s h
    obtain ⟨after, hsearch⟩ := S3Backup.search_eq h marker.plaintext
    rw [hsearch, agrees_filter_iff]
  · intro σ backup world h
    obtain ⟨after, hsearch⟩ := GCSBackup.search_eq h marker.plaintext
    rw [hsearch, agrees_filter_iff]
  · intro σ memory world h
    obtain ⟨after, hrecall⟩ := RedisMemory.recall_eq h marker.plaintext
    rw [hrecall, agrees_filter_iff]

end Searches

section Sample

attribute [local instance] Unicode.ascii Lower.ascii

/-- A source that draws an alphabet in order, from the tenth character before its end. -/
@[reducible] def RandomSource.inOrder : RandomSource Unit where
  seeded _ := ()
  randbytes count := pure (List.replicate count 0)
  index n h := pure ⟨(n - 10) % n, Nat.mod_lt _ h⟩
  indices n h _ := pure fun k => ⟨(n - 10 + k) % n, Nat.mod_lt _ h⟩
  randint low _ := pure low

def awsMarker : Marker :=
  { markerId := "mkr-00005", markerType := .secretCanary, ownerTenantId := ⟨1⟩
    plaintext := "AKIA0123456789ABCDEF", plantedLocations := [] }

theorem awsMarker_issued :
    ((@secretAwsPlaintext Unit RandomSource.inOrder).run ()).1.1 = awsMarker.plaintext := by
  decide +kernel

/-- A bucket with one snapshot, of a line in which no separator stands before the key. -/
def awsBackup : S3Backup Unit where
  client :=
    { getBucketVersioning := .pure none
      listObjectVersions := fun _ => .pure []
      listObjectsV2 := fun keyPrefix => .pure [[keyPrefix ++ "snapshot"]]
      getObject := fun _ => .pure (utf8 "accessKeyIdAKIA0123456789ABCDEF") }

theorem awsBackup_stores :
    awsBackup.Stores ⟨1⟩ { world := () } ["accessKeyIdAKIA0123456789ABCDEF"] :=
  ⟨_, _, _, rfl, rfl⟩

/-- The predicate finds the issued key in the snapshot, and the search hides it. -/
theorem awsBackup_hides :
    ((@secretAwsPlaintext Unit RandomSource.inOrder).run ()).1.1 = awsMarker.plaintext ∧
    awsBackup.Stores ⟨1⟩ { world := () } ["accessKeyIdAKIA0123456789ABCDEF"] ∧
    ¬AgreesWithResidual awsMarker ["accessKeyIdAKIA0123456789ABCDEF"]
      (awsBackup.search ⟨1⟩ awsMarker.plaintext { world := () }).1 := by
  refine ⟨awsMarker_issued, awsBackup_stores, fun h => ?_⟩
  have hhidden : (awsBackup.search ⟨1⟩ awsMarker.plaintext { world := () }).1 = .ok [] := by
    obtain ⟨after, hsearch⟩ := S3Backup.search_eq awsBackup_stores awsMarker.plaintext
    have hnone : (["accessKeyIdAKIA0123456789ABCDEF"].filter fun text =>
        keywordMatch awsMarker.plaintext text) = [] := by
      decide +kernel
    rw [hsearch, hnone]
  have hfound : residualPresent awsMarker.plaintext "accessKeyIdAKIA0123456789ABCDEF" = true := by
    decide +kernel
  have := (h [] hhidden).1 _ (List.mem_singleton_self _) hfound
  cases this

theorem keyword_agrees_aws :
    AgreesWithResidual awsMarker ["accessKeyIdAKIA0123456789ABCDEF"]
        (awsBackup.search ⟨1⟩ awsMarker.plaintext { world := () }).1 ↔
      ∀ text ∈ ["accessKeyIdAKIA0123456789ABCDEF"],
        residualPresent awsMarker.plaintext text = true → SharesWord awsMarker.plaintext text :=
  (keyword_agrees_iff awsMarker ⟨1⟩ ["accessKeyIdAKIA0123456789ABCDEF"]).1 Unit awsBackup
    { world := () } awsBackup_stores

end Sample

end Sectum
