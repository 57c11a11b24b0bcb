import Sectum.Adapters.Listing
import Sectum.Lib.JsonRoundTrip
import Sectum.Spec.Text

/-! What an answer of `search_traces` says about the rows that were listed: a miss is an answer only
where the listing was not cut off. -/

namespace Sectum

open Py

/-- A search that finds what is listed, says that nothing is there only of a listing that is complete,
and refuses a listing for its size only where nothing is found. -/
structure Lawful {ρ : Type} (rows : List ρ) (carries : ρ → Prop) (hit : ρ → ListedHit)
    (complete : Prop) (sized : ListingError → Prop)
    (result : Except ListingError (List ListedHit)) : Prop where
  hits : ∀ hits, result = .ok hits → ∀ row ∈ rows, carries row → hit row ∈ hits
  absent : result = .ok [] → (∀ row ∈ rows, ¬carries row) ∧ complete
  refused : ∀ e, sized e → result = .error e → ∀ row ∈ rows, ¬carries row

/-- The hits of a search, if the rows without one are not refused. -/
theorem hits_eq_nil {ρ : Type} {rows : List ρ} {p : ρ → Bool} {hit : ρ → ListedHit} :
    (rows.filter p).map hit = [] ↔ ∀ row ∈ rows, ¬p row = true := by
  rw [List.map_eq_nil_iff, List.filter_eq_nil_iff]

theorem mem_hits {ρ : Type} {rows : List ρ} {p : ρ → Bool} {hit : ρ → ListedHit} {row : ρ}
    (hrow : row ∈ rows) (h : p row = true) : hit row ∈ (rows.filter p).map hit :=
  List.mem_map_of_mem (List.mem_filter.mpr ⟨hrow, h⟩)

section Page

variable [Unicode] [FloatText] {backend : PageBackend} {present : Units → Units → Bool} {tenant : UUID}
  {marker : Units} {response : Except ListingError Json} {data : List Json}

/-- The rows of a response that is a listing, whatever they are. -/
def Listed (backend : PageBackend) (response : Except ListingError Json) (data : List Json) : Prop :=
  ∃ payload, response = .ok payload ∧ dataList payload backend.transport = .ok data

def CarriesMarker (present : Units → Units → Bool) (backend : PageBackend) (marker : Units)
    (row : Json) : Prop := present marker (backend.snippet row) = true

/-- What an answer over a page is to say. -/
def PageLaw (backend : PageBackend) (present : Units → Units → Bool) (tenant : UUID) (marker : Units)
    (response : Except ListingError Json) : Prop :=
  ∀ data, Listed backend response data →
    Lawful (data.filter isObject) (CarriesMarker present backend marker) (backend.hit tenant)
      (data.length < backend.cap) (fun e => ∃ seen, e = .capped backend.name seen)
      (backend.searchTraces present tenant marker response)

theorem post_eq_ok (h : Listed backend response data) :
    backend.post response = .ok (data.filter isObject) := by
  obtain ⟨payload, rfl, hdata⟩ := h
  simp only [PageBackend.post, bind, Except.bind, hdata]
  rfl

theorem searchTraces_hit (tenant : UUID) (h : Listed backend response data)
    (hcarries : ∃ row ∈ data.filter isObject, CarriesMarker present backend marker row) :
    backend.searchTraces present tenant marker response =
      .ok (((data.filter isObject).filter fun row => present marker (backend.snippet row)).map
        (backend.hit tenant)) := by
  have hne : ((data.filter isObject).filter fun row => present marker (backend.snippet row)).map
      (backend.hit tenant) ≠ [] := by
    obtain ⟨row, hrow, hpresent⟩ := hcarries
    exact fun hnil => hits_eq_nil.mp hnil row hrow hpresent
  unfold PageBackend.searchTraces
  rw [post_eq_ok h]
  simp only [bind, Except.bind, if_neg hne]
  rfl

theorem searchTraces_miss (tenant : UUID) (h : Listed backend response data)
    (hmiss : ∀ row ∈ data.filter isObject, ¬CarriesMarker present backend marker row) :
    backend.searchTraces present tenant marker response =
      if backend.cap ≤ (data.filter isObject).length then
        .error (.capped backend.name (data.filter isObject).length)
      else .ok [] := by
  have hnil : ((data.filter isObject).filter fun row => present marker (backend.snippet row)).map
      (backend.hit tenant) = [] := hits_eq_nil.mpr hmiss
  unfold PageBackend.searchTraces
  rw [post_eq_ok h]
  by_cases hfull : backend.cap ≤ (data.filter isObject).length
  · simp only [bind, Except.bind, hnil, if_true, refuseCapped, if_pos hfull]
  · simp only [bind, Except.bind, hnil, if_true, refuseCapped, if_neg hfull]
    rfl

/-- That the rows which are objects show whether a page is full, or one of them carries the marker. -/
def SizeShown (backend : PageBackend) (present : Units → Units → Bool) (marker : Units)
    (data : List Json) : Prop :=
  data.length < backend.cap ∨ backend.cap ≤ (data.filter isObject).length ∨
    ∃ row ∈ data.filter isObject, CarriesMarker present backend marker row

theorem pageLaw_iff : PageLaw backend present tenant marker response ↔
    ∀ data, Listed backend response data → SizeShown backend present marker data := by
  refine forall_congr' fun data => forall_congr' fun h => ?_
  by_cases hcarries : ∃ row ∈ data.filter isObject, CarriesMarker present backend marker row
  · have hsearch := searchTraces_hit tenant h hcarries
    refine iff_of_true ⟨?_, ?_, ?_⟩ (.inr (.inr hcarries))
    · intro hits hhits row hrow hpresent
      rw [hsearch] at hhits
      rw [← Except.ok.inj hhits]
      exact mem_hits hrow hpresent
    · intro hnil
      rw [hsearch] at hnil
      obtain ⟨row, hrow, hpresent⟩ := hcarries
      exact absurd hpresent (hits_eq_nil.mp (Except.ok.inj hnil) row hrow)
    · intro e _ he
      rw [hsearch] at he
      cases he
  · have hmiss : ∀ row ∈ data.filter isObject, ¬CarriesMarker present backend marker row :=
      fun row hrow hpresent => hcarries ⟨row, hrow, hpresent⟩
    have hsearch := searchTraces_miss tenant h hmiss
    constructor
    · intro hlawful
      by_cases hfull : backend.cap ≤ (data.filter isObject).length
      · exact .inr (.inl hfull)
      · rw [if_neg hfull] at hsearch
        exact .inl (hlawful.absent hsearch).2
    · intro hshown
      refine ⟨fun _ _ row hrow hpresent => absurd hpresent (hmiss row hrow), fun hnil => ?_,
        fun _ _ _ => hmiss⟩
      refine ⟨hmiss, hshown.resolve_right (not_or.mpr ⟨fun hfull => ?_, hcarries⟩)⟩
      rw [hsearch, if_pos hfull] at hnil
      cases hnil

end Page

section Langfuse

variable {client : LangfuseClient}

/-- The pages that are read from one on: all but the last are full. -/
inductive Reads (client : LangfuseClient) : Nat → List (List LangfuseTrace) → Prop
  | last {page : Nat} {batch : List LangfuseTrace} (h : client.pages page = .ok batch) :
      Reads client page [batch]
  | more {page : Nat} {batch : List LangfuseTrace} {batches : List (List LangfuseTrace)}
      (h : client.pages page = .ok batch) (hfull : tracePage ≤ batch.length)
      (hmore : Reads client (page + 1) batches) : Reads client page (batch :: batches)

theorem Reads.ne_nil {page : Nat} {batches : List (List LangfuseTrace)}
    (h : Reads client page batches) : batches ≠ [] := by
  cases h <;> simp

theorem tenantTraces_eq {page : Nat} {batch : List LangfuseTrace}
    (hpage : client.pages page = .ok batch) (traces : List LangfuseTrace) :
    client.tenantTraces page traces =
      if batch.isEmpty then .ok (traces, false)
      else if batch.length < tracePage then .ok (traces ++ batch, false)
      else if traceLimit ≤ (traces ++ batch).length then .ok (traces ++ batch, true)
      else client.tenantTraces (page + 1) (traces ++ batch) := by
  rw [LangfuseClient.tenantTraces, hpage]

/-- The listing ends with a page that is not full, unless the budget ran out. -/
theorem tenantTraces_eq_ok {page : Nat} {traces listed : List LangfuseTrace} {truncated : Bool}
    (h : client.tenantTraces page traces = .ok (listed, truncated)) :
    ∃ batches, Reads client page batches ∧ listed = traces ++ batches.flatten ∧
      (truncated = false → ∀ last ∈ batches.getLast?, last.length < tracePage) := by
  induction page, traces using LangfuseClient.tenantTraces.induct client with
  | case1 page traces e hpage =>
    rw [LangfuseClient.tenantTraces, hpage] at h
    cases h
  | case2 page traces batch hpage hempty =>
    rw [tenantTraces_eq hpage, if_pos hempty] at h
    cases h
    obtain rfl := List.isEmpty_iff.mp hempty
    exact ⟨[[]], .last hpage, by simp, by simp [tracePage]⟩
  | case3 page traces batch hpage hempty hshort =>
    rw [tenantTraces_eq hpage, if_neg hempty, if_pos hshort] at h
    cases h
    exact ⟨[batch], .last hpage, by simp, by simpa using hshort⟩
  | case4 page traces batch hpage hempty hshort hfull =>
    rw [tenantTraces_eq hpage, if_neg hempty, if_neg hshort, if_pos hfull] at h
    cases h
    exact ⟨[batch], .last hpage, by simp, by simp⟩
  | case5 page traces batch hpage hempty hshort hfull ih =>
    rw [tenantTraces_eq hpage, if_neg hempty, if_neg hshort, if_neg hfull] at h
    obtain ⟨batches, hreads, rfl, hlast⟩ := ih h
    refine ⟨batch :: batches, .more hpage (by omega) hreads, by simp, fun htruncated last hmem => ?_⟩
    rw [List.getLast?_cons_of_ne_nil hreads.ne_nil] at hmem
    exact hlast htruncated last hmem

variable [Unicode] [FloatText]

def TraceCarries (present : Units → Units → Bool) (marker : Units) (trace : LangfuseTrace) : Prop :=
  present marker (LangfuseClient.snippet trace) = true

/-- What an answer over the pages is to say. -/
def LangfuseLaw (client : LangfuseClient) (present : Units → Units → Bool) (cached : Option Units)
    (tenant : UUID) (marker : Units) : Prop :=
  ∀ project traces truncated, client.projectName cached = .ok project →
    client.tenantTraces 1 [] = .ok (traces, truncated) →
    ∃ batches, Reads client 1 batches ∧ traces = batches.flatten ∧
      Lawful traces (TraceCarries present marker) (LangfuseClient.hit project)
        (∀ last ∈ batches.getLast?, last.length < tracePage) (fun e => e = .truncated tenant)
        (client.searchTraces present cached tenant marker)

theorem langfuseLaw (client : LangfuseClient) (present : Units → Units → Bool)
    (cached : Option Units) (tenant : UUID) (marker : Units) :
    LangfuseLaw client present cached tenant marker := by
  intro project traces truncated hproject htraces
  obtain ⟨batches, hreads, hlisted, hlast⟩ := tenantTraces_eq_ok htraces
  have hsearch : client.searchTraces present cached tenant marker =
      if (traces.filter fun trace => present marker (LangfuseClient.snippet trace)).map
        (LangfuseClient.hit project) = [] ∧ truncated then .error (.truncated tenant)
      else .ok ((traces.filter fun trace => present marker (LangfuseClient.snippet trace)).map
        (LangfuseClient.hit project)) := by
    unfold LangfuseClient.searchTraces
    rw [hproject, htraces]
    simp only [bind, Except.bind]
    split <;> rfl
  refine ⟨batches, hreads, hlisted, ?_, ?_, ?_⟩
  · intro hits hhits row hrow hpresent
    rw [hsearch] at hhits
    split at hhits
    · cases hhits
    · rw [← Except.ok.inj hhits]
      exact mem_hits hrow hpresent
  · intro hnil
    rw [hsearch] at hnil
    split at hnil
    · cases hnil
    · rename_i hnot
      have hmiss := Except.ok.inj hnil
      exact ⟨hits_eq_nil.mp hmiss, hlast (by simpa [hmiss] using hnot)⟩
  · intro e _ he
    rw [hsearch] at he
    split at he
    · rename_i hcut
      exact hits_eq_nil.mp hcut.1
    · cases he

end Langfuse

section Searches

variable [Unicode] [FloatText]

/-- The searches of a page say what is listed exactly when the rows which are objects show whether the
page is full, or one of them carries the marker; the search of page after page always does. -/
theorem search_traces_lawful_iff (present : Units → Units → Bool) (tenant : UUID) (marker : Units) :
    (∀ tenantTag response, PageLaw (datadog tenantTag) present tenant marker response ↔
      ∀ data, Listed (datadog tenantTag) response data →
        SizeShown (datadog tenantTag) present marker data) ∧
    (∀ tenantProperty response, PageLaw (helicone tenantProperty) present tenant marker response ↔
      ∀ data, Listed (helicone tenantProperty) response data →
        SizeShown (helicone tenantProperty) present marker data) ∧
    ∀ client cached, LangfuseLaw client present cached tenant marker :=
  ⟨fun _ _ => pageLaw_iff, fun _ _ => pageLaw_iff, fun client cached =>
    langfuseLaw client present cached tenant marker⟩

end Searches

section Sample

attribute [local instance] Unicode.ascii FloatText.halves

def presentInText (needle snippet : Units) : Bool :=
  residualPresent (textOf needle) (textOf snippet)

/-- 999 spans that say nothing and a row that is no span. -/
def sampleRows : List Json := List.replicate 999 (.obj []) ++ [.null]

def samplePayload : Json := Json.object [("data", .arr sampleRows)]

theorem sampleRows_filter : sampleRows.filter isObject = List.replicate 999 (.obj []) := by
  have hrow : isObject (.obj []) = true := rfl
  have hlast : List.filter isObject [.null] = [] := rfl
  rw [sampleRows, List.filter_append, List.filter_replicate, if_pos hrow, hlast, List.append_nil]

/-- A full page of which one row is not an object, and no other has the marker, is an answer. -/
theorem full_page_read_as_absence :
    (datadog "tenant").searchTraces presentInText ⟨1⟩ (units "canary-7f") (.ok samplePayload) = .ok [] ∧
      (datadog "tenant").cap ≤ sampleRows.length ∧
      ¬PageLaw (datadog "tenant") presentInText ⟨1⟩ (units "canary-7f") (.ok samplePayload) := by
  have hlisted : Listed (datadog "tenant") (.ok samplePayload) sampleRows := by
    refine ⟨samplePayload, rfl, ?_⟩
    obtain ⟨rows, hrows⟩ : ∃ rows, rows = sampleRows := ⟨_, rfl⟩
    have hobject : isObject (Json.object [("data", .arr rows)]) = true := rfl
    rw [samplePayload, ← hrows, dataList, hobject]
    simp
  have hmiss : ∀ row ∈ sampleRows.filter isObject,
      ¬CarriesMarker presentInText (datadog "tenant") (units "canary-7f") row := by
    intro row hrow
    rw [sampleRows_filter] at hrow
    rw [List.eq_of_mem_replicate hrow]
    unfold CarriesMarker
    decide +kernel
  have hcount : (sampleRows.filter isObject).length = 999 := by
    rw [sampleRows_filter, List.length_replicate]
  have hlength : sampleRows.length = 1000 := by
    rw [sampleRows, List.length_append, List.length_replicate]
    rfl
  have hsearch := searchTraces_miss ⟨1⟩ hlisted hmiss
  rw [hcount] at hsearch
  refine ⟨hsearch, hlength.ge, fun hlaw => ?_⟩
  have hshort := ((hlaw sampleRows hlisted).absent hsearch).2
  rw [hlength] at hshort
  exact absurd hshort (by decide)

end Sample

end Sectum
