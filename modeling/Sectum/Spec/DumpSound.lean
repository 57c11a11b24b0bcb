import Sectum.Lib.JsonFields
import Sectum.Lib.JsonTexts
import Sectum.Spec.Dump
import Sectum.Spec.Hashing

/-! The JSON form of a model is a document: the keys of its objects are distinct, and its floats are
floats where the ones of the model are.  Its strings are texts, so its canonical form is encoded
whenever it is written. -/

namespace Sectum

open Py

section Values

variable [FloatText] {α : Type}

theorem dumpOptional_wellFormed {dump : α → Json} {value : Option α}
    (h : ∀ a ∈ value, (dump a).WellFormed) : (dumpOptional dump value).WellFormed := by
  cases value with
  | none => exact .null
  | some a => exact h a rfl

theorem dumpList_wellFormed {dump : α → Json} {items : List α}
    (h : ∀ a ∈ items, (dump a).WellFormed) : (dumpList dump items).WellFormed := by
  refine .arr _ fun item hitem => ?_
  obtain ⟨a, ha, rfl⟩ := List.mem_map.mp hitem
  exact h a ha

theorem dumpDict_wellFormed {κ ν : Type} {key : κ → String} (hkey : Function.Injective key)
    {dump : ν → Json} {d : Dict κ ν} (h : ∀ entry ∈ d.items, (dump entry.2).WellFormed) :
    (dumpDict key dump d).WellFormed := by
  refine .obj _ ?_ ?_
  · have hkeys : (d.items.map fun entry => units (key entry.1)) =
        d.keys.map fun k => units (key k) := by
      rw [Dict.keys_eq_items, List.map_map]
      rfl
    rw [List.map_map]
    show (d.items.map fun entry => units (key entry.1)).Nodup
    rw [hkeys]
    have hnodup : d.keys.Nodup := d.nodupKeys
    exact hnodup.map (units_injective.comp hkey)
  · intro entry hentry
    obtain ⟨entry, hmem, rfl⟩ := List.mem_map.mp hentry
    exact h entry hmem

theorem dumpFloat_wellFormed {q : ℚ} (h : FloatText.isFloat q) : (dumpFloat q).WellFormed := by
  refine .float _ fun q' heq => ?_
  obtain rfl : q = q' := PyFloat.finite.inj heq
  exact h

end Values

/-- The floats of the metrics. -/
def RunMetrics.floats (m : RunMetrics) : List ℚ :=
  m.retrievalPivotRate.toList ++ m.poisoningBleedDelta.toList ++
    m.inversionReconstructionRate.toList ++ m.extractionEfficiency.toList ++
    (m.retrievalPivotRateCi.toList.flatMap fun ci => [ci.1, ci.2]) ++
    m.retrievalPivotRateByModel.items.map Prod.snd ++ m.sideChannelEffectSizes.items.map Prod.snd

variable [FloatText]

theorem ControlMapping.dump_wellFormed (mapping : ControlMapping) : mapping.dump.WellFormed := by
  apply Json.WellFormed.object
  · show ["framework", "control_ids", "assertion"].Nodup
    decide
  · simp only [List.forall_mem_cons]
    exact ⟨.str _, dumpList_wellFormed fun _ _ => .str _, .str _, nofun⟩

theorem RunMetrics.dump_wellFormed {m : RunMetrics} (h : ∀ q ∈ m.floats, FloatText.isFloat q) :
    m.dump.WellFormed := by
  have hfloats : ∀ q ∈ m.floats, (dumpFloat q).WellFormed := fun q hq => dumpFloat_wellFormed (h q hq)
  simp only [floats, List.forall_mem_append, Option.mem_toList, List.forall_mem_map] at hfloats
  obtain ⟨⟨⟨⟨⟨⟨hpivot, hbleed⟩, hinversion⟩, hextraction⟩, hci⟩, hmodels⟩, heffects⟩ := hfloats
  have hinterval : ∀ ci ∈ m.retrievalPivotRateCi,
      (Json.arr [dumpFloat ci.1, dumpFloat ci.2]).WellFormed := by
    intro ci hmem
    refine .arr _ fun item hitem => ?_
    have hends : ∀ q ∈ [ci.1, ci.2], (dumpFloat q).WellFormed := fun q hq =>
      hci q (List.mem_flatMap.mpr ⟨ci, Option.mem_toList.mpr hmem, hq⟩)
    rcases List.mem_pair.mp hitem with rfl | rfl
    · exact hends ci.1 List.mem_cons_self
    · exact hends ci.2 (List.mem_cons_of_mem _ List.mem_cons_self)
  apply Json.WellFormed.object
  · show ["per_probe_findings", "confirmed_findings", "retrieval_pivot_rate", "retrieval_pivot_n",
      "retrieval_pivot_k", "retrieval_pivot_rate_ci", "retrieval_pivot_rate_by_model",
      "erasure_residue", "erasure_caveats", "erasure_unverifiable", "erasure_coverage",
      "side_channel_effect_sizes", "side_channel_variance_floored", "poisoning_bleed_delta",
      "inversion_reconstruction_rate", "extraction_efficiency", "user_steps_dropped",
      "unconfirmed_plants"].Nodup
    decide
  · have hcounts : ∀ d : Dict String Int, (dumpDict id .int d).WellFormed := fun d =>
      dumpDict_wellFormed Function.injective_id fun _ _ => .int _
    have hsurfaces : ∀ d : Dict Surface Int, (dumpDict Surface.value .int d).WellFormed := fun d =>
      dumpDict_wellFormed Surface.value_injective fun _ _ => .int _
    simp only [List.forall_mem_cons]
    exact ⟨hcounts _, .int _, dumpOptional_wellFormed hpivot, .int _, .int _,
      dumpOptional_wellFormed hinterval, dumpDict_wellFormed Function.injective_id hmodels,
      hsurfaces _, hsurfaces _, hsurfaces _,
      dumpDict_wellFormed Surface.value_injective fun _ _ => .str _,
      dumpDict_wellFormed Function.injective_id heffects, dumpList_wellFormed fun _ _ => .str _,
      dumpOptional_wellFormed hbleed, dumpOptional_wellFormed hinversion,
      dumpOptional_wellFormed hextraction, hcounts _, hcounts _, nofun⟩

/-- The floats of a run. -/
def RunResult.floats (run : RunResult) : List ℚ :=
  run.metrics.floats ++ run.findings.map (fun f => f.confidence.1) ++
    run.detection.toList.map fun d => d.semanticThreshold.1

theorem Finding.dump_wellFormed {f : Finding} (h : FloatText.isFloat f.confidence.1) :
    f.dump.WellFormed := by
  have hid : ∀ id : UUID, (dumpUuid id).WellFormed := fun _ => .str _
  have htexts : ∀ texts : List String, (dumpList .text texts).WellFormed := fun _ =>
    dumpList_wellFormed fun _ _ => .str _
  apply Json.WellFormed.object
  · show ["finding_id", "probe_id", "severity", "confidence", "status", "owner_tenant_id",
      "observed_in_tenant_id", "owner_user_id", "observed_in_user_id", "surface", "marker_id",
      "evidence_span", "owasp_llm", "owasp_secondary", "atlas", "nist", "remediation_pointer"].Nodup
    decide
  · simp only [List.forall_mem_cons]
    exact ⟨.str _, .str _, .str _, dumpFloat_wellFormed h, .str _, hid _, hid _,
      dumpOptional_wellFormed fun _ _ => hid _, dumpOptional_wellFormed fun _ _ => hid _, .str _,
      dumpOptional_wellFormed fun _ _ => .str _, .str _, .str _, htexts _, htexts _, htexts _,
      .str _, nofun⟩

theorem DetectionProvenance.dump_wellFormed {d : DetectionProvenance}
    (h : FloatText.isFloat d.semanticThreshold.1) : d.dump.WellFormed := by
  apply Json.WellFormed.object
  · show ["embedder_kind", "embedder_model", "judge_kind", "judge_model",
      "semantic_threshold"].Nodup
    decide
  · simp only [List.forall_mem_cons]
    exact ⟨.str _, dumpOptional_wellFormed fun _ _ => .str _, .str _,
      dumpOptional_wellFormed fun _ _ => .str _, dumpFloat_wellFormed h, nofun⟩

theorem RunResult.dump_wellFormed {run : RunResult} (h : ∀ q ∈ run.floats, FloatText.isFloat q) :
    run.dump.WellFormed := by
  simp only [floats, List.forall_mem_append, List.forall_mem_map, Option.mem_toList] at h
  obtain ⟨⟨hmetrics, hfindings⟩, hdetection⟩ := h
  have htime : ∀ value : DateTime, (dumpDateTime value).WellFormed := fun _ => .str _
  have htexts : ∀ d : Dict String String, (dumpDict id .text d).WellFormed := fun d =>
    dumpDict_wellFormed Function.injective_id fun _ _ => .str _
  apply Json.WellFormed.object
  · show ["run_id", "scenario_hash", "manifest_hash", "started_at", "finished_at",
      "adapter_versions", "surface_provenance", "probe_versions", "findings", "metrics",
      "detection", "vector_embedder", "schema_version"].Nodup
    decide
  · simp only [List.forall_mem_cons]
    exact ⟨.str _, .str _, .str _, htime _, htime _, htexts _,
      dumpDict_wellFormed Surface.value_injective fun _ _ => .str _, htexts _,
      dumpList_wellFormed fun f hf => Finding.dump_wellFormed (hfindings f hf),
      RunMetrics.dump_wellFormed hmetrics,
      dumpOptional_wellFormed fun d hd => DetectionProvenance.dump_wellFormed (hdetection d hd),
      dumpOptional_wellFormed fun _ _ => .str _, .str _, nofun⟩

theorem EvidencePack.dump_wellFormed {pack : EvidencePack}
    (h : ∀ q ∈ pack.runResult.floats, FloatText.isFloat q) : pack.dump.WellFormed := by
  have htext : ∀ text : Option String, (dumpOptional .text text).WellFormed := fun _ =>
    dumpOptional_wellFormed fun _ _ => .str _
  apply Json.WellFormed.object
  · show ["run_result", "manifest_hash", "tsa_token", "rekor_proof", "control_mappings", "pdf_ref",
      "anchored_in_log", "anchored_with_timestamp", "schema_version"].Nodup
    decide
  · simp only [List.forall_mem_cons]
    exact ⟨RunResult.dump_wellFormed h, .str _, htext _, htext _,
      dumpList_wellFormed fun mapping _ => ControlMapping.dump_wellFormed mapping, htext _,
      .bool _, .bool _, .str _, nofun⟩

section Texts

variable {α : Type}

omit [FloatText] in
theorem text_texts (s : String) : (Json.text s).Strings IsText := .str _ (isText_units s)

omit [FloatText] in
theorem object_texts {entries : List (String × Json)}
    (h : ∀ entry ∈ entries, entry.2.Strings IsText) : (Json.object entries).Strings IsText := by
  refine .obj _ (fun entry hentry => ?_) fun entry hentry => ?_
  · obtain ⟨entry, -, rfl⟩ := List.mem_map.mp hentry
    exact isText_units entry.1
  · obtain ⟨entry, hmem, rfl⟩ := List.mem_map.mp hentry
    exact h entry hmem

omit [FloatText] in
theorem dumpOptional_texts {dump : α → Json} (h : ∀ a, (dump a).Strings IsText)
    (value : Option α) : (dumpOptional dump value).Strings IsText := by
  cases value with
  | none => exact .null
  | some a => exact h a

omit [FloatText] in
theorem dumpList_texts {dump : α → Json} (h : ∀ a, (dump a).Strings IsText) (items : List α) :
    (dumpList dump items).Strings IsText := by
  refine .arr _ fun item hitem => ?_
  obtain ⟨a, -, rfl⟩ := List.mem_map.mp hitem
  exact h a

omit [FloatText] in
theorem dumpDict_texts {κ ν : Type} {key : κ → String} {dump : ν → Json}
    (h : ∀ a, (dump a).Strings IsText) (d : Dict κ ν) :
    (dumpDict key dump d).Strings IsText := by
  refine .obj _ (fun entry hentry => ?_) fun entry hentry => ?_
  · obtain ⟨entry, -, rfl⟩ := List.mem_map.mp hentry
    exact isText_units (key entry.1)
  · obtain ⟨entry, -, rfl⟩ := List.mem_map.mp hentry
    exact h entry.2

omit [FloatText] in
theorem ControlMapping.dump_texts (mapping : ControlMapping) : mapping.dump.Strings IsText := by
  apply object_texts
  simp only [List.forall_mem_cons]
  exact ⟨text_texts _, dumpList_texts text_texts _, text_texts _, nofun⟩

omit [FloatText] in
theorem RunMetrics.dump_texts (m : RunMetrics) : m.dump.Strings IsText := by
  have hfloat : ∀ q : ℚ, (dumpFloat q).Strings IsText := fun q => .float _
  have hinterval : ∀ ci : ℚ × ℚ, (Json.arr [dumpFloat ci.1, dumpFloat ci.2]).Strings IsText := by
    intro ci
    refine .arr _ fun item hitem => ?_
    rcases List.mem_pair.mp hitem with rfl | rfl
    · exact hfloat ci.1
    · exact hfloat ci.2
  apply object_texts
  simp only [List.forall_mem_cons]
  exact ⟨dumpDict_texts .int _, .int _, dumpOptional_texts hfloat _, .int _, .int _,
    dumpOptional_texts hinterval _, dumpDict_texts hfloat _, dumpDict_texts .int _,
    dumpDict_texts .int _, dumpDict_texts .int _, dumpDict_texts (fun _ => text_texts _) _,
    dumpDict_texts hfloat _, dumpList_texts text_texts _, dumpOptional_texts hfloat _,
    dumpOptional_texts hfloat _, dumpOptional_texts hfloat _, dumpDict_texts .int _,
    dumpDict_texts .int _, nofun⟩

omit [FloatText] in
theorem Finding.dump_texts (f : Finding) : f.dump.Strings IsText := by
  have hid : ∀ id : UUID, (dumpUuid id).Strings IsText := fun id => text_texts id.str
  apply object_texts
  simp only [List.forall_mem_cons]
  exact ⟨text_texts _, text_texts _, text_texts _, .float _, text_texts _, hid _, hid _,
    dumpOptional_texts hid _, dumpOptional_texts hid _, text_texts _,
    dumpOptional_texts text_texts _, text_texts _, text_texts _, dumpList_texts text_texts _,
    dumpList_texts text_texts _, dumpList_texts text_texts _, text_texts _, nofun⟩

omit [FloatText] in
theorem DetectionProvenance.dump_texts (d : DetectionProvenance) : d.dump.Strings IsText := by
  apply object_texts
  simp only [List.forall_mem_cons]
  exact ⟨text_texts _, dumpOptional_texts text_texts _, text_texts _,
    dumpOptional_texts text_texts _, .float _, nofun⟩

omit [FloatText] in
theorem RunResult.dump_texts (run : RunResult) : run.dump.Strings IsText := by
  have htime : ∀ value : DateTime, (dumpDateTime value).Strings IsText := fun _ => text_texts _
  apply object_texts
  simp only [List.forall_mem_cons]
  exact ⟨text_texts _, text_texts _, text_texts _, htime _, htime _, dumpDict_texts text_texts _,
    dumpDict_texts (fun _ => text_texts _) _, dumpDict_texts text_texts _,
    dumpList_texts Finding.dump_texts _, RunMetrics.dump_texts _,
    dumpOptional_texts DetectionProvenance.dump_texts _, dumpOptional_texts text_texts _,
    text_texts _, nofun⟩

variable [JsonLimits]

/-- Texts have a canonical form unless they nest too deeply or hold a float that is not finite. -/
theorem toCanonicalJson_returns {value : Json} (hw : value.WellFormed)
    (hs : value.Strings IsText) :
    (∃ data, toCanonicalJson value = .ok data) ↔
      JsonText.refusal JsonText.canonical JsonLimits.depth value = none := by
  rw [← JsonText.dumps_ok_iff]
  constructor
  · rintro ⟨data, h⟩
    obtain ⟨text, htext, -⟩ := bind_eq_ok.mp h
    exact ⟨text, htext⟩
  · rintro ⟨text, htext⟩
    obtain ⟨data, hdata⟩ := encodeUtf8_dumps hw hs htext
    exact ⟨data, bind_eq_ok.mpr ⟨text, htext, orRaise_eq_ok.mpr hdata⟩⟩

theorem canonicalHash_returns [Hashlib] {value : Json} (hw : value.WellFormed)
    (hs : value.Strings IsText) :
    (∃ hash, canonicalHash value = .ok hash) ↔
      JsonText.refusal JsonText.canonical JsonLimits.depth value = none := by
  rw [← toCanonicalJson_returns hw hs]
  unfold canonicalHash
  cases toCanonicalJson value <;> simp [Except.map]

end Texts

end Sectum
