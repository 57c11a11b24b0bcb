import Sectum.Evidence.Verify
import Sectum.Spec.DumpSound
import Sectum.Lib.JsonFields

/-! A pack that was built with the local timestamper verifies after a round trip through its JSON
form, and no pack with other attested content verifies with its token. -/

namespace Sectum

open Py JsonText

section Verify

variable [JsonLimits] [FloatText] [Unicode] [Decimals] [Hashlib] [Cryptography] [Rfc3161]

/-- What a verification reads before it gives its verdict. -/
theorem packChecks_eq_ok {pack : EvidencePack} {manifest : Option GroundTruthManifest}
    {options : VerifyOptions} {checks : List Check} {anchored : Bool} :
    packChecks pack manifest options = .ok (checks, anchored) ↔
      ∃ digest tokenCheck tokenAnchored mappingsCheck rekor manifestCheck,
        attestedDigest pack = .ok digest ∧
        checkToken pack.tsaToken digest options.tsaCertificate options.tsaRoot
          pack.anchoredWithTimestamp = .ok (tokenCheck, tokenAnchored) ∧
        checkControlMappings pack = .ok mappingsCheck ∧
        rekorChecks pack digest options.rekorKeyring = .ok rekor ∧
        manifest.mapM (fun manifest => checkManifest manifest pack.manifestHash) =
          .ok manifestCheck ∧
        checks = [checkSchemaVersion pack, tokenCheck, checkConsistency pack, mappingsCheck,
          checkRunScope pack options.requireLive] ++ rekor ++ manifestCheck.toList ∧
        anchored = (tokenAnchored || rekor.any Check.ok) := by
  unfold packChecks
  constructor
  · intro h
    obtain ⟨digest, hdigest, h⟩ := bind_eq_ok.mp h
    obtain ⟨⟨tokenCheck, tokenAnchored⟩, htoken, h⟩ := bind_eq_ok.mp h
    obtain ⟨mappingsCheck, hmappings, h⟩ := bind_eq_ok.mp h
    obtain ⟨rekor, hrekor, h⟩ := bind_eq_ok.mp h
    obtain ⟨manifestCheck, hmanifest, h⟩ := bind_eq_ok.mp h
    obtain ⟨rfl, rfl⟩ := Prod.mk.inj (Except.ok.inj h)
    exact ⟨digest, tokenCheck, tokenAnchored, mappingsCheck, rekor, manifestCheck, hdigest, htoken,
      hmappings, hrekor, hmanifest, rfl, rfl⟩
  · rintro ⟨digest, tokenCheck, tokenAnchored, mappingsCheck, rekor, manifestCheck, hdigest, htoken,
      hmappings, hrekor, hmanifest, rfl, rfl⟩
    exact bind_eq_ok.mpr ⟨digest, hdigest, bind_eq_ok.mpr ⟨(tokenCheck, tokenAnchored), htoken,
      bind_eq_ok.mpr ⟨mappingsCheck, hmappings, bind_eq_ok.mpr ⟨rekor, hrekor,
        bind_eq_ok.mpr ⟨manifestCheck, hmanifest, rfl⟩⟩⟩⟩⟩

theorem verifyPack_eq_ok {pack : EvidencePack} {manifest : Option GroundTruthManifest}
    {pdfBytes : Option Bytes} {options : VerifyOptions} {result : VerificationResult} :
    verifyPack pack manifest pdfBytes options = .ok result ↔
      ∃ checks anchored, packChecks pack manifest options = .ok (checks, anchored) ∧
        VerificationResult.of (checks ++ pdfChecks pack.pdfRef pdfBytes ++
          anchorChecks options.requireAnchored anchored) anchored = result := by
  unfold verifyPack
  constructor
  · intro h
    obtain ⟨⟨checks, anchored⟩, hchecks, h⟩ := bind_eq_ok.mp h
    exact ⟨checks, anchored, hchecks, Except.ok.inj h⟩
  · rintro ⟨checks, anchored, hchecks, rfl⟩
    rw [hchecks]
    rfl

end Verify

section Token

variable [JsonLimits] [FloatText] {digest : String} {now : DateTime} {text : Units}

omit [JsonLimits] in
theorem localToken_wellFormed (digest : String) (now : DateTime) :
    (localToken digest now).WellFormed := by
  apply Json.WellFormed.object
  · show ["tsa", "digest", "timestamped_at"].Nodup
    decide
  intro entry hentry
  simp only [List.mem_cons, List.not_mem_nil, or_false] at hentry
  rcases hentry with rfl | rfl | rfl <;> exact .str _

/-- The token of the local timestamper is read back. -/
theorem loads_localToken (h : dumps compact (localToken digest now) = .ok text) :
    units (textOf text) = text ∧ loads text = .ok (localToken digest now).sorted :=
  ⟨units_textOf (isAscii_dumps rfl (localToken_wellFormed digest now) h),
    loads_dumps (localToken_wellFormed digest now) h⟩

omit [JsonLimits] in
theorem localToken_fields (digest : String) (now : DateTime) :
    (localToken digest now).sorted.get "digest" = some (.text digest) ∧
      (localToken digest now).sorted.get "tsa" = some (.text localTsa) := by
  rw [(localToken_wellFormed digest now).get_sorted, (localToken_wellFormed digest now).get_sorted,
    localToken, Json.get_object, Json.get_object]
  exact ⟨rfl, rfl⟩

omit [JsonLimits] in
/-- A local token is accepted for the digest that it was made for, unless a TSA is claimed. -/
theorem localTokenCheck_ok (recomputed : String) (requireRfc3161 : Bool) :
    (localTokenCheck (localToken digest now).sorted recomputed requireRfc3161).ok = true ↔
      recomputed = digest ∧ requireRfc3161 = false := by
  obtain ⟨hdigest, htsa⟩ := localToken_fields digest now
  have htext : (Json.text digest).equalsText (units recomputed) = true ↔ recomputed = digest := by
    show decide (units digest = units recomputed) = true ↔ _
    rw [decide_eq_true_eq, units_injective.eq_iff, eq_comm]
  have hlocal : (Json.text localTsa).equalsText (units localTsa) = true :=
    decide_eq_true (Eq.refl (units localTsa))
  rw [localTokenCheck, hdigest, htsa, Option.getD_some, Option.getD_some, hlocal]
  by_cases heq : recomputed = digest
  · rw [htext.mpr heq]
    cases requireRfc3161 with
    | false => exact iff_of_true rfl ⟨heq, rfl⟩
    | true => exact iff_of_false Bool.false_ne_true nofun
  · rw [Bool.eq_false_iff.mpr (mt htext.mp heq)]
    exact iff_of_false Bool.false_ne_true fun h => heq h.1

variable [Rfc3161]

/-- The token of the local timestamper is never an independent anchor. -/
theorem checkToken_local (h : dumps compact (localToken digest now) = .ok text)
    (recomputed : String) (tsaCertificate tsaRoot : Option Bytes) (requireRfc3161 : Bool) :
    checkToken (some (textOf text)) recomputed tsaCertificate tsaRoot requireRfc3161 =
      .ok (localTokenCheck (localToken digest now).sorted recomputed requireRfc3161, false) := by
  obtain ⟨htext, hloads⟩ := loads_localToken h
  have hne : textOf text ≠ "" := by
    intro heq
    rw [← htext, heq, loads_empty] at hloads
    cases hloads
  rw [checkToken, Option.getD_some, if_neg hne, htext, hloads]

end Token

section Mappings

variable [JsonLimits] [FloatText]

theorem canonicalMapping_ok (hdepth : 2 ≤ JsonLimits.depth) (mapping : ControlMapping) :
    ∃ text, canonicalMapping mapping = .ok text := by
  obtain ⟨room, hroom⟩ : ∃ room, JsonLimits.depth = room + 2 := ⟨JsonLimits.depth - 2, by omega⟩
  have hids : ∀ ids : List String, refusalItems compact room (ids.map .text) = none := by
    intro ids
    rw [refusalItems_eq_none, List.forall_mem_map]
    exact fun _ _ => rfl
  unfold canonicalMapping
  rw [dumps_ok_iff, hroom]
  show ((none : Option Exn).or ((refusalItems compact room _).or _)) = none
  rw [hids]
  rfl

theorem mapM_canonicalMapping {text : ControlMapping → Units}
    (htext : ∀ mapping, canonicalMapping mapping = .ok (text mapping))
    (mappings : List ControlMapping) :
    mappings.mapM canonicalMapping = .ok (mappings.map text) := by
  rw [mapM_eq_ok, List.forall₂_map_right_iff, List.forall₂_same]
  exact fun mapping _ => htext mapping

/-- Mappings that the run earns are accepted. -/
theorem checkControlMappings_ok (hdepth : 2 ≤ JsonLimits.depth) {pack : EvidencePack}
    (h : pack.controlMappings ⊆ controlMappings (some pack.runResult)) :
    ∃ check, checkControlMappings pack = .ok check ∧ check.ok = true := by
  choose text htext using canonicalMapping_ok hdepth
  have hearned : ((pack.controlMappings.zip (pack.controlMappings.map text)).filter fun entry =>
      entry.2 ∉ (controlMappings (some pack.runResult)).map text) = [] := by
    rw [List.filter_eq_nil_iff]
    intro entry hentry
    obtain ⟨mapping, hmem, hentry⟩ := List.mem_map.mp (List.of_mem_zip hentry).2
    simpa using ⟨mapping, h hmem, hentry⟩
  unfold checkControlMappings
  rw [mapM_canonicalMapping htext, mapM_canonicalMapping htext]
  refine ⟨_, rfl, ?_⟩
  dsimp only [bind, Except.bind, pure, Except.pure]
  rw [hearned]
  rfl

end Mappings

theorem checkSchemaVersion_ok [Unicode] {pack : EvidencePack} :
    (checkSchemaVersion pack).ok = true ↔
      schemaMajorMinor (units schemaVersion) = schemaMajorMinor (units pack.schemaVersion) ∧
        schemaMajorMinor (units pack.schemaVersion) =
          schemaMajorMinor (units pack.runResult.schemaVersion) := by
  unfold checkSchemaVersion
  dsimp only
  split
  · rename_i hsupported
    exact iff_of_true rfl hsupported
  · rename_i hunsupported
    exact iff_of_false Bool.false_ne_true hunsupported

theorem checkConsistency_ok {pack : EvidencePack} :
    (checkConsistency pack).ok = true ↔ pack.runResult.manifestHash = pack.manifestHash := by
  unfold checkConsistency
  split
  · rename_i hsame
    exact iff_of_true rfl hsame
  · rename_i hother
    exact iff_of_false Bool.false_ne_true hother

theorem checkRunScope_ok (pack : EvidencePack) : (checkRunScope pack false).ok = true := by
  unfold checkRunScope
  dsimp only
  split
  · rfl
  · split
    · rfl
    · split
      · rfl
      · split <;> rfl

section Build

variable [JsonLimits] [FloatText] [Hashlib]

/-- What a pack that was built with the local timestamper holds. -/
theorem buildEvidencePack_local {run : RunResult} {manifest : GroundTruthManifest}
    {mappings : List ControlMapping} {pdfRef : Option String} {now : DateTime} {pack : EvidencePack}
    (h : buildEvidencePack run manifest mappings pdfRef (localTimestamper now) none = .ok pack) :
    ∃ digest text, attestedDigest pack = .ok digest ∧
      dumps compact (localToken digest now) = .ok text ∧
      canonicalHash manifest.dump = .ok pack.manifestHash ∧
      pack = { runResult := run, manifestHash := pack.manifestHash, tsaToken := some (textOf text),
               controlMappings := mappings, pdfRef := pdfRef } := by
  unfold buildEvidencePack at h
  obtain ⟨manifestHash, hmanifest, h⟩ := bind_eq_ok.mp h
  obtain ⟨digest, hdigest, h⟩ := bind_eq_ok.mp h
  obtain ⟨token, htoken, h⟩ := bind_eq_ok.mp h
  obtain ⟨text, htext, rfl⟩ := map_eq_ok.mp (guarded_eq_ok.mp htoken)
  cases h
  exact ⟨digest, text, guarded_eq_ok.mp hdigest, htext, guarded_eq_ok.mp hmanifest, rfl⟩

/-- A run is put in a pack with the local timestamper where what is hashed can be written. -/
theorem buildEvidencePack_of_hashed {run : RunResult} {manifest : GroundTruthManifest}
    {mappings : List ControlMapping} {pdfRef : Option String} {manifestHash digest : String}
    {now : DateTime} {text : Units} (hmanifest : canonicalHash manifest.dump = .ok manifestHash)
    (hdigest : canonicalHash (attestedContent run manifestHash mappings pdfRef false false) =
      .ok digest) (htext : dumps compact (localToken digest now) = .ok text) :
    buildEvidencePack run manifest mappings pdfRef (localTimestamper now) none =
      .ok { runResult := run, manifestHash := manifestHash, tsaToken := some (textOf text),
            controlMappings := mappings, pdfRef := pdfRef } := by
  refine bind_eq_ok.mpr ⟨manifestHash, guarded_eq_ok.mpr hmanifest, bind_eq_ok.mpr
    ⟨digest, guarded_eq_ok.mpr hdigest, bind_eq_ok.mpr ⟨textOf text, guarded_eq_ok.mpr ?_, rfl⟩⟩⟩
  rw [htext]
  rfl

omit [JsonLimits] [Hashlib] in
theorem attestedContent_wellFormed {run : RunResult} (h : ∀ q ∈ run.floats, FloatText.isFloat q)
    (manifestHash : String) (mappings : List ControlMapping) (pdfRef : Option String)
    (anchoredInLog anchoredWithTimestamp : Bool) :
    (attestedContent run manifestHash mappings pdfRef anchoredInLog
      anchoredWithTimestamp).WellFormed := by
  apply Json.WellFormed.object
  · show ["run_result", "manifest_hash", "control_mappings", "pdf_ref", "anchored_in_log",
      "anchored_with_timestamp"].Nodup
    decide
  · simp only [List.forall_mem_cons]
    exact ⟨RunResult.dump_wellFormed h, .str _,
      dumpList_wellFormed fun mapping _ => ControlMapping.dump_wellFormed mapping,
      dumpOptional_wellFormed fun _ _ => .str _, .bool _, .bool _, nofun⟩

omit [JsonLimits] [FloatText] [Hashlib] in
theorem attestedContent_texts (run : RunResult) (manifestHash : String)
    (mappings : List ControlMapping) (pdfRef : Option String)
    (anchoredInLog anchoredWithTimestamp : Bool) :
    (attestedContent run manifestHash mappings pdfRef anchoredInLog
      anchoredWithTimestamp).Strings IsText := by
  apply object_texts
  simp only [List.forall_mem_cons]
  exact ⟨RunResult.dump_texts run, text_texts _, dumpList_texts ControlMapping.dump_texts _,
    dumpOptional_texts text_texts _, .bool _, .bool _, nofun⟩

/-- A pack has a digest unless its content nests too deeply or holds a float that is not finite. -/
theorem attestedDigest_returns {pack : EvidencePack}
    (h : ∀ q ∈ pack.runResult.floats, FloatText.isFloat q) :
    (∃ digest, attestedDigest pack = .ok digest) ↔
      refusal canonical JsonLimits.depth pack.content = none :=
  canonicalHash_returns (attestedContent_wellFormed h _ _ _ _ _) (attestedContent_texts _ _ _ _ _ _)

variable [Unicode] [Decimals] [Cryptography] [Rfc3161]

/-- What passes with the local token for a digest has that digest. -/
theorem attestedDigest_of_passed {digest : String} {now : DateTime} {text : Units}
    (htext : dumps compact (localToken digest now) = .ok text) {pack : EvidencePack}
    (htoken : pack.tsaToken = some (textOf text)) {manifest : Option GroundTruthManifest}
    {pdfBytes : Option Bytes} {options : VerifyOptions} {result : VerificationResult}
    (h : verifyPack pack manifest pdfBytes options = .ok result) (hpassed : result.passed = true) :
    attestedDigest pack = .ok digest := by
  obtain ⟨checks, anchored, hchecks, rfl⟩ := verifyPack_eq_ok.mp h
  obtain ⟨recomputed, tokenCheck, tokenAnchored, mappingsCheck, rekor, manifestCheck, hdigest,
    hcheck, -, -, -, rfl, -⟩ := packChecks_eq_ok.mp hchecks
  rw [htoken, checkToken_local htext] at hcheck
  obtain ⟨rfl, -⟩ := Prod.mk.inj (Except.ok.inj hcheck)
  have hok := List.all_eq_true.mp hpassed (localTokenCheck (localToken digest now).sorted recomputed
    pack.anchoredWithTimestamp) (by simp)
  rw [← ((localTokenCheck_ok recomputed _).mp hok).1]
  exact hdigest

/-- A pack with mappings that its run earns, and the local token for its digest, passes with its
manifest and its PDF. -/
theorem verifyPack_local {digest : String} {now : DateTime} {text : Units}
    (htext : dumps compact (localToken digest now) = .ok text) {pack : EvidencePack}
    (htoken : pack.tsaToken = some (textOf text)) (hdigest : attestedDigest pack = .ok digest)
    (hschema : (checkSchemaVersion pack).ok = true) (hconsistent : (checkConsistency pack).ok = true)
    (hmappings : pack.controlMappings ⊆ controlMappings (some pack.runResult))
    (htimestamp : pack.anchoredWithTimestamp = false) (hlog : pack.anchoredInLog = false)
    (hproof : pack.rekorProof = none) {groundTruth : Option GroundTruthManifest}
    (hmanifest : ∀ manifest, groundTruth = some manifest →
      canonicalHash manifest.dump = .ok pack.manifestHash) {pdf : Option Bytes}
    (hpdf : pack.pdfRef = pdf.map hexdigest) {options : VerifyOptions}
    (hanchored : options.requireAnchored = false) (hlive : options.requireLive = false) :
    ∃ result, verifyPack pack groundTruth pdf options = .ok result ∧ result.passed = true := by
  have hdepth : 2 ≤ JsonLimits.depth := by
    obtain ⟨bytes, hbytes, -⟩ := map_eq_ok.mp hdigest
    obtain ⟨canonical, hcanonical, -⟩ := bind_eq_ok.mp hbytes
    have hwritten := dumps_ok_iff.mp ⟨canonical, hcanonical⟩
    obtain ⟨room, hroom, hfields⟩ := refusal_obj _ hwritten
    have hrun := hfields (units "run_result", pack.runResult.dump) List.mem_cons_self
    obtain ⟨room', hroom', -⟩ := refusal_obj _ hrun
    omega
  obtain ⟨mappingsCheck, hmappingsCheck, hmappingsOk⟩ := checkControlMappings_ok hdepth hmappings
  have htokenCheck : checkToken pack.tsaToken digest options.tsaCertificate options.tsaRoot
      pack.anchoredWithTimestamp =
        .ok (localTokenCheck (localToken digest now).sorted digest false, false) := by
    rw [htoken, htimestamp]
    exact checkToken_local htext digest _ _ false
  have htokenOk : (localTokenCheck (localToken digest now).sorted digest false).ok = true :=
    (localTokenCheck_ok digest false).mpr ⟨rfl, rfl⟩
  have hrekor : rekorChecks pack digest options.rekorKeyring = .ok [] := by
    rw [rekorChecks, hproof, hlog]
    rfl
  obtain ⟨manifestCheck, hmanifestCheck, hmanifestOk⟩ : ∃ check,
      groundTruth.mapM (fun manifest => checkManifest manifest pack.manifestHash) = .ok check ∧
        check.toList.all Check.ok = true := by
    cases groundTruth with
    | none => exact ⟨none, rfl, rfl⟩
    | some manifest =>
      refine ⟨some ⟨units "manifest-hash", true, "the supplied manifest matches the pack"⟩, ?_, rfl⟩
      show (checkManifest manifest pack.manifestHash).map some = _
      rw [checkManifest, hmanifest manifest rfl, Except.map, if_pos rfl]
      rfl
  have hpdfOk : (pdfChecks pack.pdfRef pdf).all Check.ok = true := by
    rw [hpdf]
    cases pdf with
    | none => rfl
    | some bytes =>
      show (checkPdf (hexdigest bytes) bytes (units "audit-pdf")).ok && true = true
      rw [checkPdf, if_neg (not_not.mpr rfl)]
      rfl
  refine ⟨_, verifyPack_eq_ok.mpr ⟨_, _, packChecks_eq_ok.mpr ⟨digest, _, _, mappingsCheck, [],
    manifestCheck, hdigest, htokenCheck, hmappingsCheck, hrekor, hmanifestCheck, rfl, rfl⟩,
    rfl⟩, ?_⟩
  simp [VerificationResult.of, hschema, hconsistent, hmappingsOk, hpdfOk, hlive, hanchored, htokenOk,
    hmanifestOk, checkRunScope_ok, anchorChecks]

/-- A pack of the current schema line that was built with the local timestamper, from the manifest
of its run, mappings that the run earns and the PDF, verifies after a round trip through its JSON
form.  A pack with its token that verifies has the same attested content in canonical form, unless
the two forms collide. -/
theorem buildEvidencePack_tamperEvident [Pydantic] {run : RunResult}
    {manifest : GroundTruthManifest} {mappings : List ControlMapping} {pdf : Option Bytes}
    {now : DateTime} {pack : EvidencePack}
    (hschema : schemaMajorMinor (units run.schemaVersion) = schemaMajorMinor (units schemaVersion))
    (hmanifest : canonicalHash manifest.dump = .ok run.manifestHash)
    (hmappings : mappings.Sublist (controlMappings (some run)))
    (hpack : buildEvidencePack run manifest mappings (pdf.map hexdigest) (localTimestamper now) none =
      .ok pack)
    (hjson : Pydantic.validatePack (Pydantic.packJson pack) = some pack.reloaded) :
    (∃ received, Pydantic.validatePack (Pydantic.packJson pack) = some received ∧
      ∀ options : VerifyOptions, options.requireAnchored = false → options.requireLive = false →
        ∃ result, verifyPack received (some manifest) pdf options = .ok result ∧
          result.passed = true) ∧
      ∀ altered : EvidencePack, altered.tsaToken = pack.tsaToken →
        ∀ manifest' pdf' options result, verifyPack altered manifest' pdf' options = .ok result →
          result.passed = true → ∃ canonical canonical',
            toCanonicalJson pack.content = .ok canonical ∧
              toCanonicalJson altered.content = .ok canonical' ∧
              (canonical' = canonical ∨ canonical' ≠ canonical ∧
                Hashlib.sha256 canonical' = Hashlib.sha256 canonical) := by
  obtain ⟨digest, text, hdigest, htext, hhash, hfields⟩ := buildEvidencePack_local hpack
  have hsame : pack.manifestHash = run.manifestHash :=
    Except.ok.inj (hhash.symm.trans hmanifest)
  have htoken : pack.tsaToken = some (textOf text) := by rw [hfields]
  constructor
  · refine ⟨pack.reloaded, hjson, fun options hanchored hlive => ?_⟩
    have hcontent : attestedDigest pack.reloaded = .ok digest := by
      rw [attestedDigest, EvidencePack.content_reloaded]
      exact hdigest
    have hreceived : pack.reloaded.tsaToken = some (textOf text) := htoken
    apply verifyPack_local htext hreceived hcontent
    · rw [checkSchemaVersion_ok, hfields]
      exact ⟨rfl, hschema.symm⟩
    · rw [checkConsistency_ok, hfields]
      exact hsame.symm
    · rw [hfields]
      exact hmappings.subset
    · rw [hfields]
      rfl
    · rw [hfields]
      rfl
    · rw [hfields]
      rfl
    · intro manifest' hgiven
      rw [← Option.some.inj hgiven]
      exact hhash
    · rw [hfields]
      rfl
    · exact hanchored
    · exact hlive
  · intro altered haltered manifest' pdf' options result hverify hpassed
    have hdigest' := attestedDigest_of_passed htext (haltered.trans htoken) hverify hpassed
    obtain ⟨canonical, canonical', hcanonical, hcanonical', hsha⟩ :=
      sha256_eq_of_canonicalHash hdigest hdigest'
    refine ⟨canonical, canonical', hcanonical, hcanonical', ?_⟩
    by_cases heq : canonical' = canonical
    · exact Or.inl heq
    · exact Or.inr ⟨heq, hsha.symm⟩

end Build

section Instances

attribute [local instance] Hashlib.real Unicode.ascii Decimals.ascii JsonLimits.default
  FloatText.halves Rfc3161.missing Cryptography.missing

/-- `pydantic`, which reads the JSON text of one pack. -/
@[reducible] def Pydantic.reading (pack : EvidencePack) : Pydantic :=
  let text (value : Json) : Units := (dumps compact value).toOption.getD []
  let bytes (pack : EvidencePack) : Bytes := (encodeUtf8 (text pack.dump)).getD []
  { runJson := fun run => text run.dump
    packJson := bytes
    validatePack := fun data => if data = bytes pack then some pack.reloaded else none }

def sampleManifest : GroundTruthManifest := ⟨"manifest-1", "scenario-1", [], schemaVersion⟩

/-- A record of one leak, with the rate of the probe that found it. -/
def sampleRun : RunResult :=
  { runId := "run-1"
    scenarioHash := "scenario-1"
    manifestHash := "b2a0b501d1fe15da6a0f28270d9fe717ffcb22d35b315e52e8dfc5d7b5d8dc09"
    startedAt := ⟨0, none⟩
    finishedAt := ⟨60000000, some 3600000000⟩
    surfaceProvenance := .ofItems [(.vectorDb, .live)]
    probeVersions := .ofItems [("rag-entity-bleed", "0.1.0")]
    findings :=
      [{ findingId := "finding-1", probeId := "rag-entity-bleed", severity := .critical
         confidence := .one, status := .confirmed, ownerTenantId := ⟨1⟩
         observedInTenantId := ⟨2⟩, surface := .vectorDb, evidenceSpan := "Project Onyx" }]
    metrics :=
      { perProbeFindings := .ofItems [("rag-entity-bleed", 1)]
        confirmedFindings := 1
        retrievalPivotRate := some (1 / 2)
        retrievalPivotN := 2
        retrievalPivotK := 1 } }

theorem sampleRun_floats : ∀ q ∈ sampleRun.floats, FloatText.isFloat q := by
  have hfloats : sampleRun.floats = [1 / 2, 1] := rfl
  rw [hfloats]
  show ∀ q ∈ [1 / 2, (1 : ℚ)], 0 ≤ q ∧ q < 10 ^ 15 ∧ (q = ⌊q⌋ ∨ q = ⌊q⌋ + 1 / 2)
  decide +kernel

/-- The controls that the pack claims: all that the run earns but the first. -/
def sampleMappings : List ControlMapping := (controlMappings (some sampleRun)).tail

/-- A pack of a leak whose datetimes are not UTC is received and verified, and its content is the one
that was attested. -/
theorem sampleRun_tamperEvident :
    sampleMappings ≠ [] ∧ sampleRun.floats = [1 / 2, 1] ∧
      ∃ pack result, buildEvidencePack sampleRun sampleManifest sampleMappings
          (some (hexdigest [7])) (localTimestamper ⟨0, some 0⟩) none = .ok pack ∧
        verifyPack pack.reloaded (some sampleManifest) (some [7]) {} = .ok result ∧
          result.passed = true ∧ ∃ canonical canonical',
            toCanonicalJson pack.content = .ok canonical ∧
              toCanonicalJson pack.reloaded.content = .ok canonical' ∧
              (canonical' = canonical ∨ canonical' ≠ canonical ∧
                Hashlib.sha256 canonical' = Hashlib.sha256 canonical) := by
  refine ⟨by decide +kernel, rfl, ?_⟩
  have hmanifest : canonicalHash sampleManifest.dump = .ok sampleRun.manifestHash := by
    decide +kernel
  have hwritten : refusal canonical JsonLimits.depth (attestedContent sampleRun
      sampleRun.manifestHash sampleMappings (some (hexdigest [7])) false false) = none := by
    decide +kernel
  obtain ⟨digest, hdigest⟩ := (canonicalHash_returns (attestedContent_wellFormed sampleRun_floats
    sampleRun.manifestHash sampleMappings (some (hexdigest [7])) false false)
    (attestedContent_texts _ _ _ _ _ _)).mpr hwritten
  obtain ⟨text, htext⟩ : ∃ text, dumps compact (localToken digest ⟨0, some 0⟩) = .ok text :=
    dumps_ok_iff.mpr rfl
  obtain ⟨pack, hpack⟩ : ∃ pack, buildEvidencePack sampleRun sampleManifest sampleMappings
      (some (hexdigest [7])) (localTimestamper ⟨0, some 0⟩) none = .ok pack :=
    ⟨_, buildEvidencePack_of_hashed hmanifest hdigest htext⟩
  have hread : (Pydantic.reading pack).validatePack ((Pydantic.reading pack).packJson pack) =
      some pack.reloaded := if_pos rfl
  obtain ⟨⟨received, hreceived, hverified⟩, hevident⟩ := @buildEvidencePack_tamperEvident _ _ _ _ _
    _ _ (Pydantic.reading pack) sampleRun sampleManifest sampleMappings (some [7]) ⟨0, some 0⟩ pack
    rfl hmanifest (List.tail_sublist _) hpack hread
  obtain rfl : pack.reloaded = received := Option.some.inj (hread.symm.trans hreceived)
  obtain ⟨result, hresult, hpassed⟩ := hverified {} rfl rfl
  exact ⟨pack, result, hpack, hresult, hpassed,
    hevident pack.reloaded rfl _ _ _ result hresult hpassed⟩

end Instances

end Sectum
