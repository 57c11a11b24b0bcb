import Sectum.Evidence.Bundle
import Sectum.Evidence.ChainSound

/-! A bundle passes when its pack does and all that is delivered with it binds the pack, and no other
members pass with its manifest. -/

namespace Sectum

open Py JsonText

/-- A verification returns a verdict that passes. -/
def Passes {ε : Type} (result : Except ε VerificationResult) : Prop :=
  ∃ verdict, result = .ok verdict ∧ verdict.passed = true

section Names

theorem timeCheck_name {name : String} {result : Except EvidenceRaised DateTime}
    {detail : DateTime → String} {check : Check} (h : timeCheck name result detail = .ok check) :
    check.name = units name := by
  unfold timeCheck at h
  split at h
  · rw [← Except.ok.inj h]
  · rw [← Except.ok.inj h]
  · cases h

theorem localTokenCheck_name (parsed : Json) (digest : String) (requireRfc3161 : Bool) :
    (localTokenCheck parsed digest requireRfc3161).name = units "timestamp-token" := by
  unfold localTokenCheck
  dsimp only
  split
  · rfl
  · split
    · rfl
    · split <;> rfl

theorem checkRunScope_name (pack : EvidencePack) (requireLive : Bool) :
    (checkRunScope pack requireLive).name = units "run-scope" := by
  unfold checkRunScope
  dsimp only
  split
  · rfl
  · split
    · rfl
    · split
      · rfl
      · split <;> rfl

variable [JsonLimits] [FloatText] [Rfc3161]

theorem checkToken_name {token : Option String} {digest : String}
    {tsaCertificate tsaRoot : Option Bytes} {requireRfc3161 : Bool} {check : Check} {anchored : Bool}
    (h : checkToken token digest tsaCertificate tsaRoot requireRfc3161 = .ok (check, anchored)) :
    check.name = units "timestamp-token" := by
  unfold checkToken at h
  dsimp only at h
  split at h
  · obtain ⟨rfl, -⟩ := Prod.mk.inj (Except.ok.inj h)
    rfl
  · split at h
    · obtain ⟨check', hcheck, heq⟩ := map_eq_ok.mp h
      obtain ⟨rfl, -⟩ := Prod.mk.inj heq
      exact timeCheck_name hcheck
    · cases h
    · obtain ⟨rfl, -⟩ := Prod.mk.inj (Except.ok.inj h)
      exact localTokenCheck_name _ _ _

variable [Unicode] [Decimals] [Hashlib] [Cryptography]

omit [Rfc3161] in
theorem rekorChecks_name {pack : EvidencePack} {digest : String} {keyring : Option Rekor.Keyring}
    {checks : List Check} (h : rekorChecks pack digest keyring = .ok checks) :
    ∀ check ∈ checks, check.name = units "rekor-inclusion" := by
  unfold rekorChecks at h
  split at h
  · obtain ⟨check, hcheck, rfl⟩ := map_eq_ok.mp h
    simpa using timeCheck_name hcheck
  · split at h
    · rw [← Except.ok.inj h]
      simp
    · rw [← Except.ok.inj h]
      nofun

/-- No check of a pack is called as the one of its PDF. -/
theorem packChecks_name {pack : EvidencePack} {manifest : Option GroundTruthManifest}
    {options : VerifyOptions} {checks : List Check} {anchored : Bool}
    (h : packChecks pack manifest options = .ok (checks, anchored)) :
    ∀ check ∈ checks, check.name ≠ units "audit-pdf" := by
  obtain ⟨digest, tokenCheck, tokenAnchored, mappingsCheck, rekor, manifestCheck, -, htoken,
    hmappings, hrekor, hmanifest, rfl, -⟩ := packChecks_eq_ok.mp h
  have hmapping : mappingsCheck.name = units "control-mappings" := by
    unfold checkControlMappings at hmappings
    obtain ⟨earned, -, hmappings⟩ := bind_eq_ok.mp hmappings
    obtain ⟨asserted, -, hmappings⟩ := bind_eq_ok.mp hmappings
    rw [← Except.ok.inj hmappings]
  have hschema : (checkSchemaVersion pack).name = units "schema-version" := by
    unfold checkSchemaVersion
    dsimp only
    split <;> rfl
  have hconsistency : (checkConsistency pack).name = units "manifest-consistency" := by
    unfold checkConsistency
    split <;> rfl
  have hhash : ∀ check ∈ manifestCheck.toList, check.name = units "manifest-hash" := by
    cases manifest with
    | none =>
      rw [← Except.ok.inj hmanifest]
      nofun
    | some manifest =>
      obtain ⟨check, hcheck, hsome⟩ := bind_eq_ok.mp hmanifest
      obtain ⟨hash, -, rfl⟩ := map_eq_ok.mp hcheck
      rw [← Except.ok.inj hsome]
      simp only [Option.toList_some, List.mem_singleton, forall_eq]
      split <;> rfl
  have hne : ∀ name ∈ [units "schema-version", units "timestamp-token",
      units "manifest-consistency", units "control-mappings", units "run-scope",
      units "rekor-inclusion", units "manifest-hash"], name ≠ units "audit-pdf" := by
    simp [units_injective.eq_iff]
  intro check hcheck
  apply hne
  simp only [List.mem_append, List.mem_cons, List.not_mem_nil, or_false] at hcheck ⊢
  rcases hcheck with ((rfl | rfl | rfl | rfl | rfl) | hcheck) | hcheck
  · simp [hschema]
  · simp [checkToken_name htoken]
  · simp [hconsistency]
  · simp [hmapping]
  · simp [checkRunScope_name]
  · simp [rekorChecks_name hrekor check hcheck]
  · simp [hhash check hcheck]

end Names

section Parts

variable [JsonLimits] [FloatText]

theorem boundSidecar_eq_ok {raw : Bytes} {bind : Json → Except EvidenceRaised Unit} {obj : Json} :
    boundSidecar raw bind = .ok obj ↔ loadsOf raw = .ok obj ∧ bind obj = .ok () := by
  unfold boundSidecar unguarded
  constructor
  · intro h
    obtain ⟨loaded, hloads, h⟩ := bind_eq_ok.mp h
    obtain ⟨_, hbind, h⟩ := bind_eq_ok.mp h
    obtain rfl := Except.ok.inj h
    exact ⟨guarded_eq_ok.mp hloads, hbind⟩
  · rintro ⟨hloads, hbind⟩
    exact bind_eq_ok.mpr ⟨obj, guarded_eq_ok.mpr hloads, bind_eq_ok.mpr ⟨(), hbind, rfl⟩⟩

theorem checkSidecar_passes {name : Units} {raw : Bytes} {bind : Json → Except EvidenceRaised Unit}
    {detail : Json → String} :
    (∃ check, checkSidecar name raw bind detail = .ok check ∧ check.ok = true) ↔
      ∃ obj, loadsOf raw = .ok obj ∧ bind obj = .ok () := by
  unfold checkSidecar
  simp only [← boundSidecar_eq_ok]
  cases boundSidecar raw bind with
  | ok obj => simp
  | error e =>
    cases e with
    | evidenceError message => simp
    | library e =>
      dsimp only
      split <;> simp

theorem bundledRunChecks_passes [Pydantic] {pack : EvidencePack} {run : Option Bytes} :
    (∃ checks, bundledRunChecks pack run = .ok checks ∧ ∀ check ∈ checks, check.ok = true) ↔
      ∀ raw, run = some raw → ∃ bundledRun attestedRun, loadsOf raw = .ok bundledRun ∧
        loads (Pydantic.runJson pack.runResult) = .ok attestedRun ∧
          bundledRun.equals attestedRun = true := by
  cases run with
  | none => simp [bundledRunChecks]
  | some raw =>
    unfold bundledRunChecks
    simp only [Option.some.injEq, forall_eq']
    cases hload : loadsOf raw with
    | error e => cases e <;> simp
    | ok bundledRun =>
      cases hattested : loads (Pydantic.runJson pack.runResult) with
      | error e => simp
      | ok attestedRun =>
        dsimp only
        split
        · rename_i heq
          simp [heq]
        · rename_i hne
          simp [hne]

variable [Unicode] [Hashlib]

omit [JsonLimits] [FloatText] [Unicode] [Hashlib] in
theorem forall_present {names : List Units} {member : Units → Option Bytes}
    {good : Units × Bytes → Prop} :
    (∀ named ∈ names.filterMap fun name => (member name).map (name, ·), good named) ↔
      ∀ name ∈ names, ∀ raw, member name = some raw → good (name, raw) := by
  simp only [List.mem_filterMap, Option.map_eq_some_iff]
  exact ⟨fun h name hname raw hraw => h (name, raw) ⟨name, hname, raw, hraw, rfl⟩,
    fun h named ⟨name, hname, raw, hraw, heq⟩ => heq ▸ h name hname raw hraw⟩

omit [JsonLimits] [FloatText] [Unicode] [Hashlib] in
theorem forall_mem_toList {raw : Option Bytes} {good : Bytes → Prop} :
    (∀ content ∈ raw.toList, good content) ↔ ∀ content, raw = some content → good content := by
  simp only [Option.mem_toList]

theorem sidecarChecks_passes {pack : EvidencePack} {contents : BundleContents} :
    (∃ checks, sidecarChecks pack contents = .ok checks ∧ ∀ check ∈ checks, check.ok = true) ↔
      (∀ name ∈ intotoMembers, ∀ raw, contents.member name = some raw →
        ∃ obj, loadsOf raw = .ok obj ∧ verifyInTotoStatement obj pack = .ok ()) ∧
      ∀ raw, contents.member dsseMember = some raw →
        ∃ obj, loadsOf raw = .ok obj ∧ verifyDsseEnvelope obj pack = .ok () := by
  have hintoto := @mapM_all _ _ _ (fun named : Units × Bytes =>
    checkSidecar (units "in-toto-attestation:" ++ named.1) named.2
      (fun obj => verifyInTotoStatement obj pack) sidecarDetail) (fun check => check.ok = true)
      (intotoMembers.filterMap fun name => (contents.member name).map (name, ·))
  have hdsse := @mapM_all _ _ _ (fun raw => checkSidecar (units "dsse-envelope") raw
    (fun obj => verifyDsseEnvelope obj pack) dsseBindingDetail) (fun check => check.ok = true)
    (contents.member dsseMember).toList
  simp only [checkSidecar_passes] at hintoto hdsse
  rw [forall_present] at hintoto
  rw [forall_mem_toList] at hdsse
  rw [← hintoto, ← hdsse]
  unfold sidecarChecks
  constructor
  · rintro ⟨checks, h, hall⟩
    obtain ⟨intoto, hi, h⟩ := bind_eq_ok.mp h
    obtain ⟨dsse, hd, h⟩ := bind_eq_ok.mp h
    obtain rfl := Except.ok.inj h
    obtain ⟨halli, halld⟩ := List.forall_mem_append.mp hall
    exact ⟨⟨intoto, hi, halli⟩, dsse, hd, halld⟩
  · rintro ⟨⟨intoto, hi, halli⟩, dsse, hd, halld⟩
    exact ⟨intoto ++ dsse, bind_eq_ok.mpr ⟨intoto, hi, bind_eq_ok.mpr ⟨dsse, hd, rfl⟩⟩,
      List.forall_mem_append.mpr ⟨halli, halld⟩⟩

omit [JsonLimits] [FloatText] [Unicode] in
theorem pdfMemberCheck_ok {pack : EvidencePack} {name : Units} {pdfBytes : Bytes} :
    (pdfMemberCheck pack name pdfBytes).ok = true ↔ pack.pdfRef = some (hexdigest pdfBytes) := by
  unfold pdfMemberCheck checkPdf
  cases pack.pdfRef with
  | none => simp
  | some pdfRef =>
    dsimp only
    split
    · rename_i hne
      simp [Ne.symm hne]
    · rename_i heq
      simp [not_not.mp heq]

omit [JsonLimits] [FloatText] [Unicode] in
theorem pdfMemberChecks_ok {pack : EvidencePack} {contents : BundleContents} :
    (∀ check ∈ pdfMemberChecks pack contents, check.ok = true) ↔
      (∀ name ∈ pdfMembers, ∀ raw, contents.member name = some raw →
        pack.pdfRef = some (hexdigest raw)) ∧
      (pack.pdfRef.isSome → ∃ name ∈ pdfMembers, ∃ raw, contents.member name = some raw) := by
  unfold pdfMemberChecks
  rw [List.forall_mem_append]
  apply and_congr
  · simp only [List.mem_filterMap, Option.map_eq_some_iff]
    constructor
    · intro h name hname raw hraw
      exact pdfMemberCheck_ok.mp (h _ ⟨name, hname, raw, hraw, rfl⟩)
    · rintro h check ⟨name, hname, raw, hraw, rfl⟩
      exact pdfMemberCheck_ok.mpr (h name hname raw hraw)
  · split
    · rename_i hmissing
      constructor
      · intro h
        simp at h
      · intro h
        obtain ⟨name, hname, raw, hraw⟩ := h hmissing.1
        rw [hmissing.2 name hname] at hraw
        cases hraw
    · rename_i hthere
      refine ⟨fun _ hsome => ?_, fun _ => nofun⟩
      by_contra hnone
      refine hthere ⟨hsome, fun name hname => Option.eq_none_iff_forall_ne_some.mpr ?_⟩
      exact fun raw hraw => hnone ⟨name, hname, raw, hraw⟩

end Parts

/-- What is delivered with a pack binds it. -/
structure MembersBind [JsonLimits] [FloatText] [Unicode] [Hashlib] [Pydantic] (pack : EvidencePack)
    (member : Units → Option Bytes) : Prop where
  pdf : ∀ name ∈ pdfMembers, ∀ raw, member name = some raw → pack.pdfRef = some (hexdigest raw)
  present : pack.pdfRef.isSome → ∃ name ∈ pdfMembers, ∃ raw, member name = some raw
  run : ∀ raw, member runMember = some raw → ∃ bundledRun attestedRun,
    loadsOf raw = .ok bundledRun ∧ loads (Pydantic.runJson pack.runResult) = .ok attestedRun ∧
      bundledRun.equals attestedRun = true
  intoto : ∀ name ∈ intotoMembers, ∀ raw, member name = some raw →
    ∃ obj, loadsOf raw = .ok obj ∧ verifyInTotoStatement obj pack = .ok ()
  dsse : ∀ raw, member dsseMember = some raw →
    ∃ obj, loadsOf raw = .ok obj ∧ verifyDsseEnvelope obj pack = .ok ()

section Bundled

variable [JsonLimits] [FloatText] [Unicode] [Decimals] [Hashlib] [Cryptography] [Rfc3161]

omit [JsonLimits] [FloatText] [Unicode] [Decimals] [Cryptography] [Rfc3161] in
theorem pdfChecks_name {pdfRef : Option String} {pdfBytes : Option Bytes} :
    ∀ check ∈ pdfChecks pdfRef pdfBytes, check.name = units "audit-pdf" := by
  unfold pdfChecks checkPdf
  split
  · simp only [List.mem_singleton, forall_eq]
    split <;> rfl
  · simp only [List.mem_singleton, forall_eq]
  · simp only [List.mem_singleton, forall_eq]
  · nofun

omit [JsonLimits] [FloatText] [Unicode] [Decimals] [Cryptography] [Rfc3161] in
theorem pdfChecks_none (pdfRef : Option String) :
    ∀ check ∈ pdfChecks pdfRef none, check.ok = true := by
  unfold pdfChecks
  cases pdfRef with
  | none => nofun
  | some pdfRef => simp only [List.mem_singleton, forall_eq]

omit [JsonLimits] [FloatText] [Unicode] [Decimals] [Hashlib] [Cryptography] [Rfc3161] in
theorem anchorChecks_name (requireAnchored anchored : Bool) :
    ∀ check ∈ anchorChecks requireAnchored anchored, check.name ≠ units "audit-pdf" := by
  have hne : units "independent-anchor" ≠ units "audit-pdf" := units_injective.ne (by simp)
  unfold anchorChecks
  split
  · simp only [List.mem_singleton, forall_eq]
    exact hne
  · nofun

/-- The checks of a verdict but the one of the PDF are those without a PDF. -/
theorem checks_without_pdf {pack : EvidencePack} {groundTruth : Option GroundTruthManifest}
    {options : VerifyOptions} {checks : List Check} {anchored : Bool}
    (h : packChecks pack groundTruth options = .ok (checks, anchored)) (pdfBytes : Option Bytes) :
    (∀ check ∈ (checks ++ pdfChecks pack.pdfRef pdfBytes ++
        anchorChecks options.requireAnchored anchored).filter fun check =>
          check.name ≠ units "audit-pdf", check.ok = true) ↔
      ∀ check ∈ checks ++ pdfChecks pack.pdfRef none ++
        anchorChecks options.requireAnchored anchored, check.ok = true := by
  have hkept : ∀ {checks : List Check}, (∀ check ∈ checks, check.name ≠ units "audit-pdf") →
      checks.filter (fun check => check.name ≠ units "audit-pdf") = checks := fun h =>
    List.filter_eq_self.mpr fun check hcheck => decide_eq_true (h check hcheck)
  have hdropped : (pdfChecks pack.pdfRef pdfBytes).filter
      (fun check => check.name ≠ units "audit-pdf") = [] :=
    List.filter_eq_nil_iff.mpr fun check hcheck => by
      rw [decide_eq_true_eq, not_not]
      exact pdfChecks_name check hcheck
  rw [List.filter_append, List.filter_append, hdropped, hkept (packChecks_name h),
    hkept (anchorChecks_name _ _), List.append_nil]
  rw [List.forall_mem_append, List.forall_mem_append, List.forall_mem_append]
  exact ⟨fun h => ⟨⟨h.1, pdfChecks_none _⟩, h.2⟩, fun h => ⟨h.1.1, h.2⟩⟩

/-- Whatever PDF a pack is verified with, the checks but the one of the PDF are the same. -/
theorem verifyPack_without_pdf {pack : EvidencePack} {groundTruth : Option GroundTruthManifest}
    {options : VerifyOptions} {pdfBytes : Option Bytes} :
    (∃ result, verifyPack pack groundTruth pdfBytes options = .ok result ∧
      ∀ check ∈ result.checks.filter fun check => check.name ≠ units "audit-pdf",
        check.ok = true) ↔
      Passes (verifyPack pack groundTruth none options) := by
  constructor
  · rintro ⟨result, hresult, hall⟩
    obtain ⟨checks, anchored, hchecks, rfl⟩ := verifyPack_eq_ok.mp hresult
    refine ⟨_, verifyPack_eq_ok.mpr ⟨checks, anchored, hchecks, rfl⟩, ?_⟩
    exact List.all_eq_true.mpr ((checks_without_pdf hchecks pdfBytes).mp hall)
  · rintro ⟨result, hresult, hpassed⟩
    obtain ⟨checks, anchored, hchecks, rfl⟩ := verifyPack_eq_ok.mp hresult
    refine ⟨_, verifyPack_eq_ok.mpr ⟨checks, anchored, hchecks, rfl⟩, ?_⟩
    exact (checks_without_pdf hchecks pdfBytes).mpr (List.all_eq_true.mp hpassed)

theorem Passes.without_pdf {pack : EvidencePack} {groundTruth : Option GroundTruthManifest}
    {options : VerifyOptions} {pdfBytes : Option Bytes}
    (h : Passes (verifyPack pack groundTruth pdfBytes options)) :
    Passes (verifyPack pack groundTruth none options) := by
  obtain ⟨result, hresult, hpassed⟩ := h
  refine verifyPack_without_pdf.mp ⟨result, hresult, fun check hcheck => ?_⟩
  obtain ⟨checks, anchored, -, rfl⟩ := verifyPack_eq_ok.mp hresult
  exact List.all_eq_true.mp hpassed check (List.mem_of_mem_filter hcheck)

theorem verifyBundledPack_passes [Pydantic] {checks : List Check} {pack : EvidencePack}
    {contents : BundleContents} {groundTruth : Option GroundTruthManifest}
    {options : VerifyOptions} :
    Passes (verifyBundledPack checks pack contents groundTruth options) ↔
      (∀ check ∈ checks, check.ok = true) ∧ Passes (verifyPack pack groundTruth none options) ∧
        MembersBind pack contents.member := by
  unfold verifyBundledPack
  constructor
  · rintro ⟨verdict, h, hpassed⟩
    obtain ⟨run, hrun, h⟩ := bind_eq_ok.mp h
    obtain ⟨result, hresult, h⟩ := bind_eq_ok.mp h
    obtain ⟨sidecars, hsidecars, h⟩ := bind_eq_ok.mp h
    obtain rfl := Except.ok.inj h
    have hall := List.all_eq_true.mp hpassed
    simp only [List.forall_mem_append] at hall
    obtain ⟨⟨⟨⟨hchecks, hrunOk⟩, hpack⟩, hpdf⟩, hsidecarsOk⟩ := hall
    obtain ⟨hpdf, hpresent⟩ := pdfMemberChecks_ok.mp hpdf
    obtain ⟨hintoto, hdsse⟩ := sidecarChecks_passes.mp ⟨sidecars, hsidecars, hsidecarsOk⟩
    exact ⟨hchecks, verifyPack_without_pdf.mp ⟨result, hresult, hpack⟩, hpdf, hpresent,
      bundledRunChecks_passes.mp ⟨run, hrun, hrunOk⟩, hintoto, hdsse⟩
  · rintro ⟨hchecks, hpack, hpdf, hpresent, hrun, hintoto, hdsse⟩
    obtain ⟨run, hrun, hrunOk⟩ := bundledRunChecks_passes.mpr hrun
    obtain ⟨result, hresult, hpackOk⟩ := verifyPack_without_pdf.mpr hpack
    obtain ⟨sidecars, hsidecars, hsidecarsOk⟩ := sidecarChecks_passes.mpr ⟨hintoto, hdsse⟩
    refine ⟨_, bind_eq_ok.mpr ⟨run, hrun, bind_eq_ok.mpr ⟨result, hresult,
      bind_eq_ok.mpr ⟨sidecars, hsidecars, rfl⟩⟩⟩, ?_⟩
    apply List.all_eq_true.mpr
    simp only [List.forall_mem_append]
    exact ⟨⟨⟨⟨hchecks, hrunOk⟩, hpackOk⟩, pdfMemberChecks_ok.mpr ⟨hpdf, hpresent⟩⟩, hsidecarsOk⟩

end Bundled

section Contents

variable [Hashlib]

theorem listedCheck_ok {contents : BundleContents} {name : Units} {digest : Json} :
    (listedCheck contents name digest).ok = true ↔ name ∈ knownMembers ∧
      ∃ raw, contents.member name = some raw ∧
        digest.equalsText (units (hexdigest raw)) = true := by
  unfold listedCheck
  dsimp only
  split
  · rename_i hunknown
    simp [hunknown]
  · rename_i hknown
    cases contents.member name with
    | none => simp
    | some raw =>
      dsimp only
      split
      · rename_i hdigest
        have hfalse : digest.equalsText (units (hexdigest raw)) = false := by simpa using hdigest
        simp [hfalse]
      · rename_i hdigest
        have htrue : digest.equalsText (units (hexdigest raw)) = true := by simpa using hdigest
        split <;> simp [htrue, not_not.mp hknown]

/-- The members match the manifest: what it lists is there and known, and no other member is. -/
structure MembersMatch (contents : BundleContents) : Prop where
  listed : ∀ entry ∈ contents.digests, entry.1 ∈ knownMembers ∧
    ∃ raw, contents.member entry.1 = some raw ∧ entry.2.equalsText (units (hexdigest raw)) = true
  covered : ∀ name ∈ contents.members.map Prod.fst, name ∈ contents.digests.map Prod.fst

theorem memberChecks_ok {contents : BundleContents} :
    (∀ check ∈ memberChecks contents, check.ok = true) ↔ MembersMatch contents := by
  unfold memberChecks
  rw [List.forall_mem_append, List.forall_mem_map, List.forall_mem_map]
  simp only [List.mem_insertionSort, listedCheck_ok, List.mem_filter, sortedNames,
    Bool.false_eq_true, imp_false, not_and, decide_eq_true_eq, not_not]
  exact ⟨fun h => ⟨h.1, h.2⟩, fun h => ⟨h.listed, h.covered⟩⟩

variable [JsonLimits] [FloatText] [Unicode] [Decimals] [Cryptography] [Rfc3161] [Pydantic]

theorem verifyContents_passes {contents : BundleContents}
    {groundTruth : Option GroundTruthManifest} {options : VerifyOptions} :
    Passes (verifyContents contents groundTruth options) ↔
      ∃ raw pack, contents.member evidenceMember = some raw ∧ checkRawSchemaStamps raw = .ok none ∧
        Pydantic.validatePack raw = some pack ∧ MembersMatch contents ∧
          Passes (verifyPack pack groundTruth none options) ∧ MembersBind pack contents.member := by
  unfold verifyContents
  dsimp only
  cases contents.member evidenceMember with
  | none => simp [Passes]
  | some raw =>
    simp only [Option.some.injEq, exists_and_left, exists_eq_left']
    cases checkRawSchemaStamps raw with
    | error e => simp [Passes]
    | ok stamped =>
      cases stamped with
      | some check => simp [Passes]
      | none =>
        cases Pydantic.validatePack raw with
        | none => simp [Passes]
        | some pack =>
          simp only [verifyBundledPack_passes, memberChecks_ok, Option.some.injEq, exists_eq_left',
            true_and]

end Contents

section Archive

variable [JsonLimits] [FloatText] [Unicode]

/-- What an archive is read as, when it is not refused. -/
theorem readArchive_eq_ok {archive : Archive} {contents : BundleContents} :
    readArchive archive = .ok (.ok contents) ↔ archive.namelist.Nodup ∧
      ∃ raw manifest, archive.read manifestMember = .ok raw ∧ loadsOf raw = .ok manifest ∧
        manifestDigests manifest = .ok contents.digests ∧
        archive.readAll (archive.namelist.filter fun name => name ≠ manifestMember) =
          .ok contents.members := by
  unfold readArchive
  split
  · rename_i hnodup
    simp [hnodup]
  · rename_i hnodup
    split
    · rename_i hmissing
      have hread : ∀ raw, archive.read manifestMember ≠ .ok raw := fun raw hraw =>
        hmissing (List.mem_map_of_mem (Archive.exists_of_read hraw))
      simp [hread]
    · constructor
      · intro h
        obtain ⟨raw, hraw, h⟩ := bind_eq_ok.mp h
        obtain ⟨manifest, hmanifest, h⟩ := bind_eq_ok.mp h
        refine ⟨not_not.mp hnodup, raw, manifest, hraw, mapError_eq_ok.mp hmanifest, ?_⟩
        split at h
        · cases h
        · rename_i digests hdigests
          obtain ⟨members, hmembers, h⟩ := bind_eq_ok.mp h
          rw [← Except.ok.inj (Except.ok.inj h)]
          exact ⟨hdigests, hmembers⟩
      · rintro ⟨-, raw, manifest, hraw, hmanifest, hdigests, hmembers⟩
        refine bind_eq_ok.mpr ⟨raw, hraw, bind_eq_ok.mpr ⟨manifest, mapError_eq_ok.mpr hmanifest, ?_⟩⟩
        rw [hdigests]
        exact bind_eq_ok.mpr ⟨contents.members, hmembers, rfl⟩

omit [JsonLimits] in
theorem manifestDigests_refused {manifest : Json} {result : VerificationResult}
    (h : manifestDigests manifest = .error result) : result.passed = false := by
  unfold manifestDigests at h
  split at h
  · dsimp only at h
    split at h
    · rw [← Except.error.inj h]
      rfl
    · split at h
      · cases h
      · rw [← Except.error.inj h]
        rfl
  · rw [← Except.error.inj h]
    rfl

theorem readArchive_refused {archive : Archive} {result : VerificationResult}
    (h : readArchive archive = .ok (.error result)) : result.passed = false := by
  unfold readArchive at h
  split at h
  · rw [← Except.error.inj (Except.ok.inj h)]
    rfl
  · split at h
    · rw [← Except.error.inj (Except.ok.inj h)]
      rfl
    · obtain ⟨raw, -, h⟩ := bind_eq_ok.mp h
      obtain ⟨manifest, -, h⟩ := bind_eq_ok.mp h
      split at h
      · rename_i refusal hrefusal
        obtain rfl := Except.error.inj (Except.ok.inj h)
        exact manifestDigests_refused hrefusal
      · obtain ⟨members, -, h⟩ := bind_eq_ok.mp h
        cases Except.ok.inj h

variable [Hashlib] [Decimals] [Cryptography] [Rfc3161] [Pydantic] [Zipfile]

/-- A bundle passes when it is read and what it holds passes. -/
theorem verifyBundle_passes {bundle : Bytes} {groundTruth : Option GroundTruthManifest}
    {options : VerifyOptions} :
    Passes (verifyBundle bundle groundTruth options) ↔ ∃ archive contents,
      Zipfile.openArchive bundle = .ok archive ∧ readArchive archive = .ok (.ok contents) ∧
        Passes (verifyContents contents groundTruth options) := by
  have hread : ∀ contents, readBundle bundle = .ok (.ok contents) ↔
      ∃ archive, Zipfile.openArchive bundle = .ok archive ∧
        readArchive archive = .ok (.ok contents) := fun contents => bind_eq_ok
  have hpasses : ∀ contents, Passes ((verifyContents contents groundTruth options).mapError
      ZipRaised.library) ↔ Passes (verifyContents contents groundTruth options) := fun contents => by
    unfold Passes
    simp only [mapError_eq_ok]
  rw [exists_comm]
  simp only [← and_assoc, exists_and_right, ← hread]
  unfold verifyBundle
  split
  · rename_i e herror
    split <;> simp [Passes, herror, refused]
  · rename_i result hrefused
    obtain ⟨archive, -, harchive⟩ := bind_eq_ok.mp hrefused
    simp [Passes, hrefused, readArchive_refused harchive]
  · rename_i contents hcontents
    simp [hpasses, hcontents]

end Archive

end Sectum
