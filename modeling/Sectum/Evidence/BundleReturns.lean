import Sectum.Evidence.BundleAgrees
import Sectum.Evidence.IntotoRaises

/-! Which bundles `verify_bundle` gives a verdict on, and which ones it crashes on: those that bring a
reading step an exception that the block around it does not name. -/

namespace Sectum

open Py JsonText

section Reading

variable [JsonLimits] [FloatText] [Unicode] [Zipfile]

/-- The archive of a bundle raises no exception but those that make it unreadable, and the text of
its manifest does not nest too deeply. -/
structure ReadHandled (bundle : Bytes) : Prop where
  opening : RaisesOnly unreadable (Zipfile.openArchive bundle)
  manifest : ∀ {archive : Archive}, Zipfile.openArchive bundle = .ok archive →
    archive.namelist.Nodup → manifestMember ∈ archive.namelist →
      RaisesOnly unreadable (archive.read manifestMember)
  shallow : ∀ {archive : Archive} {raw : Bytes}, Zipfile.openArchive bundle = .ok archive →
    archive.namelist.Nodup → archive.read manifestMember = .ok raw →
      loadsOf raw ≠ .error .recursionError
  members : ∀ {archive : Archive} {raw : Bytes} {manifest : Json} {digests : List (Units × Json)},
    Zipfile.openArchive bundle = .ok archive → archive.namelist.Nodup →
      archive.read manifestMember = .ok raw → loadsOf raw = .ok manifest →
        manifestDigests manifest = .ok digests → RaisesOnly unreadable
          (archive.readAll (archive.namelist.filter fun name => name ≠ manifestMember))

omit [Unicode] [Zipfile] in
theorem raisesOnly_manifest {raw : Bytes} :
    RaisesOnly unreadable ((loadsOf raw).mapError ZipRaised.library) ↔
      loadsOf raw ≠ .error .recursionError := by
  have hcaught : RaisesOnly [.keyError, .valueError] (loadsOf raw) ↔
      loadsOf raw ≠ .error .recursionError := raisesOnly_loadsOf (by simp) (by simp)
  rw [← hcaught]
  cases loadsOf raw <;> simp [Except.mapError, unreadable]

omit [Zipfile] in
theorem readArchive_raises {archive : Archive} :
    RaisesOnly unreadable (readArchive archive) ↔ (archive.namelist.Nodup →
      manifestMember ∈ archive.namelist → RaisesOnly unreadable (archive.read manifestMember) ∧
        ∀ raw, archive.read manifestMember = .ok raw → loadsOf raw ≠ .error .recursionError ∧
          ∀ manifest digests, loadsOf raw = .ok manifest → manifestDigests manifest = .ok digests →
            RaisesOnly unreadable
              (archive.readAll (archive.namelist.filter fun name => name ≠ manifestMember))) := by
  unfold readArchive
  by_cases hnodup : archive.namelist.Nodup
  · rw [if_neg (not_not.mpr hnodup)]
    by_cases hmem : manifestMember ∈ archive.namelist
    · rw [if_neg (not_not.mpr hmem), raisesOnly_bind]
      simp only [hnodup, hmem, true_implies]
      refine and_congr_right fun _ => forall₂_congr fun raw _ => ?_
      rw [raisesOnly_bind, raisesOnly_manifest]
      refine and_congr_right fun _ => forall_congr' fun manifest => ?_
      rw [mapError_eq_ok, forall_comm]
      refine forall_congr' fun _ => ?_
      cases manifestDigests manifest with
      | error result => simp [pure, Except.pure]
      | ok digests => simp [raisesOnly_bind, pure, Except.pure]
    · rw [if_pos hmem]
      exact iff_of_true (raisesOnly_ok _ _) fun _ hlisted => absurd hlisted hmem
  · rw [if_pos hnodup]
    exact iff_of_true (raisesOnly_ok _ _) fun h => absurd h hnodup

theorem readBundle_raises {bundle : Bytes} :
    RaisesOnly unreadable (readBundle bundle) ↔ ReadHandled bundle := by
  unfold readBundle
  rw [raisesOnly_bind]
  simp only [readArchive_raises]
  constructor
  · rintro ⟨hopening, hread⟩
    have hlisted : ∀ {archive : Archive} {raw : Bytes}, archive.read manifestMember = .ok raw →
        manifestMember ∈ archive.namelist := fun hraw =>
      List.mem_map_of_mem (Archive.exists_of_read hraw)
    exact ⟨hopening, fun hopen hnodup hmem => (hread _ hopen hnodup hmem).1,
      fun hopen hnodup hraw => ((hread _ hopen hnodup (hlisted hraw)).2 _ hraw).1,
      fun hopen hnodup hraw hmanifest hdigests =>
        ((hread _ hopen hnodup (hlisted hraw)).2 _ hraw).2 _ _ hmanifest hdigests⟩
  · intro h
    exact ⟨h.opening, fun archive hopen hnodup hmem => ⟨h.manifest hopen hnodup hmem,
      fun raw hraw => ⟨h.shallow hopen hnodup hraw, fun manifest digests hmanifest hdigests =>
        h.members hopen hnodup hraw hmanifest hdigests⟩⟩⟩

end Reading

section Contents

variable [JsonLimits] [FloatText] [Unicode] [Decimals] [Hashlib] [Cryptography] [Rfc3161]
  [Pydantic]

/-- What a pack attests can be written, its token is within the limits of the parser, and the
verification of its inclusion proof can decode what it comes to, with keys that can be read. -/
structure VerifyHandled (pack : EvidencePack) (groundTruth : Option GroundTruthManifest)
    (options : VerifyOptions) : Prop where
  digest : ∃ digest, attestedDigest pack = .ok digest
  token : Rekor.TextWithinLimits (units (pack.tsaToken.getD ""))
  proof : ∀ digest text, attestedDigest pack = .ok digest → pack.rekorProof = some text →
    Rekor.KeysReadable (units text) (units digest) options.rekorKeyring ∧
      Rekor.Decodable (units text) (units digest) options.rekorKeyring
  manifest : ∀ manifest, groundTruth = some manifest → ∃ hash, canonicalHash manifest.dump = .ok hash

omit [JsonLimits] [FloatText] [Unicode] [Decimals] [Hashlib] [Cryptography] [Rfc3161] [Pydantic] in
theorem timeCheck_returns {name : String} {result : Except EvidenceRaised DateTime}
    {detail : DateTime → String} :
    (∃ check, timeCheck name result detail = .ok check) ↔ Rekor.Answers result := by
  cases result with
  | ok time => simp [timeCheck]
  | error e => cases e <;> simp [timeCheck, Rekor.Answers]

omit [JsonLimits] [FloatText] [Unicode] [Decimals] [Hashlib] [Cryptography] [Rfc3161]
  [Pydantic] in
theorem answers_required {α : Type} {result : Option α} {message : String} :
    Rekor.Answers (required result message) :=
  Rekor.answers_guarded.mpr (raisesOnly_orRaise (List.mem_singleton_self _) result)

omit [JsonLimits] [FloatText] [Unicode] [Decimals] [Hashlib] [Cryptography] [Pydantic] in
/-- The verification of a signed token catches all that the libraries raise. -/
theorem answers_verifyRfc3161Token (token digest : String) (tsaCertificate tsaRoot : Option Bytes) :
    Rekor.Answers (verifyRfc3161Token token digest tsaCertificate tsaRoot) := by
  unfold verifyRfc3161Token
  split
  · exact Rekor.answers_refuse _
  · refine Rekor.answers_bind.mpr ⟨answers_required, fun leaf _ => ?_⟩
    refine Rekor.answers_bind.mpr ⟨answers_required, fun root _ => ?_⟩
    refine Rekor.answers_bind.mpr ⟨Rekor.answers_guarded.mpr ?_, fun body _ => ?_⟩
    · exact raisesOnly_orRaise (List.mem_singleton_self _) _
    · refine Rekor.answers_bind.mpr ⟨answers_required, fun response _ => ?_⟩
      split
      · exact Rekor.answers_refuse _
      · exact answers_required

omit [Unicode] [Decimals] [Hashlib] [Cryptography] [Pydantic] in
theorem checkToken_returns {token : Option String} {digest : String}
    {tsaCertificate tsaRoot : Option Bytes} {requireRfc3161 : Bool} :
    (∃ checked, checkToken token digest tsaCertificate tsaRoot requireRfc3161 = .ok checked) ↔
      Rekor.TextWithinLimits (units (token.getD "")) := by
  unfold checkToken
  dsimp only
  split
  · rename_i hempty
    rw [hempty, Rekor.TextWithinLimits, loads_empty]
    simp
  · rw [Rekor.TextWithinLimits]
    cases hloads : loads (units (token.getD "")) with
    | ok parsed => simp
    | error e =>
      cases e with
      | decode =>
        obtain ⟨check, hcheck⟩ := timeCheck_returns.mpr
          (answers_verifyRfc3161Token (token.getD "") digest tsaCertificate tsaRoot)
        exact iff_of_true ⟨_, map_eq_ok.mpr ⟨check, hcheck, rfl⟩⟩ (by simp)
      | digits => simp
      | recursion => simp

omit [Unicode] [Decimals] [Cryptography] [Rfc3161] [Pydantic] in
/-- A pack that has a digest nests deeply enough for its mappings to be written. -/
theorem checkControlMappings_returns {pack : EvidencePack} {digest : String}
    (h : attestedDigest pack = .ok digest) : ∃ check, checkControlMappings pack = .ok check := by
  have hdepth : 2 ≤ JsonLimits.depth := by
    obtain ⟨room, hroom, hfields⟩ := refusal_obj canonical (refusal_of_attestedDigest h)
    have hrun : refusal canonical room pack.runResult.dump = none :=
      hfields (units "run_result", pack.runResult.dump) List.mem_cons_self
    obtain ⟨inner, hinner, -⟩ := refusal_obj canonical hrun
    omega
  choose text htext using canonicalMapping_ok hdepth
  unfold checkControlMappings
  rw [mapM_canonicalMapping htext, mapM_canonicalMapping htext]
  exact ⟨_, rfl⟩

omit [Rfc3161] [Pydantic] in
theorem rekorChecks_returns {pack : EvidencePack} {digest : String}
    {keyring : Option Rekor.Keyring} :
    (∃ checks, rekorChecks pack digest keyring = .ok checks) ↔ ∀ text, pack.rekorProof = some text →
      Rekor.KeysReadable (units text) (units digest) keyring ∧
        Rekor.Decodable (units text) (units digest) keyring := by
  unfold rekorChecks
  cases pack.rekorProof with
  | none =>
    dsimp only
    split <;> simp
  | some text =>
    simp only [Option.some.injEq, forall_eq', map_eq_ok]
    rw [← Rekor.answers_verifyRekorProof, ← timeCheck_returns]
    constructor
    · rintro ⟨_, check, hcheck, -⟩
      exact ⟨check, hcheck⟩
    · rintro ⟨check, hcheck⟩
      exact ⟨_, check, hcheck, rfl⟩

/-- The members beside a pack are not nested too deeply, the run that the pack attests reads back,
and the verification of the pack is handled. -/
structure PackHandled (pack : EvidencePack) (member : Units → Option Bytes)
    (groundTruth : Option GroundTruthManifest) (options : VerifyOptions) : Prop where
  run : ∀ raw, member runMember = some raw → loadsOf raw ≠ .error .recursionError
  attested : ∀ raw bundledRun, member runMember = some raw → loadsOf raw = .ok bundledRun →
    ∃ attestedRun, loads (Pydantic.runJson pack.runResult) = .ok attestedRun
  verified : VerifyHandled pack groundTruth options
  intoto : ∀ name ∈ intotoMembers, ∀ raw, member name = some raw →
    loadsOf raw ≠ .error .recursionError
  dsse : ∀ raw, member dsseMember = some raw → loadsOf raw ≠ .error .recursionError
  payload : ∀ raw envelope payload, member dsseMember = some raw → loadsOf raw = .ok envelope →
    Carries envelope payload → loadsOf payload ≠ .error .recursionError

omit [Unicode] [Decimals] [Hashlib] [Cryptography] [Rfc3161] in
theorem bundledRunChecks_returns {pack : EvidencePack} {run : Option Bytes} :
    (∃ checks, bundledRunChecks pack run = .ok checks) ↔ ∀ raw, run = some raw →
      loadsOf raw ≠ .error .recursionError ∧ ∀ bundledRun, loadsOf raw = .ok bundledRun →
        ∃ attestedRun, loads (Pydantic.runJson pack.runResult) = .ok attestedRun := by
  cases run with
  | none => simp [bundledRunChecks]
  | some raw =>
    unfold bundledRunChecks
    have hcaught : RaisesOnly [.valueError] (loadsOf raw) ↔ loadsOf raw ≠ .error .recursionError :=
      raisesOnly_loadsOf (by simp) (by simp)
    simp only [Option.some.injEq, forall_eq', ← hcaught]
    cases loadsOf raw with
    | error e => cases e <;> simp
    | ok bundledRun =>
      cases loads (Pydantic.runJson pack.runResult) with
      | error e => simp
      | ok attestedRun =>
        dsimp only
        split <;> simp

omit [Unicode] [Decimals] [Hashlib] [Cryptography] [Rfc3161] [Pydantic] in
theorem checkSidecar_returns {name : Units} {raw : Bytes} {bind : Json → Except EvidenceRaised Unit}
    {detail : Json → String} :
    (∃ check, checkSidecar name raw bind detail = .ok check) ↔
      loadsOf raw ≠ .error .recursionError ∧ ∀ obj, loadsOf raw = .ok obj →
        LetsThrough [.valueError, .typeError, .attributeError] (bind obj) := by
  have hload : LetsThrough [.valueError, .typeError, .attributeError]
      (unguarded (loadsOf raw)) ↔ loadsOf raw ≠ .error .recursionError := by
    rw [letsThrough_unguarded]
    exact raisesOnly_loadsOf (by simp) (by simp)
  have hbound : LetsThrough [.valueError, .typeError, .attributeError] (boundSidecar raw bind) ↔
      loadsOf raw ≠ .error .recursionError ∧ ∀ obj, loadsOf raw = .ok obj →
        LetsThrough [.valueError, .typeError, .attributeError] (bind obj) := by
    unfold boundSidecar
    rw [letsThrough_bind, hload]
    refine and_congr_right fun _ => forall_congr' fun obj => ?_
    unfold unguarded
    rw [guarded_eq_ok, letsThrough_bind]
    exact forall_congr' fun _ => and_iff_left fun _ _ => letsThrough_ok _
  rw [← hbound]
  unfold checkSidecar
  cases boundSidecar raw bind with
  | ok obj => simp
  | error e =>
    cases e with
    | evidenceError message => simp [LetsThrough]
    | library e =>
      dsimp only
      rw [letsThrough_library]
      split
      · rename_i he
        simp [he]
      · rename_i he
        simp [he]

omit [Unicode] [Decimals] [Cryptography] [Rfc3161] [Pydantic] in
theorem manifestCheck_returns {groundTruth : Option GroundTruthManifest} {expected : String} :
    (∃ check, groundTruth.mapM (fun manifest => checkManifest manifest expected) = .ok check) ↔
      ∀ manifest, groundTruth = some manifest → ∃ hash, canonicalHash manifest.dump = .ok hash := by
  cases groundTruth with
  | none => exact iff_of_true ⟨none, rfl⟩ fun _ h => absurd h (by simp)
  | some manifest =>
    simp only [Option.some.injEq, forall_eq', checkManifest]
    rw [Option.mapM_some]
    cases canonicalHash manifest.dump <;> simp [Except.map, Functor.map]

omit [Pydantic] in
theorem verifyPack_returns {pack : EvidencePack} {groundTruth : Option GroundTruthManifest}
    {pdfBytes : Option Bytes} {options : VerifyOptions} :
    (∃ verdict, verifyPack pack groundTruth pdfBytes options = .ok verdict) ↔
      VerifyHandled pack groundTruth options := by
  constructor
  · rintro ⟨verdict, h⟩
    obtain ⟨checks, anchored, hchecks, -⟩ := verifyPack_eq_ok.mp h
    obtain ⟨digest, tokenCheck, tokenAnchored, mappings, rekor, manifest, hdigest, htoken,
      hmappings, hrekor, hmanifest, -⟩ := packChecks_eq_ok.mp hchecks
    refine ⟨⟨digest, hdigest⟩, checkToken_returns.mp ⟨_, htoken⟩, fun digest' text hdigest' => ?_,
      fun groundTruth hgiven => ?_⟩
    · obtain rfl := Except.ok.inj (hdigest.symm.trans hdigest')
      exact rekorChecks_returns.mp ⟨rekor, hrekor⟩ text
    · exact manifestCheck_returns.mp ⟨manifest, hmanifest⟩ groundTruth hgiven
  · intro h
    obtain ⟨digest, hdigest⟩ := h.digest
    obtain ⟨⟨tokenCheck, tokenAnchored⟩, htoken⟩ := checkToken_returns.mpr h.token
    obtain ⟨mappings, hmappings⟩ := checkControlMappings_returns hdigest
    obtain ⟨rekor, hrekor⟩ := rekorChecks_returns.mpr fun text => h.proof digest text hdigest
    obtain ⟨manifest, hmanifest⟩ := manifestCheck_returns.mpr h.manifest
    exact ⟨_, verifyPack_eq_ok.mpr ⟨_, _, packChecks_eq_ok.mpr ⟨digest, tokenCheck, tokenAnchored,
      mappings, rekor, manifest, hdigest, htoken, hmappings, hrekor, hmanifest, rfl, rfl⟩, rfl⟩⟩

omit [Decimals] [Cryptography] [Rfc3161] [Pydantic] in
/-- What a document raises is caught, where the pack has a verdict. -/
theorem letsThrough_intoto {pack : EvidencePack} {digest : String}
    (hdigest : attestedDigest pack = .ok digest)
    (htoken : loads (units (pack.tsaToken.getD "")) ≠ .error .recursion) {raw : Bytes} {obj : Json}
    (hloads : loadsOf raw = .ok obj) :
    LetsThrough [.valueError, .typeError, .attributeError] (verifyInTotoStatement obj pack) := by
  by_cases hobj : ∃ entries, obj = .obj entries
  · obtain ⟨entries, rfl⟩ := hobj
    refine (letsThrough_verifyInTotoStatement (refusal_of_loadsOf rfl hloads) pack).mpr fun _ => ?_
    have hmono : ∀ {α : Type} {result : Except Exn α}, RaisesOnly [.valueError] result →
        RaisesOnly [.valueError, .typeError, .attributeError] result := fun h => h.mono (by simp)
    exact ⟨hmono (runDigest_raises hdigest), fun _ _ _ =>
      hmono (expectedPredicate_raises hdigest htoken)⟩
  · rw [verifyInTotoStatement_notObject (fun entries h => hobj ⟨entries, h⟩), letsThrough_library]
    simp

omit [Decimals] [Cryptography] [Rfc3161] [Pydantic] in
theorem letsThrough_dsse {pack : EvidencePack} {digest : String}
    (hdigest : attestedDigest pack = .ok digest)
    (htoken : loads (units (pack.tsaToken.getD "")) ≠ .error .recursion) (envelope : Json) :
    LetsThrough [.valueError, .typeError, .attributeError] (verifyDsseEnvelope envelope pack) ↔
      ∀ payload, Carries envelope payload → loadsOf payload ≠ .error .recursionError := by
  by_cases hobj : ∃ entries, envelope = .obj entries
  · obtain ⟨entries, rfl⟩ := hobj
    rw [letsThrough_verifyDsseEnvelope]
    refine forall₂_congr fun payload _ => ?_
    rw [raisesOnly_loadsOf (by simp) (by simp)]
    exact and_iff_left fun fields hfields => letsThrough_intoto hdigest htoken hfields
  · rw [verifyDsseEnvelope_notObject (fun entries h => hobj ⟨entries, h⟩), letsThrough_library]
    refine iff_of_true (by simp) fun payload hcarries => ?_
    obtain ⟨entries, hentries, -⟩ := Json.get_eq_some hcarries.1
    exact absurd ⟨entries, hentries⟩ hobj

omit [Decimals] [Cryptography] [Rfc3161] [Pydantic] in
theorem sidecarChecks_returns {pack : EvidencePack} {contents : BundleContents} {digest : String}
    (hdigest : attestedDigest pack = .ok digest)
    (htoken : loads (units (pack.tsaToken.getD "")) ≠ .error .recursion) :
    (∃ checks, sidecarChecks pack contents = .ok checks) ↔
      (∀ name ∈ intotoMembers, ∀ raw, contents.member name = some raw →
        loadsOf raw ≠ .error .recursionError) ∧
      ∀ raw, contents.member dsseMember = some raw → loadsOf raw ≠ .error .recursionError ∧
        ∀ envelope, loadsOf raw = .ok envelope → ∀ payload, Carries envelope payload →
          loadsOf payload ≠ .error .recursionError := by
  have hseq : ∀ {x y : Except Exn (List Check)},
      (∃ checks, (x >>= fun intoto => y >>= fun dsse => .ok (intoto ++ dsse)) = .ok checks) ↔
        (∃ a, x = .ok a) ∧ ∃ a, y = .ok a := by
    intro x y
    cases x <;> cases y <;> simp [bind, Except.bind]
  unfold sidecarChecks
  refine hseq.trans ?_
  rw [exists_mapM_ok, exists_mapM_ok, forall_mem_toList, forall_present]
  simp only [checkSidecar_returns, letsThrough_dsse hdigest htoken]
  refine and_congr_left fun _ => forall_congr' fun name => forall_congr' fun _ =>
    forall₂_congr fun raw _ => and_iff_left fun obj hobj => ?_
  exact letsThrough_intoto hdigest htoken hobj

theorem verifyBundledPack_returns {checks : List Check} {pack : EvidencePack}
    {contents : BundleContents} {groundTruth : Option GroundTruthManifest}
    {options : VerifyOptions} :
    (∃ verdict, verifyBundledPack checks pack contents groundTruth options = .ok verdict) ↔
      PackHandled pack contents.member groundTruth options := by
  unfold verifyBundledPack
  constructor
  · rintro ⟨verdict, h⟩
    obtain ⟨run, hrun, h⟩ := bind_eq_ok.mp h
    obtain ⟨result, hresult, h⟩ := bind_eq_ok.mp h
    obtain ⟨sidecars, hsidecars, -⟩ := bind_eq_ok.mp h
    have hverified := verifyPack_returns.mp ⟨result, hresult⟩
    obtain ⟨digest, hdigest⟩ := hverified.digest
    obtain ⟨hintoto, hdsse⟩ :=
      (sidecarChecks_returns hdigest hverified.token.2).mp ⟨sidecars, hsidecars⟩
    have hrun := bundledRunChecks_returns.mp ⟨run, hrun⟩
    exact ⟨fun raw hraw => (hrun raw hraw).1, fun raw bundledRun hraw => (hrun raw hraw).2 bundledRun,
      hverified, hintoto, fun raw hraw => (hdsse raw hraw).1,
      fun raw envelope payload hraw henvelope => (hdsse raw hraw).2 envelope henvelope payload⟩
  · intro h
    obtain ⟨run, hrun⟩ := bundledRunChecks_returns.mpr fun raw hraw =>
      ⟨h.run raw hraw, fun bundledRun hbundled => h.attested raw bundledRun hraw hbundled⟩
    obtain ⟨result, hresult⟩ : ∃ verdict, verifyPack pack groundTruth
        (pdfMembers.filterMap contents.member).head? options = .ok verdict :=
      verifyPack_returns.mpr h.verified
    obtain ⟨digest, hdigest⟩ := h.verified.digest
    obtain ⟨sidecars, hsidecars⟩ := (sidecarChecks_returns hdigest h.verified.token.2).mpr
      ⟨h.intoto, fun raw hraw => ⟨h.dsse raw hraw, fun envelope henvelope payload =>
        h.payload raw envelope payload hraw henvelope⟩⟩
    exact ⟨_, bind_eq_ok.mpr ⟨run, hrun, bind_eq_ok.mpr ⟨result, hresult,
      bind_eq_ok.mpr ⟨sidecars, hsidecars, rfl⟩⟩⟩⟩

/-- The pack of a bundle is not nested too deeply, and where it is read it is handled. -/
structure ContentsHandled (contents : BundleContents) (groundTruth : Option GroundTruthManifest)
    (options : VerifyOptions) : Prop where
  shallow : ∀ {raw : Bytes}, contents.member evidenceMember = some raw →
    loadsOf raw ≠ .error .recursionError
  pack : ∀ {raw : Bytes} {pack : EvidencePack}, contents.member evidenceMember = some raw →
    checkRawSchemaStamps raw = .ok none → Pydantic.validatePack raw = some pack →
      PackHandled pack contents.member groundTruth options

omit [Decimals] [Hashlib] [Cryptography] [Rfc3161] [Pydantic] in
theorem checkRawSchemaStamps_returns {raw : Bytes} :
    (∃ stamped, checkRawSchemaStamps raw = .ok stamped) ↔
      loadsOf raw ≠ .error .recursionError := by
  have hcaught : RaisesOnly [.valueError] (loadsOf raw) ↔ loadsOf raw ≠ .error .recursionError :=
    raisesOnly_loadsOf (by simp) (by simp)
  rw [← hcaught]
  unfold checkRawSchemaStamps checkSchemaStamps
  cases loadsOf raw with
  | ok value => cases value <;> simp
  | error e => cases e <;> simp

theorem verifyContents_returns {contents : BundleContents}
    {groundTruth : Option GroundTruthManifest} {options : VerifyOptions} :
    (∃ verdict, verifyContents contents groundTruth options = .ok verdict) ↔
      ContentsHandled contents groundTruth options := by
  unfold verifyContents
  dsimp only
  cases hraw : contents.member evidenceMember with
  | none =>
    have habsent : ∀ {raw}, contents.member evidenceMember ≠ some raw := by
      rw [hraw]
      nofun
    exact iff_of_true ⟨_, rfl⟩ ⟨fun h => absurd h habsent, fun h => absurd h habsent⟩
  | some raw =>
    dsimp only
    have hshallow : (∃ stamped, checkRawSchemaStamps raw = .ok stamped) ↔
        loadsOf raw ≠ .error .recursionError := checkRawSchemaStamps_returns
    have hhandled : ContentsHandled contents groundTruth options ↔
        loadsOf raw ≠ .error .recursionError ∧ ∀ pack, checkRawSchemaStamps raw = .ok none →
          Pydantic.validatePack raw = some pack →
            PackHandled pack contents.member groundTruth options := by
      constructor
      · exact fun h => ⟨h.shallow hraw, fun pack => h.pack hraw⟩
      · rintro ⟨hdeep, hpack⟩
        refine ⟨fun {raw'} hraw' => ?_, fun {raw' pack} hraw' => ?_⟩
        · rwa [← Option.some.inj (hraw.symm.trans hraw')]
        · rw [← Option.some.inj (hraw.symm.trans hraw')]
          exact hpack pack
    rw [hhandled, ← hshallow]
    cases checkRawSchemaStamps raw with
    | error e => simp
    | ok stamped =>
      cases stamped with
      | some check => simp
      | none =>
        cases Pydantic.validatePack raw with
        | none => simp
        | some pack => simp [verifyBundledPack_returns]

end Contents

section Bundle

variable [JsonLimits] [FloatText] [Unicode]

/-- A manifest of the right shape, and the digests that it lists. -/
structure Shaped (manifest : Json) (digests : List (Units × Json)) : Prop where
  object : ∃ fields, manifest = .obj fields
  evidence : manifest.get "evidence" = none ∨
    manifest.get "evidence" = some (.str evidenceMember)
  members : (manifest.get "members").getD (.obj []) = .obj digests
  texts : ∀ entry ∈ digests, ∃ text, entry.2 = .str text

/-- A bundle that is an archive of distinct members, all of which can be read, with a manifest of the
right shape. -/
def WellRead [Zipfile] (bundle : Bytes) : Prop :=
  ∃ archive raw manifest digests, Zipfile.openArchive bundle = .ok archive ∧
    archive.namelist.Nodup ∧ (∀ member ∈ archive, ∃ content, member.content = .ok content) ∧
      archive.read manifestMember = .ok raw ∧ loadsOf raw = .ok manifest ∧ Shaped manifest digests

omit [JsonLimits] in
theorem shaped_of_manifestDigests {manifest : Json} {digests : List (Units × Json)}
    (h : manifestDigests manifest = .ok digests)
    (htexts : ∀ entry ∈ digests, ∃ text, entry.2 = .str text) : Shaped manifest digests := by
  unfold manifestDigests at h
  split at h
  · rename_i fields
    dsimp only at h
    split at h
    · cases h
    · rename_i hevidence
      split at h
      · rename_i entries hmembers
        obtain rfl := Except.ok.inj h
        refine ⟨⟨fields, rfl⟩, ?_, hmembers, htexts⟩
        rw [Bool.not_eq_true', Bool.not_eq_false] at hevidence
        cases hget : (Json.obj fields).get "evidence" with
        | none => exact Or.inl rfl
        | some evidence =>
          rw [hget] at hevidence
          exact Or.inr (equalsText_getD.mp hevidence)
      · cases h
  · cases h

variable [Decimals] [Hashlib] [Cryptography] [Rfc3161] [Pydantic] [Zipfile]

theorem wellRead_of_passes {bundle : Bytes} {groundTruth : Option GroundTruthManifest}
    {options : VerifyOptions} (h : Passes (verifyBundle bundle groundTruth options)) :
    WellRead bundle := by
  obtain ⟨archive, contents, hopen, hread, hcontents⟩ := verifyBundle_passes.mp h
  obtain ⟨hnodup, raw, manifest, hraw, hmanifest, hdigests, -⟩ := readArchive_eq_ok.mp hread
  obtain ⟨-, -, -, -, -, hmatch, -⟩ := verifyContents_passes.mp hcontents
  refine ⟨archive, raw, manifest, contents.digests, hopen, hnodup, fun member hmember => ?_, hraw,
    hmanifest, shaped_of_manifestDigests hdigests fun entry hentry => ?_⟩
  · by_cases hname : member.name = manifestMember
    · refine ⟨raw, ?_⟩
      rw [← Archive.read_of_mem hnodup hmember, hname]
      exact hraw
    · obtain ⟨content, -, hcontent⟩ := mem_of_readArchive hread hmember hname
      exact ⟨content, hcontent⟩
  · obtain ⟨-, present, -, hdigest⟩ := hmatch.listed entry hentry
    cases hvalue : entry.2 with
    | str text => exact ⟨text, rfl⟩
    | _ =>
      rw [hvalue] at hdigest
      cases hdigest

/-- The archive of a bundle, and what it holds, raise no exception that is not caught. -/
structure BundleHandled (bundle : Bytes) (groundTruth : Option GroundTruthManifest)
    (options : VerifyOptions) : Prop where
  read : ReadHandled bundle
  contents : ∀ {archive : Archive} {contents : BundleContents},
    Zipfile.openArchive bundle = .ok archive → readArchive archive = .ok (.ok contents) →
      ContentsHandled contents groundTruth options

theorem verifyBundle_returns {bundle : Bytes} {groundTruth : Option GroundTruthManifest}
    {options : VerifyOptions} :
    (∃ verdict, verifyBundle bundle groundTruth options = .ok verdict) ↔
      BundleHandled bundle groundTruth options := by
  have hhandled : BundleHandled bundle groundTruth options ↔
      RaisesOnly unreadable (readBundle bundle) ∧ ∀ contents,
        readBundle bundle = .ok (.ok contents) → ContentsHandled contents groundTruth options := by
    rw [readBundle_raises]
    constructor
    · rintro ⟨hread, hcontents⟩
      refine ⟨hread, fun contents h => ?_⟩
      obtain ⟨archive, hopen, harchive⟩ := bind_eq_ok.mp h
      exact hcontents hopen harchive
    · rintro ⟨hread, hcontents⟩
      exact ⟨hread, fun hopen harchive => hcontents _ (bind_eq_ok.mpr ⟨_, hopen, harchive⟩)⟩
  rw [hhandled]
  unfold verifyBundle
  cases readBundle bundle with
  | error e =>
    dsimp only
    split
    · rename_i hcaught
      simp [hcaught]
    · rename_i hescapes
      simp [hescapes]
  | ok read =>
    cases read with
    | error result => simp
    | ok contents => simp [mapError_eq_ok, verifyContents_returns]

/-- A bundle is answered, and refused where its archive cannot be read or its manifest has a wrong
shape, exactly when what it raises is caught. -/
theorem verifyBundle_answers (bundle : Bytes) (groundTruth : Option GroundTruthManifest)
    (options : VerifyOptions) :
    (∃ verdict, verifyBundle bundle groundTruth options = .ok verdict ∧
      (¬WellRead bundle → verdict.passed = false)) ↔
        BundleHandled bundle groundTruth options := by
  rw [← verifyBundle_returns]
  constructor
  · rintro ⟨verdict, hverdict, -⟩
    exact ⟨verdict, hverdict⟩
  · rintro ⟨verdict, hverdict⟩
    refine ⟨verdict, hverdict, fun hmisread => ?_⟩
    cases hpassed : verdict.passed with
    | false => rfl
    | true => exact absurd (wellRead_of_passes ⟨verdict, hverdict, hpassed⟩) hmisread

end Bundle

section Sample

attribute [local instance] Hashlib.real Unicode.ascii Decimals.ascii JsonLimits.default
  FloatText.halves Rfc3161.missing Cryptography.missing

/-- An archive with one member, `bundle-manifest.json`, that has the flag of encryption. -/
def encryptedBundle : Bytes :=
  [80, 75, 3, 4, 20, 0, 1, 0, 0, 0, 0, 0, 33, 0, 67, 191, 166, 163, 2, 0, 0, 0, 2, 0, 0, 0, 20, 0, 0,
    0, 98, 117, 110, 100, 108, 101, 45, 109, 97, 110, 105, 102, 101, 115, 116, 46, 106, 115, 111,
    110, 123, 125, 80, 75, 1, 2, 20, 0, 20, 0, 1, 0, 0, 0, 0, 0, 33, 0, 67, 191, 166, 163, 2, 0, 0,
    0, 2, 0, 0, 0, 20, 0, 0, 0, 0, 0, 0, 0, 0, 0, 0, 0, 0, 0, 0, 0, 0, 0, 98, 117, 110, 100, 108,
    101, 45, 109, 97, 110, 105, 102, 101, 115, 116, 46, 106, 115, 111, 110, 80, 75, 5, 6, 0, 0, 0,
    0, 1, 0, 1, 0, 66, 0, 0, 0, 52, 0, 0, 0, 0, 0]

/-- `zipfile` on that archive: a member that is encrypted is listed, and raises when it is read. -/
@[reducible] def Zipfile.encrypted : Zipfile where
  openArchive data :=
    if data = encryptedBundle then .ok [⟨units "bundle-manifest.json", .error .runtimeError⟩]
    else .error .badZipFile

/-- A `pydantic` that finds no pack. -/
@[reducible] def Pydantic.refusing : Pydantic := ⟨fun _ => [], fun _ => [], fun _ => none⟩

attribute [local instance] Zipfile.encrypted Pydantic.refusing

/-- The `RuntimeError` that reading an encrypted manifest raises escapes. -/
theorem encryptedBundle_escapes : ¬∀ (bundle : Bytes) (groundTruth : Option GroundTruthManifest)
    (options : VerifyOptions), ∃ verdict, verifyBundle bundle groundTruth options = .ok verdict ∧
      (¬WellRead bundle → verdict.passed = false) := by
  intro h
  obtain ⟨verdict, hverdict, -⟩ := h encryptedBundle none {}
  have hopen : Zipfile.openArchive encryptedBundle =
      .ok [⟨units "bundle-manifest.json", .error .runtimeError⟩] := if_pos rfl
  have hread : readBundle encryptedBundle = .error .runtimeError := by
    rw [readBundle, hopen]
    rfl
  have hescapes : ZipRaised.runtimeError ∉ unreadable := by decide
  rw [verifyBundle, hread] at hverdict
  dsimp only at hverdict
  rw [if_neg hescapes] at hverdict
  cases hverdict

end Sample

end Sectum
