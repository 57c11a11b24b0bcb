import Sectum.Core.VerifyCommand
import Sectum.Evidence.BundleAgrees
import Sectum.Evidence.BundleReturns

/-! What the files beside a pack can do to the exit status of `verify`: nothing but the pack's own
siblings where its name declares them, and otherwise no candidate is passed over unless a pack that
verifies owns it. -/

namespace Sectum

open Py JsonText

section Declared

theorem siblingNames_declared {owner : String} {known : SiblingNames}
    (h : (owner, known) ∈ packSiblings) (slot : SiblingSlot) :
    siblingNames owner slot = if known slot = "" then [] else [known slot] := by
  simp only [packSiblings, List.mem_cons, List.not_mem_nil, or_false, Prod.mk.injEq] at h
  obtain ⟨rfl, rfl⟩ | ⟨rfl, rfl⟩ := h <;> simp [siblingNames, packSiblings]

end Declared

section Folder

variable [JsonLimits] [FloatText] [Unicode] [Decimals] [Hashlib] [Cryptography] [Rfc3161] [Pydantic]
  [Sidecars] {folder : Folder} {packName : String} {slot : SiblingSlot} {pack : EvidencePack}
  {roots : TrustRoots}

/-- No pack but the one under test declares its siblings. -/
theorem ownedElsewhere_declared {owner : String} {known : SiblingNames}
    (h : (owner, known) ∈ packSiblings) (hslot : known slot ≠ "") :
    ownedElsewhere folder owner (known slot) slot pack roots packSiblings = .ok .unowned := by
  simp only [packSiblings, List.mem_cons, List.not_mem_nil, or_false, Prod.mk.injEq] at h
  obtain ⟨rfl, rfl⟩ | ⟨rfl, rfl⟩ := h <;> cases slot <;>
    simp [ownedElsewhere, packSiblings] at hslot ⊢

omit [JsonLimits] [FloatText] [Unicode] [Decimals] [Hashlib] [Cryptography] [Rfc3161] [Pydantic]
  [Sidecars] in
theorem presentNames_declared {owner : String} {known : SiblingNames}
    (h : (owner, known) ∈ packSiblings) :
    presentNames folder owner slot = [] ∨
      known slot ≠ "" ∧ presentNames folder owner slot = [known slot] := by
  rw [presentNames, siblingNames_declared h slot]
  by_cases hnone : known slot = ""
  · simp [hnone]
  · cases hthere : (folder (known slot)).isSome <;> simp [hnone, hthere]

/-- The siblings that a pack declares are judged, whatever else there is. -/
theorem claimedSiblings_declared {owner : String} {known : SiblingNames}
    (h : (owner, known) ∈ packSiblings) :
    claimedSiblings folder owner slot pack roots =
      .ok ⟨presentNames folder owner slot, [], []⟩ := by
  have hsorted : sortedSet ([] : List String) = [] := rfl
  have hcases : presentNames folder owner slot = [] ∨
      known slot ≠ "" ∧ presentNames folder owner slot = [known slot] := presentNames_declared h
  obtain hpresent | ⟨hname, hpresent⟩ := hcases
  · simp [claimedSiblings, siblingClaims, boundNames, hpresent, hsorted, bind, Except.bind, pure,
      Except.pure]
  · have hunowned : ownedElsewhere folder owner (known slot) slot pack roots packSiblings =
        .ok .unowned := ownedElsewhere_declared h hname
    cases hbinds : folder.binds slot (known slot) pack <;>
      simp [claimedSiblings, siblingClaims, boundNames, hpresent, hsorted, hbinds, hunowned, bind,
        Except.bind, pure, Except.pure, Except.map]

/-- A pack beside the one under test that owns a candidate: it declares the name, binds the file and
verifies, with an anchor where the pack under test has one. -/
structure Owns (folder : Folder) (packName name : String) (slot : SiblingSlot)
    (pack : EvidencePack) (roots : TrustRoots) (owner : String × SiblingNames) (other : EvidencePack)
    (claimant : VerificationResult) : Prop where
  declared : owner ∈ packSiblings
  another : owner.1 ≠ packName
  sibling : owner.2 slot = name
  present : presentPack folder owner.1 = some other
  binds : folder.binds slot name other = true
  verified : verifyPack other none none roots.options = .ok claimant
  passed : claimant.passed = true
  anchored : pack.anchoredInLog = true ∨ pack.anchoredWithTimestamp = true →
    claimant.anchored = true

theorem owns_of_ownedElsewhere {name : String} {owners : List (String × SiblingNames)}
    (hsub : owners ⊆ packSiblings)
    (h : ownedElsewhere folder packName name slot pack roots owners = .ok .owned) :
    ∃ owner other claimant, Owns folder packName name slot pack roots owner other claimant := by
  induction owners with
  | nil => cases h
  | cons entry others ih =>
    obtain ⟨owner, siblings⟩ := entry
    have hothers := ih fun entry hentry => hsub (List.mem_cons_of_mem _ hentry)
    rw [ownedElsewhere] at h
    split at h
    · exact hothers h
    · rename_i hnamed
      obtain ⟨hanother, hsibling⟩ := not_or.mp hnamed
      split at h
      · exact hothers h
      · rename_i other hpresent
        split at h
        · exact hothers h
        · rename_i hbinds
          obtain ⟨claimant, hverified, h⟩ := bind_eq_ok.mp h
          split at h
          · exact hothers h
          · rename_i hpassed
            split at h
            · cases h
            · rename_i hanchored
              refine ⟨(owner, siblings), other, claimant, hsub List.mem_cons_self, hanother,
                not_not.mp hsibling, hpresent, ?_, hverified, ?_, fun hdeclared => ?_⟩
              · simpa using hbinds
              · simpa using hpassed
              · simpa [hdeclared] using hanchored

/-- What an exit status of zero says of a slot: there is no candidate, or a candidate binds the pack,
or each of them is owned by another pack. -/
def Answered (folder : Folder) (packName : String) (slot : SiblingSlot) (pack : EvidencePack)
    (roots : TrustRoots) : Prop :=
  (∀ name ∈ siblingNames packName slot, folder name = none) ∨
    (∃ name ∈ siblingNames packName slot, folder.binds slot name pack = true) ∨
    ∀ name ∈ siblingNames packName slot, folder name ≠ none → ∃ owner other claimant,
      Owns folder packName name slot pack roots owner other claimant

omit [JsonLimits] [FloatText] [Unicode] [Decimals] [Hashlib] [Cryptography] [Rfc3161] [Pydantic]
  [Sidecars] in
theorem mem_presentNames {name : String} : name ∈ presentNames folder packName slot ↔
    name ∈ siblingNames packName slot ∧ folder name ≠ none := by
  rw [presentNames, List.mem_filter, Option.isSome_iff_ne_none]

theorem mem_siblingClaims (hbound : boundNames folder packName slot pack = [])
    {claims : List (String × Claim)}
    (h : siblingClaims folder packName slot pack roots = .ok claims) {name : String}
    (hname : name ∈ presentNames folder packName slot) :
    ∃ claim, ownedElsewhere folder packName name slot pack roots packSiblings = .ok claim ∧
      (name, claim) ∈ claims := by
  rw [siblingClaims, if_neg (not_not.mpr hbound)] at h
  obtain ⟨entry, hentry, hmem⟩ := mapM_all.mp ⟨claims, h, fun _ hentry => hentry⟩ name hname
  obtain ⟨claim, hclaim, rfl⟩ := map_eq_ok.mp hentry
  exact ⟨claim, hclaim, hmem⟩

/-- A slot whose first judged candidate binds the pack, and which has none that is unexcused. -/
theorem answered_of_judged {siblings : Siblings}
    (h : claimedSiblings folder packName slot pack roots = .ok siblings)
    (hfirst : ∀ name ∈ siblings.judged.head?, folder.binds slot name pack = true)
    (hunexcused : siblings.unexcused = []) : Answered folder packName slot pack roots := by
  by_cases hbound : boundNames folder packName slot pack = []
  · obtain ⟨claims, hclaims, heq⟩ := bind_eq_ok.mp h
    obtain rfl := Except.ok.inj heq
    dsimp only at hfirst hunexcused
    rw [if_neg (not_not.mpr hbound)] at hfirst
    have hnone : ∀ name ∈ presentNames folder packName slot,
        folder.binds slot name pack = false := by
      simpa [boundNames, List.filter_eq_nil_iff] using hbound
    refine Or.inr (Or.inr fun name hname hthere => ?_)
    have hpresent := mem_presentNames.mpr ⟨hname, hthere⟩
    obtain ⟨claim, hclaim, hmem⟩ := mem_siblingClaims hbound hclaims hpresent
    cases claim with
    | owned => exact owns_of_ownedElsewhere (List.Subset.refl _) hclaim
    | underAnchored =>
      rw [sortedSet_eq_nil] at hunexcused
      exact absurd (List.mem_map.mpr ⟨(name, .underAnchored), List.mem_filter.mpr ⟨hmem, rfl⟩, rfl⟩)
        (hunexcused name)
    | unowned =>
      -- the first one that nobody owns is judged, so it binds the pack
      have hjudged : name ∈ (presentNames folder packName slot).filter fun name =>
          (name, Claim.unowned) ∈ claims := List.mem_filter.mpr ⟨hpresent, decide_eq_true hmem⟩
      obtain ⟨first, hhead⟩ := Option.ne_none_iff_exists'.mp
        (mt List.head?_eq_none_iff.mp (List.ne_nil_of_mem hjudged))
      have hfirst := hfirst first hhead
      rw [hnone first (List.mem_of_mem_filter (List.mem_of_head? hhead))] at hfirst
      cases hfirst
  · obtain ⟨name, hname⟩ := List.exists_mem_of_ne_nil _ hbound
    obtain ⟨hpresent, hbinds⟩ := List.mem_filter.mp hname
    exact Or.inr (Or.inl ⟨name, (mem_presentNames.mp hpresent).1, hbinds⟩)

end Folder

section Verdict

variable [JsonLimits] [FloatText] [Unicode] [Decimals] [Hashlib] [Cryptography] [Rfc3161] [Pydantic]
  [Sidecars] {folder : Folder} {packName : String} {pack : EvidencePack} {roots : TrustRoots}

omit [JsonLimits] [FloatText] [Unicode] [Decimals] [Hashlib] [Cryptography] [Rfc3161] [Pydantic]
  [Sidecars] in
theorem readEntry_eq_ok {entry : Option Entry} {content : Bytes} :
    readEntry entry = .ok content ↔ entry = some (.file content) := by
  cases entry with
  | none => simp [readEntry]
  | some entry => cases entry <;> simp [readEntry, Entry.readBytes]

omit [Pydantic] [Sidecars] in
/-- A pack that passes with a PDF is bound by it. -/
theorem bindsPdf_of_passed {groundTruth : Option GroundTruthManifest} {content : Bytes}
    {options : VerifyOptions} {result : VerificationResult}
    (h : verifyPack pack groundTruth (some content) options = .ok result)
    (hpassed : result.passed = true) : bindsPdf content pack = true := by
  obtain ⟨checks, anchored, -, rfl⟩ := verifyPack_eq_ok.mp h
  have hall := List.all_eq_true.mp hpassed
  have hpdf : ∀ check ∈ pdfChecks pack.pdfRef (some content), check.ok = true := fun check hcheck =>
    hall check (by simp [hcheck])
  unfold bindsPdf
  cases href : pack.pdfRef with
  | none => simp [href, pdfChecks] at hpdf
  | some pdfRef =>
    by_cases hdigest : hexdigest content = pdfRef
    · simp [hdigest]
    · simp [href, pdfChecks, checkPdf, hdigest] at hpdf

/-- What was read of the PDF beside a pack. -/
theorem siblingAuditPdf_eq_ok {pdfBytes : Option Bytes} {others unexcused : List String}
    (h : siblingAuditPdf folder packName pack roots = .ok (pdfBytes, others, unexcused)) :
    ∃ siblings, claimedSiblings folder packName .pdf pack roots = .ok siblings ∧
      siblings.unexcused = unexcused ∧ ∀ first ∈ siblings.judged.head?, ∃ content,
        folder first = some (.file content) ∧ pdfBytes = some content := by
  obtain ⟨siblings, hsiblings, h⟩ := bind_eq_ok.mp h
  refine ⟨siblings, mapError_eq_ok.mp hsiblings, ?_⟩
  cases hjudged : siblings.judged with
  | nil =>
    rw [hjudged] at h
    cases h
    exact ⟨rfl, by simp⟩
  | cons first rest =>
    rw [hjudged] at h
    obtain ⟨content, hcontent, h⟩ := bind_eq_ok.mp h
    cases h
    refine ⟨rfl, fun name hname => ⟨content, ?_, rfl⟩⟩
    rw [List.head?_cons, Option.mem_some_iff] at hname
    rw [← hname]
    exact readEntry_eq_ok.mp hcontent

omit [JsonLimits] [FloatText] [Decimals] [Hashlib] [Cryptography] [Rfc3161] [Pydantic]
  [Sidecars] in
/-- Sidecars that were all accepted. -/
theorem sidecarLines_true {check : Bytes → EvidencePack → Except String String} {label : String}
    {names : List String} {lines : List EchoLine}
    (h : sidecarLines check label folder pack names = .ok (lines, true)) :
    ∀ name ∈ names, ∃ content, folder name = some (.file content) ∧
      (check content pack).isOk = true := by
  intro name hname
  obtain ⟨checked, hchecked, h⟩ := bind_eq_ok.mp h
  obtain ⟨-, hall⟩ := Prod.mk.inj (Except.ok.inj h)
  obtain ⟨index, hindex⟩ : ∃ index, (name, index) ∈ names.zipIdx := by
    obtain ⟨index, hlt, rfl⟩ := List.getElem_of_mem hname
    exact ⟨index, List.mem_zipIdx_iff_getElem?.mpr (List.getElem?_eq_getElem hlt)⟩
  obtain ⟨line, hline, haccepted⟩ := mapM_all.mp ⟨checked, hchecked, List.all_eq_true.mp hall⟩
    (name, index) hindex
  obtain ⟨content, hcontent, hline⟩ := bind_eq_ok.mp hline
  refine ⟨content, readEntry_eq_ok.mp hcontent, ?_⟩
  obtain rfl := Except.ok.inj hline
  cases hcheck : check content pack with
  | ok detail => rfl
  | error message =>
    rw [hcheck] at haccepted
    cases haccepted

/-- The slots that an exit status of zero answers for. -/
def judgedSlots : List SiblingSlot := [.pdf, .inToto, .dsse]

theorem verifyEvidence_zero {args : VerifyArguments} {groundTruth : Option GroundTruthManifest}
    {emission : Emission} (h : verifyEvidence folder args groundTruth pack = .ok emission)
    (hzero : emission.exitCode = 0) :
    ∃ roots, readRoots args = .ok roots ∧ ∀ slot ∈ judgedSlots,
      Answered folder args.name slot pack roots := by
  obtain ⟨roots, hroots, h⟩ := bind_eq_ok.mp h
  obtain ⟨⟨pdfBytes, otherPdfs, unexcusedPdfs⟩, hpdf, h⟩ := bind_eq_ok.mp h
  obtain ⟨result, hresult, h⟩ := bind_eq_ok.mp h
  obtain ⟨runs, hruns, h⟩ := bind_eq_ok.mp h
  obtain ⟨statements, hstatements, h⟩ := bind_eq_ok.mp h
  obtain ⟨⟨statementLines, statementsOk⟩, hstatementLines, h⟩ := bind_eq_ok.mp h
  obtain ⟨envelopes, henvelopes, h⟩ := bind_eq_ok.mp h
  obtain ⟨⟨envelopeLines, envelopesOk⟩, henvelopeLines, h⟩ := bind_eq_ok.mp h
  refine ⟨roots, hroots, ?_⟩
  dsimp only at h
  split at h
  · cases h
    cases hzero
  · rename_i hverified
    split at h
    · cases h
      cases hzero
    · rename_i hexcused
      rw [Bool.not_eq_true', Bool.not_eq_false, Bool.and_eq_true, Bool.and_eq_true] at hverified
      obtain ⟨⟨hpassed, rfl⟩, rfl⟩ := hverified
      rw [not_not, sortedSet_eq_nil] at hexcused
      simp only [List.mem_append, not_or] at hexcused
      have hnone : ∀ {names : List String}, (∀ name ∈ names, False) → names = [] :=
        fun h => List.eq_nil_iff_forall_not_mem.mpr h
      have hnext : ∀ {slot : SiblingSlot} {siblings : Siblings}
          {check : Bytes → EvidencePack → Except String String},
          (∀ content, bindsContent slot content pack = (check content pack).isOk) →
          (∀ name ∈ siblings.judged, ∃ content, folder name = some (.file content) ∧
            (check content pack).isOk = true) →
          ∀ name ∈ siblings.judged.head?, folder.binds slot name pack = true := by
        intro slot siblings check hcheck hjudged name hname
        obtain ⟨content, hcontent, hok⟩ := hjudged name (List.mem_of_head? hname)
        rw [Folder.binds, hcontent]
        exact (hcheck content).trans hok
      have hslots : Answered folder args.name .pdf pack roots ∧
          Answered folder args.name .inToto pack roots ∧
          Answered folder args.name .dsse pack roots := by
        refine ⟨?_, ?_, ?_⟩
        · obtain ⟨siblings, hsiblings, rfl, hfirst⟩ := siblingAuditPdf_eq_ok hpdf
          refine answered_of_judged hsiblings (fun name hname => ?_)
            (hnone fun name hname => (hexcused name).1.1.1 hname)
          obtain ⟨content, hcontent, rfl⟩ := hfirst name hname
          rw [Folder.binds, hcontent]
          exact bindsPdf_of_passed (mapError_eq_ok.mp hresult) hpassed
        · exact answered_of_judged (mapError_eq_ok.mp hstatements)
            (hnext (fun _ => rfl) (sidecarLines_true hstatementLines))
            (hnone fun name hname => (hexcused name).1.2 hname)
        · exact answered_of_judged (mapError_eq_ok.mp henvelopes)
            (hnext (fun _ => rfl) (sidecarLines_true henvelopeLines))
            (hnone fun name hname => (hexcused name).2 hname)
      simpa [judgedSlots] using hslots

omit [JsonLimits] [FloatText] [Unicode] [Decimals] [Hashlib] [Cryptography] [Rfc3161] [Pydantic]
  [Sidecars] in
theorem exitStatus_congr {α : Type} {result : Except Unhandled α}
    {next next' : α → Except Unhandled Emission}
    (h : ∀ a, exitStatus (next a) = exitStatus (next' a)) :
    exitStatus (result >>= next) = exitStatus (result >>= next') := by
  cases result with
  | error e => rfl
  | ok a => exact h a

section Same

variable {folder' : Folder} {owner : String} {known : SiblingNames}
  (hknown : (owner, known) ∈ packSiblings)
  (hsame : ∀ slot ∈ judgedSlots, folder (known slot) = folder' (known slot))
include hknown hsame

omit [JsonLimits] [FloatText] [Unicode] [Decimals] [Hashlib] [Cryptography] [Rfc3161] [Pydantic]
  [Sidecars] in
theorem presentNames_same {slot : SiblingSlot} (hslot : slot ∈ judgedSlots) :
    presentNames folder owner slot = presentNames folder' owner slot ∧
      ∀ name ∈ presentNames folder owner slot, folder name = folder' name := by
  have hnames : ∀ name ∈ siblingNames owner slot, folder name = folder' name := by
    rw [siblingNames_declared hknown slot]
    split
    · exact List.forall_mem_nil _
    · exact List.forall_mem_singleton.mpr (hsame slot hslot)
  refine ⟨List.filter_congr fun name hname => by rw [hnames name hname], fun name hname => ?_⟩
  exact hnames name (List.mem_of_mem_filter hname)

theorem siblingAuditPdf_same :
    siblingAuditPdf folder owner pack roots = siblingAuditPdf folder' owner pack roots := by
  obtain ⟨hpresent, hentries⟩ := presentNames_same hknown hsame (List.mem_cons_self)
  unfold siblingAuditPdf
  rw [claimedSiblings_declared hknown, claimedSiblings_declared hknown, ← hpresent]
  dsimp only [Except.mapError, bind, Except.bind]
  cases hnames : presentNames folder owner .pdf with
  | nil => rfl
  | cons first others =>
    dsimp only
    rw [hentries first (hnames ▸ List.mem_cons_self)]

omit [JsonLimits] [FloatText] [Decimals] [Hashlib] [Cryptography] [Rfc3161] [Pydantic]
  [Sidecars] in
theorem sidecarLines_same {slot : SiblingSlot} (hslot : slot ∈ judgedSlots)
    (check : Bytes → EvidencePack → Except String String) (label : String) :
    sidecarLines check label folder pack (presentNames folder owner slot) =
      sidecarLines check label folder' pack (presentNames folder' owner slot) := by
  obtain ⟨hpresent, hentries⟩ := presentNames_same hknown hsame hslot
  unfold sidecarLines
  rw [← hpresent]
  refine congrArg (· >>= _) (mapM_congr fun entry hentry => ?_)
  rw [hentries entry.1 (List.fst_mem_of_mem_zipIdx hentry)]

end Same

/-- The exit status of a pack with a declared name depends on its own siblings. -/
theorem verifyEvidence_same {args : VerifyArguments} {groundTruth : Option GroundTruthManifest}
    {folder' : Folder} {known : SiblingNames} (hknown : (args.name, known) ∈ packSiblings)
    (hsame : ∀ slot ∈ judgedSlots, folder (known slot) = folder' (known slot)) :
    exitStatus (verifyEvidence folder args groundTruth pack) =
      exitStatus (verifyEvidence folder' args groundTruth pack) := by
  refine exitStatus_congr fun roots => ?_
  rw [siblingAuditPdf_same hknown hsame]
  refine exitStatus_congr fun read => exitStatus_congr fun result => ?_
  dsimp only
  rw [claimedSiblings_declared hknown, claimedSiblings_declared hknown,
    claimedSiblings_declared hknown, claimedSiblings_declared hknown,
    claimedSiblings_declared hknown, claimedSiblings_declared hknown]
  have hok : ∀ (siblings : Siblings) (next : Siblings → Except Unhandled Emission),
      ((Except.ok siblings).mapError Unhandled.library >>= next) = next siblings := fun _ _ => rfl
  have hjudged : SiblingSlot.inToto ∈ judgedSlots ∧ SiblingSlot.dsse ∈ judgedSlots := by
    simp [judgedSlots]
  simp only [hok]
  rw [sidecarLines_same hknown hsame hjudged.1]
  refine exitStatus_congr fun statements => ?_
  rw [sidecarLines_same hknown hsame hjudged.2]
  refine exitStatus_congr fun envelopes => ?_
  split
  · rfl
  · split <;> rfl

end Verdict

section Command

variable [JsonLimits] [FloatText] [Unicode] [Decimals] [Hashlib] [Cryptography] [Rfc3161] [Pydantic]
  [PydanticManifest] [Sidecars] {folder folder' : Folder} {args : VerifyArguments}
  {known : SiblingNames}

theorem verifyPackFile_same (hknown : (args.name, known) ∈ packSiblings)
    (hsame : ∀ slot ∈ judgedSlots, folder (known slot) = folder' (known slot)) (content : Bytes)
    (groundTruth : Option GroundTruthManifest) :
    exitStatus (verifyPackFile folder content args groundTruth) =
      exitStatus (verifyPackFile folder' content args groundTruth) := by
  refine exitStatus_congr fun stamped => ?_
  cases stamped with
  | some check => rfl
  | none =>
    dsimp only
    cases Pydantic.validatePack (utf8 (decodeReplace content)) with
    | none => rfl
    | some evidence => exact verifyEvidence_same hknown hsame

omit [JsonLimits] [FloatText] [Unicode] [Decimals] [Hashlib] [Cryptography] [Rfc3161] [Pydantic]
  [PydanticManifest] [Sidecars] in
theorem suffix_declared (hknown : (args.name, known) ∈ packSiblings) : suffix args.name ≠ ".zip" := by
  have hall : ∀ name ∈ packSiblings.map Prod.fst, suffix name ≠ ".zip" := by decide +kernel
  exact hall args.name (List.mem_map_of_mem hknown)

theorem verify_same [Zipfile] (hknown : (args.name, known) ∈ packSiblings)
    (hfile : folder args.name = folder' args.name)
    (hsame : ∀ slot ∈ judgedSlots, folder (known slot) = folder' (known slot)) :
    exitStatus (verify folder args) = exitStatus (verify folder' args) := by
  unfold verify
  rw [hfile]
  cases folder' args.name with
  | none => rfl
  | some entry =>
    dsimp only
    cases missingCertificate args with
    | some line => rfl
    | none =>
      refine exitStatus_congr fun read => ?_
      cases read with
      | error line => rfl
      | ok groundTruth =>
        refine exitStatus_congr fun content => ?_
        rw [if_neg (suffix_declared hknown), if_neg (suffix_declared hknown)]
        exact verifyPackFile_same hknown hsame content groundTruth

/-- A pack that `verify` accepts was read, and a verdict was reached on it. -/
theorem verify_zero [Zipfile] (hsuffix : suffix args.name ≠ ".zip")
    (hzero : exitStatus (verify folder args) = 0) :
    ∃ content pack groundTruth emission, folder args.name = some (.file content) ∧
      Pydantic.validatePack (utf8 (decodeReplace content)) = some pack ∧
      verifyEvidence folder args groundTruth pack = .ok emission ∧ emission.exitCode = 0 := by
  cases hverify : verify folder args with
  | error e =>
    rw [hverify] at hzero
    cases hzero
  | ok emission =>
    rw [hverify] at hzero
    unfold verify at hverify
    split at hverify
    · cases hverify
      cases hzero
    · rename_i entry hentry
      split at hverify
      · cases hverify
        cases hzero
      · obtain ⟨manifest, -, hverify⟩ := bind_eq_ok.mp hverify
        cases manifest with
        | error line =>
          cases hverify
          cases hzero
        | ok groundTruth =>
          obtain ⟨content, hcontent, hverify⟩ := bind_eq_ok.mp hverify
          rw [if_neg hsuffix] at hverify
          obtain ⟨stamped, -, hverify⟩ := bind_eq_ok.mp hverify
          cases stamped with
          | some check =>
            cases hverify
            cases hzero
          | none =>
            dsimp only at hverify
            cases hpack : Pydantic.validatePack (utf8 (decodeReplace content)) with
            | none =>
              rw [hpack] at hverify
              cases hverify
              cases hzero
            | some pack =>
              rw [hpack] at hverify
              exact ⟨content, pack, groundTruth, emission,
                readEntry_eq_ok.mp (by rw [hentry]; exact hcontent), hpack, hverify, hzero⟩

/-- The exit status for a pack with a declared name depends on its own siblings alone, and a pack with
another name is accepted only where each slot is answered for. -/
theorem verify_answers_for_siblings [Zipfile] (folder : Folder) (args : VerifyArguments) :
    (∀ {folder' known}, (args.name, known) ∈ packSiblings → folder args.name = folder' args.name →
      (∀ slot ∈ judgedSlots, folder (known slot) = folder' (known slot)) →
        exitStatus (verify folder args) = exitStatus (verify folder' args)) ∧
    (args.name ∉ packSiblings.map Prod.fst → suffix args.name ≠ ".zip" →
      exitStatus (verify folder args) = 0 → ∃ content pack roots,
        folder args.name = some (.file content) ∧
        Pydantic.validatePack (utf8 (decodeReplace content)) = some pack ∧
        readRoots args = .ok roots ∧
        ∀ slot ∈ judgedSlots, Answered folder args.name slot pack roots) := by
  refine ⟨verify_same, fun _ hsuffix hzero => ?_⟩
  obtain ⟨content, pack, groundTruth, emission, hcontent, hpack, hverify, hzero⟩ :=
    verify_zero hsuffix hzero
  obtain ⟨roots, hroots, hslots⟩ := verifyEvidence_zero hverify hzero
  exact ⟨content, pack, roots, hcontent, hpack, hroots, hslots⟩

end Command

section Bound

variable [JsonLimits] [FloatText] [Unicode] [Decimals] [Hashlib] [Cryptography] [Rfc3161] [Pydantic]
  [Sidecars] {folder : Folder} {packName name : String} {slot : SiblingSlot} {pack : EvidencePack}
  {roots : TrustRoots}

theorem claimedSiblings_absent (h : presentNames folder packName slot = []) :
    claimedSiblings folder packName slot pack roots = .ok ⟨[], [], []⟩ := by
  simp only [claimedSiblings, siblingClaims, boundNames, h, List.filter_nil, ne_eq, not_true,
    if_false, List.mapM_nil]
  rfl

/-- A candidate that binds the pack is judged, and the claims of others on it are not asked for. -/
theorem claimedSiblings_bound (h : presentNames folder packName slot = [name])
    (hbinds : folder.binds slot name pack = true) :
    claimedSiblings folder packName slot pack roots = .ok ⟨[name], [], []⟩ := by
  have hbound : boundNames folder packName slot pack = [name] := by
    rw [boundNames, h]
    exact List.filter_cons_of_pos hbinds
  have hclaims : siblingClaims folder packName slot pack roots = .ok [] := by
    rw [siblingClaims, hbound, if_pos (List.cons_ne_nil _ _)]
  rw [claimedSiblings, hclaims, hbound, h]
  simp only [bind, Except.bind, ne_eq, List.cons_ne_nil, not_false_eq_true, if_true]
  simp [pure, Except.pure, sortedSet]

/-- The exit status for a pack that passes with the one PDF beside it. -/
theorem verifyEvidence_bound {args : VerifyArguments} {content : Bytes}
    (hroots : readRoots args = .ok {}) (hpdf : presentNames folder args.name .pdf = [name])
    (hothers : ∀ slot, slot ≠ .pdf → presentNames folder args.name slot = [])
    (hcontent : folder name = some (.file content)) {result : VerificationResult}
    (hverified : verifyPack pack none (some content)
      { requireAnchored := !args.allowUnanchored, requireLive := !args.allowSynthetic } = .ok result)
    (hpassed : result.passed = true) :
    exitStatus (verifyEvidence folder args none pack) = 0 := by
  have hbinds : folder.binds .pdf name pack = true := by
    rw [Folder.binds, hcontent]
    exact bindsPdf_of_passed hverified hpassed
  have hread : siblingAuditPdf folder args.name pack {} = .ok (some content, [], []) := by
    rw [siblingAuditPdf, claimedSiblings_bound hpdf hbinds]
    simp only [Except.mapError, bind, Except.bind, hcontent]
    rfl
  have hnone : ∀ slot, slot ≠ .pdf →
      claimedSiblings folder args.name slot pack {} = .ok ⟨[], [], []⟩ :=
    fun slot hslot => claimedSiblings_absent (hothers slot hslot)
  have hoptions : ({ TrustRoots.options {} with
      requireAnchored := !args.allowUnanchored
      requireLive := !args.allowSynthetic } : VerifyOptions) =
      { requireAnchored := !args.allowUnanchored, requireLive := !args.allowSynthetic } := rfl
  unfold verifyEvidence
  rw [hroots]
  simp only [bind, Except.bind, hread, hoptions, hverified, Except.mapError]
  rw [hnone .run nofun, hnone .inToto nofun, hnone .dsse nofun]
  simp only [sidecarLines, List.zipIdx_nil, List.mapM_nil, pure, Except.pure, bind, Except.bind,
    List.all_nil, hpassed, Bool.and_self, List.append_nil]
  rfl

end Bound

section Sample

attribute [local instance] Hashlib.real Unicode.ascii Decimals.ascii JsonLimits.default
  FloatText.halves Rfc3161.missing Cryptography.missing Zipfile.encrypted

/-- Sidecars that are read as files, where nothing escapes and there is no run record. -/
@[reducible] def Sidecars.ofFiles : Sidecars where
  inToto content pack := ((refusedFile (inTotoFile content pack)).toOption.getD (.error ""))
  dsse content pack := ((refusedFile (dsseFile content pack)).toOption.getD (.error ""))
  runRecord _ _ := false

/-- A `pydantic` that validates no manifest. -/
@[reducible] def PydanticManifest.refusing : PydanticManifest := ⟨fun _ => .error "", fun _ => ""⟩

attribute [local instance] Sidecars.ofFiles PydanticManifest.refusing

/-- The arguments that verify a pack of this name, with the flags that a local token needs. -/
def localArguments (name : String) : VerifyArguments :=
  { pack := name, name, allowUnanchored := true, allowSynthetic := true }

/-- A pack with its PDF beside it, and a run record that is not JSON. -/
def sampleFolder (name : String) (content : Bytes) (run : Option Entry) : Folder := fun entry =>
  if entry = name then some (.file content)
  else if entry = "audit-pack.pdf" then some (.file [7])
  else if entry = "run.json" then run
  else none

/-- A renamed pack that is accepted with its PDF beside it, and a pack with a declared name whose exit
status does not depend on a run record. -/
theorem verify_answers_for_renamed : ∃ (_ : Pydantic) (content : Bytes) (pack : EvidencePack),
    exitStatus (verify (sampleFolder "renamed.json" content none) (localArguments "renamed.json")) =
      0 ∧
    (∀ slot ∈ judgedSlots, Answered (sampleFolder "renamed.json" content none) "renamed.json" slot
      pack {}) ∧
    exitStatus (verify (sampleFolder "evidence.json" content none)
        (localArguments "evidence.json")) =
      exitStatus (verify (sampleFolder "evidence.json" content (some (.file [])))
        (localArguments "evidence.json")) := by
  obtain ⟨pack, text, htext, hsample, hverified⟩ := samplePack_passes
  obtain ⟨result, hverified, hpassed⟩ := hverified (Or.inl rfl)
  have hfloats : ∀ q ∈ pack.runResult.floats, FloatText.isFloat q := by
    rw [hsample.run]
    exact sampleRun_floats
  have hw := EvidencePack.dump_wellFormed hfloats
  obtain ⟨content, hcontent⟩ : ∃ content, content = utf8 (textOf text) := ⟨_, rfl⟩
  have hraw : decodeReplace content = textOf text := by
    rw [hcontent]
    exact decodeReplace_encode _
  let pydantic : Pydantic :=
    ⟨fun run => ((dumps compact run.dump).toOption.getD []), fun _ => content,
      fun data => if data = content then some pack.reloaded else none⟩
  have hread : ∀ {folder : Folder} {args : VerifyArguments}, verifyPackFile folder content args none =
      verifyEvidence folder args none pack.reloaded := by
    intro folder args
    have hloads : loads (units (textOf text)) = .ok pack.dump.sorted := by
      rw [units_textOf (isAscii_dumps rfl hw htext)]
      exact loads_dumps hw htext
    have hstamps : checkSchemaStamps (.ok pack.dump.sorted) = .ok none :=
      stamps_sorted hfloats (by rw [hsample.version]) (by rw [hsample.run]; rfl)
    have hvalid : Pydantic.validatePack content = some pack.reloaded := if_pos rfl
    unfold verifyPackFile
    dsimp only
    rw [hraw, hloads, ← hcontent, hvalid]
    simp only [Except.mapError, hstamps, bind, Except.bind]
  have hzero : exitStatus (verify (sampleFolder "renamed.json" content none)
      (localArguments "renamed.json")) = 0 := by
    have hverify : verify (sampleFolder "renamed.json" content none) (localArguments "renamed.json") =
        verifyPackFile (sampleFolder "renamed.json" content none) content
          (localArguments "renamed.json") none := rfl
    rw [hverify, hread]
    refine verifyEvidence_bound rfl rfl (fun slot hslot => ?_) rfl hverified hpassed
    cases slot with
    | pdf => exact absurd rfl hslot
    | _ => rfl
  have hanswers := @verify_answers_for_siblings _ _ _ _ _ _ _ pydantic _ _ _
  obtain ⟨found, other, roots, hfound, hother, hroots, hslots⟩ :=
    (hanswers (sampleFolder "renamed.json" content none) (localArguments "renamed.json")).2
      (by decide +kernel) (by decide +kernel) hzero
  refine ⟨pydantic, content, other, hzero, Except.ok.inj hroots ▸ hslots, ?_⟩
  exact (hanswers (sampleFolder "evidence.json" content none) (localArguments "evidence.json")).1
    List.mem_cons_self rfl (by simp [judgedSlots, sampleFolder])

end Sample

end Sectum
