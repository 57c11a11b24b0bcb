import Sectum.Core.VerifyCommand
import Sectum.Evidence.BundleReturns
import Sectum.Lib.JsonFile

/-! A sidecar that lies beside a pack and the same sidecar in a bundle: where `verify` gives one
verdict on both, of `sectum_ai.cli.app` and `sectum_ai.evidence.bundle`. -/

namespace Sectum

open Py JsonText

section Model

/-- What the `try` of `_binds_in_toto` and `_binds_dsse` makes of a verification. -/
def askedFile (verification : Except EvidenceRaised Unit) : Except Exn Bool :=
  match verification with
  | .ok () => .ok true
  | .error (.evidenceError _) => .ok false
  | .error (.library e) => if e ∈ [.osError, .valueError] then .ok false else .error e

variable [JsonLimits] [FloatText] [Unicode] [Hashlib]

def bindsInToto (content : Bytes) (pack : EvidencePack) : Except Exn Bool :=
  askedFile (do
    let statement ← unguarded (loadFile content)
    verifyInTotoStatement statement pack)

def bindsDsse (content : Bytes) (pack : EvidencePack) : Except Exn Bool :=
  askedFile (do
    let envelope ← unguarded (loadFile content)
    verifyDsseEnvelope envelope pack)

/-- A statement beside a pack: it is asked whether it binds the pack, and the loop gives it a line. -/
def judgedInToto (content : Bytes) (pack : EvidencePack) : Except Exn (Except String String) := do
  let _ ← bindsInToto content pack
  refusedFile (inTotoFile content pack)

def judgedDsse (content : Bytes) (pack : EvidencePack) : Except Exn (Except String String) := do
  let _ ← bindsDsse content pack
  refusedFile (dsseFile content pack)

end Model

/-- One verdict on both paths, and no crash on either. -/
def SameVerdict (judged : Except Exn (Except String String)) (checked : Except Exn Check) : Prop :=
  ∃ line check, judged = .ok line ∧ checked = .ok check ∧ line.isOk = check.ok

section Judged

variable {verification : Except EvidenceRaised Unit} {body : Except EvidenceRaised String}

/-- A sidecar gets a line unless its verification raises what the `try` of the loop does not name. -/
theorem judged_returns (hbody : body.map (fun _ => ()) = verification) :
    (∃ line, (askedFile verification >>= fun _ => refusedFile body) = .ok line) ↔
      LetsThrough [.valueError] verification := by
  subst hbody
  cases body with
  | ok detail => exact iff_of_true ⟨_, rfl⟩ (letsThrough_ok ())
  | error e =>
    cases e with
    | evidenceError message => exact iff_of_true ⟨_, rfl⟩ (letsThrough_refuse message)
    | library e =>
      have herror : ((.error (.library e) : Except EvidenceRaised String).map fun _ => ()) =
          .error (.library e) := rfl
      rw [herror, letsThrough_library]
      cases e <;> simp [askedFile, refusedFile, bind, Except.bind]

theorem judged_ok (hbody : body.map (fun _ => ()) = verification) {line : Except String String}
    (hline : (askedFile verification >>= fun _ => refusedFile body) = .ok line) :
    line.isOk = true ↔ verification = .ok () := by
  subst hbody
  obtain ⟨_, -, hrefused⟩ := bind_eq_ok.mp hline
  cases body with
  | ok detail =>
    rw [← Except.ok.inj hrefused]
    exact iff_of_true rfl rfl
  | error e =>
    refine iff_of_false (fun hok => ?_) nofun
    cases e with
    | evidenceError message =>
      rw [← Except.ok.inj hrefused] at hok
      cases hok
    | library e =>
      unfold refusedFile at hrefused
      dsimp only at hrefused
      split at hrefused
      · rw [← Except.ok.inj hrefused] at hok
        cases hok
      · cases hrefused

end Judged

section Agreement

variable [JsonLimits] [FloatText] {content : Bytes} {bind : Json → Except EvidenceRaised Unit}

/-- On bytes that are not plain the text of the file is no document. -/
theorem loadFile_foreign (h : ¬Plain content) (value : Json) : loadFile content ≠ .ok value := by
  unfold loadFile
  cases htext : readText content with
  | none => nofun
  | some text =>
    have hmarked : detectEncoding content ≠ (.utf8, 0) := by
      intro hplain
      refine h ⟨?_, hplain⟩
      rw [htext]
      nofun
    intro hload
    exact loads_marked htext hmarked value (mapError_eq_ok.mp hload)

theorem loadFile_plain (h : Plain content) : loadFile content = loadsOf content := by
  obtain ⟨hread, hplain⟩ := h
  unfold loadFile
  cases htext : readText content with
  | none => exact absurd htext hread
  | some text => exact (loadsOf_plain htext hplain).symm

theorem raisesOnly_loadFile :
    RaisesOnly [.valueError] (loadFile content) ↔ loadFile content ≠ .error .recursionError := by
  unfold loadFile
  cases readText content with
  | none => simp
  | some text =>
    dsimp only
    generalize loads (units text) = read
    rcases read with e | value
    · cases e <;> simp [LoadsError.exn, Except.mapError]
    · simp [Except.mapError]

/-- What both paths need of a sidecar: neither reading nests too deeply; a document that both read is
an object; one that only the bundle reads does not bind the pack; and `settles`. -/
structure SidecarHandled (content : Bytes) (settles binds : Json → Prop) : Prop where
  text : loadFile content ≠ .error .recursionError
  bytes : loadsOf content ≠ .error .recursionError
  object : Plain content → ∀ obj, loadsOf content = .ok obj → ∃ entries, obj = .obj entries
  foreign : ¬Plain content → ∀ obj, loadsOf content = .ok obj → ¬binds obj
  settled : ∀ obj, loadsOf content = .ok obj → settles obj

/-- A verification that raises `AttributeError` on what is not an object, and `RecursionError` alone
on an object that is not settled. -/
structure Verifies (bind : Json → Except EvidenceRaised Unit) (settles binds : Json → Prop) :
    Prop where
  binds : ∀ obj, bind obj = .ok () ↔ binds obj
  notObject : ∀ obj, (∀ entries, obj ≠ .obj entries) →
    bind obj = .error (.library .attributeError) ∧ settles obj
  object : ∀ {caught : List Exn}, .valueError ∈ caught → .recursionError ∉ caught →
    ∀ entries, loadsOf content = .ok (.obj entries) →
      (LetsThrough caught (bind (.obj entries)) ↔ settles (.obj entries))

theorem letsThrough_loadFile :
    LetsThrough [.valueError] (unguarded (loadFile content) >>= bind) ↔
      loadFile content ≠ .error .recursionError ∧ ∀ obj, loadFile content = .ok obj →
        LetsThrough [.valueError] (bind obj) := by
  rw [letsThrough_bind, letsThrough_unguarded, raisesOnly_loadFile]
  refine and_congr_right fun _ => forall_congr' fun obj => ?_
  rw [unguarded, guarded_eq_ok]

theorem loadFile_bind_ok : (unguarded (loadFile content) >>= bind) = .ok () ↔
    ∃ obj, loadFile content = .ok obj ∧ bind obj = .ok () := by
  rw [bind_eq_ok]
  simp only [unguarded, guarded_eq_ok]

theorem sameVerdict_cases {name : Units} {detail : Json → String}
    {body : Except EvidenceRaised String}
    (hbody : body.map (fun _ => ()) = (unguarded (loadFile content) >>= bind)) :
    SameVerdict (askedFile (unguarded (loadFile content) >>= bind) >>= fun _ => refusedFile body)
        (checkSidecar name content bind detail) ↔
      LetsThrough [.valueError] (unguarded (loadFile content) >>= bind) ∧
        (∃ check, checkSidecar name content bind detail = .ok check) ∧
          ((∃ obj, loadFile content = .ok obj ∧ bind obj = .ok ()) ↔
            ∃ obj, loadsOf content = .ok obj ∧ bind obj = .ok ()) := by
  have hpasses := @checkSidecar_passes _ _ name content bind detail
  constructor
  · rintro ⟨line, check, hline, hcheck, hsame⟩
    refine ⟨(judged_returns hbody).mp ⟨line, hline⟩, ⟨check, hcheck⟩, ?_⟩
    rw [← loadFile_bind_ok, ← judged_ok hbody hline, ← hpasses, hcheck, hsame]
    simp
  · rintro ⟨hreturns, ⟨check, hcheck⟩, hsame⟩
    obtain ⟨line, hline⟩ := (judged_returns hbody).mpr hreturns
    have hchecked : (∃ other, checkSidecar name content bind detail = .ok other ∧
        other.ok = true) ↔ check.ok = true := by
      rw [hcheck]
      simp
    rw [← loadFile_bind_ok, ← judged_ok hbody hline, ← hpasses, hchecked] at hsame
    exact ⟨line, check, hline, hcheck, Bool.eq_iff_iff.mpr hsame⟩

/-- The paths agree on a sidecar exactly where it is handled. -/
theorem sameVerdict_iff {settles binds : Json → Prop} (h : @Verifies _ _ content bind settles binds)
    {name : Units} {detail : Json → String} {body : Except EvidenceRaised String}
    (hbody : body.map (fun _ => ()) = (unguarded (loadFile content) >>= bind)) :
    SameVerdict (askedFile (unguarded (loadFile content) >>= bind) >>= fun _ => refusedFile body)
        (checkSidecar name content bind detail) ↔
      SidecarHandled content settles binds := by
  rw [sameVerdict_cases hbody, letsThrough_loadFile, checkSidecar_returns]
  constructor
  · rintro ⟨⟨htext, hfile⟩, ⟨hbytes, hbundle⟩, hsame⟩
    refine ⟨htext, hbytes, fun hplain obj hobj => ?_, fun hforeign obj hobj hbinds => ?_,
      fun obj hobj => ?_⟩
    · by_contra hnot
      have hraises := (h.notObject obj (not_exists.mp hnot)).1
      rw [← loadFile_plain hplain] at hobj
      exact absurd (hfile obj hobj _ hraises) (by decide)
    · obtain ⟨obj', hobj', -⟩ := hsame.mpr ⟨obj, hobj, (h.binds obj).mpr hbinds⟩
      exact loadFile_foreign hforeign obj' hobj'
    · by_cases hobject : ∃ entries, obj = .obj entries
      · obtain ⟨entries, rfl⟩ := hobject
        exact (h.object (by decide) (by decide) entries hobj).mp (hbundle _ hobj)
      · exact (h.notObject obj (not_exists.mp hobject)).2
  · intro hhandled
    refine ⟨⟨hhandled.text, fun obj hobj => ?_⟩, ⟨hhandled.bytes, fun obj hobj => ?_⟩, ?_⟩
    · by_cases hplain : Plain content
      · rw [loadFile_plain hplain] at hobj
        obtain ⟨entries, rfl⟩ := hhandled.object hplain obj hobj
        exact (h.object (by decide) (by decide) entries hobj).mpr (hhandled.settled _ hobj)
      · exact absurd hobj (loadFile_foreign hplain obj)
    · by_cases hobject : ∃ entries, obj = .obj entries
      · obtain ⟨entries, rfl⟩ := hobject
        exact (h.object (by decide) (by decide) entries hobj).mpr (hhandled.settled _ hobj)
      · rw [(h.notObject obj (not_exists.mp hobject)).1, letsThrough_library]
        decide
    · by_cases hplain : Plain content
      · rw [loadFile_plain hplain]
      · refine iff_of_false ?_ ?_
        · rintro ⟨obj, hobj, -⟩
          exact loadFile_foreign hplain obj hobj
        · rintro ⟨obj, hobj, hbind⟩
          exact hhandled.foreign hplain obj hobj ((h.binds obj).mp hbind)

end Agreement

section Settled

variable [JsonLimits] [FloatText] [Unicode] [Hashlib]

/-- A typed statement whose subject is the run of the pack is compared with what the pack expects,
and neither the digest of the run nor that predicate nests too deeply. -/
def Settled (pack : EvidencePack) (statement : Json) : Prop :=
  Typed statement → runDigest pack.runResult ≠ .error .recursionError ∧
    ∀ digest, runDigest pack.runResult = .ok digest →
      subjectBinds ((statement.get "subject").getD (.arr [])) pack.runResult.runId digest = true →
        expectedPredicate pack ≠ .error .recursionError

/-- A statement that binds the pack: of the types, of the run and its digest, and with the predicate
that the pack expects. -/
structure BindsPack (pack : EvidencePack) (statement : Json) : Prop where
  object : ∃ entries, statement = .obj entries
  type : statement.get "_type" = some (.text statementType)
  predicateType : statement.get "predicateType" = some (.text predicateType)
  digest : ∃ digest, runDigest pack.runResult = .ok digest ∧
    subjectDigest statement = some (.text digest)
  subject : ∃ subject, statement.get "subject" = some (.arr [subject]) ∧
    subject.get "name" = some (.text pack.runResult.runId)
  predicate : ∃ timestamp text, isExternalTimestampAnchor pack.tsaToken = .ok timestamp ∧
    dumps compact ((statement.get "predicate").getD .null) = .ok text ∧
    dumps compact (inTotoPredicate pack timestamp) = .ok text

theorem verifyInTotoStatement_binds {pack : EvidencePack} {statement : Json} :
    verifyInTotoStatement statement pack = .ok () ↔ BindsPack pack statement := by
  rw [verifyInTotoStatement_eq_ok]
  exact ⟨fun ⟨hobject, htype, hpredicateType, hdigest, hsubject, hpredicate⟩ =>
    ⟨hobject, htype, hpredicateType, hdigest, hsubject, hpredicate⟩,
    fun ⟨hobject, htype, hpredicateType, hdigest, hsubject, hpredicate⟩ =>
      ⟨hobject, htype, hpredicateType, hdigest, hsubject, hpredicate⟩⟩

omit [JsonLimits] [FloatText] [Unicode] [Hashlib] in
theorem raisesOnly_iff_shallow {α : Type} {caught : List Exn} (hvalue : .valueError ∈ caught)
    (hdeep : .recursionError ∉ caught) {result : Except Exn α}
    (h : RaisesOnly [.valueError, .recursionError] result) :
    RaisesOnly caught result ↔ result ≠ .error .recursionError := by
  constructor
  · intro honly heq
    exact hdeep (honly _ heq)
  · intro hne e he
    have hmem := h e he
    simp only [List.mem_cons, List.not_mem_nil, or_false] at hmem
    rcases hmem with rfl | rfl
    · exact hvalue
    · exact absurd he hne

omit [Unicode] in
theorem raisesOnly_runDigest (run : RunResult) :
    RaisesOnly [.valueError, .recursionError] (runDigest run) := by
  unfold runDigest canonicalHash toCanonicalJson
  refine raisesOnly_map.mpr (raisesOnly_bind.mpr ⟨raisesOnly_dumps _, fun text _ => ?_⟩)
  exact raisesOnly_orRaise (by decide) _

omit [Hashlib] in
theorem raisesOnly_isExternalTimestampAnchor (token : Option String) :
    RaisesOnly [.valueError, .recursionError] (isExternalTimestampAnchor token) := by
  unfold isExternalTimestampAnchor
  split
  · exact raisesOnly_ok _ _
  · split
    · exact raisesOnly_ok _ _
    · exact raisesOnly_error.mpr (by decide)
    · exact raisesOnly_ok _ _

theorem raisesOnly_expectedPredicate (pack : EvidencePack) :
    RaisesOnly [.valueError, .recursionError] (expectedPredicate pack) := by
  unfold expectedPredicate
  refine raisesOnly_bind.mpr ⟨raisesOnly_bind.mpr ⟨?_, fun statement hstatement => ?_⟩,
    fun expected _ => raisesOnly_dumps _⟩
  · exact raisesOnly_bind.mpr ⟨raisesOnly_runDigest _, fun _ _ => raisesOnly_bind.mpr
      ⟨raisesOnly_isExternalTimestampAnchor _, fun _ _ => raisesOnly_ok _ _⟩⟩
  · obtain ⟨_, timestamp, -, -, rfl⟩ := toInTotoStatement_eq_ok.mp hstatement
    rw [inTotoStatement, Json.item_object]
    exact raisesOnly_ok _ _

/-- An object that was read raises what is caught where it is settled. -/
theorem letsThrough_settled {caught : List Exn} (hvalue : .valueError ∈ caught)
    (hdeep : .recursionError ∉ caught) (pack : EvidencePack) {content : Bytes}
    {entries : List (Units × Json)} (hread : loadsOf content = .ok (.obj entries)) :
    LetsThrough caught (verifyInTotoStatement (.obj entries) pack) ↔
      Settled pack (.obj entries) := by
  rw [letsThrough_verifyInTotoStatement (refusal_of_loadsOf rfl hread)]
  unfold Settled
  rw [raisesOnly_iff_shallow hvalue hdeep (raisesOnly_runDigest pack.runResult),
    raisesOnly_iff_shallow hvalue hdeep (raisesOnly_expectedPredicate pack)]

theorem verifies_inToto (content : Bytes) (pack : EvidencePack) :
    @Verifies _ _ content (fun statement => verifyInTotoStatement statement pack) (Settled pack)
      (BindsPack pack) := by
  refine ⟨fun statement => verifyInTotoStatement_binds, fun statement hobject => ?_,
    fun hvalue hdeep entries hread => letsThrough_settled hvalue hdeep pack hread⟩
  refine ⟨verifyInTotoStatement_notObject hobject pack, fun htyped => ?_⟩
  cases statement with
  | obj entries => exact absurd rfl (hobject entries)
  | _ => cases htyped.1

/-- The payload of an envelope is no more nested than the limits, and the statement in it settled. -/
def EnvelopeSettled (pack : EvidencePack) (envelope : Json) : Prop :=
  ∀ payload, Carries envelope payload → loadsOf payload ≠ .error .recursionError ∧
    ∀ fields, loadsOf payload = .ok (.obj fields) → Settled pack (.obj fields)

/-- An envelope that binds the pack carries a statement that does. -/
def EnvelopeBinds (pack : EvidencePack) (envelope : Json) : Prop :=
  ∃ payload statement, Carries envelope payload ∧ loadsOf payload = .ok statement ∧
    BindsPack pack statement

omit [JsonLimits] [FloatText] [Hashlib] [Unicode] in
theorem payloadStatement_eq_ok {read : Except Exn Json} {statement : Json} :
    payloadStatement read = .ok statement ↔
      read = .ok statement ∧ ∃ fields, statement = .obj fields := by
  unfold payloadStatement
  rw [bind_eq_ok]
  constructor
  · rintro ⟨value, hvalue, h⟩
    have hread := guarded_eq_ok.mp hvalue
    cases value with
    | obj fields =>
      obtain rfl := Except.ok.inj h
      exact ⟨hread, fields, rfl⟩
    | _ => cases h
  · rintro ⟨hread, fields, rfl⟩
    exact ⟨.obj fields, guarded_eq_ok.mpr hread, rfl⟩

omit [Hashlib] in
theorem envelopeStatement_binds {envelope statement : Json} :
    envelopeStatement envelope = .ok statement ↔ ∃ payload, Carries envelope payload ∧
      loadsOf payload = .ok statement ∧ ∃ fields, statement = .obj fields := by
  by_cases hobject : ∃ entries, envelope = .obj entries
  · obtain ⟨entries, rfl⟩ := hobject
    obtain ⟨hnone, message, hrefused⟩ | ⟨payload, hcarries, hread⟩ := envelopeStatement_cases entries
    · rw [hrefused]
      refine iff_of_false nofun ?_
      rintro ⟨payload, hcarries, -⟩
      exact hnone payload hcarries
    · rw [hread, payloadStatement_eq_ok]
      constructor
      · exact fun h => ⟨payload, hcarries, h⟩
      · rintro ⟨payload', hcarries', h⟩
        rwa [hcarries.unique hcarries']
  · refine iff_of_false (fun h => ?_) ?_
    · cases envelope with
      | obj entries => exact hobject ⟨entries, rfl⟩
      | _ => cases h
    · rintro ⟨payload, hcarries, -⟩
      cases envelope with
      | obj entries => exact hobject ⟨entries, rfl⟩
      | _ => cases hcarries.1

theorem verifyDsseEnvelope_binds {pack : EvidencePack} {envelope : Json} :
    verifyDsseEnvelope envelope pack = .ok () ↔ EnvelopeBinds pack envelope := by
  unfold verifyDsseEnvelope
  rw [bind_eq_ok]
  simp only [envelopeStatement_binds, verifyInTotoStatement_binds]
  constructor
  · rintro ⟨statement, ⟨payload, hcarries, hread, -⟩, hbinds⟩
    exact ⟨payload, statement, hcarries, hread, hbinds⟩
  · rintro ⟨payload, statement, hcarries, hread, hbinds⟩
    exact ⟨statement, ⟨payload, hcarries, hread, hbinds.object⟩, hbinds⟩

theorem verifies_dsse (content : Bytes) (pack : EvidencePack) :
    @Verifies _ _ content (fun envelope => verifyDsseEnvelope envelope pack) (EnvelopeSettled pack)
      (EnvelopeBinds pack) := by
  refine ⟨fun envelope => verifyDsseEnvelope_binds, fun envelope hobject => ?_,
    fun {caught} hvalue hdeep entries hread => ?_⟩
  · refine ⟨verifyDsseEnvelope_notObject hobject pack, fun payload hcarries => ?_⟩
    cases envelope with
    | obj entries => exact absurd rfl (hobject entries)
    | _ => cases hcarries.1
  · rw [letsThrough_verifyDsseEnvelope]
    unfold EnvelopeSettled
    refine forall₂_congr fun payload _ => ?_
    have hpayload : RaisesOnly (.valueError :: caught) (loadsOf payload) ↔
        loadsOf payload ≠ .error .recursionError :=
      raisesOnly_loadsOf List.mem_cons_self (by simp [hdeep])
    rw [hpayload]
    exact and_congr_right fun _ => forall₂_congr fun fields hfields =>
      letsThrough_settled hvalue hdeep pack hfields

/-- One sidecar gets one verdict on both paths, and crashes neither, exactly where it is handled. -/
theorem sidecar_sameVerdict_iff (name : Units) (content : Bytes) (pack : EvidencePack) :
    (SameVerdict (judgedInToto content pack)
        (checkSidecar name content (fun statement => verifyInTotoStatement statement pack)
          sidecarDetail) ↔
      SidecarHandled content (Settled pack) (BindsPack pack)) ∧
    (SameVerdict (judgedDsse content pack)
        (checkSidecar name content (fun envelope => verifyDsseEnvelope envelope pack)
          dsseBindingDetail) ↔
      SidecarHandled content (EnvelopeSettled pack) (EnvelopeBinds pack)) := by
  constructor
  · refine sameVerdict_iff (verifies_inToto content pack) ?_
    unfold inTotoFile
    rcases unguarded (loadFile content) with e | statement
    · rfl
    · cases hverify : verifyInTotoStatement statement pack <;>
        simp [Bind.bind, Except.bind, Except.map, hverify, pure, Except.pure]
  · refine sameVerdict_iff (verifies_dsse content pack) ?_
    unfold dsseFile
    rcases unguarded (loadFile content) with e | envelope
    · rfl
    · cases hverify : verifyDsseEnvelope envelope pack <;>
        simp [Bind.bind, Except.bind, Except.map, hverify, pure, Except.pure]

end Settled

section Sample

attribute [local instance] Hashlib.real Unicode.ascii JsonLimits.default FloatText.halves

/-- `[]`: its `AttributeError` is caught in a bundle, and escapes beside a pack. -/
theorem listSidecar_escapes : judgedInToto [0x5b, 0x5d] (packAt (some 0)) = .error .attributeError ∧
    ¬SameVerdict (judgedInToto [0x5b, 0x5d] (packAt (some 0)))
      (checkSidecar (units "in-toto-attestation:attestation.intoto.json") [0x5b, 0x5d]
        (fun statement => verifyInTotoStatement statement (packAt (some 0))) sidecarDetail) := by
  have hread : loadsOf [0x5b, 0x5d] = .ok (.arr []) := by
    have hloads : loadsBytes [0x5b, 0x5d] = some (loads [0x5b, 0x5d]) :=
      @loadsBytes_ascii _ _ [0x5b, 0x5d] (by decide)
    rw [loadsOf, hloads]
    rfl
  have hplain : Plain [0x5b, 0x5d] := ⟨by decide +kernel, rfl⟩
  have hload : loadFile [0x5b, 0x5d] = .ok (.arr []) := (loadFile_plain hplain).trans hread
  have hraises : judgedInToto [0x5b, 0x5d] (packAt (some 0)) = .error .attributeError := by
    rw [judgedInToto, bindsInToto, hload]
    rfl
  refine ⟨hraises, ?_⟩
  rintro ⟨line, check, hline, -⟩
  rw [hraises] at hline
  cases hline

end Sample

end Sectum
