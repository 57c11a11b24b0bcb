import Sectum.Evidence.ChainSound
import Sectum.Evidence.IntotoSound
import Sectum.Evidence.RekorRefuses
import Sectum.Lib.JsonRead

/-! Which exceptions the verification of a sidecar lets through, beside `EvidenceError`: of a document
that was read, only those that its pack raises. -/

namespace Sectum

open Py JsonText

/-- The exceptions of a library that a verification lets through are among `caught`. -/
def LetsThrough {α : Type} (caught : List Exn) (result : Except EvidenceRaised α) : Prop :=
  ∀ e, result = .error (.library e) → e ∈ caught

section LetsThrough

variable {α β : Type} {caught : List Exn}

@[simp] theorem letsThrough_ok (a : α) : LetsThrough caught (.ok a) := nofun

@[simp] theorem letsThrough_refuse (message : String) :
    LetsThrough caught (refuse message : Except _ α) := nofun

theorem letsThrough_library {e : Exn} :
    LetsThrough caught (.error (.library e) : Except EvidenceRaised α) ↔ e ∈ caught := by
  simp [LetsThrough]

theorem letsThrough_guarded {guards : List Exn} {message : String} {result : Except Exn α} :
    LetsThrough caught (guarded guards message result) ↔
      ∀ e, result = .error e → e ∉ guards → e ∈ caught := by
  cases result with
  | ok a => simp [guarded]
  | error e =>
    rw [guarded]
    split
    · rename_i hguard
      simp [hguard]
    · rename_i hguard
      simp [letsThrough_library, hguard]

theorem letsThrough_unguarded {result : Except Exn α} :
    LetsThrough caught (unguarded result) ↔ RaisesOnly caught result := by
  unfold unguarded RaisesOnly
  rw [letsThrough_guarded]
  exact forall₂_congr fun e he => by simp

theorem letsThrough_bind {result : Except EvidenceRaised α} {next : α → Except EvidenceRaised β} :
    LetsThrough caught (result >>= next) ↔
      LetsThrough caught result ∧ ∀ a, result = .ok a → LetsThrough caught (next a) := by
  cases result with
  | ok a => simp [bind, Except.bind]
  | error e =>
    have hbind : ((.error e : Except EvidenceRaised α) >>= next) = .error e := rfl
    rw [hbind]
    simp [LetsThrough]

theorem letsThrough_ite {p : Prop} [Decidable p] {message : String}
    {result : Except EvidenceRaised α} :
    LetsThrough caught (if p then refuse message else result) ↔ (¬p → LetsThrough caught result) := by
  split <;> simp_all

end LetsThrough

section Statement

variable [Unicode] [JsonLimits] [FloatText] [Hashlib]

/-- The predicate that a pack expects of a statement, as it is compared. -/
def expectedPredicate (pack : EvidencePack) : Except Exn Units := do
  let expected ← (toInTotoStatement pack).bind fun expected => expected.item "predicate"
  dumps compact expected

/-- A statement of the types that `verify_in_toto_statement` reads on with. -/
def Typed (statement : Json) : Prop :=
  statement.get "_type" = some (.text statementType) ∧
    statement.get "predicateType" = some (.text predicateType)

/-- The verification of a document that is not an object raises `AttributeError`. -/
theorem verifyInTotoStatement_notObject {statement : Json} (h : ∀ entries, statement ≠ .obj entries)
    (pack : EvidencePack) :
    verifyInTotoStatement statement pack = .error (.library .attributeError) := by
  cases statement with
  | obj entries => exact absurd rfl (h entries)
  | _ => rfl

/-- What an object lets through is what its pack raises, once it is typed and its subject matches. -/
theorem letsThrough_verifyInTotoStatement {caught : List Exn} {entries : List (Units × Json)}
    (hwritten : refusal compact JsonLimits.depth (.obj entries) = none) (pack : EvidencePack) :
    LetsThrough caught (verifyInTotoStatement (.obj entries) pack) ↔
      (Typed (.obj entries) → RaisesOnly caught (runDigest pack.runResult) ∧
        ∀ digest, runDigest pack.runResult = .ok digest →
          subjectBinds (((Json.obj entries).get "subject").getD (.arr [])) pack.runResult.runId
            digest = true → RaisesOnly caught (expectedPredicate pack)) := by
  have hdict : ∀ key, (Json.obj entries).dictGet key = .ok (((Json.obj entries).get key).getD .null) :=
    fun _ => rfl
  obtain ⟨recorded, hrecorded⟩ : ∃ recorded,
      dumps compact (((Json.obj entries).get "predicate").getD .null) = .ok recorded := by
    apply dumps_ok_iff.mpr
    cases hget : (Json.obj entries).get "predicate" with
    | none => rfl
    | some field => exact refusal_get hget hwritten
  have hguarded : ∀ {α : Type} (a : α), guarded [] "" (.ok a) = .ok a := fun _ => rfl
  have hlibrary : ∀ {α : Type} (result : Except Exn α),
      LetsThrough caught (guarded [] "" result) ↔ RaisesOnly caught result :=
    fun _ => letsThrough_unguarded
  unfold verifyInTotoStatement expectedPredicate unguarded
  simp only [letsThrough_bind, letsThrough_ite, hlibrary, hdict, hguarded, letsThrough_ok, hrecorded,
    guarded_eq_ok, raisesOnly_bind, raisesOnly_ok, Except.ok.injEq, forall_eq', equalsText_getD,
    Bool.not_eq_true', Bool.not_eq_false, true_and, implies_true, and_true]
  exact and_imp.symm

end Statement

section Envelope

variable [Unicode] [JsonLimits] [FloatText]

/-- An envelope of the type that `envelope_statement` decodes, and the payload in it. -/
def Carries (envelope : Json) (payload : Bytes) : Prop :=
  envelope.get "payloadType" = some (.text payloadType) ∧
    ∃ raw, envelope.get "payload" = some (.str raw) ∧ (Json.str raw).b64decode true = .ok payload

theorem verifyDsseEnvelope_notObject [Hashlib] {envelope : Json}
    (h : ∀ entries, envelope ≠ .obj entries) (pack : EvidencePack) :
    verifyDsseEnvelope envelope pack = .error (.library .attributeError) := by
  cases envelope with
  | obj entries => exact absurd rfl (h entries)
  | _ => rfl

/-- What comes of the JSON of a payload. -/
def payloadStatement (read : Except Exn Json) : Except EvidenceRaised Json := do
  let statement ← guarded [.valueError] "DSSE envelope payload is not valid JSON" read
  match statement with
  | .obj fields => .ok (.obj fields)
  | _ => refuse "DSSE envelope payload is not a JSON object"

theorem envelopeStatement_eq (entries : List (Units × Json)) :
    envelopeStatement (.obj entries) =
      if !(((Json.obj entries).get "payloadType").getD .null).equalsText (units payloadType) then
        refuse ("not an in-toto DSSE envelope: " ++
          (((Json.obj entries).get "payloadType").getD .null).repr)
      else
        match (Json.obj entries).get "payload" with
        | some (.str raw) => payloadStatement ((Json.str raw).b64decode true >>= loadsOf)
        | _ => refuse "DSSE envelope has no base64 payload" := rfl

/-- An envelope is refused, unless it carries a payload: then the payload is read. -/
theorem envelopeStatement_cases (entries : List (Units × Json)) :
    ((∀ payload, ¬Carries (.obj entries) payload) ∧
      ∃ message, envelopeStatement (.obj entries) = refuse message) ∨
    ∃ payload, Carries (.obj entries) payload ∧
      envelopeStatement (.obj entries) = payloadStatement (loadsOf payload) := by
  rw [envelopeStatement_eq]
  split
  · rename_i hfalse
    refine Or.inl ⟨fun payload hcarries => ?_, _, rfl⟩
    rw [equalsText_getD.mpr hcarries.1] at hfalse
    cases hfalse
  · rename_i htrue
    have htype := equalsText_getD.mp (by simpa using htrue)
    split
    · rename_i raw hraw
      cases hdecode : (Json.str raw).b64decode true with
      | ok payload => exact Or.inr ⟨payload, ⟨htype, raw, hraw, hdecode⟩, rfl⟩
      | error e =>
        refine Or.inl ⟨fun payload hcarries => ?_, "DSSE envelope payload is not valid JSON", ?_⟩
        · obtain ⟨-, raw', hraw', hdecode'⟩ := hcarries
          obtain rfl : raw = raw' := Json.str.inj (Option.some.inj (hraw.symm.trans hraw'))
          cases hdecode.symm.trans hdecode'
        · have hvalue : e ∈ [Exn.valueError] :=
            (Json.raisesOnly_valueError_b64decode true _).mpr ⟨raw, rfl⟩ e hdecode
          rw [List.mem_singleton.mp hvalue]
          rfl
    · rename_i hother
      refine Or.inl ⟨fun payload hcarries => ?_, _, rfl⟩
      obtain ⟨-, raw, hraw, -⟩ := hcarries
      exact hother raw hraw

omit [Unicode] [JsonLimits] [FloatText] in
theorem Carries.unique {envelope : Json} {payload payload' : Bytes} (h : Carries envelope payload)
    (h' : Carries envelope payload') : payload = payload' := by
  obtain ⟨-, raw, hraw, hdecode⟩ := h
  obtain ⟨-, raw', hraw', hdecode'⟩ := h'
  obtain rfl : raw = raw' := Json.str.inj (Option.some.inj (hraw.symm.trans hraw'))
  exact Except.ok.inj (hdecode.symm.trans hdecode')

/-- What an envelope lets through is what its payload does. -/
theorem letsThrough_verifyDsseEnvelope [Hashlib] {caught : List Exn}
    (entries : List (Units × Json)) (pack : EvidencePack) :
    LetsThrough caught (verifyDsseEnvelope (.obj entries) pack) ↔
      ∀ payload, Carries (.obj entries) payload →
        RaisesOnly (.valueError :: caught) (loadsOf payload) ∧
          ∀ fields, loadsOf payload = .ok (.obj fields) →
            LetsThrough caught (verifyInTotoStatement (.obj fields) pack) := by
  unfold verifyDsseEnvelope
  obtain ⟨hnone, message, hrefused⟩ | ⟨payload, hcarries, hread⟩ := envelopeStatement_cases entries
  · rw [hrefused]
    exact ⟨fun _ payload hcarries => absurd hcarries (hnone payload), fun _ => nofun⟩
  · -- one payload is all that an envelope carries
    have hpayload : (∀ payload', Carries (.obj entries) payload' →
        RaisesOnly (.valueError :: caught) (loadsOf payload') ∧
          ∀ fields, loadsOf payload' = .ok (.obj fields) →
            LetsThrough caught (verifyInTotoStatement (.obj fields) pack)) ↔
        RaisesOnly (.valueError :: caught) (loadsOf payload) ∧
          ∀ fields, loadsOf payload = .ok (.obj fields) →
            LetsThrough caught (verifyInTotoStatement (.obj fields) pack) :=
      ⟨fun h => h payload hcarries, fun h payload' hcarries' => hcarries.unique hcarries' ▸ h⟩
    rw [hpayload, hread]
    cases hloads : loadsOf payload with
    | error e =>
      by_cases hvalue : e = .valueError
      · subst hvalue
        simp [payloadStatement, guarded, refuse, bind, Except.bind, LetsThrough]
      · simp [payloadStatement, guarded, hvalue, bind, Except.bind, LetsThrough]
    | ok statement =>
      cases statement with
      | obj fields => simp [payloadStatement, guarded, bind, Except.bind]
      | _ => simp [payloadStatement, guarded, bind, Except.bind, refuse, LetsThrough]

end Envelope

section Pack

variable [JsonLimits] [FloatText] [Hashlib]

/-- The attested content of a pack that has a digest can be written. -/
theorem refusal_of_attestedDigest {pack : EvidencePack} {digest : String}
    (h : attestedDigest pack = .ok digest) :
    refusal canonical JsonLimits.depth pack.content = none := by
  obtain ⟨bytes, hbytes, -⟩ := map_eq_ok.mp h
  obtain ⟨text, htext, -⟩ := bind_eq_ok.mp hbytes
  exact dumps_ok_iff.mp ⟨text, htext⟩

theorem runDigest_raises {pack : EvidencePack} {digest : String}
    (h : attestedDigest pack = .ok digest) :
    RaisesOnly [.valueError] (runDigest pack.runResult) := by
  have hget : pack.content.get "run_result" = some pack.runResult.dump := by
    show (attestedContent _ _ _ _ _ _).get "run_result" = _
    rw [attestedContent, Json.get_object]
    rfl
  obtain ⟨text, htext⟩ := dumps_ok_iff.mpr (refusal_get hget (refusal_of_attestedDigest h))
  unfold runDigest canonicalHash toCanonicalJson
  rw [htext]
  exact raisesOnly_map.mpr (raisesOnly_orRaise (List.mem_singleton_self _) _)

variable [Unicode]

omit [Hashlib] in
theorem isExternalTimestampAnchor_raises {token : Option String}
    (h : loads (units (token.getD "")) ≠ .error .recursion) :
    RaisesOnly [.valueError] (isExternalTimestampAnchor token) := by
  unfold isExternalTimestampAnchor
  split
  · exact raisesOnly_ok _ _
  · split
    · exact raisesOnly_ok _ _
    · rename_i hdeep
      exact absurd hdeep h
    · exact raisesOnly_ok _ _

/-- A pack that has a digest, and no token that nests too deeply, expects a predicate or raises
`ValueError`. -/
theorem expectedPredicate_raises {pack : EvidencePack} {digest : String}
    (hdigest : attestedDigest pack = .ok digest)
    (htoken : loads (units (pack.tsaToken.getD "")) ≠ .error .recursion) :
    RaisesOnly [.valueError] (expectedPredicate pack) := by
  unfold expectedPredicate
  refine raisesOnly_bind.mpr ⟨raisesOnly_bind.mpr ⟨?_, fun statement hstatement => ?_⟩,
    fun expected hexpected => ?_⟩
  · exact raisesOnly_bind.mpr ⟨runDigest_raises hdigest, fun _ _ => raisesOnly_bind.mpr
      ⟨isExternalTimestampAnchor_raises htoken, fun _ _ => raisesOnly_ok _ _⟩⟩
  · obtain ⟨_, timestamp, -, -, rfl⟩ := toInTotoStatement_eq_ok.mp hstatement
    rw [inTotoStatement, Json.item_object]
    exact raisesOnly_ok _ _
  · obtain ⟨statement, hstatement, hitem⟩ := bind_eq_ok.mp hexpected
    obtain ⟨_, timestamp, -, -, rfl⟩ := toInTotoStatement_eq_ok.mp hstatement
    obtain rfl : inTotoPredicate pack timestamp = expected := by
      rw [inTotoStatement, Json.item_object] at hitem
      exact Except.ok.inj hitem
    obtain ⟨room, hroom, hfields⟩ := refusal_obj canonical (refusal_of_attestedDigest hdigest)
    have hrun : refusal canonical room pack.runResult.dump = none :=
      hfields (units "run_result", pack.runResult.dump) List.mem_cons_self
    have hmappings : refusal canonical room
        (dumpList ControlMapping.dump pack.controlMappings) = none :=
      hfields (units "control_mappings", dumpList ControlMapping.dump pack.controlMappings)
        (by simp)
    have hmetrics : refusal canonical room pack.runResult.metrics.dump = none := by
      have hget : pack.runResult.dump.get "metrics" = some pack.runResult.metrics.dump := by
        rw [RunResult.dump, Json.get_object]
        rfl
      exact refusal_get hget hrun
    obtain ⟨room', rfl, -⟩ := refusal_obj canonical hrun
    have hwritten : ∀ {value : Json}, refusal canonical (room' + 1) value = none →
        refusal compact (room' + 1) value.sorted ≠ some .recursionError := by
      intro value hvalue
      rw [refusal_sorted.mpr (refusal_style rfl hvalue)]
      simp
    have hcount : refusal compact (room' + 1)
        (Json.int pack.runResult.findings.length).sorted ≠ some .recursionError := by
      show refusal compact (room' + 1) (.int _) ≠ _
      rw [refusal]
      split <;> simp
    apply raisesOnly_dumps_obj hroom
    simp only [List.map_cons, List.map_nil, List.forall_mem_cons]
    exact ⟨hwritten rfl, hwritten rfl, hwritten rfl, hwritten rfl, hwritten rfl, hwritten hmetrics,
      hcount, hwritten hmappings, hwritten rfl, List.forall_mem_nil _⟩

end Pack

end Sectum
