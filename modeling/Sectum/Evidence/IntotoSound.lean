import Sectum.Evidence.Intoto
import Sectum.Spec.DumpSound

/-! A statement is accepted for a pack when its subject is the run and its predicate the one of the
pack.  The predicate renders the datetimes of the run as they are, so the statement of a pack is
accepted after a reload of the pack when they are UTC, and not otherwise. -/

namespace Sectum

open Py JsonText

section Datetimes

theorem DateTime.isoformat_reloaded (value : DateTime) :
    value.reloaded.isoformat = isoformatClock value.utc ++ "+00:00" := rfl

/-- A datetime is rendered in the same way after a reload when it is UTC. -/
theorem DateTime.isoformat_reloaded_eq {value : DateTime} :
    value.reloaded.isoformat = value.isoformat ↔ value.offset = some 0 := by
  obtain ⟨wall, offset⟩ := value
  rw [isoformat_reloaded]
  constructor
  · intro h
    cases offset with
    | none =>
      have hlength := congrArg String.length h
      rw [show (⟨wall, none⟩ : DateTime).utc = wall from Int.sub_zero wall] at hlength
      simp only [isoformat, Option.map_none, Option.getD_none, String.length_append] at hlength
      have hutc : "+00:00".length = 6 := rfl
      have hnaive : "".length = 0 := rfl
      omega
    | some micros => rw [offset_eq_zero h.symm]
  · intro h
    obtain rfl : offset = some 0 := h
    rw [show (⟨wall, some 0⟩ : DateTime).utc = wall from Int.sub_zero wall]
    rfl

end Datetimes

section Accept

variable [Unicode] [JsonLimits] [FloatText] [Hashlib]

omit [Unicode] [JsonLimits] [FloatText] [Hashlib] in
theorem equalsText_getD {value : Option Json} {text : Units} :
    (value.getD .null).equalsText text = true ↔ value = some (.str text) := by
  cases value with
  | none => exact iff_of_false Bool.false_ne_true nofun
  | some value =>
    cases value with
    | str s =>
      show decide (s = text) = true ↔ _
      rw [decide_eq_true_eq, Option.some.injEq, Json.str.injEq]
    | _ => exact iff_of_false Bool.false_ne_true nofun

omit [Unicode] [JsonLimits] [FloatText] [Hashlib] in
theorem dictGet_eq_ok {value field : Json} {key : String} :
    value.dictGet key = .ok field ↔
      (∃ entries, value = .obj entries) ∧ (value.get key).getD .null = field := by
  cases value with
  | obj entries => exact ⟨fun h => ⟨⟨entries, rfl⟩, Except.ok.inj h⟩, fun h => congrArg _ h.2⟩
  | _ => exact ⟨nofun, fun h => nomatch h.1⟩

/-- The digest that a statement has for its subject. -/
def subjectDigest (statement : Json) : Option Json :=
  match statement.get "subject" with
  | some (.arr [subject]) => (subject.get "digest").bind fun recorded => recorded.get "sha256"
  | _ => none

omit [Unicode] [JsonLimits] [FloatText] [Hashlib] in
theorem subjectBinds_iff {statement : Json} {runId digest : String} :
    subjectBinds ((statement.get "subject").getD (.arr [])) runId digest = true ↔
      subjectDigest statement = some (.text digest) ∧
        ∃ subject, statement.get "subject" = some (.arr [subject]) ∧
          subject.get "name" = some (.text runId) := by
  unfold subjectBinds subjectDigest
  rcases statement.get "subject" with _ | value
  · simp
  · cases value with
    | arr items =>
      rcases items with _ | ⟨subject, _ | ⟨second, items⟩⟩
      · simp
      · simp only [Option.getD_some, Bool.and_eq_true, equalsText_getD, Json.text]
        simp
      · simp
    | _ => simp

theorem toInTotoStatement_eq_ok {pack : EvidencePack} {statement : Json} :
    toInTotoStatement pack = .ok statement ↔
      ∃ digest timestamp, runDigest pack.runResult = .ok digest ∧
        isExternalTimestampAnchor pack.tsaToken = .ok timestamp ∧
        inTotoStatement pack.runResult.runId digest (inTotoPredicate pack timestamp) =
          statement := by
  unfold toInTotoStatement
  constructor
  · intro h
    obtain ⟨digest, hdigest, h⟩ := bind_eq_ok.mp h
    obtain ⟨timestamp, htimestamp, h⟩ := bind_eq_ok.mp h
    exact ⟨digest, timestamp, hdigest, htimestamp, Except.ok.inj h⟩
  · rintro ⟨digest, timestamp, hdigest, htimestamp, rfl⟩
    rw [hdigest, htimestamp]
    rfl

/-- When a statement is accepted. -/
theorem verifyInTotoStatement_eq_ok {statement : Json} {pack : EvidencePack} :
    verifyInTotoStatement statement pack = .ok () ↔
      (∃ entries, statement = .obj entries) ∧
        statement.get "_type" = some (.text statementType) ∧
        statement.get "predicateType" = some (.text predicateType) ∧
        (∃ digest, runDigest pack.runResult = .ok digest ∧
          subjectDigest statement = some (.text digest)) ∧
        (∃ subject, statement.get "subject" = some (.arr [subject]) ∧
          subject.get "name" = some (.text pack.runResult.runId)) ∧
        ∃ timestamp text, isExternalTimestampAnchor pack.tsaToken = .ok timestamp ∧
          dumps compact ((statement.get "predicate").getD .null) = .ok text ∧
          dumps compact (inTotoPredicate pack timestamp) = .ok text := by
  unfold verifyInTotoStatement
  constructor
  · intro h
    obtain ⟨type, htype, h⟩ := bind_eq_ok.mp h
    obtain ⟨hobj, rfl⟩ := dictGet_eq_ok.mp (guarded_eq_ok.mp htype)
    obtain ⟨hstatement, h⟩ := ite_refuse_eq_ok.mp h
    obtain ⟨type, htype, h⟩ := bind_eq_ok.mp h
    obtain ⟨-, rfl⟩ := dictGet_eq_ok.mp (guarded_eq_ok.mp htype)
    obtain ⟨hpredicate, h⟩ := ite_refuse_eq_ok.mp h
    obtain ⟨digest, hdigest, h⟩ := bind_eq_ok.mp h
    obtain ⟨hsubject, h⟩ := ite_refuse_eq_ok.mp h
    obtain ⟨expected, hexpected, h⟩ := bind_eq_ok.mp h
    obtain ⟨built, hbuilt, hitem⟩ := bind_eq_ok.mp (guarded_eq_ok.mp hexpected)
    obtain ⟨_, timestamp, -, htimestamp, rfl⟩ := toInTotoStatement_eq_ok.mp hbuilt
    obtain rfl : inTotoPredicate pack timestamp = expected := by
      rw [inTotoStatement, Json.item_object] at hitem
      exact Except.ok.inj hitem
    obtain ⟨recorded, hrecorded, h⟩ := bind_eq_ok.mp h
    obtain ⟨-, rfl⟩ := dictGet_eq_ok.mp (guarded_eq_ok.mp hrecorded)
    obtain ⟨text, htext, h⟩ := bind_eq_ok.mp h
    obtain ⟨text', htext', h⟩ := bind_eq_ok.mp h
    obtain ⟨hsame, -⟩ := ite_refuse_eq_ok.mp h
    obtain rfl : text = text' := not_not.mp hsame
    rw [Bool.not_eq_true, Bool.not_eq_false'] at hstatement hpredicate hsubject
    obtain ⟨hbinds, hname⟩ := subjectBinds_iff.mp hsubject
    exact ⟨hobj, equalsText_getD.mp hstatement, equalsText_getD.mp hpredicate,
      ⟨digest, guarded_eq_ok.mp hdigest, hbinds⟩, hname, timestamp, text, htimestamp,
      guarded_eq_ok.mp htext, guarded_eq_ok.mp htext'⟩
  · rintro ⟨hobj, hstatement, hpredicate, ⟨digest, hdigest, hbinds⟩, hname, timestamp, text,
      htimestamp, htext, htext'⟩
    have hbuilt := toInTotoStatement_eq_ok.mpr ⟨digest, timestamp, hdigest, htimestamp, rfl⟩
    have hitem : (inTotoStatement pack.runResult.runId digest
        (inTotoPredicate pack timestamp)).item "predicate" = .ok (inTotoPredicate pack timestamp) := by
      rw [inTotoStatement, Json.item_object]
      rfl
    refine bind_eq_ok.mpr ⟨_, guarded_eq_ok.mpr (dictGet_eq_ok.mpr ⟨hobj, rfl⟩),
      ite_refuse_eq_ok.mpr ⟨?_, bind_eq_ok.mpr ⟨_, guarded_eq_ok.mpr (dictGet_eq_ok.mpr ⟨hobj, rfl⟩),
        ite_refuse_eq_ok.mpr ⟨?_, bind_eq_ok.mpr ⟨digest, guarded_eq_ok.mpr hdigest,
          ite_refuse_eq_ok.mpr ⟨?_, bind_eq_ok.mpr ⟨_, guarded_eq_ok.mpr
            (bind_eq_ok.mpr ⟨_, hbuilt, hitem⟩), bind_eq_ok.mpr ⟨_, guarded_eq_ok.mpr
              (dictGet_eq_ok.mpr ⟨hobj, rfl⟩), bind_eq_ok.mpr ⟨text, guarded_eq_ok.mpr htext,
                bind_eq_ok.mpr ⟨text, guarded_eq_ok.mpr htext', ite_refuse_eq_ok.mpr
                  ⟨not_not.mpr rfl, rfl⟩⟩⟩⟩⟩⟩⟩⟩⟩⟩⟩
    · simpa using equalsText_getD.mpr hstatement
    · simpa using equalsText_getD.mpr hpredicate
    · simpa using subjectBinds_iff.mpr ⟨hbinds, hname⟩

/-- The order of the keys is no matter to a verification. -/
theorem verifyInTotoStatement_sorted {statement : Json} (hw : statement.WellFormed)
    {pack : EvidencePack} (h : verifyInTotoStatement statement pack = .ok ()) :
    verifyInTotoStatement statement.sorted pack = .ok () := by
  obtain ⟨⟨entries, hobj⟩, hstatement, hpredicate, ⟨digest, hdigest, hbinds⟩, ⟨subject, hsubject,
    hname⟩, timestamp, text, htimestamp, htext, htext'⟩ := verifyInTotoStatement_eq_ok.mp h
  have hsubjectWell : subject.WellFormed := by
    cases hw.get hsubject with
    | arr _ hitems => exact hitems subject List.mem_cons_self
  have hsubject' : statement.sorted.get "subject" = some (.arr [subject.sorted]) := by
    rw [hw.get_sorted, hsubject]
    rfl
  refine verifyInTotoStatement_eq_ok.mpr ⟨?_, ?_, ?_, ⟨digest, hdigest, ?_⟩,
    ⟨subject.sorted, hsubject', ?_⟩, timestamp, text, htimestamp, ?_, htext'⟩
  · rw [hobj]
    exact ⟨_, rfl⟩
  · rw [hw.get_sorted, hstatement]
    rfl
  · rw [hw.get_sorted, hpredicate]
    rfl
  · rw [subjectDigest, hsubject']
    rw [subjectDigest, hsubject] at hbinds
    obtain ⟨recorded, hrecorded, hsha⟩ := Option.bind_eq_some_iff.mp hbinds
    have hrecorded' : subject.sorted.get "digest" = some recorded.sorted := by
      rw [hsubjectWell.get_sorted, hrecorded]
      rfl
    have hsha' : recorded.sorted.get "sha256" = some (.text digest) := by
      rw [(hsubjectWell.get hrecorded).get_sorted, hsha]
      rfl
    exact Option.bind_eq_some_iff.mpr ⟨_, hrecorded', hsha'⟩
  · rw [hsubjectWell.get_sorted, hname]
    rfl
  · rw [hw.get_sorted]
    cases hfield : statement.get "predicate" with
    | none =>
      rw [hfield] at htext
      exact htext
    | some predicate =>
      rw [hfield] at htext
      exact (dumps_sorted predicate).trans htext

end Accept

section Built

variable [FloatText]

theorem inTotoPredicate_wellFormed [Unicode] {pack : EvidencePack}
    (h : ∀ q ∈ pack.runResult.metrics.floats, FloatText.isFloat q) (timestamp : Bool) :
    (inTotoPredicate pack timestamp).WellFormed := by
  apply Json.WellFormed.object
  · show ["schema_version", "scenario_hash", "manifest_hash", "started_at", "finished_at",
      "metrics", "finding_count", "control_mappings", "anchors"].Nodup
    decide
  · have hmappings : (dumpList ControlMapping.dump pack.controlMappings).WellFormed :=
      dumpList_wellFormed fun mapping _ => mapping.dump_wellFormed
    have hanchors : (Json.object [("timestamp", .bool timestamp),
        ("transparency_log", .bool (claimed pack.rekorProof))]).WellFormed := by
      apply Json.WellFormed.object
      · show ["timestamp", "transparency_log"].Nodup
        decide
      · simp only [List.forall_mem_cons]
        exact ⟨.bool _, .bool _, nofun⟩
    simp only [List.forall_mem_cons]
    exact ⟨.str _, .str _, .str _, .str _, .str _, RunMetrics.dump_wellFormed h, .int _, hmappings,
      hanchors, nofun⟩

theorem inTotoStatement_wellFormed (runId digest : String) {predicate : Json}
    (h : predicate.WellFormed) : (inTotoStatement runId digest predicate).WellFormed := by
  have hdigest : (Json.object [("sha256", .text digest)]).WellFormed := by
    apply Json.WellFormed.object (by simp)
    simp only [List.forall_mem_cons]
    exact ⟨.str _, nofun⟩
  have hsubject : (Json.object [("name", .text runId),
      ("digest", Json.object [("sha256", .text digest)])]).WellFormed := by
    apply Json.WellFormed.object (by simp)
    simp only [List.forall_mem_cons]
    exact ⟨.str _, hdigest, nofun⟩
  apply Json.WellFormed.object
  · show ["_type", "subject", "predicateType", "predicate"].Nodup
    decide
  · simp only [List.forall_mem_cons]
    exact ⟨.str _, .arr _ (List.forall_mem_singleton.mpr hsubject), .str _, h, nofun⟩

omit [FloatText] in
theorem inTotoStatement_fields (runId digest : String) (predicate : Json) :
    (inTotoStatement runId digest predicate).get "_type" = some (.text statementType) ∧
      (inTotoStatement runId digest predicate).get "predicateType" = some (.text predicateType) ∧
      subjectDigest (inTotoStatement runId digest predicate) = some (.text digest) ∧
      (∃ subject, (inTotoStatement runId digest predicate).get "subject" = some (.arr [subject]) ∧
        subject.get "name" = some (.text runId)) ∧
      (inTotoStatement runId digest predicate).get "predicate" = some predicate := by
  have hsubject : (inTotoStatement runId digest predicate).get "subject" = some (.arr [Json.object
      [("name", .text runId), ("digest", Json.object [("sha256", .text digest)])]]) := by
    rw [inTotoStatement, Json.get_object]
    rfl
  refine ⟨?_, ?_, ?_, ⟨_, hsubject, ?_⟩, ?_⟩
  · rw [inTotoStatement, Json.get_object]
    rfl
  · rw [inTotoStatement, Json.get_object]
    rfl
  · rw [subjectDigest, hsubject]
    dsimp only
    rw [Json.get_object]
    show (Json.object [("sha256", .text digest)]).get "sha256" = _
    rw [Json.get_object]
    rfl
  · rw [Json.get_object]
    rfl
  · rw [inTotoStatement, Json.get_object]
    rfl

end Built

section Envelope

variable [Unicode] [JsonLimits] [FloatText]

theorem envelopeStatement_built {entries : List (Units × Json)} {text : Units} {payload : Bytes}
    (hw : (Json.obj entries).WellFormed) (htext : dumps compact (.obj entries) = .ok text)
    (hpayload : encodeUtf8 text = some payload) :
    envelopeStatement (dsseEnvelope payload) = .ok (Json.obj entries).sorted := by
  obtain ⟨data, hdata, hloads⟩ := loadsBytes_dumps rfl hw htext
  obtain rfl : payload = data := Option.some.inj (hpayload.symm.trans hdata)
  have htype : (dsseEnvelope payload).dictGet "payloadType" = .ok (.text payloadType) := by
    refine dictGet_eq_ok.mpr ⟨⟨_, rfl⟩, ?_⟩
    rw [dsseEnvelope, Json.get_object]
    rfl
  have hraw : (dsseEnvelope payload).get "payload" = some (Json.base64 payload) := by
    rw [dsseEnvelope, Json.get_object]
    rfl
  have hread : ((Json.base64 payload).b64decode true).bind loadsOf =
      .ok (Json.obj entries).sorted := by
    rw [Json.b64decode_base64]
    show loadsOf payload = _
    rw [loadsOf, hloads]
  have hsame : (Json.text payloadType).equalsText (units payloadType) = true :=
    decide_eq_true (Eq.refl (units payloadType))
  unfold envelopeStatement
  refine bind_eq_ok.mpr ⟨_, guarded_eq_ok.mpr htype, ite_refuse_eq_ok.mpr ⟨by simp [hsame], ?_⟩⟩
  rw [hraw]
  exact bind_eq_ok.mpr ⟨_, guarded_eq_ok.mpr hread, rfl⟩

variable [Hashlib]

theorem buildDsseEnvelope_eq_ok {pack : EvidencePack} {envelope : Json} :
    buildDsseEnvelope pack = .ok envelope ↔
      ∃ statement text payload, toInTotoStatement pack = .ok statement ∧
        dumps compact statement = .ok text ∧ encodeUtf8 text = some payload ∧
        dsseEnvelope payload = envelope := by
  unfold buildDsseEnvelope
  constructor
  · intro h
    obtain ⟨statement, hstatement, h⟩ := bind_eq_ok.mp h
    obtain ⟨text, htext, h⟩ := bind_eq_ok.mp h
    obtain ⟨payload, hpayload, h⟩ := bind_eq_ok.mp h
    exact ⟨statement, text, payload, hstatement, htext, orRaise_eq_ok.mp hpayload,
      Except.ok.inj h⟩
  · rintro ⟨statement, text, payload, hstatement, htext, hpayload, rfl⟩
    exact bind_eq_ok.mpr ⟨statement, hstatement, bind_eq_ok.mpr ⟨text, htext,
      bind_eq_ok.mpr ⟨payload, orRaise_eq_ok.mpr hpayload, rfl⟩⟩⟩

end Envelope

section Survive

variable [Unicode] [JsonLimits] [FloatText] [Hashlib]

/-- A statement for a predicate of a pack is accepted for that pack after a reload when the
predicate is the same then. -/
theorem verifyInTotoStatement_reloaded {pack : EvidencePack} {digest : String} {timestamp : Bool}
    (hdigest : runDigest pack.runResult = .ok digest)
    (htimestamp : isExternalTimestampAnchor pack.tsaToken = .ok timestamp) :
    verifyInTotoStatement (inTotoStatement pack.runResult.runId digest
        (inTotoPredicate pack timestamp)) pack.reloaded = .ok () ↔
      ∃ text, dumps compact (inTotoPredicate pack timestamp) = .ok text ∧
        dumps compact (inTotoPredicate pack.reloaded timestamp) = .ok text := by
  obtain ⟨hstatement, hpredicate, hbinds, hname, hfield⟩ :=
    inTotoStatement_fields pack.runResult.runId digest (inTotoPredicate pack timestamp)
  have hreloaded : runDigest pack.reloaded.runResult = .ok digest := by
    show canonicalHash pack.runResult.reloaded.dump = .ok digest
    rw [RunResult.dump_reloaded]
    exact hdigest
  rw [verifyInTotoStatement_eq_ok, hfield]
  constructor
  · rintro ⟨-, -, -, -, -, timestamp', text, htimestamp', htext, htext'⟩
    obtain rfl : timestamp' = timestamp := Except.ok.inj (htimestamp'.symm.trans htimestamp)
    exact ⟨text, htext, htext'⟩
  · rintro ⟨text, htext, htext'⟩
    exact ⟨⟨_, rfl⟩, hstatement, hpredicate, ⟨digest, hreloaded, hbinds⟩, hname, timestamp, text,
      htimestamp, htext, htext'⟩

omit [JsonLimits] [Hashlib] in
/-- The predicate of a pack is the same after a reload when the datetimes of the run are UTC. -/
theorem inTotoPredicate_reloaded_sorted {pack : EvidencePack}
    (hmetrics : ∀ q ∈ pack.runResult.metrics.floats, FloatText.isFloat q) {timestamp : Bool} :
    (inTotoPredicate pack.reloaded timestamp).sorted = (inTotoPredicate pack timestamp).sorted ↔
      pack.runResult.startedAt.offset = some 0 ∧ pack.runResult.finishedAt.offset = some 0 := by
  rw [← DateTime.isoformat_reloaded_eq, ← DateTime.isoformat_reloaded_eq]
  constructor
  · intro h
    have hw := inTotoPredicate_wellFormed hmetrics timestamp
    have hw' := @inTotoPredicate_wellFormed _ _ pack.reloaded hmetrics timestamp
    have hfields : ∀ key, ((inTotoPredicate pack.reloaded timestamp).get key).map Json.sorted =
        ((inTotoPredicate pack timestamp).get key).map Json.sorted := by
      intro key
      rw [← hw.get_sorted, ← hw'.get_sorted, h]
    have hstarted := hfields "started_at"
    have hfinished := hfields "finished_at"
    rw [inTotoPredicate, inTotoPredicate, Json.get_object, Json.get_object] at hstarted hfinished
    exact ⟨units_injective (Json.str.inj (Option.some.inj hstarted)),
      units_injective (Json.str.inj (Option.some.inj hfinished))⟩
  · rintro ⟨hstarted, hfinished⟩
    dsimp only [inTotoPredicate, EvidencePack.reloaded, RunResult.reloaded]
    rw [hstarted, hfinished]

/-- The sidecars that are built from a pack are accepted for it after a reload, and a statement that
is accepted for the pack says what the one that is built from it says, exactly when the datetimes of
its run are UTC. -/
theorem sidecars_reloaded_iff [Pydantic] {pack : EvidencePack} {statement envelope : Json}
    (hmetrics : ∀ q ∈ pack.runResult.metrics.floats, FloatText.isFloat q)
    (hstatement : toInTotoStatement pack = .ok statement)
    (henvelope : buildDsseEnvelope pack = .ok envelope)
    (hjson : Pydantic.validatePack (Pydantic.packJson pack) = some pack.reloaded) :
    ((∃ received, Pydantic.validatePack (Pydantic.packJson pack) = some received ∧
        verifyInTotoStatement statement received = .ok () ∧
        verifyDsseEnvelope envelope received = .ok ()) ∧
      ∀ other : Json, other.WellFormed → verifyInTotoStatement other pack = .ok () →
        subjectDigest other = subjectDigest statement ∧
          (other.get "predicate").map Json.sorted = (statement.get "predicate").map Json.sorted) ↔
      pack.runResult.startedAt.offset = some 0 ∧ pack.runResult.finishedAt.offset = some 0 := by
  obtain ⟨digest, timestamp, hdigest, htimestamp, rfl⟩ := toInTotoStatement_eq_ok.mp hstatement
  obtain ⟨built, text, payload, hbuilt, htext, hpayload, rfl⟩ :=
    buildDsseEnvelope_eq_ok.mp henvelope
  obtain rfl := Except.ok.inj (hstatement.symm.trans hbuilt)
  have hpredicate := inTotoPredicate_wellFormed hmetrics timestamp
  have hpredicate' := @inTotoPredicate_wellFormed _ _ pack.reloaded hmetrics timestamp
  have hw := inTotoStatement_wellFormed pack.runResult.runId digest hpredicate
  obtain ⟨-, -, hbinds, -, hfield⟩ :=
    inTotoStatement_fields pack.runResult.runId digest (inTotoPredicate pack timestamp)
  constructor
  · rintro ⟨⟨received, hreceived, haccepted, -⟩, -⟩
    obtain rfl : pack.reloaded = received := Option.some.inj (hjson.symm.trans hreceived)
    obtain ⟨text, htext, htext'⟩ :=
      (verifyInTotoStatement_reloaded hdigest htimestamp).mp haccepted
    exact (inTotoPredicate_reloaded_sorted hmetrics).mp
      (sorted_eq_of_dumps hpredicate' hpredicate htext' htext)
  · intro hutc
    constructor
    · obtain ⟨text', htext'⟩ : ∃ text', dumps compact (inTotoPredicate pack timestamp) = .ok text' :=
        dumps_ok_iff.mpr (refusal_get hfield (dumps_ok_iff.mp ⟨text, htext⟩))
      have hsame : dumps compact (inTotoPredicate pack.reloaded timestamp) = .ok text' := by
        rw [← dumps_sorted, (inTotoPredicate_reloaded_sorted hmetrics).mpr hutc, dumps_sorted]
        exact htext'
      have haccepted := (verifyInTotoStatement_reloaded hdigest htimestamp).mpr ⟨text', htext', hsame⟩
      refine ⟨pack.reloaded, hjson, haccepted, bind_eq_ok.mpr ⟨_, ?_,
        verifyInTotoStatement_sorted hw haccepted⟩⟩
      exact envelopeStatement_built hw htext hpayload
    · intro other hother haccepted
      obtain ⟨-, -, -, ⟨digest', hdigest', hbinds'⟩, -, timestamp', text', htimestamp', hrecorded,
        hexpected⟩ := verifyInTotoStatement_eq_ok.mp haccepted
      obtain rfl : digest = digest' := Except.ok.inj (hdigest.symm.trans hdigest')
      obtain rfl : timestamp = timestamp' := Except.ok.inj (htimestamp.symm.trans htimestamp')
      refine ⟨hbinds'.trans hbinds.symm, ?_⟩
      rw [hfield]
      cases hget : other.get "predicate" with
      | none =>
        rw [hget] at hrecorded
        have hsorted := sorted_eq_of_dumps .null hpredicate hrecorded hexpected
        cases hsorted
      | some predicate =>
        rw [hget] at hrecorded
        exact congrArg some (sorted_eq_of_dumps (hother.get hget) hpredicate hrecorded hexpected)

end Survive

section Instances

attribute [local instance] Hashlib.real Unicode.ascii JsonLimits.default FloatText.halves

/-- A pack of a run that starts and ends on a clock with an offset. -/
def packAt (offset : Option Int) : EvidencePack :=
  { runResult :=
      { runId := "run-1"
        scenarioHash := "scenario-1"
        manifestHash := "manifest-1"
        startedAt := ⟨0, offset⟩
        finishedAt := ⟨60000000, offset⟩ }
    manifestHash := "manifest-1" }

theorem toInTotoStatement_packAt {offset : Option Int} :
    ∃ digest, runDigest (packAt offset).runResult = .ok digest ∧
      toInTotoStatement (packAt offset) =
        .ok (inTotoStatement "run-1" digest (inTotoPredicate (packAt offset) false)) := by
  have hfloats : ∀ q ∈ (packAt offset).runResult.floats, FloatText.isFloat q := nofun
  obtain ⟨digest, hdigest⟩ := (canonicalHash_returns (RunResult.dump_wellFormed hfloats)
    (RunResult.dump_texts _)).mpr rfl
  exact ⟨digest, hdigest, toInTotoStatement_eq_ok.mpr ⟨digest, false, hdigest, rfl, rfl⟩⟩

theorem packAt_floats (offset : Option Int) :
    ∀ q ∈ (packAt offset).runResult.metrics.floats, FloatText.isFloat q := by
  have hnone : (packAt offset).runResult.metrics.floats = [] := rfl
  rw [hnone]
  nofun

theorem sidecars_reloaded_utc : ∃ statement envelope,
    toInTotoStatement (packAt (some 0)) = .ok statement ∧
      buildDsseEnvelope (packAt (some 0)) = .ok envelope ∧
      verifyInTotoStatement statement (packAt (some 0)).reloaded = .ok () ∧
      verifyDsseEnvelope envelope (packAt (some 0)).reloaded = .ok () := by
  obtain ⟨digest, -, hstatement⟩ := @toInTotoStatement_packAt (some 0)
  have hw := inTotoStatement_wellFormed "run-1" digest
    (inTotoPredicate_wellFormed (packAt_floats (some 0)) false)
  obtain ⟨text, htext⟩ : ∃ text, dumps compact (inTotoStatement "run-1" digest
      (inTotoPredicate (packAt (some 0)) false)) = .ok text := dumps_ok_iff.mpr rfl
  obtain ⟨payload, hpayload, -⟩ := loadsBytes_dumps rfl hw htext
  have henvelope := buildDsseEnvelope_eq_ok.mpr ⟨_, text, payload, hstatement, htext, hpayload, rfl⟩
  let pydantic : Pydantic := ⟨fun _ => [], fun _ => [], fun _ => some (packAt (some 0)).reloaded⟩
  have hread : pydantic.validatePack (pydantic.packJson (packAt (some 0))) =
      some (packAt (some 0)).reloaded := rfl
  have hsurvive := @sidecars_reloaded_iff _ _ _ _ pydantic (packAt (some 0)) _ _
    (packAt_floats (some 0)) hstatement henvelope hread
  obtain ⟨⟨received, hreceived, haccepted, hcarried⟩, -⟩ := hsurvive.mpr ⟨rfl, rfl⟩
  obtain rfl : (packAt (some 0)).reloaded = received :=
    Option.some.inj (hread.symm.trans hreceived)
  exact ⟨_, _, hstatement, henvelope, haccepted, hcarried⟩

/-- The statement of a pack with naive datetimes is refused for the pack that is read back. -/
theorem inTotoStatement_naive_refused : ∃ statement,
    toInTotoStatement (packAt none) = .ok statement ∧
      verifyInTotoStatement statement (packAt none).reloaded ≠ .ok () := by
  obtain ⟨digest, hdigest, hstatement⟩ := @toInTotoStatement_packAt none
  refine ⟨_, hstatement, fun haccepted => ?_⟩
  obtain ⟨text, htext, htext'⟩ := (verifyInTotoStatement_reloaded hdigest rfl).mp haccepted
  have hsame := sorted_eq_of_dumps
    (@inTotoPredicate_wellFormed _ _ (packAt none).reloaded (packAt_floats none) false)
    (inTotoPredicate_wellFormed (packAt_floats none) false) htext' htext
  obtain ⟨hstarted, -⟩ := (inTotoPredicate_reloaded_sorted (packAt_floats none)).mp hsame
  cases hstarted

end Instances

end Sectum
