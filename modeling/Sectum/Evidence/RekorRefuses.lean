import Sectum.Evidence.Rekor

/-! Which proofs a verification answers, with a time or with a refusal, and which ones it crashes on:
those that bring a decoding step a value that its `except` clause does not cover. -/

namespace Sectum

open Py

namespace Rekor

/-- The verification returns, or raises `EvidenceError`. -/
def Answers {α : Type} (result : Except EvidenceRaised α) : Prop :=
  (∃ a, result = .ok a) ∨ ∃ message, result = .error (.evidenceError message)

section Answers

variable {α β : Type}

@[simp] theorem answers_ok (a : α) : Answers (.ok a) := Or.inl ⟨a, rfl⟩

@[simp] theorem answers_refuse (message : String) : Answers (refuse message : Except _ α) :=
  Or.inr ⟨message, rfl⟩

@[simp] theorem answers_library (e : Exn) :
    ¬Answers (.error (.library e) : Except EvidenceRaised α) := by
  rintro (⟨a, h⟩ | ⟨message, h⟩) <;> cases h

theorem answers_guarded {caught : List Exn} {message : String} {result : Except Exn α} :
    Answers (guarded caught message result) ↔ RaisesOnly caught result := by
  cases result with
  | ok a => simp [guarded]
  | error e =>
    rw [guarded]
    split <;> simp_all

theorem answers_unguarded {result : Except Exn α} :
    Answers (unguarded result) ↔ ∃ a, result = .ok a := by
  unfold unguarded
  rw [answers_guarded]
  cases result <;> simp

theorem answers_bind {result : Except EvidenceRaised α} {next : α → Except EvidenceRaised β} :
    Answers (result >>= next) ↔ Answers result ∧ ∀ a, result = .ok a → Answers (next a) := by
  cases result with
  | ok a => simp [bind, Except.bind]
  | error e =>
    have hbind : ((.error e : Except EvidenceRaised α) >>= next) = .error e := rfl
    rw [hbind]
    cases e <;> simp [Answers]

theorem answers_seq {result : Except EvidenceRaised Unit} {next : Except EvidenceRaised β} :
    Answers (result >>= fun _ => next) ↔ Answers result ∧ (result = .ok () → Answers next) := by
  rw [answers_bind]
  exact and_congr Iff.rfl ⟨fun h => h (), fun h _ => h⟩

end Answers

section Body

variable [JsonLimits] [FloatText]

/-- The text of a proof does not exceed the limits of the JSON parser. -/
def TextWithinLimits (proofJson : Units) : Prop :=
  loads proofJson ≠ .error .digits ∧ loads proofJson ≠ .error .recursion

theorem answers_readProof (proofJson : Units) :
    Answers (readProof proofJson) ↔ TextWithinLimits proofJson := by
  unfold readProof TextWithinLimits
  cases loads proofJson with
  | ok value => cases value <;> simp
  | error e => cases e <;> simp

/-- The entry body is a string, and what it encodes is not nested too deeply for the JSON parser. -/
def BodyDecodable (bodyB64 : Json) : Prop :=
  (∃ s, bodyB64 = .str s) ∧
    ∀ data, bodyB64.b64decode false = .ok data → loadsOf data ≠ .error .recursionError

variable [Unicode]

theorem answers_checkDigestBinding (bodyB64 : Json) (digest : Units) :
    Answers (checkDigestBinding bodyB64 digest) ↔ BodyDecodable bodyB64 := by
  unfold checkDigestBinding BodyDecodable
  rw [answers_bind, answers_guarded, raisesOnly_bind, Json.raisesOnly_valueError_b64decode]
  simp only [raisesOnly_loadsOf (List.mem_singleton_self _) (by decide)]
  refine and_iff_left_of_imp fun _ body _ => ?_
  split
  · exact answers_refuse _
  · refine answers_bind.mpr ⟨answers_guarded.mpr ?_, fun recorded _ => ?_⟩
    · -- every index raises `KeyError` or `TypeError`
      simp [raisesOnly_bind, Json.raisesOnly_item]
    · split
      · exact answers_refuse _
      · exact answers_ok ()

end Body

section Inclusion

theorem raisesOnly_auditHashes (proof : Json) :
    RaisesOnly [.keyError, .typeError, .valueError] (auditHashes proof) := by
  unfold auditHashes
  refine raisesOnly_bind.mpr ⟨(Json.raisesOnly_item _ _).mono (by simp), fun value _ => ?_⟩
  refine raisesOnly_bind.mpr ⟨(Json.raisesOnly_elements value).mono (by simp), fun items _ => ?_⟩
  exact raisesOnly_mapM fun item _ => (Json.raisesOnly_b64decode false item).mono (by simp)

variable [Unicode] [Decimals]

/-- The leaf index is no infinite float, and neither is the tree size, when it comes to that. -/
def IndexDecodable (proof : Json) : Prop :=
  (∀ negative, proof.item "leaf_index" ≠ .ok (.float (.infinity negative))) ∧
    ∀ index, leafIndex proof = .ok index →
      ∀ negative, proof.item "tree_size" ≠ .ok (.float (.infinity negative))

theorem raisesOnly_number (proof : Json) (key : String) :
    RaisesOnly [.keyError, .typeError, .valueError] (proof.item key >>= Json.toInt) ↔
      ∀ negative, proof.item key ≠ .ok (.float (.infinity negative)) := by
  have hint : ∀ value : Json, RaisesOnly [.keyError, .typeError, .valueError] value.toInt ↔
      ∀ negative, value ≠ .float (.infinity negative) :=
    Json.raisesOnly_toInt (by simp) (by simp) (by simp)
  rw [raisesOnly_bind]
  simp only [hint]
  constructor
  · intro h negative hitem
    exact h.2 _ hitem negative rfl
  · intro h
    refine ⟨(Json.raisesOnly_item proof key).mono (by simp), fun value hitem negative heq => ?_⟩
    exact h negative (heq ▸ hitem)

variable [Hashlib]

theorem answers_rootFromInclusionProof {proof bodyB64 : Json} :
    Answers (rootFromInclusionProof proof bodyB64) ↔ IndexDecodable proof := by
  unfold rootFromInclusionProof IndexDecodable
  rw [answers_bind, answers_guarded, raisesOnly_bind, ← raisesOnly_number, and_assoc]
  refine and_congr Iff.rfl ?_
  constructor
  · rintro ⟨hread, -⟩ index hindex
    exact (raisesOnly_number proof "tree_size").mp (raisesOnly_bind.mp (hread index hindex)).1
  · intro h
    refine ⟨fun index hindex => raisesOnly_bind.mpr ⟨?_, fun size _ => ?_⟩, fun read _ => ?_⟩
    · exact (raisesOnly_number proof "tree_size").mpr (h index hindex)
    · refine raisesOnly_bind.mpr ⟨raisesOnly_auditHashes proof, fun hashes _ => ?_⟩
      refine raisesOnly_bind.mpr ⟨?_, fun body _ => raisesOnly_ok _ _⟩
      exact (Json.raisesOnly_b64decode false bodyB64).mono (by simp)
    · dsimp only
      split
      · exact answers_refuse _
      · split
        · exact answers_refuse _
        · exact answers_ok _

end Inclusion

section Checkpoint

variable [Cryptography]

theorem answers_verifySignature (pem signature message : Bytes) :
    Answers (verifySignature pem signature message) := by
  unfold verifySignature
  split
  · exact answers_ok ()
  · exact answers_refuse _
  · exact answers_refuse _

variable [Hashlib] [Unicode] [FloatText]

/-- The text of a checkpoint whose key hint matches has no surrogate without a partner. -/
def CheckpointEncodable (proof : Json) (root pem : Bytes) : Prop :=
  ∀ text signature, readCheckpoint proof root pem = .ok (text, signature) → charsOf text ≠ none

omit [Cryptography] [Hashlib] in
theorem answers_checkpointBody (proof : Json) (root : Bytes) : Answers (checkpointBody proof root) := by
  unfold checkpointBody
  split
  · exact answers_refuse _
  · dsimp only
    split
    · exact answers_refuse _
    · refine answers_bind.mpr ⟨answers_guarded.mpr ?_, fun checkpointRoot _ => ?_⟩
      · exact (Json.raisesOnly_valueError_b64decode true _).mpr ⟨_, rfl⟩
      · split
        · exact answers_refuse _
        · split
          · exact answers_refuse _
          · refine answers_bind.mpr ⟨answers_guarded.mpr ?_, fun raw _ => answers_ok _⟩
            refine raisesOnly_bind.mpr ⟨raisesOnly_orRaise (by simp) _, fun parts _ => ?_⟩
            exact (Json.raisesOnly_valueError_b64decode false _).mpr ⟨_, rfl⟩

/-- The key is a public key, where the verification comes to its hint. -/
def KeyReadable (proof : Json) (root pem : Bytes) : Prop :=
  ∀ parts, checkpointBody proof root = .ok parts → ∃ der, Cryptography.derSpki pem = some der

theorem answers_readCheckpoint {proof : Json} {root pem : Bytes} :
    Answers (readCheckpoint proof root pem) ↔ KeyReadable proof root pem := by
  unfold readCheckpoint KeyReadable
  rw [answers_bind, and_iff_right (answers_checkpointBody proof root)]
  refine forall₂_congr fun parts _ => ?_
  rw [derSpki]
  cases Cryptography.derSpki pem with
  | none => exact iff_of_false (answers_library .valueError) (by simp)
  | some der =>
    refine iff_of_true ?_ ⟨der, rfl⟩
    show Answers (if _ then _ else _)
    split
    · exact answers_refuse _
    · exact answers_ok _

theorem answers_verifyCheckpoint {proof : Json} {root pem : Bytes} :
    Answers (verifyCheckpoint proof root pem) ↔
      KeyReadable proof root pem ∧ CheckpointEncodable proof root pem := by
  unfold verifyCheckpoint CheckpointEncodable
  rw [answers_bind, answers_readCheckpoint]
  refine and_congr_right fun _ => ?_
  constructor
  · intro h text signature hread hnone
    have hencode := (answers_bind.mp (h _ hread)).1
    rw [encodeUtf8, hnone] at hencode
    exact absurd hencode (answers_library .valueError)
  · rintro h ⟨text, signature⟩ hread
    obtain ⟨chars, hchars⟩ := Option.ne_none_iff_exists'.mp (h text signature hread)
    dsimp only
    rw [encodeUtf8, hchars]
    exact answers_verifySignature pem signature _

end Checkpoint

section Time

/-- A number of seconds that the log reports is of a year from 1 to 9999. -/
def TimeRepresentable (proof : Json) : Prop :=
  ∀ seconds, proof.get "integrated_time" = some (.int seconds) →
    -62135596800 ≤ seconds ∧ seconds ≤ 253402300799

theorem answers_fromtimestamp (seconds : Int) :
    Answers (unguarded (DateTime.fromtimestamp seconds)) ↔
      -62135596800 ≤ seconds ∧ seconds ≤ 253402300799 := by
  unfold unguarded DateTime.fromtimestamp
  rw [answers_guarded]
  split_ifs <;> simp <;> omega

theorem answers_integratedTime (proof : Json) :
    Answers (integratedTime proof) ↔ TimeRepresentable proof := by
  unfold integratedTime TimeRepresentable
  split
  · rename_i n h
    rw [answers_fromtimestamp, h]
    simp
  · rename_i b h
    rw [answers_fromtimestamp, h]
    cases b <;> simp
  · rename_i hint _
    exact ⟨fun _ seconds h => absurd h (hint seconds), fun _ => answers_refuse _⟩

end Time

section Keys

variable [Cryptography]

/-- The keys that a verification may use are public keys. -/
def ValidKeys : Option Keyring → Prop
  | some keyring => ∀ entry ∈ keyring.items, ∃ der, Cryptography.derSpki entry.2 = some der
  | none => ∀ pem ∈ builtinKeys, ∃ der, Cryptography.derSpki pem = some der

variable [Hashlib]

theorem rekorKeyring_eq_ok {pems : List Bytes}
    (h : ∀ pem ∈ pems, ∃ der, Cryptography.derSpki pem = some der) :
    ∃ entries, rekorKeyring pems = .ok (Dict.ofItems entries) ∧
      ∀ entry ∈ entries, entry.2 ∈ pems := by
  obtain ⟨entries, hentries, hmem⟩ : ∃ entries : List (Units × Bytes),
      (pems.mapM fun pem => (derSpki pem).map fun der => (units (logId der), pem)) = .ok entries ∧
        ∀ entry ∈ entries, entry.2 ∈ pems := by
    induction pems with
    | nil => exact ⟨[], rfl, by simp⟩
    | cons pem pems ih =>
      obtain ⟨der, hder⟩ := h pem List.mem_cons_self
      obtain ⟨entries, hentries, hmem⟩ := ih fun pem' hpem' => h pem' (List.mem_cons_of_mem pem hpem')
      refine ⟨(units (logId der), pem) :: entries, ?_, ?_⟩
      · rw [List.mapM_cons, derSpki, hder, hentries]
        rfl
      · rintro entry (_ | ⟨_, hentry⟩)
        · exact List.mem_cons_self
        · exact List.mem_cons_of_mem pem (hmem entry hentry)
  refine ⟨entries, ?_, hmem⟩
  rw [rekorKeyring, hentries]
  rfl

/-- Valid keys are found, and are the only ones. -/
theorem trustedKeys_valid {keyring : Option Keyring} (hkeys : ValidKeys keyring) :
    ∃ keys, trustedKeys keyring = .ok keys ∧
      ∀ entry ∈ keys.items, ∃ der, Cryptography.derSpki entry.2 = some der := by
  cases keyring with
  | some keyring => exact ⟨keyring, rfl, hkeys⟩
  | none =>
    obtain ⟨entries, hring, hentries⟩ := rekorKeyring_eq_ok hkeys
    refine ⟨Dict.ofItems entries, hring, fun entry hentry => hkeys _ (hentries entry ?_)⟩
    exact Dict.mem_of_lookup_ofItems (Dict.mem_items.mp hentry)

end Keys

section Selected

variable [Unicode] [FloatText]

theorem answers_selectKey (keys : Keyring) (logId : Json) : Answers (selectKey keys logId) := by
  unfold selectKey
  split
  · exact answers_ok _
  · exact answers_refuse _

theorem mem_of_selectKey {keys : Keyring} {logId : Json} {pem : Bytes}
    (h : selectKey keys logId = .ok pem) : ∃ key, (key, pem) ∈ keys.items := by
  unfold selectKey at h
  split at h
  · rename_i found hfound
    obtain rfl := Except.ok.inj h
    split at hfound
    · exact ⟨_, Dict.mem_items.mpr hfound⟩
    · cases hfound
  · cases h

end Selected

section Proof

variable [JsonLimits] [FloatText] [Unicode] [Hashlib] [Cryptography] [Decimals]

/-- The entry body of a proof. -/
def entryBody (proof : Json) : Json := (proof.get "canonicalized_body").getD (.str [])

/-- Every value that the verification decodes is one that the step that decodes it takes, or refuses:
the fields of a proof count as far as the verification comes to them. -/
def Decodable (proofJson digest : Units) (keyring : Option Keyring) : Prop :=
  TextWithinLimits proofJson ∧
    ∀ proof keys pem, readProof proofJson = .ok proof → unguarded (trustedKeys keyring) = .ok keys →
      selectKey keys ((proof.get "log_id").getD .null) = .ok pem →
        BodyDecodable (entryBody proof) ∧
          (checkDigestBinding (entryBody proof) digest = .ok () →
            IndexDecodable proof ∧
              ∀ root, rootFromInclusionProof proof (entryBody proof) = .ok root →
                CheckpointEncodable proof root pem ∧
                  (verifyCheckpoint proof root pem = .ok () → TimeRepresentable proof))

/-- The keys that the verification comes to are public keys. -/
def KeysReadable (proofJson digest : Units) (keyring : Option Keyring) : Prop :=
  ∀ proof, readProof proofJson = .ok proof → (∃ keys, trustedKeys keyring = .ok keys) ∧
    ∀ keys pem, unguarded (trustedKeys keyring) = .ok keys →
      selectKey keys ((proof.get "log_id").getD .null) = .ok pem →
        checkDigestBinding (entryBody proof) digest = .ok () →
          ∀ root, rootFromInclusionProof proof (entryBody proof) = .ok root →
            KeyReadable proof root pem

theorem answers_checked {pem : Bytes} {proof : Json} {digest : Units} :
    Answers (do
      checkDigestBinding (entryBody proof) digest
      let root ← rootFromInclusionProof proof (entryBody proof)
      verifyCheckpoint proof root pem
      integratedTime proof) ↔
    BodyDecodable (entryBody proof) ∧
      (checkDigestBinding (entryBody proof) digest = .ok () →
        IndexDecodable proof ∧
          ∀ root, rootFromInclusionProof proof (entryBody proof) = .ok root →
            (KeyReadable proof root pem ∧ CheckpointEncodable proof root pem) ∧
              (verifyCheckpoint proof root pem = .ok () → TimeRepresentable proof)) := by
  rw [answers_seq, answers_checkDigestBinding, answers_bind, answers_rootFromInclusionProof]
  simp only [answers_seq, answers_verifyCheckpoint, answers_integratedTime]

/-- The verification answers exactly where the keys that it comes to are readable and the values that
it decodes are ones that their step takes or refuses. -/
theorem answers_verifyRekorProof {proofJson digest : Units} {keyring : Option Keyring} :
    Answers (verifyRekorProof proofJson digest keyring) ↔
      KeysReadable proofJson digest keyring ∧ Decodable proofJson digest keyring := by
  unfold verifyRekorProof
  rw [answers_bind, answers_readProof]
  constructor
  · rintro ⟨hlimits, h⟩
    have hchecked : ∀ {proof keys pem}, readProof proofJson = .ok proof →
        unguarded (trustedKeys keyring) = .ok keys →
          selectKey keys ((proof.get "log_id").getD .null) = .ok pem → _ :=
      fun hproof hkeys hpem => answers_checked.mp
        ((answers_bind.mp ((answers_bind.mp (h _ hproof)).2 _ hkeys)).2 _ hpem)
    refine ⟨fun proof hproof => ⟨?_, fun keys pem hkeys hpem hdigest root hroot => ?_⟩,
      hlimits, fun proof keys pem hproof hkeys hpem => ⟨?_, fun hdigest => ⟨?_, fun root hroot => ?_⟩⟩⟩
    · exact answers_unguarded.mp (answers_bind.mp (h proof hproof)).1
    · exact (((hchecked hproof hkeys hpem).2 hdigest).2 root hroot).1.1
    · exact (hchecked hproof hkeys hpem).1
    · exact ((hchecked hproof hkeys hpem).2 hdigest).1
    · obtain ⟨⟨-, hencodable⟩, htime⟩ := ((hchecked hproof hkeys hpem).2 hdigest).2 root hroot
      exact ⟨hencodable, htime⟩
  · rintro ⟨hreadable, hlimits, h⟩
    refine ⟨hlimits, fun proof hproof => ?_⟩
    obtain ⟨htrusted, hkey⟩ := hreadable proof hproof
    refine answers_bind.mpr ⟨answers_unguarded.mpr htrusted, fun keys hkeys => ?_⟩
    refine answers_bind.mpr ⟨answers_selectKey keys _, fun pem hpem => answers_checked.mpr ?_⟩
    obtain ⟨hbody, hrest⟩ := h proof keys pem hproof hkeys hpem
    refine ⟨hbody, fun hdigest => ⟨(hrest hdigest).1, fun root hroot => ?_⟩⟩
    obtain ⟨hencodable, htime⟩ := (hrest hdigest).2 root hroot
    exact ⟨⟨hkey keys pem hkeys hpem hdigest root hroot, hencodable⟩, htime⟩

theorem keysReadable_of_valid {keyring : Option Keyring} (hkeys : ValidKeys keyring)
    (proofJson digest : Units) : KeysReadable proofJson digest keyring := by
  obtain ⟨keys, htrusted, hvalid⟩ := trustedKeys_valid hkeys
  refine fun proof _ => ⟨⟨keys, htrusted⟩, fun keys' pem hkeys' hpem _ root _ parts _ => ?_⟩
  rw [htrusted] at hkeys'
  obtain rfl := Except.ok.inj hkeys'
  obtain ⟨key, hmem⟩ := mem_of_selectKey hpem
  exact hvalid _ hmem

theorem verifyRekorProof_answers_iff {keyring : Option Keyring} (hkeys : ValidKeys keyring)
    (proofJson digest : Units) :
    Answers (verifyRekorProof proofJson digest keyring) ↔ Decodable proofJson digest keyring :=
  answers_verifyRekorProof.trans (and_iff_right (keysReadable_of_valid hkeys proofJson digest))

end Proof

section Instances

/-- Reads a PEM file, which is base64 between two lines, and takes no signature. -/
@[reducible] def pemFiles : Cryptography where
  derSpki pem := Base64.decode false
    ((pem.dropWhile fun byte => byte ≠ 10).takeWhile fun byte => byte ≠ 45)
  verify _ _ _ := .invalid

attribute [local instance] Hashlib.real Unicode.ascii Decimals.ascii JsonLimits.default
  FloatText.halves pemFiles

/-- The keyring of one of the keys under `_rekor/`. -/
def sigstoreKeyring : Keyring :=
  Dict.ofItems
    [(units "c0d23d6ad406973f9559f3ba2d1ca01f84147d8ffc5b8445c224f98b9591801d",
      builtinKeys.getD 0 [])]

theorem sigstoreKeyring_valid : ValidKeys (some sigstoreKeyring) := by
  have hread : ∀ entry ∈ sigstoreKeyring.items, (Cryptography.derSpki entry.2).isSome := by
    decide +kernel
  exact fun entry hentry => Option.isSome_iff_exists.mp (hread entry hentry)

theorem verifyRekorProof_answers_list :
    Answers (verifyRekorProof (units "[]") (units "") (some sigstoreKeyring)) ↔
      Decodable (units "[]") (units "") (some sigstoreKeyring) :=
  verifyRekorProof_answers_iff sigstoreKeyring_valid _ _

/-- A proof that names a trusted log, and whose entry body is a number. -/
def numberBody : Units := units ("\x7b\"canonicalized_body\": 5, \"log_id\": " ++
  "\"c0d23d6ad406973f9559f3ba2d1ca01f84147d8ffc5b8445c224f98b9591801d\"\x7d")

theorem verifyRekorProof_numberBody : ValidKeys (some sigstoreKeyring) ∧
    ¬Answers (verifyRekorProof numberBody (units "") (some sigstoreKeyring)) := by
  refine ⟨sigstoreKeyring_valid, ?_⟩
  have hraised : verifyRekorProof numberBody (units "") (some sigstoreKeyring) =
      .error (.library .typeError) := by
    decide +kernel
  rw [hraised]
  exact answers_library .typeError

end Instances

end Rekor

end Sectum
