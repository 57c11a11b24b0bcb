import Sectum.Core.ConfigRedactionApart

/-! What is packed of a configuration: `_redact_config_value` scrubs the strings in the places of
values, and leaves those that are keys, elements of sets or in tuples. -/

namespace Sectum

open Py

variable {S : Type}

section Structure

variable {items : List (YamlValue S)} {entries : List (YamlScalar S × YamlValue S)}

theorem YamlValue.induction {motive : YamlValue S → Prop} (scalar : ∀ value, motive (.scalar value))
    (list : ∀ items : List (YamlValue S), (∀ item ∈ items, motive item) → motive (.list items))
    (set : ∀ items, motive (.set items))
    (tuple : ∀ items : List (YamlValue S), motive (.tuple items))
    (dict : ∀ entries : List (YamlScalar S × YamlValue S), (∀ entry ∈ entries, motive entry.2) →
      motive (.dict entries)) (value : YamlValue S) : motive value := by
  refine @YamlValue.rec S motive (fun items => ∀ item ∈ items, motive item)
    (fun entries => ∀ entry ∈ entries, motive entry.2) (fun entry => motive entry.2)
    scalar list set (fun items _ => tuple items) dict ?_ ?_ ?_ ?_ ?_ value
  · simp
  · exact fun item items hitem hitems => List.forall_mem_cons.mpr ⟨hitem, hitems⟩
  · simp
  · exact fun entry entries hentry hentries => List.forall_mem_cons.mpr ⟨hentry, hentries⟩
  · exact fun _ _ h => h

theorem stringsOfItems_eq : stringsOfItems items = items.flatMap YamlValue.strings := by
  induction items with
  | nil => rfl
  | cons item items ih => rw [stringsOfItems, ih, List.flatMap_cons]

theorem stringsOfEntries_eq :
    stringsOfEntries entries = entries.flatMap fun entry => entry.1.strings ++ entry.2.strings := by
  induction entries with
  | nil => rfl
  | cons entry entries ih =>
    obtain ⟨key, value⟩ := entry
    rw [stringsOfEntries, ih, List.flatMap_cons, List.append_assoc]

variable [ScalarText S] [LowerPoints]

theorem redactItems_eq : redactItems items = items.map redactConfigValue := by
  induction items with
  | nil => rfl
  | cons item items ih => rw [redactItems, ih, List.map_cons]

def redactEntry (entry : YamlScalar S × YamlValue S) : YamlScalar S × YamlValue S :=
  (entry.1, if isRedactedKey entry.1 then .scalar (.text redactedText)
    else redactConfigValue entry.2)

theorem redactEntries_eq : redactEntries entries = entries.map redactEntry := by
  induction entries with
  | nil => rfl
  | cons entry entries ih =>
    obtain ⟨key, value⟩ := entry
    rw [redactEntries, ih, List.map_cons]
    rfl

end Structure

section Strings

theorem redacted_redactedText : Redacted redactedText := by
  rw [redacted_iff]
  constructor
  · intro x w z heq hmatch
    have hlength := congrArg List.length heq
    have := credential_length hmatch
    simp only [List.length_append] at hlength
    omega
  · intro x w z heq
    refine absurd ?_ notMem_redactedText.1
    rw [heq]
    simp [pointsOf_scheme]

theorem mem_strings_scalar {key : YamlScalar S} {s : List CodePoint} :
    s ∈ key.strings ↔ key = .text s := by
  cases key with
  | text t => simpa [YamlScalar.strings] using eq_comm
  | other value => simp [YamlScalar.strings]

end Strings

section Packed

variable [ScalarText S] [LowerPoints]

/-- What is packed of a value has no credential and no userinfo, and is packed as it is. -/
def PacksRedacted (value : YamlValue S) : Prop :=
  (∀ s ∈ (redactConfigValue value).strings, Redacted s) ∧
    redactConfigValue (redactConfigValue value) = redactConfigValue value

/-- The matches in each string that is scrubbed are apart, and each one that is not scrubbed has no
credential and no userinfo to begin with. -/
inductive Packable : YamlValue S → Prop
  | text (s : List CodePoint) (h : Apart s) : Packable (.scalar (.text s))
  | other (value : S) : Packable (.scalar (.other value))
  | list (items : List (YamlValue S)) (h : ∀ item ∈ items, Packable item) : Packable (.list items)
  | set (items : List (YamlScalar S)) (h : ∀ s, .text s ∈ items → Redacted s) :
      Packable (.set items)
  | tuple (items : List (YamlValue S)) (h : ∀ s ∈ (YamlValue.tuple items).strings, Redacted s) :
      Packable (.tuple items)
  | dict (entries : List (YamlScalar S × YamlValue S))
      (hkeys : ∀ s, .text s ∈ entries.map Prod.fst → Redacted s)
      (h : ∀ entry ∈ entries, isRedactedKey entry.1 = false → Packable entry.2) :
      Packable (.dict entries)

theorem packsRedacted_list {items : List (YamlValue S)} :
    PacksRedacted (.list items) ↔ ∀ item ∈ items, PacksRedacted item := by
  simp only [PacksRedacted, redactConfigValue, redactItems_eq, YamlValue.strings, stringsOfItems_eq,
    List.map_map, YamlValue.list.injEq, List.map_inj_left, List.mem_flatMap, List.mem_map]
  constructor
  · rintro ⟨hstrings, hagain⟩ item hitem
    exact ⟨fun s hs => hstrings s ⟨_, ⟨item, hitem, rfl⟩, hs⟩, hagain item hitem⟩
  · intro h
    refine ⟨?_, fun item hitem => (h item hitem).2⟩
    rintro s ⟨_, ⟨item, hitem, rfl⟩, hs⟩
    exact (h item hitem).1 s hs

/-- Behind a key that names a secret is the mask, and behind another what is packed of its value. -/
theorem redactEntry_iff (entry : YamlScalar S × YamlValue S) :
    ((∀ s ∈ (redactEntry entry).2.strings, Redacted s) ∧
      redactEntry (redactEntry entry) = redactEntry entry) ↔
      (isRedactedKey entry.1 = false → PacksRedacted entry.2) := by
  cases hkey : isRedactedKey entry.1 with
  | true =>
    simp [redactEntry, hkey, YamlValue.strings, YamlScalar.strings, redacted_redactedText]
  | false => simp [redactEntry, hkey, PacksRedacted]

theorem packsRedacted_dict {entries : List (YamlScalar S × YamlValue S)} :
    PacksRedacted (.dict entries) ↔ (∀ s, .text s ∈ entries.map Prod.fst → Redacted s) ∧
      ∀ entry ∈ entries, isRedactedKey entry.1 = false → PacksRedacted entry.2 := by
  simp only [PacksRedacted, redactConfigValue, redactEntries_eq, YamlValue.strings,
    stringsOfEntries_eq, List.map_map, YamlValue.dict.injEq, List.map_inj_left, List.mem_flatMap,
    List.mem_map, List.mem_append]
  constructor
  · rintro ⟨hstrings, hagain⟩
    constructor
    · rintro s ⟨entry, hentry, hkey⟩
      exact hstrings s ⟨_, ⟨entry, hentry, rfl⟩, .inl (mem_strings_scalar.mpr hkey)⟩
    · intro entry hentry
      exact (redactEntry_iff entry).mp
        ⟨fun s hs => hstrings s ⟨_, ⟨entry, hentry, rfl⟩, .inr hs⟩, hagain entry hentry⟩
  · rintro ⟨hkeys, hvalues⟩
    refine ⟨?_, fun entry hentry => ((redactEntry_iff entry).mpr (hvalues entry hentry)).2⟩
    rintro s ⟨_, ⟨entry, hentry, rfl⟩, hs | hs⟩
    · exact hkeys s ⟨entry, hentry, mem_strings_scalar.mp hs⟩
    · exact ((redactEntry_iff entry).mpr (hvalues entry hentry)).1 s hs

/-- A configuration is packed without a credential or a userinfo, once and for all, exactly where
its strings admit it. -/
theorem redactConfigValue_sound (value : YamlValue S) :
    ((∀ s ∈ (redactConfigValue value).strings, Redacted s) ∧
      redactConfigValue (redactConfigValue value) = redactConfigValue value) ↔ Packable value := by
  show PacksRedacted value ↔ Packable value
  induction value using YamlValue.induction with
  | scalar value =>
    cases value with
    | text s =>
      have hiff : PacksRedacted (.scalar (.text s) : YamlValue S) ↔ Apart s := by
        rw [← scrub_redacted_iff]
        simp [PacksRedacted, redactConfigValue, YamlValue.strings, YamlScalar.strings]
      rw [hiff]
      exact ⟨.text s, fun h => by cases h; assumption⟩
    | other value =>
      refine iff_of_true ⟨?_, rfl⟩ (.other value)
      simp [redactConfigValue, YamlValue.strings, YamlScalar.strings]
  | list items ih =>
    rw [packsRedacted_list]
    constructor
    · exact fun h => .list items fun item hitem => (ih item hitem).mp (h item hitem)
    · intro h
      cases h with
      | list _ h => exact fun item hitem => (ih item hitem).mpr (h item hitem)
  | set items =>
    have hiff : PacksRedacted (.set items : YamlValue S) ↔ ∀ s, .text s ∈ items → Redacted s := by
      simp [PacksRedacted, redactConfigValue, YamlValue.strings, mem_strings_scalar]
    rw [hiff]
    exact ⟨.set items, fun h => by cases h; assumption⟩
  | tuple items =>
    have hiff : PacksRedacted (.tuple items) ↔
        ∀ s ∈ (YamlValue.tuple items).strings, Redacted s := by
      simp [PacksRedacted, redactConfigValue]
    rw [hiff]
    exact ⟨.tuple items, fun h => by cases h; assumption⟩
  | dict entries ih =>
    rw [packsRedacted_dict]
    constructor
    · rintro ⟨hkeys, hvalues⟩
      exact .dict entries hkeys fun entry hentry hkey =>
        (ih entry hentry).mp (hvalues entry hentry hkey)
    · intro h
      cases h with
      | dict _ hkeys hvalues =>
        exact ⟨hkeys, fun entry hentry hkey => (ih entry hentry).mpr (hvalues entry hentry hkey)⟩

end Packed

/-- What is tried at a place of a text occurs there. -/
theorem not_redacted_of_tries {x text : List CodePoint} {m : Found CodePoint}
    (h : m ∈ configSecretValue.tries (lastOf none x) text) : ¬Redacted (x ++ text) := by
  obtain ⟨⟨z, rfl⟩, hmatch⟩ := Pattern.mem_tries.mp h
  exact fun hredacted => hredacted.credential m ⟨x, z, rfl, hmatch⟩

section Leaves

/-- No scalars but strings. -/
@[reducible] def ScalarText.none : ScalarText Empty := ⟨Empty.elim⟩

attribute [local instance] LowerPoints.ascii ScalarText.none

def textValue (text : String) : YamlValue Empty := .scalar (.text (pointsOf text))

def textKey (text : String) : YamlScalar Empty := .text (pointsOf text)

/-- A credential behind another, one that is a key and one in a set are packed, and a userinfo
across a query value is cut by the second scrubbing only. -/
theorem redactConfigValue_leaves :
    ¬PacksRedacted (.dict [(textKey "aws_ids",
        textValue "AKIA0000000000000000AKIA0000000000000000")]) ∧
      ¬PacksRedacted (.dict [(textKey "AKIA0000000000000000", textValue "eu-west-1")]) ∧
      ¬PacksRedacted (.dict [(textKey "aws_ids", .set [textKey "AKIA0000000000000000"])]) ∧
      ¬PacksRedacted (.dict [(textKey "base_url", textValue "https://h?x=a/b&y@c")]) := by
  have hkey : ¬Redacted (pointsOf "AKIA0000000000000000") := by
    refine not_redacted_of_tries (x := []) (m := ⟨[], pointsOf "AKIA0000000000000000", []⟩) ?_
    decide +kernel
  have hbehind : ¬Redacted (redactedText ++ pointsOf "AKIA0000000000000000") := by
    refine not_redacted_of_tries (m := ⟨[], pointsOf "AKIA0000000000000000", []⟩) ?_
    decide +kernel
  refine ⟨fun h => hbehind (h.1 _ ?_), fun h => hkey (h.1 _ ?_), fun h => hkey (h.1 _ ?_),
    fun h => absurd (congrArg YamlValue.strings h.2) ?_⟩
  all_goals decide +kernel

end Leaves

end Sectum
