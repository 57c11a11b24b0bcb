import Mathlib.Data.List.Perm.Basic
import Sectum.Lib.JsonTexts
import Sectum.Spec.Hashing

/-! Canonical JSON of raw values names one value where every key is a string; a key that is not a
string is refused unless every way to it leads through a tuple. -/

namespace Sectum

open Py Py.JsonText

section Scalars

variable [JsonLimits]

/-- A scalar that is written and encoded. -/
def RawScalar.Serializable : RawScalar → Prop
  | .int n => (printNat n.natAbs).length ≤ JsonLimits.digits
  | .float f => f ≠ .nan ∧ ∀ negative, f ≠ .infinity negative
  | .str s => ∀ char ∈ s, RawScalar.isSurrogate char = false
  | _ => True

theorem RawScalar.serializable_iff {value : RawScalar} :
    value.refusal = none ∧ value.encodable = true ↔ value.Serializable := by
  cases value with
  | null => exact iff_of_true ⟨rfl, rfl⟩ trivial
  | bool b => exact iff_of_true ⟨rfl, rfl⟩ trivial
  | int n => simp [RawScalar.refusal, RawScalar.encodable, RawScalar.Serializable]
  | float f =>
    cases f <;> simp [RawScalar.refusal, RawScalar.encodable, RawScalar.Serializable]
  | str s => simp [RawScalar.refusal, RawScalar.encodable, RawScalar.Serializable]

end Scalars

namespace RawValue

/-- A property of every value: one that the containers have when what they contain does. -/
theorem induction {motive : RawValue → Prop} (scalar : ∀ value, motive (.scalar value))
    (list : ∀ items : List RawValue, (∀ item ∈ items, motive item) → motive (.list items))
    (tuple : ∀ items : List RawValue, (∀ item ∈ items, motive item) → motive (.tuple items))
    (dict : ∀ entries : List (RawScalar × RawValue), (∀ entry ∈ entries, motive entry.2) →
      motive (.dict entries)) (value : RawValue) : motive value := by
  refine @RawValue.rec motive (fun items => ∀ item ∈ items, motive item)
    (fun entries => ∀ entry ∈ entries, motive entry.2) (fun entry => motive entry.2)
    scalar list tuple dict ?_ ?_ ?_ ?_ ?_ value
  · simp
  · exact fun item items hitem hitems => List.forall_mem_cons.mpr ⟨hitem, hitems⟩
  · simp
  · exact fun entry entries hentry hentries => List.forall_mem_cons.mpr ⟨hentry, hentries⟩
  · exact fun _ _ h => h

section Keys

/-- A key that is not a string, at any depth; through tuples where `tuples` says so. -/
inductive NonStringKey (tuples : Bool) : RawValue → Prop
  | here {entries : List (RawScalar × RawValue)} {entry : RawScalar × RawValue}
      (hentry : entry ∈ entries) (h : entry.1.isStr = false) : NonStringKey tuples (.dict entries)
  | inDict {entries : List (RawScalar × RawValue)} {entry : RawScalar × RawValue}
      (hentry : entry ∈ entries) (h : NonStringKey tuples entry.2) : NonStringKey tuples (.dict entries)
  | inList {items : List RawValue} {item : RawValue} (hitem : item ∈ items)
      (h : NonStringKey tuples item) : NonStringKey tuples (.list items)
  | inTuple {items : List RawValue} {item : RawValue} (htuples : tuples = true)
      (hitem : item ∈ items) (h : NonStringKey tuples item) : NonStringKey tuples (.tuple items)

theorem refuseInItems_eq_ok {items : List RawValue} :
    refuseInItems items = .ok () ↔ ∀ item ∈ items, item.refuseNonStringKeys = .ok () := by
  induction items with
  | nil => simp [refuseInItems]
  | cons item items ih =>
    rw [refuseInItems, List.forall_mem_cons, ← ih]
    cases item.refuseNonStringKeys with
    | ok => simp [bind, Except.bind]
    | error => simp [bind, Except.bind]

theorem refuseInValues_eq_ok {entries : List (RawScalar × RawValue)} :
    refuseInValues entries = .ok () ↔ ∀ entry ∈ entries, entry.2.refuseNonStringKeys = .ok () := by
  induction entries with
  | nil => simp [refuseInValues]
  | cons entry entries ih =>
    obtain ⟨key, value⟩ := entry
    rw [refuseInValues, List.forall_mem_cons, ← ih]
    cases value.refuseNonStringKeys with
    | ok => simp [bind, Except.bind]
    | error => simp [bind, Except.bind]

/-- The guard does not look into tuples. -/
theorem refuseNonStringKeys_eq_ok {value : RawValue} :
    value.refuseNonStringKeys = .ok () ↔ ¬value.NonStringKey false := by
  induction value using RawValue.induction with
  | scalar value =>
    refine iff_of_true rfl ?_
    rintro ⟨⟩
  | list items ih =>
    rw [refuseNonStringKeys, refuseInItems_eq_ok]
    constructor
    · rintro hitems (_ | _ | ⟨hitem, h⟩)
      exact (ih _ hitem).mp (hitems _ hitem) h
    · intro hnone item hitem
      exact (ih item hitem).mpr fun h => hnone (.inList hitem h)
  | tuple items =>
    refine iff_of_true rfl ?_
    rintro (_ | _ | _ | ⟨htuples, -, -⟩)
    cases htuples
  | dict entries ih =>
    rw [refuseNonStringKeys]
    split
    · rename_i hkeys
      rw [refuseInValues_eq_ok]
      constructor
      · rintro hentries (⟨hentry, h⟩ | ⟨hentry, h⟩)
        · rw [List.all_eq_true.mp hkeys _ hentry] at h
          cases h
        · exact (ih _ hentry).mp (hentries _ hentry) h
      · intro hnone entry hentry
        exact (ih entry hentry).mpr fun h => hnone (.inDict hentry h)
    · rename_i hkeys
      refine iff_of_false (by simp) fun hnone => hkeys (List.all_eq_true.mpr fun entry hentry => ?_)
      by_contra h
      exact hnone (.here hentry (by simpa using h))

end Keys

section Serializable

theorem encodableItems_iff {items : List RawValue} :
    encodableItems items = true ↔ ∀ item ∈ items, item.encodable = true := by
  induction items with
  | nil => simp [encodableItems]
  | cons item items ih => rw [encodableItems, Bool.and_eq_true, ih, List.forall_mem_cons]

theorem encodableEntries_iff {entries : List (RawScalar × RawValue)} :
    encodableEntries entries = true ↔
      ∀ entry ∈ entries, entry.1.encodable = true ∧ entry.2.encodable = true := by
  induction entries with
  | nil => simp [encodableEntries]
  | cons entry entries ih =>
    obtain ⟨key, value⟩ := entry
    rw [encodableEntries, Bool.and_eq_true, Bool.and_eq_true, ih, List.forall_mem_cons]

variable [JsonLimits]

/-- A value that `json.dumps` writes and UTF-8 encodes, with so many containers in one another. -/
inductive Serializable : Nat → RawValue → Prop
  | scalar {value : RawScalar} (depth : Nat) (h : value.Serializable) :
      Serializable depth (.scalar value)
  | list {items : List RawValue} {depth : Nat} (h : ∀ item ∈ items, Serializable depth item) :
      Serializable (depth + 1) (.list items)
  | tuple {items : List RawValue} {depth : Nat} (h : ∀ item ∈ items, Serializable depth item) :
      Serializable (depth + 1) (.tuple items)
  | dict {entries : List (RawScalar × RawValue)} {depth : Nat}
      (hcomparable : RawScalar.comparable (entries.map Prod.fst) = true)
      (hkeys : ∀ entry ∈ entries, entry.1.Serializable)
      (h : ∀ entry ∈ entries, Serializable depth entry.2) : Serializable (depth + 1) (.dict entries)

theorem refusalItems_eq_none {depth : Nat} {items : List RawValue} :
    refusalItems depth items = none ↔ ∀ item ∈ items, refusal depth item = none := by
  induction items with
  | nil => simp [refusalItems]
  | cons item items ih => rw [refusalItems, Option.or_eq_none_iff, ih, List.forall_mem_cons]

def refusalEntry (depth : Nat) (entry : RawScalar × RawValue) : RawScalar × Option Exn :=
  (entry.1, entry.1.refusal.or (refusal depth entry.2))

theorem refusals_eq (depth : Nat) (entries : List (RawScalar × RawValue)) :
    refusals depth entries = entries.map (refusalEntry depth) := by
  induction entries with
  | nil => rfl
  | cons entry entries ih =>
    obtain ⟨key, value⟩ := entry
    rw [refusals, ih]
    rfl

theorem firstRefusal_eq_none {depth : Nat} {entries : List (RawScalar × RawValue)} :
    firstRefusal (refusals depth entries) = none ↔
      ∀ entry ∈ entries, entry.1.refusal = none ∧ refusal depth entry.2 = none := by
  have hperm := List.perm_insertionSort entryLE (entries.map (refusalEntry depth))
  rw [firstRefusal, refusals_eq, List.findSome?_eq_none_iff]
  constructor
  · intro h entry hentry
    have hmem := hperm.symm.subset (List.mem_map_of_mem hentry)
    exact Option.or_eq_none_iff.mp (h _ hmem)
  · intro h refused hrefused
    obtain ⟨entry, hentry, rfl⟩ := List.mem_map.mp (hperm.subset hrefused)
    exact Option.or_eq_none_iff.mpr (h entry hentry)

/-- A sequence, be it a list or a tuple, is written where its items are, one level further in. -/
theorem serializable_items {items : List RawValue} {sequence : RawValue}
    (ih : ∀ item ∈ items, ∀ {depth},
      item.Serializable depth ↔ item.refusal depth = none ∧ item.encodable = true)
    (hsequence : ∀ {depth}, sequence.Serializable depth ↔
      ∃ inner, depth = inner + 1 ∧ ∀ item ∈ items, item.Serializable inner)
    (hrefusal : ∀ {depth}, sequence.refusal depth =
      if depth = 0 then some .recursionError else refusalItems (depth - 1) items)
    (hencodable : sequence.encodable = encodableItems items) {depth : Nat} :
    sequence.Serializable depth ↔ sequence.refusal depth = none ∧ sequence.encodable = true := by
  rw [hsequence, hrefusal, hencodable, encodableItems_iff]
  cases depth with
  | zero => simp
  | succ depth =>
    rw [if_neg (Nat.succ_ne_zero depth), Nat.add_sub_cancel, refusalItems_eq_none]
    constructor
    · rintro ⟨inner, hinner, h⟩
      obtain rfl := Nat.succ.inj hinner
      exact ⟨fun item hitem => ((ih item hitem).mp (h item hitem)).1,
        fun item hitem => ((ih item hitem).mp (h item hitem)).2⟩
    · rintro ⟨hnone, hall⟩
      exact ⟨depth, rfl, fun item hitem => (ih item hitem).mpr ⟨hnone item hitem, hall item hitem⟩⟩

theorem serializable_iff {depth : Nat} {value : RawValue} :
    value.Serializable depth ↔ value.refusal depth = none ∧ value.encodable = true := by
  induction value using RawValue.induction generalizing depth with
  | scalar value =>
    show _ ↔ value.refusal = none ∧ value.encodable = true
    rw [RawScalar.serializable_iff]
    constructor
    · rintro ⟨-, h⟩
      exact h
    · exact .scalar depth
  | list items ih =>
    refine serializable_items ih ⟨?_, ?_⟩ rfl rfl
    · rintro ⟨⟩
      rename_i inner h
      exact ⟨inner, rfl, h⟩
    · rintro ⟨inner, rfl, h⟩
      exact .list h
  | tuple items ih =>
    refine serializable_items ih ⟨?_, ?_⟩ rfl rfl
    · rintro ⟨⟩
      rename_i inner h
      exact ⟨inner, rfl, h⟩
    · rintro ⟨inner, rfl, h⟩
      exact .tuple h
  | dict entries ih =>
    rw [encodable, encodableEntries_iff]
    constructor
    · rintro (_ | _ | _ | ⟨hcomparable, hkeys, h⟩)
      have hkeys' := fun entry hentry => RawScalar.serializable_iff.mpr (hkeys entry hentry)
      have hvalues := fun entry hentry => (ih entry hentry).mp (h entry hentry)
      refine ⟨?_, fun entry hentry => ⟨(hkeys' entry hentry).2, (hvalues entry hentry).2⟩⟩
      rw [refusal, if_neg (Nat.succ_ne_zero _), if_pos hcomparable]
      exact firstRefusal_eq_none.mpr fun entry hentry =>
        ⟨(hkeys' entry hentry).1, (hvalues entry hentry).1⟩
    · rintro ⟨hrefusal, hencodable⟩
      cases depth with
      | zero => cases hrefusal
      | succ depth =>
        rw [refusal, if_neg (Nat.succ_ne_zero _)] at hrefusal
        split at hrefusal
        · rename_i hcomparable
          have hfirst := firstRefusal_eq_none.mp hrefusal
          exact .dict hcomparable
            (fun entry hentry => RawScalar.serializable_iff.mp
              ⟨(hfirst entry hentry).1, (hencodable entry hentry).1⟩)
            fun entry hentry => (ih entry hentry).mpr
              ⟨(hfirst entry hentry).2, (hencodable entry hentry).2⟩
        · cases hrefusal

end Serializable

end RawValue

section Texts

theorem exists_text {s : List CodePoint} (h : ∀ char ∈ s, RawScalar.isSurrogate char = false) :
    ∃ text : String, s = pointsOf text := by
  have hchar : ∀ char ∈ s, codePoint (Char.ofNat char.val) = char := by
    intro char hchar
    have hplain := h char hchar
    have hbound := char.isLt
    simp only [RawScalar.isSurrogate, Bool.and_eq_false_iff, decide_eq_false_iff_not] at hplain
    have hvalid : char.val.isValidChar := by
      unfold Nat.isValidChar
      omega
    apply Fin.ext
    show (Char.ofNat char.val).toNat = char.val
    rw [Char.ofNat, dif_pos hvalid]
    rfl
  refine ⟨String.ofList (s.map fun char => Char.ofNat char.val), ?_⟩
  rw [pointsOf, String.toList_ofList, List.map_map]
  exact (List.map_id s).symm.trans (List.map_congr_left fun char h => (hchar char h).symm)

theorem pointsUnits_pointsOf (text : String) : RawScalar.pointsUnits (pointsOf text) = units text := by
  rw [RawScalar.pointsUnits, pointsOf, List.flatMap_map]
  rfl

end Texts

namespace RawScalar

variable [JsonLimits] [FloatText]

omit [JsonLimits] in
/-- A scalar whose float, if it is one, is a float. -/
def WellFormed (value : RawScalar) : Prop := ∀ q, value = .float (.finite q) → FloatText.isFloat q

omit [JsonLimits] in
theorem toJson_wellFormed {value : RawScalar} (h : value.WellFormed) : value.toJson.WellFormed := by
  cases value with
  | null => exact .null
  | bool b => exact .bool b
  | int n => exact .int n
  | float f => exact .float f fun q hq => h q (by rw [hq])
  | str s => exact .str _

omit [FloatText] in
theorem toJson_refusal {value : RawScalar} (h : value.Serializable) (depth : Nat) :
    JsonText.refusal canonical depth value.toJson = none := by
  cases value with
  | int n => exact if_neg (by simpa [Serializable] using h)
  | float f =>
    cases f with
    | infinity negative => exact absurd rfl (h.2 negative)
    | nan => exact absurd rfl h.1
    | finite => rfl
    | negativeZero => rfl
  | _ => rfl

omit [FloatText] in
theorem toJson_texts {value : RawScalar} (h : value.Serializable) : value.toJson.Strings IsText := by
  cases value with
  | null => exact .null
  | bool b => exact .bool b
  | int n => exact .int n
  | float f => exact .float f
  | str s =>
    obtain ⟨text, rfl⟩ := exists_text h
    rw [toJson, pointsUnits_pointsOf]
    exact .str _ (isText_units text)

omit [FloatText] in
theorem toJson_injective {value other : RawScalar} (h : value.Serializable) (h' : other.Serializable)
    (heq : value.toJson = other.toJson) : value = other := by
  have hstrings : ∀ {s t : List CodePoint}, value = str s → other = str t → value = other := by
    rintro s t rfl rfl
    obtain ⟨text, rfl⟩ := exists_text h
    obtain ⟨text', rfl⟩ := exists_text h'
    rw [toJson, toJson, pointsUnits_pointsOf, pointsUnits_pointsOf, Json.str.injEq] at heq
    rw [units_injective heq]
  cases value <;> cases other <;> first | exact hstrings rfl rfl | (cases heq <;> rfl)

/-- Keys that are written, and of one kind as far as strings go, have texts of their own. -/
theorem keyText_injective {key other : RawScalar} (hw : key.WellFormed) (hw' : other.WellFormed)
    (h : key.Serializable) (h' : other.Serializable) (hkind : key.isStr = other.isStr)
    (heq : key.keyText = other.keyText) : key = other := by
  have hprinted : print canonical 0 key.toJson = print canonical 0 other.toJson → key = other :=
    fun hprint => toJson_injective h h' (print_injective canonical (toJson_wellFormed hw)
      (toJson_wellFormed hw') (toJson_refusal h 0) (toJson_refusal h' 0) hprint)
  have hstrings : ∀ {s t : List CodePoint}, key = str s → other = str t → key = other := by
    rintro s t rfl rfl
    exact toJson_injective h h' (congrArg Json.str heq)
  cases key <;> cases other <;>
    first | exact hprinted heq | exact hstrings rfl rfl | cases hkind

theorem keyText_isText {key : RawScalar} (hw : key.WellFormed) (h : key.Serializable) :
    IsText key.keyText := by
  have hprinted : IsText (print canonical 0 key.toJson) :=
    composed_isText.print (fun _ => isText_printString) (toJson_wellFormed hw) (toJson_texts h) 0
  cases key with
  | str s =>
    obtain ⟨text, rfl⟩ := exists_text h
    rw [keyText, pointsUnits_pointsOf]
    exact isText_units text
  | _ => exact hprinted

end RawScalar

namespace RawValue

variable [FloatText]

/-- A value that Python can hold: the keys of a dictionary are distinct to it, and what is taken for a
float is one. -/
inductive WellFormed : RawValue → Prop
  | scalar {value : RawScalar} (h : value.WellFormed) : WellFormed (.scalar value)
  | list {items : List RawValue} (h : ∀ item ∈ items, WellFormed item) : WellFormed (.list items)
  | tuple {items : List RawValue} (h : ∀ item ∈ items, WellFormed item) : WellFormed (.tuple items)
  | dict {entries : List (RawScalar × RawValue)}
      (hdistinct : (entries.map Prod.fst).Pairwise fun key other => ¬key.same other)
      (hkeys : ∀ entry ∈ entries, entry.1.WellFormed)
      (h : ∀ entry ∈ entries, WellFormed entry.2) : WellFormed (.dict entries)

theorem toItems_eq (items : List RawValue) : toItems items = items.map toJson := by
  induction items with
  | nil => rfl
  | cons item items ih => rw [toItems, ih, List.map_cons]

def writtenEntry (entry : RawScalar × RawValue) : RawScalar × Json := (entry.1, entry.2.toJson)

theorem toEntries_eq (entries : List (RawScalar × RawValue)) :
    toEntries entries = entries.map writtenEntry := by
  induction entries with
  | nil => rfl
  | cons entry entries ih =>
    obtain ⟨key, value⟩ := entry
    rw [toEntries, ih]
    rfl

variable [JsonLimits]

omit [JsonLimits] [FloatText] in
theorem same_self {key : RawScalar} (h : key ≠ .float .nan) : key.same key := by
  unfold RawScalar.same
  cases hnumber : key.number with
  | none => exact ⟨rfl, h⟩
  | some q => rfl

omit [FloatText] in
theorem nodup_of_distinct {keys : List RawScalar} (hkeys : ∀ key ∈ keys, key.Serializable)
    (h : keys.Pairwise fun key other => ¬key.same other) : keys.Nodup := by
  refine h.imp_of_mem fun {key other} hkey _ hne heq => ?_
  rw [← heq] at hne
  refine hne (same_self fun hnan => ?_)
  have hserializable := hkeys key hkey
  rw [hnan] at hserializable
  exact hserializable.1 rfl

/-- Keys that `sorted` takes have texts of their own. -/
theorem nodup_keyText {keys : List RawScalar} (hcomparable : RawScalar.comparable keys = true)
    (hw : ∀ key ∈ keys, key.WellFormed) (h : ∀ key ∈ keys, key.Serializable)
    (hnodup : keys.Nodup) : (keys.map RawScalar.keyText).Nodup := by
  have hkinds : (∀ key ∈ keys, ∀ other ∈ keys, key.isStr = other.isStr) →
      (keys.map RawScalar.keyText).Nodup := fun hkind =>
    List.Nodup.map_on (fun key hkey other hother heq => RawScalar.keyText_injective (hw key hkey)
      (hw other hother) (h key hkey) (h other hother) (hkind key hkey other hother) heq) hnodup
  simp only [RawScalar.comparable, Bool.or_eq_true, List.all_eq_true, decide_eq_true_eq]
    at hcomparable
  rcases hcomparable with (hstr | hnumber) | hlength
  · exact hkinds fun key hkey other hother => by rw [hstr key hkey, hstr other hother]
  · have hno : ∀ key ∈ keys, key.isStr = false := by
      intro key hkey
      have hkind := hnumber key hkey
      cases key <;> first | rfl | cases hkind
    exact hkinds fun key hkey other hother => by rw [hno key hkey, hno other hother]
  · match keys, hlength with
    | [], _ => exact List.nodup_nil
    | [key], _ => exact List.nodup_singleton _

/-- What `json.dumps` writes of a value. -/
structure Written (depth : Nat) (json : Json) : Prop where
  wellFormed : json.WellFormed
  refusal : JsonText.refusal canonical depth json = none
  texts : json.Strings IsText

def printedEntry (entry : RawScalar × Json) : Units × Json := (entry.1.keyText, entry.2)

omit [JsonLimits] in
theorem toJson_dict (entries : List (RawScalar × RawValue)) : (RawValue.dict entries).toJson =
    .obj (((entries.map writtenEntry).insertionSort entryLE).map printedEntry) := by
  rw [toJson, toEntries_eq]
  rfl

theorem written_items {items : List RawValue} {depth : Nat}
    (h : ∀ item ∈ items, Written depth item.toJson) :
    Written (depth + 1) (.arr (toItems items)) := by
  have hall : ∀ json ∈ toItems items, Written depth json := by
    intro json hjson
    rw [toItems_eq] at hjson
    obtain ⟨item, hitem, rfl⟩ := List.mem_map.mp hjson
    exact h item hitem
  exact ⟨.arr _ fun json hjson => (hall json hjson).wellFormed,
    (JsonText.refusalItems_eq_none canonical).mpr fun json hjson => (hall json hjson).refusal,
    .arr _ fun json hjson => (hall json hjson).texts⟩

theorem toJson_written {value : RawValue} {depth : Nat} (hw : value.WellFormed)
    (h : value.Serializable depth) : Written depth value.toJson := by
  induction h with
  | scalar depth h =>
    obtain ⟨hw⟩ := hw
    exact ⟨RawScalar.toJson_wellFormed hw, RawScalar.toJson_refusal h depth,
      RawScalar.toJson_texts h⟩
  | list _ ih =>
    obtain - | hw := hw
    exact written_items fun item hitem => ih item hitem (hw item hitem)
  | tuple _ ih =>
    obtain - | - | hw := hw
    exact written_items fun item hitem => ih item hitem (hw item hitem)
  | @dict entries depth hcomparable hkeys _ ih =>
    obtain - | - | - | ⟨hdistinct, hfloats, hw⟩ := hw
    have hperm := List.perm_insertionSort entryLE (entries.map writtenEntry)
    have hall : ∀ printed ∈ ((entries.map writtenEntry).insertionSort entryLE).map printedEntry,
        IsText printed.1 ∧ Written depth printed.2 := by
      intro printed hprinted
      obtain ⟨written, hwritten, rfl⟩ := List.mem_map.mp hprinted
      obtain ⟨entry, hentry, rfl⟩ := List.mem_map.mp (hperm.subset hwritten)
      exact ⟨RawScalar.keyText_isText (hfloats entry hentry) (hkeys entry hentry),
        ih entry hentry (hw entry hentry)⟩
    have hnodup : ((((entries.map writtenEntry).insertionSort entryLE).map printedEntry).map
        Prod.fst).Nodup := by
      have htexts : (entries.map writtenEntry).map (Prod.fst ∘ printedEntry) =
          (entries.map Prod.fst).map RawScalar.keyText := by
        rw [List.map_map, List.map_map]
        rfl
      rw [List.map_map, (hperm.map _).nodup_iff, htexts]
      have hserializable : ∀ key ∈ entries.map Prod.fst, key.Serializable := by
        simpa only [List.forall_mem_map] using hkeys
      refine nodup_keyText hcomparable ?_ hserializable (nodup_of_distinct hserializable hdistinct)
      simpa only [List.forall_mem_map] using hfloats
    rw [toJson_dict]
    exact ⟨.obj _ hnodup fun printed h => (hall printed h).2.wellFormed,
      (JsonText.refusalEntries_eq_none canonical).mpr fun printed h => (hall printed h).2.refusal,
      .obj _ (fun printed h => (hall printed h).1) fun printed h => (hall printed h).2.texts⟩

/-- A value is accepted when the guard finds nothing and it can be written and encoded. -/
theorem toCanonicalJson_eq_ok {value : RawValue} {bytes : Bytes} :
    value.toCanonicalJson = .ok bytes ↔ ¬value.NonStringKey false ∧
      value.Serializable JsonLimits.depth ∧
      encodeUtf8 (print canonical 0 value.toJson) = some bytes := by
  unfold toCanonicalJson dumps
  rw [← refuseNonStringKeys_eq_ok, serializable_iff]
  cases hguard : value.refuseNonStringKeys with
  | error e => simp [bind, Except.bind]
  | ok =>
    cases hrefusal : value.refusal JsonLimits.depth with
    | some e => simp [bind, Except.bind]
    | none =>
      cases hencodable : value.encodable with
      | false => simp [bind, Except.bind]
      | true => simp [bind, Except.bind, orRaise_eq_ok]

section Data

/-- What a list or a tuple holds. -/
def items? : RawValue → Option (List RawValue)
  | .list items => some items
  | .tuple items => some items
  | _ => none

/-- Equal as JSON data: a tuple counts as the list of its items, and dictionaries have the same keys,
each with its type, in any order. -/
inductive SameData : RawValue → RawValue → Prop
  | scalar (value : RawScalar) : SameData (.scalar value) (.scalar value)
  | items {value other : RawValue} {items others : List RawValue} (hvalue : value.items? = some items)
      (hother : other.items? = some others) (h : List.Forall₂ SameData items others) :
      SameData value other
  | dict {entries arranged others : List (RawScalar × RawValue)} (hperm : arranged.Perm others)
      (hkeys : entries.map Prod.fst = arranged.map Prod.fst)
      (h : List.Forall₂ SameData (entries.map Prod.snd) (arranged.map Prod.snd)) :
      SameData (.dict entries) (.dict others)

omit [JsonLimits] [FloatText] in
theorem forall₂_of_map_eq {α β γ : Type} {R : α → β → Prop} {f : α → γ} {g : β → γ} {xs : List α}
    {ys : List β} (hR : ∀ x ∈ xs, ∀ y ∈ ys, f x = g y → R x y) (h : xs.map f = ys.map g) :
    List.Forall₂ R xs ys := by
  induction xs generalizing ys with
  | nil =>
    rw [List.map_eq_nil_iff.mp h.symm]
    exact .nil
  | cons x xs ih =>
    cases ys with
    | nil => cases h
    | cons y ys =>
      obtain ⟨hxy, hrest⟩ := List.cons.inj h
      exact .cons (hR x List.mem_cons_self y List.mem_cons_self hxy)
        (ih (fun a ha b hb => hR a (List.mem_cons_of_mem x ha) b (List.mem_cons_of_mem y hb)) hrest)

/-- All keys are strings, and the value can be written. -/
structure StringKeyed (depth : Nat) (value : RawValue) : Prop where
  wellFormed : value.WellFormed
  serializable : value.Serializable depth
  keys : ¬value.NonStringKey true

theorem StringKeyed.items {depth : Nat} {value : RawValue} (h : value.StringKeyed depth)
    {items : List RawValue} (hitems : value.items? = some items) :
    value.toJson = .arr (items.map toJson) ∧
      ∃ room, ∀ item ∈ items, item.StringKeyed room := by
  cases value with
  | scalar => cases hitems
  | dict => cases hitems
  | list items =>
    cases hitems
    obtain - | hw := h.wellFormed
    obtain - | hserializable := h.serializable
    exact ⟨by rw [toJson, toItems_eq], _, fun item hitem =>
      ⟨hw item hitem, hserializable item hitem, fun hkey => h.keys (.inList hitem hkey)⟩⟩
  | tuple items =>
    cases hitems
    obtain - | - | hw := h.wellFormed
    obtain - | - | hserializable := h.serializable
    exact ⟨by rw [toJson, toItems_eq], _, fun item hitem =>
      ⟨hw item hitem, hserializable item hitem, fun hkey => h.keys (.inTuple rfl hitem hkey)⟩⟩

theorem StringKeyed.entries {depth : Nat} {entries : List (RawScalar × RawValue)}
    (h : (RawValue.dict entries).StringKeyed depth) :
    (∀ entry ∈ entries, entry.1.isStr = true ∧ entry.1.WellFormed ∧ entry.1.Serializable) ∧
      ∃ room, ∀ entry ∈ entries, entry.2.StringKeyed room := by
  obtain - | - | - | ⟨-, hfloats, hw⟩ := h.wellFormed
  obtain - | - | - | ⟨-, hkeys, hserializable⟩ := h.serializable
  refine ⟨fun entry hentry => ⟨?_, hfloats entry hentry, hkeys entry hentry⟩, _,
    fun entry hentry => ⟨hw entry hentry, hserializable entry hentry, fun hkey =>
      h.keys (.inDict hentry hkey)⟩⟩
  by_contra hstr
  exact h.keys (.here hentry (by simpa using hstr))

/-- Dictionaries that are written alike have the same entries, once each value is taken for what is
written of it. -/
theorem StringKeyed.perm_writtenEntry {depth depth' : Nat}
    {entries others : List (RawScalar × RawValue)} (h : (RawValue.dict entries).StringKeyed depth)
    (h' : (RawValue.dict others).StringKeyed depth')
    (heq : (RawValue.dict entries).toJson = (RawValue.dict others).toJson) :
    (entries.map writtenEntry).Perm (others.map writtenEntry) := by
  rw [toJson_dict, toJson_dict, Json.obj.injEq] at heq
  have hperm := List.perm_insertionSort entryLE (entries.map writtenEntry)
  have hperm' := List.perm_insertionSort entryLE (others.map writtenEntry)
  have hsorted : (entries.map writtenEntry).insertionSort entryLE =
      (others.map writtenEntry).insertionSort entryLE := by
    rw [← List.forall₂_eq_eq_eq]
    refine forall₂_of_map_eq (fun written hwritten written' hwritten' hprinted => ?_) heq
    obtain ⟨entry, hentry, rfl⟩ := List.mem_map.mp (hperm.subset hwritten)
    obtain ⟨other, hother, rfl⟩ := List.mem_map.mp (hperm'.subset hwritten')
    obtain ⟨htext, hjson⟩ := Prod.mk.inj hprinted
    obtain ⟨hstr, hw, hserializable⟩ := h.entries.1 entry hentry
    obtain ⟨hstr', hw', hserializable'⟩ := h'.entries.1 other hother
    exact Prod.ext (RawScalar.keyText_injective hw hw' hserializable hserializable'
      (hstr.trans hstr'.symm) htext) hjson
  exact hperm.symm.trans (hsorted ▸ hperm')

omit [JsonLimits] in
theorem items?_of_toJson {other : RawValue} {jsons : List Json} (h : other.toJson = .arr jsons) :
    ∃ others, other.items? = some others := by
  cases other with
  | scalar value => cases value <;> cases h
  | list items => exact ⟨items, rfl⟩
  | tuple items => exact ⟨items, rfl⟩
  | dict entries =>
    rw [toJson_dict] at h
    cases h

/-- That what is written alike is equal as data. -/
def NamesData (value : RawValue) : Prop := ∀ {depth depth' : Nat} {other : RawValue},
  value.StringKeyed depth → other.StringKeyed depth' → value.toJson = other.toJson →
    SameData value other

theorem namesData_items {value : RawValue} {items : List RawValue}
    (hitems : value.items? = some items) (ih : ∀ item ∈ items, NamesData item) :
    NamesData value := by
  intro depth depth' other h h' heq
  obtain ⟨hjson, _, hall⟩ := h.items hitems
  rw [hjson] at heq
  obtain ⟨others, hothers⟩ := items?_of_toJson heq.symm
  obtain ⟨hjson', _, hall'⟩ := h'.items hothers
  rw [hjson', Json.arr.injEq] at heq
  exact .items hitems hothers (forall₂_of_map_eq (fun item hitem item' hitem' heq =>
    ih item hitem (hall item hitem) (hall' item' hitem') heq) heq)

/-- Values that are written alike are equal as data. -/
theorem namesData (value : RawValue) : NamesData value := by
  induction value using RawValue.induction with
  | scalar value =>
    intro depth depth' other h h' heq
    cases other with
    | scalar other =>
      obtain ⟨-, hserializable⟩ := h.serializable
      obtain ⟨-, hserializable'⟩ := h'.serializable
      rw [RawScalar.toJson_injective hserializable hserializable' heq]
      exact .scalar other
    | list => cases value <;> cases heq
    | tuple => cases value <;> cases heq
    | dict others =>
      rw [toJson_dict] at heq
      cases value <;> cases heq
  | list items ih => exact namesData_items rfl ih
  | tuple items ih => exact namesData_items rfl ih
  | dict entries ih =>
    intro depth depth' other h h' heq
    cases other with
    | scalar other =>
      rw [toJson_dict] at heq
      cases other <;> cases heq
    | list =>
      rw [toJson_dict] at heq
      cases heq
    | tuple =>
      rw [toJson_dict] at heq
      cases heq
    | dict others =>
      have hperm : Relation.Comp (fun written entries => written = List.map writtenEntry entries)
          List.Perm (entries.map writtenEntry) others := by
        rw [List.eq_map_comp_perm]
        exact h.perm_writtenEntry h' heq
      obtain ⟨arranged, hwritten, harranged⟩ := hperm
      obtain ⟨-, _, hall⟩ := h.entries
      obtain ⟨-, _, hall'⟩ := h'.entries
      refine .dict harranged ?_ ?_
      · have hkeys := congrArg (List.map Prod.fst) hwritten
        rw [List.map_map, List.map_map] at hkeys
        exact hkeys
      · rw [List.forall₂_map_left_iff, List.forall₂_map_right_iff]
        refine forall₂_of_map_eq (fun entry hentry other hother heq => ?_) hwritten
        exact ih entry hentry (hall entry hentry) (hall' other (harranged.subset hother))
          (Prod.mk.inj heq).2

end Data

section Injective

/-- What the digest chain asks of two values: a key that is not a string is refused, and what is
accepted with the same bytes is the same data. -/
structure Injective (value other : RawValue) : Prop where
  refuses : value.NonStringKey true → ∀ bytes, value.toCanonicalJson ≠ .ok bytes
  refuses' : other.NonStringKey true → ∀ bytes, other.toCanonicalJson ≠ .ok bytes
  sameData : ∀ bytes, value.toCanonicalJson = .ok bytes → other.toCanonicalJson = .ok bytes →
    SameData value other

omit [FloatText] in
/-- A key that is not a string is outside all tuples, unless the value cannot be written. -/
def Guarded (value : RawValue) : Prop :=
  value.NonStringKey true → value.NonStringKey false ∨ ¬value.Serializable JsonLimits.depth

theorem refuses_iff {value : RawValue} (hw : value.WellFormed) :
    (value.NonStringKey true → ∀ bytes, value.toCanonicalJson ≠ .ok bytes) ↔ value.Guarded := by
  constructor
  · intro hrefuses hkey
    by_contra hhidden
    obtain ⟨hshown, hserializable⟩ := not_or.mp hhidden
    have hserializable := not_not.mp hserializable
    have hwritten := toJson_written hw hserializable
    have htext : IsText (print canonical 0 value.toJson) :=
      composed_isText.print (fun _ => isText_printString) hwritten.wellFormed hwritten.texts 0
    obtain ⟨bytes, hbytes⟩ := htext.encodeUtf8
    exact hrefuses hkey bytes (toCanonicalJson_eq_ok.mpr ⟨hshown, hserializable, hbytes⟩)
  · intro hguarded hkey bytes h
    obtain ⟨hshown, hserializable, -⟩ := toCanonicalJson_eq_ok.mp h
    exact (hguarded hkey).elim hshown fun hnot => hnot hserializable

theorem sameData_of_bytes {value other : RawValue} (hw : value.WellFormed) (hw' : other.WellFormed)
    (hguarded : value.Guarded) (hguarded' : other.Guarded) {bytes : Bytes}
    (h : value.toCanonicalJson = .ok bytes) (h' : other.toCanonicalJson = .ok bytes) :
    SameData value other := by
  have haccepted : ∀ {value : RawValue}, value.WellFormed → value.Guarded →
      value.toCanonicalJson = .ok bytes → value.StringKeyed JsonLimits.depth ∧
        Written JsonLimits.depth value.toJson ∧
        encodeUtf8 (print canonical 0 value.toJson) = some bytes := by
    intro value hw hguarded h
    obtain ⟨-, hserializable, hbytes⟩ := toCanonicalJson_eq_ok.mp h
    exact ⟨⟨hw, hserializable, fun hkey => (refuses_iff hw).mpr hguarded hkey bytes h⟩,
      toJson_written hw hserializable, hbytes⟩
  obtain ⟨hkeyed, hwritten, hbytes⟩ := haccepted hw hguarded h
  obtain ⟨hkeyed', hwritten', hbytes'⟩ := haccepted hw' hguarded' h'
  have htexts : ∀ {json : Json}, Written JsonLimits.depth json →
      IsText (print canonical 0 json) := fun hwritten =>
    composed_isText.print (fun _ => isText_printString) hwritten.wellFormed hwritten.texts 0
  have htext := (htexts hwritten).encodeUtf8_injective (htexts hwritten')
    (hbytes.trans hbytes'.symm)
  exact namesData value hkeyed hkeyed' (print_injective canonical hwritten.wellFormed
    hwritten'.wellFormed hwritten.refusal hwritten'.refusal htext)

/-- Canonical JSON is injective on two values exactly when no key that is not a string hides in a
tuple of one that can be written. -/
theorem canonical_injective_iff {value other : RawValue} (hw : value.WellFormed)
    (hw' : other.WellFormed) : Injective value other ↔ value.Guarded ∧ other.Guarded := by
  constructor
  · intro h
    exact ⟨(refuses_iff hw).mp h.refuses, (refuses_iff hw').mp h.refuses'⟩
  · rintro ⟨hguarded, hguarded'⟩
    exact ⟨(refuses_iff hw).mpr hguarded, (refuses_iff hw').mpr hguarded', fun _ h h' =>
      sameData_of_bytes hw hw' hguarded hguarded' h h'⟩

end Injective

end RawValue

section Sample

open RawValue

attribute [local instance] JsonLimits.default FloatText.halves

def sampleDict (key : RawScalar) : RawValue := .dict [(key, .scalar (.str (pointsOf "a")))]

theorem sampleDict_wellFormed {key : RawScalar} (h : ∀ f, key ≠ .float f) :
    (sampleDict key).WellFormed := by
  have hscalar : ∀ {scalar : RawScalar}, (∀ f, scalar ≠ .float f) → scalar.WellFormed :=
    fun h q hq => absurd hq (h _)
  refine .dict (List.pairwise_singleton _ _) (List.forall_mem_singleton.mpr (hscalar h))
    (List.forall_mem_singleton.mpr (.scalar (hscalar ?_)))
  rintro f ⟨⟩

theorem sampleTuple_wellFormed {key : RawScalar} (h : ∀ f, key ≠ .float f) :
    (RawValue.tuple [sampleDict key]).WellFormed :=
  .tuple (List.forall_mem_singleton.mpr (sampleDict_wellFormed h))

/-- A number and its text, as keys of dictionaries in tuples, are written alike. -/
theorem canonical_tuple_collision : ∃ value other : RawValue, ∃ bytes,
    value.NonStringKey true ∧ value.toCanonicalJson = .ok bytes ∧
      other.toCanonicalJson = .ok bytes ∧ ¬RawValue.Injective value other := by
  have hkey : (RawValue.tuple [sampleDict (.int 1)]).NonStringKey true :=
    .inTuple rfl List.mem_cons_self (.here List.mem_cons_self rfl)
  obtain ⟨bytes, h, h'⟩ : ∃ bytes,
      (RawValue.tuple [sampleDict (.int 1)]).toCanonicalJson = .ok bytes ∧
      (RawValue.tuple [sampleDict (.str (pointsOf "1"))]).toCanonicalJson = .ok bytes :=
    ⟨[91, 123, 34, 49, 34, 58, 34, 97, 34, 125, 93], by decide +kernel, by decide +kernel⟩
  exact ⟨_, _, bytes, hkey, h, h', fun hinjective => hinjective.refuses hkey bytes h⟩

/-- A dictionary with a number for a key, and one in a tuple whose key is a string. -/
theorem canonical_injective_iff_exposed : RawValue.Injective (sampleDict (.int 1))
    (.tuple [sampleDict (.str (pointsOf "1"))]) := by
  refine (canonical_injective_iff (sampleDict_wellFormed ?_) (sampleTuple_wellFormed ?_)).mpr
    ⟨fun _ => .inl (.here List.mem_cons_self rfl), fun hkey => ?_⟩
  · rintro f ⟨⟩
  · rintro f ⟨⟩
  · obtain - | - | - | ⟨-, hitem, hkey⟩ := hkey
    rw [List.mem_singleton.mp hitem] at hkey
    obtain ⟨hentry, hstr⟩ | ⟨hentry, hkey⟩ := hkey
    · rw [List.mem_singleton.mp hentry] at hstr
      cases hstr
    · rw [List.mem_singleton.mp hentry] at hkey
      cases hkey

end Sample

end Sectum
