import Mathlib.Data.List.Lex
import Mathlib.Data.List.Sort
import Mathlib.Data.Nat.Digits.Lemmas
import Mathlib.Data.Rat.Defs
import Sectum.Lib.Dict

/-! JSON documents and `json.dumps`.

A string of a document is a sequence of UTF-16 code units, as its escapes spell it: an escaped
surrogate that has no partner is a unit of its own, and stays one when the document is read. -/

namespace Py

/-- Text as UTF-16 code units. -/
abbrev Units := List UInt16

instance Units.lawfulBEq : LawfulBEq Units := inferInstance

/-- The code unit of a character of the basic plane. -/
def unit (c : Char) : UInt16 := c.toNat.toUInt16

def charUnits (c : Char) : Units :=
  if c.toNat < 0x10000 then [unit c]
  else
    [(0xd800 + (c.toNat - 0x10000) / 0x400).toUInt16,
      (0xdc00 + (c.toNat - 0x10000) % 0x400).toUInt16]

def units (text : String) : Units := text.toList.flatMap charUnits

def isHigh (u : UInt16) : Bool := 0xd800 ≤ u.toNat && u.toNat < 0xdc00

def isLow (u : UInt16) : Bool := 0xdc00 ≤ u.toNat && u.toNat < 0xe000

/-- The characters of a text, or `none` where a surrogate has no partner: such a text cannot be
encoded. -/
def charsOf : Units → Option (List Char)
  | [] => some []
  | [u] => if isHigh u || isLow u then none else some [Char.ofNat u.toNat]
  | u :: v :: rest =>
    if isHigh u then
      if isLow v then
        (charsOf rest).map
          (Char.ofNat (0x10000 + (u.toNat - 0xd800) * 0x400 + (v.toNat - 0xdc00)) :: ·)
      else none
    else if isLow u then none
    else (charsOf (v :: rest)).map (Char.ofNat u.toNat :: ·)

/-- The code points of a text, which is what Python compares. -/
def codePoints : Units → List Nat
  | [] => []
  | [u] => [u.toNat]
  | u :: v :: rest =>
    if isHigh u && isLow v then
      (0x10000 + (u.toNat - 0xd800) * 0x400 + (v.toNat - 0xdc00)) :: codePoints rest
    else u.toNat :: codePoints (v :: rest)

theorem char_range (c : Char) :
    c.toNat < 0xd800 ∨ 0xdfff < c.toNat ∧ c.toNat < 0x110000 := c.valid

theorem charsOf_charUnits (c : Char) (rest : Units) :
    charsOf (charUnits c ++ rest) = (charsOf rest).map (c :: ·) := by
  have hc := char_range c
  unfold charUnits
  split
  · rename_i hplane
    have hunit : (unit c).toNat = c.toNat := by
      unfold unit
      rw [Nat.toUInt16, UInt16.toNat_ofNat']
      omega
    have hhigh : isHigh (unit c) = false := by
      unfold isHigh
      rw [hunit]
      simp only [Bool.and_eq_false_iff, decide_eq_false_iff_not]
      omega
    have hlow : isLow (unit c) = false := by
      unfold isLow
      rw [hunit]
      simp only [Bool.and_eq_false_iff, decide_eq_false_iff_not]
      omega
    cases rest with
    | nil => simp [charsOf, hhigh, hlow, hunit, Char.ofNat_toNat]
    | cons v rest => simp [charsOf, hhigh, hlow, hunit, Char.ofNat_toNat]
  · rename_i hplane
    have hfirst : ((0xd800 + (c.toNat - 0x10000) / 0x400).toUInt16).toNat =
        0xd800 + (c.toNat - 0x10000) / 0x400 := by
      rw [Nat.toUInt16, UInt16.toNat_ofNat']
      omega
    have hsecond : ((0xdc00 + (c.toNat - 0x10000) % 0x400).toUInt16).toNat =
        0xdc00 + (c.toNat - 0x10000) % 0x400 := by
      rw [Nat.toUInt16, UInt16.toNat_ofNat']
      omega
    have hhigh : isHigh (0xd800 + (c.toNat - 0x10000) / 0x400).toUInt16 = true := by
      unfold isHigh
      rw [hfirst]
      simp only [Bool.and_eq_true, decide_eq_true_eq]
      omega
    have hlow : isLow (0xdc00 + (c.toNat - 0x10000) % 0x400).toUInt16 = true := by
      unfold isLow
      rw [hsecond]
      simp only [Bool.and_eq_true, decide_eq_true_eq]
      omega
    have hcode : 0x10000 + (0xd800 + (c.toNat - 0x10000) / 0x400 - 0xd800) * 0x400 +
        (0xdc00 + (c.toNat - 0x10000) % 0x400 - 0xdc00) = c.toNat := by
      omega
    simp only [List.cons_append, List.nil_append, charsOf, hhigh, hlow, if_true, hfirst, hsecond,
      hcode, Char.ofNat_toNat]

theorem charsOf_flatMap (cs : List Char) : charsOf (cs.flatMap charUnits) = some cs := by
  induction cs with
  | nil => rfl
  | cons c cs ih => rw [List.flatMap_cons, charsOf_charUnits, ih, Option.map_some]

theorem charsOf_units (text : String) : charsOf (units text) = some text.toList :=
  charsOf_flatMap text.toList

theorem units_injective : Function.Injective units := by
  intro a b h
  have hchars := (charsOf_units a).symm.trans ((congrArg charsOf h).trans (charsOf_units b))
  exact String.toList_injective (Option.some.inj hchars)

/-- A `float`, of which the finite ones are rationals, but for the zero that has a sign. -/
inductive PyFloat
  | finite (q : ℚ)
  | negativeZero
  | infinity (negative : Bool)
  | nan
  deriving DecidableEq, Repr

/-- What `json.loads` returns.  The keys of an object are in the order of the dictionary. -/
inductive Json
  | null
  | bool (b : Bool)
  | int (n : Int)
  | float (f : PyFloat)
  | str (s : Units)
  | arr (items : List Json)
  | obj (entries : List (Units × Json))
  deriving Repr

namespace Json

def text (s : String) : Json := .str (units s)

/-- A dictionary display with distinct keys. -/
def object (entries : List (String × Json)) : Json :=
  .obj (entries.map fun entry => (units entry.1, entry.2))

/-- `value.get(key)`, where `value` is a dictionary. -/
def get (value : Json) (key : String) : Option Json :=
  match value with
  | .obj entries => (entries.find? fun entry => entry.1 = units key).map Prod.snd
  | _ => none

@[simp] theorem get_object (entries : List (String × Json)) (key : String) :
    (object entries).get key = (entries.find? fun entry => entry.1 = key).map Prod.snd := by
  rw [object, get, List.find?_map]
  have hkeys : (fun entry : Units × Json => decide (entry.1 = units key)) ∘
      (fun entry : String × Json => (units entry.1, entry.2)) =
      fun entry : String × Json => decide (entry.1 = key) := by
    funext entry
    exact decide_eq_decide.mpr units_injective.eq_iff
  rw [hkeys, Option.map_map]
  rfl

/-- A property of every document: one that the containers have when what they contain does. -/
theorem induction {motive : Json → Prop} (null : motive .null) (bool : ∀ b, motive (.bool b))
    (int : ∀ n, motive (.int n)) (float : ∀ f, motive (.float f)) (str : ∀ s, motive (.str s))
    (arr : ∀ items : List Json, (∀ item ∈ items, motive item) → motive (.arr items))
    (obj : ∀ entries : List (Units × Json), (∀ entry ∈ entries, motive entry.2) →
      motive (.obj entries)) (value : Json) : motive value := by
  refine @Json.rec motive (fun items => ∀ item ∈ items, motive item)
    (fun entries => ∀ entry ∈ entries, motive entry.2) (fun entry => motive entry.2)
    null bool int float str arr obj ?_ ?_ ?_ ?_ ?_ value
  · simp
  · exact fun item items hitem hitems => List.forall_mem_cons.mpr ⟨hitem, hitems⟩
  · simp
  · exact fun entry entries hentry hentries => List.forall_mem_cons.mpr ⟨hentry, hentries⟩
  · exact fun _ _ h => h

section Sorting

def keyLE (a b : Units × Json) : Prop := codePoints a.1 ≤ codePoints b.1

instance : DecidableRel keyLE := fun a b =>
  inferInstanceAs (Decidable (codePoints a.1 ≤ codePoints b.1))

instance : IsTrans (Units × Json) keyLE := ⟨fun _ _ _ hab hbc => @le_trans (List Nat) _ _ _ _ hab hbc⟩

instance : Std.Total keyLE := ⟨fun a b => le_total (codePoints a.1) (codePoints b.1)⟩

mutual

/-- The document as `sort_keys` writes it. -/
def sorted : Json → Json
  | .arr items => .arr (sortedItems items)
  | .obj entries => .obj ((sortedEntries entries).insertionSort keyLE)
  | value => value
termination_by structural value => value

def sortedItems : List Json → List Json
  | [] => []
  | item :: items => item.sorted :: sortedItems items
termination_by structural items => items

def sortedEntries : List (Units × Json) → List (Units × Json)
  | [] => []
  | (key, value) :: entries => (key, value.sorted) :: sortedEntries entries
termination_by structural entries => entries

end

theorem sortedItems_eq (items : List Json) : sortedItems items = items.map sorted := by
  induction items with
  | nil => rfl
  | cons item items ih => rw [sortedItems, ih, List.map_cons]

def sortedEntry (entry : Units × Json) : Units × Json := (entry.1, entry.2.sorted)

theorem sortedEntries_eq (entries : List (Units × Json)) :
    sortedEntries entries = entries.map sortedEntry := by
  induction entries with
  | nil => rfl
  | cons entry entries ih =>
    obtain ⟨key, value⟩ := entry
    rw [sortedEntries, ih, List.map_cons]
    rfl

theorem sorted_sorted (value : Json) : value.sorted.sorted = value.sorted := by
  induction value using Json.induction with
  | null => rfl
  | bool => rfl
  | int => rfl
  | float => rfl
  | str => rfl
  | arr items ih =>
    rw [sorted, sortedItems_eq, sorted, sortedItems_eq, List.map_map]
    exact congrArg arr (List.map_congr_left ih)
  | obj entries ih =>
    have hentries : entries.map (sortedEntry ∘ sortedEntry) = entries.map sortedEntry :=
      List.map_congr_left fun entry hentry => by
        unfold sortedEntry
        exact Prod.ext rfl (ih entry hentry)
    rw [sorted, sortedEntries_eq, sorted, sortedEntries_eq, List.map_insertionSort keyLE keyLE
      sortedEntry _ fun _ _ _ _ => Iff.rfl, List.map_map, hentries]
    exact congrArg obj (List.Pairwise.insertionSort_eq (List.pairwise_insertionSort keyLE _))

end Sorting

end Json

end Py
