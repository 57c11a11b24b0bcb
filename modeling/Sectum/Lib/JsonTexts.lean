import Sectum.Lib.JsonAscii

/-! A document whose strings are texts, with no surrogate alone, is written as a text, which UTF-8
encodes. -/

namespace Py

open JsonText

/-- The units of characters. -/
def IsText (text : Units) : Prop := ∃ chars : List Char, text = chars.flatMap charUnits

theorem isText_units (s : String) : IsText (units s) := ⟨s.toList, rfl⟩

theorem IsText.append {text text' : Units} (h : IsText text) (h' : IsText text') :
    IsText (text ++ text') := by
  obtain ⟨chars, rfl⟩ := h
  obtain ⟨chars', rfl⟩ := h'
  exact ⟨chars ++ chars', List.flatMap_append.symm⟩

theorem IsText.encodeUtf8 {text : Units} (h : IsText text) :
    ∃ data, Py.encodeUtf8 text = some data := by
  obtain ⟨chars, rfl⟩ := h
  exact ⟨_, by rw [Py.encodeUtf8, charsOf_flatMap, Option.map_some]⟩

theorem IsText.encodeUtf8_injective {text text' : Units} (h : IsText text) (h' : IsText text')
    (heq : Py.encodeUtf8 text = Py.encodeUtf8 text') : text = text' := by
  obtain ⟨chars, rfl⟩ := h
  obtain ⟨chars', rfl⟩ := h'
  rw [Py.encodeUtf8, Py.encodeUtf8, charsOf_flatMap, charsOf_flatMap, Option.map_some, Option.map_some,
    Option.some_inj] at heq
  have hbytes : (String.ofList chars).toUTF8 = (String.ofList chars').toUTF8 :=
    ByteArray.ext (Array.toList_inj.mp heq)
  rw [String.ofList_injective (String.toByteArray_inj.mp hbytes)]

theorem IsAscii.isText {text : Units} (h : IsAscii text) : IsText text := by
  refine ⟨text.map fun u => Char.ofNat u.toNat, ?_⟩
  have hchar : ∀ u ∈ text, charUnits (Char.ofNat u.toNat) = [u] := by
    intro u hu
    have hall : ∀ n : Fin 0x80, charUnits (Char.ofNat n) = [n.val.toUInt16] := by decide +kernel
    rw [hall ⟨u.toNat, (h u hu).2⟩]
    simp
  rw [List.flatMap_map, List.flatMap_congr hchar, List.flatMap_singleton']

theorem composed_isText : Composed IsText := ⟨.append, IsAscii.isText⟩

section Strings

variable {style : Style}

/-- A unit beyond ASCII is written as it is where `ensure_ascii` is off. -/
theorem printUnit_shown (hascii : style.ascii = false) {u : UInt16} (hu : 126 < u.toNat) :
    printUnit style u = [u] := by
  have hescapes : ∀ escape ∈ escapes, escape.2.toNat ≤ 126 :=
    List.forall_iff_forall_mem.mp (by decide +kernel)
  have hfind : escapes.find? (fun escape => escape.2 = u) = none := by
    rw [List.find?_eq_none]
    intro escape hmem heq
    have hle := hescapes escape hmem
    rw [of_decide_eq_true heq] at hle
    omega
  rw [printUnit, hfind, if_neg (by rw [hascii]; simp; omega)]

/-- A character that one unit beyond ASCII belongs to has only such units. -/
theorem lt_of_mem_charUnits {c : Char} {u : UInt16} (hu : u ∈ charUnits c) (h : 126 < u.toNat) :
    ∀ v ∈ charUnits c, 126 < v.toNat := by
  unfold charUnits at *
  split at hu
  · rename_i hplane
    rw [List.mem_singleton] at hu
    intro v hv
    rw [if_pos hplane, List.mem_singleton] at hv
    rwa [hv, ← hu]
  · rename_i hplane
    have hc := char_range c
    intro v hv
    rw [if_neg hplane] at hv
    rcases List.mem_pair.mp hv with rfl | rfl
    all_goals
      rw [Nat.toUInt16, UInt16.toNat_ofNat']
      omega

theorem isText_printChar (c : Char) : IsText ((charUnits c).flatMap (printUnit style)) := by
  by_cases hplain : ∀ u ∈ charUnits c, style.ascii = true ∨ u.toNat ≤ 126
  · refine IsAscii.isText fun u hu => ?_
    obtain ⟨v, hv, hu⟩ := List.mem_flatMap.mp hu
    exact isAscii_printUnit (hplain v hv) u hu
  · push Not at hplain
    obtain ⟨u, hu, hascii, hlarge⟩ := hplain
    have hshown : ∀ u ∈ charUnits c, printUnit style u = [u] := fun v hv =>
      printUnit_shown (Bool.eq_false_iff.mpr hascii) (lt_of_mem_charUnits hu hlarge v hv)
    rw [List.flatMap_congr hshown, List.flatMap_singleton']
    exact ⟨[c], by simp⟩

theorem isText_printString {s : Units} (h : IsText s) : IsText (printString style s) := by
  obtain ⟨chars, rfl⟩ := h
  refine .append ?_ (IsAscii.isText (.cons (by decide) isAscii_nil))
  induction chars with
  | nil => exact ⟨[], rfl⟩
  | cons c chars ih =>
    rw [List.flatMap_cons, List.flatMap_append]
    exact (isText_printChar c).append ih

end Strings

variable [JsonLimits] [FloatText]

/-- What is written of texts is encoded. -/
theorem encodeUtf8_dumps {style : Style} {value : Json} (hw : value.WellFormed)
    (hs : value.Strings IsText) {text : Units} (h : dumps style value = .ok text) :
    ∃ data, encodeUtf8 text = some data := by
  obtain ⟨-, rfl⟩ := dumps_eq_ok.mp h
  exact (composed_isText.print (fun _ => isText_printString) hw.sorted hs.sorted 0).encodeUtf8

end Py
