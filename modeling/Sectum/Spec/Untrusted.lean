import Sectum.Lib.Readable
import Sectum.Spec.Text

/-! `untrusted` on every string of Python, whose characters may be surrogates: what it writes is
printable and names one input. -/

namespace Sectum

open Py

/-- A character of a Python string. -/
abbrev CodePoint := Fin 0x110000

def codePoint (c : Char) : CodePoint := ⟨c.toNat, by
  have := c.valid
  simp only [UInt32.isValidChar, Nat.isValidChar] at this
  simp only [Char.toNat]
  omega⟩

def pointsOf (text : String) : List CodePoint := text.toList.map codePoint

/-- One character of `untrusted`: a backslash is doubled, and what is not printable is escaped. -/
def untrustedPoint (isPrintable : CodePoint → Bool) (char : CodePoint) : List CodePoint :=
  if char = codePoint '\\' then pointsOf "\\\\"
  else if isPrintable char then [char]
  else pointsOf (escape char)

/-- `untrusted`, for any predicate in the place of `str.isprintable`. -/
def untrustedPoints (isPrintable : CodePoint → Bool) (text : List CodePoint) : List CodePoint :=
  text.flatMap (untrustedPoint isPrintable)

/-- ASCII letters, digits and the backslash. -/
def IsPlain (c : Char) : Prop := c.isAlphanum = true ∨ c = '\\'

theorem codePoint_injective : Function.Injective codePoint := by
  intro c d h
  have hnat : c.toNat = d.toNat := Fin.mk.inj h
  rw [← Char.ofNat_toNat c, hnat, Char.ofNat_toNat]

theorem pointsOf_char (c : Char) : pointsOf c.toString = [codePoint c] := by
  simp [pointsOf, Char.toString]

theorem pointsOf_append (text more : String) :
    pointsOf (text ++ more) = pointsOf text ++ pointsOf more := by
  rw [pointsOf, String.toList_append, List.map_append]
  rfl

theorem pointsOf_injective : Function.Injective pointsOf := fun _ _ h =>
  String.toList_inj.mp (List.map_injective_iff.mpr codePoint_injective h)

theorem length_pointsOf (text : String) : (pointsOf text).length = text.toList.length :=
  List.length_map ..

/-- On a string without surrogates this is `untrusted`. -/
theorem pointsOf_untrusted [Unicode] {isPrintable : CodePoint → Bool}
    (h : ∀ c, isPrintable (codePoint c) = Unicode.isPrintable c) (text : String) :
    pointsOf (untrusted text) = untrustedPoints isPrintable (pointsOf text) := by
  have hchar : ∀ c : Char, pointsOf (if c = '\\' then "\\\\" else
      if Unicode.isPrintable c then c.toString else escape c.toNat) =
        untrustedPoint isPrintable (codePoint c) := by
    intro c
    unfold untrustedPoint
    rw [h c]
    by_cases hslash : c = '\\'
    · rw [if_pos hslash, if_pos (congrArg codePoint hslash)]
    · rw [if_neg hslash, if_neg fun heq => hslash (codePoint_injective heq)]
      split
      · exact pointsOf_char c
      · rfl
  unfold untrusted untrustedPoints pointsOf
  rw [String.toList_join, List.map_flatMap, List.flatMap_map, List.flatMap_map]
  exact List.flatMap_congr fun c _ => hchar c

section Escape

/-- The letter of an escape, and how many digits follow it. -/
def escapeForm (code : Nat) : Char × Nat :=
  if code < 0x100 then ('x', 2) else if code < 0x10000 then ('u', 4) else ('U', 8)

theorem escape_eq (code : Nat) : escape code =
    "\\" ++ ((escapeForm code).1.toString ++ hex (escapeForm code).2 code) := by
  unfold escape escapeForm
  rw [← String.append_assoc]
  split
  · rfl
  · split <;> rfl

theorem escapeForm_fits (char : CodePoint) :
    0 < (escapeForm char).2 ∧ char.val < 16 ^ (escapeForm char).2 := by
  have hbound := char.isLt
  unfold escapeForm
  split
  · exact ⟨by decide, by simpa⟩
  · split
    · exact ⟨by decide, by simpa⟩
    · exact ⟨by decide, by simp; omega⟩

/-- The letter of an escape says how many digits follow. -/
theorem escapeForm_letter {code other : Nat} (h : (escapeForm code).1 = (escapeForm other).1) :
    (escapeForm code).2 = (escapeForm other).2 := by
  unfold escapeForm at h ⊢
  split_ifs at h ⊢ <;> first | rfl | simp at h

theorem escapeForm_mem (code : Nat) : (escapeForm code).1 ∈ ['x', 'u', 'U'] := by
  unfold escapeForm
  split_ifs <;> simp

theorem pointsOf_escape (code : Nat) : pointsOf (escape code) = codePoint '\\' ::
    codePoint (escapeForm code).1 :: pointsOf (hex (escapeForm code).2 code) := by
  rw [escape_eq, pointsOf_append, pointsOf_append, pointsOf_char]
  rfl

/-- No escape begins another. -/
theorem escape_prefix {char other : CodePoint} {rest rest' : List CodePoint}
    (h : pointsOf (escape char) ++ rest = pointsOf (escape other) ++ rest') : char = other := by
  rw [pointsOf_escape, pointsOf_escape] at h
  obtain ⟨-, h⟩ := List.cons.inj h
  obtain ⟨hletter, h⟩ := List.cons.inj h
  have hwidth := escapeForm_letter (codePoint_injective hletter)
  have hlength : ∀ char : CodePoint,
      (pointsOf (hex (escapeForm char).2 char)).length = (escapeForm char).2 := by
    intro char
    obtain ⟨hpos, hfits⟩ := escapeForm_fits char
    rw [length_pointsOf, hex_length hpos hfits]
  obtain ⟨hdigits, -⟩ := List.append_inj h (by rw [hlength, hlength, hwidth])
  rw [hwidth] at hdigits
  exact Fin.ext (hex_injective _ (pointsOf_injective hdigits))

theorem isAlphanum_iff {c : Char} : c.isAlphanum = true ↔
    ((c.val ≥ 'A'.val ∧ c.val ≤ 'Z'.val) ∨ (c.val ≥ 'a'.val ∧ c.val ≤ 'z'.val)) ∨
      c.isDigit = true := by
  have hunfold : c.isAlphanum = ((decide (c.val ≥ 'A'.val ∧ c.val ≤ 'Z'.val) ||
      (decide (c.val ≥ 'a'.val) && decide (c.val ≤ 'z'.val))) || c.isDigit) := rfl
  rw [hunfold]
  simp only [Bool.or_eq_true, Bool.and_eq_true, decide_eq_true_eq]

theorem escape_plain (code : Nat) : ∀ c ∈ (escape code).toList, IsPlain c := by
  intro c hc
  rw [escape_eq, String.toList_append, String.toList_append] at hc
  rcases List.mem_append.mp hc with hc | hc
  · exact Or.inr (List.mem_singleton.mp hc)
  · left
    rcases List.mem_append.mp hc with hc | hc
    · have hc : c = (escapeForm code).1 := by simpa [Char.toString] using hc
      have hletters : ∀ letter ∈ ['x', 'u', 'U'], letter.isAlphanum = true :=
        List.all_eq_true.mp rfl
      rw [hc]
      exact hletters _ (escapeForm_mem code)
    · have hdigit := isHexDigit_hex _ _ c hc
      simp only [isHexDigit, Bool.or_eq_true, Bool.and_eq_true, decide_eq_true_eq] at hdigit
      refine isAlphanum_iff.mpr ?_
      obtain hdigit | ⟨hlow, hhigh⟩ := hdigit
      · exact Or.inr hdigit
      · exact Or.inl (Or.inr ⟨hlow, hhigh.trans (by decide)⟩)

end Escape

section Injective

variable {isPrintable : CodePoint → Bool}

variable (isPrintable) in
theorem untrustedPoint_cases (char : CodePoint) :
    (char = codePoint '\\' ∧ untrustedPoint isPrintable char = pointsOf "\\\\") ∨
    (char ≠ codePoint '\\' ∧ isPrintable char = true ∧ untrustedPoint isPrintable char = [char]) ∨
    (char ≠ codePoint '\\' ∧ untrustedPoint isPrintable char = pointsOf (escape char)) := by
  unfold untrustedPoint
  split
  · rename_i hslash
    exact Or.inl ⟨hslash, rfl⟩
  · rename_i hslash
    split
    · rename_i hprintable
      exact Or.inr (Or.inl ⟨hslash, hprintable, rfl⟩)
    · exact Or.inr (Or.inr ⟨hslash, rfl⟩)

theorem untrustedPoint_ne_nil (char : CodePoint) : untrustedPoint isPrintable char ≠ [] := by
  obtain ⟨-, h⟩ | ⟨-, -, h⟩ | ⟨-, h⟩ := untrustedPoint_cases isPrintable char
  · rw [h]
    exact List.cons_ne_nil _ _
  · rw [h]
    exact List.cons_ne_nil _ _
  · rw [h, pointsOf_escape]
    exact List.cons_ne_nil _ _

theorem slashes_ne_escape {char : CodePoint} {rest rest' : List CodePoint} :
    pointsOf "\\\\" ++ rest ≠ pointsOf (escape char) ++ rest' := by
  intro h
  rw [pointsOf_escape] at h
  have hsecond := (List.cons.inj (List.cons.inj h).2).1
  have hletter := escapeForm_mem char
  rw [← codePoint_injective hsecond] at hletter
  exact absurd hletter (by decide)

theorem untrustedPoint_prefix {char other : CodePoint} {rest rest' : List CodePoint}
    (h : untrustedPoint isPrintable char ++ rest = untrustedPoint isPrintable other ++ rest') :
    char = other := by
  obtain ⟨hchar, hword⟩ | ⟨hchar, -, hword⟩ | ⟨hchar, hword⟩ :=
    untrustedPoint_cases isPrintable char <;>
  obtain ⟨hother, hword'⟩ | ⟨hother, -, hword'⟩ | ⟨hother, hword'⟩ :=
    untrustedPoint_cases isPrintable other <;>
  rw [hword, hword'] at h
  · exact hchar.trans hother.symm
  · exact absurd (List.cons.inj h).1.symm hother
  · exact absurd h slashes_ne_escape
  · exact absurd (List.cons.inj h).1 hchar
  · exact (List.cons.inj h).1
  · rw [pointsOf_escape] at h
    exact absurd (List.cons.inj h).1 hchar
  · exact absurd h.symm slashes_ne_escape
  · rw [pointsOf_escape] at h
    exact absurd (List.cons.inj h).1.symm hother
  · exact escape_prefix h

/-- What `untrusted` writes is printable, and two strings that it writes alike are the same. -/
theorem untrusted_printable_injective
    (hplain : ∀ c, IsPlain c → isPrintable (codePoint c) = true) :
    (∀ text, ∀ char ∈ untrustedPoints isPrintable text, isPrintable char = true) ∧
      Function.Injective (untrustedPoints isPrintable) := by
  refine ⟨fun text char hchar => ?_,
    flatMap_injective_of_prefix untrustedPoint_ne_nil untrustedPoint_prefix⟩
  obtain ⟨source, -, hword⟩ := List.mem_flatMap.mp hchar
  obtain ⟨-, h⟩ | ⟨-, hprintable, h⟩ | ⟨-, h⟩ :=
    untrustedPoint_cases isPrintable source
  · rw [h] at hword
    have hslash : char = codePoint '\\' := by simpa [pointsOf] using hword
    rw [hslash]
    exact hplain '\\' (Or.inr rfl)
  · rw [h] at hword
    rw [List.mem_singleton.mp hword]
    exact hprintable
  · rw [h] at hword
    obtain ⟨c, hc, rfl⟩ := List.mem_map.mp hword
    exact hplain c (escape_plain source c hc)

/-- U+E0001 is not written like U+E000 with a digit behind it. -/
theorem untrusted_printable_injective_astral :
    let isPrintable : CodePoint → Bool := fun char => 0x20 ≤ char.val ∧ char.val < 0x7f
    (∀ char ∈ untrustedPoints isPrintable [0xe0001], isPrintable char = true) ∧
      untrustedPoints isPrintable [0xe0001] ≠ untrustedPoints isPrintable [0xe000, 0x31] := by
  intro isPrintable
  have hplain : ∀ c, IsPlain c → isPrintable (codePoint c) = true := by
    have hall : ∀ n : Fin 128, (Char.ofNat n).isAlphanum = true →
        0x20 ≤ (Char.ofNat n).toNat ∧ (Char.ofNat n).toNat < 0x7f := by decide
    rintro c (hc | rfl)
    · have hlow : c.toNat < 128 := by
        have hrange := isAlphanum_iff.mp hc
        simp [Char.isDigit, UInt32.le_iff_toNat_le] at hrange
        omega
      have hrange := hall ⟨c.toNat, hlow⟩
      simp only [Char.ofNat_toNat] at hrange
      exact decide_eq_true (hrange hc)
    · rfl
  obtain ⟨hprintable, hinjective⟩ := untrusted_printable_injective hplain
  exact ⟨hprintable _, fun h => absurd (hinjective h) (by decide)⟩

end Injective

end Sectum
