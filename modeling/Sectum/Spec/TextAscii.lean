import Sectum.Spec.TextSound

/-! The matching of texts around ASCII: a canary of ASCII characters is found in every text that it
stands in, whatever is before it, and no text is found in an empty one. -/

namespace Sectum

open Py

/-- The characters below 128. -/
def IsAsciiText (text : String) : Prop := ∀ c ∈ text.toList, c.toNat < 128

/-- The text is empty or begins with a character below 128. -/
def BeginsAscii (text : String) : Prop := ∀ c ∈ text.toList.head?, c.toNat < 128

theorem IsAsciiText.beginsAscii {text : String} (h : IsAsciiText text) : BeginsAscii text :=
  fun c hc => h c (List.mem_of_mem_head? hc)

theorem isAsciiText_of_all {text : String} (h : text.toList.all (fun c => c.toNat < 128) = true) :
    IsAsciiText text := fun c hc => of_decide_eq_true (List.all_eq_true.mp h c hc)

theorem beginsAscii_empty : BeginsAscii "" := fun c hc => by simp at hc

theorem isAsciiText_append {first second : String} :
    IsAsciiText (first ++ second) ↔ IsAsciiText first ∧ IsAsciiText second := by
  unfold IsAsciiText
  rw [String.toList_append, List.forall_mem_append]

theorem BeginsAscii.append {first second : String} (hfirst : IsAsciiText first)
    (hsecond : BeginsAscii second) : BeginsAscii (first ++ second) := by
  intro c hc
  rw [String.toList_append, List.head?_append] at hc
  cases hhead : first.toList.head? with
  | none => exact hsecond c (by simpa [hhead] using hc)
  | some d =>
    obtain rfl : d = c := by simpa [hhead] using hc
    exact hfirst d (List.mem_of_mem_head? hhead)

section Tables

variable [Unicode]

/-- What the tables do on ASCII: none of it is a format character, NFKC leaves it alone and composes
nothing with what is before it, and case folding goes character by character. -/
structure Unicode.OnAscii : Prop where
  notFormat : ∀ c : Char, c.toNat < 128 → Unicode.isFormat c = false
  nfkc : ∀ text, IsAsciiText text → Unicode.nfkc text = text
  nfkc_append : ∀ before after, BeginsAscii after →
    Unicode.nfkc (before ++ after) = Unicode.nfkc before ++ Unicode.nfkc after
  casefold_append : ∀ before after,
    Unicode.casefold (before ++ after) = Unicode.casefold before ++ Unicode.casefold after
  casefold : ∀ text, IsAsciiText text →
    Unicode.casefold text = String.ofList (text.toList.map Char.toLower)

variable (hascii : Unicode.OnAscii)

theorem stripFormatChars_append (before after : String) :
    stripFormatChars (before ++ after) = stripFormatChars before ++ stripFormatChars after := by
  apply String.toList_injective
  simp [stripFormatChars, keepChars]

include hascii

theorem stripFormatChars_ascii {text : String} (h : IsAsciiText text) :
    stripFormatChars text = text := by
  apply String.toList_injective
  rw [stripFormatChars, keepChars, String.toList_ofList, List.filter_eq_self]
  intro c hc
  rw [hascii.notFormat c (h c hc)]
  rfl

theorem BeginsAscii.stripFormatChars {text : String} (h : BeginsAscii text) :
    BeginsAscii (stripFormatChars text) := by
  intro c hc
  rw [Sectum.stripFormatChars, keepChars, String.toList_ofList] at hc
  cases hchars : text.toList with
  | nil =>
    rw [hchars] at hc
    cases hc
  | cons first rest =>
    have hfirst : first.toNat < 128 := h first (by rw [hchars]; rfl)
    rw [hchars, List.filter_cons_of_pos (by rw [hascii.notFormat first hfirst]; rfl)] at hc
    obtain rfl : first = c := by simpa using hc
    exact hfirst

theorem normalizeForMatch_ascii {text : String} (h : IsAsciiText text) :
    normalizeForMatch text = String.ofList (text.toList.map Char.toLower) := by
  rw [normalizeForMatch, stripFormatChars_ascii hascii h, hascii.nfkc text h,
    hascii.casefold text h]

theorem normalizeForMatch_append (before : String) {after : String} (h : BeginsAscii after) :
    normalizeForMatch (before ++ after) = normalizeForMatch before ++ normalizeForMatch after := by
  unfold normalizeForMatch
  rw [stripFormatChars_append, hascii.nfkc_append _ _ (BeginsAscii.stripFormatChars hascii h),
    hascii.casefold_append]

/-- A text of ASCII characters is found where it stands. -/
theorem residualPresent_within (before : String) {needle after : String} (hneedle : IsAsciiText needle)
    (hne : needle ≠ "") (hafter : BeginsAscii after) :
    residualPresent needle (before ++ (needle ++ after)) = true := by
  rw [residualPresent_iff]
  refine ⟨?_, .inl ?_⟩
  · rw [normalizeForMatch_ascii hascii hneedle]
    intro hempty
    have hchars := congrArg String.toList hempty
    rw [String.toList_ofList] at hchars
    exact hne (String.toList_injective (List.map_eq_nil_iff.mp hchars))
  · rw [normalizeForMatch_append hascii before (.append hneedle hafter),
      normalizeForMatch_append hascii needle hafter, String.toList_append, String.toList_append,
      ← List.append_assoc]
    exact List.infix_append _ _ _

theorem normalizeForMatch_empty : normalizeForMatch "" = "" := by
  rw [normalizeForMatch_ascii hascii (fun c hc => by simp at hc)]
  rfl

theorem tokenize_empty : tokenize "" = [] := tokenize_eq_nil (normalizeForMatch_empty hascii)

/-- Nothing is found in an empty text. -/
theorem residualPresent_empty (needle : String) : residualPresent needle "" = false := by
  rw [← Bool.not_eq_true, residualPresent_iff, tokenize_empty hascii, normalizeForMatch_empty hascii]
  rintro ⟨hne, hinfix | ⟨htokens, hinfix⟩ | ⟨⟨token, htoken, hlength⟩, hinfix⟩⟩
  · exact hne (String.toList_injective (List.eq_nil_of_infix_nil hinfix))
  · exact htokens (List.eq_nil_of_infix_nil hinfix)
  · have hsquash : (squash "").toList = [] := by
      rw [← tokenize_flatMap, tokenize_empty hascii]
      rfl
    rw [hsquash] at hinfix
    have hflat := (tokenize_flatMap needle).trans (List.eq_nil_of_infix_nil hinfix)
    have hnil := List.flatMap_eq_nil_iff.mp hflat token htoken
    have hzero : token.length = 0 := by
      rw [← String.length_toList, hnil]
      rfl
    rw [hzero] at hlength
    exact absurd hlength (by decide)

end Tables

section Sample

theorem Unicode.ascii_onAscii : @Unicode.OnAscii Unicode.ascii :=
  letI := Unicode.ascii
  { notFormat := fun _ _ => rfl
    nfkc := fun _ _ => rfl
    nfkc_append := fun _ _ _ => rfl
    casefold_append := fun before after => by
      apply String.toList_injective
      show (String.ofList ((before ++ after).toList.map Char.toLower)).toList =
        (String.ofList (before.toList.map Char.toLower) ++
          String.ofList (after.toList.map Char.toLower)).toList
      simp
    casefold := fun _ _ => rfl }

end Sample

end Sectum
