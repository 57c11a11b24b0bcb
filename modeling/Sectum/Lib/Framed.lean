import Sectum.Lib.PyText

/-! A text that stands between two others: what is part of the whole is part of the text itself, or takes
characters of what stands around it. -/

namespace Py

section Parts

variable {needle before body after : String}

theorem isIn_eq_true {hay : String} : isIn needle hay = true ↔ needle.toList <:+: hay.toList :=
  decide_eq_true_iff

/-- The needle begins in the end of the one text and ends in the beginning of the other. -/
def Straddles (needle before after : String) : Prop :=
  ∃ head tail, head ≠ [] ∧ tail ≠ [] ∧ needle.toList = head ++ tail ∧
    head <:+ before.toList ∧ tail <+: after.toList

theorem isIn_append : isIn needle (before ++ after) = true ↔
    isIn needle before = true ∨ isIn needle after = true ∨ Straddles needle before after := by
  rw [isIn_eq_true, isIn_eq_true, isIn_eq_true, String.toList_append, List.infix_append_iff]
  constructor
  · rintro (hbefore | hafter | ⟨head, tail, hneedle, hhead, htail⟩)
    · exact .inl hbefore
    · exact .inr (.inl hafter)
    · by_cases hnone : head = []
      · subst hnone
        rw [List.nil_append] at hneedle
        exact .inr (.inl (hneedle ▸ htail.isInfix))
      by_cases hnone' : tail = []
      · subst hnone'
        rw [List.append_nil] at hneedle
        exact .inl (hneedle ▸ hhead.isInfix)
      exact .inr (.inr ⟨head, tail, hnone, hnone', hneedle, hhead, htail⟩)
  · rintro (hbefore | hafter | ⟨head, tail, -, -, hneedle, hhead, htail⟩)
    · exact .inl hbefore
    · exact .inr (.inl hafter)
    · exact .inr (.inr ⟨head, tail, hneedle, hhead, htail⟩)

/-- What lies across a seam has the character before it. -/
theorem Straddles.last_mem (h : Straddles needle before after) :
    ∀ c ∈ before.toList.getLast?, c ∈ needle.toList := by
  obtain ⟨head, tail, hhead, -, hneedle, ⟨start, hstart⟩, -⟩ := h
  intro c hc
  rw [← hstart, List.getLast?_append_of_ne_nil _ hhead] at hc
  rw [hneedle]
  exact List.mem_append_left _ (List.mem_of_getLast? hc)

/-- What lies across a seam has the character after it. -/
theorem Straddles.head_mem (h : Straddles needle before after) :
    ∀ c ∈ after.toList.head?, c ∈ needle.toList := by
  obtain ⟨head, tail, -, htail, hneedle, -, ⟨rest, hrest⟩⟩ := h
  intro c hc
  rw [← hrest, List.head?_append_of_ne_nil _ htail] at hc
  rw [hneedle]
  exact List.mem_append_right _ (List.mem_of_head? hc)

/-- The needle takes characters of what stands around the body. -/
inductive Borrows (needle before body after : String) : Prop
  | before (h : isIn needle before = true)
  | after (h : isIn needle after = true)
  | into (h : Straddles needle before (body ++ after))
  | out (h : Straddles needle body after)

theorem isIn_framed : isIn needle (before ++ body ++ after) = true ↔
    isIn needle body = true ∨ Borrows needle before body after := by
  rw [String.append_assoc, isIn_append, isIn_append]
  constructor
  · rintro (hbefore | (hbody | hafter | hout) | hinto)
    · exact .inr (.before hbefore)
    · exact .inl hbody
    · exact .inr (.after hafter)
    · exact .inr (.out hout)
    · exact .inr (.into hinto)
  · rintro (hbody | hbefore | hafter | hinto | hout)
    · exact .inr (.inl (.inl hbody))
    · exact .inl hbefore
    · exact .inr (.inl (.inr (.inl hafter)))
    · exact .inr (.inr hinto)
    · exact .inr (.inl (.inr (.inr hout)))

theorem isIn_framed_eq_false : isIn needle (before ++ body ++ after) = false ↔
    isIn needle body = false ∧ ¬Borrows needle before body after := by
  rw [← Bool.not_eq_true, isIn_framed, not_or, Bool.not_eq_true]

/-- A needle that is in neither frame, and lacks the characters at the seams, takes nothing of them. -/
theorem not_borrows (hbefore : isIn needle before = false) (hafter : isIn needle after = false)
    (hlast : ∀ c ∈ before.toList.getLast?, c ∉ needle.toList)
    (hhead : ∀ c ∈ after.toList.head?, c ∉ needle.toList) : ¬Borrows needle before body after := by
  rintro (h | h | h | h)
  · rw [hbefore] at h
    cases h
  · rw [hafter] at h
    cases h
  · obtain ⟨c, hc⟩ : ∃ c, c ∈ before.toList.getLast? := by
      obtain ⟨head, tail, hne, -, -, hstart, -⟩ := h
      cases hlist : before.toList.getLast? with
      | none =>
        rw [List.getLast?_eq_none_iff.mp hlist] at hstart
        exact absurd (List.suffix_nil.mp hstart) hne
      | some c => exact ⟨c, rfl⟩
    exact hlast c hc (h.last_mem c hc)
  · obtain ⟨c, hc⟩ : ∃ c, c ∈ after.toList.head? := by
      obtain ⟨head, tail, -, hne, -, -, hend⟩ := h
      cases hlist : after.toList.head? with
      | none =>
        rw [List.head?_eq_none_iff.mp hlist] at hend
        exact absurd (List.prefix_nil.mp hend) hne
      | some c => exact ⟨c, rfl⟩
    exact hhead c hc (h.head_mem c hc)

theorem isIn_empty (h : needle ≠ "") : isIn needle "" = false := by
  refine decide_eq_false fun hin => h ?_
  rw [String.toList_empty, List.infix_nil] at hin
  exact String.toList_eq_nil_iff.mp hin

/-- A needle with a character that the text does not have is no part of it. -/
theorem isIn_eq_false_of_mem {hay : String} {c : Char} (h : c ∈ needle.toList)
    (hnot : c ∉ hay.toList) : isIn needle hay = false :=
  decide_eq_false fun hin => hnot (hin.subset h)

end Parts

section Quotes

variable [Unicode]

/-- A character that `repr` shows as it is, and that is no quote. -/
def ShownPlain (c : Char) : Prop :=
  Unicode.isPrintable c = true ∧ c ∉ ['\'', '\\', '\t', '\n', '\r']

theorem repr_of_shownPlain {text : String} (h : ∀ c ∈ text.toList, ShownPlain c) :
    repr text = "'" ++ text ++ "'" := by
  have hquote : '\'' ∉ text.toList := fun hmem => (h _ hmem).2 List.mem_cons_self
  have hchars : text.toList.map (reprChar '\'') = text.toList.map Char.toString := by
    refine List.map_congr_left fun c hc => ?_
    obtain ⟨hprintable, hplain⟩ := h c hc
    simp only [List.mem_cons, List.not_mem_nil, or_false, not_or] at hplain
    unfold reprChar
    rw [if_neg (by tauto), if_neg (by tauto), if_neg (by tauto), if_neg (by tauto),
      if_pos hprintable]
  have hjoin : String.join (text.toList.map Char.toString) = text := by
    apply String.toList_injective
    rw [String.toList_join, List.flatMap_map]
    simp
  unfold repr
  simp only [hquote, false_and, if_false, hchars, hjoin]
  rfl

end Quotes

end Py
