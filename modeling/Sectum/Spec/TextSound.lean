import Sectum.Lib.Runs
import Sectum.Spec.Text

/-! What the residual predicate answers: for a needle with an opaque token, containment of the
alphanumeric projections; for any other, containment of the text or of the tokens. -/

namespace Sectum

open Py

section Residual

variable [Unicode]

theorem tokenize_flatMap (text : String) :
    (tokenize text).flatMap String.toList = (squash text).toList := by
  rw [tokenize, runs_flatMap, squash, keepChars, String.toList_ofList]

theorem tokenize_eq_nil {text : String} (h : normalizeForMatch text = "") :
    tokenize text = [] := by
  rw [tokenize, h]
  rfl

/-- Each of the first two arms implies the third. -/
theorem squash_infix {needle haystack : String}
    (h : (normalizeForMatch needle).toList <:+: (normalizeForMatch haystack).toList ∨
      tokenize needle <:+: tokenize haystack) :
    (squash needle).toList <:+: (squash haystack).toList := by
  obtain htext | htokens := h
  · simp only [squash, keepChars, String.toList_ofList]
    exact htext.filter _
  · rw [← tokenize_flatMap, ← tokenize_flatMap]
    obtain ⟨before, after, hsplit⟩ := htokens
    rw [← hsplit, List.flatMap_append, List.flatMap_append]
    exact List.infix_append _ _ _

/-- The needle carries an opaque token. -/
def IsOpaque (needle : String) : Prop := ∃ token ∈ tokenize needle, opaqueTokenLen ≤ token.length

theorem residualPresent_iff (needle haystack : String) :
    residualPresent needle haystack = true ↔ normalizeForMatch needle ≠ "" ∧
      ((normalizeForMatch needle).toList <:+: (normalizeForMatch haystack).toList ∨
        tokenize needle ≠ [] ∧ tokenize needle <:+: tokenize haystack ∨
        IsOpaque needle ∧ (squash needle).toList <:+: (squash haystack).toList) := by
  have htokens : orderedWithinSpan (tokenize haystack) (tokenize needle) 0 = true ↔
      tokenize needle ≠ [] ∧ tokenize needle <:+: tokenize haystack := by
    rw [orderedWithinSpan_iff, List.occursWithin_zero]
  have hneedle : ((tokenize needle).any fun token => opaqueTokenLen ≤ token.length) = true ↔
      IsOpaque needle := by
    simp [IsOpaque]
  unfold residualPresent
  by_cases hempty : normalizeForMatch needle = ""
  · simp [hempty]
  · by_cases htext : (normalizeForMatch needle).toList <:+: (normalizeForMatch haystack).toList
    · simp [hempty, isIn, htext]
    · by_cases hrun : tokenize needle ≠ [] ∧ tokenize needle <:+: tokenize haystack
      · simp [hempty, isIn, htext, htokens, hrun]
      · by_cases hlong : IsOpaque needle
        · simp [hempty, isIn, htext, htokens, hneedle, hlong, hrun]
        · simp [hempty, isIn, htext, htokens, hneedle, hlong, hrun]

theorem residualPresent_isOpaque {needle : String} (hneedle : IsOpaque needle) (haystack : String) :
    residualPresent needle haystack = true ↔
      (squash needle).toList <:+: (squash haystack).toList := by
  have hne : normalizeForMatch needle ≠ "" := by
    intro hempty
    obtain ⟨token, htoken, -⟩ := hneedle
    rw [tokenize_eq_nil hempty] at htoken
    cases htoken
  rw [residualPresent_iff]
  constructor
  · rintro ⟨-, htext | ⟨-, htokens⟩ | ⟨-, hsquash⟩⟩
    · exact squash_infix (.inl htext)
    · exact squash_infix (.inr htokens)
    · exact hsquash
  · intro hsquash
    exact ⟨hne, .inr (.inr ⟨hneedle, hsquash⟩)⟩

/-- The single answer of the residual predicate: for an opaque needle it is a function of the
haystack's alphanumeric projection. -/
theorem residualPresent_law (needle : String) :
    (IsOpaque needle →
      (∀ haystack, residualPresent needle haystack = true ↔
        (squash needle).toList <:+: (squash haystack).toList) ∧
      ∀ haystack other, squash haystack = squash other →
        residualPresent needle haystack = residualPresent needle other) ∧
    (normalizeForMatch needle ≠ "" → ¬IsOpaque needle → ∀ haystack,
      (residualPresent needle haystack = true ↔
        (normalizeForMatch needle).toList <:+: (normalizeForMatch haystack).toList ∨
          tokenize needle ≠ [] ∧ tokenize needle <:+: tokenize haystack)) ∧
    (normalizeForMatch needle = "" → ∀ haystack, residualPresent needle haystack = false) := by
  refine ⟨fun hneedle => ⟨residualPresent_isOpaque hneedle, ?_⟩, ?_, ?_⟩
  · intro haystack other hsame
    rw [Bool.eq_iff_iff, residualPresent_isOpaque hneedle, residualPresent_isOpaque hneedle, hsame]
  · intro hne hshort haystack
    rw [residualPresent_iff]
    simp [hne, hshort]
  · intro hempty haystack
    rw [← Bool.not_eq_true, residualPresent_iff]
    simp [hempty]

end Residual

/-- The greedy scan is exact, also for a needle that repeats a token. -/
theorem orderedWithinSpan_exact (haystack needle : List String) (maxInterposed : Nat)
    (hne : 0 < needle.length) :
    (orderedWithinSpan haystack needle maxInterposed = true ↔
      ∃ positions : Fin needle.length → Nat, StrictMono positions ∧
        (∀ i, haystack[positions i]? = some (needle.get i)) ∧
        positions ⟨needle.length - 1, by omega⟩ - positions ⟨0, hne⟩ + 1 ≤
          needle.length + maxInterposed) ∧
    (orderedWithinSpan haystack needle 0 = true ↔ needle <:+: haystack) := by
  constructor
  · rw [orderedWithinSpan_iff, List.occursWithin_iff_positions hne]
  · rw [orderedWithinSpan_iff, List.occursWithin_zero]
    exact and_iff_right (List.ne_nil_of_length_pos hne)

theorem orderedWithinSpan_exact_repeated :
    (orderedWithinSpan ["a", "b", "x", "b", "a"] ["b", "b"] 1 = true ↔
      ∃ positions : Fin 2 → Nat, StrictMono positions ∧
        (∀ i, ["a", "b", "x", "b", "a"][positions i]? = some (["b", "b"].get i)) ∧
        positions 1 - positions 0 + 1 ≤ 2 + 1) ∧
    (orderedWithinSpan ["a", "b", "x", "b", "a"] ["b", "b"] 0 = true ↔
      ["b", "b"] <:+: ["a", "b", "x", "b", "a"]) :=
  orderedWithinSpan_exact ["a", "b", "x", "b", "a"] ["b", "b"] 1 (by decide)

end Sectum
