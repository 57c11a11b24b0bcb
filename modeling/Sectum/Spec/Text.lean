import Sectum.Lib.PyText
import Sectum.Lib.Window

/-! `sectum_ai.spec.text`: rendering hostile strings, and the one predicate that decides whether a
canary is still present in text that a backend controls. -/

namespace Sectum

open Py

variable [Unicode]

/-- A canary body is longer than this; a token of natural language is shorter. -/
def opaqueTokenLen : Nat := 16

/-- Escapes every character that is not printable, and the backslash. -/
def untrusted (text : String) : String :=
  String.join (text.toList.map fun char =>
    if char = '\\' then "\\\\" else if Unicode.isPrintable char then char.toString
    else escape char.toNat)

/-- Drops the format characters: zero-width spaces and joiners. -/
def stripFormatChars (text : String) : String := keepChars (fun ch => !Unicode.isFormat ch) text

/-- The case-, width- and zero-width-insensitive form of a string. -/
def normalizeForMatch (text : String) : String :=
  Unicode.casefold (Unicode.nfkc (stripFormatChars text))

/-- `[a-z0-9]`. -/
def isTokenChar (c : Char) : Bool := c.isLower || c.isDigit

def tokenize (text : String) : List String := runs isTokenChar (normalizeForMatch text)

/-- `normalizeForMatch` with every character outside `[a-z0-9]` removed. -/
def squash (text : String) : String := keepChars isTokenChar (normalizeForMatch text)

/-- The loop over `pos`: matches the needle greedily against what is left of the window.  It
succeeds as soon as nothing of the needle is left, which is at once for a single-token needle. -/
def matchFrom : List String → List String → Bool
  | _, [] => true
  | [], _ :: _ => false
  | token :: window, next :: needle =>
    if token = next then matchFrom window needle else matchFrom window (next :: needle)

/-- Whether the tokens of `needle` occur in order in a window of `haystack` at most
`maxInterposed` longer than `needle`. -/
def orderedWithinSpan (haystack needle : List String) (maxInterposed : Nat) : Bool :=
  match needle with
  | [] => false
  | first :: rest =>
    haystack.tails.any fun
      | [] => false
      | anchor :: window =>
        anchor == first && matchFrom (window.take (rest.length + maxInterposed)) rest

/-- Whether `needle` still appears in `haystack`: as a substring, as a contiguous run of tokens,
or, when it carries an opaque token, in the alphanumeric projection. -/
def residualPresent (needle haystack : String) : Bool :=
  let wantedText := normalizeForMatch needle
  if wantedText = "" then false
  else if isIn wantedText (normalizeForMatch haystack) then true
  else
    let wanted := tokenize needle
    if !wanted.isEmpty && orderedWithinSpan (tokenize haystack) wanted 0 then true
    else if wanted.any fun token => opaqueTokenLen ≤ token.length then
      isIn (squash needle) (squash haystack)
    else false

omit [Unicode] in
/-- The greedy match finds the needle exactly when it is a sublist of the window. -/
theorem matchFrom_iff {window needle : List String} :
    matchFrom window needle = true ↔ needle.Sublist window := by
  induction window generalizing needle with
  | nil => cases needle <;> simp [matchFrom]
  | cons token window ih =>
    cases needle with
    | nil => simp [matchFrom]
    | cons next needle =>
      by_cases h : token = next
      · subst h
        simp [matchFrom, ih]
      · simp only [matchFrom, h, if_false, ih]
        exact ⟨fun hs => hs.cons token, fun hs => by
          cases hs with
          | cons _ hs => exact hs
          | cons_cons _ _ => exact absurd rfl h⟩

omit [Unicode] in
theorem orderedWithinSpan_iff {haystack needle : List String} {maxInterposed : Nat} :
    orderedWithinSpan haystack needle maxInterposed = true ↔
      haystack.OccursWithin maxInterposed needle := by
  cases needle with
  | nil => simp [orderedWithinSpan, List.OccursWithin]
  | cons first rest =>
    rw [List.occursWithin_cons_iff, orderedWithinSpan, List.any_eq_true]
    constructor
    · rintro ⟨tail, htail, hmatch⟩
      obtain ⟨before, rfl⟩ := (List.mem_tails _ _).mp htail
      cases tail with
      | nil => cases hmatch
      | cons anchor window =>
        simp only [Bool.and_eq_true, beq_iff_eq, matchFrom_iff] at hmatch
        obtain ⟨rfl, hsub⟩ := hmatch
        exact ⟨before, window, rfl, hsub⟩
    · rintro ⟨before, window, rfl, hsub⟩
      exact ⟨first :: window, (List.mem_tails _ _).mpr ⟨before, rfl⟩, by
        simpa [matchFrom_iff] using hsub⟩

end Sectum
