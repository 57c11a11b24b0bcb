import Mathlib.Data.List.Infix
import Mathlib.Data.String.Basic

/-! Python's `str` operations on Lean strings: `in`, slices, `replace`, `split`, `repr`, hexadecimal
rendering, and `re.findall` for a matcher given as a function. -/

namespace Py

/-- The Unicode tables behind `unicodedata`, `str` and `re`.  Nothing is assumed of them. -/
class Unicode where
  /-- `unicodedata.category(ch) == "Cf"`. -/
  isFormat : Char → Bool
  /-- `unicodedata.normalize("NFKC", text)`. -/
  nfkc : String → String
  casefold : String → String
  isPrintable : Char → Bool
  isSpace : Char → Bool
  isAlpha : Char → Bool
  /-- `\d`. -/
  isDecimal : Char → Bool
  /-- `\w`. -/
  isWord : Char → Bool

/-- The tables on ASCII text, where normalization is the identity and no character is a format
character. -/
@[reducible] def Unicode.ascii : Unicode where
  isFormat _ := false
  nfkc text := text
  casefold text := String.ofList (text.toList.map Char.toLower)
  isPrintable c := 0x20 ≤ c.toNat ∧ c.toNat < 0x7f
  isSpace c := 0x09 ≤ c.toNat ∧ c.toNat ≤ 0x0d ∨ 0x1c ≤ c.toNat ∧ c.toNat ≤ 0x20
  isAlpha := Char.isAlpha
  isDecimal := Char.isDigit
  isWord c := c.isAlphanum || c == '_'

/-- `text.lower()`.  Nothing is assumed of it. -/
class Lower where
  lower : String → String

@[reducible] def Lower.ascii : Lower where
  lower text := String.ofList (text.toList.map Char.toLower)

/-- `unicodedata.decimal(ch)`. -/
class Decimals where
  decimal : Char → Option Nat

@[reducible] def Decimals.ascii : Decimals where
  decimal c := if c.isDigit then some (c.toNat - '0'.toNat) else none

/-- `needle in hay`. -/
def isIn (needle hay : String) : Bool := decide (needle.toList <:+: hay.toList)

/-- `text[:stop]`. -/
def sliceTo (stop : Nat) (text : String) : String := String.ofList (text.toList.take stop)

/-- `text[start:]`. -/
def sliceFrom (start : Nat) (text : String) : String := String.ofList (text.toList.drop start)

/-- `"".join(ch for ch in text if keep(ch))`. -/
def keepChars (keep : Char → Bool) (text : String) : String :=
  String.ofList (text.toList.filter keep)

/-- The maximal runs of characters that satisfy `p`, which `re.findall` gives for a class with
`+`. -/
def runs (p : Char → Bool) (text : String) : List String :=
  ((text.toList.splitOnP fun c => !p c).filter fun run => !run.isEmpty).map String.ofList

/-- `text.split()`. -/
def split [Unicode] (text : String) : List String := runs (fun c => !Unicode.isSpace c) text

def strip [Unicode] (text : String) : String :=
  String.ofList
    ((text.toList.dropWhile Unicode.isSpace).reverse.dropWhile Unicode.isSpace).reverse

/-- `int(text)`, where `none` is its `ValueError`: an optional sign, then decimal digits, between
which there may be single underscores, and which are at most 4300. -/
def intOf [Unicode] [Decimals] (text : String) : Option Int :=
  let chars := (strip text).toList
  let digits := if chars.head? ∈ [some '+', some '-'] then chars.tail else chars
  let groups := digits.splitOn '_'
  if groups.any List.isEmpty then none
  else
    match groups.flatten.mapM Decimals.decimal with
    | none => none
    | some values =>
      if 4300 < values.length then none
      else
        let magnitude : Int := values.foldl (fun n value => 10 * n + value) 0
        some (if chars.head? = some '-' then -magnitude else magnitude)

/-- `replace` on characters; `skip` counts the characters of a match still to pass over. -/
def replaceChars (old new : List Char) : Nat → List Char → List Char
  | _, [] => []
  | skip + 1, _ :: cs => replaceChars old new skip cs
  | 0, c :: cs =>
    if old.isPrefixOf (c :: cs) then new ++ replaceChars old new (old.length - 1) cs
    else c :: replaceChars old new 0 cs

/-- `text.replace(old, new)` for a non-empty `old`. -/
def replace (old new text : String) : String :=
  String.ofList (replaceChars old.toList new.toList 0 text.toList)

theorem replaceChars_skip {old new : List Char} {skip : Nat} {cs : List Char}
    (h : cs.length ≤ skip) : replaceChars old new skip cs = [] := by
  induction cs generalizing skip with
  | nil => cases skip <;> rfl
  | cons c cs ih =>
    cases skip with
    | zero => cases h
    | succ skip => exact ih (Nat.le_of_succ_le_succ h)

theorem replaceChars_last {old new base : List Char} (hold : old ≠ [])
    (h : ∀ tail ∈ base.tails, tail ≠ [] → old.isPrefixOf (tail ++ old) = false) :
    replaceChars old new 0 (base ++ old) = base ++ new := by
  induction base with
  | nil =>
    obtain ⟨c, cs, rfl⟩ := List.exists_cons_of_ne_nil hold
    have hmatch : (c :: cs).isPrefixOf (c :: cs) = true :=
      List.isPrefixOf_iff_prefix.mpr (List.prefix_refl _)
    rw [List.nil_append, replaceChars, if_pos hmatch, replaceChars_skip (by simp)]
    exact List.append_nil new
  | cons c cs ih =>
    have hfirst : ¬old.isPrefixOf (c :: (cs ++ old)) = true := by
      rw [Bool.not_eq_true]
      exact h (c :: cs) (by simp) (List.cons_ne_nil c cs)
    have hrest : ∀ tail ∈ cs.tails, tail ≠ [] → old.isPrefixOf (tail ++ old) = false :=
      fun tail hmem => h tail (by simpa using Or.inr ((List.mem_tails _ _).mp hmem))
    rw [List.cons_append, replaceChars, if_neg hfirst, ih hrest, List.cons_append]

theorem replace_last {old new base : String} (hold : old.toList ≠ [])
    (h : ∀ tail ∈ base.toList.tails, tail ≠ [] →
      old.toList.isPrefixOf (tail ++ old.toList) = false) :
    replace old new (base ++ old) = base ++ new := by
  unfold replace
  rw [String.toList_append, replaceChars_last hold h, ← String.toList_append, String.ofList_toList]

/-- `pattern.findall(text)`, where `matchAt prev rest` is the length of the match that starts at
`rest` after the character `prev`; matches are taken from the left and do not overlap. -/
def findallFrom (matchAt : Option Char → List Char → Option Nat) :
    Option Char → Nat → List Char → List String
  | _, _, [] => []
  | _, skip + 1, c :: cs => findallFrom matchAt (some c) skip cs
  | prev, 0, c :: cs =>
    match matchAt prev (c :: cs) with
    | some (n + 1) => String.ofList ((c :: cs).take (n + 1)) :: findallFrom matchAt (some c) n cs
    | _ => findallFrom matchAt (some c) 0 cs

def findall (matchAt : Option Char → List Char → Option Nat) (text : String) : List String :=
  findallFrom matchAt none 0 text.toList

/-- `f"{n:0{width}x}"`: at least `width` lower-case hexadecimal digits. -/
def hex (width n : Nat) : String :=
  let digits := Nat.toDigits 16 n
  String.ofList (List.replicate (width - digits.length) '0' ++ digits)

/-- The escape of a character that cannot be shown, as `repr` writes it. -/
def escape (code : Nat) : String :=
  if code < 0x100 then "\\x" ++ hex 2 code
  else if code < 0x10000 then "\\u" ++ hex 4 code
  else "\\U" ++ hex 8 code

/-- One character of `repr`, inside quotes `quote`. -/
def reprChar [Unicode] (quote c : Char) : String :=
  if c = quote ∨ c = '\\' then "\\" ++ c.toString
  else if c = '\t' then "\\t"
  else if c = '\n' then "\\n"
  else if c = '\r' then "\\r"
  else if Unicode.isPrintable c then c.toString
  else escape c.toNat

/-- `repr(text)`: single quotes, unless the text has some and no double quote. -/
def repr [Unicode] (text : String) : String :=
  let quote := if '\'' ∈ text.toList ∧ '"' ∉ text.toList then '"' else '\''
  quote.toString ++ String.join (text.toList.map (reprChar quote)) ++ quote.toString

def join (sep : String) (parts : List String) : String := sep.intercalate parts

end Py
