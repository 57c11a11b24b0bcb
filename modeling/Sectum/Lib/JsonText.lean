import Sectum.Lib.Json
import Sectum.Lib.Raise

/-! `json.dumps` and `json.loads`, and that a document is read back from its text. -/

namespace Py

/-- How deep the interpreter lets containers nest, and how many digits of an integer it converts. -/
class JsonLimits where
  depth : Nat
  digits : Nat

/-- The limits of an interpreter that starts with its defaults. -/
@[reducible] def JsonLimits.default : JsonLimits := ⟨994, 4300⟩

/-- What `json.loads` raises: `JSONDecodeError`, the `ValueError` of an integer with too many digits,
or `RecursionError`. -/
inductive LoadsError
  | decode
  | digits
  | recursion
  deriving DecidableEq, Repr

namespace JsonText

section Characters

def isSpace (u : UInt16) : Bool :=
  u = unit ' ' || u = unit '\t' || u = unit '\n' || u = unit '\r'

def isDigit (u : UInt16) : Bool := 48 ≤ u.toNat && u.toNat ≤ 57

def digitUnit (n : Nat) : UInt16 := (48 + n).toUInt16

def digitValue (u : UInt16) : Nat := u.toNat - 48

def hexUnit (n : Nat) : UInt16 := if n < 10 then (48 + n).toUInt16 else (87 + n).toUInt16

def hexValue (u : UInt16) : Option Nat :=
  if 48 ≤ u.toNat ∧ u.toNat ≤ 57 then some (u.toNat - 48)
  else if 97 ≤ u.toNat ∧ u.toNat ≤ 102 then some (u.toNat - 87)
  else if 65 ≤ u.toNat ∧ u.toNat ≤ 70 then some (u.toNat - 55)
  else none

/-- The escapes that are not by number. -/
def escapes : List (UInt16 × UInt16) :=
  [(unit '"', unit '"'), (unit '\\', unit '\\'), (unit 'n', unit '\n'), (unit 'r', unit '\r'),
    (unit 't', unit '\t'), (unit 'f', 12), (unit 'b', 8)]

end Characters

section Numbers

/-- The integer part of a number. -/
def scanWhole : Units → Option (Units × Units)
  | [] => none
  | u :: rest =>
    if u = unit '0' then some ([u], rest)
    else if isDigit u then some (u :: rest.takeWhile isDigit, rest.dropWhile isDigit)
    else none

/-- The fraction, which is none unless a digit follows the point. -/
def scanFraction : Units → Units × Units
  | u :: v :: rest =>
    if u = unit '.' ∧ isDigit v then (u :: v :: rest.takeWhile isDigit, rest.dropWhile isDigit)
    else ([], u :: v :: rest)
  | text => ([], text)

def scanSign : Units → Units × Units
  | u :: rest => if u = unit '+' ∨ u = unit '-' then ([u], rest) else ([], u :: rest)
  | [] => ([], [])

/-- The exponent, which is none unless it has digits. -/
def scanExponent : Units → Units × Units
  | [] => ([], [])
  | u :: rest =>
    let (sign, digits) := scanSign rest
    if (u = unit 'e' ∨ u = unit 'E') ∧ digits.takeWhile isDigit ≠ [] then
      (u :: sign ++ digits.takeWhile isDigit, digits.dropWhile isDigit)
    else ([], u :: rest)

/-- The minus sign, if there is one. -/
def scanMinus (text : Units) : Units × Units :=
  if text.head? = some (unit '-') then ([unit '-'], text.tail) else ([], text)

/-- A number: its integer part with the sign, its fraction and exponent, and what follows it. -/
def scanNumber (text : Units) : Option (Units × Units × Units) :=
  match scanWhole (scanMinus text).2 with
  | none => none
  | some (whole, rest) =>
    let (fraction, rest) := scanFraction rest
    let (exponent, rest) := scanExponent rest
    some ((scanMinus text).1 ++ whole, fraction ++ exponent, rest)

/-- A text that cannot go on with a number. -/
def Delimited (text : Units) : Prop :=
  ∀ u ∈ text.head?, isDigit u = false ∧ u ≠ unit '.' ∧ u ≠ unit 'e' ∧ u ≠ unit 'E'

end Numbers

end JsonText

/-- Text of ASCII characters, none of them the null character. -/
def IsAscii (text : Units) : Prop := ∀ u ∈ text, 0 < u.toNat ∧ u.toNat < 0x80

instance (text : Units) : Decidable (IsAscii text) := List.decidableBAll _ text

theorem isAscii_nil : IsAscii [] := List.forall_mem_nil _

theorem IsAscii.append {text text' : Units} (h : IsAscii text) (h' : IsAscii text') :
    IsAscii (text ++ text') :=
  List.forall_mem_append.mpr ⟨h, h'⟩

theorem IsAscii.cons {u : UInt16} {text : Units} (hu : 0 < u.toNat ∧ u.toNat < 0x80)
    (h : IsAscii text) : IsAscii (u :: text) :=
  List.forall_mem_cons.mpr ⟨hu, h⟩

/-- `float.__repr__`, and `float` on the text of a number.  It is only assumed that the text of a
float is a number with a fraction or an exponent, and denotes that float. -/
class FloatText where
  isFloat : ℚ → Prop
  repr : ℚ → Units
  parse : Units → PyFloat
  ascii_repr : ∀ {q : ℚ}, isFloat q → IsAscii (repr q)
  scan_repr : ∀ {q : ℚ}, isFloat q → ∀ {rest : Units}, JsonText.Delimited rest →
    ∃ whole suffix, suffix ≠ [] ∧ repr q = whole ++ suffix ∧
      JsonText.scanNumber (repr q ++ rest) = some (whole, suffix, rest)
  parse_repr : ∀ {q : ℚ}, isFloat q → parse (repr q) = .finite q
  parse_negativeZero : parse (units "-0.0") = .negativeZero

namespace JsonText

section Print

/-- The layout of a text: what goes between the values of a container at a level, and after a colon,
whether it is ASCII, and whether it may have floats that are not finite. -/
structure Style where
  gap : Nat → Units
  colon : Units
  ascii : Bool := true
  allowNan : Bool := true
  gap_space : ∀ level, ∀ u ∈ gap level, isSpace u = true
  colon_space : ∀ u ∈ colon, isSpace u = true

/-- `separators=(",", ":")`. -/
def compact : Style where
  gap _ := []
  colon := []
  gap_space _ := nofun
  colon_space := nofun

/-- `separators=(",", ":"), ensure_ascii=False, allow_nan=False`. -/
def canonical : Style := { compact with ascii := false, allowNan := false }

/-- `indent=2`. -/
def indented : Style where
  gap level := unit '\n' :: List.replicate (2 * level) (unit ' ')
  colon := [unit ' ']
  gap_space level u hu := by
    rcases List.mem_cons.mp hu with rfl | hspace
    · rfl
    · rw [List.eq_of_mem_replicate hspace]
      rfl
  colon_space u hu := by
    rw [List.mem_singleton.mp hu]
    rfl

def printUnit (style : Style) (u : UInt16) : Units :=
  match escapes.find? fun escape => escape.2 = u with
  | some escape => [unit '\\', escape.1]
  | none =>
    if u.toNat < 32 ∨ style.ascii ∧ 126 < u.toNat then
      [unit '\\', unit 'u', hexUnit (u.toNat / 4096), hexUnit (u.toNat / 256 % 16),
        hexUnit (u.toNat / 16 % 16), hexUnit (u.toNat % 16)]
    else [u]

/-- A string behind its opening quote. -/
def printString (style : Style) (s : Units) : Units := s.flatMap (printUnit style) ++ [unit '"']

def printNat (n : Nat) : Units :=
  if n = 0 then [unit '0'] else (Nat.digits 10 n).reverse.map digitUnit

def printInt (n : Int) : Units := if n < 0 then unit '-' :: printNat n.natAbs else printNat n.natAbs

variable [FloatText] (style : Style)

def printFloat : PyFloat → Units
  | .finite q => FloatText.repr q
  | .negativeZero => units "-0.0"
  | .infinity false => units "Infinity"
  | .infinity true => units "-Infinity"
  | .nan => units "NaN"

mutual

def print : Nat → Json → Units
  | _, .null => units "null"
  | _, .bool true => units "true"
  | _, .bool false => units "false"
  | _, .int n => printInt n
  | _, .float f => printFloat f
  | _, .str s => unit '"' :: printString style s
  | _, .arr [] => units "[]"
  | level, .arr (item :: items) =>
    unit '[' :: (style.gap (level + 1) ++ (print (level + 1) item ++ printItems level items))
  | _, .obj [] => units "{}"
  | level, .obj ((key, value) :: entries) =>
    unit '{' :: (style.gap (level + 1) ++ (unit '"' :: (printString style key ++
      (unit ':' :: (style.colon ++ (print (level + 1) value ++ printEntries level entries))))))
termination_by structural _ value => value

/-- What follows the first item of an array. -/
def printItems : Nat → List Json → Units
  | level, [] => style.gap level ++ [unit ']']
  | level, item :: items =>
    unit ',' :: (style.gap (level + 1) ++ (print (level + 1) item ++ printItems level items))
termination_by structural _ items => items

/-- What follows the first entry of an object. -/
def printEntries : Nat → List (Units × Json) → Units
  | level, [] => style.gap level ++ [unit '}']
  | level, (key, value) :: entries =>
    unit ',' :: (style.gap (level + 1) ++ (unit '"' :: (printString style key ++
      (unit ':' :: (style.colon ++ (print (level + 1) value ++ printEntries level entries))))))
termination_by structural _ entries => entries

end

variable [JsonLimits]

mutual

/-- What keeps a document from being written: an integer with too many digits or a float that is not
allowed is a `ValueError`, and containers that nest too deeply are a `RecursionError`. -/
def refusal : Nat → Json → Option Exn
  | _, .int n => if JsonLimits.digits < (printNat n.natAbs).length then some .valueError else none
  | _, .float (.infinity _) => if style.allowNan then none else some .valueError
  | _, .float .nan => if style.allowNan then none else some .valueError
  | depth, .arr items => if depth = 0 then some .recursionError else refusalItems (depth - 1) items
  | depth, .obj entries =>
    if depth = 0 then some .recursionError else refusalEntries (depth - 1) entries
  | _, _ => none
termination_by structural _ value => value

def refusalItems : Nat → List Json → Option Exn
  | _, [] => none
  | depth, item :: items => (refusal depth item).or (refusalItems depth items)
termination_by structural _ items => items

def refusalEntries : Nat → List (Units × Json) → Option Exn
  | _, [] => none
  | depth, (_, value) :: entries => (refusal depth value).or (refusalEntries depth entries)
termination_by structural _ entries => entries

end

end Print

section Parse

def skipSpace (text : Units) : Units := text.dropWhile isSpace

/-- A string behind its opening quote. -/
def parseString : Units → Option (Units × Units)
  | [] => none
  | u :: rest =>
    if u = unit '"' then some ([], rest)
    else if u = unit '\\' then
      match rest with
      | [] => none
      | v :: rest =>
        if v = unit 'u' then
          match rest with
          | a :: b :: c :: d :: rest =>
            match hexValue a, hexValue b, hexValue c, hexValue d with
            | some a, some b, some c, some d =>
              (parseString rest).map fun (s, rest) =>
                ((a * 4096 + b * 256 + c * 16 + d).toUInt16 :: s, rest)
            | _, _, _, _ => none
          | _ => none
        else
          match ((unit '/', unit '/') :: escapes).find? fun escape => escape.1 = v with
          | some escape => (parseString rest).map fun (s, rest) => (escape.2 :: s, rest)
          | none => none
    else if u.toNat < 32 then none
    else (parseString rest).map fun (s, rest) => (u :: s, rest)

def parseWhole (text : Units) : Int :=
  let n : Nat := Nat.ofDigits 10 ((scanMinus text).2.reverse.map digitValue)
  if (scanMinus text).1 = [] then n else -n

/-- The word at the start of a text, if it is there. -/
def skipWord (word : String) (text : Units) : Option Units :=
  if (units word).isPrefixOf text then some (text.drop (units word).length) else none

/-- The words that stand for a value. -/
def words : List (String × Json) :=
  [("null", .null), ("true", .bool true), ("false", .bool false), ("NaN", .float .nan),
    ("Infinity", .float (.infinity false)), ("-Infinity", .float (.infinity true))]

def parseWord (text : Units) : Option (Json × Units) :=
  words.findSome? fun word => (skipWord word.1 text).map fun rest => (word.2, rest)

abbrev Parsed (α : Type) := Except LoadsError (α × Units)

/-- What is between commas up to a closing bracket. -/
def parseSeparated {α : Type} (element : Units → Parsed α) (close : UInt16) :
    Nat → Units → Parsed (List α)
  | 0, _ => .error .decode
  | fuel + 1, text =>
    match element text with
    | .error e => .error e
    | .ok (first, rest) =>
      match skipSpace rest with
      | [] => .error .decode
      | u :: rest =>
        if u = close then .ok ([first], rest)
        else if u = unit ',' then
          (parseSeparated element close fuel (skipSpace rest)).map fun (elements, rest) =>
            (first :: elements, rest)
        else .error .decode

/-- The elements of a container behind its opening bracket. -/
def parseElements {α : Type} (element : Units → Parsed α) (close : UInt16) (text : Units) :
    Parsed (List α) :=
  match skipSpace text with
  | [] => .error .decode
  | u :: rest =>
    if u = close then .ok ([], rest) else parseSeparated element close text.length (u :: rest)

/-- A key and the colon behind it. -/
def parseKey : Units → Option (Units × Units)
  | [] => none
  | u :: rest =>
    if u = unit '"' then
      match parseString rest with
      | none => none
      | some (key, rest) =>
        match skipSpace rest with
        | [] => none
        | u :: rest => if u = unit ':' then some (key, skipSpace rest) else none
    else none

variable (value : Units → Parsed Json)

def parseEntry (text : Units) : Parsed (Units × Json) :=
  match parseKey text with
  | none => .error .decode
  | some (key, rest) => (value rest).map fun (item, rest) => ((key, item), rest)

def parseArray (text : Units) : Parsed Json :=
  (parseElements value (unit ']') text).map fun (items, rest) => (.arr items, rest)

/-- An object; a key that is repeated keeps its place and gets the last value. -/
def parseObject (text : Units) : Parsed Json :=
  (parseElements (parseEntry value) (unit '}') text).map fun (entries, rest) =>
    (.obj (Dict.ofItems entries).items, rest)

variable [JsonLimits] [FloatText]

def parseNumber (text : Units) : Parsed Json :=
  match scanNumber text with
  | none => .error .decode
  | some (whole, [], rest) =>
    if JsonLimits.digits < (whole.filter isDigit).length then .error .digits
    else .ok (.int (parseWhole whole), rest)
  | some (whole, suffix, rest) => .ok (.float (FloatText.parse (whole ++ suffix)), rest)

/-- `scan_once`; `depth` is how deep containers may still nest. -/
def parseValue : Nat → Units → Parsed Json
  | _, [] => .error .decode
  | depth, u :: rest =>
    if u = unit '"' then
      match parseString rest with
      | none => .error .decode
      | some (s, rest) => .ok (.str s, rest)
    else if u = unit '{' then
      match depth with
      | 0 => .error .recursion
      | depth + 1 => parseObject (parseValue depth) rest
    else if u = unit '[' then
      match depth with
      | 0 => .error .recursion
      | depth + 1 => parseArray (parseValue depth) rest
    else
      match parseWord (u :: rest) with
      | some (value, rest) => .ok (value, rest)
      | none => parseNumber (u :: rest)

end Parse

end JsonText

/-- `json.dumps(value, sort_keys=True)` in a style. -/
def dumps [JsonLimits] [FloatText] (style : JsonText.Style) (value : Json) : Except Exn Units :=
  match JsonText.refusal style JsonLimits.depth value.sorted with
  | some e => .error e
  | none => .ok (JsonText.print style 0 value.sorted)

/-- `json.loads` on text. -/
def loads [JsonLimits] [FloatText] (text : Units) : Except LoadsError Json :=
  match JsonText.parseValue JsonLimits.depth (JsonText.skipSpace text) with
  | .error e => .error e
  | .ok (value, rest) => if JsonText.skipSpace rest = [] then .ok value else .error .decode

end Py
