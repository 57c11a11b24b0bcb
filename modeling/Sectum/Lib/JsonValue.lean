import Sectum.Lib.Base64
import Sectum.Lib.JsonBytes
import Sectum.Lib.PyText
import Sectum.Lib.Raise

/-! What Python does with a value that `json.loads` returned, whatever its type. -/

namespace Py

def LoadsError.exn : LoadsError → Exn
  | .decode => .valueError
  | .digits => .valueError
  | .recursion => .recursionError

/-- `json.loads(data)` on bytes. -/
def loadsOf [JsonLimits] [FloatText] (data : Bytes) : Except Exn Json :=
  match loadsBytes data with
  | none => .error .valueError
  | some (.error e) => .error e.exn
  | some (.ok value) => .ok value

/-- Documents raise `ValueError`, unless they nest too deeply. -/
theorem raisesOnly_loadsOf [JsonLimits] [FloatText] {caught : List Exn}
    (hvalue : .valueError ∈ caught) (hdeep : .recursionError ∉ caught) {data : Bytes} :
    RaisesOnly caught (loadsOf data) ↔ loadsOf data ≠ .error .recursionError := by
  unfold loadsOf
  rcases loadsBytes data with _ | e | value
  · simp [hvalue]
  · cases e <;> simp [LoadsError.exn, hvalue, hdeep]
  · simp

/-- The text of some code units; a surrogate without a partner has no place in it. -/
def textOf (s : Units) : String := String.ofList ((codePoints s).map Char.ofNat)

/-- The characters of a text. -/
def characters : Units → List Units
  | [] => []
  | [u] => [[u]]
  | u :: v :: rest =>
    if isHigh u && isLow v then [u, v] :: characters rest else [u] :: characters (v :: rest)

namespace Json

/-- `value[key]`. -/
def item (value : Json) (key : String) : Except Exn Json :=
  match value with
  | .obj _ => orRaise (value.get key) .keyError
  | _ => .error .typeError

/-- `value.get(key)`, which only a dictionary has. -/
def dictGet (value : Json) (key : String) : Except Exn Json :=
  match value with
  | .obj _ => .ok ((value.get key).getD .null)
  | _ => .error .attributeError

/-- `bool(value)`. -/
def toBool : Json → Bool
  | .null => false
  | .bool b => b
  | .int n => n ≠ 0
  | .float f => f ≠ .finite 0 ∧ f ≠ .negativeZero
  | .str s => s ≠ []
  | .arr items => !items.isEmpty
  | .obj entries => !entries.isEmpty

theorem item_object (entries : List (String × Json)) (key : String) : (object entries).item key =
    orRaise ((entries.find? fun entry => entry.1 = key).map Prod.snd) .keyError := by
  rw [← get_object]
  rfl

/-- `value == text`. -/
def equalsText (value : Json) (text : Units) : Bool :=
  match value with
  | .str s => s = text
  | _ => false

/-- What a number is, whatever its type: a rational, or an infinity and its sign. -/
def number : Json → Option (ℚ ⊕ Bool)
  | .bool b => some (.inl b.toNat)
  | .int n => some (.inl n)
  | .float (.finite q) => some (.inl q)
  | .float .negativeZero => some (.inl 0)
  | .float (.infinity negative) => some (.inr negative)
  | _ => none

def isNan : Json → Bool
  | .float .nan => true
  | _ => false

mutual

/-- `value == other`.  The NaN that `json.loads` returns is one object: containers, which look for
the same object first, find it equal to itself. -/
def equals : Json → Json → Bool
  | .null, other => match other with | .null => true | _ => false
  | .str s, other => other.equalsText s
  | .arr items, other => match other with | .arr items' => equalsItems items items' | _ => false
  | .obj entries, other =>
    match other with
    | .obj entries' => entries.length = entries'.length && equalsEntries entries entries'
    | _ => false
  | .bool b, other => (Json.bool b).number = other.number
  | .int n, other => (Json.int n).number = other.number
  | .float f, other => (Json.float f).number.isSome && (Json.float f).number = other.number
termination_by structural value => value

def equalsItems : List Json → List Json → Bool
  | [], others => others.isEmpty
  | item :: items, others =>
    match others with
    | [] => false
    | other :: others =>
      (item.isNan && other.isNan || equals item other) && equalsItems items others
termination_by structural items => items

/-- Whether each entry is one of the others. -/
def equalsEntries : List (Units × Json) → List (Units × Json) → Bool
  | [], _ => true
  | (key, value) :: entries, others =>
    (match others.find? fun other => other.1 = key with
      | some other => value.isNan && other.2.isNan || equals value other.2
      | none => false) && equalsEntries entries others
termination_by structural entries => entries

end

example : (object [("n", .int 1), ("s", .arr [.float .nan])]).equals
    (object [("s", .arr [.float .nan]), ("n", .bool true)]) = true := by decide +kernel

/-- What a loop over `value` goes through. -/
def elements : Json → Except Exn (List Json)
  | .arr items => .ok items
  | .obj entries => .ok (entries.map fun entry => .str entry.1)
  | .str s => .ok ((characters s).map .str)
  | _ => .error .typeError

/-- `int(value)`. -/
def toInt [Unicode] [Decimals] : Json → Except Exn Int
  | .int n => .ok n
  | .bool b => .ok b.toNat
  | .float (.finite q) => .ok (q.num.tdiv q.den)
  | .float .negativeZero => .ok 0
  | .float (.infinity _) => .error .overflowError
  | .float .nan => .error .valueError
  | .str s => orRaise ((charsOf s).bind fun chars => intOf (String.ofList chars)) .valueError
  | _ => .error .typeError

/-- `base64.b64decode(value, validate=strict)`. -/
def b64decode (strict : Bool) : Json → Except Exn Bytes
  | .str s => orRaise ((encodeAscii s).bind (Base64.decode strict)) .valueError
  | _ => .error .typeError

section Repr

variable [Unicode] [FloatText]

/-- `repr(text)`. -/
def reprUnits (s : Units) : String :=
  let quote := if unit '\'' ∈ s ∧ unit '"' ∉ s then '"' else '\''
  quote.toString ++ String.join ((codePoints s).map fun code =>
    if code.isValidChar then reprChar quote (Char.ofNat code) else escape code) ++ quote.toString

def reprFloat : PyFloat → String
  | .finite q => String.ofList ((FloatText.repr q).map fun u => Char.ofNat u.toNat)
  | .negativeZero => "-0.0"
  | .infinity false => "inf"
  | .infinity true => "-inf"
  | .nan => "nan"

mutual

/-- `repr(value)`. -/
def repr : Json → String
  | .null => "None"
  | .bool true => "True"
  | .bool false => "False"
  | .int n => toString n
  | .float f => reprFloat f
  | .str s => reprUnits s
  | .arr items => "[" ++ join ", " (reprItems items) ++ "]"
  | .obj entries => "\x7b" ++ join ", " (reprEntries entries) ++ "\x7d"
termination_by structural value => value

def reprItems : List Json → List String
  | [] => []
  | item :: items => repr item :: reprItems items
termination_by structural items => items

def reprEntries : List (Units × Json) → List String
  | [] => []
  | (key, value) :: entries => (reprUnits key ++ ": " ++ repr value) :: reprEntries entries
termination_by structural entries => entries

end

/-- `str(value)`. -/
def toStr : Json → Units
  | .str s => s
  | value => units (repr value)

end Repr

theorem raisesOnly_item (value : Json) (key : String) :
    RaisesOnly [.keyError, .typeError] (value.item key) := by
  cases value with
  | obj entries => exact raisesOnly_orRaise (by simp) _
  | _ => exact raisesOnly_error.mpr (by simp)

theorem raisesOnly_elements (value : Json) : RaisesOnly [.typeError] value.elements := by
  cases value with
  | arr items => exact raisesOnly_ok _ items
  | obj entries => exact raisesOnly_ok _ _
  | str s => exact raisesOnly_ok _ _
  | _ => exact raisesOnly_error.mpr (by simp)

/-- Only an infinite float makes `int` raise `OverflowError`. -/
theorem raisesOnly_toInt [Unicode] [Decimals] {caught : List Exn} (htype : .typeError ∈ caught)
    (hvalue : .valueError ∈ caught) (hoverflow : .overflowError ∉ caught) (value : Json) :
    RaisesOnly caught value.toInt ↔ ∀ negative, value ≠ .float (.infinity negative) := by
  cases value with
  | float f => cases f <;> simp [toInt, hvalue, hoverflow]
  | str s => exact ⟨nofun, fun _ => raisesOnly_orRaise hvalue _⟩
  | _ => simp [toInt, htype]

theorem raisesOnly_b64decode (strict : Bool) (value : Json) :
    RaisesOnly [.valueError, .typeError] (value.b64decode strict) := by
  cases value with
  | str s => exact raisesOnly_orRaise (by simp) _
  | _ => exact raisesOnly_error.mpr (by simp)

/-- What is not a string makes `b64decode` raise `TypeError`. -/
theorem raisesOnly_valueError_b64decode (strict : Bool) (value : Json) :
    RaisesOnly [.valueError] (value.b64decode strict) ↔ ∃ s, value = .str s := by
  cases value with
  | str s => exact ⟨fun _ => ⟨s, rfl⟩, fun _ => raisesOnly_orRaise (by simp) _⟩
  | _ => simp [b64decode]

/-- `base64.b64encode(data).decode("ascii")`. -/
def base64 (data : Bytes) : Json := .str ((Base64.encode data).map UInt8.toUInt16)

/-- A byte string that was encoded as a string of a document is read back. -/
theorem b64decode_base64 (strict : Bool) (data : Bytes) :
    b64decode strict (base64 data) = .ok data := by
  have hascii : encodeAscii ((Base64.encode data).map UInt8.toUInt16) =
      some (Base64.encode data) := by
    apply encodeAscii_map
    exact Base64.encode_ascii data
  unfold base64
  rw [b64decode, hascii, Option.bind_some, Base64.decode_encode]
  rfl

end Json

end Py
