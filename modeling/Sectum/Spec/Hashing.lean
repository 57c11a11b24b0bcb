import Sectum.Lib.JsonBytes
import Sectum.Lib.JsonRoundTrip
import Sectum.Spec.Untrusted

/-! `sectum_ai.spec.hashing`: canonical JSON and its digest, and the canonical JSON of a raw value: what
Python's containers hold before `json.dumps` turns their keys into strings and their tuples into
arrays. -/

namespace Sectum

open Py

/-- `text.encode("utf-8")`. -/
def utf8 (text : String) : Bytes := text.toUTF8.data.toList

def sha256Hex (data : Bytes) : String := hexBytes (sha256 data)

/-- Canonical JSON bytes: sorted keys, UTF-8, compact.  The keys of a document are strings. -/
def toCanonicalJson [JsonLimits] [FloatText] (value : Json) : Except Exn Bytes := do
  let text ← dumps JsonText.canonical value
  orRaise (encodeUtf8 text) .valueError

def canonicalHash [JsonLimits] [FloatText] [Hashlib] (value : Json) : Except Exn String :=
  (toCanonicalJson value).map hexdigest

/-- Two documents of one hash have one canonical form, unless the two forms collide. -/
theorem sha256_eq_of_canonicalHash [JsonLimits] [FloatText] [Hashlib] {value other : Json}
    {hash : String} (h : canonicalHash value = .ok hash) (h' : canonicalHash other = .ok hash) :
    ∃ canonical canonical', toCanonicalJson value = .ok canonical ∧
      toCanonicalJson other = .ok canonical' ∧ Hashlib.sha256 canonical = Hashlib.sha256 canonical' := by
  obtain ⟨canonical, hvalue, hhash⟩ := map_eq_ok.mp h
  obtain ⟨canonical', hother, hhash'⟩ := map_eq_ok.mp h'
  exact ⟨canonical, canonical', hvalue, hother, hexBytes_injective (hhash.trans hhash'.symm)⟩

section Raw

open JsonText

/-- What a dictionary takes for a key. -/
inductive RawScalar
  | null
  | bool (b : Bool)
  | int (n : Int)
  | float (f : PyFloat)
  | str (s : List CodePoint)
  deriving DecidableEq

inductive RawValue
  | scalar (value : RawScalar)
  | list (items : List RawValue)
  | tuple (items : List RawValue)
  | dict (entries : List (RawScalar × RawValue))

namespace RawScalar

def isStr : RawScalar → Bool
  | str _ => true
  | _ => false

section Keys

/-- The number that a key compares as. -/
def number : RawScalar → Option ℚ
  | bool b => some (if b then 1 else 0)
  | int n => some n
  | float (.finite q) => some q
  | float .negativeZero => some 0
  | _ => none

/-- `a == b`, by which a dictionary tells its keys apart. -/
def same (a b : RawScalar) : Prop :=
  match a.number, b.number with
  | some p, some q => p = q
  | none, none => a = b ∧ a ≠ float .nan
  | _, _ => False

def isNumber : RawScalar → Bool
  | bool _ => true
  | int _ => true
  | float _ => true
  | _ => false

/-- Whether `sorted` can compare the keys with each other. -/
def comparable (keys : List RawScalar) : Bool :=
  keys.all isStr || keys.all isNumber || keys.length ≤ 1

/-- The order of the keys; where a float is not finite it is refused before it matters. -/
def le (a b : RawScalar) : Prop :=
  match a, b with
  | str s, str t => s.map Fin.val ≤ t.map Fin.val
  | a, b => a.number.getD 0 ≤ b.number.getD 0

instance : DecidableRel le := fun a b => by
  unfold le
  split
  · exact inferInstance
  · exact inferInstance

end Keys

section Text

/-- The text of a string, where a surrogate stays one. -/
def pointsUnits (s : List CodePoint) : Units := s.flatMap fun char => pointUnits char.val

def toJson : RawScalar → Json
  | null => .null
  | bool b => .bool b
  | int n => .int n
  | float f => .float f
  | str s => .str (pointsUnits s)

/-- The string that `json.dumps` makes of a key. -/
def keyText [FloatText] : RawScalar → Units
  | str s => pointsUnits s
  | key => print canonical 0 key.toJson

def refusal [JsonLimits] : RawScalar → Option Exn
  | int n => if JsonLimits.digits < (printNat n.natAbs).length then some .valueError else none
  | float (.infinity _) => some .valueError
  | float .nan => some .valueError
  | _ => none

def isSurrogate (char : CodePoint) : Bool := 0xd800 ≤ char.val && char.val < 0xe000

def encodable : RawScalar → Bool
  | str s => !s.any isSurrogate
  | _ => true

end Text

end RawScalar

namespace RawValue

mutual

/-- `_refuse_non_string_keys`. -/
def refuseNonStringKeys : RawValue → Except Exn Unit
  | .dict entries =>
    if entries.all fun entry => entry.1.isStr then refuseInValues entries else .error .typeError
  | .list items => refuseInItems items
  | _ => .ok ()
termination_by structural value => value

def refuseInItems : List RawValue → Except Exn Unit
  | [] => .ok ()
  | item :: items => do
    item.refuseNonStringKeys
    refuseInItems items
termination_by structural items => items

def refuseInValues : List (RawScalar × RawValue) → Except Exn Unit
  | [] => .ok ()
  | (_, value) :: entries => do
    value.refuseNonStringKeys
    refuseInValues entries
termination_by structural entries => entries

end

section Dumps

def entryLE {α : Type} (a b : RawScalar × α) : Prop := a.1.le b.1

instance {α : Type} : DecidableRel (entryLE (α := α)) := fun a b =>
  inferInstanceAs (Decidable (a.1.le b.1))

/-- The first of the entries that is refused, in the order in which they are written. -/
def firstRefusal (entries : List (RawScalar × Option Exn)) : Option Exn :=
  (entries.insertionSort entryLE).findSome? Prod.snd

variable [JsonLimits]

mutual

/-- What keeps a value from being written. -/
def refusal : Nat → RawValue → Option Exn
  | _, .scalar value => value.refusal
  | depth, .list items => if depth = 0 then some .recursionError else refusalItems (depth - 1) items
  | depth, .tuple items => if depth = 0 then some .recursionError else refusalItems (depth - 1) items
  | depth, .dict entries =>
    if depth = 0 then some .recursionError
    else if RawScalar.comparable (entries.map Prod.fst) then
      firstRefusal (refusals (depth - 1) entries)
    else some .typeError
termination_by structural _ value => value

def refusalItems : Nat → List RawValue → Option Exn
  | _, [] => none
  | depth, item :: items => (refusal depth item).or (refusalItems depth items)
termination_by structural _ items => items

/-- What each entry is refused for. -/
def refusals : Nat → List (RawScalar × RawValue) → List (RawScalar × Option Exn)
  | _, [] => []
  | depth, (key, value) :: entries =>
    (key, key.refusal.or (refusal depth value)) :: refusals depth entries
termination_by structural _ entries => entries

end

variable [FloatText]

mutual

/-- What `json.dumps` writes of a value, with `sort_keys`. -/
def toJson : RawValue → Json
  | .scalar value => value.toJson
  | .list items => .arr (toItems items)
  | .tuple items => .arr (toItems items)
  | .dict entries =>
    .obj (((toEntries entries).insertionSort entryLE).map fun entry => (entry.1.keyText, entry.2))
termination_by structural value => value

def toItems : List RawValue → List Json
  | [] => []
  | item :: items => item.toJson :: toItems items
termination_by structural items => items

def toEntries : List (RawScalar × RawValue) → List (RawScalar × Json)
  | [] => []
  | (key, value) :: entries => (key, value.toJson) :: toEntries entries
termination_by structural entries => entries

end

/-- `json.dumps(data, sort_keys=True, separators=(",", ":"), ensure_ascii=False, allow_nan=False)`. -/
def dumps (value : RawValue) : Except Exn Units :=
  match value.refusal JsonLimits.depth with
  | some e => .error e
  | none => .ok (print canonical 0 value.toJson)

end Dumps

section Encode

mutual

/-- Whether no string of a value has a surrogate, which is whether its text can be encoded. -/
def encodable : RawValue → Bool
  | .scalar value => value.encodable
  | .list items => encodableItems items
  | .tuple items => encodableItems items
  | .dict entries => encodableEntries entries
termination_by structural value => value

def encodableItems : List RawValue → Bool
  | [] => true
  | item :: items => item.encodable && encodableItems items
termination_by structural items => items

def encodableEntries : List (RawScalar × RawValue) → Bool
  | [] => true
  | (key, value) :: entries => key.encodable && value.encodable && encodableEntries entries
termination_by structural entries => entries

end

def toCanonicalJson [JsonLimits] [FloatText] (value : RawValue) : Except Exn Bytes := do
  value.refuseNonStringKeys
  let text ← value.dumps
  if value.encodable then orRaise (encodeUtf8 text) .valueError else .error .valueError

end Encode

end RawValue

end Raw

end Sectum
