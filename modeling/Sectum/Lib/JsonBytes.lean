import Sectum.Lib.JsonText
import Sectum.Lib.Sha256

/-! `json.loads` on bytes, which guesses the encoding from the first of them, and `str.encode`. -/

namespace Py

inductive Encoding
  | utf8
  | utf16 (big : Bool)
  | utf32 (big : Bool)
  deriving DecidableEq, Repr

/-- `json.detect_encoding`, and how many bytes the byte order mark takes. -/
def detectEncoding (data : Bytes) : Encoding × Nat :=
  if [0, 0, 0xfe, 0xff] <+: data then (.utf32 true, 4)
  else if [0xff, 0xfe, 0, 0] <+: data then (.utf32 false, 4)
  else if [0xfe, 0xff] <+: data then (.utf16 true, 2)
  else if [0xff, 0xfe] <+: data then (.utf16 false, 2)
  else if [0xef, 0xbb, 0xbf] <+: data then (.utf8, 3)
  else
    match data with
    | [a, b] => if a = 0 then (.utf16 true, 0) else if b = 0 then (.utf16 false, 0) else (.utf8, 0)
    | a :: b :: c :: d :: _ =>
      if a = 0 then (if b = 0 then .utf32 true else .utf16 true, 0)
      else if b = 0 then (if c = 0 ∧ d = 0 then .utf32 false else .utf16 false, 0)
      else (.utf8, 0)
    | _ => (.utf8, 0)

/-- The code units of a code point, which may be a surrogate (`surrogatepass`). -/
def pointUnits (code : Nat) : Units :=
  if code < 0x10000 then [code.toUInt16]
  else
    [(0xd800 + (code - 0x10000) / 0x400).toUInt16, (0xdc00 + (code - 0x10000) % 0x400).toUInt16]

/-- The bits of a continuation byte. -/
def continued (byte : UInt8) : Option Nat :=
  if 0x80 ≤ byte.toNat ∧ byte.toNat < 0xc0 then some (byte.toNat - 0x80) else none

def decodeUtf8 : Bytes → Option Units
  | [] => some []
  | a :: rest =>
    if a.toNat < 0x80 then (decodeUtf8 rest).map (a.toUInt16 :: ·)
    else if a.toNat < 0xc2 then none
    else
      match rest with
      | [] => none
      | b :: rest =>
        if a.toNat < 0xe0 then
          match continued b with
          | some b => (decodeUtf8 rest).map (pointUnits ((a.toNat - 0xc0) * 64 + b) ++ ·)
          | none => none
        else
          match rest with
          | [] => none
          | c :: rest =>
            if a.toNat < 0xf0 then
              match continued b, continued c with
              | some b, some c =>
                let code := (a.toNat - 0xe0) * 4096 + b * 64 + c
                if code < 0x800 then none else (decodeUtf8 rest).map (pointUnits code ++ ·)
              | _, _ => none
            else
              match rest with
              | [] => none
              | d :: rest =>
                match continued b, continued c, continued d with
                | some b, some c, some d =>
                  let code := (a.toNat - 0xf0) * 262144 + b * 4096 + c * 64 + d
                  if code < 0x10000 ∨ 0x110000 ≤ code then none
                  else (decodeUtf8 rest).map (pointUnits code ++ ·)
                | _, _, _ => none

def decodeUtf16 (big : Bool) : Bytes → Option Units
  | [] => some []
  | [_] => none
  | a :: b :: rest =>
    let code := if big then a.toNat * 256 + b.toNat else b.toNat * 256 + a.toNat
    (decodeUtf16 big rest).map (code.toUInt16 :: ·)

def decodeUtf32 (big : Bool) : Bytes → Option Units
  | [] => some []
  | a :: b :: c :: d :: rest =>
    let code :=
      if big then ((a.toNat * 256 + b.toNat) * 256 + c.toNat) * 256 + d.toNat
      else ((d.toNat * 256 + c.toNat) * 256 + b.toNat) * 256 + a.toNat
    if 0x110000 ≤ code then none else (decodeUtf32 big rest).map (pointUnits code ++ ·)
  | _ => none

/-- `data.decode(encoding, "surrogatepass")`. -/
def decodeBytes (encoding : Encoding) (data : Bytes) : Option Units :=
  match encoding with
  | .utf8 => decodeUtf8 data
  | .utf16 big => decodeUtf16 big data
  | .utf32 big => decodeUtf32 big data

/-- `json.loads` on bytes, where `none` is the `UnicodeDecodeError`. -/
def loadsBytes [JsonLimits] [FloatText] (data : Bytes) : Option (Except LoadsError Json) :=
  (decodeBytes (detectEncoding data).1 (data.drop (detectEncoding data).2)).map loads

/-- `text.encode("ascii")`. -/
def encodeAscii (text : Units) : Option Bytes :=
  if text.all fun u => u.toNat < 0x80 then some (text.map UInt16.toUInt8) else none

/-- `text.encode("utf-8")`, which raises `UnicodeEncodeError` on a surrogate. -/
def encodeUtf8 (text : Units) : Option Bytes :=
  (charsOf text).map fun chars => (String.ofList chars).toUTF8.data.toList

theorem encodeAscii_map {data : Bytes} (h : ∀ byte ∈ data, byte.toNat < 0x80) :
    encodeAscii (data.map UInt8.toUInt16) = some data := by
  have hall : (data.map UInt8.toUInt16).all (fun u => decide (u.toNat < 0x80)) = true := by
    rw [List.all_map, List.all_eq_true]
    intro byte hbyte
    simpa using h byte hbyte
  have hback : UInt16.toUInt8 ∘ UInt8.toUInt16 = id := by
    funext byte
    apply UInt8.toNat_inj.mp
    show byte.toUInt16.toUInt8.toNat = byte.toNat
    rw [UInt16.toNat_toUInt8, UInt8.toNat_toUInt16]
    exact Nat.mod_eq_of_lt byte.toNat_lt
  rw [encodeAscii, if_pos hall, List.map_map, hback, List.map_id]

end Py
