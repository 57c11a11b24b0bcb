import Mathlib.Data.String.Basic

/-! `Path.read_text()`: strict UTF-8, and every line end becomes a newline.  And
`bytes.decode("utf-8", errors="replace")`: a start of a sequence that nothing completes becomes one
U+FFFD. -/

namespace Py

/-- Universal newlines, behind a carriage return or not. -/
def translateNewlines (behindReturn : Bool) : List Char → List Char
  | [] => []
  | c :: rest =>
    if c = '\r' then '\n' :: translateNewlines true rest
    else if c = '\n' ∧ behindReturn then translateNewlines false rest
    else c :: translateNewlines false rest

/-- The text of a file, which is `none` where its bytes are not UTF-8. -/
def readText (data : List UInt8) : Option String :=
  (String.fromUTF8? data.toByteArray).map fun text =>
    String.ofList (translateNewlines false text.toList)

example : readText [0x61, 0x0d, 0x0a, 0x0d, 0x62] = some "a\n\nb" := by decide +kernel

/-- Whether the second byte of a sequence of three or four may follow the first. -/
def mayFollow (lead second : UInt8) : Bool :=
  if lead = 0xe0 then 0xa0 ≤ second ∧ second < 0xc0
  else if lead = 0xed then 0x80 ≤ second ∧ second < 0xa0
  else if lead = 0xf0 then 0x90 ≤ second ∧ second < 0xc0
  else if lead = 0xf4 then 0x80 ≤ second ∧ second < 0x90
  else 0xe1 ≤ lead ∧ lead < 0xf4 ∧ 0x80 ≤ second ∧ second < 0xc0

/-- The number of bytes that one U+FFFD stands for: the longest beginning of a valid sequence. -/
def brokenLength : List UInt8 → Nat
  | lead :: second :: rest =>
    if mayFollow lead second then
      match rest with
      | third :: _ => if 0xf0 ≤ lead ∧ 0x80 ≤ third ∧ third < 0xc0 then 3 else 2
      | [] => 2
    else 1
  | _ => 1

def decodeReplaceFrom : Nat → List UInt8 → List Char
  | 0, _ => []
  | fuel + 1, data =>
    if data = [] then []
    else
      match data.toByteArray.utf8DecodeChar? 0 with
      | some char => char :: decodeReplaceFrom fuel (data.drop char.utf8Size)
      | none => '\uFFFD' :: decodeReplaceFrom fuel (data.drop (brokenLength data))

def decodeReplace (data : List UInt8) : String :=
  String.ofList (decodeReplaceFrom data.length data)

example : decodeReplace [0x41, 0xe2, 0x82, 0x42, 0xff] = "A\uFFFDB\uFFFD" := by decide +kernel

theorem decodeReplaceFrom_encode (chars : List Char) (fuel : Nat)
    (h : (chars.flatMap String.utf8EncodeChar).length ≤ fuel) :
    decodeReplaceFrom fuel (chars.flatMap String.utf8EncodeChar) = chars := by
  induction chars generalizing fuel with
  | nil => cases fuel <;> rfl
  | cons char chars ih =>
    have hsize : (String.utf8EncodeChar char).length = char.utf8Size :=
      String.length_utf8EncodeChar char
    have hpos := char.utf8Size_pos
    rw [List.flatMap_cons, List.length_append] at h
    obtain ⟨fuel, rfl⟩ : ∃ rest, fuel = rest + 1 := ⟨fuel - 1, by omega⟩
    have hdecode : (String.utf8EncodeChar char ++
        chars.flatMap String.utf8EncodeChar).toByteArray.utf8DecodeChar? 0 = some char := by
      rw [List.toByteArray_append]
      exact ByteArray.utf8DecodeChar?_utf8EncodeChar_append
    have hne : String.utf8EncodeChar char ++ chars.flatMap String.utf8EncodeChar ≠ [] :=
      List.ne_nil_of_length_pos (by rw [List.length_append]; omega)
    rw [List.flatMap_cons, decodeReplaceFrom, if_neg hne, hdecode]
    show char :: decodeReplaceFrom fuel _ = char :: chars
    rw [← hsize, List.drop_left, ih fuel (by omega)]

/-- Text that was encoded is decoded as it was. -/
theorem decodeReplace_encode (text : String) : decodeReplace text.toUTF8.data.toList = text := by
  have hbytes : text.toUTF8.data.toList = text.toList.flatMap String.utf8EncodeChar := by
    rw [String.toUTF8_eq_toByteArray, ← String.utf8Encode_toList]
    exact List.toList_data_toByteArray
  rw [hbytes, decodeReplace, decodeReplaceFrom_encode _ _ le_rfl, String.ofList_toList]

end Py
