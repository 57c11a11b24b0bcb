import Sectum.Lib.JsonLineEnds
import Sectum.Lib.JsonValue

/-! `json.loads` of the text of a file, beside `json.loads` of its bytes, which guesses their encoding:
the two agree on UTF-8 without a mark. -/

namespace Py

section Utf8

theorem toNat_ofNat {n : Nat} (h : n < 256) : (UInt8.ofNat n).toNat = n := by
  rw [UInt8.toNat_ofNat']
  exact Nat.mod_eq_of_lt h

theorem continued_ofNat (n : Nat) : continued (UInt8.ofNat (n % 64 + 128)) = some (n % 64) := by
  have hbyte : (UInt8.ofNat (n % 64 + 128)).toNat = n % 64 + 128 := toNat_ofNat (by omega)
  rw [continued, hbyte, if_pos (by omega), Nat.add_sub_cancel]

theorem pointUnits_char (c : Char) : pointUnits c.toNat = charUnits c := rfl

theorem decodeUtf8_char (c : Char) (rest : Bytes) :
    decodeUtf8 (String.utf8EncodeChar c ++ rest) = (decodeUtf8 rest).map (charUnits c ++ ·) := by
  have hvalid := char_range c
  have hval : c.val.toNat = c.toNat := rfl
  rw [← pointUnits_char]
  fun_cases String.utf8EncodeChar c with
  | case1 v h =>
    have hlead : (UInt8.ofNat v).toNat = c.toNat := toNat_ofNat (by omega)
    have hunit : (UInt8.ofNat v).toUInt16 = c.toNat.toUInt16 := by
      apply UInt16.toNat_inj.mp
      rw [UInt8.toNat_toUInt16, hlead]
      exact (Nat.mod_eq_of_lt (by omega)).symm
    rw [List.singleton_append, decodeUtf8.eq_def]
    dsimp only
    rw [hlead, if_pos (by omega), hunit, pointUnits, if_pos (by omega)]
    rfl
  | case2 v hlow h =>
    have hlead : (UInt8.ofNat (v / 64 % 32 + 0xc0)).toNat = v / 64 % 32 + 0xc0 :=
      toNat_ofNat (by omega)
    have hcode : (v / 64 % 32 + 0xc0 - 0xc0) * 64 + v % 64 = c.toNat := by omega
    rw [List.cons_append, List.singleton_append, decodeUtf8.eq_def]
    dsimp only
    rw [hlead, if_neg (by omega), if_neg (by omega), if_pos (by omega), continued_ofNat]
    dsimp only
    rw [hcode]
  | case3 v hlow hmid h =>
    have hlead : (UInt8.ofNat (v / 4096 % 16 + 0xe0)).toNat = v / 4096 % 16 + 0xe0 :=
      toNat_ofNat (by omega)
    have hcode : (v / 4096 % 16 + 0xe0 - 0xe0) * 4096 + v / 64 % 64 * 64 + v % 64 = c.toNat := by
      omega
    rw [List.cons_append, List.cons_append, List.singleton_append, decodeUtf8.eq_def]
    dsimp only
    rw [hlead, if_neg (by omega), if_neg (by omega), if_neg (by omega), if_pos (by omega),
      continued_ofNat, continued_ofNat]
    dsimp only
    rw [hcode, if_neg (by omega)]
  | case4 v hlow hmid hhigh =>
    have hlead : (UInt8.ofNat (v / 262144 % 8 + 0xf0)).toNat = v / 262144 % 8 + 0xf0 :=
      toNat_ofNat (by omega)
    have hcode : (v / 262144 % 8 + 0xf0 - 0xf0) * 262144 + v / 4096 % 64 * 4096 + v / 64 % 64 * 64 +
        v % 64 = c.toNat := by
      omega
    rw [List.cons_append, List.cons_append, List.cons_append, List.singleton_append,
      decodeUtf8.eq_def]
    dsimp only
    rw [hlead, if_neg (by omega), if_neg (by omega), if_neg (by omega), if_neg (by omega),
      continued_ofNat, continued_ofNat, continued_ofNat]
    dsimp only
    rw [hcode, if_neg (by omega)]

theorem decodeUtf8_encode (chars : List Char) :
    decodeUtf8 (chars.flatMap String.utf8EncodeChar) = some (chars.flatMap charUnits) := by
  induction chars with
  | nil => rfl
  | cons c chars ih => rw [List.flatMap_cons, decodeUtf8_char, ih, Option.map_some, List.flatMap_cons]

/-- What is read strictly is the encoding of the text. -/
theorem readText_eq_some {data : Bytes} {text : String} (h : readText data = some text) :
    ∃ chars : List Char, data = chars.flatMap String.utf8EncodeChar ∧
      text = String.ofList (translateNewlines false chars) := by
  obtain ⟨source, hsource, rfl⟩ := Option.map_eq_some_iff.mp h
  refine ⟨source.toList, ?_, rfl⟩
  have hbytes : source.toByteArray = data.toByteArray := by
    unfold String.fromUTF8? at hsource
    split at hsource
    · rw [← Option.some.inj hsource]
      rfl
    · cases hsource
  rw [← String.utf8Encode_toList] at hbytes
  have hdata := congrArg (fun bytes : ByteArray => bytes.data.toList) hbytes
  rwa [List.utf8Encode, List.toList_data_toByteArray, List.toList_data_toByteArray, eq_comm] at hdata

theorem units_ofList (chars : List Char) : units (String.ofList chars) = chars.flatMap charUnits := by
  rw [units, String.toList_ofList]

section Reading

variable [JsonLimits] [FloatText]

/-- Bytes that are read as they are, without a guess of their encoding. -/
def Plain (data : Bytes) : Prop := readText data ≠ none ∧ detectEncoding data = (.utf8, 0)

/-- On plain bytes the text of the file and the bytes are one document. -/
theorem loadsOf_plain {data : Bytes} {text : String} (h : readText data = some text)
    (hplain : detectEncoding data = (.utf8, 0)) :
    loadsOf data = (loads (units text)).mapError LoadsError.exn := by
  obtain ⟨chars, rfl, rfl⟩ := readText_eq_some h
  have hdecode : loadsBytes (chars.flatMap String.utf8EncodeChar) =
      some (loads (chars.flatMap charUnits)) := by
    rw [loadsBytes, hplain]
    show (decodeUtf8 (chars.flatMap String.utf8EncodeChar)).map loads = _
    rw [decodeUtf8_encode, Option.map_some]
  rw [loadsOf, hdecode, units_ofList, ← loads_newlined (Newlined.translate chars)]
  cases loads (chars.flatMap charUnits) <;> rfl

omit [JsonLimits] [FloatText] in
/-- What a word does not begin with, and what is not its second unit. -/
theorem words_units : ∀ word ∈ JsonText.words, 1 < (units word.1).length ∧
    (units word.1)[0]? ≠ some 0 ∧ (units word.1)[0]? ≠ some 0xfeff ∧
      (units word.1)[1]? ≠ some 0 := by
  simp only [JsonText.words, List.forall_mem_cons]
  decide +kernel

omit [JsonLimits] [FloatText] in
theorem skipWord_absent {word : String} {text : Units} {i : Nat} (hi : i < (units word).length)
    (h : (units word)[i]? ≠ text[i]?) : JsonText.skipWord word text = none := by
  refine if_neg fun hfront => h ?_
  obtain ⟨rest, rfl⟩ := List.isPrefixOf_iff_prefix.mp hfront
  exact (List.getElem?_append_left hi).symm

omit [JsonLimits] [FloatText] in
theorem parseWord_none {text : Units} {i : Nat}
    (h : ∀ word ∈ JsonText.words, i < (units word.1).length ∧ (units word.1)[i]? ≠ text[i]?) :
    JsonText.parseWord text = none := by
  rw [JsonText.parseWord, List.findSome?_eq_none_iff]
  intro word hword
  obtain ⟨hi, hne⟩ := h word hword
  rw [skipWord_absent hi hne, Option.map_none]

/-- A null character and a byte order mark begin no value. -/
theorem parseValue_foreign {u : UInt16} (h : u = 0 ∨ u = 0xfeff) (depth : Nat) (rest : Units) :
    JsonText.parseValue depth (u :: rest) = .error .decode := by
  have hword : JsonText.parseWord (u :: rest) = none := by
    refine parseWord_none (i := 0) fun word hword => ?_
    obtain ⟨hlength, hnull, hmark, -⟩ := words_units word hword
    refine ⟨by omega, ?_⟩
    rcases h with rfl | rfl
    · exact hnull
    · exact hmark
  have hnumber : JsonText.scanNumber (u :: rest) = none := by
    rcases h with rfl | rfl <;> rfl
  have hatom : JsonText.parseAtom (u :: rest) = .error .decode := by
    rw [JsonText.parseAtom, hword, JsonText.parseNumber, hnumber]
  rcases h with rfl | rfl
  · rw [JsonText.parseValue_atom (by decide) (by decide) (by decide), hatom]
  · rw [JsonText.parseValue_atom (by decide) (by decide) (by decide), hatom]

theorem loads_foreign {u : UInt16} (h : u = 0 ∨ u = 0xfeff) (rest : Units) :
    loads (u :: rest) = .error .decode := by
  have hspace : JsonText.skipSpace (u :: rest) = u :: rest := by
    rcases h with rfl | rfl <;> rfl
  rw [loads, hspace, parseValue_foreign h]

omit [JsonLimits] [FloatText] in
theorem scanWhole_null {a : UInt16} {rest whole after : Units}
    (h : JsonText.scanWhole (a :: 0 :: rest) = some (whole, after)) : after = 0 :: rest := by
  unfold JsonText.scanWhole at h
  dsimp only at h
  split at h
  · exact (Prod.mk.inj (Option.some.inj h)).2.symm
  · split at h
    · exact (Prod.mk.inj (Option.some.inj h)).2.symm
    · cases h

omit [JsonLimits] [FloatText] in
/-- A number ends before a null character. -/
theorem scanNumber_null {a : UInt16} {rest whole suffix after : Units}
    (h : JsonText.scanNumber (a :: 0 :: rest) = some (whole, suffix, after)) : after = 0 :: rest := by
  have hfraction : JsonText.scanFraction (0 :: rest) = ([], 0 :: rest) :=
    JsonText.scanFraction_unpointed (by decide) rest
  have hexponent : JsonText.scanExponent (0 :: rest) = ([], 0 :: rest) := by
    unfold JsonText.scanExponent
    dsimp only
    exact if_neg fun hletter => absurd hletter.1 (by decide)
  unfold JsonText.scanNumber at h
  cases hwhole : JsonText.scanWhole (JsonText.scanMinus (a :: 0 :: rest)).2 with
  | none =>
    rw [hwhole] at h
    cases h
  | some scanned =>
    obtain ⟨digits, behind⟩ := scanned
    obtain rfl : behind = 0 :: rest := by
      unfold JsonText.scanMinus at hwhole
      split at hwhole
      · cases hwhole
      · exact scanWhole_null hwhole
    rw [hwhole] at h
    dsimp only at h
    rw [hfraction] at h
    dsimp only at h
    rw [hexponent] at h
    exact (Prod.mk.inj (Prod.mk.inj (Option.some.inj h)).2).2.symm

theorem parseNumber_null {a : UInt16} {rest after : Units} {value : Json}
    (h : JsonText.parseNumber (a :: 0 :: rest) = .ok (value, after)) : after = 0 :: rest := by
  unfold JsonText.parseNumber at h
  split at h
  · cases h
  · rename_i hscan
    split at h
    · cases h
    · rw [← (Prod.mk.inj (Except.ok.inj h)).2]
      exact scanNumber_null hscan
  · rename_i hscan
    rw [← (Prod.mk.inj (Except.ok.inj h)).2]
    exact scanNumber_null hscan

omit [JsonLimits] [FloatText] in
theorem parseElements_null {α : Type} {element : Units → JsonText.Parsed α} {close : UInt16}
    (hclose : (0 : UInt16) ≠ close) {rest : Units}
    (helement : element (0 :: rest) = .error .decode) :
    JsonText.parseElements element close (0 :: rest) = .error .decode := by
  have hspace : JsonText.skipSpace (0 :: rest) = 0 :: rest := rfl
  rw [JsonText.parseElements, hspace]
  dsimp only
  rw [if_neg hclose, List.length_cons, JsonText.parseSeparated, helement]

/-- A value ends before a null character in the second place. -/
theorem parseValue_null {a : UInt16} {depth : Nat} {rest after : Units} {value : Json}
    (h : JsonText.parseValue depth (a :: 0 :: rest) = .ok (value, after)) : after = 0 :: rest := by
  have hword : JsonText.parseWord (a :: 0 :: rest) = none :=
    parseWord_none (i := 1) fun word hword =>
      ⟨(words_units word hword).1, (words_units word hword).2.2.2⟩
  by_cases hquote : a = unit '"'
  · subst hquote
    rw [JsonText.parseValue_quote, JsonText.parseString_control (by decide)] at h
    cases h
  · by_cases hbrace : a = unit '{'
    · subst hbrace
      cases depth with
      | zero => cases h
      | succ depth =>
        have hobject : JsonText.parseObject (JsonText.parseValue depth) (0 :: rest) =
            .ok (value, after) := h
        rw [JsonText.parseObject, parseElements_null (by decide) rfl] at hobject
        cases hobject
    · by_cases hbracket : a = unit '['
      · subst hbracket
        cases depth with
        | zero => cases h
        | succ depth =>
          have harray : JsonText.parseArray (JsonText.parseValue depth) (0 :: rest) =
              .ok (value, after) := h
          rw [JsonText.parseArray,
            parseElements_null (by decide) (parseValue_foreign (.inl rfl) depth rest)] at harray
          cases harray
      · rw [JsonText.parseValue_atom hquote hbrace hbracket, JsonText.parseAtom, hword] at h
        exact parseNumber_null h

/-- No document has a null character for its second. -/
theorem loads_null (a : UInt16) (rest : Units) (value : Json) : loads (a :: 0 :: rest) ≠ .ok value := by
  intro h
  cases hspace : JsonText.isSpace a with
  | true =>
    have hskip : JsonText.skipSpace (a :: 0 :: rest) = 0 :: rest :=
      List.dropWhile_cons_of_pos hspace
    rw [loads, hskip, parseValue_foreign (.inl rfl)] at h
    cases h
  | false =>
    have hskip : JsonText.skipSpace (a :: 0 :: rest) = a :: 0 :: rest :=
      List.dropWhile_cons_of_neg (by simp [hspace])
    rw [loads, hskip] at h
    split at h
    · cases h
    · rename_i hvalue
      rw [parseValue_null hvalue] at h
      split at h
      · rename_i hlast
        cases hlast
      · cases h

omit [JsonLimits] [FloatText] in
theorem decodeUtf8_null {rest : Bytes} {text : Units} (h : decodeUtf8 (0 :: rest) = some text) :
    ∃ tail, text = 0 :: tail := by
  have hdecode : decodeUtf8 (0 :: rest) = (decodeUtf8 rest).map (0 :: ·) := by
    rw [decodeUtf8.eq_def]
    rfl
  obtain ⟨tail, -, rfl⟩ := Option.map_eq_some_iff.mp (hdecode.symm.trans h)
  exact ⟨tail, rfl⟩

omit [JsonLimits] [FloatText] in
/-- A null character is no continuation. -/
theorem decodeUtf8_null_second {a : UInt8} {rest : Bytes} {text : Units}
    (h : decodeUtf8 (a :: 0 :: rest) = some text) : ∃ tail, text = a.toUInt16 :: 0 :: tail := by
  have hcontinued : continued 0 = none := rfl
  rw [decodeUtf8.eq_def] at h
  dsimp only at h
  split at h
  · obtain ⟨behind, hbehind, rfl⟩ := Option.map_eq_some_iff.mp h
    obtain ⟨tail, rfl⟩ := decodeUtf8_null hbehind
    exact ⟨tail, rfl⟩
  · rw [hcontinued] at h
    split at h
    · cases h
    · split at h
      · cases h
      · split at h
        · cases h
        · split at h
          · split at h
            · contradiction
            · cases h
          · split at h
            · cases h
            · split at h
              · contradiction
              · cases h

omit [JsonLimits] [FloatText] in
theorem decodeUtf8_beyond {a : UInt8} (ha : 0xfe ≤ a.toNat) (rest : Bytes) :
    decodeUtf8 (a :: rest) = none := by
  rw [decodeUtf8.eq_def]
  dsimp only
  rw [if_neg (by omega), if_neg (by omega)]
  split
  · rfl
  · rw [if_neg (by omega)]
    split
    · rfl
    · rw [if_neg (by omega)]
      split
      · rfl
      · split
        · rw [if_pos (by omega)]
        · rfl

omit [JsonLimits] [FloatText] in
theorem decodeUtf8_mark {rest : Bytes} {text : Units}
    (h : decodeUtf8 (0xef :: 0xbb :: 0xbf :: rest) = some text) : ∃ tail, text = 0xfeff :: tail := by
  have hdecode : decodeUtf8 (0xef :: 0xbb :: 0xbf :: rest) =
      (decodeUtf8 rest).map (0xfeff :: ·) := by
    have hsecond : continued 0xbb = some 0x3b := rfl
    have hthird : continued 0xbf = some 0x3f := rfl
    have hcode : pointUnits (((0xef : UInt8).toNat - 0xe0) * 4096 + 0x3b * 64 + 0x3f) = [0xfeff] := by
      decide
    rw [decodeUtf8.eq_def]
    dsimp only
    rw [if_neg (by decide), if_neg (by decide), if_neg (by decide), if_pos (by decide), hsecond,
      hthird]
    dsimp only
    rw [if_neg (by decide), hcode]
    rfl
  obtain ⟨tail, -, rfl⟩ := Option.map_eq_some_iff.mp (hdecode.symm.trans h)
  exact ⟨tail, rfl⟩

omit [JsonLimits] [FloatText] in
/-- Text whose bytes are not taken for UTF-8 begins with a null character or a mark, or has a null
character for its second. -/
theorem marked_cases {data : Bytes} {text : Units} (h : decodeUtf8 data = some text)
    (hmarked : detectEncoding data ≠ (.utf8, 0)) :
    (∃ u tail, (u = 0 ∨ u = 0xfeff) ∧ text = u :: tail) ∨ ∃ a tail, text = a :: 0 :: tail := by
  have hbeyond : ∀ {a : UInt8} {front : Bytes}, 0xfe ≤ a.toNat → ¬a :: front <+: data := by
    rintro a front ha ⟨rest, rfl⟩
    rw [List.cons_append, decodeUtf8_beyond ha] at h
    cases h
  have hpair : ∀ {a b : UInt8} {rest : Bytes} {x y : Encoding × Nat}, data = a :: b :: rest →
      (if a = 0 then x else if b = 0 then y else (.utf8, 0)) ≠ (.utf8, 0) →
        (∃ u tail, (u = 0 ∨ u = 0xfeff) ∧ text = u :: tail) ∨ ∃ a tail, text = a :: 0 :: tail := by
    rintro a b rest x y rfl hguess
    by_cases ha : a = 0
    · rw [ha] at h
      obtain ⟨tail, rfl⟩ := decodeUtf8_null h
      exact .inl ⟨0, tail, .inl rfl, rfl⟩
    · rw [if_neg ha] at hguess
      by_cases hb : b = 0
      · rw [hb] at h
        obtain ⟨tail, rfl⟩ := decodeUtf8_null_second h
        exact .inr ⟨_, tail, rfl⟩
      · exact absurd (if_neg hb) hguess
  unfold detectEncoding at hmarked
  split at hmarked
  · rename_i hmark
    obtain ⟨rest, rfl⟩ := hmark
    obtain ⟨tail, rfl⟩ := decodeUtf8_null h
    exact .inl ⟨0, tail, .inl rfl, rfl⟩
  · rename_i hwide
    rw [if_neg (hbeyond (by decide)), if_neg (hbeyond (by decide)), if_neg (hbeyond (by decide))]
      at hmarked
    split at hmarked
    · rename_i hmark
      obtain ⟨rest, rfl⟩ := hmark
      obtain ⟨tail, rfl⟩ := decodeUtf8_mark h
      exact .inl ⟨0xfeff, tail, .inr rfl, rfl⟩
    · rename_i hmark
      split at hmarked
      · exact hpair rfl hmarked
      · exact hpair rfl hmarked
      · exact absurd rfl hmarked

/-- Text whose bytes are not taken for UTF-8 without a mark is no document. -/
theorem loads_marked {data : Bytes} {text : String} (h : readText data = some text)
    (hmarked : detectEncoding data ≠ (.utf8, 0)) (value : Json) :
    loads (units text) ≠ .ok value := by
  obtain ⟨chars, rfl, rfl⟩ := readText_eq_some h
  rw [units_ofList, ← loads_newlined (Newlined.translate chars)]
  rcases marked_cases (decodeUtf8_encode chars) hmarked with ⟨u, tail, hu, htext⟩ | ⟨a, tail, htext⟩
  · rw [htext, loads_foreign hu]
    nofun
  · rw [htext]
    exact loads_null a tail value

end Reading

end Utf8

end Py
