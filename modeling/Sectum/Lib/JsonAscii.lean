import Sectum.Lib.JsonBytes
import Sectum.Lib.JsonRoundTrip

/-! What `json.dumps` writes by default is ASCII, so it is the same text in bytes. -/

namespace Py

/-- The strings of a value, and the keys of its objects, are all good. -/
inductive Json.Strings (good : Units → Prop) : Json → Prop
  | null : Strings good .null
  | bool (b : Bool) : Strings good (.bool b)
  | int (n : Int) : Strings good (.int n)
  | float (f : PyFloat) : Strings good (.float f)
  | str (s : Units) (h : good s) : Strings good (.str s)
  | arr (items : List Json) (h : ∀ item ∈ items, Strings good item) : Strings good (.arr items)
  | obj (entries : List (Units × Json)) (hkeys : ∀ entry ∈ entries, good entry.1)
    (h : ∀ entry ∈ entries, Strings good entry.2) : Strings good (.obj entries)

section Strings

variable {good : Units → Prop} {value : Json}

theorem Json.Strings.of_all (h : ∀ s, good s) : value.Strings good := by
  induction value using Json.induction with
  | null => exact .null
  | bool b => exact .bool b
  | int n => exact .int n
  | float f => exact .float f
  | str s => exact .str s (h s)
  | arr items ih => exact .arr items ih
  | obj entries ih => exact .obj entries (fun entry _ => h entry.1) ih

theorem Json.Strings.sorted (h : value.Strings good) : value.sorted.Strings good := by
  induction h with
  | null => exact .null
  | bool b => exact .bool b
  | int n => exact .int n
  | float f => exact .float f
  | str s h => exact .str s h
  | arr items _ ih =>
    rw [Json.sorted, sortedItems_eq]
    refine .arr _ fun item hitem => ?_
    obtain ⟨item, hmem, rfl⟩ := List.mem_map.mp hitem
    exact ih item hmem
  | obj entries hkeys _ ih =>
    have hperm := List.perm_insertionSort keyLE (entries.map sortedEntry)
    rw [Json.sorted, sortedEntries_eq]
    refine .obj _ (fun entry hentry => ?_) fun entry hentry => ?_
    · obtain ⟨entry, hmem, rfl⟩ := List.mem_map.mp (hperm.subset hentry)
      exact hkeys entry hmem
    · obtain ⟨entry, hmem, rfl⟩ := List.mem_map.mp (hperm.subset hentry)
      exact ih entry hmem

end Strings

namespace JsonText

section Ascii

theorem isAscii_space {gap : Units} (h : ∀ u ∈ gap, isSpace u = true) : IsAscii gap := by
  intro u hu
  have hspace := h u hu
  simp only [isSpace, Bool.or_eq_true, decide_eq_true_eq] at hspace
  rcases hspace with ((rfl | rfl) | rfl) | rfl <;> decide

theorem isAscii_printNat (n : Nat) : IsAscii (printNat n) := by
  intro u hu
  have hdigit := printNat_digits n u hu
  simp only [isDigit, Bool.and_eq_true, decide_eq_true_eq] at hdigit
  omega

theorem isAscii_word {word : String × Json} (hword : word ∈ words) : IsAscii (units word.1) := by
  have hall : ∀ word ∈ words.map Prod.fst, IsAscii (units word) := by decide +kernel
  exact hall word.1 (List.mem_map_of_mem hword)

variable {style : Style}

theorem isAscii_printUnit {u : UInt16} (h : style.ascii = true ∨ u.toNat ≤ 126) :
    IsAscii (printUnit style u) := by
  have hescapes : ∀ escape ∈ escapes, 0 < escape.1.toNat ∧ escape.1.toNat < 0x80 :=
    List.forall_iff_forall_mem.mp (by decide +kernel)
  have hhex : ∀ n : Fin 16, 0 < (hexUnit n).toNat ∧ (hexUnit n).toNat < 0x80 := by
    decide +kernel
  have hslash : 0 < (unit '\\').toNat ∧ (unit '\\').toNat < 0x80 := by decide
  unfold printUnit
  split
  · rename_i escape hfind
    exact .cons hslash (.cons (hescapes escape (List.mem_of_find?_eq_some hfind)) isAscii_nil)
  · have hu : u.toNat < 65536 := u.toNat_lt
    split
    · exact .cons hslash (.cons (by decide) (.cons (hhex ⟨_, by omega⟩) (.cons (hhex ⟨_, by omega⟩)
        (.cons (hhex ⟨_, by omega⟩) (.cons (hhex ⟨_, by omega⟩) isAscii_nil)))))
    · rename_i hshown
      have hlow := (not_or.mp hshown).1
      have hhigh : ¬126 < u.toNat := fun hlarge =>
        (not_or.mp hshown).2 ⟨h.resolve_right (by omega), hlarge⟩
      exact .cons (by omega) isAscii_nil

theorem isAscii_printString (hascii : style.ascii = true) (s : Units) :
    IsAscii (printString style s) := by
  refine .append (fun u hu => ?_) (.cons (by decide) isAscii_nil)
  obtain ⟨v, -, hv⟩ := List.mem_flatMap.mp hu
  exact isAscii_printUnit (.inl hascii) u hv

end Ascii

/-- What holds of a text that is put together from texts of which it holds, and of ASCII. -/
structure Composed (holds : Units → Prop) : Prop where
  append : ∀ {text text' : Units}, holds text → holds text' → holds (text ++ text')
  ascii : ∀ {text : Units}, IsAscii text → holds text

section Composed

variable {holds : Units → Prop} {style : Style} (hholds : Composed holds)
include hholds

theorem Composed.cons {u : UInt16} {text : Units} (hu : 0 < u.toNat ∧ u.toNat < 0x80)
    (h : holds text) : holds (u :: text) := by
  have hascii : IsAscii [u] := .cons hu isAscii_nil
  exact hholds.append (hholds.ascii hascii) h

theorem Composed.printTail {close : UInt16} (hclose : 0 < close.toNat ∧ close.toNat < 0x80)
    (level : Nat) {elements : List Units} (h : ∀ element ∈ elements, holds element) :
    holds (printTail style close level elements) := by
  induction elements with
  | nil => exact hholds.ascii (.append (isAscii_space (style.gap_space level)) (.cons hclose isAscii_nil))
  | cons element elements ih =>
    rw [List.forall_mem_cons] at h
    exact hholds.cons (by decide) (hholds.append
      (hholds.ascii (isAscii_space (style.gap_space (level + 1)))) (hholds.append h.1 (ih h.2)))

variable [FloatText]

theorem Composed.printEntry {level : Nat} {entry : Units × Json}
    (hkey : holds (printString style entry.1)) (h : holds (print style level entry.2)) :
    holds (printEntry style level entry) :=
  hholds.cons (by decide) (hholds.append hkey (hholds.cons (by decide)
    (hholds.append (hholds.ascii (isAscii_space style.colon_space)) h)))

theorem Composed.print {good : Units → Prop} (hgood : ∀ s, good s → holds (printString style s))
    {value : Json} (hw : value.WellFormed) (hs : value.Strings good) (level : Nat) :
    holds (print style level value) := by
  induction value using Json.induction generalizing level with
  | null => exact hholds.ascii (@isAscii_word ("null", .null) (by simp [words]))
  | bool b =>
    cases b with
    | true => exact hholds.ascii (@isAscii_word ("true", .bool true) (by simp [words]))
    | false => exact hholds.ascii (@isAscii_word ("false", .bool false) (by simp [words]))
  | int n =>
    show holds (printInt n)
    unfold printInt
    split
    · exact hholds.ascii (.cons (by decide) (isAscii_printNat n.natAbs))
    · exact hholds.ascii (isAscii_printNat n.natAbs)
  | float f =>
    refine hholds.ascii ?_
    cases f with
    | finite q =>
      cases hw with
      | float _ hq => exact FloatText.ascii_repr (hq q rfl)
    | negativeZero =>
      show IsAscii (units "-0.0")
      decide +kernel
    | infinity negative =>
      cases negative with
      | true => exact @isAscii_word ("-Infinity", .float (.infinity true)) (by simp [words])
      | false => exact @isAscii_word ("Infinity", .float (.infinity false)) (by simp [words])
    | nan => exact @isAscii_word ("NaN", .float .nan) (by simp [words])
  | str s =>
    cases hs with
    | str _ hs => exact hholds.cons (by decide) (hgood s hs)
  | arr items ih =>
    cases hw with
    | arr _ hitems =>
      cases hs with
      | arr _ hs =>
        cases items with
        | nil =>
          have hempty : IsAscii (units "[]") := by decide +kernel
          exact hholds.ascii hempty
        | cons item items =>
          have hall : ∀ text ∈ (item :: items).map (JsonText.print style (level + 1)),
              holds text := by
            intro text htext
            obtain ⟨a, ha, rfl⟩ := List.mem_map.mp htext
            exact ih a ha (hitems a ha) (hs a ha) (level + 1)
          rw [List.map_cons, List.forall_mem_cons] at hall
          rw [JsonText.print, printItems_eq]
          exact hholds.cons (by decide) (hholds.append
            (hholds.ascii (isAscii_space (style.gap_space (level + 1))))
            (hholds.append hall.1 (hholds.printTail (by decide) level hall.2)))
  | obj entries ih =>
    cases hw with
    | obj _ hkeys hentries =>
      cases hs with
      | obj _ hkeysGood hs =>
        cases entries with
        | nil =>
          have hempty : IsAscii (units "\x7b\x7d") := by decide +kernel
          exact hholds.ascii hempty
        | cons entry entries =>
          have hall : ∀ text ∈ (entry :: entries).map (JsonText.printEntry style (level + 1)),
              holds text := by
            intro text htext
            obtain ⟨a, ha, rfl⟩ := List.mem_map.mp htext
            exact hholds.printEntry (hgood a.1 (hkeysGood a ha))
              (ih a ha (hentries a ha) (hs a ha) (level + 1))
          rw [List.map_cons, List.forall_mem_cons] at hall
          rw [print_obj_cons]
          exact hholds.cons (by decide) (hholds.append
            (hholds.ascii (isAscii_space (style.gap_space (level + 1))))
            (hholds.append hall.1 (hholds.printTail (by decide) level hall.2)))

end Composed

/-- What is written with `ensure_ascii` is ASCII. -/
theorem isAscii_print [FloatText] {style : Style} (hascii : style.ascii = true) {value : Json}
    (hw : value.WellFormed) (level : Nat) : IsAscii (print style level value) :=
  Composed.print ⟨.append, id⟩ (fun s _ => isAscii_printString hascii s) hw (.of_all fun _ => trivial)
    level

end JsonText

open JsonText

theorem decodeUtf8_ascii {text : Units} (h : ∀ u ∈ text, u.toNat < 0x80) :
    decodeUtf8 (text.map UInt16.toUInt8) = some text := by
  induction text with
  | nil => rfl
  | cons u text ih =>
    have hu : u.toNat < 0x80 := h u List.mem_cons_self
    have hsmall : u.toUInt8.toNat = u.toNat := by
      rw [UInt16.toNat_toUInt8]
      omega
    have hback : u.toUInt8.toUInt16 = u := by
      apply UInt16.toNat_inj.mp
      rw [UInt8.toNat_toUInt16, hsmall]
    rw [List.map_cons, decodeUtf8.eq_def]
    show (if u.toUInt8.toNat < 0x80 then
      (decodeUtf8 (text.map UInt16.toUInt8)).map (u.toUInt8.toUInt16 :: ·) else _) = _
    rw [if_pos (by omega), ih fun v hv => h v (List.mem_cons_of_mem u hv), Option.map_some, hback]

/-- ASCII text without a null character is taken for UTF-8. -/
theorem detectEncoding_ascii {data : Bytes} (h : ∀ byte ∈ data, byte ≠ 0 ∧ byte.toNat < 0x80) :
    detectEncoding data = (.utf8, 0) := by
  have hmark : ∀ {mark : Bytes} (byte : UInt8), byte ∈ mark → ¬byte.toNat < 0x80 →
      ¬mark <+: data :=
    fun byte hbyte hlarge hmark => hlarge (h byte (hmark.mem hbyte)).2
  unfold detectEncoding
  rw [if_neg (hmark 0xfe (by simp) (by decide)), if_neg (hmark 0xfe (by simp) (by decide)),
    if_neg (hmark 0xfe (by simp) (by decide)), if_neg (hmark 0xfe (by simp) (by decide)),
    if_neg (hmark 0xef (by simp) (by decide))]
  split
  · rw [List.forall_mem_cons, List.forall_mem_singleton] at h
    rw [if_neg h.1.1, if_neg h.2.1]
  · rw [List.forall_mem_cons, List.forall_mem_cons] at h
    rw [if_neg h.1.1, if_neg h.2.1.1]
  · rfl

theorem loadsBytes_ascii [JsonLimits] [FloatText] {text : Units} (h : IsAscii text) :
    loadsBytes (text.map UInt16.toUInt8) = some (loads text) := by
  have hdetect : detectEncoding (text.map UInt16.toUInt8) = (.utf8, 0) := by
    apply detectEncoding_ascii
    intro byte hbyte
    obtain ⟨u, hu, rfl⟩ := List.mem_map.mp hbyte
    have hbound := h u hu
    have hsmall : u.toUInt8.toNat = u.toNat := by
      rw [UInt16.toNat_toUInt8]
      omega
    refine ⟨?_, by omega⟩
    intro hzero
    rw [hzero] at hsmall
    have : (0 : UInt8).toNat = 0 := rfl
    omega
  rw [loadsBytes, hdetect]
  show (decodeUtf8 (text.map UInt16.toUInt8)).map loads = some (loads text)
  rw [decodeUtf8_ascii fun u hu => (h u hu).2, Option.map_some]

theorem charsOf_ascii {text : Units} (h : IsAscii text) :
    charsOf text = some (text.map fun u => Char.ofNat u.toNat) := by
  induction text with
  | nil => rfl
  | cons u text ih =>
    have hu := h u List.mem_cons_self
    have hhigh : isHigh u = false := by
      simp only [isHigh, Bool.and_eq_false_iff, decide_eq_false_iff_not]
      omega
    have hlow : isLow u = false := by
      simp only [isLow, Bool.and_eq_false_iff, decide_eq_false_iff_not]
      omega
    have htext := ih fun v hv => h v (List.mem_cons_of_mem u hv)
    cases text with
    | nil => simp [charsOf, hhigh, hlow]
    | cons v text => simp [charsOf, hhigh, hlow, htext]

theorem encodeUtf8_ascii {text : Units} (h : IsAscii text) :
    encodeUtf8 text = some (text.map UInt16.toUInt8) := by
  have hchar : ∀ u ∈ text, String.utf8EncodeChar (Char.ofNat u.toNat) = [u.toUInt8] := by
    intro u hu
    have hall : ∀ n : Fin 0x80, String.utf8EncodeChar (Char.ofNat n) = [n.val.toUInt8] := by
      decide +kernel
    rw [hall ⟨u.toNat, (h u hu).2⟩]
    rfl
  have hbytes : ((text.map fun u => Char.ofNat u.toNat).flatMap String.utf8EncodeChar) =
      text.map UInt16.toUInt8 := by
    rw [List.flatMap_map, List.flatMap_congr hchar, ← List.map_eq_flatMap]
  rw [encodeUtf8, charsOf_ascii h, Option.map_some, String.toUTF8_eq_toByteArray,
    String.toByteArray_ofList, List.utf8Encode, hbytes, List.data_toByteArray]

variable [JsonLimits] [FloatText]

theorem isAscii_dumps {style : Style} (hascii : style.ascii = true) {value : Json}
    (hw : value.WellFormed) {text : Units} (h : dumps style value = .ok text) : IsAscii text := by
  obtain ⟨-, rfl⟩ := dumps_eq_ok.mp h
  exact isAscii_print hascii hw.sorted 0

/-- Reading undoes writing in bytes. -/
theorem loadsBytes_dumps {style : Style} (hascii : style.ascii = true) {value : Json}
    (hw : value.WellFormed) {text : Units} (h : dumps style value = .ok text) :
    ∃ data, encodeUtf8 text = some data ∧ loadsBytes data = some (.ok value.sorted) := by
  have htext := isAscii_dumps hascii hw h
  exact ⟨_, encodeUtf8_ascii htext, by rw [loadsBytes_ascii htext, loads_dumps hw h]⟩

end Py
