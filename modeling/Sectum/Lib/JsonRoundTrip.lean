import Mathlib.Data.Rat.Floor
import Sectum.Lib.JsonText

/-! A document that was written is read back as it was sorted, whatever the layout of its text. -/

namespace Py

open JsonText

/-- A document that Python can hold: the keys of a dictionary are distinct, and what is taken for a
float is one. -/
inductive Json.WellFormed [FloatText] : Json → Prop
  | null : WellFormed .null
  | bool (b : Bool) : WellFormed (.bool b)
  | int (n : Int) : WellFormed (.int n)
  | float (f : PyFloat) (h : ∀ q, f = .finite q → FloatText.isFloat q) : WellFormed (.float f)
  | str (s : Units) : WellFormed (.str s)
  | arr (items : List Json) (h : ∀ item ∈ items, WellFormed item) : WellFormed (.arr items)
  | obj (entries : List (Units × Json)) (hkeys : (entries.map Prod.fst).Nodup)
    (h : ∀ entry ∈ entries, WellFormed entry.2) : WellFormed (.obj entries)

namespace JsonText

section Strings

theorem hexValue_hexUnit {n : Nat} (h : n < 16) : hexValue (hexUnit n) = some n := by
  have hall : ∀ n : Fin 16, hexValue (hexUnit n) = some n.val := by decide +kernel
  exact hall ⟨n, h⟩

theorem escapes_read : ∀ escape ∈ escapes, escape.1 ≠ unit 'u' ∧
    ((unit '/', unit '/') :: escapes).find? (fun other => other.1 = escape.1) = some escape :=
  List.forall_iff_forall_mem.mp (by decide +kernel)

/-- A unit is read as it was written, whatever follows. -/
theorem parseString_printUnit (style : Style) (u : UInt16) (text : Units) :
    parseString (printUnit style u ++ text) =
      (parseString text).map fun (s, rest) => (u :: s, rest) := by
  have hquote : unit '\\' ≠ unit '"' := by decide
  unfold printUnit
  split
  · rename_i escape hfind
    obtain ⟨hu, hread⟩ := escapes_read escape (List.mem_of_find?_eq_some hfind)
    have heq : escape.2 = u := by simpa using List.find?_some hfind
    rw [List.cons_append, parseString.eq_def]
    simp only [List.cons_append, List.nil_append, if_neg hquote, if_true, if_neg hu, hread, heq]
  · rename_i hfind
    have hne : ∀ escape ∈ escapes, escape.2 ≠ u := by
      simpa using List.find?_eq_none.mp hfind
    have hu : u.toNat < 65536 := u.toNat_lt
    split
    · have hcode : (u.toNat / 4096 * 4096 + u.toNat / 256 % 16 * 256 + u.toNat / 16 % 16 * 16 +
          u.toNat % 16).toUInt16 = u := by
        apply UInt16.toNat_inj.mp
        rw [Nat.toUInt16, UInt16.toNat_ofNat']
        omega
      rw [List.cons_append, parseString.eq_def]
      simp only [List.cons_append, List.nil_append, if_neg hquote, if_true,
        hexValue_hexUnit (show u.toNat / 4096 < 16 by omega),
        hexValue_hexUnit (show u.toNat / 256 % 16 < 16 by omega),
        hexValue_hexUnit (show u.toNat / 16 % 16 < 16 by omega),
        hexValue_hexUnit (show u.toNat % 16 < 16 by omega), hcode]
    · rename_i hshown
      have hquoted : u ≠ unit '"' := (hne (unit '"', unit '"') (by decide)).symm
      have hslash : u ≠ unit '\\' := (hne (unit '\\', unit '\\') (by decide)).symm
      rw [List.cons_append, List.nil_append, parseString.eq_def]
      simp only [if_neg hquoted, if_neg hslash, if_neg (not_or.mp hshown).1]

theorem parseString_print (style : Style) (s rest : Units) :
    parseString (printString style s ++ rest) = some (s, rest) := by
  unfold printString
  induction s with
  | nil =>
    show parseString (unit '"' :: rest) = some ([], rest)
    rw [parseString.eq_def]
    simp
  | cons u s ih =>
    rw [List.flatMap_cons, List.append_assoc, List.append_assoc, parseString_printUnit,
      ← List.append_assoc, ih, Option.map_some]

end Strings

section Numbers

theorem isDigit_digitUnit {n : Nat} (h : n < 10) : isDigit (digitUnit n) = true := by
  have hall : ∀ n : Fin 10, isDigit (digitUnit n) = true := by decide +kernel
  exact hall ⟨n, h⟩

theorem digitValue_digitUnit {n : Nat} (h : n < 10) : digitValue (digitUnit n) = n := by
  have hall : ∀ n : Fin 10, digitValue (digitUnit n) = n.val := by decide +kernel
  exact hall ⟨n, h⟩

theorem printNat_digits (n : Nat) : ∀ u ∈ printNat n, isDigit u = true := by
  unfold printNat
  split
  · simp [isDigit, unit]
  · intro u hu
    obtain ⟨digit, hdigit, rfl⟩ := List.mem_map.mp hu
    exact isDigit_digitUnit (Nat.digits_lt_base (by decide) (List.mem_reverse.mp hdigit))

theorem ofDigits_printNat (n : Nat) :
    Nat.ofDigits 10 ((printNat n).reverse.map digitValue) = n := by
  unfold printNat
  split
  · rename_i h
    rw [h]
    rfl
  · rw [← List.map_reverse, List.reverse_reverse, List.map_map]
    have hback : (Nat.digits 10 n).map (digitValue ∘ digitUnit) = (Nat.digits 10 n).map id :=
      List.map_congr_left fun digit hdigit =>
        digitValue_digitUnit (Nat.digits_lt_base (by decide) hdigit)
    rw [hback, List.map_id, Nat.ofDigits_digits]

/-- Only the text of zero starts with a zero. -/
theorem printNat_cons (n : Nat) :
    ∃ u digits, printNat n = u :: digits ∧ (u = unit '0' → digits = []) := by
  unfold printNat
  split
  · exact ⟨unit '0', [], rfl, fun _ => rfl⟩
  · rename_i h
    have hne := Nat.digits_ne_nil_iff_ne_zero (b := 10).mpr h
    obtain ⟨digits, last, hlast⟩ := (List.eq_nil_or_concat' (Nat.digits 10 n)).resolve_left hne
    have hnonzero : last ≠ 0 := by
      have hlead := Nat.getLast_digit_ne_zero 10 h
      simpa [hlast] using hlead
    have hlt : last < 10 := Nat.digits_lt_base (by decide) (hlast ▸ List.mem_append_right digits
      (List.mem_singleton_self last))
    refine ⟨digitUnit last, digits.reverse.map digitUnit, by rw [hlast]; simp, fun hzero => ?_⟩
    have hvalue := digitValue_digitUnit hlt
    rw [hzero] at hvalue
    exact absurd hvalue.symm hnonzero

variable {rest : Units} (h : Delimited rest)
include h

theorem takeWhile_delimited : rest.takeWhile isDigit = [] := by
  cases rest with
  | nil => rfl
  | cons u rest => rw [List.takeWhile_cons, (h u rfl).1]; rfl

theorem dropWhile_delimited : rest.dropWhile isDigit = rest := by
  cases rest with
  | nil => rfl
  | cons u rest => rw [List.dropWhile_cons, (h u rfl).1]; rfl

theorem scanFraction_delimited : scanFraction rest = ([], rest) := by
  match rest, h with
  | [], _ => rfl
  | [u], _ => rfl
  | u :: v :: rest, h =>
    have hpoint : ¬(u = unit '.' ∧ isDigit v = true) := fun hu => (h u rfl).2.1 hu.1
    rw [scanFraction, if_neg hpoint]

theorem scanExponent_delimited : scanExponent rest = ([], rest) := by
  match rest, h with
  | [], _ => rfl
  | u :: rest, h =>
    have hletter : ¬((u = unit 'e' ∨ u = unit 'E') ∧ (scanSign rest).2.takeWhile isDigit ≠ []) := by
      rintro ⟨hu | hu, -⟩
      · exact (h u rfl).2.2.1 hu
      · exact (h u rfl).2.2.2 hu
    exact if_neg hletter

omit h in
/-- The digits of a number are scanned to their end, whatever follows that is no digit. -/
theorem scanWhole_digits (hrest : ∀ u ∈ rest.head?, isDigit u = false) (n : Nat) :
    scanWhole (printNat n ++ rest) = some (printNat n, rest) := by
  have hdigits := printNat_digits n
  obtain ⟨u, digits, hprint, hzero⟩ := printNat_cons n
  have htake : rest.takeWhile isDigit = [] ∧ rest.dropWhile isDigit = rest := by
    cases rest with
    | nil => exact ⟨rfl, rfl⟩
    | cons v rest =>
      rw [List.takeWhile_cons, List.dropWhile_cons, hrest v rfl]
      exact ⟨rfl, rfl⟩
  rw [hprint] at hdigits ⊢
  rw [List.forall_mem_cons] at hdigits
  rw [List.cons_append, scanWhole]
  split
  · rename_i hu
    rw [hzero hu]
    rfl
  · rw [if_pos hdigits.1, List.takeWhile_append_of_pos hdigits.2,
      List.dropWhile_append_of_pos hdigits.2, htake.1, htake.2, List.append_nil]

theorem scanWhole_printNat (n : Nat) : scanWhole (printNat n ++ rest) = some (printNat n, rest) :=
  scanWhole_digits (fun u hu => (h u hu).1) n

theorem scanNumber_eq {text body sign whole : Units} (suffix : Units)
    (hminus : scanMinus text = (sign, body)) (hwhole : scanWhole body = some (whole, suffix ++ rest))
    (hfraction : scanFraction (suffix ++ rest) = (suffix, rest)) :
    scanNumber text = some (sign ++ whole, suffix, rest) := by
  rw [scanNumber, hminus, hwhole]
  simp only [hfraction, scanExponent_delimited h, List.append_nil]

omit h in
theorem scanMinus_printNat (n : Nat) : scanMinus (printNat n ++ rest) = ([], printNat n ++ rest) := by
  obtain ⟨u, digits, hprint, -⟩ := printNat_cons n
  have hu : isDigit u = true := printNat_digits n u (hprint ▸ List.mem_cons_self)
  rw [scanMinus, if_neg]
  intro hminus
  rw [hprint, List.cons_append, List.head?_cons, Option.some.injEq] at hminus
  rw [hminus] at hu
  cases hu

theorem scanNumber_printInt (n : Int) :
    scanNumber (printInt n ++ rest) = some (printInt n, [], rest) := by
  unfold printInt
  split
  · exact scanNumber_eq h [] rfl (scanWhole_printNat h n.natAbs)
      (scanFraction_delimited h)
  · exact scanNumber_eq h [] (scanMinus_printNat n.natAbs)
      (scanWhole_printNat h n.natAbs) (scanFraction_delimited h)

omit h in
theorem parseWhole_printInt (n : Int) : parseWhole (printInt n) = n := by
  unfold printInt parseWhole
  split
  · show -((Nat.ofDigits 10 ((printNat n.natAbs).reverse.map digitValue) : Nat) : Int) = n
    rw [ofDigits_printNat]
    omega
  · have hminus := @scanMinus_printNat [] n.natAbs
    rw [List.append_nil] at hminus
    rw [hminus]
    show ((Nat.ofDigits 10 ((printNat n.natAbs).reverse.map digitValue) : Nat) : Int) = n
    rw [ofDigits_printNat]
    omega

theorem scanNumber_negativeZero :
    scanNumber (units "-0.0" ++ rest) = some (units "-0", units ".0", rest) := by
  refine @scanNumber_eq rest h _ _ [unit '-'] [unit '0'] (units ".0") rfl rfl ?_
  show scanFraction (unit '.' :: unit '0' :: rest) = _
  rw [scanFraction, if_pos (by decide), takeWhile_delimited h, dropWhile_delimited h]
  rfl

end Numbers

section Words

theorem skipWord_none (start : Units) {word : String} {tail : Units} {first u : UInt16}
    (hword : units word = start ++ first :: tail) (hne : first ≠ u) (rest : Units) :
    skipWord word (start ++ u :: rest) = none := by
  rw [skipWord, hword, if_neg]
  intro hprefix
  have hrest := (List.prefix_append_right_inj start).mp (List.isPrefixOf_iff_prefix.mp hprefix)
  exact hne (List.cons_prefix_cons.mp hrest).1

/-- How a number starts: with a digit, or with a minus sign and a digit. -/
def StartsNumber (text : Units) : Prop :=
  ∃ u rest, isDigit u = true ∧ (text = u :: rest ∨ text = unit '-' :: u :: rest)

theorem parseWord_number {text : Units} (h : StartsNumber text) : parseWord text = none := by
  rw [parseWord, List.findSome?_eq_none_iff]
  obtain ⟨u, rest, hu, rfl | rfl⟩ := h
  · intro word hword
    simp only [words, List.mem_cons, List.not_mem_nil, or_false] at hword
    rw [Option.map_eq_none_iff]
    rcases hword with rfl | rfl | rfl | rfl | rfl | rfl <;>
      exact skipWord_none [] rfl (by rintro rfl; cases hu) rest
  · intro word hword
    simp only [words, List.mem_cons, List.not_mem_nil, or_false] at hword
    rw [Option.map_eq_none_iff]
    rcases hword with rfl | rfl | rfl | rfl | rfl | rfl
    iterate 5 exact skipWord_none [] rfl (by decide) (u :: rest)
    exact skipWord_none [unit '-'] rfl (by rintro rfl; cases hu) rest

theorem startsNumber_printInt (n : Int) (rest : Units) : StartsNumber (printInt n ++ rest) := by
  obtain ⟨u, digits, hprint, -⟩ := printNat_cons n.natAbs
  have hu : isDigit u = true := printNat_digits n.natAbs u (hprint ▸ List.mem_cons_self)
  unfold printInt
  split
  · exact ⟨u, digits ++ rest, hu, Or.inr (by rw [hprint]; rfl)⟩
  · exact ⟨u, digits ++ rest, hu, Or.inl (by rw [hprint]; rfl)⟩

/-- What is read as a number starts like one. -/
theorem startsNumber_of_scanNumber {text : Units} {number : Units × Units × Units}
    (h : scanNumber text = some number) : StartsNumber text := by
  have hdigit : ∃ u rest, isDigit u = true ∧ (scanMinus text).2 = u :: rest := by
    unfold scanNumber at h
    rcases hbody : (scanMinus text).2 with _ | ⟨u, rest⟩
    · rw [hbody] at h
      cases h
    · refine ⟨u, rest, ?_, rfl⟩
      by_contra hu
      have hzero : u ≠ unit '0' := by
        rintro rfl
        exact hu (by decide)
      rw [hbody, scanWhole, if_neg hzero, if_neg hu] at h
      cases h
  obtain ⟨u, rest, hu, hbody⟩ := hdigit
  refine ⟨u, rest, hu, ?_⟩
  unfold scanMinus at hbody
  split at hbody
  · rename_i hminus
    obtain ⟨tail, rfl⟩ := List.head?_eq_some_iff.mp hminus
    exact Or.inr (congrArg _ hbody)
  · exact Or.inl hbody

end Words

section Values

variable [JsonLimits] [FloatText]

theorem parseValue_string (depth : Nat) {text s rest : Units}
    (h : parseString text = some (s, rest)) :
    parseValue depth (unit '"' :: text) = .ok (.str s, rest) := by
  rw [parseValue.eq_def]
  simp [h]

theorem parseValue_word (depth : Nat) {word : String × Json} (hword : word ∈ words) (rest : Units) :
    parseValue depth (units word.1 ++ rest) = .ok (word.2, rest) := by
  simp only [words, List.mem_cons, List.not_mem_nil, or_false] at hword
  rcases hword with rfl | rfl | rfl | rfl | rfl | rfl <;>
    (rw [parseValue.eq_def]; rfl)

theorem parseValue_number (depth : Nat) {text : Units} (h : StartsNumber text) :
    parseValue depth text = parseNumber text := by
  have hword := parseWord_number h
  obtain ⟨u, rest, hu, rfl | rfl⟩ := h
  · have hquote : u ≠ unit '"' := by rintro rfl; cases hu
    have hbrace : u ≠ unit '{' := by rintro rfl; cases hu
    have hbracket : u ≠ unit '[' := by rintro rfl; cases hu
    rw [parseValue.eq_def]
    simp only [if_neg hquote, if_neg hbrace, if_neg hbracket, hword]
  · rw [parseValue.eq_def]
    simp only [hword]
    rfl

theorem parseValue_int (depth : Nat) {n : Int}
    (hdigits : ¬JsonLimits.digits < (printNat n.natAbs).length) {rest : Units} (h : Delimited rest) :
    parseValue depth (printInt n ++ rest) = .ok (.int n, rest) := by
  have hcount : (printInt n).filter isDigit = printNat n.natAbs := by
    have hall : (printNat n.natAbs).filter isDigit = printNat n.natAbs :=
      List.filter_eq_self.mpr (printNat_digits n.natAbs)
    unfold printInt
    split
    · rw [List.filter_cons_of_neg (by decide), hall]
    · exact hall
  rw [parseValue_number depth (startsNumber_printInt n rest), parseNumber, scanNumber_printInt h]
  simp only [hcount, if_neg hdigits, parseWhole_printInt]

theorem parseValue_float (depth : Nat) {q : ℚ} (hq : FloatText.isFloat q) {rest : Units}
    (h : Delimited rest) :
    parseValue depth (FloatText.repr q ++ rest) = .ok (.float (.finite q), rest) := by
  obtain ⟨whole, suffix, hsuffix, hrepr, hscan⟩ := FloatText.scan_repr hq h
  obtain ⟨u, suffix, rfl⟩ := List.exists_cons_of_ne_nil hsuffix
  rw [parseValue_number depth (startsNumber_of_scanNumber hscan), parseNumber, hscan]
  simp only [← hrepr, FloatText.parse_repr hq]

theorem parseValue_negativeZero (depth : Nat) {rest : Units} (h : Delimited rest) :
    parseValue depth (units "-0.0" ++ rest) = .ok (.float .negativeZero, rest) := by
  have hscan := scanNumber_negativeZero h
  rw [parseValue_number depth (startsNumber_of_scanNumber hscan), parseNumber, hscan]
  show Except.ok (Json.float (FloatText.parse (units "-0.0")), rest) = _
  rw [FloatText.parse_negativeZero]

theorem parseValue_array (depth : Nat) (text : Units) :
    parseValue (depth + 1) (unit '[' :: text) = parseArray (parseValue depth) text := by
  rw [parseValue.eq_def]
  rfl

theorem parseValue_object (depth : Nat) (text : Units) :
    parseValue (depth + 1) (unit '{' :: text) = parseObject (parseValue depth) text := by
  rw [parseValue.eq_def]
  rfl

end Values

section Containers

/-- A text that starts with neither white space nor a closing bracket. -/
def Opens (text : Units) : Prop :=
  ∃ u rest, text = u :: rest ∧ isSpace u = false ∧ u ≠ unit ']' ∧ u ≠ unit '}'

theorem skipSpace_cons {u : UInt16} (hu : isSpace u = false) (rest : Units) :
    skipSpace (u :: rest) = u :: rest := by
  rw [skipSpace, List.dropWhile_cons, hu]
  rfl

theorem skipSpace_gap {gap : Units} (hgap : ∀ u ∈ gap, isSpace u = true) (text : Units) :
    skipSpace (gap ++ text) = skipSpace text := by
  unfold skipSpace
  exact List.dropWhile_append_of_pos hgap

/-- What follows the first element of a container: the others and the closing bracket. -/
def printTail (style : Style) (close : UInt16) (level : Nat) : List Units → Units
  | [] => style.gap level ++ [close]
  | element :: elements =>
    unit ',' :: (style.gap (level + 1) ++ (element ++ printTail style close level elements))

theorem length_lt_printTail (style : Style) (close : UInt16) (level : Nat) (elements : List Units) :
    elements.length < (printTail style close level elements).length := by
  induction elements with
  | nil => simp [printTail]
  | cons element elements ih =>
    simp only [printTail, List.length_cons, List.length_append]
    omega

variable (style : Style) {close : UInt16} (hclose : close = unit ']' ∨ close = unit '}')
include hclose

theorem delimited_printTail (level : Nat) (elements : List Units) (rest : Units) :
    Delimited (printTail style close level elements ++ rest) := by
  have hdelimiter : ∀ u, u = unit ',' ∨ u = unit ']' ∨ u = unit '}' →
      isDigit u = false ∧ u ≠ unit '.' ∧ u ≠ unit 'e' ∧ u ≠ unit 'E' := by
    rintro u (rfl | rfl | rfl) <;> decide
  have hspace : ∀ u, isSpace u = true →
      isDigit u = false ∧ u ≠ unit '.' ∧ u ≠ unit 'e' ∧ u ≠ unit 'E' := by
    intro u hu
    simp only [isSpace, Bool.or_eq_true, decide_eq_true_eq] at hu
    rcases hu with ((rfl | rfl) | rfl) | rfl <;> decide
  cases elements with
  | cons element elements =>
    rintro u hu
    exact hdelimiter u (Or.inl (Option.some.inj hu).symm)
  | nil =>
    rintro u hu
    rw [printTail] at hu
    have hgap := style.gap_space level
    cases hcase : style.gap level with
    | nil =>
      rw [hcase] at hu
      exact hdelimiter u (Or.inr ((Option.some.inj hu) ▸ hclose))
    | cons v gap =>
      rw [hcase] at hu hgap
      exact hspace u ((Option.some.inj hu) ▸ hgap v List.mem_cons_self)

theorem parseSeparated_print {α : Type} {element : Units → Parsed α} {text : α → Units}
    (level : Nat) {first : α} {elements : List α}
    (helement : ∀ a ∈ first :: elements, ∀ rest, Delimited rest →
      element (text a ++ rest) = .ok (a, rest))
    (hopens : ∀ a ∈ elements, Opens (text a)) {fuel : Nat} (hfuel : elements.length < fuel)
    (rest : Units) :
    parseSeparated element close fuel
      (text first ++ (printTail style close level (elements.map text) ++ rest)) =
        .ok (first :: elements, rest) := by
  have hcomma : unit ',' ≠ close := by
    rcases hclose with rfl | rfl <;> decide
  induction elements generalizing first fuel with
  | nil =>
    obtain ⟨fuel, rfl⟩ := Nat.exists_eq_add_of_lt hfuel
    have hspace : isSpace close = false := by
      rcases hclose with rfl | rfl <;> rfl
    rw [parseSeparated, helement first List.mem_cons_self _ (delimited_printTail style hclose level _ rest)]
    simp only [List.map_nil, printTail, List.append_assoc, skipSpace_gap (style.gap_space level),
      List.cons_append, List.nil_append, skipSpace_cons hspace, if_true]
  | cons second elements ih =>
    obtain ⟨fuel, rfl⟩ := Nat.exists_eq_succ_of_ne_zero (Nat.ne_of_gt (Nat.zero_lt_of_lt hfuel))
    obtain ⟨u, tail, htext, hspace, -, -⟩ := hopens second List.mem_cons_self
    have hskip : skipSpace (style.gap (level + 1) ++ (text second ++
        (printTail style close level (elements.map text) ++ rest))) =
          text second ++ (printTail style close level (elements.map text) ++ rest) := by
      rw [skipSpace_gap (style.gap_space (level + 1)), htext, List.cons_append,
        skipSpace_cons hspace]
    have hrest := @ih second (fun a ha => helement a (List.mem_cons_of_mem first ha))
      (fun a ha => hopens a (List.mem_cons_of_mem second ha)) fuel (Nat.lt_of_succ_lt_succ hfuel)
    rw [parseSeparated, helement first List.mem_cons_self _ (delimited_printTail style hclose level _ rest)]
    simp only [List.map_cons, printTail, List.cons_append, List.append_assoc,
      skipSpace_cons (show isSpace (unit ',') = false from rfl), if_neg hcomma, if_true, hskip, hrest]
    rfl

/-- The elements of a container are read behind its opening bracket. -/
theorem parseElements_print {α : Type} {element : Units → Parsed α} {text : α → Units}
    (level : Nat) {first : α} {elements : List α}
    (helement : ∀ a ∈ first :: elements, ∀ rest, Delimited rest →
      element (text a ++ rest) = .ok (a, rest))
    (hopens : ∀ a ∈ first :: elements, Opens (text a)) (rest : Units) :
    parseElements element close (style.gap (level + 1) ++ (text first ++
      (printTail style close level (elements.map text) ++ rest))) =
        .ok (first :: elements, rest) := by
  obtain ⟨u, tail, htext, hspace, hbracket, hbrace⟩ := hopens first List.mem_cons_self
  have hne : u ≠ close := by
    rcases hclose with rfl | rfl
    · exact hbracket
    · exact hbrace
  have hfuel : elements.length < (style.gap (level + 1) ++ (text first ++
      (printTail style close level (elements.map text) ++ rest))).length := by
    have hlength := length_lt_printTail style close level (elements.map text)
    rw [List.length_map] at hlength
    simp only [List.length_append]
    omega
  have hparse := parseSeparated_print style hclose level helement
    (fun a ha => hopens a (List.mem_cons_of_mem first ha)) hfuel rest
  rw [htext, List.cons_append] at hparse ⊢
  rw [parseElements, skipSpace_gap (style.gap_space (level + 1)), skipSpace_cons hspace]
  simp only [if_neg hne]
  exact hparse

end Containers

theorem opens_of_startsNumber {text : Units} (h : StartsNumber text) : Opens text := by
  obtain ⟨u, rest, hu, rfl | rfl⟩ := h
  · refine ⟨u, rest, rfl, ?_, ?_, ?_⟩
    · simp only [isSpace, Bool.or_eq_false_iff, decide_eq_false_iff_not]
      refine ⟨⟨⟨?_, ?_⟩, ?_⟩, ?_⟩ <;> (rintro rfl; cases hu)
    · rintro rfl
      cases hu
    · rintro rfl
      cases hu
  · exact ⟨unit '-', u :: rest, rfl, rfl, by decide, by decide⟩

section Refusals

variable [JsonLimits] (style : Style)

theorem refusalItems_eq_none {depth : Nat} {items : List Json} :
    refusalItems style depth items = none ↔ ∀ item ∈ items, refusal style depth item = none := by
  induction items with
  | nil => simp [refusalItems]
  | cons item items ih => simp [refusalItems, ih]

theorem refusalEntries_eq_none {depth : Nat} {entries : List (Units × Json)} :
    refusalEntries style depth entries = none ↔
      ∀ entry ∈ entries, refusal style depth entry.2 = none := by
  induction entries with
  | nil => simp [refusalEntries]
  | cons entry entries ih =>
    obtain ⟨key, value⟩ := entry
    simp only [refusalEntries, Option.or_eq_none_iff, ih, List.forall_mem_cons]

/-- What is written of an array has room for one more level, and all its items are written. -/
theorem refusal_arr {depth : Nat} {items : List Json} (h : refusal style depth (.arr items) = none) :
    ∃ room, depth = room + 1 ∧ ∀ item ∈ items, refusal style room item = none := by
  cases depth with
  | zero => cases h
  | succ room => exact ⟨room, rfl, (refusalItems_eq_none style).mp h⟩

theorem refusal_obj {depth : Nat} {entries : List (Units × Json)}
    (h : refusal style depth (.obj entries) = none) :
    ∃ room, depth = room + 1 ∧ ∀ entry ∈ entries, refusal style room entry.2 = none := by
  cases depth with
  | zero => cases h
  | succ room => exact ⟨room, rfl, (refusalEntries_eq_none style).mp h⟩

end Refusals

section Documents

variable [FloatText] (style : Style)

def printEntry (level : Nat) (entry : Units × Json) : Units :=
  unit '"' :: (printString style entry.1 ++
    (unit ':' :: (style.colon ++ print style level entry.2)))

theorem printItems_eq (level : Nat) (items : List Json) : printItems style level items =
    printTail style (unit ']') level (items.map (print style (level + 1))) := by
  induction items with
  | nil => rfl
  | cons item items ih => rw [printItems, ih, List.map_cons, printTail]

theorem printEntries_eq (level : Nat) (entries : List (Units × Json)) : printEntries style level entries =
    printTail style (unit '}') level (entries.map (printEntry style (level + 1))) := by
  induction entries with
  | nil => rfl
  | cons entry entries ih =>
    obtain ⟨key, value⟩ := entry
    rw [printEntries, ih, List.map_cons, printTail, printEntry]
    simp

/-- No document starts with white space or a closing bracket. -/
theorem opens_print {value : Json} (hw : value.WellFormed) (level : Nat) :
    Opens (print style level value) := by
  have hword : ∀ word ∈ words, Opens (units word.1) := by
    intro word hword
    simp only [words, List.mem_cons, List.not_mem_nil, or_false] at hword
    rcases hword with rfl | rfl | rfl | rfl | rfl | rfl <;>
      exact ⟨_, _, rfl, rfl, by decide, by decide⟩
  cases hw with
  | null => exact hword ("null", .null) (by simp [words])
  | bool b =>
    cases b with
    | true => exact hword ("true", .bool true) (by simp [words])
    | false => exact hword ("false", .bool false) (by simp [words])
  | int n =>
    have hstarts := startsNumber_printInt n []
    rw [List.append_nil] at hstarts
    exact opens_of_startsNumber hstarts
  | float f h =>
    cases f with
    | finite q =>
      obtain ⟨whole, suffix, -, -, hscan⟩ := @FloatText.scan_repr _ q (h q rfl) [] nofun
      rw [List.append_nil] at hscan
      exact opens_of_startsNumber (startsNumber_of_scanNumber hscan)
    | negativeZero => exact ⟨unit '-', _, rfl, rfl, by decide, by decide⟩
    | infinity negative =>
      cases negative with
      | true => exact hword ("-Infinity", .float (.infinity true)) (by simp [words])
      | false => exact hword ("Infinity", .float (.infinity false)) (by simp [words])
    | nan => exact hword ("NaN", .float .nan) (by simp [words])
  | str s => exact ⟨unit '"', _, rfl, rfl, by decide, by decide⟩
  | arr items h =>
    cases items with
    | nil => exact ⟨unit '[', _, rfl, rfl, by decide, by decide⟩
    | cons item items => exact ⟨unit '[', _, rfl, rfl, by decide, by decide⟩
  | obj entries hkeys h =>
    cases entries with
    | nil => exact ⟨unit '{', _, rfl, rfl, by decide, by decide⟩
    | cons entry entries => exact ⟨unit '{', _, rfl, rfl, by decide, by decide⟩

theorem print_obj_cons (level : Nat) (entry : Units × Json) (entries : List (Units × Json)) :
    print style level (.obj (entry :: entries)) = unit '{' :: (style.gap (level + 1) ++
      (printEntry style (level + 1) entry ++
        printTail style (unit '}') level (entries.map (printEntry style (level + 1))))) := by
  rw [print, printEntries_eq, printEntry]
  simp

/-- An entry is read as it was written when its value is. -/
theorem parseEntry_print {value : Units → Parsed Json} {level : Nat} {entry : Units × Json}
    {rest : Units} (hopens : Opens (print style level entry.2))
    (hvalue : value (print style level entry.2 ++ rest) = .ok (entry.2, rest)) :
    parseEntry value (printEntry style level entry ++ rest) = .ok (entry, rest) := by
  obtain ⟨u, tail, hprint, hspace, -, -⟩ := hopens
  have hkey : parseKey (printEntry style level entry ++ rest) =
      some (entry.1, print style level entry.2 ++ rest) := by
    rw [printEntry, List.cons_append, List.append_assoc, List.cons_append, List.append_assoc,
      parseKey, if_pos rfl, parseString_print]
    show (if unit ':' = unit ':' then
      some (entry.1, skipSpace (style.colon ++ (print style level entry.2 ++ rest))) else none) = _
    rw [if_pos rfl, skipSpace_gap style.colon_space, hprint, List.cons_append,
      skipSpace_cons hspace]
  rw [parseEntry, hkey]
  simp only [hvalue]
  rfl

variable [JsonLimits]

theorem parseValue_arr {depth level : Nat} {items : List Json}
    (hitems : ∀ item ∈ items, ∀ rest, Delimited rest →
      parseValue depth (print style (level + 1) item ++ rest) = .ok (item, rest))
    (hw : ∀ item ∈ items, item.WellFormed) (rest : Units) :
    parseValue (depth + 1) (print style level (.arr items) ++ rest) = .ok (.arr items, rest) := by
  cases items with
  | nil =>
    show parseValue (depth + 1) (unit '[' :: unit ']' :: rest) = _
    rw [parseValue_array]
    rfl
  | cons item items =>
    have helements := parseElements_print style (Or.inl rfl) level hitems
      (fun a ha => opens_print style (hw a ha) (level + 1)) rest
    rw [print, printItems_eq, List.cons_append, List.append_assoc, List.append_assoc,
      parseValue_array, parseArray, helements]
    rfl

theorem parseValue_obj {depth level : Nat} {entries : List (Units × Json)}
    (hkeys : (entries.map Prod.fst).Nodup)
    (hentries : ∀ entry ∈ entries, ∀ rest, Delimited rest →
      parseValue depth (print style (level + 1) entry.2 ++ rest) = .ok (entry.2, rest))
    (hw : ∀ entry ∈ entries, entry.2.WellFormed) (rest : Units) :
    parseValue (depth + 1) (print style level (.obj entries) ++ rest) = .ok (.obj entries, rest) := by
  cases entries with
  | nil =>
    show parseValue (depth + 1) (unit '{' :: unit '}' :: rest) = _
    rw [parseValue_object]
    rfl
  | cons entry entries =>
    have helements := @parseElements_print style (unit '}') (Or.inr rfl) _
      (parseEntry (parseValue depth)) (printEntry style (level + 1)) level entry entries
      (fun a ha rest hrest => parseEntry_print style (opens_print style (hw a ha) (level + 1))
        (hentries a ha rest hrest))
      (fun a _ => ⟨unit '"', _, rfl, rfl, by decide, by decide⟩) rest
    rw [print_obj_cons, List.cons_append, List.append_assoc, List.append_assoc, parseValue_object,
      parseObject, helements]
    show Except.ok (Json.obj (Dict.ofItems (entry :: entries)).items, rest) = _
    rw [Dict.items_ofItems hkeys]

/-- A document that is not refused is read as it was written, whatever follows that does not go on
with a number. -/
theorem parseValue_print {value : Json} (hw : value.WellFormed) (depth level : Nat)
    (hfits : refusal style depth value = none) {rest : Units} (h : Delimited rest) :
    parseValue depth (print style level value ++ rest) = .ok (value, rest) := by
  induction value using Json.induction generalizing depth level rest with
  | null => exact @parseValue_word _ _ depth ("null", .null) (by simp [words]) rest
  | bool b =>
    cases b with
    | true => exact @parseValue_word _ _ depth ("true", .bool true) (by simp [words]) rest
    | false => exact @parseValue_word _ _ depth ("false", .bool false) (by simp [words]) rest
  | int n =>
    refine parseValue_int depth (fun hdigits => ?_) h
    rw [refusal, if_pos hdigits] at hfits
    cases hfits
  | float f =>
    cases f with
    | finite q =>
      cases hw with
      | float _ hq => exact parseValue_float depth (hq q rfl) h
    | negativeZero => exact parseValue_negativeZero depth h
    | infinity negative =>
      cases negative with
      | true =>
        exact @parseValue_word _ _ depth ("-Infinity", .float (.infinity true)) (by simp [words]) rest
      | false =>
        exact @parseValue_word _ _ depth ("Infinity", .float (.infinity false)) (by simp [words]) rest
    | nan => exact @parseValue_word _ _ depth ("NaN", .float .nan) (by simp [words]) rest
  | str s => exact parseValue_string depth (parseString_print style s rest)
  | arr items ih =>
    cases hw with
    | arr _ hitems =>
      obtain ⟨room, rfl, hroom⟩ := refusal_arr style hfits
      exact parseValue_arr style (fun item hitem rest hrest =>
        ih item hitem (hitems item hitem) room (level + 1) (hroom item hitem) hrest) hitems rest
  | obj entries ih =>
    cases hw with
    | obj _ hkeys hentries =>
      obtain ⟨room, rfl, hroom⟩ := refusal_obj style hfits
      exact parseValue_obj style hkeys (fun entry hentry rest hrest =>
        ih entry hentry (hentries entry hentry) room (level + 1) (hroom entry hentry) hrest)
        hentries rest

/-- Documents that are not refused have texts of their own. -/
theorem print_injective {value other : Json} (hw : value.WellFormed) (hw' : other.WellFormed)
    {depth level : Nat} (hfits : refusal style depth value = none)
    (hfits' : refusal style depth other = none)
    (h : print style level value = print style level other) : value = other := by
  have hend : Delimited [] := by simp [Delimited]
  have hread := parseValue_print style hw depth level hfits hend
  have hread' := parseValue_print style hw' depth level hfits' hend
  rw [h, hread'] at hread
  exact (Prod.mk.inj (Except.ok.inj hread)).1.symm

end Documents

end JsonText

section Loading

variable [FloatText]

theorem Json.WellFormed.sorted {value : Json} (h : value.WellFormed) : value.sorted.WellFormed := by
  induction value using Json.induction with
  | arr items ih =>
    cases h with
    | arr _ hitems =>
      rw [Json.sorted, sortedItems_eq]
      refine .arr _ fun item hitem => ?_
      obtain ⟨item, hmem, rfl⟩ := List.mem_map.mp hitem
      exact ih item hmem (hitems item hmem)
  | obj entries ih =>
    cases h with
    | obj _ hkeys hentries =>
      have hperm := List.perm_insertionSort keyLE (entries.map sortedEntry)
      rw [Json.sorted, sortedEntries_eq]
      refine .obj _ ?_ fun entry hentry => ?_
      · rw [(hperm.map Prod.fst).nodup_iff, List.map_map]
        exact hkeys
      · obtain ⟨entry, hmem, rfl⟩ := List.mem_map.mp (hperm.subset hentry)
        exact ih entry hmem (hentries entry hmem)
  | null => exact h
  | bool => exact h
  | int => exact h
  | float => exact h
  | str => exact h

variable [JsonLimits]

theorem dumps_eq_ok {style : Style} {value : Json} {text : Units} :
    dumps style value = .ok text ↔
      refusal style JsonLimits.depth value.sorted = none ∧ print style 0 value.sorted = text := by
  unfold dumps
  cases refusal style JsonLimits.depth value.sorted <;> simp

/-- Reading undoes writing, but for the order of the keys, whatever white space follows. -/
theorem loads_dumps_append {style : Style} {value : Json} (hw : value.WellFormed) {text : Units}
    (h : dumps style value = .ok text) {space : Units} (hspace : ∀ u ∈ space, isSpace u = true) :
    loads (text ++ space) = .ok value.sorted := by
  obtain ⟨hfits, rfl⟩ := dumps_eq_ok.mp h
  have hdelimited : Delimited space := by
    intro u hu
    have hu := hspace u (List.mem_of_mem_head? hu)
    simp only [isSpace, Bool.or_eq_true, decide_eq_true_eq] at hu
    rcases hu with ((rfl | rfl) | rfl) | rfl <;> decide
  have hparse := parseValue_print style hw.sorted JsonLimits.depth 0 hfits hdelimited
  obtain ⟨u, tail, hprint, hu, -, -⟩ := opens_print style hw.sorted 0
  have hskip : skipSpace (print style 0 value.sorted ++ space) =
      print style 0 value.sorted ++ space := by
    rw [hprint, List.cons_append, skipSpace_cons hu]
  have hrest : skipSpace space = [] := by
    have hgap := skipSpace_gap hspace []
    rwa [List.append_nil] at hgap
  rw [loads, hskip, hparse]
  simp only [hrest, if_true]

theorem loads_empty : loads (units "") = .error .decode := by
  have hskip : skipSpace (units "") = [] := rfl
  rw [loads, hskip, parseValue.eq_def]

theorem loads_dumps {style : Style} {value : Json} (hw : value.WellFormed) {text : Units}
    (h : dumps style value = .ok text) : loads text = .ok value.sorted := by
  have happend := @loads_dumps_append _ _ _ _ hw _ h [] (List.forall_mem_nil _)
  rwa [List.append_nil] at happend

/-- Two documents with one text are the same, but for the order of the keys. -/
theorem sorted_eq_of_dumps {style : Style} {value other : Json} (hw : value.WellFormed)
    (hw' : other.WellFormed) {text : Units} (h : dumps style value = .ok text)
    (h' : dumps style other = .ok text) : value.sorted = other.sorted :=
  Except.ok.inj ((loads_dumps hw h).symm.trans (loads_dumps hw' h'))

end Loading

section Halves

open JsonText

/-- The digit behind the point of a half. -/
def halfDigit (q : ℚ) : UInt16 := if q = ⌊q⌋ then unit '0' else unit '5'

theorem halfDigit_cases (q : ℚ) :
    q = ⌊q⌋ ∧ halfDigit q = unit '0' ∨ q ≠ ⌊q⌋ ∧ halfDigit q = unit '5' := by
  unfold halfDigit
  by_cases h : q = ⌊q⌋
  · exact .inl ⟨h, if_pos h⟩
  · exact .inr ⟨h, if_neg h⟩

theorem isDigit_halfDigit (q : ℚ) : isDigit (halfDigit q) = true := by
  obtain ⟨-, hdigit⟩ | ⟨-, hdigit⟩ := halfDigit_cases q <;> rw [hdigit] <;> rfl

/-- The texts of the halves below 10 ^ 15, which are digits, a point and one digit. -/
@[reducible] def FloatText.halves : FloatText where
  isFloat q := 0 ≤ q ∧ q < 10 ^ 15 ∧ (q = ⌊q⌋ ∨ q = ⌊q⌋ + 1 / 2)
  repr q := printNat ⌊q⌋.toNat ++ [unit '.', halfDigit q]
  parse text :=
    if text = units "-0.0" then .negativeZero
    else .finite (parseWhole (text.takeWhile isDigit) +
      if text.dropWhile isDigit = units ".5" then 1 / 2 else 0)
  ascii_repr {q} _ := by
    have hascii : ∀ {u}, isDigit u = true → 0 < u.toNat ∧ u.toNat < 0x80 := by
      intro u hu
      simp only [isDigit, Bool.and_eq_true, decide_eq_true_eq] at hu
      omega
    exact .append (fun u hu => hascii (printNat_digits _ u hu))
      (.cons (by decide) (.cons (hascii (isDigit_halfDigit q)) isAscii_nil))
  scan_repr {q} _ rest h := by
    refine ⟨printNat ⌊q⌋.toNat, [unit '.', halfDigit q], List.cons_ne_nil _ _, rfl, ?_⟩
    have hpoint : ∀ u ∈ ([unit '.', halfDigit q] ++ rest).head?, isDigit u = false := by
      intro u hu
      obtain rfl := Option.some.inj hu
      rfl
    have hscan : scanFraction ([unit '.', halfDigit q] ++ rest) = ([unit '.', halfDigit q], rest) := by
      show scanFraction (unit '.' :: halfDigit q :: rest) = _
      rw [scanFraction, if_pos ⟨rfl, isDigit_halfDigit q⟩, takeWhile_delimited h,
        dropWhile_delimited h]
    rw [List.append_assoc]
    exact scanNumber_eq h _ (scanMinus_printNat _) (scanWhole_digits hpoint _) hscan
  parse_repr {q} h := by
    obtain ⟨hnonneg, -, hhalf⟩ := h
    have hdigits := printNat_digits ⌊q⌋.toNat
    obtain ⟨u, digits, hprint, -⟩ := printNat_cons ⌊q⌋.toNat
    have hsigned : printNat ⌊q⌋.toNat ++ [unit '.', halfDigit q] ≠ units "-0.0" := by
      intro hzero
      have hu := hdigits u (hprint ▸ List.mem_cons_self)
      rw [hprint] at hzero
      rw [(List.cons.inj hzero).1] at hu
      cases hu
    have hwhole : parseWhole (printNat ⌊q⌋.toNat) = ⌊q⌋ := by
      have hfloor : (0 : Int) ≤ ⌊q⌋ := Int.floor_nonneg.mpr hnonneg
      have hprinted := parseWhole_printInt ⌊q⌋
      rw [printInt, if_neg (not_lt.mpr hfloor)] at hprinted
      rwa [show ⌊q⌋.toNat = ⌊q⌋.natAbs by omega]
    have htail : [unit '.', halfDigit q].takeWhile isDigit = [] ∧
        [unit '.', halfDigit q].dropWhile isDigit = [unit '.', halfDigit q] := ⟨rfl, rfl⟩
    rw [if_neg hsigned, List.takeWhile_append_of_pos hdigits, List.dropWhile_append_of_pos hdigits,
      htail.1, htail.2, List.append_nil, hwhole]
    obtain ⟨hq, hdigit⟩ | ⟨hq, hdigit⟩ := halfDigit_cases q
    · rw [hdigit, if_neg (by decide), add_zero, ← hq]
    · rw [hdigit, if_pos (by decide), ← hhalf.resolve_left hq]
  parse_negativeZero := if_pos rfl

end Halves

end Py
