import Sectum.Lib.JsonText
import Sectum.Lib.Utf8

/-! Line ends do not change what `json.loads` reads: between the parts of a document they are space,
and a string that holds one is refused. -/

namespace Py

/-- The second text is the first with its line ends as newlines. -/
inductive Newlined : Units → Units → Prop
  | nil : Newlined [] []
  | cons (u : UInt16) {text text' : Units} (h : Newlined text text') :
      Newlined (u :: text) (u :: text')
  | ret {text text' : Units} (h : Newlined text text') :
      Newlined (unit '\r' :: text) (unit '\n' :: text')
  | pair {text text' : Units} (h : Newlined text text') :
      Newlined (unit '\r' :: unit '\n' :: text) (unit '\n' :: text')

namespace Newlined

variable {text text' : Units}

theorem append_left (front : Units) (h : Newlined text text') :
    Newlined (front ++ text) (front ++ text') := by
  induction front with
  | nil => exact h
  | cons u front ih => exact cons u ih

/-- The first units are the same, or a line end is among them. -/
theorem take (h : Newlined text text') (count : Nat) :
    text.take count = text'.take count ∧ Newlined (text.drop count) (text'.drop count) ∨
      unit '\r' ∈ text.take count ∧ unit '\n' ∈ text'.take count := by
  induction count generalizing text text' with
  | zero => exact .inl ⟨rfl, h⟩
  | succ count ih =>
    cases h with
    | nil => exact .inl ⟨rfl, nil⟩
    | cons u h =>
      rcases ih h with ⟨htake, hdrop⟩ | ⟨hret, hnewline⟩
      · exact .inl ⟨by rw [List.take_succ_cons, List.take_succ_cons, htake], hdrop⟩
      · exact .inr ⟨List.mem_cons_of_mem u hret, List.mem_cons_of_mem u hnewline⟩
    | ret h | pair h => exact .inr ⟨List.mem_cons_self, List.mem_cons_self⟩

theorem translate (chars : List Char) :
    Newlined (chars.flatMap charUnits) ((translateNewlines false chars).flatMap charUnits) := by
  induction hlength : chars.length using Nat.strong_induction_on generalizing chars with
  | _ length ih =>
    subst hlength
    cases chars with
    | nil => exact nil
    | cons c rest =>
      have hrest := ih rest.length (by simp) rest rfl
      by_cases hreturn : c = '\r'
      · subst hreturn
        cases rest with
        | nil => exact ret nil
        | cons d rest =>
          by_cases hnewline : d = '\n'
          · subst hnewline
            exact pair (ih rest.length (by simp) rest rfl)
          · have hsame : translateNewlines true (d :: rest) = translateNewlines false (d :: rest) := by
              simp [translateNewlines, hnewline]
            have hhead : translateNewlines false ('\r' :: d :: rest) =
                '\n' :: translateNewlines true (d :: rest) := rfl
            rw [hhead, hsame]
            exact ret hrest
      · have hhead : translateNewlines false (c :: rest) = c :: translateNewlines false rest := by
          simp [translateNewlines, hreturn]
        rw [hhead, List.flatMap_cons, List.flatMap_cons]
        exact append_left _ hrest

end Newlined

namespace JsonText

/-- What is left of two texts that differ in their line ends. -/
structure Behind (text text' rest rest' : Units) : Prop where
  newlined : Newlined rest rest'
  le : rest.length ≤ text.length
  le' : rest'.length ≤ text'.length

/-- Two readings of texts that differ in their line ends: both fail, or both read the same. -/
inductive SameResult {α : Type} (text text' : Units) :
    Option (α × Units) → Option (α × Units) → Prop
  | none : SameResult text text' none none
  | some (a : α) {rest rest' : Units} (h : Behind text text' rest rest') :
      SameResult text text' (some (a, rest)) (some (a, rest'))

section Results

variable {α β : Type} {text text' : Units}

theorem Behind.refl (h : Newlined text text') : Behind text text' text text' := ⟨h, le_rfl, le_rfl⟩

theorem Behind.trans {rest rest' last last' : Units} (h : Behind text text' rest rest')
    (hlast : Behind rest rest' last last') : Behind text text' last last' :=
  ⟨hlast.newlined, hlast.le.trans h.le, hlast.le'.trans h.le'⟩

theorem Behind.tail (u : UInt16) (h : Newlined text text') :
    Behind (u :: text) (u :: text') text text' :=
  ⟨h, by simp, by simp⟩

theorem Behind.drop {count : Nat} (h : Newlined (text.drop count) (text'.drop count)) :
    Behind text text' (text.drop count) (text'.drop count) :=
  ⟨h, by simp, by simp⟩

theorem SameResult.bind {x x' : Option (α × Units)} {f : α × Units → Option (β × Units)}
    (h : SameResult text text' x x') (hf : ∀ a rest rest', Behind text text' rest rest' →
      SameResult text text' (f (a, rest)) (f (a, rest'))) :
    SameResult text text' (x.bind f) (x'.bind f) := by
  cases h with
  | none => exact .none
  | some a h => exact hf a _ _ h

theorem SameResult.map (f : α → β) {x x' : Option (α × Units)} (h : SameResult text text' x x') :
    SameResult text text' (x.map fun read => (f read.1, read.2))
      (x'.map fun read => (f read.1, read.2)) := by
  cases h with
  | none => exact .none
  | some a h => exact .some (f a) h

theorem SameResult.trans {rest rest' : Units} {x x' : Option (α × Units)}
    (h : Behind text text' rest rest') (hx : SameResult rest rest' x x') :
    SameResult text text' x x' := by
  cases hx with
  | none => exact .none
  | some a hx => exact .some a (h.trans hx)

end Results

section Scan

variable {text text' : Units}

theorem behind_skipSpace (h : Newlined text text') :
    Behind text text' (skipSpace text) (skipSpace text') := by
  refine ⟨?_, (List.dropWhile_suffix _).length_le, (List.dropWhile_suffix _).length_le⟩
  unfold skipSpace
  induction h with
  | nil => exact .nil
  | cons u h ih =>
    cases hspace : isSpace u with
    | true => rwa [List.dropWhile_cons_of_pos hspace, List.dropWhile_cons_of_pos hspace]
    | false =>
      have hspace : ¬isSpace u = true := by simp [hspace]
      rw [List.dropWhile_cons_of_neg hspace, List.dropWhile_cons_of_neg hspace]
      exact .cons u h
  | ret h ih => exact ih
  | pair h ih => exact ih

theorem digits_newlined (h : Newlined text text') :
    text.takeWhile isDigit = text'.takeWhile isDigit ∧
      Behind text text' (text.dropWhile isDigit) (text'.dropWhile isDigit) := by
  refine ⟨?_, ?_, (List.dropWhile_suffix _).length_le, (List.dropWhile_suffix _).length_le⟩
  · induction h with
    | nil => rfl
    | cons u h ih => simp only [List.takeWhile_cons, ih]
    | ret h ih | pair h ih => rfl
  · induction h with
    | nil => exact .nil
    | cons u h ih =>
      cases hdigit : isDigit u with
      | true => rwa [List.dropWhile_cons_of_pos hdigit, List.dropWhile_cons_of_pos hdigit]
      | false =>
        have hdigit : ¬isDigit u = true := by simp [hdigit]
        rw [List.dropWhile_cons_of_neg hdigit, List.dropWhile_cons_of_neg hdigit]
        exact .cons u h
    | ret h ih => exact .ret h
    | pair h ih => exact .pair h

/-- Two scans of an optional part. -/
structure SameScan (text text' : Units) (x x' : Units × Units) : Prop where
  read : x.1 = x'.1
  behind : Behind text text' x.2 x'.2

theorem scanMinus_newlined (h : Newlined text text') :
    SameScan text text' (scanMinus text) (scanMinus text') := by
  unfold scanMinus
  cases h with
  | nil => exact ⟨rfl, .refl .nil⟩
  | cons u h =>
    simp only [List.head?_cons, Option.some_inj, List.tail_cons]
    split
    · exact ⟨rfl, .tail u h⟩
    · exact ⟨rfl, .refl (.cons u h)⟩
  | ret h => exact ⟨rfl, .refl (.ret h)⟩
  | pair h => exact ⟨rfl, .refl (.pair h)⟩

theorem scanSign_newlined (h : Newlined text text') :
    SameScan text text' (scanSign text) (scanSign text') := by
  cases h with
  | nil => exact ⟨rfl, .refl .nil⟩
  | cons u h =>
    unfold scanSign
    dsimp only
    split
    · exact ⟨rfl, .tail u h⟩
    · exact ⟨rfl, .refl (.cons u h)⟩
  | ret h => exact ⟨rfl, .refl (.ret h)⟩
  | pair h => exact ⟨rfl, .refl (.pair h)⟩

theorem scanWhole_newlined (h : Newlined text text') :
    SameResult text text' (scanWhole text) (scanWhole text') := by
  cases h with
  | nil => exact .none
  | cons u h =>
    unfold scanWhole
    dsimp only
    obtain ⟨htake, hdrop⟩ := digits_newlined h
    split
    · exact .some [u] (.tail u h)
    · split
      · rw [htake]
        exact .some _ ((Behind.tail u h).trans hdrop)
      · exact .none
  | ret h => exact .none
  | pair h => exact .none

theorem scanFraction_undigit (u : UInt16) {v : UInt16} (h : isDigit v = false) (rest : Units) :
    scanFraction (u :: v :: rest) = ([], u :: v :: rest) := by
  simp [scanFraction, h]

theorem scanFraction_unpointed {u : UInt16} (h : u ≠ unit '.') (rest : Units) :
    scanFraction (u :: rest) = ([], u :: rest) := by
  cases rest with
  | nil => rfl
  | cons v rest => simp [scanFraction, h]

theorem scanFraction_newlined (h : Newlined text text') :
    SameScan text text' (scanFraction text) (scanFraction text') := by
  have hret : isDigit (unit '\r') = false := by decide
  have hnewline : isDigit (unit '\n') = false := by decide
  cases h with
  | nil => exact ⟨rfl, .refl .nil⟩
  | cons u h =>
    cases h with
    | nil => exact ⟨rfl, .refl (.cons u .nil)⟩
    | cons v h =>
      unfold scanFraction
      dsimp only
      obtain ⟨htake, hdrop⟩ := digits_newlined h
      split
      · rw [htake]
        exact ⟨rfl, (Behind.tail u (.cons v h)).trans ((Behind.tail v h).trans hdrop)⟩
      · exact ⟨rfl, .refl (.cons u (.cons v h))⟩
    | ret h =>
      rw [scanFraction_undigit u hret, scanFraction_undigit u hnewline]
      exact ⟨rfl, .refl (.cons u (.ret h))⟩
    | pair h =>
      rw [scanFraction_undigit u hret, scanFraction_undigit u hnewline]
      exact ⟨rfl, .refl (.cons u (.pair h))⟩
  | ret h =>
    rw [scanFraction_unpointed (by decide), scanFraction_unpointed (by decide)]
    exact ⟨rfl, .refl (.ret h)⟩
  | pair h =>
    rw [scanFraction_unpointed (by decide), scanFraction_unpointed (by decide)]
    exact ⟨rfl, .refl (.pair h)⟩

theorem scanExponent_newlined (h : Newlined text text') :
    SameScan text text' (scanExponent text) (scanExponent text') := by
  cases h with
  | nil => exact ⟨rfl, .refl .nil⟩
  | cons u h =>
    unfold scanExponent
    dsimp only
    obtain ⟨hsign, hdigits⟩ := scanSign_newlined h
    obtain ⟨htake, hdrop⟩ := digits_newlined hdigits.newlined
    rw [hsign, htake]
    split
    · exact ⟨rfl, (Behind.tail u h).trans (hdigits.trans hdrop)⟩
    · exact ⟨rfl, .refl (.cons u h)⟩
  | ret h => exact ⟨rfl, .refl (.ret h)⟩
  | pair h => exact ⟨rfl, .refl (.pair h)⟩

theorem scanNumber_newlined (h : Newlined text text') :
    SameResult text text' ((scanNumber text).map fun read => ((read.1, read.2.1), read.2.2))
      ((scanNumber text').map fun read => ((read.1, read.2.1), read.2.2)) := by
  obtain ⟨hminus, hunsigned⟩ := scanMinus_newlined h
  have hwhole := scanWhole_newlined hunsigned.newlined
  unfold scanNumber
  rw [hminus]
  generalize scanWhole (scanMinus text).2 = x at hwhole
  generalize scanWhole (scanMinus text').2 = x' at hwhole
  cases hwhole with
  | none => exact .none
  | some whole hrest =>
    obtain ⟨hfraction, hexponential⟩ := scanFraction_newlined hrest.newlined
    obtain ⟨hexponent, hlast⟩ := scanExponent_newlined hexponential.newlined
    dsimp only [Option.map_some]
    rw [hfraction, hexponent]
    exact .some _ (hunsigned.trans (hrest.trans (hexponential.trans hlast)))

end Scan

section Words

variable {text text' : Units}

theorem skipWord_newlined {word : String} (hword : unit '\r' ∉ units word ∧ unit '\n' ∉ units word)
    (h : Newlined text text') :
    SameResult text text' ((skipWord word text).map fun rest => ((), rest))
      ((skipWord word text').map fun rest => ((), rest)) := by
  have hskip : ∀ text, skipWord word text =
      if text.take (units word).length = units word then some (text.drop (units word).length)
      else none := by
    intro text
    have hfront : (units word).isPrefixOf text = true ↔
        text.take (units word).length = units word := by
      rw [List.isPrefixOf_iff_prefix, List.prefix_iff_eq_take, eq_comm]
    exact if_congr hfront rfl rfl
  rw [hskip, hskip]
  rcases h.take (units word).length with ⟨htake, hdrop⟩ | ⟨hret, hnewline⟩
  · rw [htake]
    split
    · exact .some () (.drop hdrop)
    · exact .none
  · have hother : text.take (units word).length ≠ units word := fun heq => hword.1 (heq ▸ hret)
    have hother' : text'.take (units word).length ≠ units word :=
      fun heq => hword.2 (heq ▸ hnewline)
    rw [if_neg hother, if_neg hother']
    exact .none

theorem parseWord_newlined (h : Newlined text text') :
    SameResult text text' (parseWord text) (parseWord text') := by
  have hwords : ∀ word ∈ words, unit '\r' ∉ units word.1 ∧ unit '\n' ∉ units word.1 := by
    simp only [words, List.forall_mem_cons]
    decide +kernel
  unfold parseWord
  generalize words = listed at hwords
  induction listed with
  | nil => exact .none
  | cons word listed ih =>
    have hskip := skipWord_newlined (hwords word List.mem_cons_self) h
    rw [List.findSome?_cons, List.findSome?_cons]
    generalize skipWord word.1 text = x at hskip
    generalize skipWord word.1 text' = x' at hskip
    cases x <;> cases x' <;> cases hskip
    · exact ih fun word hword => hwords word (List.mem_cons_of_mem _ hword)
    · rename_i hrest
      exact .some word.2 hrest

end Words

section Strings

variable {text text' : Units}

/-- The code unit of four hexadecimal digits. -/
def hexUnits : Units → Option (UInt16 × Units)
  | a :: b :: c :: d :: rest =>
    match hexValue a, hexValue b, hexValue c, hexValue d with
    | some a, some b, some c, some d => some ((a * 4096 + b * 256 + c * 16 + d).toUInt16, rest)
    | _, _, _, _ => none
  | _ => none

theorem hexUnits_none {u : UInt16} (hu : u ∈ text.take 4) (h : hexValue u = none) :
    hexUnits text = none := by
  unfold hexUnits
  split
  · simp only [List.take_succ_cons, List.take_zero, List.mem_cons, List.not_mem_nil, or_false] at hu
    split
    · rename_i ha hb hc hd
      rcases hu with rfl | rfl | rfl | rfl <;> simp_all
    · rfl
  · rfl

theorem hexUnits_take (text : Units) :
    hexUnits text = (hexUnits (text.take 4)).map fun read => (read.1, text.drop 4) := by
  rcases text with _ | ⟨a, _ | ⟨b, _ | ⟨c, _ | ⟨d, rest⟩⟩⟩⟩
  case cons.cons.cons.cons =>
    simp only [hexUnits, List.take_succ_cons, List.take_zero, List.drop_succ_cons, List.drop_zero]
    split <;> rfl
  all_goals rfl

theorem hexUnits_newlined (h : Newlined text text') :
    SameResult text text' (hexUnits text) (hexUnits text') := by
  rcases h.take 4 with ⟨htake, hdrop⟩ | ⟨hret, hnewline⟩
  · rw [hexUnits_take text, hexUnits_take text', htake]
    cases hexUnits (text'.take 4) with
    | none => exact .none
    | some read => exact .some read.1 (.drop hdrop)
  · rw [hexUnits_none hret (by decide), hexUnits_none hnewline (by decide)]
    exact .none

/-- An escape behind its backslash, and what follows of the string. -/
def parseEscape : Units → Option (Units × Units)
  | [] => none
  | v :: rest =>
    if v = unit 'u' then
      (hexUnits rest).bind fun code =>
        (parseString code.2).map fun read => (code.1 :: read.1, read.2)
    else
      (((unit '/', unit '/') :: escapes).find? fun escape => escape.1 = v).bind fun escape =>
        (parseString rest).map fun read => (escape.2 :: read.1, read.2)

theorem parseString_cons (u : UInt16) (rest : Units) :
    parseString (u :: rest) =
      if u = unit '"' then some ([], rest)
      else if u = unit '\\' then parseEscape rest
      else if u.toNat < 32 then none
      else (parseString rest).map fun read => (u :: read.1, read.2) := by
  rw [parseString.eq_def]
  dsimp only
  split
  · rfl
  · split
    · cases rest with
      | nil => rfl
      | cons v rest =>
        unfold parseEscape
        dsimp only
        split
        · rcases rest with _ | ⟨a, _ | ⟨b, _ | ⟨c, _ | ⟨d, rest⟩⟩⟩⟩
          case cons.cons.cons.cons =>
            simp only [hexUnits]
            cases hexValue a <;> cases hexValue b <;> cases hexValue c <;> cases hexValue d <;> rfl
          all_goals rfl
        · split
          · rename_i escape hescape
            rw [hescape]
            rfl
          · rename_i hescape
            rw [hescape]
            rfl
    · rfl

theorem parseString_control {u : UInt16} (h : u.toNat < 32) (rest : Units) :
    parseString (u :: rest) = none := by
  have hquote : u ≠ unit '"' := by
    rintro rfl
    exact absurd h (by decide)
  have hescape : u ≠ unit '\\' := by
    rintro rfl
    exact absurd h (by decide)
  rw [parseString_cons, if_neg hquote, if_neg hescape, if_pos h]

/-- A string holds no line end, so both texts end it at the same place. -/
theorem parseString_newlined (h : Newlined text text') :
    SameResult text text' (parseString text) (parseString text') := by
  induction hlength : text.length using Nat.strong_induction_on generalizing text text' with
  | _ length ih =>
    subst hlength
    cases h with
    | nil => exact .none
    | ret h | pair h =>
      rw [parseString_control (by decide), parseString_control (by decide)]
      exact .none
    | cons u h =>
      rename_i rest rest'
      rw [parseString_cons, parseString_cons]
      split
      · exact .some [] (.tail u h)
      · split
        · refine .trans (.tail u h) ?_
          cases h with
          | nil => exact .none
          | ret h | pair h => exact .none
          | cons v h =>
            rename_i rest rest'
            unfold parseEscape
            dsimp only
            refine .trans (.tail v h) ?_
            split
            · refine (hexUnits_newlined h).bind fun code last last' hlast => ?_
              refine .trans hlast (.map _ (ih last.length ?_ hlast.newlined rfl))
              have hle := hlast.le
              simp only [List.length_cons]
              omega
            · cases ((unit '/', unit '/') :: escapes).find? fun escape => escape.1 = v with
              | none => exact .none
              | some escape => exact .map _ (ih rest.length (by simp) h rfl)
        · split
          · exact .none
          · exact .trans (.tail u h) (.map _ (ih rest.length (by simp) h rfl))

theorem parseKey_newlined (h : Newlined text text') :
    SameResult text text' (parseKey text) (parseKey text') := by
  cases h with
  | nil => exact .none
  | ret h | pair h => exact .none
  | cons u h =>
    unfold parseKey
    dsimp only
    split
    · refine .trans (.tail u h) ?_
      have hkey := parseString_newlined h
      rename_i rest rest' _
      generalize parseString rest = x at hkey
      generalize parseString rest' = x' at hkey
      cases hkey with
      | none => exact .none
      | some key hbehind =>
        rename_i last last'
        dsimp only
        have hspace := hbehind.trans (behind_skipSpace hbehind.newlined)
        generalize skipSpace last = y at hspace
        generalize skipSpace last' = y' at hspace
        refine .trans hspace ?_
        cases hspace.newlined with
        | nil => exact .none
        | ret h | pair h => exact .none
        | cons u h =>
          dsimp only
          split
          · exact .some key ((Behind.tail u h).trans (behind_skipSpace h))
          · exact .none
    · exact .none

end Strings

/-- Two parses of texts that differ in their line ends. -/
inductive SameParse {α : Type} (text text' : Units) : Parsed α → Parsed α → Prop
  | error (e : LoadsError) : SameParse text text' (.error e) (.error e)
  | ok (a : α) {rest rest' : Units} (h : Behind text text' rest rest') :
      SameParse text text' (.ok (a, rest)) (.ok (a, rest'))

section Parses

variable {α β : Type} {text text' rest rest' : Units}

theorem SameParse.trans {x x' : Parsed α} (h : Behind text text' rest rest')
    (hx : SameParse rest rest' x x') : SameParse text text' x x' := by
  cases hx with
  | error e => exact .error e
  | ok a hx => exact .ok a (h.trans hx)

theorem SameParse.map (f : α → β) {x x' : Parsed α} (h : SameParse text text' x x') :
    SameParse text text' (x.map fun read => (f read.1, read.2))
      (x'.map fun read => (f read.1, read.2)) := by
  cases h with
  | error e => exact .error e
  | ok a h => exact .ok (f a) h

end Parses

section Containers

variable {α : Type} {element : Units → Parsed α} {close : UInt16}

theorem parseSeparated_nil (hempty : element [] = .error .decode) (fuel : Nat) :
    parseSeparated element close fuel [] = .error .decode := by
  cases fuel with
  | zero => rfl
  | succ fuel => rw [parseSeparated, hempty]

/-- The texts are read as far as they are long, so that the fuel of neither runs out. -/
theorem parseSeparated_newlined
    (helement : ∀ {text text'}, Newlined text text' →
      SameParse text text' (element text) (element text'))
    (hempty : element [] = .error .decode) (hret : unit '\r' ≠ close) (hnewline : unit '\n' ≠ close)
    {fuel fuel' : Nat} {text text' : Units} (h : Newlined text text') (hfuel : text.length ≤ fuel)
    (hfuel' : text'.length ≤ fuel') :
    SameParse text text' (parseSeparated element close fuel text)
      (parseSeparated element close fuel' text') := by
  induction fuel generalizing text text' fuel' with
  | zero =>
    obtain rfl := List.length_eq_zero_iff.mp (Nat.le_zero.mp hfuel)
    cases h
    rw [parseSeparated_nil hempty, parseSeparated_nil hempty]
    exact .error .decode
  | succ fuel ih =>
    cases fuel' with
    | zero =>
      obtain rfl := List.length_eq_zero_iff.mp (Nat.le_zero.mp hfuel')
      cases h
      rw [parseSeparated_nil hempty, parseSeparated_nil hempty]
      exact .error .decode
    | succ fuel' =>
      have hfirst := helement h
      rw [parseSeparated, parseSeparated]
      generalize element text = x at hfirst
      generalize element text' = x' at hfirst
      cases hfirst with
      | error e => exact .error e
      | ok first hbehind =>
        rename_i rest rest'
        dsimp only
        have hspace := hbehind.trans (behind_skipSpace hbehind.newlined)
        generalize skipSpace rest = y at hspace
        generalize skipSpace rest' = y' at hspace
        refine .trans hspace ?_
        cases hspace.newlined with
        | nil => exact .error .decode
        | ret h | pair h =>
          dsimp only
          rw [if_neg hret, if_neg (by decide), if_neg hnewline, if_neg (by decide)]
          exact .error .decode
        | cons u h =>
          dsimp only
          split
          · exact .ok [first] (.tail u h)
          · split
            · have hle := hspace.le
              have hle' := hspace.le'
              rw [List.length_cons] at hle hle'
              have hnext := behind_skipSpace h
              refine .trans ((Behind.tail u h).trans hnext) (.map (first :: ·) ?_)
              exact ih hnext.newlined (by have := hnext.le; omega) (by have := hnext.le'; omega)
            · exact .error .decode

theorem parseElements_newlined
    (helement : ∀ {text text'}, Newlined text text' →
      SameParse text text' (element text) (element text'))
    (hempty : element [] = .error .decode) (hret : unit '\r' ≠ close) (hnewline : unit '\n' ≠ close)
    {text text' : Units} (h : Newlined text text') :
    SameParse text text' (parseElements element close text) (parseElements element close text') := by
  have hspace := behind_skipSpace h
  unfold parseElements
  have hle := hspace.le
  have hle' := hspace.le'
  generalize skipSpace text = y at hspace hle
  generalize skipSpace text' = y' at hspace hle'
  refine .trans hspace ?_
  have hseparated := parseSeparated_newlined helement hempty hret hnewline hspace.newlined hle hle'
  cases hspace.newlined with
  | nil => exact .error .decode
  | ret h | pair h =>
    dsimp only
    rw [if_neg hret, if_neg hnewline]
    exact hseparated
  | cons u h =>
    dsimp only
    split
    · exact .ok [] (.tail u h)
    · exact hseparated

end Containers

section Values

variable [JsonLimits] [FloatText] {text text' : Units}

theorem parseNumber_newlined (h : Newlined text text') :
    SameParse text text' (parseNumber text) (parseNumber text') := by
  have hscan := scanNumber_newlined h
  unfold parseNumber
  generalize scanNumber text = x at hscan
  generalize scanNumber text' = x' at hscan
  rcases x with _ | ⟨whole, suffix, rest⟩ <;> rcases x' with _ | ⟨whole', suffix', rest'⟩ <;>
    cases hscan
  · exact .error .decode
  · rename_i hbehind
    cases suffix with
    | nil =>
      dsimp only
      split
      · exact .error .digits
      · exact .ok _ hbehind
    | cons u suffix => exact .ok _ hbehind

omit [JsonLimits] [FloatText] in
theorem parseEntry_newlined {value : Units → Parsed Json}
    (hvalue : ∀ {text text'}, Newlined text text' →
      SameParse text text' (value text) (value text')) (h : Newlined text text') :
    SameParse text text' (parseEntry value text) (parseEntry value text') := by
  have hkey := parseKey_newlined h
  unfold parseEntry
  generalize parseKey text = x at hkey
  generalize parseKey text' = x' at hkey
  cases hkey with
  | none => exact .error .decode
  | some key hbehind =>
    exact .trans hbehind (.map (fun item => (key, item)) (hvalue hbehind.newlined))

/-- A word or a number. -/
def parseAtom (text : Units) : Parsed Json :=
  match parseWord text with
  | some (value, rest) => .ok (value, rest)
  | none => parseNumber text

theorem parseAtom_newlined (h : Newlined text text') :
    SameParse text text' (parseAtom text) (parseAtom text') := by
  have hword := parseWord_newlined h
  have hnumber := parseNumber_newlined h
  unfold parseAtom
  generalize parseWord text = x at hword
  generalize parseWord text' = x' at hword
  cases hword with
  | none => exact hnumber
  | some value hbehind => exact .ok value hbehind

theorem parseValue_atom {u : UInt16} (hquote : u ≠ unit '"') (hbrace : u ≠ unit '{')
    (hbracket : u ≠ unit '[') (depth : Nat) (rest : Units) :
    parseValue depth (u :: rest) = parseAtom (u :: rest) := by
  rw [parseValue.eq_def]
  dsimp only
  rw [if_neg hquote, if_neg hbrace, if_neg hbracket]
  rfl

theorem parseValue_nil (depth : Nat) : parseValue depth [] = .error .decode := by
  cases depth <;> rfl

theorem parseValue_quote (depth : Nat) (rest : Units) :
    parseValue depth (unit '"' :: rest) =
      match parseString rest with
      | none => .error .decode
      | some (s, rest) => .ok (.str s, rest) := by
  rw [parseValue.eq_def]
  rfl

/-- The value at the head of a text, given what is made of the containers. -/
theorem parseValue_head {depth : Nat}
    (hobject : ∀ {rest rest'}, Newlined rest rest' → SameParse rest rest'
      (parseValue depth (unit '{' :: rest)) (parseValue depth (unit '{' :: rest')))
    (harray : ∀ {rest rest'}, Newlined rest rest' → SameParse rest rest'
      (parseValue depth (unit '[' :: rest)) (parseValue depth (unit '[' :: rest')))
    (h : Newlined text text') :
    SameParse text text' (parseValue depth text) (parseValue depth text') := by
  cases h with
  | nil =>
    rw [parseValue_nil]
    exact .error .decode
  | ret h =>
    rw [parseValue_atom (by decide) (by decide) (by decide),
      parseValue_atom (by decide) (by decide) (by decide)]
    exact parseAtom_newlined (.ret h)
  | pair h =>
    rw [parseValue_atom (by decide) (by decide) (by decide),
      parseValue_atom (by decide) (by decide) (by decide)]
    exact parseAtom_newlined (.pair h)
  | cons u h =>
    rename_i rest rest'
    by_cases hquote : u = unit '"'
    · subst hquote
      rw [parseValue_quote, parseValue_quote]
      have hstring := parseString_newlined h
      refine .trans (.tail _ h) ?_
      generalize parseString rest = x at hstring
      generalize parseString rest' = x' at hstring
      cases hstring with
      | none => exact .error .decode
      | some s hbehind => exact .ok (Json.str s) hbehind
    · by_cases hbrace : u = unit '{'
      · subst hbrace
        exact .trans (.tail _ h) (hobject h)
      · by_cases hbracket : u = unit '['
        · subst hbracket
          exact .trans (.tail _ h) (harray h)
        · rw [parseValue_atom hquote hbrace hbracket, parseValue_atom hquote hbrace hbracket]
          exact parseAtom_newlined (.cons u h)

theorem parseValue_newlined (depth : Nat) (h : Newlined text text') :
    SameParse text text' (parseValue depth text) (parseValue depth text') := by
  have hbrace : unit '\r' ≠ unit '}' ∧ unit '\n' ≠ unit '}' := by decide
  have hbracket : unit '\r' ≠ unit ']' ∧ unit '\n' ≠ unit ']' := by decide
  induction depth generalizing text text' with
  | zero => exact parseValue_head (fun _ => .error .recursion) (fun _ => .error .recursion) h
  | succ depth ih =>
    refine parseValue_head (fun hrest => ?_) (fun hrest => ?_) h
    · exact .map (fun entries => Json.obj (Dict.ofItems entries).items)
        (parseElements_newlined (fun hentry => parseEntry_newlined ih hentry) rfl hbrace.1 hbrace.2
          hrest)
    · exact .map Json.arr
        (parseElements_newlined ih (parseValue_nil depth) hbracket.1 hbracket.2 hrest)

end Values

end JsonText

/-- A document is read as it is with newlines for its line ends. -/
theorem loads_newlined [JsonLimits] [FloatText] {text text' : Units} (h : Newlined text text') :
    loads text = loads text' := by
  have hspace := JsonText.behind_skipSpace h
  have hvalue := JsonText.parseValue_newlined JsonLimits.depth hspace.newlined
  unfold loads
  generalize JsonText.parseValue JsonLimits.depth (JsonText.skipSpace text) = x at hvalue
  generalize JsonText.parseValue JsonLimits.depth (JsonText.skipSpace text') = x' at hvalue
  cases hvalue with
  | error e => rfl
  | ok value hbehind =>
    rename_i rest rest'
    have hlast := (JsonText.behind_skipSpace hbehind.newlined).newlined
    have hempty : JsonText.skipSpace rest = [] ↔ JsonText.skipSpace rest' = [] := by
      generalize JsonText.skipSpace rest = y at hlast
      generalize JsonText.skipSpace rest' = y' at hlast
      cases hlast <;> simp
    dsimp only
    rw [if_congr hempty rfl rfl]

end Py
