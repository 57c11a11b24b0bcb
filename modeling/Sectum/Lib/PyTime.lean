import Mathlib.Data.Int.Notation
import Mathlib.Data.List.TakeWhile

/-! The calendar behind `datetime.isoformat`. -/

namespace Py

/-- The year, month and day of a count of days since 1970-01-01, in the proleptic Gregorian
calendar.  The count is shifted to 0000-03-01, so that a leap day ends a year. -/
def civil (days : Int) : Int × Int × Int :=
  let shifted := days + 719468
  let era := shifted / 146097
  let dayOfEra := shifted % 146097
  let yearOfEra := (dayOfEra - dayOfEra / 1460 + dayOfEra / 36524 - dayOfEra / 146096) / 365
  let dayOfYear := dayOfEra - (365 * yearOfEra + yearOfEra / 4 - yearOfEra / 100)
  let march := (5 * dayOfYear + 2) / 153
  let day := dayOfYear - (153 * march + 2) / 5 + 1
  let month := if march < 10 then march + 3 else march - 9
  (yearOfEra + era * 400 + (if month ≤ 2 then 1 else 0), month, day)

/-- A count in decimal, with zeros in front up to `width` digits. -/
def padded (width : Nat) (n : Int) : String :=
  let digits := Nat.toDigits 10 n.toNat
  String.ofList (List.replicate (width - digits.length) '0' ++ digits)

/-- `isoformat()` of a naive value whose clock reads `micros`. -/
def isoformatClock (micros : Int) : String :=
  let seconds := micros / 1000000
  let fraction := micros % 1000000
  let (year, month, day) := civil (seconds / 86400)
  let clock := seconds % 86400
  padded 4 year ++ "-" ++ padded 2 month ++ "-" ++ padded 2 day ++ "T" ++ padded 2 (clock / 3600)
    ++ ":" ++ padded 2 (clock / 60 % 60) ++ ":" ++ padded 2 (clock % 60)
    ++ (if fraction = 0 then "" else "." ++ padded 6 fraction)

/-- `isoformat()` of the UTC instant `micros` microseconds after 1970-01-01T00:00:00. -/
def isoformatUtc (micros : Int) : String := isoformatClock micros ++ "+00:00"

/-- A UTC offset in microseconds, as `isoformat` writes it. -/
def offsetText (micros : Int) : String :=
  let size : Int := micros.natAbs
  (if micros < 0 then "-" else "+") ++ padded 2 (size / 3600000000) ++ ":" ++
    padded 2 (size / 60000000 % 60) ++
    (if size % 60000000 = 0 then ""
    else ":" ++ padded 2 (size / 1000000 % 60) ++
      (if size % 1000000 = 0 then "" else "." ++ padded 6 (size % 1000000)))

section Offset

theorem padded_digits (width : Nat) (n : Int) : ∀ c ∈ (padded width n).toList, c.isDigit = true := by
  intro c hc
  rw [padded, String.toList_ofList] at hc
  rcases List.mem_append.mp hc with hzero | hdigit
  · rw [List.eq_of_mem_replicate hzero]
    rfl
  · exact Nat.isDigit_of_mem_toDigits (by decide) (by decide) hdigit

theorem ofDigitChars_padded (width : Nat) (n : Int) :
    Nat.ofDigitChars 10 (padded width n).toList 0 = n.toNat := by
  rw [padded, String.toList_ofList, Nat.ofDigitChars_append, Nat.ofDigitChars_replicate_zero,
    Nat.mul_zero, Nat.ofDigitChars_ten_toDigits]

/-- Digits end where something else follows. -/
theorem digits_append {digits rest : List Char} (hdigits : ∀ c ∈ digits, c.isDigit = true)
    (hrest : ∀ c ∈ rest.head?, c.isDigit = false) :
    (digits ++ rest).takeWhile Char.isDigit = digits ∧
      (digits ++ rest).dropWhile Char.isDigit = rest := by
  have hstop : rest.takeWhile Char.isDigit = [] ∧ rest.dropWhile Char.isDigit = rest := by
    cases rest with
    | nil => exact ⟨rfl, rfl⟩
    | cons c rest => simp [hrest c rfl]
  rw [List.takeWhile_append_of_pos hdigits, List.dropWhile_append_of_pos hdigits, hstop.1, hstop.2,
    List.append_nil]
  exact ⟨rfl, rfl⟩

theorem padded_eq_zeros {width : Nat} {n : Int} (hn : 0 ≤ n) {rest rest' : List Char}
    (hrest : ∀ c ∈ rest.head?, c.isDigit = false) (hrest' : ∀ c ∈ rest'.head?, c.isDigit = false)
    (h : (padded width n).toList ++ rest = ['0', '0'] ++ rest') : n = 0 ∧ rest = rest' := by
  obtain ⟨htake, hdrop⟩ := digits_append (padded_digits width n) hrest
  obtain ⟨htake', hdrop'⟩ := @digits_append ['0', '0'] rest' (List.all_eq_true.mp rfl) hrest'
  rw [h] at htake hdrop
  have hvalue : Nat.ofDigitChars 10 ['0', '0'] 0 = n.toNat := by
    rw [← ofDigitChars_padded width n, ← htake, htake']
  have hzero : Nat.ofDigitChars 10 ['0', '0'] 0 = 0 := by decide
  exact ⟨by omega, hdrop.symm.trans hdrop'⟩

/-- What follows the last character of a kind. -/
theorem after_last {α : Type} {p : α → Bool} {before before' after after' : List α} {a a' : α}
    (ha : p a = true) (ha' : p a' = true) (hafter : ∀ x ∈ after, p x = false)
    (hafter' : ∀ x ∈ after', p x = false) (h : before ++ a :: after = before' ++ a' :: after') :
    after = after' := by
  have hrest : ∀ {before after : List α} {a : α}, p a = true → (∀ x ∈ after, p x = false) →
      (before ++ a :: after).reverse.takeWhile (fun x => !p x) = after.reverse := by
    intro before after a ha hafter
    rw [List.reverse_append, List.reverse_cons, List.append_assoc,
      List.takeWhile_append_of_pos (by simpa using hafter)]
    simp [ha]
  apply List.reverse_inj.mp
  rw [← hrest ha hafter, ← hrest ha' hafter', h]

def isSign (c : Char) : Bool := c = '+' || c = '-'

/-- The seconds of an offset. -/
def offsetSeconds (micros : Int) : List Char :=
  let size : Int := micros.natAbs
  if size % 60000000 = 0 then []
  else ':' :: ((padded 2 (size / 1000000 % 60)).toList ++
    if size % 1000000 = 0 then [] else '.' :: (padded 6 (size % 1000000)).toList)

theorem offsetText_toList (micros : Int) : ∃ sign, isSign sign = true ∧
    (offsetText micros).toList = sign :: ((padded 2 ((micros.natAbs : Int) / 3600000000)).toList ++
      ':' :: ((padded 2 ((micros.natAbs : Int) / 60000000 % 60)).toList ++ offsetSeconds micros)) := by
  refine ⟨if micros < 0 then '-' else '+', ?_, ?_⟩
  · split <;> rfl
  · unfold offsetText offsetSeconds
    dsimp only
    split_ifs <;> simp

theorem isSign_of_isDigit {c : Char} (h : c.isDigit = true) : isSign c = false := by
  rw [isSign, Bool.or_eq_false_iff, decide_eq_false_iff_not, decide_eq_false_iff_not]
  constructor <;> rintro rfl <;> cases h

theorem offsetSeconds_signs (micros : Int) : ∀ c ∈ offsetSeconds micros, isSign c = false := by
  have hpadded : ∀ width n, ∀ c ∈ (padded width n).toList, isSign c = false :=
    fun width n c hc => isSign_of_isDigit (padded_digits width n c hc)
  unfold offsetSeconds
  dsimp only
  split_ifs
  · nofun
  · simpa using ⟨rfl, hpadded _ _⟩
  · refine List.forall_mem_cons.mpr ⟨rfl, List.forall_mem_append.mpr ⟨hpadded _ _, ?_⟩⟩
    exact List.forall_mem_cons.mpr ⟨rfl, hpadded _ _⟩

/-- Only the offset of UTC is written as the one of UTC is. -/
theorem offset_eq_zero {clock clock' : String} {micros : Int}
    (h : clock ++ offsetText micros = clock' ++ "+00:00") : micros = 0 := by
  obtain ⟨sign, hsign, htext⟩ := offsetText_toList micros
  have hpadded : ∀ n, ∀ c ∈ (padded 2 n).toList, isSign c = false :=
    fun n c hc => isSign_of_isDigit (padded_digits 2 n c hc)
  have hlists := congrArg String.toList h
  rw [String.toList_append, String.toList_append, htext] at hlists
  have hbody := List.forall_mem_append.mpr ⟨hpadded ((micros.natAbs : Int) / 3600000000),
    List.forall_mem_cons.mpr ⟨(rfl : isSign ':' = false), List.forall_mem_append.mpr
      ⟨hpadded ((micros.natAbs : Int) / 60000000 % 60), offsetSeconds_signs micros⟩⟩⟩
  have hzeros : ∀ c ∈ ['0', '0'] ++ [':', '0', '0'], isSign c = false := by
    simp [isSign]
  have hafter := after_last hsign (rfl : isSign '+' = true) hbody hzeros hlists
  obtain ⟨hhours, hrest⟩ := padded_eq_zeros (by omega) (by simp) (by simp) hafter
  have hseconds : ∀ c ∈ (offsetSeconds micros).head?, c.isDigit = false := by
    unfold offsetSeconds
    dsimp only
    split
    · nofun
    · simp
  have hminutesText : (padded 2 ((micros.natAbs : Int) / 60000000 % 60)).toList ++
      offsetSeconds micros = ['0', '0'] ++ [] := (List.cons.inj hrest).2
  obtain ⟨hminutes, hnone⟩ := padded_eq_zeros (by omega) hseconds (by simp) hminutesText
  have hwhole : (micros.natAbs : Int) % 60000000 = 0 := by
    unfold offsetSeconds at hnone
    dsimp only at hnone
    split at hnone
    · assumption
    · cases hnone
  omega

end Offset

example : isoformatUtc 1709251199000001 = "2024-02-29T23:59:59.000001+00:00" := by decide

end Py
