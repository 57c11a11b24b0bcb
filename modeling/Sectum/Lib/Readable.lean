import Sectum.Lib.PyTime
import Sectum.Lib.Sha256

/-! Texts that can be read back: numbers in hexadecimal and decimal digits, and codes of which no word
begins another. -/

namespace Py

section Hexadecimal

/-- `[0-9a-f]`. -/
def isHexDigit (c : Char) : Bool := c.isDigit || ('a' ≤ c && c ≤ 'f')

theorem readHex_append (digits : List Char) (c : Char) :
    readHex (digits ++ [c]) = 16 * readHex digits + readHex [c] := by
  simp [readHex, List.foldl_append]

theorem digitChar_hex {n : Nat} (h : n < 16) :
    readHex [n.digitChar] = n ∧ isHexDigit n.digitChar = true := by
  have hall : ∀ m : Fin 16, readHex [m.val.digitChar] = m.val ∧ isHexDigit m.val.digitChar = true := by
    decide
  exact hall ⟨n, h⟩

theorem toDigits_hex (n : Nat) :
    readHex (Nat.toDigits 16 n) = n ∧ ∀ c ∈ Nat.toDigits 16 n, isHexDigit c = true := by
  induction n using Nat.strongRecOn with
  | ind n ih =>
    rw [Nat.toDigits_eq_if (by decide)]
    split
    · rename_i hlt
      obtain ⟨hread, hdigit⟩ := digitChar_hex hlt
      exact ⟨hread, by simpa using hdigit⟩
    · rename_i hge
      obtain ⟨hread, hdigit⟩ := digitChar_hex (Nat.mod_lt n (by decide : 0 < 16))
      obtain ⟨ihread, ihdigits⟩ := ih (n / 16) (Nat.div_lt_self (by omega) (by decide))
      refine ⟨?_, fun c hc => ?_⟩
      · rw [readHex_append, ihread, hread]
        exact Nat.div_add_mod n 16
      · rcases List.mem_append.mp hc with hc | hc
        · exact ihdigits c hc
        · rw [List.mem_singleton.mp hc]
          exact hdigit

theorem readHex_zeros (count : Nat) (digits : List Char) :
    readHex (List.replicate count '0' ++ digits) = readHex digits := by
  induction count with
  | zero => rfl
  | succ count ih => rw [List.replicate_succ, List.cons_append, ← ih]; rfl

theorem readHex_hex (width n : Nat) : readHex (hex width n).toList = n := by
  rw [hex, String.toList_ofList, readHex_zeros]
  exact (toDigits_hex n).1

theorem hex_injective (width : Nat) : Function.Injective (hex width) := fun m n h => by
  rw [← readHex_hex width m, h, readHex_hex]

theorem isHexDigit_hex (width n : Nat) : ∀ c ∈ (hex width n).toList, isHexDigit c = true := by
  intro c hc
  rw [hex, String.toList_ofList] at hc
  rcases List.mem_append.mp hc with hzero | hdigit
  · rw [List.eq_of_mem_replicate hzero]
    rfl
  · exact (toDigits_hex n).2 c hdigit

/-- The width of a number is met exactly, where its digits fit. -/
theorem hex_length {width n : Nat} (hwidth : 0 < width) (h : n < 16 ^ width) :
    (hex width n).toList.length = width := by
  have hdigits : (Nat.toDigits 16 n).length ≤ width :=
    (Nat.length_toDigits_le_iff (by decide) hwidth).mpr h
  rw [hex, String.toList_ofList, List.length_append, List.length_replicate]
  omega

end Hexadecimal

section Decimal

theorem padded_injective (width : Nat) : Function.Injective fun n : Nat => padded width n := by
  intro m n h
  have hvalue := congrArg (fun text => Nat.ofDigitChars 10 text.toList 0) h
  simpa only [ofDigitChars_padded, Int.toNat_natCast] using hvalue

/-- A number is read back up to what follows its digits. -/
theorem padded_append_injective {width m n : Nat} {rest rest' : List Char}
    (hrest : ∀ c ∈ rest.head?, c.isDigit = false) (hrest' : ∀ c ∈ rest'.head?, c.isDigit = false)
    (h : (padded width m).toList ++ rest = (padded width n).toList ++ rest') :
    m = n ∧ rest = rest' := by
  obtain ⟨htake, hdrop⟩ := digits_append (padded_digits width m) hrest
  obtain ⟨htake', hdrop'⟩ := digits_append (padded_digits width n) hrest'
  rw [h] at htake hdrop
  exact ⟨padded_injective width (String.toList_injective (htake.symm.trans htake')),
    hdrop.symm.trans hdrop'⟩

end Decimal

section PrefixCode

variable {α β : Type}

/-- Words of a code that are not empty, and of which none begins another, are told apart in any
concatenation. -/
theorem flatMap_injective_of_prefix {code : α → List β} (hne : ∀ a, code a ≠ [])
    (hstart : ∀ {a b rest rest'}, code a ++ rest = code b ++ rest' → a = b) :
    Function.Injective (List.flatMap code) := by
  intro items
  induction items with
  | nil =>
    intro others h
    cases others with
    | nil => rfl
    | cons b others => simp [hne b] at h
  | cons a items ih =>
    intro others h
    cases others with
    | nil => simp [hne a] at h
    | cons b others =>
      rw [List.flatMap_cons, List.flatMap_cons] at h
      obtain rfl := hstart h
      rw [ih (List.append_cancel_left h)]

end PrefixCode

end Py
