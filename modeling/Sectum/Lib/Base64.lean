import Sectum.Lib.Sha256

/-! `base64.b64encode` and `base64.b64decode`, which is `binascii.a2b_base64`: a scan that drops what
is outside the alphabet, unless it is strict. -/

namespace Py

namespace Base64

def alphabet : List Char :=
  "ABCDEFGHIJKLMNOPQRSTUVWXYZabcdefghijklmnopqrstuvwxyz0123456789+/".toList

def pad : UInt8 := 61

/-- The character of six bits. -/
def digit (value : Nat) : UInt8 := (alphabet.getD value 'A').toNat.toUInt8

def value (char : UInt8) : Option Nat := alphabet.idxOf? (Char.ofNat char.toNat)

def encode : Bytes → Bytes
  | [] => []
  | [a] => [digit (a.toNat / 4), digit (a.toNat % 4 * 16), pad, pad]
  | [a, b] =>
    [digit (a.toNat / 4), digit (a.toNat % 4 * 16 + b.toNat / 16), digit (b.toNat % 16 * 4), pad]
  | a :: b :: c :: rest =>
    digit (a.toNat / 4) :: digit (a.toNat % 4 * 16 + b.toNat / 16) ::
      digit (b.toNat % 16 * 4 + c.toNat / 64) :: digit (c.toNat % 64) :: encode rest

/-- The state of the scan: how many characters of the current four were read, the bits of the last
one that are still to be written, and the padding read since. -/
structure Scan where
  quad : Nat := 0
  leftover : Nat := 0
  pads : Nat := 0
  padding : Bool := false
  deriving DecidableEq, Repr

/-- Reads a character of the alphabet, which completes a byte unless it is the first of four. -/
def Scan.read (s : Scan) (value : Nat) : Bytes × Scan :=
  let s := { s with pads := 0 }
  match s.quad with
  | 0 => ([], { s with quad := 1, leftover := value })
  | 1 => ([(s.leftover * 4 + value / 16).toUInt8], { s with quad := 2, leftover := value % 16 })
  | 2 => ([(s.leftover * 16 + value / 4).toUInt8], { s with quad := 3, leftover := value % 4 })
  | _ => ([(s.leftover * 64 + value).toUInt8], { s with quad := 0, leftover := 0 })

/-- `binascii.a2b_base64(data, strict_mode=strict)`, where `none` is `binascii.Error`. -/
def scan (strict : Bool) (s : Scan) : Bytes → Option Bytes
  | [] => if s.quad = 0 then some [] else none
  | char :: chars =>
    if char = pad then
      if strict && s.quad = 0 then none
      else if 2 ≤ s.quad ∧ 4 ≤ s.quad + s.pads + 1 then
        -- the padding completes the last four characters, and nothing is read after it
        if strict && !chars.isEmpty then none else some []
      else
        scan strict
          { s with padding := true, pads := if 2 ≤ s.quad then s.pads + 1 else s.pads } chars
    else
      match value char with
      | none => if strict then none else scan strict s chars
      | some value =>
        if strict && s.padding then none
        else (scan strict (s.read value).2 chars).map ((s.read value).1 ++ ·)

def decode (strict : Bool) (data : Bytes) : Option Bytes := scan strict {} data

theorem value_digit {n : Nat} (h : n < 64) : value (digit n) = some n := by
  have hall : ∀ n : Fin 64, value (digit n) = some n.val := by decide +kernel
  exact hall ⟨n, h⟩

theorem digit_ne_pad {n : Nat} (h : n < 64) : digit n ≠ pad := by
  have hall : ∀ n : Fin 64, digit n ≠ pad := by decide +kernel
  exact hall ⟨n, h⟩

theorem digit_ascii {n : Nat} (h : n < 64) : (digit n).toNat < 0x80 := by
  have hall : ∀ n : Fin 64, (digit n).toNat < 0x80 := by decide +kernel
  exact hall ⟨n, h⟩

theorem encode_ascii (data : Bytes) : ∀ char ∈ encode data, char.toNat < 0x80 := by
  have hpad : pad.toNat < 0x80 := by decide
  induction data using encode.induct with
  | case1 => simp [encode]
  | case2 a =>
    have ha := a.toNat_lt
    simp only [encode, List.forall_mem_cons]
    exact ⟨digit_ascii (by omega), digit_ascii (by omega), hpad, hpad, by simp⟩
  | case3 a b =>
    have ha := a.toNat_lt
    have hb := b.toNat_lt
    simp only [encode, List.forall_mem_cons]
    exact ⟨digit_ascii (by omega), digit_ascii (by omega), digit_ascii (by omega), hpad, by simp⟩
  | case4 a b c rest ih =>
    have ha := a.toNat_lt
    have hb := b.toNat_lt
    have hc := c.toNat_lt
    simp only [encode, List.forall_mem_cons]
    exact ⟨digit_ascii (by omega), digit_ascii (by omega), digit_ascii (by omega),
      digit_ascii (by omega), ih⟩

theorem toUInt8_toNat (byte : UInt8) {n : Nat} (h : n % 256 = byte.toNat) : n.toUInt8 = byte := by
  apply UInt8.toNat_inj.mp
  rw [Nat.toUInt8, UInt8.toNat_ofNat', h]

/-- A digit is read whatever the mode, where no padding was. -/
theorem scan_digit (strict : Bool) {s : Scan} (hpadding : s.padding = false) {n : Nat} (h : n < 64)
    (chars : Bytes) : scan strict s (digit n :: chars) =
      (scan strict (s.read n).2 chars).map ((s.read n).1 ++ ·) := by
  rw [scan, if_neg (digit_ne_pad h), value_digit h, hpadding, Bool.and_false]
  rfl

/-- Decoding undoes encoding. -/
theorem decode_encode (strict : Bool) (data : Bytes) : decode strict (encode data) = some data := by
  unfold decode
  induction data using encode.induct with
  | case1 => rfl
  | case2 a =>
    have ha := a.toNat_lt
    rw [encode, scan_digit strict rfl (by omega), scan_digit strict rfl (by omega)]
    have hbyte := toUInt8_toNat a (n := a.toNat / 4 * 4 + a.toNat % 4 * 16 / 16) (by omega)
    simp only [Scan.read, hbyte]
    cases strict <;> rfl
  | case3 a b =>
    have ha := a.toNat_lt
    have hb := b.toNat_lt
    rw [encode, scan_digit strict rfl (by omega), scan_digit strict rfl (by omega),
      scan_digit strict rfl (by omega)]
    have hfirst := toUInt8_toNat a
      (n := a.toNat / 4 * 4 + (a.toNat % 4 * 16 + b.toNat / 16) / 16) (by omega)
    have hsecond := toUInt8_toNat b
      (n := (a.toNat % 4 * 16 + b.toNat / 16) % 16 * 16 + b.toNat % 16 * 4 / 4) (by omega)
    simp only [Scan.read, hfirst, hsecond]
    cases strict <;> rfl
  | case4 a b c rest ih =>
    have ha := a.toNat_lt
    have hb := b.toNat_lt
    have hc := c.toNat_lt
    rw [encode, scan_digit strict rfl (by omega), scan_digit strict rfl (by omega),
      scan_digit strict rfl (by omega), scan_digit strict rfl (by omega)]
    have hfirst := toUInt8_toNat a
      (n := a.toNat / 4 * 4 + (a.toNat % 4 * 16 + b.toNat / 16) / 16) (by omega)
    have hsecond := toUInt8_toNat b
      (n := (a.toNat % 4 * 16 + b.toNat / 16) % 16 * 16 + (b.toNat % 16 * 4 + c.toNat / 64) / 4)
      (by omega)
    have hthird := toUInt8_toNat c
      (n := (b.toNat % 16 * 4 + c.toNat / 64) % 4 * 64 + c.toNat % 64) (by omega)
    simp only [Scan.read, hfirst, hsecond, hthird, ih]
    rfl

end Base64

end Py
