import Sectum.Lib.PyText
import Sectum.Lib.Sha1

/-! SHA-256 of a byte string. -/

namespace Py

abbrev Bytes := List UInt8

namespace Sha256

structure State where
  a : BitVec 32
  b : BitVec 32
  c : BitVec 32
  d : BitVec 32
  e : BitVec 32
  f : BitVec 32
  g : BitVec 32
  h : BitVec 32

def initial : State :=
  ⟨0x6a09e667, 0xbb67ae85, 0x3c6ef372, 0xa54ff53a, 0x510e527f, 0x9b05688c, 0x1f83d9ab, 0x5be0cd19⟩

def constants : List (BitVec 32) :=
  [0x428a2f98, 0x71374491, 0xb5c0fbcf, 0xe9b5dba5, 0x3956c25b, 0x59f111f1, 0x923f82a4, 0xab1c5ed5,
    0xd807aa98, 0x12835b01, 0x243185be, 0x550c7dc3, 0x72be5d74, 0x80deb1fe, 0x9bdc06a7, 0xc19bf174,
    0xe49b69c1, 0xefbe4786, 0x0fc19dc6, 0x240ca1cc, 0x2de92c6f, 0x4a7484aa, 0x5cb0a9dc, 0x76f988da,
    0x983e5152, 0xa831c66d, 0xb00327c8, 0xbf597fc7, 0xc6e00bf3, 0xd5a79147, 0x06ca6351, 0x14292967,
    0x27b70a85, 0x2e1b2138, 0x4d2c6dfc, 0x53380d13, 0x650a7354, 0x766a0abb, 0x81c2c92e, 0x92722c85,
    0xa2bfe8a1, 0xa81a664b, 0xc24b8b70, 0xc76c51a3, 0xd192e819, 0xd6990624, 0xf40e3585, 0x106aa070,
    0x19a4c116, 0x1e376c08, 0x2748774c, 0x34b0bcb5, 0x391c0cb3, 0x4ed8aa4a, 0x5b9cca4f, 0x682e6ff3,
    0x748f82ee, 0x78a5636f, 0x84c87814, 0x8cc70208, 0x90befffa, 0xa4506ceb, 0xbef9a3f7, 0xc67178f2]

/-- One round for each constant; `schedule` holds the next 16 words of the message schedule. -/
def rounds : List (BitVec 32) → List (BitVec 32) → State → State
  | [], _, s => s
  | constant :: constants, schedule, s =>
    let word := schedule.getD 0 0
    let near := schedule.getD 1 0
    let far := schedule.getD 14 0
    let next := word + (near.rotateRight 7 ^^^ near.rotateRight 18 ^^^ near >>> 3) +
      schedule.getD 9 0 + (far.rotateRight 17 ^^^ far.rotateRight 19 ^^^ far >>> 10)
    let mixed := s.h + (s.e.rotateRight 6 ^^^ s.e.rotateRight 11 ^^^ s.e.rotateRight 25) +
      ((s.e &&& s.f) ^^^ (~~~s.e &&& s.g)) + constant + word
    let carried := (s.a.rotateRight 2 ^^^ s.a.rotateRight 13 ^^^ s.a.rotateRight 22) +
      ((s.a &&& s.b) ^^^ (s.a &&& s.c) ^^^ (s.b &&& s.c))
    rounds constants (schedule.drop 1 ++ [next])
      ⟨mixed + carried, s.a, s.b, s.c, s.d + mixed, s.e, s.f, s.g⟩

def block (s : State) (schedule : List (BitVec 32)) : State :=
  let out := rounds constants schedule s
  ⟨s.a + out.a, s.b + out.b, s.c + out.c, s.d + out.d, s.e + out.e, s.f + out.f, s.g + out.g,
    s.h + out.h⟩

/-- The first `count` blocks of 16 words. -/
def blocks : Nat → List (BitVec 32) → State → State
  | 0, _, s => s
  | count + 1, message, s => blocks count (message.drop 16) (block s (message.take 16))

end Sha256

def sha256 (message : Bytes) : Bytes :=
  let padded := Sha1.words (Sha1.pad (message.map UInt8.toBitVec))
  let s := Sha256.blocks (padded.length / 16) padded Sha256.initial
  [s.a, s.b, s.c, s.d, s.e, s.f, s.g, s.h].flatMap fun word =>
    (Sha1.bytesOf 4 word.toNat).map UInt8.ofBitVec

theorem sha256_length (message : Bytes) : (sha256 message).length = 32 := rfl

/-- `hashlib.sha256(data).digest()`, as far as it is relied on: a digest has 32 bytes. -/
class Hashlib where
  sha256 : Bytes → Bytes
  sha256_length : ∀ data, (sha256 data).length = 32

@[reducible] def Hashlib.real : Hashlib := ⟨Py.sha256, Py.sha256_length⟩

/-- `data.hex()`. -/
def hexBytes (data : Bytes) : String := String.join (data.map fun byte => hex 2 byte.toNat)

/-- Blocks of one length, by which the items are told apart, tell lists of items apart. -/
theorem flatMap_injective {α β : Type} {f : α → List β} {size : Nat} (hsize : 0 < size)
    (hlength : ∀ a, (f a).length = size) (hf : Function.Injective f) :
    Function.Injective (List.flatMap f) := by
  intro items
  induction items with
  | nil =>
    intro other h
    cases other with
    | nil => rfl
    | cons b other =>
      have hlengths := congrArg List.length h
      have hb := hlength b
      simp only [List.flatMap_nil, List.flatMap_cons, List.length_nil, List.length_append] at hlengths
      omega
  | cons a items ih =>
    intro other h
    have ha := hlength a
    cases other with
    | nil =>
      have hlengths := congrArg List.length h
      simp only [List.flatMap_nil, List.flatMap_cons, List.length_nil, List.length_append] at hlengths
      omega
    | cons b other =>
      rw [List.flatMap_cons, List.flatMap_cons] at h
      obtain ⟨hfirst, hrest⟩ := List.append_inj h (ha.trans (hlength b).symm)
      rw [hf hfirst, ih hrest]

def readHex (digits : List Char) : Nat :=
  digits.foldl (fun n c => 16 * n + (if c.isDigit then c.toNat - 48 else c.toNat - 87)) 0

theorem hex_byte (byte : UInt8) :
    (hex 2 byte.toNat).toList.length = 2 ∧ readHex (hex 2 byte.toNat).toList = byte.toNat := by
  have hall : ∀ n : Fin 256, (hex 2 n).toList.length = 2 ∧ readHex (hex 2 n).toList = n.val := by
    decide +kernel
  exact hall ⟨byte.toNat, byte.toNat_lt⟩

/-- Byte strings are told apart by their digits. -/
theorem hexBytes_injective : Function.Injective hexBytes := by
  have htext : ∀ data : Bytes,
      (hexBytes data).toList = data.flatMap fun byte => (hex 2 byte.toNat).toList := by
    intro data
    rw [hexBytes, String.toList_join, List.flatMap_map]
  have hbyte : Function.Injective fun byte : UInt8 => (hex 2 byte.toNat).toList := by
    intro a b h
    apply UInt8.toNat_inj.mp
    rw [← (hex_byte a).2, ← (hex_byte b).2]
    exact congrArg readHex h
  intro data other h
  apply flatMap_injective Nat.two_pos (fun byte => (hex_byte byte).1) hbyte
  exact (htext data).symm.trans ((congrArg String.toList h).trans (htext other))

/-- `hashlib.sha256(data).hexdigest()`. -/
def hexdigest [Hashlib] (data : Bytes) : String := hexBytes (Hashlib.sha256 data)

example : hexBytes (sha256 [0x61, 0x62, 0x63]) =
    "ba7816bf8f01cfea414140de5dae2223b00361a396177a9cb410ff61f20015ad" := by decide +kernel

end Py
