/-! SHA-1 of a byte string, which name-based UUIDs are made of. -/

namespace Py

namespace Sha1

structure State where
  a : BitVec 32
  b : BitVec 32
  c : BitVec 32
  d : BitVec 32
  e : BitVec 32

def initial : State := ⟨0x67452301, 0xefcdab89, 0x98badcfe, 0x10325476, 0xc3d2e1f0⟩

/-- The bytes of `value`, most significant first. -/
def bytesOf (count : Nat) (value : Nat) : List (BitVec 8) :=
  (List.range count).reverse.map fun i => BitVec.ofNat 8 (value >>> (8 * i))

/-- The big-endian words of a byte string. -/
def words : List (BitVec 8) → List (BitVec 32)
  | p :: q :: r :: s :: rest => (p ++ q ++ r ++ s) :: words rest
  | _ => []

/-- A one bit, zeros, and the length in bits: a whole number of blocks of 64 bytes. -/
def pad (message : List (BitVec 8)) : List (BitVec 8) :=
  message ++ 0x80 :: List.replicate ((119 - message.length % 64) % 64) 0 ++
    bytesOf 8 (8 * message.length)

/-- The round function and constant of round `t`. -/
def mix (t : Nat) (s : State) : BitVec 32 :=
  if t < 20 then ((s.b &&& s.c) ||| (~~~s.b &&& s.d)) + 0x5a827999
  else if t < 40 then (s.b ^^^ s.c ^^^ s.d) + 0x6ed9eba1
  else if t < 60 then ((s.b &&& s.c) ||| (s.b &&& s.d) ||| (s.c &&& s.d)) + 0x8f1bbcdc
  else (s.b ^^^ s.c ^^^ s.d) + 0xca62c1d6

/-- The last `rounds` of the 80 rounds; `schedule` holds the next 16 words of the message
schedule. -/
def rounds : Nat → List (BitVec 32) → State → State
  | 0, _, s => s
  | left + 1, schedule, s =>
    let word := schedule.getD 0 0
    let next :=
      (schedule.getD 13 0 ^^^ schedule.getD 8 0 ^^^ schedule.getD 2 0 ^^^ word).rotateLeft 1
    rounds left (schedule.drop 1 ++ [next])
      ⟨s.a.rotateLeft 5 + mix (79 - left) s + s.e + word, s.a, s.b.rotateLeft 30, s.c, s.d⟩

def block (s : State) (schedule : List (BitVec 32)) : State :=
  let out := rounds 80 schedule s
  ⟨s.a + out.a, s.b + out.b, s.c + out.c, s.d + out.d, s.e + out.e⟩

/-- The first `count` blocks of 16 words. -/
def blocks : Nat → List (BitVec 32) → State → State
  | 0, _, s => s
  | count + 1, message, s => blocks count (message.drop 16) (block s (message.take 16))

end Sha1

def sha1 (message : List (BitVec 8)) : BitVec 160 :=
  let padded := Sha1.words (Sha1.pad message)
  let s := Sha1.blocks (padded.length / 16) padded Sha1.initial
  s.a ++ s.b ++ s.c ++ s.d ++ s.e

example : sha1 [0x61, 0x62, 0x63] = 0xa9993e364706816aba3e25717850c26c9cd0d89d := by decide +kernel

end Py
